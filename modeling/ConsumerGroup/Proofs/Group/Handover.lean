import ConsumerGroup.Proofs.Broker.Frame
import ConsumerGroup.Proofs.Broker.Queue
import ConsumerGroup.Proofs.Broker.Reading

/-!
# Between a poll and its application

Whoever uses a transport by itself polls a notification and applies it
later, and meanwhile anything may happen. A desk keeps what each member
has in hand: polled, and not applied yet.

A rebalance takes away what a member effectively holds, and what is in
hand is not part of that: it waits no longer and is not held yet. So a
rebalance that comes upon a member with a share in hand, and nothing
waiting, takes nothing away. It hands out the next share at once
(`Desk.overtakes`), and the member gets that while it holds the first.

This is the one way in which a share comes to a member that still holds
something: `Reached.held_iff_overtaken` says so of every run in which
members apply what they poll before they poll again.

The invariant ties what is in hand to what waits (`InStep`), and is proved
for each kind of move. Who polls again before it has applied what it has in
hand loses that, and is left out.
-/

namespace ConsumerGroup

/-- The notification hands out a share, an empty one included. -/
def Queued.isShare (q : Queued) : Bool := q.code = .assignPartitions

/-- The notification hands something out. -/
def Queued.grants (q : Queued) : Bool := q.isShare && !q.partitions.isEmpty

/-- The notification that an event is, as it was queued. -/
def Event.queued? : Event → Option Queued
  | .rebalance code partitions => some ⟨code, partitions⟩
  | .message _ => none

/-- A share is the next that the member will poll. -/
def Member.nextIsShare (m : Member) : Bool := m.queue.head?.any Queued.isShare

/-! ## Desks -/

/-- A broker, what each member has in hand, and whether that has been
overtaken by a later share. -/
structure Desk where
  broker : Broker := {}
  hand : String → Option Queued := fun _ => none
  overtaken : String → Bool := fun _ => false

/-- A step of members that poll and apply by themselves. -/
inductive Move where
  /-- Somebody asks the broker for something. -/
  | asked (r : Request)
  /-- A member polls. -/
  | polled (id : String)
  /-- A member applies what it has in hand. -/
  | applied (id : String)

/-- The member gives up what it reads. -/
def Request.givesUp (id : String) : Request → Bool
  | .member id' .unassign => id' = id
  | _ => false

/-- What the member is to ask for when it applies the notification. -/
def Queued.application (q : Queued) : MemberRequest :=
  if q.code = .assignPartitions then .assign q.partitions else .unassign

namespace Desk

/-- The member has a share in hand that is not empty, nothing waits for it,
and now it is handed the next share. -/
def overtakes (s : Desk) (b : Broker) (id : String) : Bool :=
  (s.hand id).any Queued.grants && (s.broker.member? id).any (·.queue.isEmpty) &&
    (b.member? id).any (·.nextIsShare)

/-- The desk after a step. -/
def after (s : Desk) : Move → Desk
  | .asked r =>
    let b := (s.broker.perform r).broker
    { s with
      broker := b
      overtaken := fun id =>
        s.overtakes b id || (s.overtaken id && !(r.givesUp id && (s.hand id).isNone)) }
  | .polled id =>
    let e := s.broker.nextEvent id
    { broker := e.broker
      hand := Function.update s.hand id (e.result.toOption.join.bind Event.queued?)
      overtaken := Function.update s.overtaken id false }
  | .applied id =>
    match s.hand id with
    | none => s
    | some q =>
      { s with
        broker := (s.broker.performFor id q.application).broker
        hand := Function.update s.hand id none }

/-- Members apply what they have in hand before they poll again, and assign
nothing else to themselves; nobody sends notifications by hand. -/
def Allows (s : Desk) : Move → Prop
  | .asked (.notify ..) => False
  | .asked (.member _ .next) => False
  | .asked (.member _ (.assign _)) => False
  | .asked _ => True
  | .polled id => s.hand id = none
  | .applied _ => True

/-- The desks of all such runs, whatever reads the patterns. -/
inductive Reached : Desk → Prop
  | start (patterns : PatternReader) : Reached { broker := { patterns } }
  | step {s : Desk} {m : Move} (hs : Reached s) (ha : s.Allows m) : Reached (s.after m)

end Desk

/-! ## What a rebalance puts first -/

/-- A rebalance hands out nothing before it has taken away what is held. -/
theorem nextIsShare_rebalanced (g : String) (m : Member) (s : Option (List Partition))
    (h : m.queue ≠ [] ∨ m.held ≠ []) : (m.rebalanced g s).nextIsShare = m.nextIsShare := by
  by_cases hg : m.group = g
  · rw [Member.rebalanced_of_eq hg]
    unfold Member.nextIsShare
    dsimp only
    cases hq : m.queue with
    | cons q rest => rfl
    | nil =>
      have hheld : m.held ≠ [] := h.resolve_left fun h => h hq
      unfold dealtNotices
      rw [isEmpty_effectiveAssignment, hq, heldAfter_nil, if_neg (by simpa using hheld)]
      rfl
  · rw [Member.rebalanced_of_ne hg]

/-- Nothing that is dealt to a member comes first if something waits already,
or before what is held has been taken away. -/
theorem Member.Dealt.nextIsShare {all : List Partition} {m m' : Member} (h : m.Dealt all m')
    (hm : m.queue ≠ [] ∨ m.held ≠ []) :
    m'.nextIsShare = m.nextIsShare ∧ (m'.queue ≠ [] ∨ m'.held ≠ []) := by
  induction h with
  | refl => exact ⟨rfl, hm⟩
  | resubscribed _ _ ih => exact ih
  | @rebalanced m' g s _ _ ih =>
    refine ⟨(nextIsShare_rebalanced g m' s ih.2).trans ih.1, ?_⟩
    by_cases hg : m'.group = g
    · rw [Member.rebalanced_of_eq hg]
      exact ih.2.imp_left fun hq => by simp [hq]
    · rw [Member.rebalanced_of_ne hg]
      exact ih.2

/-! ## The invariant -/

/-- A notification as a rebalance queues it. -/
def Queued.Plain (all : List Partition) (q : Queued) : Prop :=
  (q.code = .assignPartitions ∧ q.partitions.partitions.Sublist all) ∨ q.code = .revokePartitions

/-- The member keeps step with its group: what waits is orderly for whoever
holds nothing, and a share that comes first finds the member with
something in its hands just if the share it was given was overtaken. -/
structure InStep (all : List Partition) (hand : Option Queued) (overtaken : Bool) (m : Member) :
    Prop where
  plain : ∀ q ∈ m.queue, q.Plain all
  orderly : Orderly [] m.queue
  idle : hand = none → (overtaken = true ↔ m.held ≠ [] ∧ m.nextIsShare = true)
  busy : ∀ q, hand = some q → q.Plain all ∧
    (overtaken = true ↔ q.grants = true ∧ m.nextIsShare = true)

theorem Queued.Plain.mono {all all' : List Partition} {q : Queued} (h : q.Plain all)
    (hall : all.Sublist all') : q.Plain all' := h.imp_left fun ⟨hc, hs⟩ => ⟨hc, hs.trans hall⟩

/-- What a rebalance queues is plain: a share of what there is, or a
revocation. -/
theorem plain_dealtNotices {all : List Partition} {m : Member} {s : Option (List Partition)}
    (hs : (s.getD []).Sublist all) {q : Queued} (hq : q ∈ dealtNotices m s) : q.Plain all := by
  by_cases hc : q.code = .assignPartitions
  · exact .inl ⟨hc, eq_share_of_mem_dealtNotices hq hc ▸ hs⟩
  · refine .inr ?_
    unfold dealtNotices at hq
    rcases List.mem_append.mp hq with hq | hq
    · split at hq
      · cases hq
      · rw [List.mem_singleton.mp hq]
    · cases s with
      | none => cases hq
      | some ps =>
        rw [List.mem_singleton.mp hq] at hc
        exact absurd rfl hc

/-- What is dealt to a member is plain. -/
theorem Member.Dealt.plain {all : List Partition} {m m' : Member} (h : m.Dealt all m')
    (hp : ∀ q ∈ m.queue, q.Plain all) : ∀ q ∈ m'.queue, q.Plain all := by
  induction h with
  | refl => exact hp
  | resubscribed _ _ ih => exact ih
  | @rebalanced m' g s hs _ ih =>
    by_cases hg : m'.group = g
    · rw [Member.rebalanced_of_eq hg]
      intro q hq
      rcases List.mem_append.mp hq with hq | hq
      · exact ih q hq
      · exact plain_dealtNotices hs hq
    · rw [Member.rebalanced_of_ne hg]
      exact ih

/-- What is dealt to a member is orderly for whoever holds nothing. -/
theorem Member.Dealt.orderly {all : List Partition} {m m' : Member} (h : m.Dealt all m')
    (ho : Orderly [] m.queue) : Orderly [] m'.queue := by
  induction h with
  | refl => exact ho
  | resubscribed _ _ ih => exact ih
  | @rebalanced m' g s hs _ ih =>
    by_cases hg : m'.group = g
    · rw [Member.rebalanced_of_eq hg]
      refine orderly_append.mpr ⟨ih, ?_⟩
      have hnotices := orderly_dealtNotices m' s
      rcases heldAfter_nothing m'.held m'.queue with he | he
      · rwa [he]
      · rw [he]
        exact hnotices.of_nothing
    · rw [Member.rebalanced_of_ne hg]
      exact ih

/-- What is dealt keeps a member in step; it overtakes what is in hand if
that grants something, nothing waited, and a share comes first now. -/
theorem InStep.dealt {all all' : List Partition} {hand : Option Queued} {overtaken : Bool}
    {m m' : Member} (h : InStep all hand overtaken m) (hall : all.Sublist all')
    (hd : m.Dealt all' m') :
    InStep all' hand
      (hand.any Queued.grants && m.queue.isEmpty && m'.nextIsShare || overtaken) m' := by
  have hplain := hd.plain fun q hq => (h.plain q hq).mono hall
  have hheld : m'.held = m.held := congrArg (List.map Slot.partition) hd.frame.2.2
  refine ⟨hplain, hd.orderly h.orderly, ?_, fun q hq => ⟨(h.busy q hq).1.mono hall, ?_⟩⟩
  · intro hnone
    have hidle := h.idle hnone
    simp only [hnone, Option.any_none, Bool.false_and, Bool.false_or, hheld]
    by_cases hm : m.held = []
    · simpa [hm] using hidle
    · rw [hidle, (hd.nextIsShare (.inr hm)).1]
  · have hbusy := (h.busy q hq).2
    simp only [hq, Option.any_some]
    by_cases hm : m.queue = []
    · have hnext : m.nextIsShare = false := by simp [Member.nextIsShare, hm]
      have hover : overtaken = false := by simpa [hnext] using hbusy
      simp [hm, hover]
    · rw [(hd.nextIsShare (.inl hm)).1]
      simpa [hm] using hbusy

/-- To apply a plain notification is never refused, and leaves the member
with what the notification says. -/
theorem exists_broker_application {b : Broker} {id : String} {m : Member}
    (hm : b.member? id = some m) {q : Queued} (hq : q.Plain b.topics.partitions) :
    ∃ assignment : List Slot,
      (b.performFor id q.application).broker =
        b.modifyMember id (fun m => { m with assignment, cursor := 0 }) ∧
      assignment.map (·.partition) = q.leaves m.held := by
  unfold Queued.application
  rcases hq with ⟨hc, hsub⟩ | hc
  · obtain ⟨hnodup, slots, hslots⟩ := Broker.assignable m hsub
    refine ⟨slots, ?_, ?_⟩
    · simp only [if_pos hc, Broker.performFor, Broker.assign, if_neg hnodup, hm, hslots,
        Broker.broker_map]
    · rw [Queued.leaves_of_assign hc, Broker.map_partition_slots hslots]
  · have hne : q.code ≠ .assignPartitions := by simp [hc]
    refine ⟨[], ?_, ?_⟩
    · simp only [if_neg hne, Broker.performFor, Broker.unassign, hm, Broker.broker_map]
    · rw [Queued.leaves_of_revoke hc]
      rfl

/-- Whoever is gone applies nothing. -/
theorem broker_application_of_gone {b : Broker} {id : String} (hm : b.member? id = none)
    (q : Queued) : (b.performFor id q.application).broker = b := by
  unfold Queued.application
  split
  · simp only [Broker.performFor, Broker.assign, hm, Broker.broker_map]
    split <;> rfl
  · simp only [Broker.performFor, Broker.unassign, hm, Broker.broker_map]
    rfl

/-- What is plain hands something out just where it leaves the member with
something. -/
theorem Queued.Plain.grants_iff {all : List Partition} {q : Queued} (h : q.Plain all)
    (held : List Partition) : q.grants = true ↔ q.leaves held ≠ [] := by
  unfold grants isShare
  rcases h with ⟨hc, _⟩ | hc
  · rw [leaves_of_assign hc]
    simp [hc, PartitionList.partitions]
  · rw [leaves_of_revoke hc]
    simp [hc]

namespace Desk

/-- Everybody keeps step, and nobody who is yet to join has anything in
hand. -/
structure Tidy (s : Desk) : Prop where
  sound : s.broker.Sound
  joined : ∀ id, (s.hand id).isSome ∨ s.overtaken id = true →
    ∃ client n, n ≤ s.broker.joined ∧ id = client ++ "-" ++ toString n
  members : ∀ m ∈ s.broker.members,
    InStep s.broker.topics.partitions (s.hand m.id) (s.overtaken m.id) m

variable {s : Desk}

/-- A member is overtaken where it has something in hand that it was dealt,
nothing waited for it, and a share is what it will poll next. -/
theorem overtakes_eq {b : Broker} (hs : s.broker.Sound) (hb : b.Sound) {m m' : Member}
    (hm : m ∈ s.broker.members) (hm' : m' ∈ b.members) (hid : m'.id = m.id) :
    s.overtakes b m'.id =
      ((s.hand m.id).any Queued.grants && m.queue.isEmpty && m'.nextIsShare) := by
  unfold overtakes
  rw [hb.member?_of_mem hm', hid, hs.member?_of_mem hm, Option.any_some, Option.any_some]

/-- One member has changed, and what it has in hand. -/
theorem Tidy.modifyMember (h : s.Tidy) {id : String} {m : Member}
    (hm : s.broker.member? id = some m) {f : Member → Member} (hf : ∀ m, m.id = id → (f m).id = id)
    {hand : String → Option Queued} {overtaken : String → Bool}
    (hrest : ∀ id' ≠ id, hand id' = s.hand id' ∧ overtaken id' = s.overtaken id')
    (hstep : InStep s.broker.topics.partitions (hand id) (overtaken id) (f m)) :
    Tidy ⟨s.broker.modifyMember id f, hand, overtaken⟩ := by
  refine ⟨h.sound.modifyMember hf, ?_, ?_⟩
  · intro id' hid'
    by_cases hid : id' = id
    · rw [hid, ← Broker.id_of_member? hm]
      exact h.sound.numbered m (List.mem_of_find?_eq_some hm)
    · dsimp only at hid'
      rw [(hrest id' hid).1, (hrest id' hid).2] at hid'
      exact h.joined id' hid'
  · intro m₁ hm₁
    obtain ⟨m₀, hm₀, rfl⟩ := List.mem_map.mp hm₁
    by_cases hid : m₀.id = id
    · cases h.sound.eq_of_member? hm hm₀ hid
      rw [if_pos hid, hf _ hid]
      exact hstep
    · rw [if_neg hid]
      dsimp only
      rw [(hrest _ hid).1, (hrest _ hid).2]
      exact h.members m₀ hm₀

/-- It is no concern of a member what becomes of whoever is not there. -/
theorem Tidy.gone (h : s.Tidy) {id : String} (hm : s.broker.member? id = none)
    {hand : String → Option Queued} {overtaken : String → Bool}
    (hrest : ∀ id' ≠ id, hand id' = s.hand id' ∧ overtaken id' = s.overtaken id')
    (hless : (hand id).isSome ∨ overtaken id = true → (s.hand id).isSome ∨ s.overtaken id = true) :
    Tidy ⟨s.broker, hand, overtaken⟩ := by
  refine ⟨h.sound, ?_, ?_⟩
  · intro id' hid'
    by_cases hid : id' = id
    · subst hid
      exact h.joined id' (hless hid')
    · dsimp only at hid'
      rw [(hrest id' hid).1, (hrest id' hid).2] at hid'
      exact h.joined id' hid'
  · intro m hmem
    have hid : m.id ≠ id := by
      rintro rfl
      rw [h.sound.member?_of_mem hmem] at hm
      cases hm
    dsimp only
    rw [(hrest _ hid).1, (hrest _ hid).2]
    exact h.members m hmem

/-- Whoever has nothing in hand is not overtaken. -/
theorem overtakes_of_hand {b : Broker} {id : String} (h : s.hand id = none) :
    s.overtakes b id = false := by
  simp [overtakes, h]

/-- Nobody is overtaken while nothing is queued. -/
theorem overtakes_of_queue {b : Broker} {id : String}
    (h : ∀ m m', s.broker.member? id = some m → b.member? id = some m' → m'.queue = m.queue) :
    s.overtakes b id = false := by
  unfold overtakes
  cases hm : s.broker.member? id with
  | none => simp
  | some m =>
    cases hm' : b.member? id with
    | none => simp
    | some m' =>
      have hqueue := h m m' hm hm'
      by_cases hq : m.queue = [] <;> simp [Member.nextIsShare, hqueue, hq]

/-- A request keeps a desk tidy if it does no more to a member than to deal,
and if whoever else is there now keeps step. -/
theorem Tidy.perform (h : s.Tidy) {r : Request} (hr : ∀ id, r.givesUp id = false)
    (hmembers : ∀ m' ∈ (s.broker.perform r).broker.members,
      (∃ m ∈ s.broker.members, m.Dealt (s.broker.perform r).broker.topics.partitions m') ∨
        (s.hand m'.id = none ∧ s.overtaken m'.id = false ∧ m'.queue = [] ∧ m'.held = [])) :
    (s.after (.asked r)).Tidy := by
  obtain ⟨hall, hjoined⟩ := s.broker.perform_grows r
  have hsound := h.sound.perform r
  have hover (id : String) : (s.after (.asked r)).overtaken id =
      (s.overtakes (s.broker.perform r).broker id || s.overtaken id) := by
    simp [after, hr]
  refine ⟨hsound, ?_, ?_⟩
  · intro id hid
    have hid : (s.hand id).isSome ∨ s.overtaken id = true := by
      rw [hover] at hid
      by_cases hhand : s.hand id = none
      · simpa [overtakes_of_hand hhand, after] using hid
      · exact .inl (Option.isSome_iff_ne_none.mpr hhand)
    obtain ⟨client, n, hn, he⟩ := h.joined id hid
    exact ⟨client, n, Nat.le_trans hn hjoined, he⟩
  · intro m' hm'
    rw [hover]
    rcases hmembers m' hm' with ⟨m, hm, hd⟩ | ⟨hhand, hovertaken, hq, hheld⟩
    · have hstep := (h.members m hm).dealt hall hd
      rw [← overtakes_eq h.sound hsound hm hm' hd.frame.1] at hstep
      rw [hd.frame.1] at hstep ⊢
      exact hstep
    · rw [overtakes_of_hand hhand, hovertaken]
      refine ⟨?_, ?_, ?_, ?_⟩
      · simp [hq]
      · simp [hq, Orderly]
      · simp [hheld]
      · simp [after, hhand]

/-- Whoever joins has nothing in hand, for nobody has had its id. -/
theorem Tidy.connected (h : s.Tidy) (c : Configuration) :
    (s.after (.asked (.connect c))).Tidy := by
  apply h.perform (fun _ => rfl)
  intro m' hm'
  have hchanged := s.broker.perform_changed (.connect c)
  generalize (s.broker.perform (.connect c)).broker = b' at hchanged hm'
  cases hchanged with
  | nothing => exact .inl ⟨m', hm', .refl⟩
  | @connected _ options ho =>
    rcases List.mem_append.mp hm' with hm' | hm'
    · exact .inl ⟨m', hm', .refl⟩
    · rw [List.mem_singleton] at hm'
      have hnew : ¬ ((s.hand m'.id).isSome ∨ s.overtaken m'.id = true) := by
        intro hid
        obtain ⟨client, n, hn, he⟩ := h.joined _ hid
        rw [hm'] at he
        have := eq_of_numbered_eq he
        omega
      rw [not_or, Option.not_isSome_iff_eq_none, Bool.not_eq_true] at hnew
      exact .inr ⟨hnew.1, hnew.2, by rw [hm'], by rw [hm']; rfl⟩

/-- To give everything up leaves what waits. -/
theorem queue_of_unassign {b : Broker} {id id' : String} {m m' : Member}
    (hm : b.member? id' = some m) (hm' : (b.unassign id).broker.member? id' = some m') :
    m'.queue = m.queue := by
  have hid : ∀ m : Member, m.id = id → ({ m with assignment := [], cursor := 0 } : Member).id = id :=
    fun _ h => h
  unfold Broker.unassign at hm'
  split at hm'
  · cases hm.symm.trans hm'
    rfl
  · by_cases he : id' = id
    · subst he
      rw [Broker.member?_modifyMember hid, hm] at hm'
      cases hm'
      rfl
    · rw [Broker.member?_modifyMember_of_ne he hid, hm] at hm'
      cases hm'
      rfl

/-- To give up what is read queues nothing, so nobody is overtaken then. -/
theorem after_unassign (s : Desk) (id : String) :
    s.after (.asked (.member id .unassign)) =
      ⟨(s.broker.unassign id).broker, s.hand,
        Function.update s.overtaken id (s.overtaken id && (s.hand id).isSome)⟩ := by
  have hover : (s.after (.asked (.member id .unassign))).overtaken =
      Function.update s.overtaken id (s.overtaken id && (s.hand id).isSome) := by
    funext id'
    have hnone : s.overtakes (s.broker.unassign id).broker id' = false :=
      overtakes_of_queue fun _ _ => queue_of_unassign
    by_cases hid : id' = id
    · subst hid
      cases hhand : s.hand id' <;>
        simp [after, Broker.perform, Broker.performFor, Request.givesUp, hnone, hhand]
    · simp [after, Broker.perform, Broker.performFor, Request.givesUp, hnone, hid, Ne.symm hid]
  rw [← hover]
  rfl

/-- Whoever gives up what it reads, with nothing in hand, has nothing left
that could be overtaken. -/
theorem Tidy.gaveUp (h : s.Tidy) (id : String) :
    (s.after (.asked (.member id .unassign))).Tidy := by
  have hrest (id' : String) (hid : id' ≠ id) : s.hand id' = s.hand id' ∧
      Function.update s.overtaken id (s.overtaken id && (s.hand id).isSome) id' = s.overtaken id' :=
    ⟨rfl, Function.update_of_ne hid _ _⟩
  rw [after_unassign]
  unfold Broker.unassign
  cases hm : s.broker.member? id with
  | none =>
    apply h.gone hm hrest
    rw [Function.update_self]
    intro hid
    exact hid.imp_right fun ho => (Bool.and_eq_true_iff.mp ho).1
  | some m =>
    refine h.modifyMember hm (f := fun m => { m with assignment := [], cursor := 0 })
      (fun _ h => h) hrest ?_
    have hstep := h.members m (List.mem_of_find?_eq_some hm)
    rw [Broker.id_of_member? hm] at hstep
    rw [Function.update_self]
    refine ⟨hstep.plain, hstep.orderly, ?_, ?_⟩
    · intro hnone
      simp [hnone, Member.held]
    · intro q hq
      obtain ⟨hplain, hbusy⟩ := hstep.busy q hq
      exact ⟨hplain, by simpa [hq, Member.nextIsShare] using hbusy⟩

/-- What is asked of the broker, within the rules, keeps a desk tidy. -/
theorem Tidy.asked (h : s.Tidy) {r : Request} (ha : s.Allows (.asked r)) :
    (s.after (.asked r)).Tidy := by
  have deals (hr : Broker.reaches r = false) : (s.after (.asked r)).Tidy := by
    refine h.perform ?_ fun m' hm' => .inl (s.broker.deals_perform hr m' hm')
    intro id
    unfold Request.givesUp
    split
    · cases hr
    · rfl
  cases r with
  | connect c => exact h.connected c
  | notify => exact ha.elim
  | member id r =>
    cases r with
    | next | assign => exact ha.elim
    | unassign => exact h.gaveUp id
    | _ => exact deals rfl
  | _ => exact deals rfl

/-- Behind a share that waits there is no other before it has been taken
away, unless there is nothing in it. -/
theorem not_overtaken_of_orderly {q : Queued} {m : Member}
    (h : Orderly [] (q :: m.queue)) : ¬ (q.grants = true ∧ m.nextIsShare = true) := by
  rintro ⟨hgrants, hnext⟩
  obtain ⟨hshare, hpartitions⟩ := Bool.and_eq_true_iff.mp hgrants
  have hleaves := Queued.leaves_of_assign (of_decide_eq_true hshare) []
  unfold Member.nextIsShare at hnext
  cases hq : m.queue with
  | nil => simp [hq] at hnext
  | cons q' rest =>
    rw [hq] at h hnext
    have hnothing := h.2.1 (of_decide_eq_true hnext)
    rw [hleaves] at hnothing
    simp [PartitionList.partitions] at hnothing hpartitions
    exact hpartitions hnothing

/-- Whoever polls with nothing waiting looks for a message, and has its hands
free. -/
theorem after_polled_of_nil {id : String} {m : Member} (hm : s.broker.member? id = some m)
    (hq : m.queue = []) :
    s.after (.polled id) =
      ⟨s.broker.modifyMember id fun _ => (m.fetch s.broker.topics).2,
        Function.update s.hand id none, Function.update s.overtaken id false⟩ := by
  simp only [after, Broker.nextEvent, hm, Member.next, hq]
  cases (m.fetch s.broker.topics).1 <;> rfl

/-- Whoever polls with something waiting has that in hand. -/
theorem after_polled_of_cons {id : String} {m : Member} (hm : s.broker.member? id = some m)
    {q : Queued} {rest : List Queued} (hq : m.queue = q :: rest) :
    s.after (.polled id) =
      ⟨s.broker.modifyMember id fun _ => { m with queue := rest },
        Function.update s.hand id (some q), Function.update s.overtaken id false⟩ := by
  simp only [after, Broker.nextEvent, hm, Member.next, hq]
  rfl

/-- Whoever polls has in hand what waited first, and that is not overtaken
yet. -/
theorem Tidy.polled (h : s.Tidy) {id : String} (hhand : s.hand id = none) :
    (s.after (.polled id)).Tidy := by
  have hrest (hand : Option Queued) (id' : String) (hid : id' ≠ id) :
      Function.update s.hand id hand id' = s.hand id' ∧
        Function.update s.overtaken id false id' = s.overtaken id' :=
    ⟨Function.update_of_ne hid _ _, Function.update_of_ne hid _ _⟩
  cases hm : s.broker.member? id with
  | none =>
    unfold after
    dsimp only
    unfold Broker.nextEvent
    rw [hm]
    apply h.gone hm (hrest _)
    intro hid
    rw [Function.update_self, Function.update_self] at hid
    rcases hid with hid | hid <;> cases hid
  | some m =>
    have hid := Broker.id_of_member? hm
    have hstep := h.members m (List.mem_of_find?_eq_some hm)
    rw [hid, hhand] at hstep
    cases hq : m.queue with
    | nil =>
      have hfetch := m.fetch_frame s.broker.topics
      have hnothing : (m.fetch s.broker.topics).2.queue = [] := by
        rw [hfetch]
        exact hq
      rw [after_polled_of_nil hm hq]
      refine h.modifyMember hm ?_ (hrest _) ?_
      · intro _ _
        rw [hfetch]
        exact hid
      · rw [Function.update_self, Function.update_self]
        refine ⟨?_, ?_, ?_, fun q hq' => nomatch hq'⟩
        · simp [hnothing]
        · simp [hnothing, Orderly]
        · simp [Member.nextIsShare, hnothing]
    | cons q rest =>
      obtain ⟨hplain, horderly, _, _⟩ := hstep
      rw [hq] at hplain horderly
      rw [after_polled_of_cons hm hq]
      apply h.modifyMember hm (f := fun _ => { m with queue := rest }) (fun _ _ => hid) (hrest _)
      rw [Function.update_self, Function.update_self]
      refine ⟨fun q' hq' => hplain q' (List.mem_cons_of_mem _ hq'), horderly.2.of_nothing,
        fun hnone => absurd hnone (Option.some_ne_none q), fun q' hq' => ?_⟩
      cases hq'
      refine ⟨hplain q List.mem_cons_self, ?_⟩
      simpa using not_overtaken_of_orderly (m := { m with queue := rest }) horderly

/-- Whoever applies what it has in hand holds that, or nothing; what waits
is still there. -/
theorem Tidy.applied (h : s.Tidy) (id : String) : (s.after (.applied id)).Tidy := by
  unfold after
  dsimp only
  cases hhand : s.hand id with
  | none => exact h
  | some q =>
    have hrest (id' : String) (hid : id' ≠ id) :
        Function.update s.hand id none id' = s.hand id' ∧ s.overtaken id' = s.overtaken id' :=
      ⟨Function.update_of_ne hid _ _, rfl⟩
    dsimp only
    cases hm : s.broker.member? id with
    | none =>
      rw [broker_application_of_gone hm]
      apply h.gone hm hrest
      intro hid
      rw [hhand]
      exact .inl rfl
    | some m =>
      have hstep := h.members m (List.mem_of_find?_eq_some hm)
      rw [Broker.id_of_member? hm, hhand] at hstep
      obtain ⟨hplain, hbusy⟩ := hstep.busy q rfl
      obtain ⟨assignment, hbroker, hheld⟩ := exists_broker_application hm hplain
      rw [hbroker]
      refine h.modifyMember hm (f := fun m => { m with assignment, cursor := 0 }) (fun _ hid => hid)
        hrest ?_
      rw [Function.update_self]
      refine ⟨hstep.plain, hstep.orderly, ?_, fun q hq => nomatch hq⟩
      intro _
      rw [hbusy, hplain.grants_iff m.held, ← hheld]
      rfl

/-- Every step keeps a desk tidy. -/
theorem Tidy.after (h : s.Tidy) {m : Move} (ha : s.Allows m) : (s.after m).Tidy := by
  cases m with
  | asked r => exact h.asked ha
  | polled id => exact h.polled ha
  | applied id => exact h.applied id

/-- In every run that members keep step in, everybody is in step. -/
theorem Reached.tidy (h : Reached s) : s.Tidy := by
  induction h with
  | start =>
    refine ⟨Broker.sound_empty _, ?_, fun m hm => absurd hm List.not_mem_nil⟩
    intro id hid
    rcases hid with hid | hid <;> cases hid
  | step _ ha ih => exact ih.after ha

/-- When a share comes to a member that has nothing in hand, it holds
something just if the share it was given last was overtaken. -/
theorem Reached.held_iff_overtaken (h : Reached s) {id : String} (hhand : s.hand id = none)
    {l : PartitionList}
    (he : (s.broker.nextEvent id).result = .ok (some (.rebalance .assignPartitions l))) :
    ∃ m, s.broker.member? id = some m ∧ (m.held ≠ [] ↔ s.overtaken id = true) := by
  obtain ⟨m, rest, hm, hq⟩ := Broker.queued_of_nextEvent he
  have hnext : m.nextIsShare = true := by simp [Member.nextIsShare, hq, Queued.isShare]
  have hstep := h.tidy.members m (List.mem_of_find?_eq_some hm)
  rw [Broker.id_of_member? hm] at hstep
  refine ⟨m, hm, ?_⟩
  rw [hstep.idle hhand, hnext]
  simp

def run (l : List Move) : Desk := l.foldl after {}

/-- The first of a group has polled its share, of everything, and not
applied it yet when the second subscribes. -/
def joinedMeanwhile : List Move :=
  [.asked (.createTopic "t" 2),
    .asked (.connect (Configuration.ofPairs [("group.id", "g")])),
    .asked (.connect (Configuration.ofPairs [("group.id", "g")])),
    .asked (.member "kafka_group-1" (.subscribe ["t"])),
    .polled "kafka_group-1",
    .asked (.member "kafka_group-2" (.subscribe ["t"])),
    .applied "kafka_group-1"]

theorem reached_joinedMeanwhile : Reached (run joinedMeanwhile) := by
  simp only [run, joinedMeanwhile, List.foldl_cons, List.foldl_nil]
  refine .step (.step (.step (.step (.step (.step (.step (.start _) ?_) ?_) ?_) ?_) ?_) ?_) ?_
  exacts [trivial, trivial, trivial, trivial, rfl, trivial, trivial]

theorem hand_joinedMeanwhile : (run joinedMeanwhile).hand "kafka_group-1" = none := by
  decide +kernel

theorem nextEvent_joinedMeanwhile :
    ((run joinedMeanwhile).broker.nextEvent "kafka_group-1").result =
      .ok (some (.rebalance .assignPartitions [⟨⟨"t", 0⟩, .invalid⟩])) := by
  decide +kernel

theorem member?_joinedMeanwhile :
    ∃ m, (run joinedMeanwhile).broker.member? "kafka_group-1" = some m ∧
      m.held = [⟨"t", 0⟩, ⟨"t", 1⟩] := by
  have hheld : ((run joinedMeanwhile).broker.member? "kafka_group-1").map Member.held =
      some [⟨"t", 0⟩, ⟨"t", 1⟩] := by decide +kernel
  exact Option.map_eq_some_iff.mp hheld

/-- The share that the first has applied was overtaken: the next comes
while it holds everything. -/
theorem held_iff_overtaken_joinedMeanwhile :
    Reached (run joinedMeanwhile) ∧ (run joinedMeanwhile).hand "kafka_group-1" = none ∧
      ((run joinedMeanwhile).broker.nextEvent "kafka_group-1").result =
        .ok (some (.rebalance .assignPartitions [⟨⟨"t", 0⟩, .invalid⟩])) ∧
      (run joinedMeanwhile).overtaken "kafka_group-1" = true ∧
      ∃ m, (run joinedMeanwhile).broker.member? "kafka_group-1" = some m ∧
        (m.held ≠ [] ↔ (run joinedMeanwhile).overtaken "kafka_group-1" = true) := by
  have hovertaken : (run joinedMeanwhile).overtaken "kafka_group-1" = true := by decide +kernel
  exact ⟨reached_joinedMeanwhile, hand_joinedMeanwhile, nextEvent_joinedMeanwhile, hovertaken,
    Reached.held_iff_overtaken reached_joinedMeanwhile hand_joinedMeanwhile
      nextEvent_joinedMeanwhile⟩

/-- So a share is not always preceded by taking away the last one. -/
theorem share_before_revocation :
    ¬ ∀ s, Reached s → ∀ id l m, s.hand id = none →
      (s.broker.nextEvent id).result = .ok (some (.rebalance .assignPartitions l)) →
      s.broker.member? id = some m → m.held = [] := by
  intro h
  obtain ⟨m, hm, hheld⟩ := member?_joinedMeanwhile
  have hnone := h _ reached_joinedMeanwhile _ _ m hand_joinedMeanwhile nextEvent_joinedMeanwhile hm
  rw [hheld] at hnone
  cases hnone

end Desk

end ConsumerGroup
