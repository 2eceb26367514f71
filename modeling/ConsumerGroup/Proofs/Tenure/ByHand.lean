import ConsumerGroup.Proofs.Broker.Unsubscribed
import ConsumerGroup.Proofs.Group.Ledger
import ConsumerGroup.Proofs.Tenure.Run

/-!
# Partitions assigned by hand

A consumer whose owner assigns partitions to it by hand, and never has it
subscribe to anything, stands outside of what its group manages: nobody
gives it a share. It is a member all the same, and a rebalance takes away
what a member effectively holds without asking what it subscribes to.

An outsider is such a consumer together with what its group has claimed:
what it held when the group rebalanced for the first time since it last
looked (`Outsider.claimed`). `Reached.kept_unless_claimed` says that this
is the one way in which it loses anything that its owner does not take
from it: whatever happens around it, it goes on holding what it holds, and
no callback is called; but if something is claimed, the next look has it
give up all it then holds, and its callback hears of what was claimed.

The invariant says what waits for the member: nothing, or one revocation of
what is claimed (`Outsider.Claims`). Its owner may assign and give up in
between as it likes, and so what the revocation names need not be what is
held when it comes.
-/

namespace ConsumerGroup

namespace Happening

/-- The step neither sends the member with an id a notification by hand,
nor polls or subscribes in its place, nor moves its consumer. -/
def LeavesOutside (id : String) : Happening → Prop
  | .asked (.notify id' _ _) => id' ≠ id
  | .asked (.member id' .next) | .asked (.member id' (.subscribe _)) => id' ≠ id
  | .asked _ => True
  | .did c _ => c.transport.member ≠ id

/-- The step has the group of the member with an id rebalance, as something
is asked for or as somebody's consumer ends. -/
def disturbs (b : Broker) (id : String) : Happening → Bool
  | .asked r => b.disturbs id r
  | .did c d =>
    match (broker b (.did c d)).member? c.transport.member with
    | some _ => false
    | none => b.disturbs id (.member c.transport.member .leave)

variable {b : Broker} {id : String} {m : Member} {e : Happening}

/-- Whoever is left outside is not polled for by anybody else. -/
theorem LeavesOutside.takes_eq_nil (h : e.LeavesOutside id) : e.takes b id = [] := by
  cases e with
  | asked r =>
    refine Broker.takesBy_of_ne ?_
    rintro rfl
    exact h rfl
  | did c d =>
    cases d with
    | look =>
      show b.takesBy id (.member c.transport.member .next) = []
      refine Broker.takesBy_of_ne ?_
      rintro ⟨⟩
      exact h rfl
    | _ => rfl

/-- What a step queues for a member that subscribes to nothing. -/
theorem LeavesOutside.queues_eq (h : e.LeavesOutside id) (hl : e ≠ .asked (.member id .leave))
    (hm : b.member? id = some m) (hsub : m.subscription = []) :
    e.queues b id = if e.disturbs b id then dealtNotices m none else [] := by
  cases e with
  | asked r =>
    refine Broker.queues_of_unsubscribed hm hsub ?_ ?_ ?_
    · rintro code partitions rfl
      exact h rfl
    · rintro topics rfl
      exact h rfl
    · rintro rfl
      exact hl rfl
  | did c d =>
    -- Of what consumers do, nothing but an end queues anything: the member leaves.
    have hleave : b.queues id (.member c.transport.member .leave) =
        if b.disturbs id (.member c.transport.member .leave) then dealtNotices m none else [] := by
      refine Broker.queues_of_unsubscribed hm hsub (fun _ _ => nofun) (fun _ => nofun) ?_
      rintro ⟨⟩
      exact h rfl
    show (match (broker b (.did c d)).member? c.transport.member with
      | some _ => []
      | none => b.queues id (.member c.transport.member .leave)) =
        if (match (broker b (.did c d)).member? c.transport.member with
          | some _ => false
          | none => b.disturbs id (.member c.transport.member .leave)) then _ else _
    cases (broker b (.did c d)).member? c.transport.member with
    | some _ => rfl
    | none => exact hleave

end Happening

/-- No deed subscribes anybody. -/
theorem Broker.Unsubscribed.done {b b' : Broker} {id id' : String} {d : Deed}
    {o : Outcome Entry (Consumer Seat × Cluster) (Option Message)} (h : b.Unsubscribed id)
    (hd : b.Done id' o d b') : b'.Unsubscribed id := by
  refine hd.holds (P := (·.Unsubscribed id)) h (fun m m' _ hm hl => ?_) fun r hr =>
    h.perform (r := .member id' r) ?_
  · have hsame : m'.subscription = m.subscription := by rw [hl.frame]
    refine h.modifyMember (fun _ _ => hl.id_eq.trans (Broker.id_of_member? hm)) ?_
    rintro rfl _ _ _
    exact hsame.trans (h.subscription_eq_nil hm)
  · rintro topics ⟨⟩
    exact hr topics rfl

/-- Whoever does not subscribe stays unsubscribed, whatever others do. -/
theorem Chronicle.unsubscribed_after {s : Chronicle} {id : String} {e : Happening}
    (h : s.broker.Unsubscribed id) (he : ∀ topics, e ≠ .asked (.member id (.subscribe topics))) :
    (s.after e).broker.Unsubscribed id := by
  cases e with
  | asked r =>
    refine h.perform fun topics => ?_
    rintro rfl
    exact he topics rfl
  | did c d => exact h.done (s.done c d)

namespace Tenure

/-- The partitions of the consumer are its owner's affair: it never
subscribes, and nobody else does anything on its seat or sends it a
notification by hand. -/
def ByHand (t : Tenure) : Step → Prop
  | .beside e => e.LeavesOutside t.id
  | .did _ | .equipped .. => True

/-- The owner changes what is held: by hand, or by ending the consumer. -/
def Owned (t : Tenure) : Step → Prop
  | .beside (.asked (.member id (.assign _))) => id = t.id
  | .beside (.asked (.member id .unassign)) | .beside (.asked (.member id .leave)) => id = t.id
  | .did d => d.ends = true
  | _ => False

variable {t : Tenure} {e : Happening}

/-- What others do touches an outsider only if it is its owner's doing. -/
theorem ByHand.not_touches (h : t.ByHand (.beside e)) (ho : ¬ t.Owned (.beside e)) :
    ¬ e.Touches t.id := by
  intro ht
  match e with
  | .asked (.notify _ _ _) | .asked (.member _ .next) => exact h ht
  | .asked (.member _ (.assign _)) | .asked (.member _ .unassign) | .asked (.member _ .leave) =>
    exact ho ht
  | .did c _ => exact h ht

/-- What a consumer holds stays, whatever happens but for its owner's doing
and its own looks. -/
theorem held_after (hs : t.broker.Sound) (hi : t.broker.Issued t.id) {e : Step} (he : t.ByHand e)
    (ho : ¬ t.Owned e) (hlook : e ≠ .did .look) : (t.after e).held = t.held := by
  have hdealt {m : Member} (hm : t.broker.member? t.id = some m) :
      ∃ m', (t.after e).broker.member? t.id = some m' ∧
        m.Dealt (t.after e).broker.topics.partitions m' := by
    match e with
    | .beside e => exact Chronicle.dealt_aside hs (he.not_touches ho) hm
    | .equipped .. => exact ⟨m, hm, .refl⟩
    | .did (.commitMessage x asynchronous) => exact dealt_committed hs hm x asynchronous
    | .did .look => exact absurd rfl hlook
    | .did .close | .did (.release _) => exact absurd rfl ho
  unfold held
  rw [id_after]
  cases hm : t.broker.member? t.id with
  | some m =>
    obtain ⟨m', hm', hd⟩ := hdealt hm
    rw [Broker.heldBy_of_member? hm, Broker.heldBy_of_member? hm', Member.held, Member.held,
      hd.frame.2.2]
  | none =>
    rw [Broker.heldBy_of_gone hm, Broker.heldBy_of_gone (member?_after_of_gone hi hm e)]

end Tenure

/-- A consumer whose partitions are assigned by hand, and what its group has
claimed of them. -/
structure Outsider where
  tenure : Tenure
  /-- What the consumer held when its group first rebalanced since its last look. -/
  claimed : List Partition := []

namespace Outsider

variable {o : Outsider}

/-- The member whose consumer it is. -/
def id (o : Outsider) : String := o.tenure.id

def broker (o : Outsider) : Broker := o.tenure.broker

/-- The outsider after a step. What is claimed is claimed once, until the
consumer looks. -/
def after (o : Outsider) (e : Tenure.Step) : Outsider where
  tenure := o.tenure.after e
  claimed :=
    match e with
    | .beside e => if o.claimed = [] ∧ e.disturbs o.broker o.id then o.tenure.held else o.claimed
    | .did .look => []
    | _ => o.claimed

@[simp] theorem id_after (o : Outsider) (e : Tenure.Step) : (o.after e).id = o.id :=
  o.tenure.id_after e

/-- The outsiders of all runs in which the consumer never subscribes. -/
inductive Reached : Outsider → Prop
  | start {s : Chronicle} {configuration : Configuration} {c : Consumer Seat}
      (hs : Chronicle.Reached (fun _ _ => True) s)
      (hc : (Consumer.create configuration Seat.connect { broker := s.broker }).result = .ok c) :
      Reached { tenure := .begun s configuration c }
  | step {o : Outsider} {e : Tenure.Step} (ho : Reached o) (ha : o.tenure.ByHand e) :
      Reached (o.after e)

/-- The life of an outsider is the life of a consumer. -/
theorem Reached.tenure (h : Reached o) : Tenure.Reached Tenure.ByHand o.tenure := by
  induction h with
  | start hs hc => exact .start hs hc
  | step _ ha ih => exact .step ih ha

/-- What waits for an outsider: to give up what is claimed, if that is
anything. -/
def claim (claimed : List Partition) : List Queued :=
  if claimed = [] then [] else [⟨.revokePartitions, .ofPartitions claimed⟩]

/-- The member subscribes to nothing, and nothing waits for it but to give
up what is claimed. -/
structure Claims (o : Outsider) : Prop where
  unsubscribed : o.broker.Unsubscribed o.id
  waiting : ∀ m, o.broker.member? o.id = some m → m.queue = claim o.claimed

/-- A member that nothing is claimed of is told to give up what it holds;
one that something is claimed of is told nothing more. -/
theorem dealtNotices_of_claim {m : Member} {claimed : List Partition}
    (hq : m.queue = claim claimed) :
    dealtNotices m none = if claimed = [] then claim m.held else [] := by
  unfold dealtNotices claim at *
  by_cases hc : claimed = []
  · have heffective : m.effectiveAssignment = .ofPartitions m.held := by
      unfold Member.effectiveAssignment
      rw [hq, if_pos hc]
      rfl
    rw [heffective, if_pos hc, List.append_nil]
    by_cases hh : m.held = [] <;> simp [hh, PartitionList.ofPartitions]
  · have heffective : m.effectiveAssignment = [] := by
      unfold Member.effectiveAssignment
      rw [hq, if_neg hc]
      rfl
    rw [heffective, if_neg hc]
    rfl

/-! ## Every step keeps it so -/

/-- Nothing is claimed of one that has just joined. -/
theorem claims_begun {s : Chronicle} (hs : s.broker.Sound) {configuration : Configuration}
    {c : Consumer Seat}
    (hc : (Consumer.create configuration Seat.connect { broker := s.broker }).result = .ok c) :
    Claims { tenure := .begun s configuration c } := by
  obtain ⟨_, options, hm⟩ := Tenure.member?_begun hs hc
  have hsound : (Tenure.begun s configuration c).broker.Sound := Chronicle.sound_after hs _
  refine ⟨fun m hmem hid => ?_, fun m hm' => ?_⟩
  · rw [hsound.eq_of_member? hm hmem hid]
  · cases hm.symm.trans hm'
    rfl

/-- Whatever happens around it, nothing waits for an outsider but to give up
what is claimed. -/
theorem Claims.beside (h : o.Claims) (hi : o.broker.Issued o.id) {e : Happening}
     (he : e.LeavesOutside o.id) : (o.after (.beside e)).Claims := by
  have hunsubscribed : (o.tenure.chronicle.after e).broker.Unsubscribed o.id := by
    refine Chronicle.unsubscribed_after h.unsubscribed ?_
    rintro topics rfl
    exact he rfl
  refine ⟨hunsubscribed, fun m' hm' => ?_⟩
  obtain ⟨m, hm, hbalance⟩ := e.balances_member? hi hm'
  have hqueue := h.waiting m hm
  have hleave : e ≠ .asked (.member o.id .leave) := by
    rintro rfl
    exact Broker.member?_eq_none_iff.mp (o.broker.member?_leave o.id)
      (Broker.present_of_member? hm')
  rw [he.takes_eq_nil, he.queues_eq hleave hm (h.unsubscribed.subscription_eq_nil hm),
    dealtNotices_of_claim hqueue, hqueue, List.nil_append] at hbalance
  have hheld : o.tenure.held = m.held := Broker.heldBy_of_member? hm
  show m'.queue = claim (if o.claimed = [] ∧ e.disturbs o.broker o.id then o.tenure.held else o.claimed)
  rw [hbalance, hheld]
  -- What was claimed before is told already: only a first claim is told now.
  by_cases hc : o.claimed = [] <;> by_cases hd : e.disturbs o.broker o.id = true <;>
    simp [hc, hd, claim]

/-- A look takes what waits. -/
theorem Claims.looked (h : o.Claims) : (o.after (.did .look)).Claims := by
  have hunsubscribed : (o.tenure.after (.did .look)).broker.Unsubscribed o.id :=
    Chronicle.unsubscribed_after h.unsubscribed fun _ => nofun
  refine ⟨o.id_after (.did .look) ▸ hunsubscribed, fun m' hm' => ?_⟩
  rw [id_after] at hm'
  change (o.tenure.after (.did .look)).broker.member? o.id = some m' at hm'
  have hlooked := o.tenure.looked
  generalize (o.tenure.after (.did .look)).broker = b' at hm' hlooked
  cases hlooked with
  | gone hm => cases hm.symm.trans hm'
  | @changed m _ hm hl =>
    cases (Broker.member?_replaced hm (hl.id_eq.trans (Broker.id_of_member? hm))).symm.trans hm'
    rw [Broker.queue_of_looked hl, h.waiting m hm]
    unfold claim
    split <;> rfl

/-- What an outsider does other than to look leaves what waits for it, as
long as it is there. -/
theorem Claims.did (h : o.Claims) (hi : o.broker.Issued o.id) {d : Deed} (hd : d ≠ .look) :
    (o.after (.did d)).Claims := by
  have hunsubscribed : (o.tenure.after (.did d)).broker.Unsubscribed o.id :=
    Chronicle.unsubscribed_after h.unsubscribed fun _ => nofun
  have hclaimed : (o.after (.did d)).claimed = o.claimed := by
    cases d with
    | look => exact absurd rfl hd
    | _ => rfl
  refine ⟨o.id_after (.did d) ▸ hunsubscribed, fun m' hm' => ?_⟩
  rw [id_after] at hm'
  obtain ⟨m, hm, hbalance⟩ := (Happening.did o.tenure.consumer d).balances_member? hi hm'
  have htakes : (Happening.did o.tenure.consumer d).takes o.broker o.id = [] := by
    cases d with
    | look => exact absurd rfl hd
    | _ => rfl
  have hqueues : (Happening.did o.tenure.consumer d).queues o.broker o.id = [] :=
    Happening.queues_of_stays (iff_of_true (Broker.present_of_member? hm')
      (Broker.present_of_member? hm))
  rw [htakes, hqueues, List.nil_append, List.append_nil] at hbalance
  rw [hclaimed, hbalance]
  exact h.waiting m hm

/-- Every step leaves an outsider with nothing waiting but what is claimed of
it. -/
theorem Claims.after (h : o.Claims) (hi : o.broker.Issued o.id) {e : Tenure.Step}
    (he : o.tenure.ByHand e) : (o.after e).Claims := by
  match e with
  | .beside e => exact h.beside hi he
  | .equipped .. => exact ⟨h.unsubscribed, h.waiting⟩
  | .did .look => exact h.looked
  | .did (.commitMessage _ _) | .did .close | .did (.release _) => exact h.did hi nofun

/-- So it is all its life. -/
theorem Reached.claims (h : Reached o) : o.Claims := by
  induction h with
  | start hs hc => exact claims_begun hs.sound hc
  | step ho ha ih => exact ih.after ho.tenure.issued ha

/-! ## What is lost, and when -/

/-- What an outsider is made to give up by a step: what is claimed, when it
looks, and as long as it is there. -/
def yields (o : Outsider) : Tenure.Step → List Partition
  | .did .look => if (o.broker.member? o.id).isSome then o.claimed else []
  | _ => []

theorem yields_look_of_member? {m : Member} (hm : o.broker.member? o.id = some m) :
    o.yields (.did .look) = o.claimed := by
  simp only [yields, hm, Option.isSome_some, if_true]

theorem yields_look_of_gone (hm : o.broker.member? o.id = none) : o.yields (.did .look) = [] := by
  simp [yields, hm]

/-- A look has an outsider give up all it holds, if anything is claimed. -/
theorem Claims.held_look (h : o.Claims) :
    (o.tenure.after (.did .look)).held = if o.yields (.did .look) = [] then o.tenure.held else [] := by
  have hheld : (o.tenure.after (.did .look)).held =
      (o.tenure.after (.did .look)).broker.heldBy o.tenure.id :=
    congrArg (Broker.heldBy _) (o.tenure.id_after _)
  have hlooked := o.tenure.looked
  rw [hheld]
  generalize (o.tenure.after (.did .look)).broker = b' at hlooked
  cases hlooked with
  | gone hm =>
    rw [yields_look_of_gone hm, if_pos rfl]
    rfl
  | @changed m m' hm hl =>
    have hq := h.waiting m hm
    rw [yields_look_of_member? hm, Tenure.held, Broker.heldBy_of_member? hm,
      Broker.heldBy_of_member? (Broker.member?_replaced hm (hl.id_eq.trans (Broker.id_of_member? hm)))]
    unfold claim at hq
    by_cases hc : o.claimed = []
    · rw [if_pos hc] at hq ⊢
      exact (hl.idle hq).2
    · rw [if_neg hc] at hq ⊢
      exact hl.gaveUp hq rfl

/-- A look has the callback hear of what is claimed. -/
theorem Claims.called_look (h : o.Claims) :
    called (o.tenure.outcome .look).journal =
      (if o.yields (.did .look) = [] then [] else [.revoke (.ofPartitions (o.yields (.did .look)))]).filter
        o.tenure.consumer.coordinator.hears := by
  have hcalled := (Consumer.taken_look o.tenure.consumer { broker := o.broker }).2
  change called (o.tenure.outcome .look).journal =
    (Consumer.first? o.broker o.id).toList.filter o.tenure.consumer.coordinator.hears at hcalled
  rw [hcalled]
  unfold Consumer.first?
  cases hm : o.broker.member? o.id with
  | none =>
    rw [yields_look_of_gone hm]
    rfl
  | some m =>
    rw [yields_look_of_member? hm, Option.bind_some, h.waiting m hm]
    unfold claim
    split <;> rfl

/-- Whatever happens, short of its owner taking it from it, a consumer that
never subscribes goes on holding what it holds, and no callback is called,
except when it looks and its group has claimed something: then it gives up
all it holds, and its callback for that hears of what was claimed. -/
theorem Reached.kept_unless_claimed (h : Reached o) {e : Tenure.Step} (ha : o.tenure.ByHand e)
    (ho : ¬ o.tenure.Owned e) :
    (o.tenure.after e).held = (if o.yields e = [] then o.tenure.held else []) ∧
      called (o.tenure.after e).journal = called o.tenure.journal ++
        (if o.yields e = [] then [] else [.revoke (.ofPartitions (o.yields e))]).filter
          o.tenure.consumer.coordinator.hears := by
  have hkept (hlook : e ≠ .did .look) : (o.tenure.after e).held = o.tenure.held :=
    Tenure.held_after h.tenure.sound h.tenure.issued ha ho hlook
  match e with
  | .beside _ | .equipped .. => exact ⟨hkept nofun, (List.append_nil _).symm⟩
  | .did (.commitMessage x asynchronous) =>
    have hcalled := (Consumer.taken_commitMessage o.tenure.consumer { broker := o.broker } x asynchronous).2
    refine ⟨hkept nofun, ?_⟩
    show called (o.tenure.journal ++ (o.tenure.outcome (.commitMessage x asynchronous)).journal) = _
    rw [called_append, Tenure.outcome, Deed.act_commitMessage]
    exact congrArg _ hcalled
  | .did .look => exact ⟨h.claims.held_look, (called_append ..).trans (congrArg _ h.claims.called_look)⟩
  | .did .close | .did (.release _) => exact absurd rfl ho

/-- The first of two members of a group assigns a partition to itself, and
the second subscribes. -/
def takenBack : Outsider :=
  [.equipped none (some fun _ _ => .ok ()) none,
    .beside (.asked (.member "kafka_group-1" (.assign [⟨⟨"t", 1⟩, .invalid⟩]))),
    .beside (.asked (.connect (Configuration.ofPairs [("group.id", "g")]))),
    .beside (.asked (.member "kafka_group-2" (.subscribe ["t"])))].foldl
    Outsider.after { tenure := .alone }

theorem reached_takenBack : Reached takenBack :=
  .step (.step (.step (.step (.start (.step (.start _) trivial) Tenure.create_alone) trivial) trivial) trivial)
    (show "kafka_group-2" ≠ "kafka_group-1" by decide)

/-- The partition is claimed as the second member subscribes, and the first
gives it up when it looks. -/
theorem kept_unless_claimed_takenBack :
    takenBack.tenure.held = [⟨"t", 1⟩] ∧ takenBack.yields (.did .look) = [⟨"t", 1⟩] ∧
      (takenBack.tenure.after (.did .look)).held = [] ∧
      called (takenBack.tenure.after (.did .look)).journal = [.revoke [⟨⟨"t", 1⟩, .invalid⟩]] := by
  have hyields : takenBack.yields (.did .look) = [⟨"t", 1⟩] := by decide +kernel
  have hbefore : called takenBack.tenure.journal = [] := by decide +kernel
  obtain ⟨hheld, hcalled⟩ :=
    reached_takenBack.kept_unless_claimed (e := .did .look) trivial Bool.false_ne_true
  rw [hyields, if_neg (List.cons_ne_nil _ _)] at hheld hcalled
  exact ⟨by decide +kernel, hyields, hheld, hcalled.trans (by rw [hbefore]; rfl)⟩

/-- What a consumer holds that never subscribes is not its owner's affair
alone. -/
theorem lost_takenBack :
    ¬ ∀ (t : Tenure) (e : Tenure.Step), Tenure.Reached Tenure.ByHand t → t.ByHand e → ¬ t.Owned e →
      (t.after e).held = t.held ∧
        ∀ l, (called (t.after e).journal).count (.revoke l) = (called t.journal).count (.revoke l) := by
  intro h
  obtain ⟨hheld, _⟩ :=
    h takenBack.tenure (.did .look) reached_takenBack.tenure trivial Bool.false_ne_true
  revert hheld
  decide +kernel

end Outsider

end ConsumerGroup
