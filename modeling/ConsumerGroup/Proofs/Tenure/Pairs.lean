import ConsumerGroup.Proofs.Broker.Turns
import ConsumerGroup.Proofs.Tenure.Run

/-!
# What is given is taken away

A consumer that is left to its group takes its notifications in pairs:
something it is given, and the same taken away from it, in its order, at
the latest when the consumer is closed (`Reached.taken_in_pairs`). Shares
that are empty make no pair: nothing is taken away after them.

The invariant is `Tenure.Paired`: what waits for the member is in turn
(`InTurn`), so that the next notification fits what the member holds,
and what was taken so far has led to that.

Crashes and failures of callbacks are left out, and so is whoever else
touches the member. Where callbacks are set throughout, what they were
called for is what was taken, and so in pairs too
(`Reached.called_eq_taken`).
-/

namespace ConsumerGroup

variable {all held : List Partition}

/-- A history of what was taken by whoever holds some partitions now: it is
given something while it holds nothing, and what it holds is taken away
from it, just that and no less. -/
inductive Pairs : List Partition → List Notification → Prop
  | start : Pairs [] []
  | given {history : List Notification} (ps : List Partition) (h : Pairs [] history) :
      Pairs ps (history ++ [.assign (.ofPartitions ps)])
  | takenAway {held : List Partition} {history : List Notification} (hheld : held ≠ [])
      (h : Pairs held history) : Pairs [] (history ++ [.revoke (.ofPartitions held)])

/-- What fits goes on with the history. -/
theorem Pairs.fits {history : List Notification} (h : Pairs held history) {q : Queued}
    (hq : q.Fits all held) : Pairs (q.leaves held) (history ++ [.ofCode q.code q.partitions]) := by
  cases hq with
  | given =>
    rw [Queued.leaves_of_assign rfl, PartitionList.partitions_ofPartitions]
    exact h.given _
  | takenAway hheld =>
    rw [Queued.leaves_of_revoke rfl]
    exact h.takenAway hheld

/-- Leaving out what was given and was nothing, a history is a row of
pairs: something given, and the same taken away. What is held now is the
last that was given, and is still to be taken away. -/
theorem Pairs.exists_row {history : List Notification} (h : Pairs held history) :
    ∃ ls : List PartitionList, (∀ l ∈ ls, l ≠ []) ∧ history.filter (· ≠ .assign []) =
      ls.flatMap (fun l => [.assign l, .revoke l]) ++
        if held = [] then [] else [.assign (.ofPartitions held)] := by
  have hne {held : List Partition} (hheld : held ≠ []) : PartitionList.ofPartitions held ≠ [] := by
    simpa [PartitionList.ofPartitions] using hheld
  induction h with
  | start => exact ⟨[], by simp, rfl⟩
  | given ps _ ih =>
    obtain ⟨ls, hls, hrow⟩ := ih
    refine ⟨ls, hls, ?_⟩
    rw [List.filter_append, hrow, if_pos rfl, List.append_nil, List.filter_singleton]
    by_cases hps : ps = []
    · subst hps
      rfl
    · simp [hps, hne hps]
  | @takenAway held _ hheld _ ih =>
    obtain ⟨ls, hls, hrow⟩ := ih
    refine ⟨ls ++ [.ofPartitions held], ?_, ?_⟩
    · exact List.forall_mem_append.mpr ⟨hls, List.forall_mem_singleton.mpr (hne hheld)⟩
    · rw [List.filter_append, hrow, if_neg hheld, List.flatMap_append]
      simp

namespace Tenure

variable {t : Tenure} {allowed : Tenure → Step → Prop}

/-- The consumer is left to its group: nobody else touches its member, its
owner keeps it as long as no crash is being handled, and no callback
crashes or changes which partitions are assigned. -/
def Undisturbed (t : Tenure) : Step → Prop
  | .beside e => ¬ e.Touches t.id
  | .did d => d ≠ .release true ∧ ∀ e, (t.outcome d).result = .error e → e.ofCallback = false
  | .equipped .. => True

/-- The member is there until the consumer is closed, what waits for it is
in turn, and what was taken so far is in pairs. -/
structure Paired (t : Tenure) : Prop where
  present : t.broker.Present t.id ↔ t.consumer.closed = false
  inTurn : ∀ m, t.broker.member? t.id = some m →
    InTurn t.broker.topics.partitions m.held m.queue
  pairs : Pairs t.held (taken t.journal)

theorem held_of_member? {m : Member} (h : t.broker.member? t.id = some m) : t.held = m.held :=
  Broker.heldBy_of_member? h

theorem held_of_absent (h : ¬ t.broker.Present t.id) : t.held = [] :=
  Broker.heldBy_of_gone (Broker.member?_eq_none_iff.mpr h)

/-- A member that has only been dealt to holds what it did, and what waits
is still in turn. -/
theorem Paired.dealt {u : Tenure} (h : t.Paired) {m m' : Member} (hid : u.id = t.id)
    (hm : t.broker.member? t.id = some m) (hm' : u.broker.member? t.id = some m')
    (hall : t.broker.topics.partitions.Sublist u.broker.topics.partitions)
    (hd : m.Dealt u.broker.topics.partitions m')
    (hclosed : u.consumer.closed = t.consumer.closed) (ht : taken u.journal = taken t.journal) :
    u.Paired := by
  have hheld : m'.held = m.held := congrArg (List.map Slot.partition) hd.frame.2.2
  rw [← hid] at hm'
  refine ⟨?_, ?_, ?_⟩
  · rw [hclosed, ← h.present]
    exact iff_of_true (Broker.present_of_member? hm') (Broker.present_of_member? hm)
  · intro m'' hm''
    cases hm''.symm.trans hm'
    exact (h.inTurn m hm).dealt hall hd
  · rw [held_of_member? hm', hheld, ht, ← held_of_member? hm]
    exact h.pairs

/-- Whoever has left holds nothing more. -/
theorem Paired.gone {u : Tenure} (hn : ¬ u.broker.Present u.id) (hclosed : u.consumer.closed = true)
    (hpairs : Pairs [] (taken u.journal)) : u.Paired := by
  refine ⟨?_, ?_, ?_⟩
  · exact iff_of_false hn (by simp [hclosed])
  · exact fun m hm => absurd (Broker.present_of_member? hm) hn
  · rwa [held_of_absent hn]

/-- Whoever has left stays away. -/
theorem Paired.absent {u : Tenure} (h : t.Paired) (hid : u.id = t.id)
    (hn : ¬ t.broker.Present t.id) (hn' : ¬ u.broker.Present t.id)
    (hclosed : u.consumer.closed = t.consumer.closed) (ht : taken u.journal = taken t.journal) :
    u.Paired := by
  refine .gone (hid ▸ hn') ?_ ?_
  · rw [hclosed]
    exact eq_true_of_ne_false fun hc => hn (h.present.mpr hc)
  · rw [ht, ← held_of_absent hn]
    exact h.pairs

/-- In its end a consumer gives up what it holds, if that is anything. -/
theorem Paired.takes_end (h : t.Paired) {d : Deed} (hd : d.ends = true) (hne : d ≠ .release true) :
    taken (t.outcome d).journal =
      if t.held = [] then [] else [.revoke (.ofPartitions t.held)] := by
  cases hc : t.consumer.closed with
  | true =>
    have hheld : t.held = [] := held_of_absent fun hp => by simp [h.present.mp hp] at hc
    rw [if_pos hheld]
    cases d with
    | look | commitMessage => cases hd
    | close => rw [closed_again hc]; rfl
    | release unwinding =>
      rw [outcome, Deed.act_release]
      exact (Consumer.taken_release t.consumer _ unwinding).1.trans (if_pos (.inl hc))
  | false =>
    have hclose := (Consumer.taken_close t.consumer { broker := t.broker } hc).1
    cases d with
    | look | commitMessage => cases hd
    | close =>
      rw [outcome, Deed.act_close]
      exact hclose
    | release unwinding =>
      obtain rfl : unwinding = false := Bool.eq_false_iff.mpr fun h => hne (congrArg _ h)
      rw [outcome, Deed.act_release]
      have hrelease := (Consumer.taken_release t.consumer { broker := t.broker } false).1
      rw [if_neg (by simp [hc]), hclose] at hrelease
      exact hrelease

/-- Whatever the consumer does, it takes one notification at most, and that
fits what it holds. -/
theorem Paired.takes (h : t.Paired) {d : Deed} (hne : d ≠ .release true) :
    taken (t.outcome d).journal = [] ∨ ∃ q : Queued, q.Fits t.broker.topics.partitions t.held ∧
      taken (t.outcome d).journal = [.ofCode q.code q.partitions] := by
  by_cases hd : d.ends = true
  · rw [h.takes_end hd hne]
    by_cases hheld : t.held = []
    · exact .inl (if_pos hheld)
    · exact .inr ⟨_, .takenAway hheld, if_neg hheld⟩
  · match d with
    | .look =>
      have htaken := (Consumer.taken_look t.consumer { broker := t.broker }).1
      change taken (t.outcome .look).journal = (Consumer.first? t.broker t.id).toList at htaken
      rw [htaken]
      unfold Consumer.first?
      cases hm : t.broker.member? t.id with
      | none => exact .inl rfl
      | some m =>
        have hturn := h.inTurn m hm
        cases hq : m.queue with
        | nil => exact .inl (by rw [Option.bind_some, hq]; rfl)
        | cons q rest =>
          rw [hq, ← held_of_member? hm] at hturn
          exact .inr ⟨q, hturn.1, by rw [Option.bind_some, hq]; rfl⟩
    | .commitMessage x asynchronous =>
      rw [outcome, Deed.act_commitMessage]
      exact .inl (Consumer.taken_commitMessage t.consumer _ x asynchronous).1

/-- What a deed takes comes behind what was taken before. -/
theorem taken_did (t : Tenure) (d : Deed) :
    taken (t.after (.did d)).journal = taken t.journal ++ taken (t.outcome d).journal :=
  taken_append _ _

/-! ## Every step keeps it so -/

/-- What others do leaves everything in pairs, though they may be dealt to. -/
theorem Paired.beside (h : t.Paired) (hs : t.broker.Sound) (hi : t.broker.Issued t.id)
    {e : Happening} (he : ¬ e.Touches t.id) : (t.after (.beside e)).Paired := by
  by_cases hp : t.broker.Present t.id
  · obtain ⟨m, hm⟩ := Broker.present_iff.mp hp
    obtain ⟨m', hm', hd⟩ := Chronicle.dealt_aside hs he hm
    exact h.dealt (u := t.after (.beside e)) rfl hm hm' (t.chronicle.partitions_after e) hd rfl rfl
  · exact h.absent (u := t.after (.beside e)) rfl hp (Chronicle.absent_after hi hp e) rfl rfl

/-- A look takes the first notification that waits, and does what it
says. -/
theorem Paired.looked (h : t.Paired)
    (ho : ∀ e, (t.outcome .look).result = .error e → e.ofCallback = false) :
    (t.after (.did .look)).Paired := by
  have hclosed : (t.after (.did .look)).consumer.closed = t.consumer.closed :=
    (t.closed_did .look).trans (Bool.or_false _)
  have htaken := (Consumer.taken_look t.consumer { broker := t.broker }).1
  change taken (t.outcome .look).journal = (Consumer.first? t.broker t.id).toList at htaken
  have hlooked := t.looked
  generalize hb : (t.after (.did .look)).broker = b' at hlooked
  cases hlooked with
  | gone hm =>
    have hp : ¬ t.broker.Present t.id := Broker.member?_eq_none_iff.mp hm
    refine h.absent (id_after t _) hp (hb ▸ hp) hclosed ?_
    rw [taken_did, htaken]
    unfold Consumer.first?
    rw [hm]
    exact List.append_nil _
  | @changed m m' hm hl =>
    have hm' : (t.after (.did .look)).broker.member? (t.after (.did .look)).id = some m' := by
      rw [hb, id_after]
      exact Broker.member?_replaced hm (hl.id_eq.trans (Broker.id_of_member? hm))
    have hturn := h.inTurn m hm
    have hbefore := h.pairs
    rw [held_of_member? hm] at hbefore
    -- What waits afterwards is in turn for what is held then, and what was taken led there.
    obtain ⟨hqueue, hpairs⟩ : InTurn t.broker.topics.partitions m'.held m'.queue ∧
        Pairs m'.held (taken (t.after (.did .look)).journal) := by
      rw [taken_did, htaken]
      unfold Consumer.first?
      cases hq : m.queue with
      | nil =>
        obtain ⟨hqueue, hheld⟩ := hl.idle hq
        rw [hqueue, hheld, hm, Option.bind_some, hq]
        exact ⟨trivial, by simpa using hbefore⟩
      | cons q rest =>
        rw [hq] at hturn
        obtain ⟨hqueue, hheld⟩ := hl.leaves ho hq hturn.1.share
        rw [hqueue, hheld, hm, Option.bind_some, hq]
        exact ⟨hturn.2, hbefore.fits hturn.1⟩
    refine ⟨?_, ?_, ?_⟩
    · rw [hclosed, ← h.present]
      exact iff_of_true (Broker.present_of_member? hm') (Broker.present_of_member? hm)
    · intro m'' hm''
      cases hm''.symm.trans hm'
      rw [hb]
      exact hqueue
    · rwa [held_of_member? hm']

/-- A commit changes nothing about the member. -/
theorem Paired.committed (h : t.Paired) (hs : t.broker.Sound) (hi : t.broker.Issued t.id)
    (x : Message) (asynchronous : Bool) :
    (t.after (.did (.commitMessage x asynchronous))).Paired := by
  have hnothing : taken (t.outcome (.commitMessage x asynchronous)).journal = [] := by
    rw [outcome, Deed.act_commitMessage]
    exact (Consumer.taken_commitMessage t.consumer _ x asynchronous).1
  have htaken := taken_did t (.commitMessage x asynchronous)
  rw [hnothing, List.append_nil] at htaken
  have hclosed := (t.closed_did (.commitMessage x asynchronous)).trans (Bool.or_false _)
  have hid := t.id_after (.did (.commitMessage x asynchronous))
  have hall : t.broker.topics.partitions.Sublist
      (t.after (.did (.commitMessage x asynchronous))).broker.topics.partitions :=
    t.chronicle.partitions_after _
  have habsent (hp : ¬ t.broker.Present t.id) :
      ¬ (t.after (.did (.commitMessage x asynchronous))).broker.Present t.id :=
    Chronicle.absent_after hi hp _
  have hdealt (m : Member) (hm : t.broker.member? t.id = some m) :=
    dealt_committed hs hm x asynchronous
  generalize t.after (.did (.commitMessage x asynchronous)) = u at *
  by_cases hp : t.broker.Present t.id
  · obtain ⟨m, hm⟩ := Broker.present_iff.mp hp
    obtain ⟨m', hm', hd⟩ := hdealt m hm
    exact h.dealt hid hm hm' hall hd hclosed htaken
  · exact h.absent hid hp (habsent hp) hclosed htaken

/-- In its end a consumer gives up what it holds, and its member leaves. -/
theorem Paired.ended (h : t.Paired) {d : Deed} (hd : d.ends = true) (hne : d ≠ .release true)
    (ho : ∀ e, (t.outcome d).result = .error e → e.ofCallback = false) :
    (t.after (.did d)).Paired := by
  have hleft : (t.after (.did d)).broker = (t.broker.leave t.id).broker := by
    match d with
    | .release unwinding => exact t.released unwinding
    | .close =>
      cases hc : t.consumer.closed with
      | true =>
        have hgone : t.broker.member? t.id = none := by
          refine Broker.member?_eq_none_iff.mpr fun hp => ?_
          rw [h.present.mp hp] at hc
          cases hc
        rw [broker_did, closed_again hc]
        unfold Broker.leave
        rw [hgone]
        rfl
      | false =>
        rcases closed_first hc with ⟨_, hb⟩ | ⟨hcrashed, _⟩
        · exact hb
        · unfold Outcome.crashed at hcrashed
          split at hcrashed
          · next e he => cases ho _ he
          · cases hcrashed
  refine .gone ?_ ?_ ?_
  · rw [hleft, id_after]
    exact Broker.member?_eq_none_iff.mp (t.broker.member?_leave t.id)
  · rw [closed_did, hd, Bool.or_true]
  · rw [taken_did, h.takes_end hd hne]
    split
    · next hheld =>
      rw [List.append_nil, ← hheld]
      exact h.pairs
    · next hheld => exact h.pairs.takenAway hheld

/-- Every step of a consumer that is left to its group keeps what it takes in
pairs. -/
theorem Paired.after (h : t.Paired) (hs : t.broker.Sound) (hi : t.broker.Issued t.id) {e : Step}
    (he : t.Undisturbed e) : (t.after e).Paired := by
  match e with
  | .beside e => exact h.beside hs hi he
  | .equipped .. => exact ⟨h.present, h.inTurn, h.pairs⟩
  | .did .look => exact h.looked he.2
  | .did (.commitMessage x asynchronous) => exact h.committed hs hi x asynchronous
  | .did .close | .did (.release _) => exact h.ended rfl he.1 he.2

/-- So it is in pairs all its life. -/
theorem Reached.isPaired (h : Reached allowed t) (ha : ∀ t e, allowed t e → t.Undisturbed e) :
    t.Paired := by
  induction h with
  | start hs hc =>
    obtain ⟨hclosed, options, hm⟩ := member?_begun hs.sound hc
    refine ⟨iff_of_true (Broker.present_of_member? hm) hclosed, ?_, ?_⟩
    · intro m hm'
      cases hm.symm.trans hm'
      trivial
    · rw [held_of_member? hm]
      exact .start
  | step ht hstep ih => exact ih.after ht.sound ht.issued (ha _ _ hstep)

/-- Callbacks for what is given and for what is taken away are set. -/
def Attentive (t : Tenure) : Prop :=
  t.consumer.coordinator.onAssign.isSome = true ∧ t.consumer.coordinator.onRevoke.isSome = true

instance (t : Tenure) : Decidable t.Attentive := inferInstanceAs (Decidable (_ ∧ _))

/-- An attentive consumer hears of everything it takes. -/
theorem Paired.called_eq_taken (h : t.Paired) (ht : t.Attentive) {d : Deed} (hne : d ≠ .release true) :
    called (t.outcome d).journal = taken (t.outcome d).journal := by
  rw [outcome, world, Deed.called_act, List.filter_eq_self]
  intro n hn
  rcases h.takes hne with htaken | ⟨q, hq, htaken⟩
  · rw [outcome, world] at htaken
    rw [htaken] at hn
    cases hn
  · rw [outcome, world] at htaken
    rw [htaken, List.mem_singleton] at hn
    rcases hq.notification with ⟨_, ps, he⟩ | ⟨_, he⟩
    · rw [hn, he]
      exact ht.1
    · rw [hn, he]
      exact ht.2

/-- A consumer whose callbacks are always set has called them for whatever it
took. -/
theorem Reached.called_eq_taken (h : Reached allowed t) (ha : ∀ t e, allowed t e → t.Undisturbed e)
    (hattentive : ∀ t d, allowed t (.did d) → t.Attentive) : called t.journal = taken t.journal := by
  induction h with
  | start => rfl
  | @step t e ht hstep ih =>
    cases e with
    | beside | equipped => exact ih
    | did d =>
      have hd := (ht.isPaired ha).called_eq_taken (hattentive t d hstep) (ha t _ hstep).1
      show called (_ ++ _) = taken (_ ++ _)
      rw [called_append, taken_append, ih, hd]

/-- What the consumer takes is in pairs: something it is given, and the same
taken away from it. -/
structure InPairs (t : Tenure) : Prop where
  /-- What is taken away is what is held, all of it, in its order. -/
  takenAway : ∀ d, d ≠ .release true → ∀ l, .revoke l ∈ taken (t.outcome d).journal →
    t.held ≠ [] ∧ l = .ofPartitions t.held
  /-- Nothing is given while something is held. -/
  given : ∀ d, d ≠ .release true → ∀ l, .assign l ∈ taken (t.outcome d).journal → t.held = []
  /-- Whoever closes the consumer, or lets go of it, has it give up what it
  holds, if that is anything. -/
  ends : ∀ d, d = .close ∨ d = .release false → taken (t.outcome d).journal =
    if t.held = [] then [] else [.revoke (.ofPartitions t.held)]
  /-- Callbacks are called for what is taken, where they are set. -/
  calls : ∀ d, called (t.outcome d).journal =
    (taken (t.outcome d).journal).filter t.consumer.coordinator.hears
  /-- Apart from empty shares, what has been taken is a row of pairs, and then
  what is held now. -/
  row : ∃ ls : List PartitionList, (∀ l ∈ ls, l ≠ []) ∧ (taken t.journal).filter (· ≠ .assign []) =
    ls.flatMap (fun l => [.assign l, .revoke l]) ++
      if t.held = [] then [] else [.assign (.ofPartitions t.held)]
  /-- Once the consumer is closed, nothing is left. -/
  closed : t.consumer.closed = true → t.held = []

/-- What is in pairs so far goes on in pairs, whatever the consumer does next. -/
theorem Paired.inPairs (h : t.Paired) : t.InPairs := by
  have htakes {d : Deed} (hne : d ≠ .release true) (l : PartitionList) :
      (.revoke l ∈ taken (t.outcome d).journal → t.held ≠ [] ∧ l = .ofPartitions t.held) ∧
        (.assign l ∈ taken (t.outcome d).journal → t.held = []) := by
    rcases h.takes hne with htaken | ⟨q, hq, htaken⟩
    · simp [htaken]
    · rw [htaken, List.mem_singleton, List.mem_singleton]
      rcases hq.notification with ⟨hheld, ps, he⟩ | ⟨hheld, he⟩
      · rw [he]
        exact ⟨nofun, fun _ => hheld⟩
      · rw [he]
        exact ⟨fun h => ⟨hheld, Notification.revoke.inj h⟩, nofun⟩
  exact {
    takenAway := fun d hne l => (htakes hne l).1
    given := fun d hne l => (htakes hne l).2
    ends := fun d hd => by rcases hd with rfl | rfl <;> exact h.takes_end rfl nofun
    calls := fun d => d.called_act _ _
    row := h.pairs.exists_row
    closed := fun hc => held_of_absent fun hp => by simp [h.present.mp hp] at hc }

/-- As long as a consumer is left to its group, what it takes is in pairs;
and if its callbacks are set all along, they are called for just that. -/
theorem Reached.taken_in_pairs (h : Reached allowed t) (ha : ∀ t e, allowed t e → t.Undisturbed e) :
    t.InPairs ∧
      ((∀ t d, allowed t (.did d) → t.Attentive) → called t.journal = taken t.journal) :=
  ⟨(h.isPaired ha).inPairs, h.called_eq_taken ha⟩

/-- The first of a group holds everything until the second comes, and is
closed then. -/
theorem taken_in_pairs_joinedLater :
    let allowed (t : Tenure) (e : Step) : Prop :=
      t.Undisturbed e ∧ ∀ d, e = .did d → t.Attentive
    ∃ t, Reached allowed t ∧ t.consumer.closed = true ∧
      taken t.journal = [.assign [⟨⟨"t", 0⟩, .invalid⟩, ⟨⟨"t", 1⟩, .invalid⟩],
        .revoke [⟨⟨"t", 0⟩, .invalid⟩, ⟨⟨"t", 1⟩, .invalid⟩],
        .assign [⟨⟨"t", 0⟩, .invalid⟩], .revoke [⟨⟨"t", 0⟩, .invalid⟩]] ∧
      t.InPairs ∧ called t.journal = taken t.journal := by
  intro allowed
  have did {t : Tenure} {d : Deed} (hd : d ≠ .release true)
      (ho : (t.outcome d).result.isOk = true) (ht : t.Attentive) : allowed t (.did d) := by
    refine ⟨⟨hd, fun e he => ?_⟩, fun _ _ => ht⟩
    rw [he] at ho
    cases ho
  have beside {t : Tenure} {e : Happening} (he : ¬ e.Touches t.id) : allowed t (.beside e) :=
    ⟨he, nofun⟩
  have hreached := Reached.step (e := .did .close) (.step (e := .did .look)
    (.step (e := .did .look)
    (.step (e := .beside (.asked (.member "kafka_group-2" (.subscribe ["t"]))))
    (.step (e := .beside (.asked (.connect (Configuration.ofPairs [("group.id", "g")]))))
    (.step (e := .did .look)
    (.step (e := .beside (.asked (.member "kafka_group-1" (.subscribe ["t"]))))
    (.step (e := .equipped (some fun _ l => .ok (l.setAll .beginning)) (some fun _ _ => .ok ()) none)
      reached_alone ⟨trivial, nofun⟩)
    (beside (fun h => h)))
    (did nofun (by decide +kernel) (by decide +kernel)))
    (beside (fun h => h)))
    (beside (fun h => h)))
    (did nofun (by decide +kernel) (by decide +kernel)))
    (did nofun (by decide +kernel) (by decide +kernel)))
    (did nofun (by decide +kernel) (by decide +kernel))
  have hpairs := Reached.taken_in_pairs hreached fun _ _ h => h.1
  exact ⟨_, hreached, by decide +kernel, by decide +kernel, hpairs.1,
    hpairs.2 fun t d h => h.2 d rfl⟩

end Tenure

end ConsumerGroup
