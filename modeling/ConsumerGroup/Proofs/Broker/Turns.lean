import ConsumerGroup.Notification
import ConsumerGroup.Proofs.Broker.Frame
import ConsumerGroup.Proofs.Broker.Queue

/-!
# What waits is in turn

As long as a member is left to its group, what waits for it is in turn:
a share finds it with empty hands, and a revocation names just what it
holds then, in that order (`InTurn`). This is said of the whole queue,
for whoever takes it one notification after the other; a rebalance puts
its notifications behind that, however many wait already
(`InTurn.dealt`).

That a queue is orderly says less: it does not say what a revocation
names, nor that it takes anything away.

The proofs go along the queue, with what the member holds by then, and with
all partitions there are, which may become more while it waits. Callbacks
play no part: it is said what would be held if every notification were
obeyed.
-/

namespace ConsumerGroup

/-- A notification as a rebalance queues it for a member that holds some
partitions when its turn comes. -/
inductive Queued.Fits (all : List Partition) : List Partition → Queued → Prop
  | given {ps : List Partition} (h : ps.Sublist all) :
      Fits all [] ⟨.assignPartitions, .ofPartitions ps⟩
  | takenAway {held : List Partition} (h : held ≠ []) :
      Fits all held ⟨.revokePartitions, .ofPartitions held⟩

/-- Each notification fits what the member holds once it has taken those
before. -/
def InTurn (all : List Partition) : List Partition → List Queued → Prop
  | _, [] => True
  | held, q :: rest => q.Fits all held ∧ InTurn all (q.leaves held) rest

variable {all all' held : List Partition} {queue more : List Queued} {m m' : Member}

/-- It leaves the member with something that has no offset set. -/
theorem Queued.Fits.outcome? {q : Queued} (h : q.Fits all held) :
    Member.Queued.outcome? q = some (.ofPartitions (q.leaves held)) := by
  cases h with
  | given =>
    rw [leaves_of_assign rfl, PartitionList.partitions_ofPartitions]
    rfl
  | takenAway =>
    rw [leaves_of_revoke rfl]
    rfl

/-- What fits is given to whoever holds nothing, or names just what is
held. -/
theorem Queued.Fits.notification {q : Queued} (h : q.Fits all held) :
    (held = [] ∧ ∃ ps, Notification.ofCode q.code q.partitions = .assign (.ofPartitions ps)) ∨
      (held ≠ [] ∧ Notification.ofCode q.code q.partitions = .revoke (.ofPartitions held)) := by
  cases h with
  | given => exact .inl ⟨rfl, _, rfl⟩
  | takenAway hheld => exact .inr ⟨hheld, rfl⟩

/-- A share names partitions that are there. -/
theorem Queued.Fits.share {q : Queued} (h : q.Fits all held) (hc : q.code = .assignPartitions) :
    q.partitions.partitions.Sublist all := by
  cases h with
  | given hps => rwa [PartitionList.partitions_ofPartitions]
  | takenAway => exact absurd hc StatusCode.revokePartitions_ne_assignPartitions

/-- Two rows are in turn if the second is so from where the first leaves the
member. -/
theorem inTurn_append :
    InTurn all held (queue ++ more) ↔
      InTurn all held queue ∧ InTurn all (heldAfter held queue) more := by
  induction queue generalizing held with
  | nil => simp [InTurn]
  | cons q queue ih => simp [InTurn, ih, and_assoc]

/-- What is in turn stays so when there are more partitions. -/
theorem InTurn.mono (h : InTurn all held queue) (hall : all.Sublist all') :
    InTurn all' held queue := by
  induction queue generalizing held with
  | nil => trivial
  | cons q queue ih =>
    refine ⟨?_, ih h.2⟩
    cases h.1 with
    | given hps => exact .given (hps.trans hall)
    | takenAway hheld => exact .takenAway hheld

/-- While everything is in turn, no offset is set in what a member
effectively holds. -/
theorem effectiveAssignment_of_inTurn (h : InTurn all m.held m.queue) :
    m.effectiveAssignment = .ofPartitions (heldAfter m.held m.queue) := by
  unfold Member.effectiveAssignment
  revert h
  induction m.queue using List.reverseRecOn with
  | nil => exact fun _ => rfl
  | append_singleton queue q ih =>
    intro h
    rw [inTurn_append] at h
    rw [List.reverse_append, heldAfter_append, heldAfter_cons, heldAfter_nil]
    show ((q :: queue.reverse).findSome? Member.Queued.outcome?).getD _ = _
    rw [List.findSome?_cons, h.2.1.outcome?]
    rfl

/-- What a rebalance queues is in turn behind what waits. -/
theorem inTurn_dealtNotices (h : InTurn all m.held m.queue) {share : Option (List Partition)}
    (hs : (share.getD []).Sublist all) :
    InTurn all (heldAfter m.held m.queue) (dealtNotices m share) := by
  unfold dealtNotices
  rw [effectiveAssignment_of_inTurn h]
  generalize heldAfter m.held m.queue = held
  by_cases he : held = []
  · subst he
    cases share with
    | none => trivial
    | some ps => exact ⟨.given hs, trivial⟩
  · rw [if_neg (by simpa [PartitionList.ofPartitions] using he)]
    cases share with
    | none => exact ⟨.takenAway he, trivial⟩
    | some ps => exact ⟨.takenAway he, .given hs, trivial⟩

/-- To be dealt to keeps a row in turn. -/
theorem InTurn.dealt (h : InTurn all m.held m.queue) (hall : all.Sublist all') (hd : m.Dealt all' m') :
    InTurn all' m'.held m'.queue := by
  induction hd with
  | refl => exact h.mono hall
  | resubscribed _ _ ih => exact ih
  | @rebalanced m' g s hs _ ih =>
    by_cases hg : m'.group = g
    · rw [Member.rebalanced_of_eq hg]
      exact inTurn_append.mpr ⟨ih, inTurn_dealtNotices ih hs⟩
    · rwa [Member.rebalanced_of_ne hg]

end ConsumerGroup
