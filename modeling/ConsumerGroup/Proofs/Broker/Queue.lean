import ConsumerGroup.Broker.Rebalance
import Mathlib.Data.List.Induction
import Mathlib.Tactic.Common

/-!
# What waits for a member

A member that takes what waits for it, one notification after the other,
holds something else after each. `heldAfter` is what it holds in the end;
the effective assignment names exactly that
(`partitions_effectiveAssignment`).

A queue is orderly for a member when every share in it finds the member
with empty hands: what it held was taken away before. A rebalance keeps
queues orderly, because it takes away what is effectively held before it
gives (`Orderly.rebalanced`). Taking a notification without doing what
it says never makes a queue less orderly as long as it leaves the member
with nothing (`Orderly.of_nothing`).

The proofs go along the queue from its front, with what the member holds by
then. Codes other than the two that hand out and take away leave a member
with what it held, whatever partitions they name.
-/

namespace ConsumerGroup

/-- What a member that holds some partitions holds after a notification. -/
def Queued.leaves (q : Queued) (held : List Partition) : List Partition :=
  ((Member.Queued.outcome? q).map PartitionList.partitions).getD held

/-- What a member that holds some partitions holds once it has taken what
waits for it. -/
def heldAfter (held : List Partition) (queue : List Queued) : List Partition :=
  queue.foldl (fun held q => q.leaves held) held

/-- To take away is not to hand out. -/
@[simp] theorem StatusCode.revokePartitions_ne_assignPartitions :
    StatusCode.revokePartitions ≠ .assignPartitions := by decide

/-- Every share finds the member with empty hands. -/
def Orderly : List Partition → List Queued → Prop
  | _, [] => True
  | held, q :: rest =>
    (q.code = .assignPartitions → held = []) ∧ Orderly (q.leaves held) rest

namespace Queued

/-- A share leaves a member with what it names. -/
theorem leaves_of_assign {q : Queued} (h : q.code = .assignPartitions) (held : List Partition) :
    leaves q held = q.partitions.partitions := by
  simp [leaves, Member.Queued.outcome?, h]

/-- A revocation leaves a member with nothing. -/
theorem leaves_of_revoke {q : Queued} (h : q.code = .revokePartitions) (held : List Partition) :
    leaves q held = [] := by
  simp [leaves, Member.Queued.outcome?, h]

/-- Any other notification leaves a member with what it held. -/
theorem leaves_of_neither {q : Queued} (ha : q.code ≠ .assignPartitions)
    (hr : q.code ≠ .revokePartitions) (held : List Partition) : q.leaves held = held := by
  simp [leaves, Member.Queued.outcome?, ha, hr]

/-- Either a notification decides what is held, or it leaves it alone. -/
theorem leaves_eq_or (q : Queued) :
    (∃ l, ∀ held, q.leaves held = l) ∨ ∀ held, q.leaves held = held := by
  unfold leaves
  cases Member.Queued.outcome? q with
  | none => exact .inr fun _ => rfl
  | some l => exact .inl ⟨l.partitions, fun _ => rfl⟩

end Queued

open Queued

@[simp] theorem heldAfter_nil (held : List Partition) : heldAfter held [] = held := rfl

@[simp] theorem heldAfter_cons (held : List Partition) (q : Queued) (queue : List Queued) :
    heldAfter held (q :: queue) = heldAfter (q.leaves held) queue := rfl

/-- What is held after two rows of notifications is held after the second,
from where the first has left it. -/
theorem heldAfter_append (held : List Partition) (queue more : List Queued) :
    heldAfter held (queue ++ more) = heldAfter (heldAfter held queue) more :=
  List.foldl_append

/-- What is held in the end depends on what was held before only if
nothing that waits decides it. -/
theorem heldAfter_eq_or (queue : List Queued) :
    (∃ l, ∀ held, heldAfter held queue = l) ∨ ∀ held, heldAfter held queue = held := by
  induction queue with
  | nil => exact .inr fun _ => rfl
  | cons q queue ih =>
    rcases ih with ⟨l, hl⟩ | hsame
    · exact .inl ⟨l, fun held => hl _⟩
    · rcases leaves_eq_or q with ⟨l, hl⟩ | hq
      · exact .inl ⟨l, fun held => by rw [heldAfter_cons, hsame, hl]⟩
      · exact .inr fun held => by rw [heldAfter_cons, hsame, hq]

/-- A member that holds nothing instead of something ends up with the same,
or with nothing. -/
theorem heldAfter_nothing (held : List Partition) (queue : List Queued) :
    heldAfter [] queue = heldAfter held queue ∨ heldAfter [] queue = [] := by
  rcases heldAfter_eq_or queue with ⟨l, hl⟩ | hsame
  · exact .inl ((hl []).trans (hl held).symm)
  · exact .inr (hsame [])

/-- The effective assignment names what the member holds in the end. -/
theorem partitions_effectiveAssignment (m : Member) :
    m.effectiveAssignment.partitions = heldAfter m.held m.queue := by
  unfold Member.effectiveAssignment heldAfter
  induction m.queue using List.reverseRecOn with
  | nil => simp
  | append_singleton queue q ih =>
    rw [List.reverse_append, List.foldl_append]
    show PartitionList.partitions (((q :: queue.reverse).findSome? Member.Queued.outcome?).getD _) = q.leaves _
    unfold leaves
    rw [List.findSome?_cons]
    cases Member.Queued.outcome? q with
    | some l => rfl
    | none => exact ih

/-- Nothing is effectively held just where nothing is left by what waits. -/
theorem isEmpty_effectiveAssignment (m : Member) :
    m.effectiveAssignment.isEmpty = (heldAfter m.held m.queue).isEmpty := by
  rw [← partitions_effectiveAssignment, PartitionList.partitions, List.isEmpty_map]

/-! ## Orderly queues -/

/-- Two rows of notifications are in order if the second is so from where the
first leaves the member. -/
theorem orderly_append {held : List Partition} {queue more : List Queued} :
    Orderly held (queue ++ more) ↔ Orderly held queue ∧ Orderly (heldAfter held queue) more := by
  induction queue generalizing held with
  | nil => simp [Orderly]
  | cons q queue ih => simp [Orderly, ih, and_assoc]

/-- A queue that is orderly for a member is so for one that holds
nothing. -/
theorem Orderly.of_nothing {held : List Partition} {queue : List Queued} (h : Orderly held queue) :
    Orderly [] queue := by
  induction queue generalizing held with
  | nil => trivial
  | cons q queue ih =>
    refine ⟨fun _ => rfl, ?_⟩
    rcases leaves_eq_or q with ⟨l, hl⟩ | hq
    · rw [hl, ← hl held]
      exact h.2
    · rw [hq]
      exact ih h.2

/-! ## What a rebalance queues -/

/-- What a rebalance queues for a member of the group: to give up what it
effectively holds, if that is anything, and then its share, if it takes
part. -/
def dealtNotices (m : Member) (share : Option (List Partition)) : List Queued :=
  (if m.effectiveAssignment.isEmpty then [] else [⟨.revokePartitions, m.effectiveAssignment⟩]) ++
    match share with
    | some ps => [⟨.assignPartitions, .ofPartitions ps⟩]
    | none => []

/-- A member of the group is told of its share behind what waits already. -/
theorem Member.rebalanced_of_eq {g : String} {m : Member} (h : m.group = g)
    (share : Option (List Partition)) :
    m.rebalanced g share = { m with queue := m.queue ++ dealtNotices m share } := by
  unfold Member.rebalanced dealtNotices
  rw [if_pos h]
  have happend := List.append_assoc m.queue
  cases share <;> exact congrArg (fun queue => ({ m with queue } : Member)) (happend _ _)

/-- Members of other groups are told nothing. -/
theorem Member.rebalanced_of_ne {g : String} {m : Member} (h : m.group ≠ g)
    (share : Option (List Partition)) : m.rebalanced g share = m := by
  unfold Member.rebalanced
  rw [if_neg h]

/-- Once a rebalance is dealt with, a member holds its share and nothing
else. -/
theorem heldAfter_dealtNotices (m : Member) (share : Option (List Partition)) :
    heldAfter (heldAfter m.held m.queue) (dealtNotices m share) = share.getD [] := by
  unfold dealtNotices
  rw [isEmpty_effectiveAssignment, heldAfter_append]
  have hgiven (held : List Partition) (ps : List Partition) :
      heldAfter held [⟨.assignPartitions, .ofPartitions ps⟩] = ps := by
    rw [heldAfter_cons, heldAfter_nil, leaves_of_assign rfl]
    exact PartitionList.partitions_ofPartitions ps
  cases share with
  | some ps => exact hgiven _ ps
  | none =>
    rw [heldAfter_nil]
    by_cases he : (heldAfter m.held m.queue).isEmpty
    · rw [if_pos he, heldAfter_nil]
      exact List.isEmpty_iff.mp he
    · rw [if_neg he, heldAfter_cons, heldAfter_nil, leaves_of_revoke rfl]
      rfl

/-- What a rebalance queues is orderly behind what waits. -/
theorem orderly_dealtNotices (m : Member) (share : Option (List Partition)) :
    Orderly (heldAfter m.held m.queue) (dealtNotices m share) := by
  unfold dealtNotices
  rw [isEmpty_effectiveAssignment, orderly_append]
  by_cases he : (heldAfter m.held m.queue).isEmpty
  · rw [if_pos he]
    refine ⟨trivial, ?_⟩
    cases share with
    | none => trivial
    | some ps => exact ⟨fun _ => List.isEmpty_iff.mp he, trivial⟩
  · rw [if_neg he]
    refine ⟨⟨fun h => absurd h StatusCode.revokePartitions_ne_assignPartitions, trivial⟩, ?_⟩
    cases share with
    | none => trivial
    | some ps =>
      refine ⟨?_, trivial⟩
      intro _
      rw [heldAfter_cons, heldAfter_nil, leaves_of_revoke rfl]

/-- Once it has taken all that waits, a member holds its share and nothing
else, whatever waited before. -/
theorem heldAfter_rebalanced {g : String} {m : Member} (h : m.group = g)
    (share : Option (List Partition)) :
    heldAfter (m.rebalanced g share).held (m.rebalanced g share).queue = share.getD [] := by
  rw [Member.rebalanced_of_eq h]
  show heldAfter m.held (m.queue ++ dealtNotices m share) = _
  rw [heldAfter_append, heldAfter_dealtNotices]

/-- To deal keeps the row in order: what is revoked is what is effectively
held. -/
theorem Orderly.rebalanced {g : String} {m : Member} (h : Orderly m.held m.queue)
    (share : Option (List Partition)) :
    Orderly (m.rebalanced g share).held (m.rebalanced g share).queue := by
  by_cases hg : m.group = g
  · rw [Member.rebalanced_of_eq hg]
    exact orderly_append.mpr ⟨h, orderly_dealtNotices m share⟩
  · rwa [Member.rebalanced_of_ne hg]

/-- The one share a rebalance queues is the member's share. -/
theorem eq_share_of_mem_dealtNotices {m : Member} {share : Option (List Partition)} {q : Queued}
    (hq : q ∈ dealtNotices m share) (hc : q.code = .assignPartitions) :
    q.partitions.partitions = share.getD [] := by
  unfold dealtNotices at hq
  rcases List.mem_append.mp hq with hq | hq
  · split at hq
    · cases hq
    · rw [List.mem_singleton.mp hq] at hc
      exact absurd hc StatusCode.revokePartitions_ne_assignPartitions
  · cases share with
    | none => cases hq
    | some ps =>
      rw [List.mem_singleton.mp hq]
      exact PartitionList.partitions_ofPartitions ps

end ConsumerGroup
