import ConsumerGroup.Message

/-!
# Notifications

What a group tells a member, told apart by the code: take these
partitions, give them up, or something went wrong.
-/

namespace ConsumerGroup

/-- A notification of the group. -/
inductive Notification where
  /-- The partitions are the member's from now on. -/
  | assign (partitions : PartitionList)
  /-- The partitions are no longer the member's. -/
  | revoke (partitions : PartitionList)
  /-- The group could not rebalance. -/
  | trouble (code : StatusCode)
  deriving DecidableEq

/-- Tells a notification by its code. -/
def Notification.ofCode (code : StatusCode) (partitions : PartitionList) : Notification :=
  if code = .assignPartitions then .assign partitions
  else if code = .revokePartitions then .revoke partitions
  else .trouble code

namespace Notification

variable {code : StatusCode} {partitions l : PartitionList}

theorem ofCode_of_assign (h : code = .assignPartitions) :
    ofCode code partitions = .assign partitions := if_pos h

theorem ofCode_of_revoke (h : code = .revokePartitions) :
    ofCode code partitions = .revoke partitions := by
  subst h
  rfl

theorem ofCode_of_neither (ha : code ≠ .assignPartitions) (hr : code ≠ .revokePartitions) :
    ofCode code partitions = .trouble code := by
  unfold ofCode
  rw [if_neg ha, if_neg hr]

theorem ofCode_eq_assign_iff :
    ofCode code partitions = .assign l ↔ code = .assignPartitions ∧ partitions = l := by
  unfold ofCode
  split
  · next h => simp [h]
  · next h =>
    split <;> simp [h]

theorem ofCode_eq_revoke_iff :
    ofCode code partitions = .revoke l ↔ code = .revokePartitions ∧ partitions = l := by
  by_cases h : code = .revokePartitions
  · rw [ofCode_of_revoke h]
    simp [h]
  · unfold ofCode
    rw [if_neg h]
    split <;> simp [h]

end Notification

end ConsumerGroup
