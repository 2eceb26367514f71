import ConsumerGroup.Failure

/-!
# The diary

What brokers, clients and consumers tell about their work as they do it.
An entry is an event with its particulars; how it is worded, how loud it
is and which particulars stand beside the words is decided here, once for
each event.

Nothing depends on the diary: an operation that writes into it does the
same without.
-/

namespace ConsumerGroup

/-- How loud an entry is. -/
inductive Level where
  | debug
  | info
  | warn
  | error
  deriving DecidableEq, Repr

/-- Something worth telling. -/
inductive DiaryEntry where
  | topicCreated (topic : String) (partitions : Int)
  | memberConnected (member group : String)
  | assignmentQueued (group member : String) (count : Nat)
  | assignmentApplied (member : String) (count : Nat)
  | assignmentCleared (member : String)
  | commitFailedLater (member : String) (failure : Failure)
  | memberLeft (member group : String)
  | partitionsAssigned (member : String) (partitions : PartitionList)
  | partitionsRevoked (member : String) (partitions : PartitionList)
  | assignmentCallback
  | revocationCallback
  | troubleCallback
  | assignmentRefused (partitions : PartitionList)
  | rebalanceTrouble (code : StatusCode)
  | unassignFailed (failure : Failure)
  | consumerCreated (group member : String)
  | subscribed (topics : List String)
  | unsubscribed
  | committing (offsets : PartitionList) (asynchronous : Bool)
  | consumerClosed (member : String)
  | transportCloseFailed (failure : Failure)
  | consumerCloseFailed (failure : Failure)
  | clientCreated (keys : Nat)
  | clientClosing
  deriving DecidableEq

namespace DiaryEntry

/-- How loud the entry is. -/
def level : DiaryEntry → Level
  | assignmentQueued .. | assignmentApplied .. | assignmentCleared .. | assignmentCallback
  | revocationCallback | troubleCallback | committing .. => .debug
  | commitFailedLater .. | rebalanceTrouble .. => .warn
  | assignmentRefused .. | unassignFailed .. | transportCloseFailed ..
  | consumerCloseFailed .. => .error
  | _ => .info

/-- The words of the entry. -/
def words : DiaryEntry → String
  | topicCreated .. => "Created topic"
  | memberConnected .. => "Member connected"
  | assignmentQueued .. => "Queued group assignment"
  | assignmentApplied .. => "Assignment applied"
  | assignmentCleared .. => "Assignment cleared"
  | commitFailedLater _ failure => "Asynchronous commit failed: " ++ failure.message
  | memberLeft .. => "Member left group"
  | partitionsAssigned _ partitions => "Partitions assigned: " ++ partitions.toText
  | partitionsRevoked _ partitions => "Partitions revoked: " ++ partitions.toText
  | assignmentCallback => "Invoking assignment callback"
  | revocationCallback => "Invoking revocation callback"
  | troubleCallback => "Invoking rebalance error callback"
  | assignmentRefused partitions =>
    "Assignment callback changed the partition set, refusing to assign " ++ partitions.toText
  | rebalanceTrouble _ => "Rebalance error"
  | unassignFailed failure => "Failed to unassign revoked partitions: " ++ failure.message
  | consumerCreated .. => "Consumer created"
  | subscribed _ => "Subscribed"
  | unsubscribed => "Unsubscribed"
  | committing offsets _ => "Committing offsets " ++ offsets.toText
  | consumerClosed _ => "Consumer closed"
  | transportCloseFailed failure => "Failed to close consumer handle: " ++ failure.message
  | consumerCloseFailed failure => "Failed to close consumer: " ++ failure.message
  | clientCreated _ => "Created librdkafka consumer"
  | clientClosing => "Closing librdkafka consumer"

/-- The particulars beside the words, each with its name. -/
def fields : DiaryEntry → List (String × String)
  | topicCreated topic partitions => [("topic", topic), ("partitions", toString partitions)]
  | memberConnected member group | memberLeft member group =>
    [("member_id", member), ("group_id", group)]
  | assignmentQueued group member count =>
    [("group_id", group), ("member_id", member), ("partitions", toString count)]
  | assignmentApplied member count => [("member_id", member), ("partitions", toString count)]
  | assignmentCleared member | commitFailedLater member _ | consumerClosed member =>
    [("member_id", member)]
  | partitionsAssigned member partitions | partitionsRevoked member partitions =>
    [("member_id", member), ("partitions", toString partitions.length)]
  | rebalanceTrouble code => [("code", code.toText)]
  | consumerCreated group member => [("group_id", group), ("member_id", member)]
  | subscribed topics => [("topics", Text.quotedList topics)]
  | committing _ asynchronous => [("asynchronous", toString asynchronous)]
  | clientCreated keys => [("keys", toString keys)]
  | _ => []

end DiaryEntry

end ConsumerGroup
