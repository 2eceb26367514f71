/-!
# Status codes

A status is a number. Numbers below zero are raised on the client's side,
numbers above zero come from the broker, zero is success. Eighteen of
them have a name; any other number is a status too, without a name of its
own.

Two of the named codes are not failures at all: they are how a group
tells a member which partitions it gets and which it loses.
-/

namespace ConsumerGroup

/-- A status of a broker or of a client. -/
structure StatusCode where
  value : Int
  deriving DecidableEq, Repr, Inhabited, Hashable

namespace StatusCode

def noError : StatusCode := ⟨0⟩
def offsetOutOfRange : StatusCode := ⟨1⟩
def unknownTopicOrPartition : StatusCode := ⟨3⟩
def notCoordinator : StatusCode := ⟨16⟩
def illegalGeneration : StatusCode := ⟨22⟩
def unknownMember : StatusCode := ⟨25⟩
def rebalanceInProgress : StatusCode := ⟨27⟩
def topicAlreadyExists : StatusCode := ⟨36⟩

def noOffset : StatusCode := ⟨-168⟩
def state : StatusCode := ⟨-172⟩
/-- Not a failure: the partitions named are taken away. -/
def revokePartitions : StatusCode := ⟨-174⟩
/-- Not a failure: the partitions named are handed out. -/
def assignPartitions : StatusCode := ⟨-175⟩
def unknownGroup : StatusCode := ⟨-179⟩
def timedOut : StatusCode := ⟨-185⟩
def invalidArgument : StatusCode := ⟨-186⟩
def allBrokersDown : StatusCode := ⟨-187⟩
def unknownTopic : StatusCode := ⟨-188⟩
def unknownPartition : StatusCode := ⟨-190⟩
/-- Not a failure: the end of a partition has been reached. -/
def partitionEnd : StatusCode := ⟨-191⟩
def destroyed : StatusCode := ⟨-197⟩

/-- A code's name and what it means. -/
structure Wording where
  code : StatusCode
  name : String
  description : String

/-- The codes that have a name. -/
def vocabulary : List Wording := [
  ⟨noError, "NO_ERROR", "Success"⟩,
  ⟨offsetOutOfRange, "OFFSET_OUT_OF_RANGE", "Broker: Offset out of range"⟩,
  ⟨unknownTopicOrPartition, "UNKNOWN_TOPIC_OR_PART", "Broker: Unknown topic or partition"⟩,
  ⟨notCoordinator, "NOT_COORDINATOR", "Broker: Not coordinator"⟩,
  ⟨illegalGeneration, "ILLEGAL_GENERATION",
    "Broker: Specified group generation id is not valid"⟩,
  ⟨unknownMember, "UNKNOWN_MEMBER_ID", "Broker: Unknown member"⟩,
  ⟨rebalanceInProgress, "REBALANCE_IN_PROGRESS", "Broker: Group rebalance in progress"⟩,
  ⟨topicAlreadyExists, "TOPIC_ALREADY_EXISTS", "Broker: Topic already exists"⟩,
  ⟨noOffset, "_NO_OFFSET", "Local: No offset stored"⟩,
  ⟨state, "_STATE", "Local: Erroneous state"⟩,
  ⟨revokePartitions, "_REVOKE_PARTITIONS", "Local: Revoke partitions"⟩,
  ⟨assignPartitions, "_ASSIGN_PARTITIONS", "Local: Assign partitions"⟩,
  ⟨timedOut, "_TIMED_OUT", "Local: Timed out"⟩,
  ⟨invalidArgument, "_INVALID_ARG", "Local: Invalid argument or configuration"⟩,
  ⟨unknownTopic, "_UNKNOWN_TOPIC", "Local: Unknown topic"⟩,
  ⟨unknownPartition, "_UNKNOWN_PARTITION", "Local: Unknown partition"⟩,
  ⟨partitionEnd, "_PARTITION_EOF", "Broker: No more messages"⟩,
  ⟨destroyed, "_DESTROY", "Local: Broker handle destroyed"⟩]

/-- The wording of a code, if it has a name. -/
def wording? (c : StatusCode) : Option Wording := vocabulary.find? (·.code == c)

def name (c : StatusCode) : String := (c.wording?.map (·.name)).getD "UNKNOWN"

/-- What a code means. -/
def description (c : StatusCode) : String :=
  (c.wording?.map (·.description)).getD "Unknown error code"

def isError (c : StatusCode) : Bool := c != noError

/-- The written form: the name, and the number in parentheses. -/
def toText (c : StatusCode) : String := c.name ++ " (" ++ toString c.value ++ ")"

/-- Codes in the order of their numbers; equal ones keep their places. -/
def sorted (l : List StatusCode) : List StatusCode :=
  l.mergeSort fun a b => a.value ≤ b.value

end StatusCode

end ConsumerGroup
