import ConsumerGroup.Failure
import ConsumerGroup.Json.Decoder

/-!
# Messages

What a poll brings: nothing, a record, or a notice about a partition. The
end of a partition is a notice too, and the only one that is not a
failure.

A notice carries a code other than success. `Message.notify` keeps to
that: with the code of success there is nothing to give notice of, and
what it makes is a record without content.
-/

namespace ConsumerGroup

/-- What a poll brings. -/
inductive Message where
  /-- Nothing arrived in time. -/
  | empty
  /-- A record, where it was read, with its key and content. -/
  | record (partition : Partition) (offset : Int) (key payload : Option (List UInt8))
  /-- A notice about a partition. -/
  | notice (code : StatusCode) (isError : code.isError = true) (partition : Partition)
      (offset : Int)
  deriving DecidableEq

namespace Message

/-- Gives notice of a code; success makes it a record without content. -/
def notify (code : StatusCode) (partition : Partition) (offset : Int) : Message :=
  if h : code.isError = true then .notice code h partition offset
  else .record partition offset none none

/-- Gives notice that a partition has no more records; the offset is the
number the next one will get. -/
def atEnd (partition : Partition) (offset : Int) : Message :=
  .notice .partitionEnd rfl partition offset

/-- Whether nothing arrived. -/
def isEmpty : Message → Bool
  | .empty => true
  | _ => false

/-- Whether the message is a record. -/
def isRecord : Message → Bool
  | .record .. => true
  | _ => false

/-- The code a notice carries. -/
def code? : Message → Option StatusCode
  | .notice code .. => some code
  | _ => none

def isEnd (m : Message) : Bool := m.code? == some .partitionEnd

/-- The partition a message is about. -/
def partition? : Message → Option Partition
  | .empty => none
  | .record p .. => some p
  | .notice _ _ p _ => some p

/-- The topic a message is about; nothing has the empty name. -/
def topic (m : Message) : String := (m.partition?.map (·.topic)).getD ""

/-- The number of the partition a message is about. -/
def index (m : Message) : Int := (m.partition?.map (·.index)).getD Partition.unselected

/-- The offset a message is about. -/
def offset : Message → Int
  | .empty => Offset.rawInvalid
  | .record _ o .. => o
  | .notice _ _ _ o => o

/-- The key of a record. -/
def key? : Message → Option (List UInt8)
  | .record _ _ key _ => key
  | _ => none

/-- The content of a record. -/
def payload? : Message → Option (List UInt8)
  | .record _ _ _ payload => payload
  | _ => none

/-- The content of a record as text, if it is text. -/
def payloadText? (m : Message) : Option String := m.payload?.bind fun bytes => String.fromUTF8? ⟨bytes.toArray⟩

/-- Decodes the content of a record as JSON. Where there is none it reads
like `null`. -/
def decode {α : Type} (d : Json.Decoder α) (m : Message) : Except Failure α :=
  match Json.decode d (m.payload?.getD "null".toUTF8.toList) with
  | .ok x => .ok x
  | .error misread => .error (.json misread)

end Message

/-- What a transport brings: a message, or a notification of the group
with a code and the partitions it is about. -/
inductive Event where
  | message (m : Message)
  | rebalance (code : StatusCode) (partitions : PartitionList)
  deriving DecidableEq

end ConsumerGroup
