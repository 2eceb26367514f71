import ConsumerGroup.Partition.Offset

/-!
# Partitions

A partition is a topic's name and a number. Around it stand an offset
(`PartitionOffset`) and the range of offsets it holds (`Watermarks`).

Two entries that name the same partition are the same entry to every
comparison here, whatever their offsets: `PartitionOffset.partition` is
the key, and order, equality and look-up go through it.
-/

namespace ConsumerGroup

/-- One partition of a topic. The number may be negative: a caller can
name a partition that no topic has. -/
structure Partition where
  topic : String
  index : Int
  deriving DecidableEq, Repr, Inhabited

namespace Partition

/-- The number used where no partition of the topic is selected. -/
def unselected : Int := -1

/-- By topic, code point by code point, then by number. -/
def order (a b : Partition) : Ordering :=
  (compare a.topic b.topic).then (compare a.index b.index)

instance : Ord Partition := ⟨order⟩

instance : LT Partition where
  lt a b := a.order b = .lt

instance (a b : Partition) : Decidable (a < b) :=
  inferInstanceAs (Decidable (_ = _))

end Partition

/-- A partition together with an offset in it. -/
structure PartitionOffset where
  partition : Partition
  offset : Offset := .invalid
  deriving DecidableEq, Repr, Inhabited

namespace PartitionOffset

/-- The entry for a partition, with an offset if one is given. -/
def of (topic : String) (index : Int) (offset : Offset := .invalid) : PartitionOffset :=
  { partition := { topic, index }, offset }

/-- The entry for a topic as a whole: no partition is selected. -/
def forTopic (topic : String) : PartitionOffset :=
  .of topic Partition.unselected

abbrev topic (e : PartitionOffset) : String := e.partition.topic

abbrev index (e : PartitionOffset) : Int := e.partition.index

/-- The written form, `topic[number:offset]`. -/
def toText (e : PartitionOffset) : String :=
  e.topic ++ "[" ++ toString e.index ++ ":" ++ e.offset.toText ++ "]"

instance : ToString PartitionOffset := ⟨toText⟩

end PartitionOffset

/-- The offsets a partition holds at one moment: `low` is the oldest
record kept, `high` the number the next record will get. -/
structure Watermarks where
  low : Int
  high : Int
  deriving DecidableEq, Repr, Inhabited

namespace Watermarks

/-- How many records lie between the marks. -/
def size (w : Watermarks) : Int := max (w.high - w.low) 0

def isEmpty (w : Watermarks) : Bool := w.size == 0

/-- Whether a record number lies between the marks, the upper one
excluded. -/
def contains (w : Watermarks) (n : Int) : Bool := w.low ≤ n && n < w.high

end Watermarks

end ConsumerGroup
