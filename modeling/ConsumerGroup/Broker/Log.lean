import ConsumerGroup.Partition.List

/-!
# Logs

A partition's log: the records that are kept, in the order they were
written, and the number of the oldest of them. Records are appended at
one end and dropped at the other, so a record keeps its number for as
long as it is kept.
-/

namespace ConsumerGroup

/-- A record as it was written. -/
structure StoredRecord where
  key : Option (List UInt8)
  payload : Option (List UInt8)
  deriving DecidableEq

/-- The log of one partition. -/
structure Log where
  /-- The number of the oldest record kept. -/
  low : Nat := 0
  records : List StoredRecord := []
  deriving DecidableEq

namespace Log

/-- The number the next record gets. -/
def high (l : Log) : Nat := l.low + l.records.length

/-- The record with a number, if it is kept. -/
def get? (l : Log) (n : Nat) : Option StoredRecord :=
  if n < l.low then none else l.records[n - l.low]?

def watermarks (l : Log) : Watermarks := ⟨l.low, l.high⟩

/-- Writes a record at the end. -/
def append (l : Log) (r : StoredRecord) : Log := { l with records := l.records ++ [r] }

/-- Drops the records below a number, but none that is yet to be
written. -/
def dropBelow (l : Log) (before : Int) : Log :=
  let low := max l.low (min before.toNat l.high)
  { low, records := l.records.drop (low - l.low) }

@[simp] theorem high_append (l : Log) (r : StoredRecord) : (l.append r).high = l.high + 1 := by
  simp [high, append, Nat.add_assoc]

theorem low_le_high (l : Log) : l.low ≤ l.high := Nat.le_add_right _ _

/-- The log then begins at the number, taken as the integer it is, but not
before it began and not behind its end. So it never begins below zero, also
when the number lies there. -/
theorem low_dropBelow (l : Log) (before : Int) :
    ((l.dropBelow before).low : Int) = max (l.low : Int) (min before l.high) := by
  have := l.low_le_high
  simp only [dropBelow]
  omega

/-- Dropping records leaves the number of the next one alone. -/
@[simp] theorem high_dropBelow (l : Log) (before : Int) : (l.dropBelow before).high = l.high := by
  have := l.low_le_high
  simp only [high, dropBelow, List.length_drop] at *
  omega

end Log

/-- The log of a topic's partition, if the topic has that partition. -/
def logAt? (logs : List Log) (index : Int) : Option Log :=
  if index < 0 then none else logs[index.toNat]?

/-- A topic: its name and the logs of its partitions. -/
structure Topic where
  name : String
  logs : List Log
  deriving DecidableEq

namespace Topic

/-- The partitions of a topic, in order. -/
def partitions (t : Topic) : List Partition :=
  (List.range t.logs.length).map fun (i : Nat) => ⟨t.name, i⟩

/-- The topic with the log of a partition changed, if the partition is one
of its own. -/
def modifyLog (t : Topic) (p : Partition) (f : Log → Log) : Topic :=
  if t.name = p.topic then { t with logs := t.logs.modify p.index.toNat f } else t

@[simp] theorem name_modifyLog (t : Topic) (p : Partition) (f : Log → Log) :
    (t.modifyLog p f).name = t.name := by
  unfold modifyLog
  split <;> rfl

/-- Puts a topic where its name belongs. One that has the name already
makes room for it. -/
def place (t : Topic) : List Topic → List Topic
  | [] => [t]
  | u :: ts =>
    if t.name < u.name then t :: u :: ts
    else if t.name = u.name then t :: ts
    else u :: place t ts

theorem mem_place {t u : Topic} {ts : List Topic} (h : u ∈ place t ts) : u = t ∨ u ∈ ts := by
  induction ts with
  | nil => simpa [place] using h
  | cons v ts ih =>
    unfold place at h
    split at h
    · simpa using h
    · split at h
      · exact (List.mem_cons.mp h).imp_right (List.mem_cons_of_mem v)
      · cases List.mem_cons.mp h with
        | inl hv => exact .inr (hv ▸ List.mem_cons_self)
        | inr hrest => exact (ih hrest).imp_right (List.mem_cons_of_mem v)

/-- Where the names ascend they still do with a topic put among them. -/
theorem pairwise_place (t : Topic) {ts : List Topic} (h : ts.Pairwise (·.name < ·.name)) :
    (place t ts).Pairwise (·.name < ·.name) := by
  induction ts with
  | nil => exact List.pairwise_singleton _ t
  | cons u ts ih =>
    obtain ⟨hu, hts⟩ := List.pairwise_cons.mp h
    unfold place
    split
    · next hlt =>
      refine List.pairwise_cons.mpr ⟨fun v hv => ?_, h⟩
      cases List.mem_cons.mp hv with
      | inl hvu => exact hvu ▸ hlt
      | inr hrest => exact String.lt_trans hlt (hu v hrest)
    · next hnlt =>
      split
      · next heq => exact List.pairwise_cons.mpr ⟨fun v hv => heq ▸ hu v hv, hts⟩
      · next hne =>
        refine List.pairwise_cons.mpr ⟨fun v hv => ?_, ih hts⟩
        cases mem_place hv with
        | inl hvt =>
          -- neither before nor the same, so behind
          have hle := String.not_lt.mp hnlt
          exact hvt ▸ Decidable.byContradiction fun hn =>
            hne (String.le_antisymm (String.not_lt.mp hn) hle)
        | inr hrest => exact hu v hrest

end Topic

/-- Topics in the order of their names, each name once. -/
structure Topics where
  toList : List Topic
  ascending : toList.Pairwise (·.name < ·.name) := by decide
  deriving DecidableEq

namespace Topics

def empty : Topics := ⟨[], .nil⟩

def names (ts : Topics) : List String := ts.toList.map (·.name)

def find? (ts : Topics) (name : String) : Option Topic := ts.toList.find? (·.name == name)

def log? (ts : Topics) (p : Partition) : Option Log :=
  (ts.find? p.topic).bind fun t => logAt? t.logs p.index

/-- Puts a topic into its place. -/
def insert (ts : Topics) (t : Topic) : Topics := ⟨t.place ts.toList, t.pairwise_place ts.ascending⟩

/-- Changes the log of a partition. -/
def modifyLog (ts : Topics) (p : Partition) (f : Log → Log) : Topics where
  toList := ts.toList.map (·.modifyLog p f)
  ascending := List.pairwise_map.mpr <| ts.ascending.imp fun h => by
    rwa [Topic.name_modifyLog, Topic.name_modifyLog]

/-- All partitions, in the order of the topics. -/
def partitions (ts : Topics) : List Partition := ts.toList.flatMap Topic.partitions

end Topics

end ConsumerGroup
