import ConsumerGroup.Partition.Basic

/-!
# Lists of partitions

An assignment, a commit and a query are all lists of partitions with
offsets, kept in the order they were given. The operations that look an
entry up go by the partition and take the first one that names it.

`PartitionList.partitions` is the view the laws speak of: what a list
names, and in which order, whatever the offsets.
-/

namespace ConsumerGroup

/-- Partitions with offsets, in the order they were given. -/
abbrev PartitionList := List PartitionOffset

namespace PartitionList

def partitions (l : PartitionList) : List Partition := l.map (·.partition)

/-- A list that names these partitions, with no offset set. -/
def ofPartitions (ps : List Partition) : PartitionList :=
  ps.map fun p => { partition := p }

/-- Two lists name the same partitions in the same order. -/
def SamePartitions (l k : PartitionList) : Prop := l.partitions = k.partitions

instance (l k : PartitionList) : Decidable (l.SamePartitions k) :=
  inferInstanceAs (Decidable (_ = _))

/-- The first entry for a partition. -/
def find? (l : PartitionList) (p : Partition) : Option PartitionOffset :=
  List.find? (·.partition == p) l

/-- Some entry names the partition. -/
def names (l : PartitionList) (p : Partition) : Bool := (l.find? p).isSome

/-- Changes the offset of the first entry for a partition; a list that
does not name it stays as it is. -/
def setOffset (p : Partition) (o : Offset) : PartitionList → PartitionList
  | [] => []
  | e :: l => if e.partition = p then { e with offset := o } :: l else e :: setOffset p o l

/-- Gives every entry the same offset. -/
def setAll (o : Offset) (l : PartitionList) : PartitionList :=
  l.map fun e => { e with offset := o }

/-- Takes the first entry for a partition out of the list. -/
def remove (p : Partition) : PartitionList → PartitionList
  | [] => []
  | e :: l => if e.partition = p then l else e :: remove p l

def push (l : PartitionList) (e : PartitionOffset) : PartitionList := l ++ [e]

/-- Whether some partition is named more than once. -/
def hasDuplicates : PartitionList → Bool
  | [] => false
  | e :: l => names l e.partition || hasDuplicates l

/-- The topics a list names, each once, in the order of first mention. -/
def topics (l : PartitionList) : List String :=
  (l.foldl (fun seen e => if e.topic ∈ seen then seen else e.topic :: seen) []).reverse

/-- The list in partition order. Entries for one partition keep their
order among themselves. -/
def sorted (l : PartitionList) : PartitionList :=
  l.mergeSort fun a b => (a.partition.order b.partition).isLE

/-- Of neighbours that name one partition only the first is kept. -/
def dedup : PartitionList → PartitionList
  | [] => []
  | [e] => [e]
  | e :: f :: l =>
    if e.partition = f.partition then dedup (e :: l) else e :: dedup (f :: l)
termination_by l => l.length

/-- The written form: the entries in brackets, parted by commas. -/
def toText (l : PartitionList) : String :=
  "[" ++ ", ".intercalate (l.map PartitionOffset.toText) ++ "]"

/-! ## What the operations do to the partitions named -/

@[simp] theorem partitions_nil : partitions [] = [] := rfl

@[simp] theorem partitions_cons (e : PartitionOffset) (l : PartitionList) :
    partitions (e :: l) = e.partition :: partitions l := rfl

@[simp] theorem partitions_append (l k : PartitionList) :
    partitions (l ++ k) = partitions l ++ partitions k := by
  simp [partitions]

@[simp] theorem partitions_ofPartitions (ps : List Partition) :
    partitions (ofPartitions ps) = ps := by
  induction ps with
  | nil => rfl
  | cons p ps ih => exact congrArg (p :: ·) ih

/-- Changing an offset leaves the partitions alone. -/
@[simp] theorem partitions_setOffset (p : Partition) (o : Offset) (l : PartitionList) :
    partitions (setOffset p o l) = partitions l := by
  induction l with
  | nil => rfl
  | cons e l ih =>
    unfold setOffset
    split
    · rfl
    · simp [ih]

/-- Changing all offsets leaves the partitions alone. -/
@[simp] theorem partitions_setAll (o : Offset) (l : PartitionList) :
    partitions (setAll o l) = partitions l := by
  simp [partitions, setAll]

theorem names_iff {l : PartitionList} {p : Partition} :
    l.names p = true ↔ p ∈ l.partitions := by
  rw [names, find?, List.find?_isSome, partitions, List.mem_map]
  exact exists_congr fun e => and_congr_right fun _ => beq_iff_eq

/-- A list has duplicates exactly when its partitions repeat. -/
theorem hasDuplicates_eq_false_iff {l : PartitionList} :
    l.hasDuplicates = false ↔ l.partitions.Nodup := by
  induction l with
  | nil => simp [hasDuplicates]
  | cons e l ih =>
    rw [hasDuplicates, Bool.or_eq_false_iff, ih, partitions_cons, List.nodup_cons,
      ← names_iff, Bool.not_eq_true]

end PartitionList

end ConsumerGroup
