import ConsumerGroup.Proofs.Broker.Frame
import ConsumerGroup.Proofs.Broker.Order

/-!
# What logs are made of

A log keeps no number with a record. The number is where the record
stands, counted from the oldest that is kept, so a record that is dropped
must move none of the others. `Log.MadeBy` says what has to hold of a log
for that, with everything that was ever written to it and every place it
was ever cut at; to write and to cut both keep to it.

Nothing else makes or changes a log (`Broker.remade_perform`): it begins
empty with its topic, and then every request leaves it alone, writes one
record or cuts it once.

A record is found by its number with no search, which is where the numbers
matter: `MadeBy.of_get?` says that what is found there is what was written
with that number. Who reads it is no concern of this module.
-/

namespace ConsumerGroup

/-- A record as it was given to be written, with the number that was
answered. -/
structure Produced where
  number : Int
  key : Option (List UInt8)
  payload : List UInt8
  deriving DecidableEq, Repr

/-- What is kept of it. -/
def Produced.record (w : Produced) : StoredRecord := ⟨w.key, some w.payload⟩

/-- The furthest of the places where a log was cut, and its beginning if
there is none behind that. -/
def furthest (cuts : List Int) : Int := cuts.foldl max 0

@[simp] theorem furthest_append_singleton (cuts : List Int) (c : Int) :
    furthest (cuts ++ [c]) = max (furthest cuts) c := by
  simp [furthest]

namespace Log

/-- The log is what it must be after what was written and where it was
cut: the records are numbered in their order, and the rest of them behind
the furthest cut is kept. -/
structure MadeBy (written : List Produced) (cuts : List Int) (l : Log) : Prop where
  low : (l.low : Int) = furthest cuts
  high : l.high = written.length
  records : l.records = (written.map Produced.record).drop l.low
  numbers : written.map (·.number) = (List.range written.length).map Int.ofNat

variable {l : Log} {written : List Produced} {cuts : List Int}

theorem madeBy_empty : ({} : Log).MadeBy [] [] := ⟨rfl, rfl, rfl, rfl⟩

/-- A record that is written gets the next number. -/
theorem MadeBy.append (h : l.MadeBy written cuts) (key : Option (List UInt8))
    (payload : List UInt8) :
    (l.append ⟨key, some payload⟩).MadeBy (written ++ [⟨l.high, key, payload⟩]) cuts where
  low := h.low
  high := by simp [h.high]
  records := by
    have hlow : l.low ≤ (written.map Produced.record).length := by
      rw [List.length_map, ← h.high]
      exact l.low_le_high
    show l.records ++ [_] = List.drop l.low _
    rw [List.map_append, List.drop_append_of_le_length hlow, ← h.records]
    rfl
  numbers := by
    rw [List.map_append, h.numbers, List.length_append, List.length_singleton, List.range_succ,
      List.map_append, h.high]
    rfl

/-- A cut moves none of the records that are left. -/
theorem MadeBy.dropBelow (h : l.MadeBy written cuts) (before : Int) :
    (l.dropBelow before).MadeBy written (cuts ++ [min before l.high]) where
  low := by
    rw [furthest_append_singleton, ← h.low]
    exact l.low_dropBelow before
  high := by rw [high_dropBelow, h.high]
  records := by
    simp only [Log.dropBelow]
    rw [h.records, List.drop_drop]
    congr 1
    omega
  numbers := h.numbers

/-- A record that is found is the one that was written with its number. -/
theorem MadeBy.of_get? (h : l.MadeBy written cuts) {n : Nat} {r : StoredRecord}
    (hr : l.get? n = some r) : ∃ w ∈ written, w.number = n ∧ w.record = r := by
  have hlow := (lt_high_of_get? hr).1
  unfold get? at hr
  rw [if_neg (Nat.not_lt.mpr hlow), h.records, List.getElem?_drop, Nat.add_sub_cancel' hlow,
    List.getElem?_map] at hr
  obtain ⟨w, hw, hrecord⟩ := Option.map_eq_some_iff.mp hr
  obtain ⟨hlt, _⟩ := List.getElem?_eq_some_iff.mp hw
  have hnumber : (written.map (·.number))[n]? = some (n : Int) := by
    rw [h.numbers, List.getElem?_map, List.getElem?_range hlt]
    rfl
  rw [List.getElem?_map, hw] at hnumber
  exact ⟨w, List.mem_of_getElem? hw, Option.some.inj hnumber, hrecord⟩

/-- What one request can make of a partition's log, with what it writes and
where it cuts. -/
inductive Remade : Option Log → List Produced → List Int → Option Log → Prop
  | kept {log : Option Log} : Remade log [] [] log
  | created : Remade none [] [] (some {})
  | appended {l : Log} {key : Option (List UInt8)} {payload : List UInt8} :
      Remade (some l) [⟨l.high, key, payload⟩] [] (some (l.append ⟨key, some payload⟩))
  | dropped {l : Log} {before : Int} :
      Remade (some l) [] [min before l.high] (some (l.dropBelow before))

end Log

namespace Request

/-- What a request writes to a partition. -/
def produced (b : Broker) (p : Partition) : Request → List Produced
  | .produce q key payload =>
    if q = p then
      match (b.produce q key payload).result with
      | .ok n => [⟨n, key, payload⟩]
      | .error _ => []
    else []
  | _ => []

/-- Where a request cuts the log of a partition, and be it before its
beginning: at the place it names, or at the end. -/
def cuts (b : Broker) (p : Partition) : Request → List Int
  | .deleteRecords q before =>
    if q = p then
      match (b.deleteRecords q before).result, b.watermarks q with
      | .ok _, .ok w => [min before w.high]
      | _, _ => []
    else []
  | _ => []

/-- The request creates a topic, writes or cuts. -/
def reshapes : Request → Bool
  | .createTopic .. | .produce .. | .deleteRecords .. => true
  | _ => false

end Request

namespace Broker

variable {b b' : Broker} {r : Request} {p q : Partition}

/-- Other requests leave the topics as they are. -/
theorem Changed.topics_eq (h : b.Changed r b') (hr : r.reshapes = false) : b'.topics = b.topics := by
  cases h with
  | topicCreated | appended | dropped => cases hr
  | committed => exact (b.putAllCommitted_frame _ _).1
  | _ => rfl

/-- A new topic's logs are empty, and the others are as they were. -/
theorem remade_createTopic (b : Broker) (name : String) (n : Int) (p : Partition) :
    Log.Remade (b.log? p) [] [] ((b.createTopic name n).broker.log? p) := by
  unfold createTopic
  split
  · exact .kept
  · split
    · exact .kept
    · next hname =>
      have hfresh := Topics.find?_eq_none_iff.mp (Option.not_isSome_iff_eq_none.mp hname)
      dsimp only
      unfold log?
      rw [(frame_rebalancedAll _ _).1]
      unfold Topics.log?
      rw [Topics.find?_insert hfresh]
      split
      · next hp =>
        dsimp only at hp
        rw [← hp, Topics.find?_eq_none_iff.mpr hfresh]
        dsimp only [Option.bind]
        unfold logAt?
        split
        · exact .kept
        · rw [List.getElem?_replicate]
          split
          · exact .created
          · exact .kept
      · exact .kept

/-- What is done to one log is nothing to the others. -/
theorem log?_modifyLog_of_ne {l : Log} (hl : b.log? q = some l) (hne : q ≠ p) (f : Log → Log) :
    ({ b with topics := b.topics.modifyLog q f } : Broker).log? p = b.log? p := by
  show (b.topics.modifyLog q f).log? p = _
  rw [Topics.log?_modifyLog _ (Topics.index_nonneg_of_log? hl), if_neg hne.symm]
  rfl

/-- A log that is changed is found as it has been made. -/
theorem log?_modifyLog_self {l : Log} (hl : b.log? p = some l) (f : Log → Log) :
    ({ b with topics := b.topics.modifyLog p f } : Broker).log? p = some (f l) := by
  show (b.topics.modifyLog p f).log? p = _
  rw [Topics.log?_modifyLog _ (Topics.index_nonneg_of_log? hl), if_pos rfl]
  exact congrArg (Option.map f) hl

/-- To write appends to the one log and leaves the others. -/
theorem remade_produce (b : Broker) (q : Partition) (key : Option (List UInt8))
    (payload : List UInt8) (p : Partition) :
    Log.Remade (b.log? p) ((Request.produce q key payload).produced b p) []
      ((b.produce q key payload).broker.log? p) := by
  show Log.Remade _ (if q = p then _ else []) _ _
  unfold produce
  cases hl : b.log? q with
  | none =>
    split <;> exact .kept
  | some l =>
    dsimp only
    by_cases hq : q = p
    · subst hq
      rw [if_pos rfl, log?_modifyLog_self hl, hl]
      exact .appended
    · rw [if_neg hq, log?_modifyLog_of_ne hl hq]
      exact .kept

/-- To delete records cuts the one log and leaves the others. -/
theorem remade_deleteRecords (b : Broker) (q : Partition) (before : Int) (p : Partition) :
    Log.Remade (b.log? p) [] ((Request.deleteRecords q before).cuts b p)
      ((b.deleteRecords q before).broker.log? p) := by
  show Log.Remade _ _ (if q = p then _ else []) _
  unfold deleteRecords watermarks log
  cases hl : b.log? q with
  | none =>
    split <;> exact .kept
  | some l =>
    dsimp only
    by_cases hq : q = p
    · subst hq
      rw [if_pos rfl, log?_modifyLog_self hl, hl]
      exact .dropped
    · rw [if_neg hq, log?_modifyLog_of_ne hl hq]
      exact .kept

/-- Every request leaves a partition's log alone, creates it empty, writes
one record to it or cuts it once. -/
theorem remade_perform (b : Broker) (r : Request) (p : Partition) :
    Log.Remade (b.log? p) (r.produced b p) (r.cuts b p) ((b.perform r).broker.log? p) := by
  by_cases hr : r.reshapes = false
  · have htopics := (b.perform_changed r).topics_eq hr
    have hquiet : r.produced b p = [] ∧ r.cuts b p = [] := by
      cases r with
      | createTopic | produce | deleteRecords => cases hr
      | _ => exact ⟨rfl, rfl⟩
    unfold log?
    rw [htopics, hquiet.1, hquiet.2]
    exact .kept
  cases r with
  | createTopic name n => exact b.remade_createTopic name n p
  | produce q key payload => exact b.remade_produce q key payload p
  | deleteRecords q before => exact b.remade_deleteRecords q before p
  | _ => exact absurd rfl hr

end Broker

end ConsumerGroup
