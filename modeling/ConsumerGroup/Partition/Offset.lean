/-!
# Offsets

A place inside a partition: a record's number, or one of four names for a
place that is resolved later.

On the wire an offset is one integer. Four negative numbers are reserved
for the names; every other negative number carries no place at all.
Numbers below zero can still be built with `Offset.number` — a caller may
ask for them, and the place where an offset is used decides what becomes
of it.
-/

namespace ConsumerGroup

/-- A place inside a partition. -/
inductive Offset where
  /-- The oldest record that is kept. -/
  | beginning
  /-- The place of the next record to be written. -/
  | ending
  /-- The place the group has committed. -/
  | stored
  /-- No place given. -/
  | invalid
  /-- The record with this number. -/
  | number (n : Int)
  deriving DecidableEq, Repr, Inhabited

namespace Offset

/-- The wire number that stands for `beginning`. -/
def rawBeginning : Int := -2

/-- The wire number that stands for `ending`. -/
def rawEnding : Int := -1

/-- The wire number that stands for `stored`. -/
def rawStored : Int := -1000

/-- The wire number that stands for `invalid`. -/
def rawInvalid : Int := -1001

/-- Reads a wire number. The reserved numbers are the names, any other
negative number is no place. -/
def ofRaw (n : Int) : Offset :=
  if n = rawBeginning then .beginning
  else if n = rawEnding then .ending
  else if n = rawStored then .stored
  else if 0 ≤ n then .number n
  else .invalid

/-- The wire number of an offset. -/
def toRaw : Offset → Int
  | .beginning => rawBeginning
  | .ending => rawEnding
  | .stored => rawStored
  | .invalid => rawInvalid
  | .number n => n

/-- The record number, if the offset is one. -/
def number? : Offset → Option Int
  | .number n => some n
  | _ => none

/-- The written form: a name in capitals, or the number. -/
def toText : Offset → String
  | .beginning => "BEGINNING"
  | .ending => "END"
  | .stored => "STORED"
  | .invalid => "INVALID"
  | .number n => toString n

instance : ToString Offset := ⟨toText⟩

/-- A number from zero up is its own wire form. -/
theorem ofRaw_of_nonneg {n : Int} (h : 0 ≤ n) : ofRaw n = .number n := by
  have hb : n ≠ rawBeginning := by unfold rawBeginning; omega
  have he : n ≠ rawEnding := by unfold rawEnding; omega
  have hs : n ≠ rawStored := by unfold rawStored; omega
  simp [ofRaw, hb, he, hs, h]

/-- Only a number is read as a number, and as itself. -/
theorem eq_of_number?_ofRaw {n k : Int} (h : (ofRaw n).number? = some k) : k = n := by
  unfold ofRaw at h
  split at h
  · cases h
  · split at h
    · cases h
    · split at h
      · cases h
      · split at h
        · cases h; rfl
        · cases h

/-- Reading back what was written loses nothing but a number below zero. -/
theorem ofRaw_toRaw {o : Offset} (h : ∀ n, o = .number n → 0 ≤ n) :
    ofRaw o.toRaw = o := by
  cases o with
  | number n => exact ofRaw_of_nonneg (h n rfl)
  | beginning | ending | stored | invalid => decide

end Offset

end ConsumerGroup
