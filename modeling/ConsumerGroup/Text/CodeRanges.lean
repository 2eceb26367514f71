/-!
# Classes of characters

A class of characters is a list of ranges of code points. The classes a
character standard fixes are long, so they are kept in the standard's own
notation — code points in hexadecimal, a range as two of them with a dash,
blanks between — and read once.
-/

namespace ConsumerGroup

/-- A class of characters: ranges of code points, both ends included. -/
structure CodeRanges where
  ranges : List (Nat × Nat)
  deriving DecidableEq, Repr, Inhabited

namespace CodeRanges

/-- The value of a hexadecimal digit in capitals or small letters. -/
def hexDigit? (c : Char) : Option Nat :=
  if '0' ≤ c ∧ c ≤ '9' then some (c.toNat - '0'.toNat)
  else if 'A' ≤ c ∧ c ≤ 'F' then some (c.toNat - 'A'.toNat + 10)
  else if 'a' ≤ c ∧ c ≤ 'f' then some (c.toNat - 'a'.toNat + 10)
  else none

/-- What has been read of a table: the finished ranges, latest first, the
lower end of the range being read if its dash has been seen, and the
number being read. -/
structure Reading where
  done : List (Nat × Nat) := []
  lower : Option Nat := none
  number : Option Nat := none

/-- Closes the range being read. -/
def Reading.close (r : Reading) : Reading :=
  match r.number with
  | none => r
  | some n => { done := (r.lower.getD n, n) :: r.done }

/-- Reads one more character of a table. -/
def Reading.next (r : Reading) (c : Char) : Reading :=
  match hexDigit? c with
  | some d => { r with number := some (r.number.getD 0 * 16 + d) }
  | none => if c = '-' then { r with lower := r.number, number := none } else r.close

/-- Reads a table in the standard's notation, given line by line. -/
def ofLines (lines : List String) : CodeRanges :=
  let line (r : Reading) (s : String) : Reading := (s.toList.foldl Reading.next r).close
  ⟨(lines.foldl line {}).done.reverse⟩

def containsCode (r : CodeRanges) (n : Nat) : Bool :=
  r.ranges.any fun (lo, hi) => lo ≤ n && n ≤ hi

def contains (r : CodeRanges) (c : Char) : Bool := r.containsCode c.toNat

end CodeRanges

end ConsumerGroup
