import ConsumerGroup.Text.CodeRanges

/-!
# Runs of code points

A table that gives every code point a label: runs of code points with
one label each, in order and without gaps. It is kept as text, each run
with its length in hexadecimal and its label behind that, and read once.
-/

namespace ConsumerGroup

/-- Runs of code points, each with its first and last code point and its
label. -/
structure CodeRuns where
  runs : List (Nat × Nat × String)
  deriving Repr, Inhabited

namespace CodeRuns

/-- Reads one run: the digits of its length are in small letters, the
label begins with a capital. -/
def readRun (first : Nat) (w : String) : Nat × Nat × String :=
  let digits := w.toList.takeWhile fun c => !c.isUpper
  let length := digits.foldl (fun n c => n * 16 + (CodeRanges.hexDigit? c).getD 0) 0
  (first, first + length - 1, String.ofList (w.toList.drop digits.length))

/-- Reads a table, given line by line. -/
def ofLines (lines : List String) : CodeRuns :=
  let word (r : Nat × List (Nat × Nat × String)) (w : String) :=
    let run := readRun r.1 w
    (run.2.1 + 1, run :: r.2)
  ⟨((lines.flatMap (·.splitOn " ")).foldl word (0, [])).2.reverse⟩

def labelOfCode? (r : CodeRuns) (n : Nat) : Option String :=
  (r.runs.find? fun (_, last, _) => n ≤ last).map fun (_, _, label) => label

def labelOf? (r : CodeRuns) (c : Char) : Option String := r.labelOfCode? c.toNat

end CodeRuns

end ConsumerGroup
