import ConsumerGroup.Pattern.Syntax

/-!
# Classes in brackets

A class in brackets is a union of characters, ranges and named classes,
and of classes in brackets of their own. Two unions can be intersected,
and taken from each other; these operators bind alike and to the left.

The brackets that are open are kept in a list, the innermost first. Every
step takes something off the front, so reading ends.
-/

namespace ConsumerGroup.Pattern

/-- What two unions are combined by. -/
inductive SetOp where
  | meet
  | without
  | exclusive
  deriving DecidableEq, Repr

/-- What a character has to be in. -/
def SetOp.apply (op : SetOp) (a b : CharClass) : CharClass := fun c =>
  match op with
  | .meet => a c && b c
  | .without => a c && !b c
  | .exclusive => a c != b c

/-- A set as it has been read, and how deep it is nested. -/
structure SetPiece where
  accepts : CharClass
  depth : Nat := 0

/-- Brackets that are open. -/
structure OpenBracket where
  negated : Bool
  /-- What stands before the last operator. -/
  before : Option (SetPiece × SetOp) := none
  /-- The items of the union being read. -/
  items : List SetPiece := []

namespace OpenBracket

/-- One more item of the union. -/
def push (b : OpenBracket) (p : SetPiece) : OpenBracket := { b with items := p :: b.items }

/-- One more item of the union, a set of no depth. -/
def pushSet (b : OpenBracket) (f : CharClass) : OpenBracket := b.push { accepts := f }

/-- The union being read. -/
def union (b : OpenBracket) : SetPiece :=
  match b.items with
  | [] => { accepts := fun _ => false }
  | [p] => p
  | ps =>
    { accepts := fun c => ps.any (·.accepts c)
      depth := 1 + (ps.map (·.depth)).foldl max 0 }

/-- What has been read of the brackets, the last operator applied. -/
def combined (f : Flags) (b : OpenBracket) : SetPiece :=
  match b.before with
  | none => b.union
  | some (left, op) =>
    let right := b.union
    { accepts := op.apply (f.fold left.accepts) (f.fold right.accepts)
      depth := 1 + max left.depth right.depth }

/-- An operator: what was read before stands on its left. -/
def operate (f : Flags) (op : SetOp) (b : OpenBracket) : OpenBracket :=
  { negated := b.negated, before := some (b.combined f, op) }

/-- The brackets closed. -/
def close? (f : Flags) (b : OpenBracket) : Option SetPiece := do
  let p := b.combined f
  some { accepts := ← f.settle? b.negated p.accepts, depth := p.depth + 1 }

end OpenBracket

/-- Dashes at the front of a class, which stand for themselves. -/
def leadingDashes (f : Flags) : (fuel : Nat) → OpenBracket → List Char → OpenBracket × List Char
  | n + 1, b, '-' :: cs => leadingDashes f n (b.pushSet (· == '-')) (skip f cs)
  | _, b, cs => (b, cs)

/-- Opens brackets: a negation, dashes, and a closing bracket at the very
front that stands for itself. -/
def openBracket? (f : Flags) (cs : List Char) : Option (OpenBracket × List Char) := do
  let cs ← more? (skip f cs)
  let (negated, cs) ← match cs with
    | '^' :: cs => (more? (skip f cs)).map fun cs => (true, cs)
    | cs => some (false, cs)
  let (b, cs) := leadingDashes f cs.length { negated } cs
  match ← more? cs with
  | ']' :: rest =>
    if b.items.isEmpty then some (b.pushSet (· == ']'), ← more? (skip f rest)) else some (b, cs)
  | cs => some (b, cs)

/-- An ASCII class behind its opening bracket, if that is what stands
there. -/
def asciiClass? (f : Flags) (cs : List Char) : Option (Option CharClass × List Char) := do
  let cs ← expect? ':' cs
  let (negated, cs) := match cs with
    | '^' :: cs => (true, cs)
    | cs => (false, cs)
  let name := cs.takeWhile (· ≠ ':')
  let cs ← expect? ']' (← expect? ':' (cs.drop name.length))
  let found ← CharClass.asciiClasses.lookup (String.ofList name)
  some (f.settle? negated found, cs)

/-- One end of a range, or an item. -/
def setAtom? (f : Flags) : List Char → Option (Atom × List Char)
  | [] => none
  | '\\' :: cs => escape? f cs
  | c :: cs => some (.char c false, cs)

/-- The character of an atom in a class. A byte that is no character
cannot stand there, and in a class of bytes nothing else above ASCII. -/
def charOfAtom? (f : Flags) : Atom → Option Char
  | .char c _ => if f.wide || c.toNat < 128 then some c else none
  | _ => none

/-- An item of a class: a range, a character or a short class. -/
def setItem? (f : Flags) (cs : List Char) : Option (CharClass × List Char) := do
  let (first, cs) ← setAtom? f cs
  let cs ← more? (skip f cs)
  let isRange := cs.head? == some '-' && peek f cs != some ']' && peek f cs != some '-'
  if isRange then
    let (last, cs) ← setAtom? f (← more? (skip f (cs.drop 1)))
    let lo ← charOfAtom? f first
    let hi ← charOfAtom? f last
    if lo ≤ hi then some (CharClass.between lo hi, cs) else none
  else
    match first with
    | .set c _ => some (c, cs)
    | atom => (charOfAtom? f atom).map fun c => ((· == c), cs)

/-- What one step in brackets comes to: open brackets, or the whole class
when the last of them is closed. -/
inductive BracketStep where
  | going (inner : OpenBracket) (outer : List OpenBracket)
  | done (p : SetPiece)

/-- One step in brackets. -/
def bracketStep? (f : Flags) (inner : OpenBracket) (outer : List OpenBracket) :
    List Char → Option (BracketStep × List Char)
  | [] => none
  | '[' :: cs =>
    match asciiClass? f cs with
    | some (found, rest) => do some (.going (inner.pushSet (← found)) outer, rest)
    | none => (openBracket? f cs).map fun (b, rest) => (.going b (inner :: outer), rest)
  | ']' :: cs => do
    let p ← inner.close? f
    match outer with
    | [] => some (.done p, cs)
    | b :: outer => some (.going (b.push p) outer, cs)
  | '&' :: '&' :: cs => some (.going (inner.operate f .meet) outer, cs)
  | '-' :: '-' :: cs => some (.going (inner.operate f .without) outer, cs)
  | '~' :: '~' :: cs => some (.going (inner.operate f .exclusive) outer, cs)
  | cs => (setItem? f cs).map fun (c, rest) => (.going (inner.pushSet c) outer, rest)

/-- Goes on in brackets until the last of them is closed. -/
def bracketRest? (f : Flags) (inner : OpenBracket) (outer : List OpenBracket) (cs : List Char) :
    Option (SetPiece × List Char) :=
  match bracketStep? f inner outer (skip f cs) with
  | none => none
  | some (.done p, rest) => some (p, rest)
  | some (.going inner outer, rest) =>
    if rest.length < cs.length then bracketRest? f inner outer rest else none
termination_by cs.length

/-- A class in brackets, behind the opening one. -/
def bracket? (f : Flags) (cs : List Char) : Option (Piece × List Char) := do
  let (b, cs) ← openBracket? f cs
  let (p, cs) ← bracketRest? f b [] cs
  some ({ tree := .one p.accepts, depth := p.depth, weight := classWeight }, cs)

end ConsumerGroup.Pattern
