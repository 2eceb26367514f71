import ConsumerGroup.Pattern.Bracket

/-!
# Reading patterns

A pattern is a choice of sequences of pieces. Pieces can be repeated and
put in parentheses, and flags change how the rest of a group is read.

The groups that are open are kept in a list, the innermost first. Every
step takes something off the front, so reading ends.
-/

namespace ConsumerGroup.Pattern

/-- A group that is being read. -/
structure OpenGroup where
  captures : Bool
  /-- The flags to go back to when it is closed. -/
  flagsBefore : Flags
  /-- The sequences before the one being read, latest first. -/
  choices : List Piece := []
  /-- The pieces of the sequence being read, latest first. -/
  pieces : List Piece := []

namespace OpenGroup

/-- One more piece. -/
def push (g : OpenGroup) (p : Piece) : OpenGroup := { g with pieces := p :: g.pieces }

/-- The sequence being read ends, and another begins. -/
def branch (g : OpenGroup) : OpenGroup :=
  { g with choices := Piece.sequence g.pieces.reverse :: g.choices, pieces := [] }

/-- All that has been read of the group. -/
def content (g : OpenGroup) : Piece := Piece.choice g.branch.choices.reverse

/-- Repeats the latest piece, if it is one that can be. -/
def repeatLast? (g : OpenGroup) (least : Nat) (most : Option Nat) : Option OpenGroup :=
  match g.pieces with
  | p :: rest => if p.repeats then some { g with pieces := p.again least most :: rest } else none
  | [] => none

end OpenGroup

/-- Where reading has come to. -/
structure Reading where
  flags : Flags := {}
  /-- The names given to groups. -/
  names : List String := []
  inner : OpenGroup := { captures := false, flagsBefore := {} }
  outer : List OpenGroup := []

namespace Reading

/-- One more piece. -/
def push (r : Reading) (p : Piece) : Reading := { r with inner := r.inner.push p }

/-- Opens a group. -/
def openGroup (r : Reading) (captures : Bool) (flags : Flags) : Reading :=
  { r with
    flags
    inner := { captures, flagsBefore := r.flags }
    outer := r.inner :: r.outer }

/-- Closes the innermost group, if one is open. -/
def closeGroup? (r : Reading) : Option Reading :=
  match r.outer with
  | [] => none
  | g :: outer =>
    some { r with
      flags := r.inner.flagsBefore
      inner := g.push (r.inner.content.grouped r.inner.captures)
      outer }

end Reading

/-- The name of a group, up to the angle bracket. -/
def groupName? (cs : List Char) : Option (String × List Char) := do
  let name := cs.takeWhile (· ≠ '>')
  let rest ← expect? '>' (cs.drop name.length)
  let isStart (c : Char) : Bool := c == '_' || Text.alphabetic.holds c
  let isFurther (c : Char) : Bool :=
    isStart c || c == '.' || c == '[' || c == ']' || CharClass.ofCategories ["Nd", "Nl", "No"] c
  match name with
  | [] => none
  | c :: more => if isStart c && more.all isFurther then some (String.ofList name, rest) else none

/-- Opens a group of a name no other group has. -/
def namedGroup? (r : Reading) (cs : List Char) : Option (Reading × List Char) := do
  let (name, rest) ← groupName? cs
  if r.names.contains name then none
  else some ({ r with names := name :: r.names }.openGroup true r.flags, rest)

/-- Flags up to a colon or a closing parenthesis, each given once; those
behind a dash are taken away. Answers also how many there are. -/
def flags? (f : Flags) (seen : List Char) : List Char → Option (Flags × Nat × List Char)
  | [] => none
  | c :: cs =>
    if c = ':' ∨ c = ')' then
      if seen.head? = some '-' then none else some (f, seen.length, c :: cs)
    else if seen.contains c then none
    else if c = '-' then flags? f ('-' :: seen) cs
    else
      match f.set? (!seen.contains '-') c with
      | some f => flags? f (c :: seen) cs
      | none => none

/-- What stands behind an opening parenthesis: a named group, flags, a
group that does not capture, or the content of one that does. Looking
ahead and behind is no part of the language. -/
def group? (r : Reading) (cs : List Char) : Option (Reading × List Char) :=
  match skip r.flags cs with
  | '?' :: '=' :: _ => none
  | '?' :: '!' :: _ => none
  | '?' :: '<' :: '=' :: _ => none
  | '?' :: '<' :: '!' :: _ => none
  | '?' :: 'P' :: '<' :: cs => namedGroup? r cs
  | '?' :: '<' :: cs => namedGroup? r cs
  | '?' :: cs =>
    match flags? r.flags [] cs with
    | some (f, _, ':' :: rest) => some (r.openGroup false f, rest)
    | some (f, n, _ :: rest) =>
      if n = 0 then none
      else some ({ r with flags := f }.push { Piece.empty with repeats := false }, rest)
    | _ => none
  | cs => some (r.openGroup true r.flags, cs)

/-- The piece of a character, with its case variants if case does not
count. A byte that is no character is refused. -/
def literal? (f : Flags) (c : Char) (isByte : Bool) : Option Piece :=
  if !f.wide && isByte && 128 ≤ c.toNat then none
  else
    let accepts := f.fold (· == c)
    some { tree := .one accepts, weight := 32 * c.utf8Size }

/-- The piece of an atom. -/
def pieceOf? (f : Flags) : Atom → Option Piece
  | .char c isByte => literal? f c isByte
  | .set c weight => some { tree := .one c, weight }
  | .look l => some { tree := .look l }

/-- The piece of the dot: any character, or any that does not end a line.
Among bytes it would accept what is no character. -/
def dot? (f : Flags) : Option Piece :=
  if !f.wide then none
  else
    let accepts : CharClass :=
      if f.dotIsAll then fun _ => true
      else if f.returns then fun c => c != '\n' && c != '\r'
      else fun c => c != '\n'
    some { tree := .one accepts, weight := classWeight }

/-- The two anchors. -/
def startLook (f : Flags) : Look :=
  if !f.linewise then .textStart else if f.returns then .returnLineStart else .lineStart

def endLook (f : Flags) : Look :=
  if !f.linewise then .textEnd else if f.returns then .returnLineEnd else .lineEnd

/-- One step of reading. -/
def step? (r : Reading) : List Char → Option (Reading × List Char)
  | [] => none
  | '(' :: cs => group? r cs
  | ')' :: cs => r.closeGroup?.map (·, cs)
  | '|' :: cs => some ({ r with inner := r.inner.branch }, cs)
  | '[' :: cs => (bracket? r.flags cs).map fun (p, rest) => (r.push p, rest)
  | '?' :: cs => repeated 0 (some 1) cs
  | '*' :: cs => repeated 0 none cs
  | '+' :: cs => repeated 1 none cs
  | '{' :: cs => do
    let ((least, most), rest) ← bounds? r.flags cs
    repeated least most (skip r.flags rest)
  | '\\' :: cs => do
    let (a, rest) ← escape? r.flags cs
    some (r.push (← pieceOf? r.flags a), rest)
  | '.' :: cs => (dot? r.flags).map fun p => (r.push p, cs)
  | '^' :: cs => some (r.push { tree := .look (startLook r.flags) }, cs)
  | '$' :: cs => some (r.push { tree := .look (endLook r.flags) }, cs)
  | c :: cs => (literal? r.flags c false).map fun p => (r.push p, cs)
where
  /-- Repeats the latest piece; a question mark behind makes it lazy. -/
  repeated (least : Nat) (most : Option Nat) (cs : List Char) : Option (Reading × List Char) :=
    (r.inner.repeatLast? least most).map fun g => ({ r with inner := g }, dropMark cs)

/-- Reads until nothing is left. -/
def readRest? (r : Reading) (cs : List Char) : Option Piece :=
  let cs' := skip r.flags cs
  if cs'.isEmpty then
    if r.outer.isEmpty then some r.inner.content else none
  else
    match step? r cs' with
    | none => none
    | some (r, rest) => if rest.length < cs.length then readRest? r rest else none
termination_by cs.length

/-- Reads a pattern, unless it is nested too deep or takes too much
room. -/
def read? (s : String) : Option Tree := do
  let p ← readRest? {} s.toList
  if depthLimit < p.depth ∨ weightLimit < p.weight then none else some p.tree

end ConsumerGroup.Pattern
