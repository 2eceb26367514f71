/-!
# Extended expressions

Whether a text is an extended regular expression in the sense of POSIX.
Only its form is looked at, never what it matches, and it is read byte by
byte, as where no language is set.

The form is looser than that of a `Pattern` in some places and stricter
in others. A closing brace or a closing parenthesis without its partner
stands for itself; but nothing may be repeated where no expression comes
before, and an anchor is none. So `^a)` is an extended expression, and
`^*` and `^(?:a)` are not.

What is still open is kept beside the bytes to come. Every step takes
something off the front, so reading ends.
-/

namespace ConsumerGroup.Pattern.Extended

def ascii (c : Char) : UInt8 := c.toNat.toUInt8

/-- What is left behind a byte that has to come. -/
def expect? (c : Char) : List UInt8 → Option (List UInt8)
  | [] => none
  | b :: s => if b = ascii c then some s else none

/-! ## Counts -/

def countLimit : Nat := 0x7FFF

/-- Drops the backslashes that do not count between braces: those before
a comma or a zero. -/
def dropSlashes : List UInt8 → List UInt8
  | a :: b :: s =>
    if a = ascii '\\' ∧ (b = ascii ',' ∨ b = ascii '0') then b :: dropSlashes s
    else a :: dropSlashes (b :: s)
  | s => s

/-- A count in decimal; without digits there is none. -/
def count? (s : List UInt8) : Option (Option Nat) :=
  if s.isEmpty then some none
  else if s.all fun b => ascii '0' ≤ b && b ≤ ascii '9' then
    some (some (s.foldl (fun n b => n * 10 + (b.toNat - 48)) 0))
  else none

/-- Whether this can stand between braces: one count, or the least and
the most with a comma between, where either may be left out. -/
def isInterval (s : List UInt8) : Bool :=
  let s := dropSlashes s
  let first := s.takeWhile (· ≠ ascii ',')
  match s.drop first.length with
  | [] => match count? first with
    | some (some n) => n ≤ countLimit
    | _ => false
  | _ :: second =>
    match count? first, count? second with
    | some least, some (some most) => least.getD 0 ≤ most && most ≤ countLimit
    | some least, some none => least.getD 0 ≤ countLimit
    | _, _ => false

/-- What is left behind the braces of a repetition, the opening one
taken. -/
def interval? (s : List UInt8) : Option (List UInt8) :=
  let inside := s.takeWhile (· ≠ ascii '\x7d')
  if isInterval inside then expect? '\x7d' (s.drop inside.length) else none

/-! ## Classes in brackets -/

/-- The names of the classes. -/
def classNames : List String :=
  ["alpha", "digit", "alnum", "upper", "lower", "space", "blank", "punct", "print", "graph",
    "cntrl", "xdigit"]

/-- What stands in brackets. -/
inductive Element where
  /-- One byte, which may be an end of a range. -/
  | byte (b : UInt8)
  /-- A class, or all that counts as the same. -/
  | several

/-- A name up to its mark and a closing bracket. -/
def symbol? (mark : UInt8) (taken : List UInt8) : List UInt8 → Option (List UInt8 × List UInt8)
  | [] => none
  | [_] => none
  | a :: b :: s =>
    if a = mark ∧ b = ascii ']' then some (taken.reverse, s)
    else symbol? mark (a :: taken) (b :: s)

/-- What a name between marks stands for: a class has a name of its own,
anything else is one byte. -/
def Element.ofName? (mark : UInt8) (name : List UInt8) : Option Element :=
  if mark = ascii ':' then
    if classNames.any (·.toUTF8.toList == name) then some .several else none
  else match name with
    | [b] => some (if mark = ascii '.' then .byte b else .several)
    | _ => none

/-- Whether a byte opens a name behind a bracket. -/
def isMark (b : UInt8) : Bool := b = ascii '.' || b = ascii '=' || b = ascii ':'

/-- Reads one thing in brackets. A dash alone stands for itself only
where it may, or before the closing bracket. -/
def element? (dashMay : Bool) : List UInt8 → Option (Element × List UInt8)
  | [] => none
  | b :: s =>
    if b = ascii '-' then
      if dashMay || s.head? = some (ascii ']') then some (.byte b, s) else none
    else match s with
      | mark :: t =>
        if b = ascii '[' ∧ isMark mark then do
          let (name, rest) ← symbol? mark [] t
          some (← Element.ofName? mark name, rest)
        else some (.byte b, s)
      | [] => some (.byte b, [])

/-- What is left behind the dash of a range, if one is asked for. -/
def rangeDash? (s : List UInt8) : Option (List UInt8) :=
  (expect? '-' s).filter fun t => t.head? ≠ some (ascii ']')

/-- Reads a byte, a range or a class. -/
def item? (dashMay : Bool) (s : List UInt8) : Option (List UInt8) := do
  let (first, s) ← element? dashMay s
  match first with
  | .several => some s
  | .byte low =>
    match rangeDash? s with
    | none => some s
    | some s =>
      match ← element? true s with
      | (.byte high, s) => if low ≤ high then some s else none
      | (.several, _) => none

/-- What is left behind the closing bracket, some things having been
read. -/
def items? (s : List UInt8) : Option (List UInt8) :=
  match expect? ']' s with
  | some rest => some rest
  | none =>
    match item? false s with
    | none => none
    | some rest => if rest.length < s.length then items? rest else none
termination_by s.length

/-- What is left behind brackets, the opening one taken. A closing
bracket at the very front stands for itself. -/
def bracket? (s : List UInt8) : Option (List UInt8) := do
  let s := (expect? '^' s).getD s
  items? (← item? true s)

/-! ## Expressions -/

/-- Where reading has come to. -/
structure Reading where
  /-- The groups that are open, by number, the innermost first. -/
  openGroups : List Nat := []
  /-- How many groups have been opened. -/
  groups : Nat := 0
  /-- The groups that have been closed, by number. -/
  closed : List Nat := []
  /-- What comes before can be repeated. -/
  repeatable : Bool := false

/-- What makes an anchor behind a backslash. -/
def anchorLetters : List UInt8 := "<>bB\x60\x27".toUTF8.toList

namespace Reading

/-- An expression has been read. -/
def expression (r : Reading) : Reading := { r with repeatable := true }

/-- Something that is no expression has been read. -/
def pause (r : Reading) : Reading := { r with repeatable := false }

/-- A group begins. -/
def openGroup (r : Reading) : Reading :=
  { r with
    openGroups := (r.groups + 1) :: r.openGroups
    groups := r.groups + 1
    repeatable := false }

/-- A closing parenthesis: the innermost group ends, or it stands for
itself. -/
def closeGroup (r : Reading) : Reading :=
  match r.openGroups with
  | [] => r.expression
  | n :: rest => { r with openGroups := rest, closed := n :: r.closed, repeatable := true }

/-- A byte behind a backslash: an anchor, a group that has been closed, or
an expression. -/
def escaped? (r : Reading) (b : UInt8) : Option Reading :=
  if anchorLetters.contains b then some r.pause
  else if ascii '1' ≤ b ∧ b ≤ ascii '9' then
    if r.closed.contains (b.toNat - 48) then some r.expression else none
  else some r.expression

end Reading

/-- One step of reading. -/
def step? (r : Reading) : List UInt8 → Option (Reading × List UInt8)
  | [] => none
  | b :: s =>
    if b = ascii '\\' then
      match s with
      | [] => none
      | e :: s => (r.escaped? e).map (·, s)
    else if b = ascii '(' then some (r.openGroup, s)
    else if b = ascii ')' then some (r.closeGroup, s)
    else if b = ascii '|' ∨ b = ascii '^' ∨ b = ascii '$' then some (r.pause, s)
    else if b = ascii '[' then (bracket? s).map (r.expression, ·)
    else if b = ascii '*' ∨ b = ascii '+' ∨ b = ascii '?' then
      if r.repeatable then some (r, s) else none
    else if b = ascii '\x7b' then
      if r.repeatable then (interval? s).map (r, ·) else none
    else some (r.expression, s)

/-- Reads until nothing is left. -/
def readRest (r : Reading) (s : List UInt8) : Bool :=
  if s.isEmpty then r.openGroups.isEmpty
  else match step? r s with
    | none => false
    | some (r, rest) => if rest.length < s.length then readRest r rest else false
termination_by s.length

end Extended

/-- Whether a text is an extended regular expression. -/
def isExtended (s : String) : Bool := Extended.readRest {} s.toUTF8.toList

end ConsumerGroup.Pattern
