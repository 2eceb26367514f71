import ConsumerGroup.Pattern.Class
import ConsumerGroup.Pattern.Tree

/-!
# Parts of a pattern

What reading a pattern is made of: the flags in force, the pieces that
have been read, and the small things a pattern is written with — blanks,
numbers, escapes. A reader takes something off the front of a list of
characters and answers what is left; without an answer the text is no
pattern.
-/

namespace ConsumerGroup.Pattern

/-- How a pattern is to be read from here on. -/
structure Flags where
  ignoresCase : Bool := false
  /-- The two anchors mean lines. -/
  linewise : Bool := false
  /-- The dot is any character, line ends too. -/
  dotIsAll : Bool := false
  /-- Greedy and lazy change places; what is accepted does not. -/
  lazy : Bool := false
  /-- Classes are those of the character standard, and not of ASCII. -/
  wide : Bool := true
  /-- Carriage returns end lines too. -/
  returns : Bool := false
  /-- Blanks and comments do not count. -/
  spaced : Bool := false

namespace Flags

/-- Sets the flag of a letter. -/
def set? (on : Bool) (f : Flags) (letter : Char) : Option Flags :=
  match letter with
  | 'i' => some { f with ignoresCase := on }
  | 'm' => some { f with linewise := on }
  | 's' => some { f with dotIsAll := on }
  | 'U' => some { f with lazy := on }
  | 'u' => some { f with wide := on }
  | 'R' => some { f with returns := on }
  | 'x' => some { f with spaced := on }
  | _ => none

/-- A class with the case variants of its characters, if case does not
count. -/
def fold (f : Flags) (c : CharClass) : CharClass :=
  if !f.ignoresCase then c else if f.wide then c.folded else c.asciiFolded

/-- A class as it is written: with case variants, and then negated. A
class of bytes has to be ASCII, for a byte above is no character. -/
def settle? (f : Flags) (negated : Bool) (c : CharClass) : Option CharClass :=
  let c := f.fold c
  let c : CharClass := if negated then fun x => !c x else c
  if f.wide || c.isAscii then some c else none

def wordClass (f : Flags) : CharClass := if f.wide then .word else .asciiWord

end Flags

/-! ## Pieces -/

/-- A piece of a pattern: what it means, how deep it is nested, how much
room it takes when it is written out, and whether it can be repeated. -/
structure Piece where
  tree : Tree
  depth : Nat := 0
  weight : Nat := 32
  repeats : Bool := true

namespace Piece

def empty : Piece := { tree := .empty }

/-- Pieces one after the other. -/
def sequence : List Piece → Piece
  | [] => empty
  | [p] => p
  | ps =>
    { tree := ps.foldr (fun p t => .both p.tree t) .empty
      depth := 1 + (ps.map (·.depth)).foldl max 0
      weight := (ps.map (·.weight)).foldl (· + ·) 0 }

/-- One of several pieces. -/
def choice : List Piece → Piece
  | [] => empty
  | [p] => p
  | p :: ps =>
    { tree := ps.foldl (fun t p => .either t p.tree) p.tree
      depth := 1 + ((p :: ps).map (·.depth)).foldl max 0
      weight := ((p :: ps).map (·.weight + 4)).foldl (· + ·) 64 }

/-- A piece in parentheses. -/
def grouped (captures : Bool) (p : Piece) : Piece :=
  { tree := p.tree
    depth := p.depth + 1
    weight := p.weight + if captures then 64 else 0 }

/-- A piece again and again. Each copy that may be left out has a fork
of its own. -/
def again (least : Nat) (most : Option Nat) (p : Piece) : Piece :=
  { tree := .again p.tree least most
    depth := p.depth + 1
    weight := match most with
      | none => max least 1 * p.weight + 40
      | some n => least * p.weight + (n - least) * (p.weight + 40) + 32 }

end Piece

/-- How deep pieces may be nested. -/
def depthLimit : Nat := 250

/-- How much room a pattern may take when it is written out, in bytes. The
weights of pieces are estimates of that room. -/
def weightLimit : Nat := 10 * 1024 * 1024

/-! ## Blanks and numbers -/

/-- What is left behind blanks and comments. -/
def skipFrom (inComment : Bool) : List Char → List Char
  | [] => []
  | c :: cs =>
    if inComment then skipFrom (c != '\n') cs
    else if Text.whiteSpace.contains c then skipFrom false cs
    else if c = '#' then skipFrom true cs
    else c :: cs

/-- What is left behind blanks and comments, where they do not count. -/
def skip (f : Flags) (cs : List Char) : List Char := if f.spaced then skipFrom false cs else cs

/-- The character after the one that comes, blanks apart. -/
def peek (f : Flags) (cs : List Char) : Option Char :=
  let rest := cs.drop 1
  if !f.spaced then rest.head?
  else
    let isBlank := Text.whiteSpace.contains
    match rest.dropWhile isBlank with
    | '#' :: cs => (cs.dropWhile isBlank).head?
    | cs => cs.head?

def countLimit : Nat := UInt32.size - 1

/-- The digits of a count, and what is left. -/
def digits (f : Flags) : Nat → List Char → List Char × List Char
  | 0, cs => ([], cs)
  | n + 1, c :: cs =>
    if c.isDigit then
      let (ds, rest) := digits f n (skip f cs)
      (c :: ds, rest)
    else ([], c :: cs)
  | _ + 1, [] => ([], [])

/-- A count, with blanks around it. -/
def count? (f : Flags) (cs : List Char) : Option (Nat × List Char) :=
  let isBlank := Text.whiteSpace.contains
  let (ds, rest) := digits f cs.length (cs.dropWhile isBlank)
  let n := ds.foldl (fun n c => n * 10 + (c.toNat - '0'.toNat)) 0
  if ds.isEmpty ∨ countLimit < n then none
  else some (n, if f.spaced then skipFrom false rest else rest.dropWhile isBlank)

/-- The rest, if something is left. -/
def more? (cs : List Char) : Option (List Char) := if cs.isEmpty then none else some cs

/-- The rest behind a character that has to come. -/
def expect? (c : Char) : List Char → Option (List Char)
  | [] => none
  | d :: rest => if d = c then some rest else none

/-- The two bounds of a repetition behind its brace, and what is left
behind the closing one. -/
def bounds? (f : Flags) (cs : List Char) : Option ((Nat × Option Nat) × List Char) := do
  let cs ← more? (skip f cs)
  let (least, cs) ← count? f cs
  match cs with
  | ',' :: cs =>
    match skip f cs with
    | '}' :: cs => some ((least, none), cs)
    | cs =>
      let (most, cs) ← count? f cs
      let cs ← expect? '}' cs
      if least ≤ most then some ((least, some most), cs) else none
  | cs => some ((least, some least), ← expect? '}' cs)

/-- The rest behind a question mark that may be there. -/
def dropMark : List Char → List Char
  | '?' :: cs => cs
  | cs => cs

/-! ## Escapes -/

/-- What one item of a pattern, or of a class, is. -/
inductive Atom where
  /-- A character; it may be written as a byte. -/
  | char (c : Char) (isByte : Bool)
  | set (f : CharClass) (weight : Nat)
  | look (l : Look)

/-- An estimate of the room a class takes that is not ASCII. -/
def classWeight : Nat := 424

/-- An estimate of the room the characters of words take. -/
def wordWeight : Nat := 20808

/-- The character of a number, if it is one of a character. -/
def charOf? (n : Nat) : Option Char := if n.isValidChar then some (Char.ofNat n) else none

/-- The number of so many hexadecimal digits. -/
def fixedHex? (f : Flags) : (length value : Nat) → List Char → Option (Nat × List Char)
  | 0, value, cs => some (value, cs)
  | _ + 1, _, [] => none
  | n + 1, value, c :: cs => do
    let d ← CodeRanges.hexDigit? c
    fixedHex? f n (value * 16 + d) (skip f cs)

/-- The characters up to a closing brace, blanks apart, and what is left
behind it. -/
def braced? (f : Flags) : (fuel : Nat) → List Char → Option (List Char × List Char)
  | 0, _ => none
  | n + 1, cs =>
    match skip f cs with
    | [] => none
    | '}' :: rest => some ([], rest)
    | c :: rest => (braced? f n rest).map fun (cs, rest) => (c :: cs, rest)

/-- The number of hexadecimal digits. -/
def hexNumber? (cs : List Char) : Option Nat := do
  let ds ← cs.mapM CodeRanges.hexDigit?
  if ds.isEmpty then none else some (ds.foldl (fun n d => n * 16 + d) 0)

/-- A character by its number: in braces, or with a fixed number of
digits. Two digits may also be a byte. -/
def numbered? (f : Flags) (length : Nat) (cs : List Char) : Option (Atom × List Char) := do
  match ← more? (skip f cs) with
  | '{' :: rest =>
    let (inside, rest) ← braced? f rest.length rest
    some (.char (← charOf? (← hexNumber? inside)) false, skip f rest)
  | cs =>
    let (n, rest) ← fixedHex? f length 0 cs
    some (.char (← charOf? n) (length = 2), rest)

/-- The name and the value in braces, where there is a value. -/
def nameAndValue (cs : List Char) : List Char × Option (List Char) :=
  let rec split (mark before : List Char) : List Char → Option (List Char × List Char)
    | [] => none
    | c :: cs =>
      if mark.isPrefixOf (c :: cs) then
        some (before.reverse, (c :: cs).drop mark.length)
      else split mark (c :: before) cs
  match (split ['!', '='] [] cs).or ((split [':'] [] cs).or (split ['='] [] cs)) with
  | some (name, value) => (name, some value)
  | none => (cs, none)

/-- A class of the character standard by its name. -/
def property? (f : Flags) (negated : Bool) (cs : List Char) : Option (Atom × List Char) := do
  let (found, rest) ← match ← more? (skip f cs) with
    | '{' :: rest =>
      let (inside, rest) ← braced? f rest.length rest
      let found := match nameAndValue inside with
        | (name, some value) => CharClass.ofValue? (String.ofList name) (String.ofList value)
        | (name, none) => CharClass.ofName? (String.ofList name)
      some (found, rest)
    | '\\' :: _ => none
    | c :: rest => some (CharClass.ofName? c.toString, skip f rest)
    | [] => none
  if f.wide then some (.set (← f.settle? negated (← found)) classWeight, rest) else none

/-- One of the three short classes. -/
def short? (f : Flags) (wide ascii : CharClass) (weight : Nat) (negated : Bool) : Option Atom :=
  let c := if f.wide then wide else ascii
  let c : CharClass := if negated then fun x => !c x else c
  if f.wide || c.isAscii then some (.set c (if f.wide then weight else 32)) else none

/-- The boundaries that have a name. -/
def namedBoundaries : List (String × Boundary) := [
  ("start", .wordStart), ("end", .wordEnd), ("start-half", .notAfterWord),
  ("end-half", .notBeforeWord)]

/-- What stands in the braces behind the boundary of a word: the name of
one, if it is letters and dashes; otherwise the braces belong to a
repetition. -/
def boundary? (f : Flags) (cs : List Char) : Option (Boundary × List Char) :=
  let isNameChar (c : Char) : Bool := c.isAlpha || c == '-'
  match cs with
  | '{' :: rest =>
    match skip f rest with
    | [] => none
    | c :: _ =>
      if isNameChar c then do
        let (inside, rest) ← braced? f rest.length rest
        if inside.all isNameChar then some (← namedBoundaries.lookup (String.ofList inside), rest)
        else none
      else some (.edge, cs)
  | _ => some (.edge, cs)

/-- The letters for control characters. -/
def controls : List (Char × Char) := [
  ('a', '\x07'), ('f', '\x0C'), ('t', '\t'), ('n', '\n'), ('r', '\r'), ('v', '\x0B')]

/-- What an escape stands for, behind its backslash. -/
def escape? (f : Flags) : List Char → Option (Atom × List Char)
  | [] => none
  | c :: cs =>
    let word (b : Boundary) : Atom := .look (.boundary f.wordClass b)
    match c with
    | 'x' => numbered? f 2 cs
    | 'u' => numbered? f 4 cs
    | 'U' => numbered? f 8 cs
    | 'p' => property? f false cs
    | 'P' => property? f true cs
    | 'd' => (short? f .digit .asciiDigit classWeight false).map (·, cs)
    | 'D' => (short? f .digit .asciiDigit classWeight true).map (·, cs)
    | 's' => (short? f .blank .asciiBlank classWeight false).map (·, cs)
    | 'S' => (short? f .blank .asciiBlank classWeight true).map (·, cs)
    | 'w' => (short? f .word .asciiWord wordWeight false).map (·, cs)
    | 'W' => (short? f .word .asciiWord wordWeight true).map (·, cs)
    | 'A' => some (.look .textStart, cs)
    | 'z' => some (.look .textEnd, cs)
    | 'b' => (boundary? f cs).map fun (b, cs) => (word b, cs)
    | 'B' => some (word .noEdge, cs)
    | '<' => some (word .wordStart, cs)
    | '>' => some (word .wordEnd, cs)
    | c =>
      match controls.lookup c with
      | some control => some (.char control false, cs)
      | none => if c.isAlphanum || 128 ≤ c.toNat then none else some (.char c false, cs)

end ConsumerGroup.Pattern
