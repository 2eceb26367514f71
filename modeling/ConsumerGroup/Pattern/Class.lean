import ConsumerGroup.Text.Blank
import ConsumerGroup.Text.Folding
import ConsumerGroup.Text.Property
import ConsumerGroup.Text.Script

/-!
# Classes of characters by name

The classes a pattern can name: digits, blanks and word characters, the
ASCII classes, and those of the character standard. The names of the
standard are read loosely: case, blanks, dashes, underscores and an `is`
in front do not count.
-/

namespace ConsumerGroup.Pattern

/-- A class of characters. -/
abbrev CharClass := Char → Bool

namespace CharClass

/-! ## Digits, blanks and words -/

/-- The categories whose characters have one of the labels. -/
def ofCategories (labels : List String) : CharClass := fun c =>
  (Text.categories.labelOf? c).any (labels.contains ·)

def digit : CharClass := ofCategories ["Nd"]

def blank : CharClass := Text.whiteSpace.contains

def word : CharClass := fun c =>
  Text.alphabetic.holds c || ofCategories ["Mc", "Me", "Mn", "Nd", "Pc"] c
    || Text.joinControl.holds c

def asciiDigit : CharClass := fun c => c.isDigit

def asciiBlank : CharClass := fun c => c == ' ' || ('\t' ≤ c && c ≤ '\r')

def asciiWord : CharClass := fun c => c.isAlphanum || c == '_'

/-- Whether all characters of a class are below 128. Classes of bytes
hold nothing above 255. -/
def isAscii (f : CharClass) : Bool := (List.range 128).all fun n => !f (Char.ofNat (128 + n))

/-! ## ASCII classes -/

/-- Characters between two. -/
def between (lo hi : Char) : CharClass := fun c => lo ≤ c && c ≤ hi

/-- The ASCII classes. -/
def asciiClasses : List (String × CharClass) := [
  ("alnum", fun c => c.isAlphanum),
  ("alpha", fun c => c.isAlpha),
  ("ascii", between '\x00' '\x7F'),
  ("blank", fun c => c == ' ' || c == '\t'),
  ("cntrl", fun c => between '\x00' '\x1F' c || c == '\x7F'),
  ("digit", asciiDigit),
  ("graph", between '!' '~'),
  ("lower", between 'a' 'z'),
  ("print", between ' ' '~'),
  ("punct", fun c => between '!' '~' c && !c.isAlphanum),
  ("space", asciiBlank),
  ("upper", between 'A' 'Z'),
  ("word", asciiWord),
  ("xdigit", fun c => c.isDigit || between 'A' 'F' c || between 'a' 'f' c)]

/-! ## Case -/

/-- With a character, all that differ from it only in case. -/
def folded (f : CharClass) : CharClass := fun c => f c || (Text.caseVariants c).any f

/-- With an ASCII letter, the other case of it. -/
def asciiFolded (f : CharClass) : CharClass := fun c =>
  f c || (c.isLower && f c.toUpper) || (c.isUpper && f c.toLower)

/-! ## Names of the character standard -/

/-- The part of a name that counts. -/
def loose (name : String) : String :=
  let cs := name.toList
  let isPrefixed := match cs with
    | i :: s :: _ => i.toLower == 'i' && s.toLower == 's'
    | _ => false
  let kept := ((if isPrefixed then cs.drop 2 else cs).filter fun c =>
    c != ' ' && c != '_' && c != '-' && c.toNat < 128).map Char.toLower
  if isPrefixed && kept == ['c'] then "isc" else String.ofList kept

/-- Whether one of the names is meant. -/
def isNamed (names : List String) (name : String) : Bool := names.any (loose · == name)

/-- The category, or group of categories, of a name. -/
def category? (name : String) : Option CharClass :=
  if name = "any" then some fun _ => true
  else if name = "assigned" then some fun c => !ofCategories ["Cn"] c
  else if name = "ascii" then some (between '\x00' '\x7F')
  else (Text.categoryNames.find? (isNamed ·.names name)).map (ofCategories ·.labels)

/-- The code of the script of a name. -/
def scriptCode? (name : String) : Option String :=
  ((Text.scriptNames.map (·.splitOn " ")).find? (isNamed · name)).bind (·.head?)

/-- The characters that belong to a script. -/
def ofScript (code : String) : CharClass := fun c => Text.scripts.labelOf? c == some code

/-- The characters that are used in a script. -/
def usedInScript (code : String) : CharClass := fun c =>
  match Text.scriptExtensions.find? (·.2.contains c) with
  | some (codes, _) => codes.contains code
  | none => ofScript code c

/-- The property of a name. -/
def property? (name : String) : Option CharClass :=
  (Text.properties.find? (isNamed ·.names name)).map (·.holds)

/-- The class of a name: a property, a category or a script. -/
def ofName? (name : String) : Option CharClass :=
  let name := loose name
  (property? name).or ((category? name).or ((scriptCode? name).map ofScript))

/-- The class of the characters for which a property has a value. -/
def ofValue? (property value : String) : Option CharClass :=
  let property := loose property
  let value := loose value
  if property ∈ ["gc", "generalcategory"] then category? value
  else if property ∈ ["sc", "script"] then (scriptCode? value).map ofScript
  else if property ∈ ["scx", "scriptextensions"] then (scriptCode? value).map usedInScript
  else none

end CharClass

end ConsumerGroup.Pattern
