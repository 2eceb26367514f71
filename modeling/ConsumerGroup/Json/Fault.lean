import ConsumerGroup.Json.Value

/-!
# What can be wrong with a JSON text

A `Fault` is a cause; `Misread` adds the place. A place is a line,
counted from one, and how many bytes of that line were taken.

Some faults are about the text, the others about what it holds: a value
of the wrong kind, a record with a field too few.
-/

namespace ConsumerGroup.Json

/-- What stood where something else was expected. -/
inductive Found where
  | null
  | bool (b : Bool)
  | number (n : Number)
  | text (s : String)
  | list
  | object
  deriving DecidableEq

/-- What is wrong. -/
inductive Fault where
  | unfinishedValue
  | unfinishedText
  | unfinishedList
  | unfinishedObject
  | noValue
  | noWord
  | noColon
  | noCommaInList
  | noCommaInObject
  | keyNotText
  | trailingComma
  | trailingCharacters
  | controlCharacter
  | badEscape
  | unfinishedPair
  | loneSurrogate
  | notUnicode
  | badNumber
  | numberTooLarge
  | tooDeep
  /-- A value of another kind than expected. -/
  | wrongKind (found : Found) (expected : String)
  /-- A number outside the range expected. -/
  | outOfRange (n : Int) (expected : String)
  /-- A list too short for a record. -/
  | wrongLength (count : Nat) (expected : String)
  | missingField (name : String)
  | repeatedField (name : String)
  deriving DecidableEq

/-- The text of a number in a message. -/
def Number.describe : Number → String
  | .integer n => "integer `" ++ toString n ++ "`"
  | .fraction x => "floating point `" ++ (Binary64.ofBits x.toBits).toText ++ "`"

/-- The text of what was found. -/
def Found.describe : Found → String
  | .null => "null"
  | .bool b => "boolean `" ++ toString b ++ "`"
  | .number n => n.describe
  | .text s => "string " ++ Text.quoted s
  | .list => "sequence"
  | .object => "map"

/-- The text of a fault, without its place. -/
def Fault.message : Fault → String
  | .unfinishedValue => "EOF while parsing a value"
  | .unfinishedText => "EOF while parsing a string"
  | .unfinishedList => "EOF while parsing a list"
  | .unfinishedObject => "EOF while parsing an object"
  | .noValue => "expected value"
  | .noWord => "expected ident"
  | .noColon => "expected `:`"
  | .noCommaInList => "expected `,` or `]`"
  | .noCommaInObject => "expected `,` or `\x7d`"
  | .keyNotText => "key must be a string"
  | .trailingComma => "trailing comma"
  | .trailingCharacters => "trailing characters"
  | .controlCharacter => "control character (\\u0000-\\u001F) found while parsing a string"
  | .badEscape => "invalid escape"
  | .unfinishedPair => "unexpected end of hex escape"
  | .loneSurrogate => "lone leading surrogate in hex escape"
  | .notUnicode => "invalid unicode code point"
  | .badNumber => "invalid number"
  | .numberTooLarge => "number out of range"
  | .tooDeep => "recursion limit exceeded"
  | .wrongKind found expected => "invalid type: " ++ found.describe ++ ", expected " ++ expected
  | .outOfRange n expected => "invalid value: integer `" ++ toString n ++ "`, expected " ++ expected
  | .wrongLength count expected =>
    "invalid length " ++ toString count ++ ", expected " ++ expected
  | .missingField name => "missing field `" ++ name ++ "`"
  | .repeatedField name => "duplicate field `" ++ name ++ "`"

/-- A fault and the place where it was noticed. -/
structure Misread where
  fault : Fault
  line : Nat
  column : Nat
  deriving DecidableEq

/-- The text of a fault with its place. -/
def Misread.message (m : Misread) : String :=
  m.fault.message ++ " at line " ++ toString m.line ++ " column " ++ toString m.column

/-- The place after these bytes: the line feeds among them count the
lines, the bytes after the last one are the column. -/
def Misread.after (taken : List UInt8) (fault : Fault) : Misread where
  fault
  line := taken.count 10 + 1
  column := (taken.reverse.takeWhile (· ≠ 10)).length

end ConsumerGroup.Json
