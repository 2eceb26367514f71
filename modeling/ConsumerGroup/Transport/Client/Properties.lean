import ConsumerGroup.Configuration

/-!
# Properties of a client

A client that is to talk to a real cluster takes properties, each of one
kind, and refuses any other key. Values are read the lenient way: blanks
before a value do not count, an integer ends at the first character that
is no digit of it, words may be in capitals.

Integers are read as machine words: a number that does not fit into 64
bits becomes the nearest that does, and of that the low 32 bits count.
-/

namespace ConsumerGroup

/-- What a property takes. -/
inductive PropertyKind where
  | text
  | boolean
  | integer (least greatest : Int)
  | word (words : List String)

namespace PropertyKind

/-- A blank in the narrow sense. -/
def isNarrowBlank (c : Char) : Bool := c = ' ' || ('\t' ≤ c && c ≤ '\r')

/-- The text without the blanks before it. -/
def withoutLead (s : String) : List Char := s.toList.dropWhile isNarrowBlank

/-- The value of the digits at the front, in a base; nothing if there is
none. -/
def digits? (base : Nat) (cs : List Char) : Option Nat :=
  let values := (cs.map fun c => (CodeRanges.hexDigit? c).filter (· < base)).takeWhile (·.isSome)
  if values.isEmpty then none
  else some (values.foldl (fun n d => n * base + d.getD 0) 0)

/-- The number at the front: in hexadecimal behind `0x`, in octal behind
`0`, and in decimal otherwise. -/
def natural? : List Char → Option Nat
  | '0' :: x :: rest =>
    if x = 'x' ∨ x = 'X' then some ((digits? 16 rest).getD 0) else digits? 8 ('0' :: x :: rest)
  | cs => digits? 10 cs

/-- The integer at the front, with its sign. -/
def integer? (s : String) : Option Int :=
  let read : Option Int := match withoutLead s with
    | '-' :: rest => (natural? rest).map fun n => -(n : Int)
    | '+' :: rest => (natural? rest).map fun n => (n : Int)
    | cs => (natural? cs).map fun n => (n : Int)
  read.map fun n => (max Int64.minValue.toInt (min n Int64.maxValue.toInt)).bmod UInt32.size

/-- What is wrong with a value. -/
def fault? (k : PropertyKind) (value : String) : Option PropertyFault :=
  let small := value.toLower
  match k with
  | .text => none
  | .boolean =>
    if value.isEmpty then some .noBoolean
    else if small ∈ ["true", "t", "1", "false", "f", "0"] then none
    else some .notABoolean
  | .integer least greatest =>
    if value.isEmpty then some .noInteger
    else match integer? value with
      | none => some .notAnInteger
      | some n => if least ≤ n ∧ n ≤ greatest then none else some (.notWithin n least greatest)
  | .word words =>
    let word := String.ofList (withoutLead value)
    if value.isEmpty then some .noWord
    else if word.isEmpty ∨ word.toLower ∈ words then none
    else some (.notAWord word)

end PropertyKind

/-- The properties a client takes. -/
def clientProperties : List (String × PropertyKind) := [
  ("auto.offset.reset",
    .word ["smallest", "earliest", "beginning", "largest", "latest", "end", "error"]),
  ("client.id", .text),
  ("enable.auto.commit", .boolean),
  ("enable.partition.eof", .boolean),
  ("group.id", .text),
  ("session.timeout.ms", .integer 1 3600000)]

/-- The longest pause between two polls, in milliseconds. -/
def longestPause : Int := 300000

/-- What is wrong with a property. -/
def propertyFault? (key value : String) : Option PropertyFault :=
  match clientProperties.lookup key with
  | none => some .unknown
  | some k => k.fault? value

/-- Reads a client's configuration: the group it is to join, if one is
named. The first property that is wrong fails it. -/
def readClientGroup (c : Configuration) : Except ConfigurationFault (Option String) := do
  for (key, value) in c.entries do
    match propertyFault? key value with
    | some fault => throw (.property key value fault)
    | none => pure ()
  match (c.get? "session.timeout.ms").bind PropertyKind.integer? with
  | some n => if longestPause < n then throw .sessionOutlastsPolling
  | none => pure ()
  match c.get? Configuration.groupKey with
  | none => pure none
  | some group =>
    if (PropertyKind.withoutLead group).isEmpty then throw .noQueue
    pure (some group)

end ConsumerGroup
