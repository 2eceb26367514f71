import ConsumerGroup.Text.Quoted
import ConsumerGroup.Decimal.Shortest

/-!
# JSON values

A value as a reader gives it, and the writing of a flat object of texts.

An object holds each key once, in key order. A number is an integer as
long as it fits into 64 bits; beyond that, and with a point or an
exponent, it is a double.
-/

namespace ConsumerGroup.Json

/-- A number of a JSON text. -/
inductive Number where
  | integer (n : Int)
  | fraction (x : Float)
  deriving DecidableEq

/-- A JSON value. -/
inductive Value where
  | null
  | bool (b : Bool)
  | number (n : Number)
  | text (s : String)
  | list (items : List Value)
  | object (members : List (String × Value))

/-- Puts a member into its place in key order; a member with the same key
gives way. -/
def putMember {α : Type} (key : String) (value : α) : List (String × α) → List (String × α)
  | [] => [(key, value)]
  | (k, v) :: rest =>
    if key = k then (key, value) :: rest
    else if key < k then (key, value) :: (k, v) :: rest
    else (k, v) :: putMember key value rest

/-- The members in key order, the last of equal keys kept. -/
def orderMembers {α : Type} (members : List (String × α)) : List (String × α) :=
  members.foldl (fun m (k, v) => putMember k v m) []

/-- One character inside a written text: the quote, the backslash and the
controls are escaped, everything else stands for itself. -/
def writtenChar (c : Char) : String :=
  if c = '"' then "\\\""
  else if c = '\\' then "\\\\"
  else if c = '\x08' then "\\b"
  else if c = '\x0c' then "\\f"
  else if c = '\n' then "\\n"
  else if c = '\r' then "\\r"
  else if c = '\t' then "\\t"
  else if c.toNat < 0x20 then "\\u00" ++ (if c.toNat < 0x10 then "0" else "") ++ Text.hex c.toNat
  else c.toString

def writtenText (s : String) : String :=
  "\"" ++ String.join (s.toList.map writtenChar) ++ "\""

/-- An object of texts, without blanks. -/
def writtenTexts (members : List (String × String)) : String :=
  "\x7b" ++ ",".intercalate (members.map fun (k, v) => writtenText k ++ ":" ++ writtenText v)
    ++ "\x7d"

end ConsumerGroup.Json
