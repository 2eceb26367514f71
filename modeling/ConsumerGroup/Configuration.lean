import ConsumerGroup.Failure
import ConsumerGroup.Json.Decoder
import ConsumerGroup.Text.Blank

/-!
# Configurations

A configuration is a flat table of texts, each key once, in key order. A
consumer looks at one key only, the group it is to join; everything else
is for the transport.
-/

namespace ConsumerGroup

/-- A flat table of texts in key order. -/
structure Configuration where
  entries : List (String × String) := []
  deriving DecidableEq, Repr, Inhabited

namespace Configuration

/-- The key that names the group. -/
def groupKey : String := "group.id"

def set (c : Configuration) (key value : String) : Configuration :=
  ⟨Json.putMember key value c.entries⟩

/-- The configuration with these entries; of equal keys the last
counts. -/
def ofPairs (pairs : List (String × String)) : Configuration :=
  ⟨Json.orderMembers pairs⟩

def get? (c : Configuration) (key : String) : Option String := c.entries.lookup key

def erase (c : Configuration) (key : String) : Configuration :=
  ⟨c.entries.filter (·.1 ≠ key)⟩

def contains (c : Configuration) (key : String) : Bool := (c.get? key).isSome

def size (c : Configuration) : Nat := c.entries.length

def isEmpty (c : Configuration) : Bool := c.entries.isEmpty

/-- The group to join: the value of its key, unless that is blank. -/
def group? (c : Configuration) : Option String :=
  (c.get? groupKey).filter (!Text.isBlank ·)

/-- Reads a flat JSON object of texts. -/
def ofJson (s : String) : Except Failure Configuration :=
  match Json.decode (Json.anObject (Json.aText "a string") "a map") s.toUTF8.toList with
  | .ok entries => .ok ⟨entries⟩
  | .error misread => .error (.json misread)

/-- Writes the entries as a JSON object, without blanks. -/
def toJson (c : Configuration) : String := Json.writtenTexts c.entries

end Configuration

end ConsumerGroup
