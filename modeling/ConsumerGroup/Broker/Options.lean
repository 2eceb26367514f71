import ConsumerGroup.Configuration
import ConsumerGroup.Broker.Log

/-!
# Options of a member

What a broker reads out of a member's configuration: the group, a name
for the client, where to begin without a committed offset, and whether
the end of a partition is announced. Other keys are not looked at.

The options are read in key order and the first fault is the one that is
told; that the group is missing is only noticed once all the others have
been read.
-/

namespace ConsumerGroup

/-- Where to begin when no usable offset is asked for or committed. -/
inductive ResetPolicy where
  | earliest
  | latest
  /-- Nowhere: the partition is refused. -/
  | refuse
  deriving DecidableEq, Repr, Inhabited

namespace ResetPolicy

/-- The words for each policy, in the order a message lists them. -/
def words : List (String × ResetPolicy) := [
  ("beginning", .earliest), ("earliest", .earliest), ("smallest", .earliest),
  ("end", .latest), ("largest", .latest), ("latest", .latest), ("error", .refuse)]

/-- The place a policy picks in a log. -/
def place? (p : ResetPolicy) (l : Log) : Option Nat :=
  match p with
  | .earliest => some l.low
  | .latest => some l.high
  | .refuse => none

/-- Reads a policy. -/
def ofText (s : String) : Except OptionFault ResetPolicy :=
  match words.lookup s with
  | some p => .ok p
  | none => .error (.notAWord s (words.map (·.1)))

end ResetPolicy

/-- What a broker has to know of a member. -/
structure MemberOptions where
  group : String
  client : String := "kafka_group"
  reset : ResetPolicy := .latest
  announcesEnd : Bool := false
  deriving DecidableEq, Repr, Inhabited

namespace MemberOptions

def readBool (s : String) : Except OptionFault Bool :=
  if s = "true" then .ok true else if s = "false" then .ok false else .error .notABoolean

/-- Reads an option that may be left out. -/
def readOr {α : Type} (c : Configuration) (key : String) (default : α)
    (read : String → Except OptionFault α) : Except OptionFault α :=
  match c.get? key with
  | some s => read s
  | none => .ok default

/-- Reads the options out of a configuration. -/
def read (c : Configuration) : Except OptionFault MemberOptions := do
  let reset ← readOr c "auto.offset.reset" .latest ResetPolicy.ofText
  let client ← readOr c "client.id" "kafka_group" .ok
  let announcesEnd ← readOr c "enable.partition.eof" false readBool
  match c.get? Configuration.groupKey with
  | some group => .ok { group, client, reset, announcesEnd }
  | none => .error (.missing Configuration.groupKey)

end MemberOptions

end ConsumerGroup
