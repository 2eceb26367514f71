import ConsumerGroup.Consumer
import ConsumerGroup.Session.Edit
import ConsumerGroup.Session.Log

/-!
# Steps of a session

What can be done in a session: something is asked of the broker, an
object is made and named, or a named object does something.
-/

namespace ConsumerGroup

/-- A change to a script. -/
structure Amendment where
  /-- Polls that are to come after those there are. -/
  polls : List ScriptedPoll := []
  /-- Requests that are refused from now on, or no longer. -/
  refusals : List (Method × Option StatusCode) := []
  /-- What is assigned from now on. -/
  assignment : Option PartitionList := none

/-- The script after a change. -/
def Amendment.apply (a : Amendment) (s : Script) : Script :=
  let s := s.refuse a.refusals
  { s with
    polls := s.polls ++ a.polls
    assignment := a.assignment.getD s.assignment }

/-- A message that is named, or given. -/
inductive MessageSource where
  | saved (name : String)
  | given (m : Message)

/-- How an object is made. -/
inductive Making where
  /-- A member's bare transport. -/
  | seat (c : Configuration)
  /-- A client's bare transport. -/
  | client (c : Configuration)
  /-- A bare scripted transport. -/
  | script (s : Script)
  | coordinator
  /-- A consumer at the broker. -/
  | consumer (c : Configuration)
  /-- A consumer over a client. -/
  | clientConsumer (c : Configuration)
  /-- A consumer over a script; the connection may be refused. -/
  | scriptConsumer (c : Configuration) (s : Script) (refusal : Option StatusCode)

/-- What an object does. -/
inductive Doing where
  | drop
  /-- It is dropped while a crash is being handled. -/
  | dropUnwinding
  | onAssign (edits : List Edit)
  | onRevoke (edits : List Edit)
  | onTrouble (edits : List Edit)
  /-- Which callbacks are set. -/
  | callbacks
  | describe
  | setTimeout (timeout : Nat)
  | timeout
  | setRequestTimeout (timeout : Nat)
  /-- A poll, for a time or for the time set; others act meanwhile, each
  so long after its beginning. -/
  | poll (timeout : Option Nat) (save : Option String) (meanwhile : List Appointment)
  | ask (a : Ask)
  | memberId
  | commitMessage (m : MessageSource) (asynchronous : Bool)
  /-- A coordinator takes a notification for the transport of a name. -/
  | take (transport : String) (code : StatusCode) (partitions : PartitionList)
  | amend (a : Amendment)

/-- A step of a session. -/
inductive Step where
  | broker (r : Request)
  | make (name : String) (m : Making)
  | object (name : String) (d : Doing)
  /-- What every member at the broker reads and is subscribed to. -/
  | dump

end ConsumerGroup
