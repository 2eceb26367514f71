import ConsumerGroup.Transport.Link

/-!
# The log of a session

Which entries of a journal a session logs, and in which words: the calls
of callbacks always, the making of a connection unless it is a client's,
and the requests to a transport only where a script answers them.
-/

namespace ConsumerGroup

/-- The kinds of links. -/
inductive LinkKind where
  | seat
  | script
  | client
  deriving DecidableEq, Repr

/-- The kind of a link. -/
def Link.kind : Link → LinkKind
  | .seat _ => .seat
  | .script _ => .script
  | .client _ => .client

/-- The name a request is logged under. -/
def Method.name : Method → String
  | .poll => "poll"
  | .subscribe => "subscribe"
  | .unsubscribe => "unsubscribe"
  | .assign => "assign"
  | .unassign => "unassign"
  | .commit => "commit"
  | .watermarks => "watermarks"
  | .committed => "committed"
  | .positions => "position"
  | .assignment => "assignment"
  | .subscription => "subscription"
  | .close => "close"

/-- All requests, each once. -/
def Method.all : List Method := [.poll, .subscribe, .unsubscribe, .assign, .unassign, .commit,
  .watermarks, .committed, .positions, .assignment, .subscription, .close]

def Method.ofName? (name : String) : Option Method := Method.all.find? (·.name == name)

/-- What a request is made with, in words. -/
def Ask.particulars : Ask → String
  | .poll timeout => toString timeout
  | .subscribe topics => ",".intercalate topics
  | .assign partitions | .committed partitions | .positions partitions => partitions.toText
  | .commit offsets asynchronous => (if asynchronous then "async " else "sync ") ++ offsets.toText
  | .watermarks p => p.toText
  | _ => ""

/-- A request in words. -/
def Ask.describe (a : Ask) : String :=
  let particulars := a.particulars
  "h:" ++ a.method.name ++ (if particulars.isEmpty then "" else " " ++ particulars)

/-- A call of a callback in words. -/
def Notification.describe : Notification → String
  | .assign partitions => "cb:assign " ++ partitions.toText
  | .revoke partitions => "cb:revoke " ++ partitions.toText
  | .trouble code => "cb:error " ++ code.toText

namespace Entry

/-- The line that is logged for an entry, if one is. -/
def line? (kind : LinkKind) : Entry → Option String
  | .diary _ => none
  | .connecting options => if kind = .client then none else some ("connect " ++ toString options)
  | .asked a => if kind = .script then some a.describe else none
  | .called n => some n.describe

/-- The diary's part of a journal. -/
def diary? : Entry → Option DiaryEntry
  | .diary e => some e
  | _ => none

end Entry

end ConsumerGroup
