import ConsumerGroup.Broker.Options
import ConsumerGroup.Broker.Subscription
import ConsumerGroup.Message

/-!
# Members

A member of a group, as the broker keeps it: what it subscribes to, the
notifications it has yet to take, and the partitions it reads, each with
the place of the next record.

`Member.effectiveAssignment` is what the member holds once it has dealt
with every notification that waits for it. The broker takes away what
is effectively held, not what is held now.

`Member.fetch` finds the next message. It looks at the partitions in a
circle, beginning after the one the last message came from, and stops at
the first that has something to tell.
-/

namespace ConsumerGroup

/-- A partition a member reads. -/
structure Slot where
  partition : Partition
  /-- The number of the next record to read; nothing once the reset policy
  has refused to pick a place. -/
  position : Option Nat
  /-- The end has been announced since the last record. -/
  endTold : Bool := false
  /-- The refusal has been told. -/
  refusalTold : Bool := false
  deriving DecidableEq, Repr

/-- A notification that waits for a member. -/
structure Queued where
  code : StatusCode
  partitions : PartitionList
  deriving DecidableEq, Repr

/-- A member of a group. -/
structure Member where
  id : String
  options : MemberOptions
  subscription : List Subscription := []
  assignment : List Slot := []
  queue : List Queued := []
  /-- Where in the assignment the next look begins. -/
  cursor : Nat := 0

/-! ## Reading a partition -/

namespace Slot

/-- A place outside the log is given up for the one the policy picks. -/
def moved (policy : ResetPolicy) (l : Log) (s : Slot) : Slot :=
  match s.position with
  | some n =>
    if n < l.low ∨ l.high < n then { s with position := policy.place? l, endTold := false } else s
  | none => s

/-- What a slot inside its log has to tell, and the slot afterwards. -/
def told (announcesEnd : Bool) (l : Log) (s : Slot) : Option Message × Slot :=
  match s.position with
  | none =>
    if s.refusalTold then (none, s)
    else (some (.notify .offsetOutOfRange s.partition Offset.rawInvalid),
      { s with refusalTold := true })
  | some n =>
    match l.get? n with
    | some r =>
      (some (.record s.partition n r.key r.payload),
        { s with position := some (n + 1), endTold := false })
    | none =>
      if announcesEnd ∧ ¬ s.endTold then
        (some (.atEnd s.partition n), { s with endTold := true })
      else (none, s)

/-- Looks at a slot: what it has to tell, and the slot afterwards. A
partition without a log has nothing to tell. -/
def look (o : MemberOptions) (ts : Topics) (s : Slot) : Option Message × Slot :=
  match ts.log? s.partition with
  | none => (none, s)
  | some l => (s.moved o.reset l).told o.announcesEnd l

end Slot

/-- The first message that slots have to tell, with the place of the slot
it comes from, and the slots afterwards. Slots before it have been looked
at, slots behind it have not. -/
def firstTold (o : MemberOptions) (ts : Topics) :
    List Slot → Option (Message × Nat) × List Slot
  | [] => (none, [])
  | s :: rest =>
    match s.look o ts with
    | (some m, s) => (some (m, 0), s :: rest)
    | (none, s) =>
      match firstTold o ts rest with
      | (found, rest) => (found.map fun (m, i) => (m, i + 1), s :: rest)

/-- The place in a log where a partition begins to be read: the place
asked for, or the one the group committed, if the log has it, and
otherwise the one the policy picks. -/
def startPosition (asked : Offset) (committed : Option Int) (l : Log) (policy : ResetPolicy) :
    Option Nat :=
  let wanted : Option Int :=
    match asked with
    | .number n => some n
    | .beginning => some l.low
    | .ending => some l.high
    | .stored | .invalid => committed
  match wanted with
  | some n => if l.low ≤ n ∧ n ≤ l.high then some n.toNat else policy.place? l
  | none => policy.place? l

namespace Member

abbrev group (m : Member) : String := m.options.group

/-- Whether the member is subscribed to a topic. -/
def covers (m : Member) (topic : String) : Bool := m.subscription.any (·.covers topic)

/-- Whether the member takes part in the dealing of its group. -/
def isActive (m : Member) (group : String) : Bool :=
  m.group == group && !m.subscription.isEmpty

/-- The partitions the member reads. -/
def held (m : Member) : List Partition := m.assignment.map (·.partition)

/-- What a notification will leave the member with, if it decides that. -/
def Queued.outcome? (q : Queued) : Option PartitionList :=
  if q.code = .assignPartitions then some q.partitions
  else if q.code = .revokePartitions then some []
  else none

/-- The partitions the member holds once it has taken all notifications
that wait: the last of them that decides it does. -/
def effectiveAssignment (m : Member) : PartitionList :=
  (m.queue.reverse.findSome? Queued.outcome?).getD (.ofPartitions m.held)

/-- The next message from the partitions held, and the member
afterwards. -/
def fetch (m : Member) (ts : Topics) : Option Message × Member :=
  let before := m.assignment.take m.cursor
  let behind := m.assignment.drop m.cursor
  let wrapped (i : Nat) : Nat := (i + 1) % m.assignment.length
  match firstTold m.options ts behind with
  | (some (x, i), behind) =>
    (some x, { m with assignment := before ++ behind, cursor := wrapped (m.cursor + i) })
  | (none, behind) =>
    match firstTold m.options ts before with
    | (some (x, i), before) =>
      (some x, { m with assignment := before ++ behind, cursor := wrapped i })
    | (none, before) => (none, { m with assignment := before ++ behind })

/-- The next event: a notification that waits, or else a message. -/
def next (m : Member) (ts : Topics) : Option Event × Member :=
  match m.queue with
  | q :: rest => (some (.rebalance q.code q.partitions), { m with queue := rest })
  | [] =>
    match m.fetch ts with
    | (x, m) => (x.map .message, m)

/-- The place where the member reads a partition next. -/
def position? (m : Member) (p : Partition) : Option Nat :=
  (m.assignment.find? (·.partition == p)).bind (·.position)

end Member

end ConsumerGroup
