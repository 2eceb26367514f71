import ConsumerGroup.Broker.Member
import ConsumerGroup.Diary
import ConsumerGroup.Pattern

/-!
# The broker

The state of a cluster: its topics, what each group has committed, the
members in the order they joined, and how many have ever joined; and what
reads the patterns of its members, which no operation changes.

An operation answers an `Effect`: its result, the state it leaves behind
— also when it fails — whether polls that wait are woken, and what it
wrote into the diary.
-/

namespace ConsumerGroup

/-- The state of a cluster. -/
structure Broker where
  topics : Topics := .empty
  /-- The next offset to read, for a group and a partition. -/
  committed : List ((String × Partition) × Int) := []
  /-- The members, in the order they joined. -/
  members : List Member := []
  /-- How many members have ever joined. -/
  joined : Nat := 0
  /-- What reads the patterns that members subscribe with. -/
  patterns : PatternReader := Pattern.reader

namespace Broker

/-- What an operation on the broker comes to. -/
structure Effect (α : Type) where
  result : Except Failure α
  broker : Broker
  /-- Polls that wait are to look again. -/
  wakes : Bool := false
  diary : List DiaryEntry := []

/-- Nothing is done; the operation is refused with a code. -/
def refuse {α : Type} (b : Broker) (code : StatusCode) : Effect α :=
  { result := .error (.ofCode code), broker := b }

/-- Nothing is done; the operation answers a question. -/
def answer {α : Type} (b : Broker) (x : Except Failure α) : Effect α :=
  { result := x, broker := b }

/-- What the effect's result is turned into. -/
def Effect.map {α β : Type} (f : α → β) (e : Effect α) : Effect β :=
  { e with result := e.result.map f }

/-! ## Looking -/

def log? (b : Broker) (p : Partition) : Option Log := b.topics.log? p

/-- The log of a partition; without one the code says what is missing. -/
def log (b : Broker) (p : Partition) (missing : StatusCode := .unknownTopicOrPartition) :
    Except Failure Log :=
  match b.log? p with
  | some l => .ok l
  | none => .error (.ofCode missing)

def member? (b : Broker) (id : String) : Option Member := b.members.find? (·.id == id)

/-- The member with an id; a member that has left is gone for good. -/
def member (b : Broker) (id : String) : Except Failure Member :=
  match b.member? id with
  | some m => .ok m
  | none => .error (.ofCode .destroyed)

/-- The offset a group has committed for a partition. -/
def committed? (b : Broker) (group : String) (p : Partition) : Option Int :=
  b.committed.lookup (group, p)

/-- The ids of a group's members, in the order they joined. -/
def memberIds (b : Broker) (group : String) : List String :=
  (b.members.filter (·.group == group)).map (·.id)

/-! ## Changing -/

/-- Changes the member with an id. -/
def modifyMember (b : Broker) (id : String) (f : Member → Member) : Broker :=
  { b with members := b.members.map fun m => if m.id = id then f m else m }

/-- Commits an offset for a group. -/
def putCommitted (b : Broker) (group : String) (p : Partition) (n : Int) : Broker :=
  { b with committed := ((group, p), n) :: b.committed.filter (·.1 ≠ (group, p)) }

/-! ## What a change leaves alone -/

/-- A change that keeps the id changes the member found. -/
theorem member?_modifyMember {b : Broker} {id : String} {f : Member → Member}
    (h : ∀ m, m.id = id → (f m).id = id) :
    (b.modifyMember id f).member? id = (b.member? id).map f := by
  unfold member? modifyMember
  induction b.members with
  | nil => rfl
  | cons m ms ih =>
    by_cases hm : m.id = id
    · simp [hm, h m hm]
    · simp [hm, ih]

/-- The member found has the id looked for. -/
theorem id_of_member? {b : Broker} {id : String} {m : Member} (h : b.member? id = some m) :
    m.id = id := by
  simpa using List.find?_some h

end Broker

end ConsumerGroup
