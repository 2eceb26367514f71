import ConsumerGroup.Cluster
import ConsumerGroup.Transport

/-!
# A seat in a group

The transport of a member of a cluster. The seat itself is no more than
the member's id and group; everything else is the broker's. Whoever has
left keeps an empty seat: the broker no longer knows the member, and says
so.
-/

namespace ConsumerGroup

instance : Timed Cluster := ⟨Cluster.now, Cluster.pass⟩

/-- A member's place in a cluster. -/
structure Seat where
  member : String
  group : String
  deriving DecidableEq, Repr

namespace Seat

/-- The seat in words. -/
def describe (s : Seat) : String :=
  "MemoryHandle \x7b member_id: " ++ Text.quoted s.member ++ ", group_id: "
    ++ Text.quoted s.group ++ " \x7d"

/-- Connects a new member. -/
def connect (c : Configuration) : Act DiaryEntry Cluster Seat := do
  let id ← Cluster.onBroker (·.connect c)
  pure { member := id, group := (c.get? Configuration.groupKey).getD "" }

/-- What the member of a seat does with the broker. -/
def act {α : Type} (f : Broker → String → Broker.Effect α) : Act DiaryEntry (Seat × Cluster) α :=
  fun (s, c) =>
    let o := Cluster.onBroker (fun b => f b s.member) c
    ⟨o.result, (s, o.state), o.journal⟩

/-- What the member of a seat wants to know of the broker. -/
def wonder {α : Type} (f : Broker → String → Except Failure α) :
    Act DiaryEntry (Seat × Cluster) α :=
  fun (s, c) => ⟨(f c.broker s.member).mapError .failure, (s, c), []⟩

/-- Waits for the next event of the member. -/
def poll (timeout : Nat) : Act DiaryEntry (Seat × Cluster) (Option Event) := fun (s, c) =>
  let o := c.await s.member (c.now + timeout)
  ⟨o.result, (s, o.state), o.journal⟩

instance : Transport Seat Cluster where
  poll := poll
  subscribe topics := act (·.subscribe · topics)
  unsubscribe := act (·.unsubscribe ·)
  assign partitions := act (·.assign · partitions)
  unassign := act (·.unassign ·)
  commit offsets asynchronous := act (·.commit · offsets asynchronous)
  watermarks p := wonder (·.watermarksFor · p.partition)
  committed partitions := wonder (·.committedFor · partitions)
  positions partitions := wonder (·.positionsOf · partitions)
  assignment := wonder (·.assignmentOf ·)
  subscription := wonder (·.subscriptionOf ·)
  close := act (·.leave ·)
  release := act (·.leave ·)
  memberId s := s.member

end Seat

end ConsumerGroup
