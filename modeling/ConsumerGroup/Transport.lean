import ConsumerGroup.Act
import ConsumerGroup.Diary
import ConsumerGroup.Notification

/-!
# Transports

A transport is a member's connection: it knows how to poll, to subscribe,
to assign, to commit and to answer questions. A coordinator and a
consumer drive any transport; `H` is the state of the connection itself
and `W` the world it is connected to, which other connections may share.

A transport never applies a rebalance on its own. What the group decides
comes out of a poll as an event, exactly once, and whoever polled applies
it with `assign` or `unassign`.

Every request to a transport is told in the journal before it is made
(`Transport.ask`), so that a journal shows what a transport was asked and
in which order.
-/

namespace ConsumerGroup

/-- What a transport can be asked to do. -/
inductive Method where
  | poll
  | subscribe
  | unsubscribe
  | assign
  | unassign
  | commit
  | watermarks
  | committed
  | positions
  | assignment
  | subscription
  | close
  deriving DecidableEq, Repr

/-- A request to a transport. -/
inductive Ask where
  | poll (timeout : Nat)
  | subscribe (topics : List String)
  | unsubscribe
  | assign (partitions : PartitionList)
  | unassign
  | commit (offsets : PartitionList) (asynchronous : Bool)
  | watermarks (p : PartitionOffset)
  | committed (partitions : PartitionList)
  | positions (partitions : PartitionList)
  | assignment
  | subscription
  | close
  deriving DecidableEq

/-- What a request asks a transport to do. -/
def Ask.method : Ask → Method
  | .poll _ => .poll
  | .subscribe _ => .subscribe
  | .unsubscribe => .unsubscribe
  | .assign _ => .assign
  | .unassign => .unassign
  | .commit .. => .commit
  | .watermarks _ => .watermarks
  | .committed _ => .committed
  | .positions _ => .positions
  | .assignment => .assignment
  | .subscription => .subscription
  | .close => .close

/-- What is told of the work on a transport. -/
inductive Entry where
  /-- Somebody wrote into the diary. -/
  | diary (e : DiaryEntry)
  /-- A connection is about to be made, with so many options. -/
  | connecting (options : Nat)
  /-- The transport is asked for something. -/
  | asked (a : Ask)
  /-- The callback for a notification is called. -/
  | called (n : Notification)
  deriving DecidableEq

/-- A world with a clock, in milliseconds. -/
class Timed (W : Type) where
  now : W → Nat
  /-- Lets a span of time pass. -/
  pass : (span : Nat) → Act DiaryEntry W Unit

/-- Lets a span of time pass, beside a connection. -/
def Timed.passBeside {H W : Type} [Timed W] (span : Nat) : Act DiaryEntry (H × W) Unit :=
  (Timed.pass span).within (·.2) fun w (h, _) => (h, w)

/-- A connection `H` to a world `W`. -/
class Transport (H W : Type) where
  /-- Waits for the next event; nothing once the timeout has passed. -/
  poll : (timeout : Nat) → Act DiaryEntry (H × W) (Option Event)
  subscribe : List String → Act DiaryEntry (H × W) Unit
  unsubscribe : Act DiaryEntry (H × W) Unit
  /-- Replaces what is read, each partition from its offset on. -/
  assign : PartitionList → Act DiaryEntry (H × W) Unit
  unassign : Act DiaryEntry (H × W) Unit
  commit : PartitionList → (asynchronous : Bool) → Act DiaryEntry (H × W) Unit
  watermarks : PartitionOffset → Act DiaryEntry (H × W) Watermarks
  committed : PartitionList → Act DiaryEntry (H × W) PartitionList
  positions : PartitionList → Act DiaryEntry (H × W) PartitionList
  assignment : Act DiaryEntry (H × W) PartitionList
  subscription : Act DiaryEntry (H × W) (List String)
  /-- Leaves the group and gives the connection up. -/
  close : Act DiaryEntry (H × W) Unit
  /-- What becomes of a connection that its owner lets go of. -/
  release : Act DiaryEntry (H × W) Unit
  /-- The member's id; nothing is asked of the world for it. -/
  memberId : H → String

namespace Transport

variable {H W α : Type}

/-- Makes a request, and tells of it first. -/
def ask (a : Ask) (m : Act DiaryEntry (H × W) α) : Act Entry (H × W) α := do
  Act.note (.asked a)
  m.telling .diary

variable [Transport H W]

/-! The requests, told of. -/

def askPoll (timeout : Nat) : Act Entry (H × W) (Option Event) :=
  ask (.poll timeout) (poll timeout)

def askSubscribe (topics : List String) : Act Entry (H × W) Unit :=
  ask (.subscribe topics) (subscribe topics)

def askUnsubscribe : Act Entry (H × W) Unit := ask .unsubscribe unsubscribe

def askAssign (partitions : PartitionList) : Act Entry (H × W) Unit :=
  ask (.assign partitions) (assign partitions)

def askUnassign : Act Entry (H × W) Unit := ask .unassign unassign

def askCommit (offsets : PartitionList) (asynchronous : Bool) : Act Entry (H × W) Unit :=
  ask (.commit offsets asynchronous) (commit offsets asynchronous)

def askWatermarks (p : PartitionOffset) : Act Entry (H × W) Watermarks :=
  ask (.watermarks p) (watermarks p)

def askCommitted (partitions : PartitionList) : Act Entry (H × W) PartitionList :=
  ask (.committed partitions) (committed partitions)

def askPositions (partitions : PartitionList) : Act Entry (H × W) PartitionList :=
  ask (.positions partitions) (positions partitions)

def askAssignment : Act Entry (H × W) PartitionList := ask .assignment assignment

def askSubscription : Act Entry (H × W) (List String) := ask .subscription subscription

def askClose : Act Entry (H × W) Unit := ask .close close

end Transport

/-! ## Transports that run dry -/

/-- How much can still come out of a transport: what others are yet to
do, and what is at hand. -/
structure Backlog where
  ahead : Nat
  atHand : Nat

namespace Backlog

/-- Less is ahead, or as much and less is at hand. -/
def Less (a b : Backlog) : Prop :=
  Prod.Lex (· < ·) (· < ·) (a.ahead, a.atHand) (b.ahead, b.atHand)

theorem less_wf : WellFounded Less :=
  InvImage.wf (fun b : Backlog => (b.ahead, b.atHand)) (Prod.lex Nat.lt_wfRel Nat.lt_wfRel).wf

instance : WellFoundedRelation Backlog := ⟨Less, less_wf⟩

theorem less_of_ahead {a b : Backlog} (h : a.ahead < b.ahead) : a.Less b := .left _ _ h

theorem less_of_atHand {a b : Backlog} (h : a.ahead = b.ahead) (k : a.atHand < b.atHand) :
    a.Less b := by
  unfold Less
  rw [h]
  exact .right _ k

end Backlog

/-- A transport that runs dry: it hands out only so many notifications
before it has nothing more to say, and applying them brings no new
ones. -/
class RunsDry (H W : Type) [Transport H W] where
  backlog : H × W → Backlog
  /-- A poll that hands out a notification leaves less to come. -/
  less_of_poll {timeout : Nat} {s : H × W} {code : StatusCode} {partitions : PartitionList} :
    (Transport.poll timeout s).result = .ok (some (.rebalance code partitions)) →
      (backlog (Transport.poll timeout s).state).Less (backlog s)
  backlog_assign (partitions : PartitionList) (s : H × W) :
    backlog (Transport.assign partitions s).state = backlog s
  backlog_unassign (s : H × W) : backlog (Transport.unassign s).state = backlog s

end ConsumerGroup
