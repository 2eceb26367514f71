import ConsumerGroup.Broker.Rebalance

/-!
# Operations of the broker

What can be asked of a broker: by anyone (`Request`), and by a member
(`MemberRequest`). Each operation has a function of its own, and
`Broker.perform` does whichever is asked for.

A refused operation leaves the broker as it was. An asynchronous commit
is never refused: what is wrong with it is only told in the diary.
-/

namespace ConsumerGroup

namespace Broker

/-! ## By anyone -/

/-- Creates a topic with a number of partitions. The groups with a
member that covers it rebalance. -/
def createTopic (b : Broker) (name : String) (partitions : Int) : Effect Unit :=
  if name.isEmpty ∨ partitions < 1 then b.refuse .invalidArgument
  else if (b.topics.find? name).isSome then b.refuse .topicAlreadyExists
  else
    let logs := List.replicate partitions.toNat ({} : Log)
    let b := { b with topics := b.topics.insert ⟨name, logs⟩ }
    let groups := b.groupsCovering name
    { result := .ok ()
      broker := b.rebalancedAll groups
      wakes := !groups.isEmpty
      diary := .topicCreated name partitions :: b.rebalanceAllDiary groups }

/-- Writes a record; the answer is its number. -/
def produce (b : Broker) (p : Partition) (key : Option (List UInt8)) (payload : List UInt8) :
    Effect Int :=
  match b.log? p with
  | none => b.refuse .unknownTopicOrPartition
  | some l =>
    { result := .ok l.high
      broker := { b with topics := b.topics.modifyLog p (·.append ⟨key, some payload⟩) }
      wakes := true }

/-- Drops the records below a number; the answer is the number of the
oldest record kept. Nobody who waits is woken. -/
def deleteRecords (b : Broker) (p : Partition) (before : Int) : Effect Int :=
  match b.log? p with
  | none => b.refuse .unknownTopicOrPartition
  | some l =>
    { result := .ok (l.dropBelow before).low
      broker := { b with topics := b.topics.modifyLog p (·.dropBelow before) } }

def watermarks (b : Broker) (p : Partition) : Except Failure Watermarks :=
  (b.log p).map Log.watermarks

/-- Takes in a new member; the answer is its id. It takes part in its
group once it subscribes. -/
def connect (b : Broker) (c : Configuration) : Effect String :=
  match MemberOptions.read c with
  | .error fault => b.answer (.error (.configuration (.option fault)))
  | .ok options =>
    let number := b.joined + 1
    let id := options.client ++ "-" ++ toString number
    { result := .ok id
      broker := { b with members := b.members ++ [{ id, options }], joined := number }
      diary := [.memberConnected id options.group] }

/-- Rebalances a group without a reason. -/
def forceRebalance (b : Broker) (group : String) : Effect Unit :=
  { result := .ok ()
    broker := b.rebalanced group
    wakes := true
    diary := b.rebalanceDiary group }

/-- Queues a notification for a member, as if its group had sent it. -/
def notify (b : Broker) (id : String) (code : StatusCode) (partitions : PartitionList) :
    Effect Unit :=
  match b.member? id with
  | none => b.refuse .destroyed
  | some _ =>
    { result := .ok ()
      broker := b.modifyMember id fun m => { m with queue := m.queue ++ [⟨code, partitions⟩] }
      wakes := true }

/-! ## By a member -/

/-- Changes what a member subscribes to, and rebalances its group. -/
def resubscribe (b : Broker) (m : Member) (subscription : List Subscription) : Effect Unit :=
  let b := b.modifyMember m.id fun m => { m with subscription }
  b.forceRebalance m.group

/-- Subscribes a member to topics, in place of what it subscribed to. -/
def subscribe (b : Broker) (id : String) (topics : List String) : Effect Unit :=
  if topics.isEmpty then b.refuse .invalidArgument
  else match Subscription.ofTexts b.patterns topics with
    | .error f => b.answer (.error f)
    | .ok subscription =>
      match b.member? id with
      | none => b.refuse .destroyed
      | some m => b.resubscribe m subscription

/-- Ends all subscriptions of a member. -/
def unsubscribe (b : Broker) (id : String) : Effect Unit :=
  match b.member? id with
  | none => b.refuse .destroyed
  | some m => b.resubscribe m []

/-- The slots of a new assignment, each at its start. -/
def slots (b : Broker) (m : Member) : PartitionList → Except Failure (List Slot)
  | [] => .ok []
  | e :: rest => do
    let l ← b.log e.partition .unknownPartition
    let position := startPosition e.offset (b.committed? m.group e.partition) l m.options.reset
    let slots ← b.slots m rest
    .ok ({ partition := e.partition, position } :: slots)

/-- Replaces what a member reads. -/
def assign (b : Broker) (id : String) (partitions : PartitionList) : Effect Unit :=
  if partitions.hasDuplicates then b.refuse .invalidArgument
  else match b.member? id with
    | none => b.refuse .destroyed
    | some m =>
      match b.slots m partitions with
      | .error f => b.answer (.error f)
      | .ok assignment =>
        { result := .ok ()
          broker := b.modifyMember id fun m => { m with assignment, cursor := 0 }
          wakes := true
          diary := [.assignmentApplied id partitions.length] }

/-- Has a member read nothing. -/
def unassign (b : Broker) (id : String) : Effect Unit :=
  match b.member? id with
  | none => b.refuse .destroyed
  | some _ =>
    { result := .ok ()
      broker := b.modifyMember id fun m => { m with assignment := [], cursor := 0 }
      wakes := true
      diary := [.assignmentCleared id] }

/-- What is wrong with a list of offsets to commit: the first entry
without a partition or without a number decides. -/
def commitFault? (b : Broker) : PartitionList → Option StatusCode
  | [] => none
  | e :: rest =>
    if (b.log? e.partition).isNone then some .unknownTopicOrPartition
    else if e.offset.number?.isNone then some .invalidArgument
    else b.commitFault? rest

/-- Commits the numbers of a list for a group, one after the other. -/
def putAllCommitted (b : Broker) (group : String) (offsets : PartitionList) : Broker :=
  offsets.foldl (fun b e =>
    match e.offset.number? with
    | some n => b.putCommitted group e.partition n
    | none => b) b

/-- Commits offsets for a member's group: all of them or, if one cannot
be, none. -/
def commitNow (b : Broker) (id : String) (offsets : PartitionList) : Effect Unit :=
  match b.member? id with
  | none => b.refuse .destroyed
  | some m =>
    if offsets.isEmpty then b.refuse .noOffset
    else match b.commitFault? offsets with
      | some code => b.refuse code
      | none => { result := .ok (), broker := b.putAllCommitted m.group offsets }

/-- Commits offsets for a member's group. An asynchronous commit is not
refused; that it failed is told in the diary. -/
def commit (b : Broker) (id : String) (offsets : PartitionList) (asynchronous : Bool) :
    Effect Unit :=
  let e := b.commitNow id offsets
  match e.result, asynchronous with
  | .error f, true => { e with result := .ok (), diary := e.diary ++ [.commitFailedLater id f] }
  | _, _ => e

/-- Both ends of a partition's log, for a member. -/
def watermarksFor (b : Broker) (id : String) (p : Partition) : Except Failure Watermarks := do
  let _ ← b.member id
  b.watermarks p

/-- The list with the offsets that a member's group has committed. -/
def committedFor (b : Broker) (id : String) (partitions : PartitionList) :
    Except Failure PartitionList := do
  let m ← b.member id
  partitions.mapM fun e => do
    let _ ← b.log e.partition
    let offset := match b.committed? m.group e.partition with
      | some n => .number n
      | none => .invalid
    pure { e with offset }

/-- The list with the places where a member reads next. -/
def positionsOf (b : Broker) (id : String) (partitions : PartitionList) :
    Except Failure PartitionList := do
  let m ← b.member id
  pure <| partitions.map fun e =>
    { e with offset := match m.position? e.partition with
      | some n => .number n
      | none => .invalid }

/-- What a member reads. -/
def assignmentOf (b : Broker) (id : String) : Except Failure PartitionList := do
  let m ← b.member id
  pure (.ofPartitions m.held)

/-- The texts a member subscribed with. -/
def subscriptionOf (b : Broker) (id : String) : Except Failure (List String) := do
  let m ← b.member id
  pure (m.subscription.map Subscription.text)

/-- The next event for a member, if there is one. -/
def nextEvent (b : Broker) (id : String) : Effect (Option Event) :=
  match b.member? id with
  | none => b.refuse .destroyed
  | some m =>
    let (event, m) := m.next b.topics
    { result := .ok event, broker := b.modifyMember id fun _ => m }

/-- A member leaves, and its group rebalances. Whoever has left already
does nothing more. -/
def leave (b : Broker) (id : String) : Effect Unit :=
  match b.member? id with
  | none => b.answer (.ok ())
  | some m =>
    let e := { b with members := b.members.filter (·.id ≠ id) }.forceRebalance m.group
    { e with diary := .memberLeft id m.group :: e.diary }

end Broker

/-! ## Requests -/

/-- What a member can ask of the broker. -/
inductive MemberRequest where
  | next
  | subscribe (topics : List String)
  | unsubscribe
  | assign (partitions : PartitionList)
  | unassign
  | commit (offsets : PartitionList) (asynchronous : Bool)
  | watermarks (p : Partition)
  | committed (partitions : PartitionList)
  | positions (partitions : PartitionList)
  | assignment
  | subscription
  | leave
  deriving DecidableEq

/-- What anyone can ask of the broker. -/
inductive Request where
  | createTopic (name : String) (partitions : Int)
  | produce (p : Partition) (key : Option (List UInt8)) (payload : List UInt8)
  | deleteRecords (p : Partition) (before : Int)
  | watermarks (p : Partition)
  | committed (group : String) (p : Partition)
  | connect (c : Configuration)
  | rebalance (group : String)
  | notify (id : String) (code : StatusCode) (partitions : PartitionList)
  | members (group : String)
  | describe
  | member (id : String) (request : MemberRequest)
  deriving DecidableEq

/-- What the broker answers. -/
inductive Response where
  | done
  | number (n : Int)
  | watermarks (w : Watermarks)
  | committed (n : Option Int)
  | names (l : List String)
  | text (s : String)
  | partitions (l : PartitionList)
  | event (e : Option Event)
  deriving DecidableEq

namespace Broker

/-- The broker in words: the names of its topics and how many members
there are. -/
def describe (b : Broker) : String :=
  "MemoryBroker \x7b topics: " ++ Text.quotedList b.topics.names ++ ", members: "
    ++ toString b.members.length ++ " \x7d"

/-- Does what a member asks for. -/
def performFor (b : Broker) (id : String) : MemberRequest → Effect Response
  | .next => (b.nextEvent id).map .event
  | .subscribe topics => (b.subscribe id topics).map fun _ => .done
  | .unsubscribe => (b.unsubscribe id).map fun _ => .done
  | .assign partitions => (b.assign id partitions).map fun _ => .done
  | .unassign => (b.unassign id).map fun _ => .done
  | .commit offsets asynchronous => (b.commit id offsets asynchronous).map fun _ => .done
  | .watermarks p => (b.answer (b.watermarksFor id p)).map .watermarks
  | .committed partitions => (b.answer (b.committedFor id partitions)).map .partitions
  | .positions partitions => (b.answer (b.positionsOf id partitions)).map .partitions
  | .assignment => (b.answer (b.assignmentOf id)).map .partitions
  | .subscription => (b.answer (b.subscriptionOf id)).map .names
  | .leave => (b.leave id).map fun _ => .done

/-- Does what is asked for. -/
def perform (b : Broker) : Request → Effect Response
  | .createTopic name partitions => (b.createTopic name partitions).map fun _ => .done
  | .produce p key payload => (b.produce p key payload).map .number
  | .deleteRecords p before => (b.deleteRecords p before).map .number
  | .watermarks p => (b.answer (b.watermarks p)).map .watermarks
  | .committed group p => (b.answer (.ok (b.committed? group p))).map .committed
  | .connect c => (b.connect c).map .text
  | .rebalance group => (b.forceRebalance group).map fun _ => .done
  | .notify id code partitions => (b.notify id code partitions).map fun _ => .done
  | .members group => (b.answer (.ok (b.memberIds group))).map .names
  | .describe => (b.answer (.ok b.describe)).map .text
  | .member id request => b.performFor id request

end Broker

end ConsumerGroup
