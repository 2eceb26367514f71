import ConsumerGroup.Pattern.Extended
import ConsumerGroup.Text.Span
import ConsumerGroup.Transport
import ConsumerGroup.Transport.Client.Properties

/-!
# A client without a cluster

The transport of a client that reaches no broker. It keeps what it is
told — a subscription, an assignment — and checks it, and whatever it
would have to ask a broker fails or runs out of time. Nothing ever
arrives, so a poll only waits.

A list handed to the client is written entry by entry into the client's
own table (`table`), and it is there that a topic's name with a zero byte
ends the call and an offset without a meaning is refused, whether the
client is open or not.
-/

namespace ConsumerGroup

/-- A client without a cluster. -/
structure Client where
  isOpen : Bool := true
  /-- The group to join; without one there is little a client can do. -/
  group : Option String := none
  /-- How long a request to a broker may take, in milliseconds. -/
  requestTimeout : Nat := 10000
  /-- The topics subscribed to, in order. -/
  subscription : List String := []
  /-- The partitions assigned, in order. -/
  assignment : PartitionList := []

namespace Client

/-- The client in words. -/
def describe (c : Client) : String :=
  "NativeHandle \x7b open: " ++ toString c.isOpen ++ ", request_timeout: "
    ++ Text.span c.requestTimeout ++ " \x7d"

/-- Opens a client. -/
def connect {W : Type} (c : Configuration) : Act DiaryEntry W Client :=
  match readClientGroup c with
  | .error fault => Act.fail (.configuration fault)
  | .ok group => do
    Act.note (.clientCreated c.size)
    pure { group }

/-! ## What a client is handed -/

def hasZero (name : String) : Bool := name.toList.contains '\x00'

/-- A name with a zero byte ends the call. -/
def checkName (name : String) : Except Fault Unit :=
  if hasZero name then .error (.crash (.zeroInName name.toUTF8.toList)) else .ok ()

/-- A refusal of the client, in its own words: what failed, and the
standard words of a status. -/
def refusal (code : StatusCode) (what : String) (status : String) : Failure :=
  .broker code (what ++ status)

/-- An offset that is no number and no name. -/
def offsetRefusal : Failure :=
  refusal .invalidArgument "Set partition offset error: InvalidArgument "
    "(Local: Invalid argument or configuration)"

/-- Whether an offset has a meaning: a number from zero up, or one of the
names. -/
def hasMeaning (o : Offset) : Bool := 0 ≤ o.toRaw || Offset.ofRaw o.toRaw != .invalid
  || o.toRaw == Offset.rawInvalid

/-- Writes a list into a table that has rows already. An entry for a
partition that has a row gets a row without an offset, and its offset goes
to the first. -/
def tableFrom (rows : PartitionList) : PartitionList → Except Fault PartitionList
  | [] => .ok rows
  | e :: rest =>
    match checkName e.topic with
    | .error f => .error f
    | .ok () =>
      if hasMeaning e.offset then
        let rows := rows.push { partition := e.partition }
        tableFrom (rows.setOffset e.partition (.ofRaw e.offset.toRaw)) rest
      else .error (.failure offsetRefusal)

/-- Writes a list into a table. -/
def table (l : PartitionList) : Except Fault PartitionList := tableFrom [] l

/-- A refusal of a subscription or an assignment. -/
def subscriptionRefusal (status : String) : Failure :=
  refusal .state "Subscription error: " status

/-- A refusal of a question. -/
def questionRefusal (code : StatusCode) (status : String) : Failure :=
  refusal code "Meta data fetch error: " status

/-- A refusal of a commit. -/
def commitRefusal (code : StatusCode) (status : String) : Failure :=
  refusal code "Consumer commit error: " status

/-- The words for a client without a group. -/
def withoutGroup : String := "UnknownGroup (Local: Unknown group)"

/-- The words for an argument that makes no sense. -/
def badArgument : String := "Local: Invalid argument or configuration"

/-- Whether a client can subscribe to a topic of that name. One that
begins with a circumflex is an extended expression. -/
def canSubscribe (name : String) : Bool :=
  !name.isEmpty && (!name.startsWith "^" || Pattern.isExtended name)

/-! ## The client as a transport -/

variable {W α : Type}

/-- What an open client does. -/
def whenOpen (f : Client → Act DiaryEntry (Client × W) α) : Act DiaryEntry (Client × W) α :=
  fun (c, w) => if c.isOpen then f c (c, w) else Act.refuse .destroyed (c, w)

def update (f : Client → Client) : Act DiaryEntry (Client × W) Unit :=
  Act.modify fun (c, w) => (f c, w)

/-- What a client does with a table of a list. -/
def withTable (l : PartitionList) (f : PartitionList → Act DiaryEntry (Client × W) α) :
    Act DiaryEntry (Client × W) α :=
  match table l with
  | .error e => Act.throw e
  | .ok rows => f rows

/-- What a client of a group does; without a group it fails. -/
def inGroup (without : Failure) (f : Client → Act DiaryEntry (Client × W) α) :
    Act DiaryEntry (Client × W) α :=
  whenOpen fun c => if c.group.isSome then f c else Act.fail without

/-- The first name that ends the call, if there is one. -/
def checkNames : List String → Except Fault Unit
  | [] => .ok ()
  | name :: rest =>
    match checkName name with
    | .error f => .error f
    | .ok () => checkNames rest

/-- Subscribes to topics, in place of those before. -/
def subscribe (topics : List String) : Act DiaryEntry (Client × W) Unit :=
  whenOpen fun c =>
    match checkNames topics with
    | .error e => Act.throw e
    | .ok () =>
      if c.group.isNone then Act.fail (subscriptionRefusal "Local: Unknown group")
      else if topics.isEmpty ∨ ¬ topics.all canSubscribe ∨ ¬ topics.Nodup then
        Act.fail (subscriptionRefusal badArgument)
      else update fun c => { c with subscription := topics.mergeSort (· ≤ ·) }

/-- An assignment begins at the place the group has committed unless it
says where. -/
def begun (e : PartitionOffset) : PartitionOffset :=
  if e.offset = .invalid then { e with offset := .stored } else e

/-- Replaces the assignment. One that names a partition twice is refused,
and nothing is assigned then. -/
def assign (partitions : PartitionList) : Act DiaryEntry (Client × W) Unit :=
  withTable partitions fun rows =>
    inGroup (subscriptionRefusal "Local: Unknown group") fun _ => do
      if rows.hasDuplicates then
        update fun c => { c with assignment := [] }
        Act.fail (subscriptionRefusal badArgument)
      else update fun c => { c with assignment := rows.sorted.map begun }

/-- Commits offsets. Only names for places give nothing to commit, and a
commit that waits for its answer fails then; one that does not is never
refused. A number has to be sent to a broker, and no answer comes. -/
def commit [Timed W] (offsets : PartitionList) (asynchronous : Bool) :
    Act DiaryEntry (Client × W) Unit :=
  withTable offsets fun rows =>
    inGroup (commitRefusal .unknownGroup withoutGroup) fun c =>
      if asynchronous then Act.pure ()
      else if rows.any (·.offset.number?.isSome) then do
        Timed.passBeside c.requestTimeout
        Act.fail (commitRefusal .timedOut "OperationTimedOut (Local: Timed out)")
      else Act.fail (commitRefusal .noOffset "NoOffset (Local: No offset stored)")

/-- Both ends of a partition are not known here. -/
def watermarks (p : PartitionOffset) : Act DiaryEntry (Client × W) Watermarks :=
  whenOpen fun _ =>
    if hasZero p.topic then Act.fail (.broker .state "FFI null error")
    else Act.fail (questionRefusal .allBrokersDown
      "AllBrokersDown (Local: All broker connections are down)")

/-- What a group has committed is asked for, and no answer comes. -/
def committed [Timed W] (partitions : PartitionList) :
    Act DiaryEntry (Client × W) PartitionList :=
  withTable partitions fun _ =>
    inGroup (questionRefusal .unknownGroup withoutGroup) fun c => do
      Timed.passBeside c.requestTimeout
      Act.fail (questionRefusal .timedOut "OperationTimedOut (Local: Timed out)")

/-- Gives the client up. -/
def close : Act DiaryEntry (Client × W) Unit := fun (c, w) =>
  if c.isOpen then ⟨.ok (), ({ c with isOpen := false }, w), [.clientClosing]⟩
  else ⟨.ok (), (c, w), []⟩

/-- Waits, for nothing. -/
def poll [Timed W] (timeout : Nat) : Act DiaryEntry (Client × W) (Option Event) :=
  whenOpen fun _ => do
    Timed.passBeside timeout
    pure none

instance [Timed W] : Transport Client W where
  poll := poll
  subscribe := subscribe
  unsubscribe := whenOpen fun _ => update fun c => { c with subscription := [] }
  assign := assign
  unassign := inGroup (subscriptionRefusal "Local: Unknown group") fun _ =>
    update fun c => { c with assignment := [] }
  commit := commit
  watermarks := watermarks
  committed := committed
  positions partitions := inGroup (questionRefusal .unknownGroup withoutGroup) fun _ =>
    Act.pure (.ofPartitions partitions.partitions)
  assignment := inGroup (questionRefusal .unknownGroup withoutGroup) fun c => Act.pure c.assignment
  subscription := inGroup (questionRefusal .unknownGroup withoutGroup) fun c =>
    Act.pure c.subscription
  close := close
  release := close
  memberId _ := ""

/-! ## A client runs dry -/

/-- No poll brings anything. -/
theorem result_poll_ne [Timed W] {timeout : Nat} {s : Client × W} {event : Event} :
    (poll timeout s).result ≠ .ok (some event) := by
  obtain ⟨c, w⟩ := s
  unfold poll whenOpen
  dsimp only
  split
  · cases h : Timed.passBeside timeout (c, w) with
    | mk result t journal =>
      cases result with
      | ok a => rw [Act.bind_ok h]; exact fun h => by simp [Outcome.after, pure, Act.pure] at h
      | error e => rw [Act.bind_error h]; exact fun h => by simp at h
  · simp [Act.refuse, Act.fail, Act.throw]

instance [Timed W] : RunsDry Client W where
  backlog _ := ⟨0, 0⟩
  less_of_poll h := absurd h result_poll_ne
  backlog_assign _ _ := rfl
  backlog_unassign _ := rfl

end Client

end ConsumerGroup
