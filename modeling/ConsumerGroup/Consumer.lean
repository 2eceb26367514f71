import ConsumerGroup.Configuration
import ConsumerGroup.Coordinator.Backlog
import ConsumerGroup.Text.Span

/-!
# Consumers

A consumer owns a transport and a coordinator. It polls until a message
comes or the time is over, and has the coordinator take the notifications
that come before. It ends once: the first `close` gives up what is held,
through the coordinator, and closes the transport whatever came of that;
every later one does nothing.

A poll ends because the transport runs dry (`RunsDry`): every
notification it hands out leaves less to come, and taking one brings
nothing new.
-/

namespace ConsumerGroup

/-- A member of a group at work. -/
structure Consumer (H : Type) where
  transport : H
  coordinator : Coordinator := {}
  /-- How long a poll waits that is not told, in milliseconds. -/
  timeout : Nat := 1000
  closed : Bool := false

namespace Consumer

variable {H W α : Type}

/-- Work on the transport of a consumer. -/
def onTransport (m : Act Entry (H × W) α) : Act Entry (Consumer H × W) α :=
  m.within (fun (c, w) => (c.transport, w)) fun (h, w) (c, _) => ({ c with transport := h }, w)

/-- Work of the coordinator of a consumer. -/
def onCoordinator (m : Act Entry (Coordinator × H × W) α) : Act Entry (Consumer H × W) α :=
  m.within (fun (c, w) => (c.coordinator, c.transport, w)) fun (k, h, w) (c, _) =>
    ({ c with transport := h, coordinator := k }, w)

def tell (e : DiaryEntry) : Act Entry (Consumer H × W) Unit := Act.note (.diary e)

def update (f : Consumer H → Consumer H) : Act Entry (Consumer H × W) Unit :=
  Act.modify fun (c, w) => (f c, w)

def self : Act Entry (Consumer H × W) (Consumer H) := fun (c, w) => ⟨.ok c, (c, w), []⟩

variable [Transport H W]

/-- The consumer in words. -/
def describe (W : Type) [Transport H W] (c : Consumer H) : String :=
  "Consumer \x7b member_id: " ++ Text.quoted (Transport.memberId W c.transport) ++ ", rebalance: "
    ++ c.coordinator.describe ++ ", timeout: " ++ Text.span c.timeout ++ ", closed: "
    ++ toString c.closed ++ " \x7d"

/-- Makes a consumer. Without a group to join there is no connection
made. -/
def create (c : Configuration) (connect : Configuration → Act DiaryEntry W H) :
    Act Entry W (Consumer H) :=
  match c.group? with
  | none => Act.fail (.configuration .noGroup)
  | some group => do
    Act.note (.connecting c.size)
    let h ← (connect c).telling .diary
    Act.note (.diary (.consumerCreated group (Transport.memberId W h)))
    pure { transport := h }

/-! ## Requests -/

/-- Subscribes to topics, in place of those before. -/
def subscribe (topics : List String) : Act Entry (Consumer H × W) Unit := do
  onTransport (Transport.askSubscribe topics)
  tell (.subscribed topics)

/-- Ends all subscriptions. -/
def unsubscribe : Act Entry (Consumer H × W) Unit := do
  onTransport Transport.askUnsubscribe
  tell .unsubscribed

/-- Commits offsets. -/
def commit (offsets : PartitionList) (asynchronous : Bool) : Act Entry (Consumer H × W) Unit := do
  tell (.committing offsets asynchronous)
  onTransport (Transport.askCommit offsets asynchronous)

/-- What to commit once a message is dealt with: the wire number behind
its own, if it is a record. -/
def afterMessage? : Message → Option PartitionList
  | .record p n _ _ => some [{ partition := p, offset := .ofRaw (n + 1) }]
  | _ => none

/-- Commits that a message is dealt with. -/
def commitMessage (m : Message) (asynchronous : Bool) : Act Entry (Consumer H × W) Unit :=
  match afterMessage? m with
  | some offsets => commit offsets asynchronous
  | none => Act.refuse .invalidArgument

/-! ## Polling -/

/-- The backlog of a consumer's transport. -/
def backlog [RunsDry H W] (s : Consumer H × W) : Backlog := RunsDry.backlog (s.1.transport, s.2)

/-- Waits for the next event, for as long as is left until a deadline. -/
def awaitEvent [Timed W] (deadline : Nat) : Act Entry (Consumer H × W) (Option Event) := fun s =>
  onTransport (Transport.askPoll (deadline - Timed.now s.2)) s

/-- An event that is a notification leaves less to come. -/
theorem less_of_awaitEvent [RunsDry H W] [Timed W] {deadline : Nat} {s t : Consumer H × W}
    {code : StatusCode} {partitions : PartitionList} {journal : List Entry}
    (h : awaitEvent deadline s = ⟨.ok (some (.rebalance code partitions)), t, journal⟩) :
    (backlog t).Less (backlog s) := by
  have hr : (awaitEvent deadline s).result = .ok (some (.rebalance code partitions)) := by rw [h]
  have ht : (awaitEvent deadline s).state = t := by rw [h]
  rw [← ht]
  exact RunsDry.less_of_poll hr

/-- Taking a notification leaves the backlog alone. -/
theorem keeps_backlog_take [RunsDry H W] (n : Notification) :
    Act.Keeps backlog (onCoordinator (Coordinator.take n) : Act Entry (Consumer H × W) Unit) :=
  Act.keeps_within (Coordinator.keeps_take n) (fun _ => rfl) fun _ _ => rfl

/-- Polls until a deadline: takes notifications until a message comes or
the time is over. -/
def pollUntil [RunsDry H W] [Timed W] (deadline : Nat) (s : Consumer H × W) :
    Outcome Entry (Consumer H × W) Message :=
  match _come : awaitEvent deadline s with
  | ⟨.error e, t, journal⟩ => ⟨.error e, t, journal⟩
  | ⟨.ok none, t, journal⟩ => ⟨.ok .empty, t, journal⟩
  | ⟨.ok (some (.message m)), t, journal⟩ => ⟨.ok m, t, journal⟩
  | ⟨.ok (some (.rebalance code partitions)), t, journal⟩ =>
    match _taken : onCoordinator (Coordinator.take (.ofCode code partitions)) t with
    | ⟨.error e, u, taken⟩ => ⟨.error e, u, journal ++ taken⟩
    | ⟨.ok (), u, taken⟩ => (pollUntil deadline u).after (journal ++ taken)
termination_by backlog s
decreasing_by
  have kept : backlog u = backlog t := by
    have := keeps_backlog_take (.ofCode code partitions) t
    rwa [_taken] at this
  show (backlog u).Less (backlog s)
  rw [kept]
  exact less_of_awaitEvent _come

/-- Polls for a span of time. -/
def pollFor [RunsDry H W] [Timed W] (timeout : Nat) : Act Entry (Consumer H × W) Message := fun s =>
  pollUntil (Timed.now s.2 + timeout) s

/-- Polls for as long as the consumer is set to wait. -/
def poll [RunsDry H W] [Timed W] : Act Entry (Consumer H × W) Message := fun s => pollFor s.1.timeout s

/-! ## The end -/

/-- Gives up what is held, through the coordinator. -/
def revokeAll : Act Entry (Consumer H × W) Unit := do
  let held ← onTransport Transport.askAssignment
  if held.isEmpty then pure ()
  else onCoordinator (Coordinator.take (.revoke held))

/-- Leaves the group, once. The transport is closed also if what is held
could not be given up, and the first failure is the one that counts. -/
def close : Act Entry (Consumer H × W) Unit := do
  if (← self).closed then pure ()
  else
    update fun c => { c with closed := true }
    let revoked ← revokeAll.settle
    let left ← (onTransport Transport.askClose).settle
    tell (.consumerClosed (Transport.memberId W (← self).transport))
    Act.ofExcept revoked
    Act.ofExcept left

/-- Lets go of the transport. -/
def releaseTransport : Act Entry (Consumer H × W) Unit :=
  onTransport (Transport.release.telling .diary)

/-- Closes the transport and calls nobody. -/
def closeQuietly : Act Entry (Consumer H × W) Unit := do
  update fun c => { c with closed := true }
  (onTransport Transport.askClose).orElse fun f => tell (.transportCloseFailed f)

/-- What becomes of a consumer that its owner lets go of. It is closed,
unless it has been; while a crash is being handled nobody is called. A
failure is only told, and the transport is let go of in any case. -/
def release (unwinding : Bool) : Act Entry (Consumer H × W) Unit := do
  if (← self).closed then releaseTransport
  else if unwinding then
    closeQuietly
    releaseTransport
  else
    let closed ← (close.orElse fun f => tell (.consumerCloseFailed f)).attempt
    releaseTransport
    match closed with
    | .ok () => pure ()
    | .error fault => Act.throw fault

end Consumer

end ConsumerGroup
