import ConsumerGroup.Session.Step

/-!
# Sessions

A session is a cluster with named objects around it: consumers, bare
transports, coordinators. It goes step by step, and each step has a
reply: what came of it, what was logged, and what was written into the
diary. A step that fails or crashes is replied to as well, and the
session goes on.

Time moves only while a poll waits. What others do meanwhile is put on
the agenda when the poll begins; what has not been done when it ends is
never done.
-/

namespace ConsumerGroup

/-- A named object of a session. -/
inductive Thing where
  | consumer (c : Consumer Link)
  | transport (l : Link)
  | coordinator (k : Coordinator)

/-- A cluster with named objects around it. -/
structure Session where
  cluster : Cluster := {}
  things : List (String × Thing) := []
  /-- Messages that have been given a name. -/
  saved : List (String × Message) := []

/-- What a step comes to. -/
inductive Answer where
  | response (r : Response)
  /-- Which callbacks are set. -/
  | flags (l : List Bool)
  | message (m : Message)
  /-- What members read, with their places, and are subscribed to. -/
  | dump (l : List (String × Except Failure (PartitionList × List String)))

/-- The reply to a step. -/
structure Reply where
  result : Except Fault Answer
  log : List String := []
  /-- How long a poll took that did not crash. -/
  elapsed : Option Nat := none
  /-- What came of what others did meanwhile. -/
  meanwhile : Option (List (Except Failure Response)) := none
  diary : List DiaryEntry := []

namespace Answer

def done : Answer := .response .done
def number (n : Int) : Answer := .response (.number n)
def text (s : String) : Answer := .response (.text s)

end Answer

namespace Session

/-! ## Objects -/

def thing? (s : Session) (name : String) : Option Thing := s.things.lookup name

def forget (s : Session) (name : String) : Session :=
  { s with things := s.things.filter (·.1 ≠ name) }

/-- Puts an object in its place. -/
def put (s : Session) (name : String) (t : Thing) : Session :=
  if (s.thing? name).isSome then
    { s with things := s.things.map fun (n, u) => (n, if n = name then t else u) }
  else { s with things := s.things ++ [(name, t)] }

def onCluster {α : Type} (m : Act DiaryEntry Cluster α) : Act Entry Session α :=
  (m.telling .diary).within (·.cluster) fun c s => { s with cluster := c }

/-- Work on an object: what it was goes in, what it is comes out. -/
def onThing {T α : Type} (name : String) (wrap : T → Thing) (t : T)
    (m : Act Entry (T × Cluster) α) : Act Entry Session α :=
  m.within (fun s => (t, s.cluster)) fun (t, c) s => { s with cluster := c }.put name (wrap t)

/-- The reply to a step that has been done. -/
def reply (kind : LinkKind) (o : Outcome Entry Session Answer) : Session × Reply :=
  (o.state, {
    result := o.result
    log := o.journal.filterMap (Entry.line? kind)
    diary := o.journal.filterMap Entry.diary? })

/-! ## What transports and consumers do -/

/-- A request to a bare transport. -/
def askTransport (a : Ask) : Act Entry (Link × Cluster) Response :=
  match a with
  | .poll timeout => return .event (← Transport.askPoll timeout)
  | .subscribe topics => do Transport.askSubscribe topics; return .done
  | .unsubscribe => do Transport.askUnsubscribe; return .done
  | .assign partitions => do Transport.askAssign partitions; return .done
  | .unassign => do Transport.askUnassign; return .done
  | .commit offsets asynchronous => do Transport.askCommit offsets asynchronous; return .done
  | .watermarks p => return .watermarks (← Transport.askWatermarks p)
  | .committed partitions => return .partitions (← Transport.askCommitted partitions)
  | .positions partitions => return .partitions (← Transport.askPositions partitions)
  | .assignment => return .partitions (← Transport.askAssignment)
  | .subscription => return .names (← Transport.askSubscription)
  | .close => do Transport.askClose; return .done

/-- A request to a consumer. -/
def askConsumer (a : Ask) : Act Entry (Consumer Link × Cluster) Answer :=
  match a with
  | .poll timeout => return .message (← Consumer.pollFor timeout)
  | .subscribe topics => do Consumer.subscribe topics; return .done
  | .unsubscribe => do Consumer.unsubscribe; return .done
  | .commit offsets asynchronous => do Consumer.commit offsets asynchronous; return .done
  | .close => do Consumer.close; return .done
  | a => return .response (← Consumer.onTransport (askTransport a))

/-- A link in words; a script has none. -/
def describeLink? : Link → Option String
  | .seat s => some s.describe
  | .client c => some c.describe
  | .script _ => none

/-- Sets a callback. -/
def setCallback? (d : Doing) (k : Coordinator) : Option Coordinator :=
  match d with
  | .onAssign edits => some { k with onAssign := some (Edit.onAssign edits) }
  | .onRevoke edits => some { k with onRevoke := some (Edit.onRevoke edits) }
  | .onTrouble edits => some { k with onTrouble := some (Edit.onTrouble edits) }
  | _ => none

/-- Which callbacks are set. -/
def flags (k : Coordinator) : Answer :=
  .flags [k.onAssign.isSome, k.onRevoke.isSome, k.onTrouble.isSome]

/-! ## Steps of an object -/

/-- A change of an object that nothing else notices. -/
def change (name : String) (t : Thing) : Act Entry Session Answer := do
  Act.modify fun s => s.put name t
  pure .done

/-- Gives a message a name, if there are both. -/
def save : Option String → Option Message → Act Entry Session Unit
  | some key, some m => Act.modify fun s => { s with saved := (key, m) :: s.saved }
  | _, _ => pure ()

/-- The message of an event. -/
def messageOf? : Response → Option Message
  | .event (some (.message m)) => some m
  | _ => none

/-- What a consumer does. -/
def consumerDoes? (s : Session) (name : String) (c : Consumer Link) (d : Doing) :
    Option (Act Entry Session Answer) :=
  match setCallback? d c.coordinator with
  | some k => some (change name (.consumer { c with coordinator := k }))
  | none =>
    match d with
    | .callbacks => some (pure (flags c.coordinator))
    | .describe => some (pure (.text (c.describe Cluster)))
    | .setTimeout timeout => some (change name (.consumer { c with timeout }))
    | .timeout => some (pure (.number c.timeout))
    | .memberId => some (pure (.text (Transport.memberId Cluster c.transport)))
    | .ask a => some (onThing name .consumer c (askConsumer a))
    | .commitMessage source asynchronous =>
      let message? := match source with
        | .given m => some m
        | .saved key => s.saved.lookup key
      message?.map fun m => onThing name .consumer c do
        Consumer.commitMessage m asynchronous
        return .done
    | .poll timeout key? _ => some do
      let m ← onThing name .consumer c (Consumer.pollFor (timeout.getD c.timeout))
      save key? m
      return .message m
    | .amend a =>
      match c.transport with
      | .script k => some (change name (.consumer { c with transport := .script (a.apply k) }))
      | _ => none
    | _ => none

/-- What a bare transport does. -/
def transportDoes? (name : String) (l : Link) (d : Doing) : Option (Act Entry Session Answer) :=
  match d, l with
  | .describe, l => (describeLink? l).map fun text => pure (.text text)
  | .memberId, l => some (pure (.text (Transport.memberId Cluster l)))
  | .ask a, l => some do return .response (← onThing name .transport l (askTransport a))
  | .poll (some timeout) key? _, l => some do
    let r ← onThing name .transport l (askTransport (.poll timeout))
    save key? (messageOf? r)
    return .response r
  | .setRequestTimeout timeout, .client c =>
    some (change name (.transport (.client { c with requestTimeout := timeout })))
  | .amend a, .script k => some (change name (.transport (.script (a.apply k))))
  | _, _ => none

/-- What a coordinator does. -/
def coordinatorDoes? (s : Session) (name : String) (k : Coordinator) (d : Doing) :
    Option (LinkKind × Act Entry Session Answer) :=
  match setCallback? d k with
  | some k => some (.seat, change name (.coordinator k))
  | none =>
    match d with
    | .callbacks => some (.seat, pure (flags k))
    | .describe => some (.seat, pure (.text k.describe))
    | .take transport code partitions =>
      match s.thing? transport with
      | some (.transport l) => some (l.kind, do
        Coordinator.take (.ofCode code partitions)
          |>.within (fun s => (k, l, s.cluster)) fun (k, l, c) s =>
            ({ s with cluster := c }.put name (.coordinator k)).put transport (.transport l)
        return .done)
      | _ => none
    | _ => none

/-- What becomes of an object that is let go of. -/
def release (name : String) (unwinding : Bool) : Thing → Act Entry Session Unit
  | .consumer c => onThing name .consumer c (Consumer.release unwinding)
  | .transport l => onThing name .transport l (Transport.release.telling .diary)
  | .coordinator _ => pure ()

/-- The kind of link behind an object. -/
def Thing.kind : Thing → LinkKind
  | .consumer c => c.transport.kind
  | .transport l => l.kind
  | .coordinator _ => .seat

/-- Lets go of an object, and forgets it whatever came of that. -/
def drop (s : Session) (name : String) (t : Thing) (unwinding : Bool) : Session × Reply :=
  let (s, r) := reply (Thing.kind t) (((release name unwinding t).attempt >>= fun
    | .error fault => Act.throw fault
    | .ok () => if unwinding then Act.throw (.crash .unwinding) else pure Answer.done) s)
  (s.forget name, r)

/-- A step with appointments that others keep meanwhile. -/
def meanwhile (s : Session) (appointments : List Appointment)
    (m : Session → Session × Reply) : Session × Reply :=
  let now := s.cluster.now
  let agenda := appointments.map fun a => { a with time := now + a.time }
  let (s, r) := m { s with cluster := { s.cluster with agenda, kept := [] } }
  let elapsed := match r.result with
    | .error (.crash _) => none
    | _ => some (s.cluster.now - now)
  ({ s with cluster := { s.cluster with agenda := [], kept := [] } },
    { r with elapsed, meanwhile := some s.cluster.kept })

/-- A named object does something. -/
def objectStep? (s : Session) (name : String) (d : Doing) : Option (Session × Reply) :=
  (s.thing? name).bind fun t =>
    match d with
    | .drop => some (s.drop name t false)
    | .dropUnwinding => some (s.drop name t true)
    | d =>
      let done : Option (LinkKind × Act Entry Session Answer) := match t with
        | .consumer c => (s.consumerDoes? name c d).map (c.transport.kind, ·)
        | .transport l => (transportDoes? name l d).map (l.kind, ·)
        | .coordinator k => s.coordinatorDoes? name k d
      done.map fun (kind, m) =>
        match d with
        | .poll _ _ appointments => s.meanwhile appointments fun s => reply kind (m s)
        | _ => reply kind (m s)

/-! ## Steps of the session -/

/-- A new consumer, with its member's id. -/
def newConsumer (c : Configuration) (connect : Configuration → Act DiaryEntry Cluster Link) :
    Act Entry Session (Thing × String) := do
  let made : Consumer Link ← (Consumer.create c connect).within (·.cluster)
    fun c s => { s with cluster := c }
  return (.consumer made, Transport.memberId Cluster made.transport)

/-- A new bare transport, with its member's id. -/
def newTransport (connect : Act DiaryEntry Cluster Link) : Act Entry Session (Thing × String) := do
  let l ← onCluster connect
  return (.transport l, Transport.memberId Cluster l)

/-- Makes an object. A coordinator has no member's id. -/
def makeThing : Making → LinkKind × Act Entry Session (Thing × Answer)
  | .seat c => (.seat, named (newTransport (Link.seat <$> Seat.connect c)))
  | .client c => (.client, named (newTransport (Link.client <$> Client.connect c)))
  | .script s => (.script, named (newTransport (pure (.script s))))
  | .coordinator => (.seat, pure (.coordinator {}, .done))
  | .consumer c => (.seat, named (newConsumer c fun c => Link.seat <$> Seat.connect c))
  | .clientConsumer c => (.client, named (newConsumer c fun c => Link.client <$> Client.connect c))
  | .scriptConsumer c s refusal =>
    (.script, named (newConsumer c fun _ => match refusal with
      | some code => Act.refuse code
      | none => pure (.script s)))
where
  /-- The id is what is answered. -/
  named (m : Act Entry Session (Thing × String)) : Act Entry Session (Thing × Answer) := do
    let (t, id) ← m
    return (t, .text id)

/-- Makes an object and names it. Whatever had the name is let go of. -/
def make (s : Session) (name : String) (m : Making) : Session × Reply :=
  let (kind, act) := makeThing m
  let o := act s
  let (s, r) := reply kind ⟨o.result.map (·.2), o.state, o.journal⟩
  match o.result with
  | .error _ => (s, r)
  | .ok (t, _) =>
    match s.thing? name with
    | none => (s.put name t, r)
    | some old =>
      let (s, last) := s.drop name old false
      (s.put name t, { r with log := r.log ++ last.log, diary := r.diary ++ last.diary })

/-- What a member reads, with its places, and is subscribed to. -/
def view (b : Broker) (id : String) : Except Failure (PartitionList × List String) := do
  let held ← b.assignmentOf id
  let positions ← b.positionsOf id held
  let topics ← b.subscriptionOf id
  pure (positions, topics)

/-- What the objects that are members at the broker read and are
subscribed to. -/
def dump (s : Session) : Answer :=
  .dump <| s.things.filterMap fun (name, t) =>
    match t with
    | .consumer { transport := .seat m, .. } | .transport (.seat m) =>
      some (name, view s.cluster.broker m.member)
    | _ => none

/-- A step of a session, if the objects it names are there and can do
what they are to. -/
def step? (s : Session) : Step → Option (Session × Reply)
  | .broker r => some <| reply .seat <|
    (Answer.response <$> onCluster (Cluster.onBroker (·.perform r))) s
  | .make name m => some (s.make name m)
  | .object name d => s.objectStep? name d
  | .dump => some (s, { result := .ok s.dump })

end Session

end ConsumerGroup
