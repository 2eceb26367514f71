import ConsumerGroup.Proofs.Consumer.Abreast
import ConsumerGroup.Proofs.Tenure.Run

/-!
# Many consumers at one broker

A hall is a broker with all the consumers that have been made at it, and
the roll of everybody who has ever joined. A run is a row of moves: somebody
asks the broker for something, a consumer is made, is given callbacks, or
does something, or a member polls and waits while others keep their
appointments. Time is counted from when a poll begins.

To a group each move either is its concern, or not. `Hall.reports` is what a
move comes to for a group: what those who are concerned are told, and which
callbacks run with which lists. `Hall.purged` is what is left of a move when
everything is taken out that does not concern the group.

What is left of a run is itself a run, and can be made in a hall of its own;
so to compare two runs by what is left of them is to compare them with one
that the others never were in.
-/

namespace ConsumerGroup

/-- A broker with the consumers at it, and everybody who has ever joined. -/
structure Hall where
  broker : Broker := {}
  /-- The consumers; of one that has done something, the latest comes first. -/
  consumers : List (Consumer Seat) := []
  roll : Roll := []

/-- A move in a hall. -/
inductive Hall.Move where
  /-- Somebody asks the broker for something. -/
  | asked (r : Request)
  /-- A consumer is made. -/
  | made (configuration : Configuration)
  /-- The owner of a member's consumer gives it other callbacks. -/
  | equipped (id : String) (onAssign : Option AssignCallback) (onRevoke : Option RevokeCallback)
      (onTrouble : Option TroubleCallback)
  /-- A member's consumer does something. -/
  | did (id : String) (d : Deed)
  /-- A member polls, and waits while others keep their appointments: its
  consumer does or, if it has none, the member by itself. -/
  | polled (id : String) (timeout : Nat) (agenda : List Appointment)

/-- What a group is told of a move. -/
structure Report where
  result : Except Fault Response
  /-- The callbacks that have run, with their lists. -/
  calls : List Notification := []
  /-- How long it took. -/
  elapsed : Nat := 0

/-- What a move comes to. -/
structure Upshot where
  hall : Hall
  report? : Option Report := none
  /-- The appointments that were kept meanwhile. -/
  done : List Appointment := []
  /-- What came of them. -/
  kept : List (Except Failure Response) := []

/-! ## Moves -/

namespace Hall.Move

/-- The move is for everybody, or it is addressed to the group or to
somebody who has joined it. -/
def concerns (roll : Roll) (g : String) : Move → Bool
  | .asked r => r.concerns roll g
  | .made _ => true
  | .equipped id _ _ _ | .did id _ | .polled id _ _ => roll.contains (id, g)

/-- The move, with those appointments only that were kept and concern the
group. -/
def heeding (roll : Roll) (g : String) (done : List Appointment) : Move → Move
  | .polled id timeout _ => .polled id timeout (concerning g roll 0 done)
  | m => m

end Hall.Move

/-- What somebody else was told of an appointment. -/
def Report.ofAnswer (x : Except Failure Response) : Report := { result := x.mapError .failure }

namespace Hall

/-- The consumer of a member. -/
def consumer? (s : Hall) (id : String) : Option (Consumer Seat) :=
  s.consumers.find? (·.transport.member == id)

/-- A consumer as it is now. -/
def put (s : Hall) (c : Consumer Seat) : Hall := { s with consumers := c :: s.consumers }

/-- What it comes to that somebody has waited, in a cluster with an agenda. -/
def waited (s : Hall) (agenda : List Appointment) (w : Cluster) (report : Report) : Upshot where
  hall := { s with broker := w.broker, roll := s.roll.afterAll (agenda.take w.kept.length) }
  report? := some { report with elapsed := w.now }
  done := agenda.take w.kept.length
  kept := w.kept

/-- What it comes to that a member without a consumer has waited. -/
def awaited (s : Hall) (agenda : List Appointment)
    (o : Outcome DiaryEntry Cluster (Option Event)) : Upshot :=
  s.waited agenda o.state { result := o.result.map .event }

/-- What it comes to that a consumer has polled. -/
def polled (s : Hall) (agenda : List Appointment)
    (o : Outcome Entry (Consumer Seat × Cluster) Message) : Upshot :=
  (s.put o.state.1).waited agenda o.state.2
    { result := o.result.map fun x => .event (some (.message x)), calls := called o.journal }

/-- What a move comes to. -/
def move (s : Hall) : Move → Upshot
  | .asked r =>
    let e := s.broker.perform r
    { hall := { s with broker := e.broker, roll := s.roll.after r }
      report? := some (.ofAnswer e.result) }
  | .made configuration =>
    let o := Consumer.create configuration Seat.connect { broker := s.broker }
    { hall :=
        { broker := o.state.broker
          consumers := o.result.toOption.toList ++ s.consumers
          roll := if configuration.group?.isSome then s.roll.after (.connect configuration) else s.roll }
      report? := some { result := o.result.map fun c => .text c.transport.member } }
  | .equipped id onAssign onRevoke onTrouble =>
    match s.consumer? id with
    | none => { hall := s }
    | some c =>
      { hall := s.put { c with coordinator := c.coordinator.equipped onAssign onRevoke onTrouble } }
  | .did id d =>
    match s.consumer? id with
    | none => { hall := s }
    | some c =>
      let o := d.act (c, { broker := s.broker })
      { hall := { s with broker := o.state.2.broker }.put o.state.1
        report? := some
          { result := o.result.map fun x => .event (x.map .message), calls := called o.journal } }
  | .polled id timeout agenda =>
    let w : Cluster := { broker := s.broker, agenda }
    match s.consumer? id with
    | none => s.awaited agenda (w.await id timeout)
    | some c => s.polled agenda (Consumer.pollFor timeout (c, w))

def after (s : Hall) (m : Move) : Hall := (s.move m).hall

def afterAll (s : Hall) (ms : List Move) : Hall := ms.foldl after s

/-! ## What a group is told -/

/-- What a group is told of a move: of the appointments that concern it, and
of the move itself if it does. -/
def reports (g : String) (s : Hall) (m : Move) : List Report :=
  (heeded g s.roll (s.move m).done (s.move m).kept).map .ofAnswer ++
    if m.concerns s.roll g then (s.move m).report?.toList else []

/-- What a group is told of a row of moves. -/
def reportsAll (g : String) : Hall → List Move → List Report
  | _, [] => []
  | s, m :: ms => s.reports g m ++ reportsAll g (s.after m) ms

/-! ## What concerns a group -/

/-- What is left of a move for a group. Of a move of others, that is what was
asked for meanwhile and concerns the group. -/
def purged (g : String) (s : Hall) (m : Move) : List Move :=
  if m.concerns s.roll g then [m.heeding s.roll g (s.move m).done]
  else (heeded g s.roll (s.move m).done ((s.move m).done.map (·.request))).map .asked

/-- What is left of a row of moves for a group. -/
def purge (g : String) : Hall → List Move → List Move
  | _, [] => []
  | s, m :: ms => s.purged g m ++ purge g (s.after m) ms

variable {g : String}

theorem afterAll_append (s : Hall) (ms ms' : List Move) :
    s.afterAll (ms ++ ms') = (s.afterAll ms).afterAll ms' := List.foldl_append

/-- What a group is told of two rows of moves is told of the first, and then
of the second. -/
theorem reportsAll_append (s : Hall) (ms ms' : List Move) :
    reportsAll g s (ms ++ ms') = reportsAll g s ms ++ reportsAll g (s.afterAll ms) ms' := by
  induction ms generalizing s with
  | nil => rfl
  | cons m ms ih =>
    show s.reports g m ++ reportsAll g (s.after m) (ms ++ ms') = _
    rw [ih, ← List.append_assoc]
    rfl

end Hall

end ConsumerGroup
