import ConsumerGroup.Act
import ConsumerGroup.Broker.Operation

/-!
# A cluster in time

A broker together with a clock, and an agenda of what others will ask of
the broker while somebody waits. The clock counts milliseconds. It stands
still while work is done and moves only while somebody waits: then the
appointments on the agenda are kept in their order, each at its time.

Waiting for an event (`Cluster.await`) means to look, to sleep until an
appointment wakes those who wait, to look again, and to give up at the
deadline without another look. It ends because every time it looks again
the agenda is shorter.
-/

namespace ConsumerGroup

/-- What will be asked of the broker at some time. -/
structure Appointment where
  time : Nat
  request : Request
  deriving DecidableEq

/-- A broker in time. -/
structure Cluster where
  broker : Broker := {}
  /-- The time in milliseconds. -/
  now : Nat := 0
  /-- What will be asked, in the order it will be. -/
  agenda : List Appointment := []
  /-- What came of the appointments kept, in their order. -/
  kept : List (Except Failure Response) := []

namespace Cluster

/-- An operation of the broker, at this time. -/
def onBroker {α : Type} (f : Broker → Broker.Effect α) : Act DiaryEntry Cluster α := fun c =>
  let e := f c.broker
  ⟨e.result.mapError .failure, { c with broker := e.broker }, e.diary⟩

/-- A question to the broker, at this time. -/
def askBroker {α : Type} (f : Broker → Except Failure α) : Act DiaryEntry Cluster α := fun c =>
  ⟨(f c.broker).mapError .failure, c, []⟩

/-- What a sleep comes to: whether it was ended by being woken, the
cluster then, and what was told meanwhile. -/
structure Sleep where
  woken : Bool
  cluster : Cluster
  diary : List DiaryEntry

/-- Keeps an appointment at its time, or now if that has passed. -/
def keep (c : Cluster) (a : Appointment) (rest : List Appointment) : Sleep :=
  let e := c.broker.perform a.request
  { woken := e.wakes
    cluster :=
      { broker := e.broker
        now := max c.now a.time
        agenda := rest
        kept := c.kept ++ [e.result] }
    diary := e.diary }

/-- Sleeps until woken by an appointment before the deadline, and to the
deadline otherwise. -/
def sleepFrom (deadline : Nat) (c : Cluster) : List Appointment → Sleep
  | [] => ⟨false, { c with now := max c.now deadline, agenda := [] }, []⟩
  | a :: rest =>
    if a.time < deadline then
      let k := c.keep a rest
      if k.woken then k
      else
        let s := sleepFrom deadline k.cluster rest
        { s with diary := k.diary ++ s.diary }
    else ⟨false, { c with now := max c.now deadline, agenda := a :: rest }, []⟩

/-- Sleeps on the cluster's own agenda. -/
def sleep (deadline : Nat) (c : Cluster) : Sleep := c.sleepFrom deadline c.agenda

/-- Lets a span of time pass without looking up, whoever is woken. -/
def passFrom (moment : Nat) (c : Cluster) : List Appointment → Cluster × List DiaryEntry
  | [] => ({ c with now := max c.now moment, agenda := [] }, [])
  | a :: rest =>
    if a.time ≤ moment then
      let k := c.keep a rest
      let (c, later) := passFrom moment k.cluster rest
      (c, k.diary ++ later)
    else ({ c with now := max c.now moment, agenda := a :: rest }, [])

/-- Lets a span of time pass. -/
def pass (span : Nat) : Act DiaryEntry Cluster Unit := fun c =>
  let (c, diary) := c.passFrom (c.now + span) c.agenda
  ⟨.ok (), c, diary⟩

/-! ## Waiting -/

/-- An appointment that wakes ends the sleep. -/
theorem sleepFrom_of_woken {deadline : Nat} {c : Cluster} {a : Appointment}
    {rest : List Appointment} (ht : a.time < deadline) (hw : (c.keep a rest).woken = true) :
    sleepFrom deadline c (a :: rest) = c.keep a rest := by
  rw [sleepFrom, if_pos ht]
  exact if_pos hw

/-- An appointment that wakes nobody is slept through. -/
theorem sleepFrom_of_not_woken {deadline : Nat} {c : Cluster} {a : Appointment}
    {rest : List Appointment} (ht : a.time < deadline) (hw : (c.keep a rest).woken = false) :
    sleepFrom deadline c (a :: rest) =
      { sleepFrom deadline (c.keep a rest).cluster rest with
        diary := (c.keep a rest).diary ++ (sleepFrom deadline (c.keep a rest).cluster rest).diary
        } := by
  rw [sleepFrom, if_pos ht]
  exact if_neg (by simp [hw])

/-- A sleep that was ended by being woken has kept an appointment. -/
theorem length_agenda_sleepFrom (deadline : Nat) (c : Cluster) (agenda : List Appointment) :
    (sleepFrom deadline c agenda).cluster.agenda.length ≤ agenda.length ∧
      ((sleepFrom deadline c agenda).woken = true →
        (sleepFrom deadline c agenda).cluster.agenda.length < agenda.length) := by
  induction agenda generalizing c with
  | nil => simp [sleepFrom]
  | cons a rest ih =>
    by_cases ht : a.time < deadline
    · cases hw : (c.keep a rest).woken with
      | true =>
        rw [sleepFrom_of_woken ht hw]
        exact ⟨Nat.le_succ _, fun _ => Nat.lt_succ_self _⟩
      | false =>
        rw [sleepFrom_of_not_woken ht hw]
        have := ih (c.keep a rest).cluster
        exact ⟨Nat.le_succ_of_le this.1, fun h => Nat.lt_succ_of_lt (this.2 h)⟩
    · rw [sleepFrom, if_neg ht]
      simp

/-- Waits for the next event of a member, and for nothing once the
deadline has come. -/
def await (id : String) (deadline : Nat) (c : Cluster) : Outcome DiaryEntry Cluster (Option Event) :=
  let e := c.broker.nextEvent id
  let c' := { c with broker := e.broker }
  match e.result with
  | .error f => ⟨.error (.failure f), c', []⟩
  | .ok (some event) => ⟨.ok (some event), c', []⟩
  | .ok none =>
    if deadline ≤ c.now then ⟨.ok none, c', []⟩
    else
      let s := c'.sleep deadline
      if _woken : s.woken = true then (await id deadline s.cluster).after s.diary
      else ⟨.ok none, s.cluster, s.diary⟩
termination_by c.agenda.length
decreasing_by exact (length_agenda_sleepFrom deadline _ c.agenda).2 _woken

end Cluster

end ConsumerGroup
