import ConsumerGroup.Proofs.Tenure.Delivery

/-!
# A poll as a row of steps

A run has no step that waits. A poll that waits, of a bare transport or of
a consumer, goes on the run it begins in by a row of steps
(`Happening.PollOf`), and what it comes to the step at the end of that row
comes to: the last look is the one that finds the message
(`Chronicle.awaited`, `Chronicle.polled`) or that fails. So what is known
of every step of every run is known of polls that wait.

The row is that of `Tenure.pollsTo_pollUntil`; here it is said of runs, for
those who have no use for the life of the consumer, and with the last look
set apart.
-/

namespace ConsumerGroup

open Happening (PollOf)

namespace Tenure

variable {patterns : PatternReader} {t u : Tenure} {agenda later : List Appointment}
  {hs : List Happening}

/-- What a consumer polls goes on the run that it polls in. -/
theorem Polls.row (hp : Polls t agenda u later) (ht : t.chronicle = Chronicle.run hs patterns) :
    ∃ kept es, agenda = kept ++ later ∧ PollOf t.consumer.transport kept es ∧
      u.chronicle = Chronicle.run (hs ++ es) patterns := by
  induction hp with
  | refl =>
    refine ⟨[], [], rfl, .nil _, ?_⟩
    rw [List.append_nil, ht]
  | @looked u later hp ih =>
    obtain ⟨kept, es, hagenda, hes, hu⟩ := ih
    refine ⟨kept, es ++ [.did u.consumer .look], hagenda, hes.look hp.transport, ?_⟩
    rw [← List.append_assoc, Chronicle.run_append_singleton, ← hu]
    rfl
  | @kept u a later hp ih =>
    obtain ⟨kept, es, hagenda, hes, hu⟩ := ih
    refine ⟨kept ++ [a], es ++ [.asked a.request], ?_, hes.keep a, ?_⟩
    · rw [hagenda, List.append_assoc]
      rfl
    · rw [← List.append_assoc, Chronicle.run_append_singleton, ← hu]
      rfl

/-- No poll changes which callbacks are set. -/
theorem Polls.onAssign (hp : Polls t agenda u later) :
    u.consumer.coordinator.onAssign = t.consumer.coordinator.onAssign := by
  induction hp with
  | refl => rfl
  | @looked u _ _ ih =>
    have hkept : Act.Keeps (·.1.coordinator.onAssign) Consumer.look :=
      Consumer.keeps_coordinator_look fun _ _ => rfl
    exact (hkept u.world).trans ih
  | kept _ ih => exact ih

end Tenure

namespace Chronicle

variable {patterns : PatternReader} {hs : List Happening} {w : Cluster}

/-- A run has gone on as a poll at a seat has it go on, while what is on the
agenda was asked for in its order. -/
def PollsOn (seat : Seat) (agenda : List Appointment) (hs hs' : List Happening) : Prop :=
  ∃ kept later es, agenda = kept ++ later ∧ PollOf seat kept es ∧ hs' = hs ++ es

/-- Whoever waits at a transport for an event and is not left with nothing
has it from the step that ends the wait. -/
theorem awaited (seat : Seat) (timeout : Nat) (hb : w.broker = (run hs patterns).broker)
    (hsome : (Seat.poll timeout (seat, w)).result ≠ .ok none) :
    ∃ hs', PollsOn seat w.agenda hs hs' ∧
      (Seat.poll timeout (seat, w)).result =
        ((run hs' patterns).broker.nextEvent seat.member).result.mapError .failure ∧
      (Seat.poll timeout (seat, w)).state.2.broker =
        (run (hs' ++ [.asked (.member seat.member .next)]) patterns).broker := by
  let c : Consumer Seat := { transport := seat }
  obtain ⟨u, w', hu, hend⟩ := Tenure.pollsTo_await c (w.now + timeout) w
    { consumer := c, chronicle := run hs patterns } ⟨rfl, hb.symm⟩
  obtain ⟨kept, es, hagenda, hes, hrun⟩ := hu.polls.row rfl
  have hw' : w'.broker = (run (hs ++ es) patterns).broker := by
    rw [← hrun]
    exact hu.stands.2.symm
  rcases hend with ⟨hresult, hstate⟩ | ⟨hnone, _⟩
  · refine ⟨hs ++ es, ⟨kept, _, es, hagenda, hes, rfl⟩, ?_, ?_⟩
    · rw [← hw']
      exact hresult
    · rw [run_append_singleton]
      show (w.await seat.member (w.now + timeout)).state.broker =
        ((run (hs ++ es) patterns).broker.nextEvent seat.member).broker
      rw [← hw']
      exact congrArg Cluster.broker hstate
  · exact absurd hnone hsome

/-- Whoever polls with a consumer, and does not let the time go by, has what
it comes to from the look that ends the poll. -/
theorem polled (timeout : Nat) (c : Consumer Seat) (hb : w.broker = (run hs patterns).broker)
    (hsome : (Consumer.pollFor timeout (c, w)).result ≠ .ok .empty) :
    ∃ hs' last, PollsOn c.transport w.agenda hs hs' ∧
      last.transport = c.transport ∧ last.coordinator.onAssign = c.coordinator.onAssign ∧
      (Happening.outcome (run hs' patterns).broker last .look).result =
        (Consumer.pollFor timeout (c, w)).result.map some ∧
      (Happening.outcome (run hs' patterns).broker last .look).state.1 =
        (Consumer.pollFor timeout (c, w)).state.1 ∧
      (Consumer.pollFor timeout (c, w)).state.2.broker =
        (run (hs' ++ [.did last .look]) patterns).broker := by
  obtain ⟨u, hu, hend⟩ := Tenure.pollsTo_pollUntil (w.now + timeout) (c, w)
    { consumer := c, chronicle := run hs patterns } ⟨rfl, hb.symm⟩
  rcases hend with hempty | ⟨v, later, hv, rfl, hresult⟩
  · exact absurd hempty hsome
  · obtain ⟨kept, es, hagenda, hes, hrun⟩ := hv.row rfl
    have hbroker : v.broker = (run (hs ++ es) patterns).broker := congrArg Chronicle.broker hrun
    have houtcome : v.outcome .look =
        Happening.outcome (run (hs ++ es) patterns).broker v.consumer .look := by
      rw [← hbroker]
      rfl
    rw [houtcome] at hresult
    refine ⟨hs ++ es, v.consumer, ⟨kept, later, es, hagenda, hes, rfl⟩, hv.transport, hv.onAssign,
      hresult, ?_, ?_⟩
    · rw [← houtcome]
      exact hu.stands.1
    · rw [run_append_singleton, ← hrun]
      exact hu.stands.2.symm

end Chronicle

end ConsumerGroup
