import ConsumerGroup.Proofs.Cluster.Abreast
import ConsumerGroup.Proofs.Consumer.Telling
import ConsumerGroup.Proofs.Consumer.Upheld

/-!
# A whole poll while others are busy

Two clusters abreast (`Cluster.Abreast`) bring a member of the group the
same at the same time, so a consumer at its seat cannot tell them apart: it
is brought the same, hands the same notifications to the same callbacks, and
goes on in clusters that are abreast (`Consumer.abreast_pollUntil`).

What is told is compared up to the diary of what others have done, since
more is done in the one cluster than in the other.

It is one induction on what is left to come (`backlog_induction`), with one
case for each kind of event. The callbacks of the consumer may be any, since
they cannot tell the clusters apart either.
-/

namespace ConsumerGroup

namespace Consumer

variable {α β : Type} {g : String} {roll : Roll} {agenda : List Appointment} {deadline : Nat}
  {x y : Consumer Seat × Cluster}

/-- The same consumer of a member of the group, at the same time, in
clusters abreast. -/
structure InStep (g : String) (roll : Roll) (agenda : List Appointment)
    (x y : Consumer Seat × Cluster) : Prop where
  seat : (x.1.transport.member, g) ∈ roll
  consumer : x.1 = y.1
  now : y.2.now = x.2.now
  clusters : ∃ done, Cluster.Abreast g roll agenda done x.2 y.2

/-- Two outcomes that the consumer does not tell apart: the same result and
the same callbacks with the same lists, and it is in step afterwards. -/
structure Abreast (g : String) (roll : Roll) (agenda : List Appointment)
    (o o' : Outcome Entry (Consumer Seat × Cluster) α) : Prop where
  result : o.result = o'.result
  calls : called o.journal = called o'.journal
  state : InStep g roll agenda o.state o'.state

/-- One act after another that nobody can tell apart. -/
theorem Abreast.bind {m : Act Entry (Consumer Seat × Cluster) α}
    {k : α → Act Entry (Consumer Seat × Cluster) β} (h : Abreast g roll agenda (m x) (m y))
    (hk : ∀ a, (m x).result = .ok a → Abreast g roll agenda (k a (m x).state) (k a (m y).state)) :
    Abreast g roll agenda ((m >>= k) x) ((m >>= k) y) := by
  rcases hx : m x with ⟨result, x', journal⟩
  rcases hy : m y with ⟨result', y', journal'⟩
  rw [hx, hy] at h
  obtain rfl : result = result' := h.result
  cases result with
  | ok a =>
    rw [hx, hy] at hk
    have hrest := hk a rfl
    rw [Act.bind_ok hx, Act.bind_ok hy]
    refine ⟨hrest.result, ?_, hrest.state⟩
    rw [Outcome.journal_after, Outcome.journal_after, called_append, called_append, hrest.calls]
    exact congrArg (· ++ _) h.calls
  | error e =>
    rw [Act.bind_error hx, Act.bind_error hy]
    exact ⟨rfl, h.calls, h.state⟩

/-- Whoever waits for an event is brought the same. -/
theorem abreast_awaitEvent (deadline : Nat) (h : InStep g roll agenda x y) :
    Abreast g roll agenda (awaitEvent deadline x) (awaitEvent deadline y) := by
  obtain ⟨c, w⟩ := x
  obtain ⟨_, p⟩ := y
  obtain ⟨hseat, rfl, hnow, done, hclusters⟩ := h
  dsimp only at hseat hnow hclusters
  obtain ⟨hresult, hnow', hclusters'⟩ :=
    hclusters.await hseat hnow (w.now + (deadline - w.now))
  rw [awaitEvent_eq, awaitEvent_eq, hnow]
  refine ⟨hresult.symm, ?_, hseat, rfl, hnow', hclusters'⟩
  rw [called_cons, called_cons, called_diary, called_diary]

/-- Nor does the coordinator tell them apart. -/
theorem abreast_onCoordinator (n : Notification) (h : InStep g roll agenda x y) :
    Abreast g roll agenda (onCoordinator (Coordinator.take n) x)
      (onCoordinator (Coordinator.take n) y) := by
  obtain ⟨hseat, hconsumer, hnow, done, hclusters⟩ := h
  have halike : Cluster.Alike x.1.transport.member
      fun w p => Cluster.Abreast g roll agenda done w p ∧ p.now = w.now :=
    Cluster.alike_of_twin (roll.subset_afterAll done hseat) (fun _ _ h => h.1.twin)
      fun _ _ _ _ h hb => ⟨h.1.put hb, h.2⟩
  obtain ⟨hresult, hjournal, hconsumer', hmember, hclusters', hnow'⟩ :=
    respects_onCoordinator (halike.take n) x y ⟨hconsumer, rfl, hclusters, hnow⟩
  exact ⟨hresult, congrArg called hjournal, hmember ▸ hseat, hconsumer', hnow', done, hclusters'⟩

/-- A whole poll comes to the same, and calls the same callbacks with the
same lists, whatever of the agenda does not concern the group. -/
theorem abreast_pollUntil (deadline : Nat) (x : Consumer Seat × Cluster) :
    ∀ y, InStep g roll agenda x y →
      Abreast g roll agenda (pollUntil deadline x) (pollUntil deadline y) := by
  induction x using backlog_induction with
  | poll x ih =>
    intro y h
    rw [pollUntil_eq, pollUntil_eq]
    have hcome := abreast_awaitEvent deadline h
    refine hcome.bind fun event hevent => ?_
    match event with
    | none | some (.message _) => exact ⟨rfl, rfl, hcome.state⟩
    | some (.rebalance code l) =>
      have htaken := abreast_onCoordinator (.ofCode code l) hcome.state
      exact htaken.bind fun _ _ => ih _ (less_of_taken hevent) _ htaken.state

end Consumer

end ConsumerGroup
