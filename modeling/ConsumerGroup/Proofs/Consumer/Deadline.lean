import ConsumerGroup.Proofs.Broker.Reading
import ConsumerGroup.Proofs.Consumer.Telling
import ConsumerGroup.Proofs.Consumer.Upheld

/-!
# Polls keep their deadline

A poll that brings nothing ends when its time is over, not before and not
later. A poll that brings anything else, or fails, ends by then
(`Consumer.pollFor_inTime`). Whoever is woken in between and finds nothing
sleeps on to the same deadline, and so does whoever has taken a notification
(`Cluster.inTime_await`, `Consumer.inTime_pollUntil`): a consumer asks its
transport to wait for as long as is left, and the deadline of the transport
is then the deadline of the poll. Work takes no time.

Both loops are followed by their own induction, and `InTime` is what each
step hands on: the clock goes forward, never past the deadline, and has come
to it if there is nothing. How long callbacks take is not modelled: time
passes only where somebody waits.
-/

namespace ConsumerGroup

/-- What begins at one time ends at another, which is not past a deadline;
and if it comes to nothing, at the deadline. -/
structure InTime (deadline before after : Nat) (nothing : Prop) : Prop where
  forward : before ≤ after
  byDeadline : after ≤ deadline
  atDeadline : nothing → after = deadline

namespace InTime

variable {deadline before between after : Nat} {nothing : Prop}

/-- What goes on from a later time. -/
theorem of_le (hle : before ≤ between) (h : InTime deadline between after nothing) :
    InTime deadline before after nothing :=
  ⟨Nat.le_trans hle h.forward, h.byDeadline, h.atDeadline⟩

/-- What ends at once, with something. -/
theorem atOnce (hle : before ≤ deadline) (hsome : ¬ nothing) :
    InTime deadline before before nothing :=
  ⟨Nat.le_refl before, hle, fun h => absurd h hsome⟩

end InTime

namespace Cluster

variable {deadline : Nat} {c : Cluster}

/-- Whoever sleeps and is not woken sleeps until the deadline, whatever is
done meanwhile. -/
theorem inTime_sleepFrom (agenda : List Appointment) (h : c.now ≤ deadline) :
    InTime deadline c.now (c.sleepFrom deadline agenda).cluster.now
      ((c.sleepFrom deadline agenda).woken = false) := by
  have hover : max c.now deadline = deadline := Nat.max_eq_right h
  induction agenda generalizing c with
  | nil =>
    show InTime deadline c.now (max c.now deadline) _
    rw [hover]
    exact ⟨h, Nat.le_refl deadline, fun _ => rfl⟩
  | cons a rest ih =>
    by_cases ht : a.time < deadline
    · have hlater : c.now ≤ (c.keep a rest).cluster.now := Nat.le_max_left _ _
      have hkept : (c.keep a rest).cluster.now ≤ deadline := Nat.max_le.mpr ⟨h, Nat.le_of_lt ht⟩
      cases hw : (c.keep a rest).woken with
      | true =>
        rw [sleepFrom_of_woken ht hw]
        exact ⟨hlater, hkept, fun hasleep => by rw [hw] at hasleep; cases hasleep⟩
      | false =>
        rw [sleepFrom_of_not_woken ht hw]
        exact .of_le hlater (ih hkept (Nat.max_eq_right hkept))
    · rw [sleepFrom, if_neg ht]
      show InTime deadline c.now (max c.now deadline) _
      rw [hover]
      exact ⟨h, Nat.le_refl deadline, fun _ => rfl⟩

/-- However often a member is woken while it waits, it is brought nothing
only when the deadline has come. -/
theorem inTime_await (id : String) (h : c.now ≤ deadline) :
    InTime deadline c.now (c.await id deadline).state.now
      ((c.await id deadline).result = .ok none) := by
  fun_induction await id deadline c with
  | case1 c e c' f he => exact .atOnce h (by rintro ⟨⟩)
  | case2 c e c' event he => exact .atOnce h (by rintro ⟨⟩)
  | case3 c e c' he ht => exact ⟨Nat.le_refl _, h, fun _ => Nat.le_antisymm h ht⟩
  | case4 c e c' he ht s hw ih =>
    have hslept : InTime deadline c.now s.cluster.now (s.woken = false) :=
      inTime_sleepFrom (c := c') c.agenda h
    exact .of_le hslept.forward (ih hslept.byDeadline)
  | case5 c e c' he ht s hw =>
    have hslept : InTime deadline c.now s.cluster.now (s.woken = false) :=
      inTime_sleepFrom (c := c') c.agenda h
    exact ⟨hslept.forward, hslept.byDeadline, fun _ =>
      hslept.atDeadline (Bool.eq_false_iff.mpr hw)⟩

/-- A message that a wait brings is one of a partition, so it is not
empty. -/
theorem await_ne_empty (id : String) (deadline : Nat) (c : Cluster) :
    (c.await id deadline).result ≠ .ok (some (.message .empty)) := by
  fun_induction await id deadline c with
  | case1 | case3 | case5 => rintro ⟨⟩
  | case2 c e c' event he =>
    intro hempty
    cases hempty
    obtain ⟨m, -, hfetched, -⟩ := Broker.found_of_nextEvent he
    obtain ⟨p, -, hp⟩ := Member.mem_held_of_fetch hfetched
    cases hp
  | case4 c e c' he ht s hw ih => exact ih

end Cluster

namespace Coordinator

/-- The time beside a coordinator. -/
def now (s : Coordinator × Seat × Cluster) : Nat := s.2.2.now

/-- Work takes no time. -/
theorem apart_now : Apart now where
  call n f s := by
    unfold call
    dsimp only
    split <;> rfl
  assign l s := by
    rw [Transport.askAssign, applying_ask]
    rfl
  unassign s := by
    rw [unassign, Transport.askUnassign, applying_ask]
    rfl

end Coordinator

namespace Consumer

variable {deadline : Nat}

/-- To take a notification takes no time. -/
theorem now_take (n : Notification) (s : Consumer Seat × Cluster) :
    (onCoordinator (Coordinator.take n) s).state.2.now = s.2.now :=
  Coordinator.apart_now.take n (s.1.coordinator, s.1.transport, s.2)

/-- A consumer that waits until a deadline has its transport wait until
then. -/
theorem inTime_awaitEvent {s : Consumer Seat × Cluster} (h : s.2.now ≤ deadline) :
    InTime deadline s.2.now (awaitEvent deadline s).state.2.now
      ((awaitEvent deadline s).result = .ok none) := by
  rw [awaitEvent_eq, Nat.add_sub_of_le h]
  exact Cluster.inTime_await s.1.transport.member h

/-- One act, and then another that ends in time. -/
theorem inTime_bind {α β : Type} {m : Act Entry (Consumer Seat × Cluster) α}
    {k : α → Act Entry (Consumer Seat × Cluster) β} {y : β} {s : Consumer Seat × Cluster}
    (hle : s.2.now ≤ (m s).state.2.now) (hby : (m s).state.2.now ≤ deadline)
    (hk : ∀ x, (m s).result = .ok x → InTime deadline (m s).state.2.now
      (k x (m s).state).state.2.now ((k x (m s).state).result = .ok y)) :
    InTime deadline s.2.now ((m >>= k) s).state.2.now (((m >>= k) s).result = .ok y) := by
  rcases hs : m s with ⟨result, t, journal⟩
  rw [hs] at hle hby hk
  cases result with
  | error e =>
    rw [Act.bind_error hs]
    exact ⟨hle, hby, nofun⟩
  | ok x =>
    rw [Act.bind_ok hs]
    exact .of_le hle (hk x rfl)

/-- However many notifications a poll takes, it brings nothing only when its
deadline has come. -/
theorem inTime_pollUntil (s : Consumer Seat × Cluster) (h : s.2.now ≤ deadline) :
    InTime deadline s.2.now (pollUntil deadline s).state.2.now
      ((pollUntil deadline s).result = .ok .empty) := by
  induction s using backlog_induction with
  | poll s ih =>
    have hwaited := inTime_awaitEvent h
    rw [pollUntil_eq]
    refine inTime_bind hwaited.forward hwaited.byDeadline fun event hevent => ?_
    match event with
    | none => exact ⟨Nat.le_refl _, hwaited.byDeadline, fun _ => hwaited.atDeadline hevent⟩
    | some (.message m) =>
      refine .atOnce hwaited.byDeadline fun hempty => ?_
      cases hempty
      rw [awaitEvent_eq] at hevent
      exact Cluster.await_ne_empty _ _ _ hevent
    | some (.rebalance code l) =>
      have hnow := now_take (.ofCode code l) (awaitEvent deadline s).state
      have hby := Nat.le_trans (Nat.le_of_eq hnow) hwaited.byDeadline
      exact inTime_bind (Nat.le_of_eq hnow.symm) hby fun _ _ => ih _ (less_of_taken hevent) hby

/-- A poll ends when its time is over if it brings nothing, and by then if it
brings a message or fails, however often it is woken and whatever it takes
on the way. -/
theorem pollFor_inTime (timeout : Nat) (c : Consumer Seat) (w : Cluster) :
    let o := pollFor timeout (c, w)
    w.now ≤ o.state.2.now ∧ o.state.2.now ≤ w.now + timeout ∧
      (o.result = .ok .empty → o.state.2.now = w.now + timeout) := by
  have hbefore : w.now ≤ w.now + timeout := Nat.le_add_right _ _
  obtain ⟨hforward, hby, hat⟩ := inTime_pollUntil (c, w) hbefore
  exact ⟨hforward, hby, hat⟩

/-- A member reads a partition that has no records. While it polls, a record
is written that it does not read, then it is notified of a trouble, and
then comes a record that it does read. -/
def restless : Cluster where
  broker := ({} : Broker).afterAll
    [.createTopic "t" 2,
      .connect (Configuration.ofPairs [("group.id", "g")]),
      .member "kafka_group-1" (.assign [⟨⟨"t", 0⟩, .beginning⟩])]
  now := 100
  agenda :=
    [⟨102, .produce ⟨"t", 1⟩ none [9]⟩,
      ⟨104, .notify "kafka_group-1" .rebalanceInProgress []⟩,
      ⟨107, .produce ⟨"t", 0⟩ none [1]⟩]

/-- Both polls are woken by the first record and sleep on, and take the
notification. Then the one that has less time ends with nothing when that
is over, and the other with the record when it comes. -/
theorem pollFor_inTime_restless :
    let c : Consumer Seat := { transport := ⟨"kafka_group-1", "g"⟩ }
    let brief := pollFor 5 (c, restless)
    let patient := pollFor 10 (c, restless)
    (brief.result = .ok .empty ∧ taken brief.journal = [.trouble .rebalanceInProgress] ∧
      brief.state.2.kept.length = 2 ∧ brief.state.2.now = 100 + 5) ∧
    (patient.result = .ok (.record ⟨"t", 0⟩ 0 none (some [1])) ∧
      taken patient.journal = [.trouble .rebalanceInProgress] ∧
      patient.state.2.now = 107 ∧ 107 ≤ 100 + 10) := by
  intro c brief patient
  have hbrief : brief.result = .ok .empty ∧
      taken brief.journal = [.trouble .rebalanceInProgress] ∧ brief.state.2.kept.length = 2 := by
    have hpoll : brief = pollUntil 105 (c, restless) := rfl
    rw [hpoll, pollUntil_of_took .rebalanceInProgress [] (by decide +kernel) (by decide +kernel),
      pollUntil_of_none (by decide +kernel)]
    exact ⟨rfl, by decide +kernel, by decide +kernel⟩
  have hpatient : patient.result = .ok (.record ⟨"t", 0⟩ 0 none (some [1])) ∧
      taken patient.journal = [.trouble .rebalanceInProgress] ∧ patient.state.2.now = 107 := by
    have hpoll : patient = pollUntil 110 (c, restless) := rfl
    rw [hpoll, pollUntil_of_took .rebalanceInProgress [] (by decide +kernel) (by decide +kernel),
      pollUntil_of_message (m := .record ⟨"t", 0⟩ 0 none (some [1])) (by decide +kernel)]
    exact ⟨rfl, by decide +kernel, by decide +kernel⟩
  obtain ⟨hnothing, htaken, hkept⟩ := hbrief
  obtain ⟨hrecord, htaken', hnow⟩ := hpatient
  obtain ⟨_, _, hends⟩ := pollFor_inTime 5 c restless
  obtain ⟨_, hby, _⟩ := pollFor_inTime 10 c restless
  exact ⟨⟨hnothing, htaken, hkept, hends hnothing⟩, hrecord, htaken', hnow, hnow ▸ hby⟩

end Consumer

end ConsumerGroup
