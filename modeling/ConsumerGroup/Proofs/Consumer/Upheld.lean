import ConsumerGroup.Proofs.Cluster.Watch
import ConsumerGroup.Proofs.Consumer.Alike
import ConsumerGroup.Transport.Seat.Dry

/-!
# What holds however long a consumer waits

A poll is to wait for an event and to go on from there
(`Consumer.pollUntil_eq`). So what holds of a cluster through every request
of a member, through every appointment that is kept, and at any time, holds
through whatever the member's consumer does, and through a whole poll
(`Cluster.Upheld.deed`, `Cluster.Upheld.pollUntil`).

A property is upheld if these few steps keep it; it may speak of the broker,
the agenda and the clock alike. So no property has to be carried through the
loops more than once.
-/

namespace ConsumerGroup

namespace Consumer

section

variable {H W : Type} [Transport H W] [RunsDry H W]

/-- What is to hold of a poll may be taken to hold of polls with less to
come. -/
theorem backlog_induction {P : Consumer H × W → Prop}
    (poll : ∀ x, (∀ y, (backlog y).Less (backlog x) → P y) → P x) (x : Consumer H × W) : P x :=
  (InvImage.wf backlog Backlog.less_wf).induction x poll

variable [Timed W]

/-- What becomes of a poll once an event has come, or none. -/
def polling (deadline : Nat) : Option Event → Act Entry (Consumer H × W) Message
  | none => pure .empty
  | some (.message m) => pure m
  | some (.rebalance code partitions) => do
    onCoordinator (Coordinator.take (.ofCode code partitions))
    pollUntil deadline

/-- To poll is to wait for an event and to go on from there. -/
theorem pollUntil_eq (deadline : Nat) (s : Consumer H × W) :
    pollUntil deadline s = (awaitEvent deadline >>= polling deadline) s := by
  have hpure (m : Message) (t : Consumer H × W) (journal : List Entry) :
      (⟨.ok m, t, journal⟩ : Outcome Entry (Consumer H × W) Message) =
        ((pure m : Act Entry (Consumer H × W) Message) t).after journal :=
    congrArg (Outcome.mk _ _) (List.append_nil journal).symm
  rw [pollUntil]
  split
  · next h => rw [Act.bind_error h]
  · next h => rw [Act.bind_ok h, hpure]; rfl
  · next h => rw [Act.bind_ok h, hpure]; rfl
  · next h =>
    rw [Act.bind_ok h]
    split
    · next htaken => exact (congrArg (Outcome.after _) (Act.bind_error htaken)).symm
    · next htaken =>
      refine Eq.trans ?_ (congrArg (Outcome.after _) (Act.bind_ok htaken)).symm
      exact congrArg (Outcome.mk _ _) (List.append_assoc _ _ _)

section Polled

variable {deadline : Nat} {x : Consumer H × W} {e : Fault}

/-- A poll that is brought nothing ends with nothing. -/
theorem pollUntil_of_none (he : (awaitEvent deadline x).result = .ok none) :
    pollUntil deadline x =
      ⟨.ok .empty, (awaitEvent deadline x).state, (awaitEvent deadline x).journal⟩ := by
  rw [pollUntil_eq, Act.bind_of_result he]
  exact congrArg (Outcome.mk _ _) (List.append_nil _)

/-- A poll that is brought a message ends with that. -/
theorem pollUntil_of_message {m : Message}
    (he : (awaitEvent deadline x).result = .ok (some (.message m))) :
    pollUntil deadline x =
      ⟨.ok m, (awaitEvent deadline x).state, (awaitEvent deadline x).journal⟩ := by
  rw [pollUntil_eq, Act.bind_of_result he]
  exact congrArg (Outcome.mk _ _) (List.append_nil _)

/-- A poll that cannot wait any more fails. -/
theorem pollUntil_of_error (he : (awaitEvent deadline x).result = .error e) :
    pollUntil deadline x =
      ⟨.error e, (awaitEvent deadline x).state, (awaitEvent deadline x).journal⟩ := by
  rw [pollUntil_eq]
  exact Act.bind_of_error he

variable (code : StatusCode) (l : PartitionList)

/-- A poll that has taken a notification goes on. -/
theorem pollUntil_of_took (he : (awaitEvent deadline x).result = .ok (some (.rebalance code l)))
    (hk : (onCoordinator (Coordinator.take (.ofCode code l))
      (awaitEvent deadline x).state).result = .ok ()) :
    let o := onCoordinator (Coordinator.take (.ofCode code l)) (awaitEvent deadline x).state
    pollUntil deadline x =
      (pollUntil deadline o.state).after ((awaitEvent deadline x).journal ++ o.journal) := by
  have htook := Act.bind_of_result (k := fun _ => pollUntil deadline) hk
  rw [pollUntil_eq, Act.bind_of_result he]
  refine (congrArg (Outcome.after _) htook).trans ?_
  exact congrArg (Outcome.mk _ _) (List.append_assoc _ _ _).symm

/-- A poll that has not taken a notification as it should goes no further. -/
theorem pollUntil_of_untaken (he : (awaitEvent deadline x).result = .ok (some (.rebalance code l)))
    (hk : (onCoordinator (Coordinator.take (.ofCode code l))
      (awaitEvent deadline x).state).result = .error e) :
    let o := onCoordinator (Coordinator.take (.ofCode code l)) (awaitEvent deadline x).state
    pollUntil deadline x =
      ⟨.error e, o.state, (awaitEvent deadline x).journal ++ o.journal⟩ := by
  rw [pollUntil_eq, Act.bind_of_result he]
  exact congrArg (Outcome.after _) (Act.bind_of_error (k := fun _ => pollUntil deadline) hk)

end Polled

/-- A consumer waits in the cluster that it is in. -/
theorem awaitEvent_eq (deadline : Nat) (c : Consumer Seat) (w : Cluster) :
    awaitEvent deadline (c, w) =
      let o := w.await c.transport.member (w.now + (deadline - w.now))
      ⟨o.result, (c, o.state), .asked (.poll (deadline - w.now)) :: o.journal.map .diary⟩ := rfl

/-- A notification that has come and been taken leaves less to come. -/
theorem less_of_taken {deadline : Nat} {s : Consumer H × W} {code : StatusCode}
    {partitions : PartitionList}
    (h : (awaitEvent deadline s).result = .ok (some (.rebalance code partitions))) :
    (backlog (onCoordinator (Coordinator.take (.ofCode code partitions))
      (awaitEvent deadline s).state).state).Less (backlog s) := by
  rw [keeps_backlog_take]
  rcases hs : awaitEvent deadline s with ⟨result, t, journal⟩
  rw [hs] at h
  obtain rfl : result = .ok (some (.rebalance code partitions)) := h
  exact less_of_awaitEvent hs

end

end Consumer

namespace Cluster

variable {id : String} {P : Cluster → Prop} {deadline : Nat}

/-- Nothing that happens while a member is waiting, or that it asks for,
changes it. -/
structure Upheld (id : String) (P : Cluster → Prop) : Prop where
  mine : ∀ w r, P w → P { w with broker := (w.broker.performFor id r).broker }
  keep : ∀ w a rest, w.agenda = a :: rest → P w → P (w.keep a rest).cluster
  pass : ∀ w now, P w → P { w with now }
  sound : ∀ w, P w → w.broker.Sound
  grounded : ∀ w, P w → w.broker.Grounded

namespace Upheld

variable (h : Upheld id P)
include h

/-- It is nothing that a consumer of the member could do away with. -/
theorem alike : Cluster.Alike id fun w v => w = v ∧ P w := by
  have hact {α : Type} {f : Broker → Broker.Effect α} (r : MemberRequest)
      (hr : ∀ b, (f b).broker = (b.performFor id r).broker) :
      Act.Respects (fun w v => w = v ∧ P w) (onBroker f) := by
    rintro w _ ⟨rfl, hP⟩
    refine ⟨rfl, rfl, rfl, ?_⟩
    show P { w with broker := (f w.broker).broker }
    rw [hr]
    exact h.mine w r hP
  refine ⟨hact .next fun _ => rfl, fun l => hact (.assign l) fun _ => rfl, hact .unassign fun _ => rfl,
    fun offsets asynchronous => hact (.commit offsets asynchronous) fun _ => rfl,
    hact .leave fun _ => rfl, ?_⟩
  rintro w _ ⟨rfl, hP⟩
  exact ⟨rfl, rfl, rfl, hP⟩

/-- It holds after whatever the member's consumer does. -/
theorem deed (d : Deed) {x : Consumer Seat × Cluster} (hid : x.1.transport.member = id) (hP : P x.2) :
    (d.act x).state.1.transport.member = id ∧ P (d.act x).state.2 := by
  obtain ⟨-, hmember, -, hP⟩ := (h.alike.deed d x x ⟨rfl, hid, rfl, hP⟩).state
  exact ⟨hmember, hP⟩

/-- It holds however long a member watches. -/
theorem watch (deadline : Nat) {w : Cluster} (hP : P w) : P (w.watch id deadline).state := by
  have hlook (w : Cluster) (hP : P w) : P { w with broker := (w.broker.nextEvent id).broker } :=
    h.mine w .next hP
  fun_induction Cluster.watch id deadline w with
  | case1 | case2 | case3 => exact hlook _ hP
  | case4 w | case6 w => exact h.pass _ _ (hlook w hP)
  | case5 w e w' he ht a rest hagenda ha ih => exact ih (h.keep w' a rest hagenda (hlook w hP))

/-- And however long it waits. -/
theorem await (deadline : Nat) {w : Cluster} (hP : P w) : P (w.await id deadline).state := by
  rw [await_eq_watch (h.sound w hP) (h.grounded w hP)]
  exact h.watch deadline hP

/-- It holds after a notification has been taken. -/
theorem taken (n : Notification) {x : Consumer Seat × Cluster} (hid : x.1.transport.member = id)
    (hP : P x.2) : (Consumer.onCoordinator (Coordinator.take n) x).state.1.transport.member = id ∧
      P (Consumer.onCoordinator (Coordinator.take n) x).state.2 := by
  obtain ⟨-, hmember, -, hP⟩ :=
    (Consumer.respects_onCoordinator (h.alike.take n) x x ⟨rfl, hid, rfl, hP⟩).state
  exact ⟨hmember, hP⟩

/-- It holds after a whole poll. -/
theorem pollUntil (deadline : Nat) (x : Consumer Seat × Cluster) (hid : x.1.transport.member = id)
    (hP : P x.2) : (Consumer.pollUntil deadline x).state.1.transport.member = id ∧
      P (Consumer.pollUntil deadline x).state.2 := by
  induction x using Consumer.backlog_induction with
  | poll x ih =>
    rw [Consumer.pollUntil_eq]
    subst hid
    have hwaited : P (Consumer.awaitEvent deadline x).state.2 := h.await _ hP
    let Q (s : Consumer Seat × Cluster) : Prop := s.1.transport.member = x.1.transport.member ∧ P s.2
    refine Act.holds_bind Q ⟨rfl, hwaited⟩ fun event hevent => ?_
    match event with
    | none | some (.message _) => exact ⟨rfl, hwaited⟩
    | some (.rebalance code l) =>
      obtain ⟨hmember, htaken⟩ :=
        h.taken (.ofCode code l) (x := (Consumer.awaitEvent deadline x).state) rfl hwaited
      exact Act.holds_bind Q ⟨hmember, htaken⟩ fun _ _ =>
        ih _ (Consumer.less_of_taken hevent) hmember htaken

/-- It holds after the rest of a poll. -/
theorem polling (deadline : Nat) (event : Option Event) {x : Consumer Seat × Cluster}
    (hid : x.1.transport.member = id) (hP : P x.2) : P (Consumer.polling deadline event x).state.2 := by
  match event with
  | none | some (.message _) => exact hP
  | some (.rebalance code l) =>
    obtain ⟨hmember, htaken⟩ := h.taken (.ofCode code l) hid hP
    exact Act.holds_bind (fun s : Consumer Seat × Cluster => P s.2) htaken fun _ _ =>
      (h.pollUntil deadline _ hmember htaken).2

end Upheld

end Cluster

end ConsumerGroup
