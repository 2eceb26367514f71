import ConsumerGroup.Proofs.Broker.Queueing
import ConsumerGroup.Proofs.Consumer.Look
import ConsumerGroup.Proofs.Consumer.Upheld

/-!
# When nothing waits

A message is brought to a member, or the time is over for it, only at an
instant when no notification waits for it (`Cluster.attended_await`). That
nothing waits when the time is over needs that nobody sleeps through a
notification: there is no look at the deadline.

A consumer's poll that ends well ends with such an instant, since every
notification before it is handed to the coordinator, and the poll goes on
(`Consumer.attended_pollUntil`).

What comes after that instant is left open: somebody else may queue a
notification before the consumer does anything more.
-/

namespace ConsumerGroup

namespace Broker

variable {b : Broker} {id : String} {x : Option Message}

/-- The member is there, and no notification waits for it. -/
def Attended (b : Broker) (id : String) : Prop := ∃ m, b.member? id = some m ∧ m.queue = []

/-- Who brings a message, or nothing, has found no notification. -/
theorem attended_of_nextEvent (h : (b.nextEvent id).result = .ok (x.map .message)) :
    b.Attended id ∧ (b.nextEvent id).broker.Attended id := by
  cases hm : b.member? id with
  | none =>
    rw [nextEvent_of_absent (member?_eq_none_iff.mp hm)] at h
    cases h
  | some m =>
    rw [nextEvent_of_member? hm] at h
    cases hq : m.queue with
    | nil =>
      have hq' : (m.next b.topics).2.queue = [] := by rw [m.queue_next, hq, List.tail_nil]
      exact ⟨⟨m, hm, hq⟩, _, member?_nextEvent hm, hq'⟩
    | cons q rest =>
      rw [Member.next_of_cons hq] at h
      cases x <;> cases h

end Broker

namespace Cluster

variable {c : Cluster} {id : String} {deadline : Nat} {x : Option Message}

/-- Whatever happens, a broker stays sound and its members read nothing but
what is there. -/
theorem upheld_grounded (id : String) :
    Upheld id fun w => w.broker.Sound ∧ w.broker.Grounded where
  mine _ r h := ⟨h.1.perform (.member id r), h.2.perform h.1 (.member id r)⟩
  keep _ a _ _ h := ⟨h.1.perform a.request, h.2.perform h.1 a.request⟩
  pass _ _ h := h
  sound _ h := h.1
  grounded _ h := h.2

/-- Whoever watches is brought a message, or nothing, only when no
notification waits. -/
theorem attended_watch (h : (c.watch id deadline).result = .ok (x.map .message)) :
    (c.watch id deadline).state.broker.Attended id := by
  fun_induction watch id deadline c with
  | case1 => cases h
  | case2 c e c' event he =>
    cases x with
    | none => cases h
    | some x =>
      cases h
      exact (Broker.attended_of_nextEvent (x := some x) he).2
  | case3 c e c' he => exact (Broker.attended_of_nextEvent (x := none) he).2
  | case4 c e c' he => exact (Broker.attended_of_nextEvent (x := none) he).2
  | case5 c e c' he ht a rest hagenda ha ih => exact ih h
  | case6 c e c' he => exact (Broker.attended_of_nextEvent (x := none) he).2

/-- Who waits is brought a message, or told that the time is over, only when
no notification waits. -/
theorem attended_await (hs : c.broker.Sound) (hg : c.broker.Grounded)
    (h : (c.await id deadline).result = .ok (x.map .message)) :
    (c.await id deadline).state.broker.Attended id := by
  rw [await_eq_watch hs hg] at h ⊢
  exact attended_watch h

end Cluster

namespace Consumer

/-- A poll that ends well ends when nothing waits for its member. -/
theorem attended_pollUntil (deadline : Nat) (x : Consumer Seat × Cluster)
    (hx : x.2.broker.Sound ∧ x.2.broker.Grounded) {m : Message}
    (h : (pollUntil deadline x).result = .ok m) :
    (pollUntil deadline x).state.2.broker.Attended x.1.transport.member := by
  induction x using backlog_induction with
  | poll x ih =>
    rw [pollUntil_eq] at h ⊢
    obtain ⟨event, hevent, hrest⟩ := Act.exists_of_bind_ok h
    rw [Act.bind_of_result hevent, Outcome.state_after]
    match event with
    | none => exact Cluster.attended_await (x := none) hx.1 hx.2 hevent
    | some (.message m) => exact Cluster.attended_await (x := some m) hx.1 hx.2 hevent
    | some (.rebalance code l) =>
      obtain ⟨_, htook, hrest⟩ := Act.exists_of_bind_ok hrest
      have hupheld := Cluster.upheld_grounded x.1.transport.member
      obtain ⟨hmember, htaken⟩ := hupheld.taken (.ofCode code l)
        (x := (awaitEvent deadline x).state) rfl (hupheld.await _ hx)
      have hended := ih _ (less_of_taken hevent) htaken hrest
      have hgone := congrArg Outcome.state
        (Act.bind_of_result (k := fun _ => pollUntil deadline) htook)
      rw [hmember, ← Outcome.state_after] at hended
      exact hgone ▸ hended

end Consumer

end ConsumerGroup
