import ConsumerGroup.Cluster
import ConsumerGroup.Proofs.Broker.Waking
import Mathlib.Data.List.Basic

/-!
# Sleeping and waiting

While somebody sleeps, nothing is done to the broker but what is on the
agenda, in the order of the agenda. So whatever each appointment upholds,
the sleep upholds (`Cluster.sleepFrom_upholds`), and of the agenda only a
front part is used up (`Cluster.agenda_sleepFrom`).

A member that is there and that nobody has leave is never told that it
is gone, however long it waits (`Cluster.exists_await`).

Both are inductions on the agenda, which is kept in its own order, each
appointment at its time or at once if that has passed. The deadline decides
only how far the agenda is kept.
-/

namespace ConsumerGroup

namespace Broker

variable {b : Broker} {id : String}

/-- Whoever is there is still there after what is asked, unless it was
asked to leave. -/
theorem Present.perform (h : b.Present id) {r : Request} (hr : r ≠ .member id .leave) :
    (b.perform r).broker.Present id := (b.perform_changed r).stays h hr

end Broker

namespace Cluster

variable {c : Cluster} {agenda : List Appointment} {id : String}

/-- A sleep uses up the agenda from its front. -/
theorem agenda_sleepFrom (deadline : Nat) (c : Cluster) (agenda : List Appointment) :
    (c.sleepFrom deadline agenda).cluster.agenda <:+ agenda := by
  induction agenda generalizing c with
  | nil => exact List.suffix_refl _
  | cons a rest ih =>
    by_cases ht : a.time < deadline
    · cases hw : (c.keep a rest).woken with
      | true =>
        rw [sleepFrom_of_woken ht hw]
        exact List.suffix_cons a rest
      | false =>
        rw [sleepFrom_of_not_woken ht hw]
        exact (ih _).trans (List.suffix_cons a rest)
    · simp only [sleepFrom, if_neg ht]
      exact List.suffix_refl _

/-- What each appointment upholds, a sleep upholds. -/
theorem sleepFrom_upholds {P : Broker → Prop} (deadline : Nat)
    (hP : ∀ a ∈ agenda, ∀ b, P b → P (b.perform a.request).broker) (h : P c.broker) :
    P (c.sleepFrom deadline agenda).cluster.broker := by
  induction agenda generalizing c with
  | nil => exact h
  | cons a rest ih =>
    obtain ⟨hfirst, hrest⟩ := List.forall_mem_cons.mp hP
    by_cases ht : a.time < deadline
    · have hkept : P (c.keep a rest).cluster.broker := hfirst _ h
      cases hw : (c.keep a rest).woken with
      | true => rwa [sleepFrom_of_woken ht hw]
      | false =>
        rw [sleepFrom_of_not_woken ht hw]
        exact ih hrest hkept
    · rwa [sleepFrom, if_neg ht]

/-- Whoever is there, and is not asked to leave meanwhile, waits in
peace. -/
theorem exists_await (deadline : Nat) (hl : ∀ a ∈ c.agenda, a.request ≠ .member id .leave)
    (h : c.broker.Present id) : ∃ event, (c.await id deadline).result = .ok event := by
  fun_induction await id deadline c with
  | case1 c e c' f he =>
    obtain ⟨event, hevent⟩ := Broker.nextEvent_of_present h
    cases hevent.symm.trans he
  | case2 | case3 | case5 => exact ⟨_, rfl⟩
  | case4 c e c' _ _ s _ ih =>
    refine ih (fun a ha => hl a ?_) ?_
    · exact (agenda_sleepFrom deadline c' c.agenda).subset ha
    · apply sleepFrom_upholds (P := (·.Present id)) (c := c') deadline
      · exact fun a ha b hb => hb.perform (hl a ha)
      · exact (Broker.present_nextEvent id).mpr h

/-- Whoever is gone is told so at once. -/
theorem await_of_absent (deadline : Nat) (h : ¬ c.broker.Present id) :
    c.await id deadline = ⟨.error (.failure (.ofCode .destroyed)), c, []⟩ := by
  have hgone := Broker.nextEvent_of_absent h
  rw [await]
  rw [hgone]
  rfl

/-- To wait fails at once or not at all. -/
theorem await_of_error {deadline : Nat} {f : Fault}
    (hl : ∀ a ∈ c.agenda, a.request ≠ .member id .leave)
    (h : (c.await id deadline).result = .error f) : c.await id deadline = ⟨.error f, c, []⟩ := by
  by_cases hp : c.broker.Present id
  · obtain ⟨event, hevent⟩ := exists_await deadline hl hp
    cases hevent.symm.trans h
  · rw [await_of_absent deadline hp] at h ⊢
    cases h
    rfl

end Cluster

end ConsumerGroup
