import ConsumerGroup.Proofs.Cluster.Abreast
import ConsumerGroup.Proofs.Consumer.Upheld

/-!
# What is left undone

What is on the agenda and has not been kept when a poll is over might as
well not have been on it: the poll would have come to the same
(`Consumer.alike_pollUntil_busier`). So a poll depends on nothing but what
has been done while it went on.

A longer agenda is told apart by its end (`Cluster.busier`), and the proof
is an induction on the poll, in which both clusters keep the same
appointments and differ in nothing but that end.
-/

namespace ConsumerGroup

namespace Cluster

variable {id : String} {deadline : Nat} {w : Cluster} {agenda rest : List Appointment}

/-- With more on the agenda, after all the rest. -/
def busier (w : Cluster) (rest : List Appointment) : Cluster := { w with agenda := w.agenda ++ rest }

/-- Nothing is put on the agenda while somebody watches. -/
theorem length_agenda_watch_le (id : String) (deadline : Nat) (w : Cluster) :
    (w.watch id deadline).state.agenda.length ≤ w.agenda.length := by
  fun_induction watch id deadline w with
  | case1 | case2 | case3 | case4 | case6 => exact Nat.le_refl _
  | case5 w e w' he ht a later hagenda ha ih =>
    rw [hagenda]
    exact Nat.le_succ_of_le ih

/-- Whoever has watched without getting to what is last on the agenda has
seen what is to be seen without that. -/
theorem alike_watch_busier (w : Cluster)
    (h : rest.length ≤ ((w.busier rest).watch id deadline).state.agenda.length) :
    (w.watch id deadline).Alike (fun w v => v = w.busier rest) ((w.busier rest).watch id deadline) := by
  fun_induction watch id deadline w with
  | case1 w e w' f he | case2 w e w' event he =>
    rw [watch_of_ne (c := w.busier rest) fun h => by cases he.symm.trans h]
    exact ⟨congrArg (Except.mapError Fault.failure) he.symm, rfl, rfl⟩
  | case3 w e w' he ht =>
    rw [watch_of_over (c := w.busier rest) he ht]
    exact ⟨rfl, rfl, rfl⟩
  | case4 w e w' he ht hagenda =>
    have hrest : (w.busier rest).agenda = rest := by
      show w.agenda ++ rest = rest
      rw [hagenda, List.nil_append]
    cases rest with
    | nil =>
      rw [watch_of_quiet (c := w.busier []) he ht (by rw [hrest]; rintro _ ⟨⟩)]
      exact ⟨rfl, rfl, rfl⟩
    | cons a rest =>
      by_cases ha : a.time < deadline
      · -- then it would have been kept
        rw [watch_of_keep (c := w.busier (a :: rest)) he ht hrest ha] at h
        exact absurd (Nat.le_trans h (length_agenda_watch_le _ _ _)) (Nat.not_succ_le_self _)
      · rw [watch_of_quiet (c := w.busier (a :: rest)) he ht (by rw [hrest]; rintro _ ⟨⟩; omega)]
        exact ⟨rfl, rfl, rfl⟩
  | case5 w e w' he ht a later hagenda ha ih =>
    have hrest : (w.busier rest).agenda = a :: (later ++ rest) := by
      show w.agenda ++ rest = _
      rw [hagenda, List.cons_append]
    rw [watch_of_keep (c := w.busier rest) he ht hrest ha] at h ⊢
    obtain ⟨hresult, hjournal, hstate⟩ := ih h
    exact ⟨hresult, congrArg (_ ++ ·) hjournal, hstate⟩
  | case6 w e w' he ht a later hagenda ha =>
    have hrest : (w.busier rest).agenda = a :: (later ++ rest) := by
      show w.agenda ++ rest = _
      rw [hagenda, List.cons_append]
    rw [watch_of_quiet (c := w.busier rest) he ht (by rw [hrest]; rintro _ ⟨⟩; omega)]
    exact ⟨rfl, rfl, rfl⟩

/-- And so has whoever has waited. -/
theorem alike_await_busier (id : String) (deadline : Nat) (rest : List Appointment)
    (hs : w.broker.Sound) (hg : w.broker.Grounded)
    (h : rest.length ≤ ((w.busier rest).await id deadline).state.agenda.length) :
    (w.await id deadline).Alike (fun w v => v = w.busier rest) ((w.busier rest).await id deadline) := by
  rw [await_eq_watch (c := w.busier rest) hs hg] at h ⊢
  rw [await_eq_watch hs hg]
  exact alike_watch_busier w h

/-- What has been kept since, in its order, was on the agenda. -/
structure Since (v w : Cluster) : Prop where
  agenda : ∃ done, v.agenda = done ++ w.agenda ∧ w.kept.length = v.kept.length + done.length
  sound : w.broker.Sound
  grounded : w.broker.Grounded

namespace Since

variable {v : Cluster}

theorem refl (hs : w.broker.Sound) (hg : w.broker.Grounded) : Since w w := ⟨⟨[], rfl, rfl⟩, hs, hg⟩

/-- Since then the agenda has not grown. -/
theorem length_agenda_le (h : Since v w) : w.agenda.length ≤ v.agenda.length := by
  obtain ⟨done, hagenda, -⟩ := h.agenda
  rw [hagenda, List.length_append]
  exact Nat.le_add_left _ _

/-- What is left of the agenda might be taken off it. -/
theorem eq_busier {broker : Broker} {agenda : List Appointment} (h : Since { broker, agenda } w) :
    { broker, agenda } =
      ({ broker, agenda := agenda.take w.kept.length } : Cluster).busier w.agenda := by
  obtain ⟨done, hagenda, hkept⟩ := h.agenda
  have hagenda : agenda = done ++ w.agenda := hagenda
  have hkept : w.kept.length = done.length := hkept.trans (Nat.zero_add _)
  have htake : agenda.take w.kept.length = done := by rw [hagenda, hkept, List.take_left]
  unfold busier
  dsimp only
  rw [htake, ← hagenda]

/-- Whatever a member does, the cluster goes on since then. -/
theorem upheld (id : String) (v : Cluster) : Upheld id (Since v) where
  mine w r h := ⟨h.agenda, h.sound.perform (.member id r), h.grounded.perform h.sound (.member id r)⟩
  keep := by
    intro w a rest hagenda h
    refine ⟨?_, h.sound.perform a.request, h.grounded.perform h.sound a.request⟩
    obtain ⟨done, hdone, hkept⟩ := h.agenda
    refine ⟨done ++ [a], ?_, ?_⟩
    · rw [hdone, hagenda, List.append_assoc]
      rfl
    · show (w.kept ++ [_]).length = _
      rw [List.length_append, List.length_append, hkept]
      rfl
  pass w now h := ⟨h.agenda, h.sound, h.grounded⟩
  sound w h := h.sound
  grounded w h := h.grounded

end Since

end Cluster

namespace Consumer

variable {deadline : Nat} {rest : List Appointment}

/-- What is on the agenda makes no difference to what a notification comes
to. -/
theorem alike_take_busier (rest : List Appointment) (n : Notification)
    (x : Consumer Seat × Cluster) :
    (onCoordinator (Coordinator.take n) x).Alike (fun x y => y = (x.1, x.2.busier rest))
      (onCoordinator (Coordinator.take n) (x.1, x.2.busier rest)) := by
  have hact {α : Type} (f : Broker → Broker.Effect α) :
      Act.Respects (fun w v => v = w.busier rest) (Cluster.onBroker f) := by
    rintro w _ rfl
    exact ⟨rfl, rfl, rfl⟩
  have halike : Cluster.Alike x.1.transport.member fun w v => v = w.busier rest :=
    ⟨hact _, fun _ => hact _, hact _, fun _ _ => hact _, hact _, fun w _ h => h ▸ ⟨rfl, rfl, rfl⟩⟩
  obtain ⟨hresult, hjournal, hconsumer, -, hbusier⟩ :=
    respects_onCoordinator (halike.take n) x (x.1, x.2.busier rest) ⟨rfl, rfl, rfl⟩
  exact ⟨hresult, hjournal, Prod.ext hconsumer.symm hbusier⟩

/-- Nor to what a consumer is brought that does not get to it. -/
theorem alike_awaitEvent_busier {x : Consumer Seat × Cluster} (hs : x.2.broker.Sound)
    (hg : x.2.broker.Grounded)
    (h : rest.length ≤ (awaitEvent deadline (x.1, x.2.busier rest)).state.2.agenda.length) :
    (awaitEvent deadline x).Alike (fun x y => y = (x.1, x.2.busier rest))
      (awaitEvent deadline (x.1, x.2.busier rest)) := by
  obtain ⟨c, w⟩ := x
  obtain ⟨hresult, hjournal, hstate⟩ := Cluster.alike_await_busier _ _ rest hs hg h
  rw [awaitEvent_eq, awaitEvent_eq]
  dsimp only [Cluster.busier] at hresult hjournal hstate ⊢
  exact ⟨hresult, congrArg (Entry.asked _ :: List.map _ ·) hjournal, congrArg (Prod.mk c) hstate⟩

/-- Whoever has polled without getting to what is last on the agenda has
been brought what would have been brought without that. -/
theorem alike_pollUntil_busier (deadline : Nat) (rest : List Appointment)
    (x : Consumer Seat × Cluster) : x.2.broker.Sound → x.2.broker.Grounded →
    rest.length ≤ (pollUntil deadline (x.1, x.2.busier rest)).state.2.agenda.length →
      (pollUntil deadline x).Alike (fun x y => y = (x.1, x.2.busier rest))
        (pollUntil deadline (x.1, x.2.busier rest)) := by
  induction x using backlog_induction with
  | poll x ih =>
    intro hs hg hlast
    have hsince (v : Cluster) := Cluster.Since.upheld x.1.transport.member v
    have hwaited := (hsince x.2).await (x.2.now + (deadline - x.2.now)) (.refl hs hg)
    have hwaited' := (hsince (x.2.busier rest)).await (x.2.now + (deadline - x.2.now)) (.refl hs hg)
    rw [pollUntil_eq] at hlast
    have hcame : rest.length ≤
        (awaitEvent deadline (x.1, x.2.busier rest)).state.2.agenda.length := by
      have hrefl := Cluster.Since.refl hwaited'.sound hwaited'.grounded
      refine Nat.le_trans hlast (Cluster.Since.length_agenda_le ?_)
      exact Act.holds_bind (fun s : Consumer Seat × Cluster => Cluster.Since _ s.2) hrefl fun event _ =>
        (hsince _).polling deadline event rfl hrefl
    have hawait := alike_awaitEvent_busier hs hg hcame
    rw [pollUntil_eq, pollUntil_eq]
    refine Act.alike_bind hawait fun event hevent => ?_
    rw [Act.bind_of_result (hawait.result.symm.trans hevent), Outcome.state_after, hawait.state] at hlast
    rw [hawait.state]
    match event with
    | none | some (.message _) => exact ⟨rfl, rfl, rfl⟩
    | some (.rebalance code l) =>
      have htake := alike_take_busier rest (.ofCode code l) (awaitEvent deadline x).state
      obtain ⟨-, htaken⟩ := (hsince x.2).taken (.ofCode code l)
        (x := (awaitEvent deadline x).state) rfl hwaited
      refine Act.alike_bind htake fun _ htook => ?_
      have hgone := Act.bind_of_result (k := fun _ => pollUntil deadline)
        (htake.result.symm.trans htook)
      replace hlast := Nat.le_trans hlast (Nat.le_of_eq (congrArg (·.state.2.agenda.length) hgone))
      rw [htake.state] at hlast ⊢
      exact ih _ (less_of_taken hevent) htaken.sound htaken.grounded hlast

end Consumer

end ConsumerGroup
