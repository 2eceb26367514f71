import ConsumerGroup.Proofs.Cluster.Sleep

/-!
# Watching

Whoever waits sleeps until it is woken. Somebody who never slept, and
looked again after every appointment whether it was woken or not, would
be no better off (`Cluster.await_eq_watch`): it would be brought the same
event at the same time, and would leave the same cluster behind, for what
wakes nobody brings nothing, and looks that find nothing leave no trace.

So whatever is said of waiting can be proved of watching, where every
appointment is followed by a look and no induction has to know who is
asleep. It needs that members read nothing but what is there
(`Broker.Grounded`).
-/

namespace ConsumerGroup

namespace Cluster

/-- Waits for the next event of a member, like `await`, but looks again
after every appointment. -/
def watch (id : String) (deadline : Nat) (c : Cluster) : Outcome DiaryEntry Cluster (Option Event) :=
  let e := c.broker.nextEvent id
  let c' := { c with broker := e.broker }
  match e.result with
  | .error f => ⟨.error (.failure f), c', []⟩
  | .ok (some event) => ⟨.ok (some event), c', []⟩
  | .ok none =>
    if deadline ≤ c.now then ⟨.ok none, c', []⟩
    else
      match _agenda : c.agenda with
      | [] => ⟨.ok none, { c' with now := max c.now deadline }, []⟩
      | a :: rest =>
        if a.time < deadline then
          (watch id deadline (c'.keep a rest).cluster).after (c'.keep a rest).diary
        else ⟨.ok none, { c' with now := max c.now deadline }, []⟩
termination_by c.agenda.length
decreasing_by
  rw [_agenda]
  exact Nat.lt_succ_self _

variable {c : Cluster} {id : String} {deadline : Nat}

/-- Whoever finds nothing goes to sleep, if there is time. -/
theorem await_of_none (hnone : (c.broker.nextEvent id).result = .ok none) (ht : ¬ deadline ≤ c.now) :
    c.await id deadline =
      let s := ({ c with broker := (c.broker.nextEvent id).broker } : Cluster).sleep deadline
      if s.woken = true then (s.cluster.await id deadline).after s.diary
      else ⟨.ok none, s.cluster, s.diary⟩ := by
  rw [await]
  dsimp only
  rw [hnone]
  dsimp only
  rw [if_neg ht]
  rfl

/-- Whoever is idle and has time sleeps first, and looks again only if woken. -/
theorem await_of_idle (hs : c.broker.Sound) (hi : c.broker.Idle id) (ht : ¬ deadline ≤ c.now) :
    c.await id deadline =
      if (c.sleep deadline).woken = true then
        ((c.sleep deadline).cluster.await id deadline).after (c.sleep deadline).diary
      else ⟨.ok none, (c.sleep deadline).cluster, (c.sleep deadline).diary⟩ := by
  have hlook := hi.nextEvent hs
  rw [await_of_none (by rw [hlook]) ht, hlook]

/-- Whoever is idle and sleeps through an appointment goes on as if it had
looked. -/
theorem await_of_keep (hs : c.broker.Sound) (hg : c.broker.Grounded) (hi : c.broker.Idle id)
    {a : Appointment} {rest : List Appointment} (hagenda : c.agenda = a :: rest)
    (ht : ¬ deadline ≤ c.now) (ha : a.time < deadline) :
    c.await id deadline = ((c.keep a rest).cluster.await id deadline).after (c.keep a rest).diary := by
  rw [await_of_idle hs hi ht]
  unfold sleep
  rw [hagenda]
  cases hw : (c.keep a rest).woken with
  | true =>
    rw [sleepFrom_of_woken ha hw]
    exact if_pos hw
  | false =>
    have hunheard : c.broker.Unheard a.request (c.keep a rest).cluster.broker :=
      Broker.perform_unheard hw
    have hnow : ¬ deadline ≤ (c.keep a rest).cluster.now := by
      show ¬ deadline ≤ max c.now a.time
      omega
    have hkept : (c.keep a rest).cluster.agenda = rest := rfl
    rw [sleepFrom_of_not_woken ha hw,
      await_of_idle (hs.perform a.request) (hunheard.idle hs hg hi) hnow]
    unfold sleep
    rw [hkept]
    dsimp only
    split
    · unfold Outcome.after
      rw [List.append_assoc]
    · rfl

/-- To sleep until woken comes to the same as to look after every
appointment. -/
theorem await_eq_watch (hs : c.broker.Sound) (hg : c.broker.Grounded) :
    c.await id deadline = c.watch id deadline := by
  -- what a look that finds nothing leaves behind is still sound and grounded
  have hlooked {c : Cluster} (hs : c.broker.Sound) (hg : c.broker.Grounded) :
      (c.broker.nextEvent id).broker.Sound ∧ (c.broker.nextEvent id).broker.Grounded :=
    ⟨hs.perform (.member id .next), hg.perform hs (.member id .next)⟩
  fun_induction watch id deadline c with
  | case1 c e c' f he | case2 c e c' event he =>
    rw [await]
    dsimp only
    rw [he]
  | case3 c e c' he ht =>
    rw [await]
    dsimp only
    rw [he]
    exact if_pos ht
  | case4 c e c' he ht hagenda =>
    rw [await_of_none he ht]
    unfold sleep
    dsimp only
    rw [hagenda]
    rfl
  | case5 c e c' he ht a rest hagenda ha ih =>
    obtain ⟨hs', hg'⟩ := hlooked hs hg
    rw [await_of_none he ht]
    rw [← ih (hs'.perform a.request) (hg'.perform hs' a.request)]
    refine (await_of_idle (c := c') hs' (Broker.idle_nextEvent he) ht).symm.trans ?_
    exact await_of_keep (c := c') hs' hg' (Broker.idle_nextEvent he) hagenda ht ha
  | case6 c e c' he ht a rest hagenda ha =>
    rw [await_of_none he ht]
    unfold sleep
    dsimp only
    rw [hagenda, sleepFrom, if_neg ha]
    rfl

end Cluster

end ConsumerGroup
