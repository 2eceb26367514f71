import ConsumerGroup.Proofs.Broker.Roll
import ConsumerGroup.Proofs.Cluster.Watch
import ConsumerGroup.Proofs.Consumer.Alike

/-!
# Waiting while others are busy

Of the appointments that are kept while somebody waits, some concern its
group and some do not. Whoever waits would be brought the same at the same
time if only those were kept that concern the group
(`Cluster.Abreast.await`): for whatever else wakes it brings it nothing.

The two clusters are not in step all the time. While the one keeps an
appointment that does not concern the group, the other does nothing and
stays behind; it catches up as soon as there is something for it to do.

The proof goes along the agenda, and compares somebody who watches and never
sleeps in both clusters (`Cluster.watch`), since they are woken at different
times. What others are told of what they ask for is compared as well, as far
as it concerns the group.
-/

namespace ConsumerGroup

variable {α : Type} {g : String}

/-! ## What concerns a group of an agenda -/

/-- The roll after the requests of an agenda. -/
def Roll.afterAll (roll : Roll) (agenda : List Appointment) : Roll :=
  agenda.foldl (fun roll a => roll.after a.request) roll

/-- Of what goes with the appointments of an agenda, one by one, what goes
with those that concern the group. -/
def heeded (g : String) : Roll → List Appointment → List α → List α
  | roll, a :: agenda, x :: xs =>
    if a.request.concerns roll g then x :: heeded g (roll.after a.request) agenda xs
    else heeded g (roll.after a.request) agenda xs
  | _, _, _ => []

/-- The appointments at the times they can be kept at: none is kept before
those that come before it. -/
def due : Nat → List Appointment → List Appointment
  | _, [] => []
  | now, a :: agenda => { a with time := max now a.time } :: due (max now a.time) agenda

/-- Of an agenda, what concerns the group. -/
def concerning (g : String) (roll : Roll) (now : Nat) (agenda : List Appointment) :
    List Appointment := heeded g roll agenda (due now agenda)

namespace Roll

variable {roll : Roll} {agenda done : List Appointment} {a : Appointment}

theorem afterAll_append (roll : Roll) (done agenda : List Appointment) :
    roll.afterAll (done ++ agenda) = (roll.afterAll done).afterAll agenda := List.foldl_append

/-- Whoever is on the roll stays there, whatever is asked for. -/
theorem subset_afterAll (roll : Roll) (agenda : List Appointment) : roll ⊆ roll.afterAll agenda := by
  induction agenda generalizing roll with
  | nil => exact List.Subset.refl _
  | cons a agenda ih => exact List.Subset.trans (roll.subset_after a.request) (ih _)

end Roll

section Heeded

variable {roll : Roll} {agenda done : List Appointment} {a : Appointment} {x : α} {xs ys : List α}

theorem heeded_of_concerns (h : a.request.concerns roll g = true) :
    heeded g roll (a :: agenda) (x :: xs) = x :: heeded g (roll.after a.request) agenda xs := if_pos h

theorem heeded_of_not_concerns (h : a.request.concerns roll g = false) :
    heeded g roll (a :: agenda) (x :: xs) = heeded g roll agenda xs := by
  show (if _ then _ else _) = _
  rw [if_neg (by simp [h]), Roll.after_of_not_concerns h]

/-- Of two rows of appointments, the second is heeded with the roll as the
first has left it. -/
theorem heeded_append (h : xs.length = done.length) :
    heeded g roll (done ++ agenda) (xs ++ ys) =
      heeded g roll done xs ++ heeded g (roll.afterAll done) agenda ys := by
  induction done generalizing roll xs with
  | nil =>
    obtain rfl := List.length_eq_zero_iff.mp h
    rfl
  | cons a done ih =>
    obtain ⟨x, xs, rfl⟩ := List.exists_cons_of_length_eq_add_one h
    have hlength : xs.length = done.length := Nat.succ.inj h
    cases hc : a.request.concerns roll g with
    | true =>
      rw [List.cons_append, List.cons_append, heeded_of_concerns hc, heeded_of_concerns hc, ih hlength]
      rfl
    | false =>
      rw [List.cons_append, List.cons_append, heeded_of_not_concerns hc, heeded_of_not_concerns hc,
        ih hlength]
      show _ = _ ++ heeded g ((roll.after a.request).afterAll done) agenda ys
      rw [Roll.after_of_not_concerns hc]

/-- What is kept last is heeded if it concerns the group. -/
theorem heeded_append_singleton (h : xs.length = done.length) :
    heeded g roll (done ++ [a]) (xs ++ [x]) =
      heeded g roll done xs ++ if a.request.concerns (roll.afterAll done) g then [x] else [] := by
  rw [heeded_append h]
  rfl

/-- An appointment that concerns the group is kept when its time comes, or at
once if that has passed. -/
theorem concerning_of_concerns {now : Nat} (h : a.request.concerns roll g = true) :
    concerning g roll now (a :: agenda) =
      { a with time := max now a.time } :: concerning g (roll.after a.request) (max now a.time) agenda :=
  heeded_of_concerns h

/-- An appointment of others is left out, but the time it was kept at has
passed. -/
theorem concerning_of_not_concerns {now : Nat} (h : a.request.concerns roll g = false) :
    concerning g roll now (a :: agenda) = concerning g roll (max now a.time) agenda :=
  heeded_of_not_concerns h

/-- What has to wait until then is not done before. -/
theorem le_time_of_mem_concerning {now : Nat} (h : a ∈ concerning g roll now agenda) : now ≤ a.time := by
  induction agenda generalizing roll now with
  | nil => cases h
  | cons a' agenda ih =>
    cases hc : a'.request.concerns roll g with
    | true =>
      rw [concerning_of_concerns hc] at h
      rcases List.mem_cons.mp h with rfl | h
      · exact Nat.le_max_left _ _
      · exact Nat.le_trans (Nat.le_max_left _ _) (ih h)
    | false =>
      rw [concerning_of_not_concerns hc] at h
      exact Nat.le_trans (Nat.le_max_left _ _) (ih h)

/-- Nothing changes while the first appointment is waited for. -/
theorem concerning_of_wait {now later : Nat} (hl : now ≤ later) (ha : later ≤ a.time) :
    concerning g roll later (a :: agenda) = concerning g roll now (a :: agenda) := by
  have hsame : max later a.time = max now a.time := by omega
  unfold concerning due
  rw [hsame]

/-- What was left out has put nobody on the roll. -/
theorem afterAll_concerning (g : String) (roll : Roll) (now : Nat) (done : List Appointment) :
    roll.afterAll (concerning g roll now done) = roll.afterAll done := by
  induction done generalizing roll now with
  | nil => rfl
  | cons a done ih =>
    cases hc : a.request.concerns roll g with
    | true =>
      rw [concerning_of_concerns hc]
      exact ih (roll.after a.request) (max now a.time)
    | false =>
      rw [concerning_of_not_concerns hc, ih]
      show _ = (roll.after a.request).afterAll done
      rw [Roll.after_of_not_concerns hc]

/-- What goes with appointments that all concern the group is all heeded. -/
theorem heeded_concerning (now : Nat) (h : xs.length = done.length) :
    heeded g roll (concerning g roll now done) (heeded g roll done xs) = heeded g roll done xs := by
  induction done generalizing roll now xs with
  | nil => rfl
  | cons a done ih =>
    obtain ⟨x, xs, rfl⟩ := List.exists_cons_of_length_eq_add_one h
    have hlength : xs.length = done.length := Nat.succ.inj h
    cases hc : a.request.concerns roll g with
    | true =>
      rw [concerning_of_concerns hc, heeded_of_concerns hc]
      refine (heeded_of_concerns (a := { a with time := max now a.time }) hc).trans ?_
      rw [ih _ hlength]
    | false => rw [concerning_of_not_concerns hc, heeded_of_not_concerns hc, ih _ hlength]

/-- What concerns the group and has been kept comes first in what concerns
it. -/
theorem take_concerning (now : Nat) (h : xs.length = done.length) :
    (concerning g roll now (done ++ agenda)).take (heeded g roll done xs).length =
      concerning g roll now done := by
  induction done generalizing roll now xs with
  | nil => rfl
  | cons a done ih =>
    obtain ⟨x, xs, rfl⟩ := List.exists_cons_of_length_eq_add_one h
    have hlength : xs.length = done.length := Nat.succ.inj h
    rw [List.cons_append]
    cases hc : a.request.concerns roll g with
    | true =>
      rw [concerning_of_concerns hc, concerning_of_concerns hc, heeded_of_concerns hc,
        List.length_cons, List.take_succ_cons, ih _ hlength]
    | false =>
      rw [concerning_of_not_concerns hc, concerning_of_not_concerns hc, heeded_of_not_concerns hc,
        ih _ hlength]

end Heeded

namespace Cluster

/-! ## A step of watching -/

section Watch

variable {c : Cluster} {id : String} {deadline : Nat}

/-- Whoever finds something, or cannot look, does not wait. -/
theorem watch_of_ne (h : (c.broker.nextEvent id).result ≠ .ok none) :
    c.watch id deadline = ⟨(c.broker.nextEvent id).result.mapError .failure,
      { c with broker := (c.broker.nextEvent id).broker }, []⟩ := by
  rw [watch]
  cases hr : (c.broker.nextEvent id).result with
  | error f => rfl
  | ok event =>
    cases event with
    | some event => rfl
    | none => exact absurd hr h

/-- Whoever finds nothing when the time is over has waited in vain. -/
theorem watch_of_over (h : (c.broker.nextEvent id).result = .ok none) (ht : deadline ≤ c.now) :
    c.watch id deadline = ⟨.ok none, { c with broker := (c.broker.nextEvent id).broker }, []⟩ := by
  rw [watch]
  dsimp only
  rw [h]
  exact if_pos ht

/-- When nothing is to be done before the deadline, it is waited for. -/
theorem watch_of_quiet (h : (c.broker.nextEvent id).result = .ok none) (ht : ¬ deadline ≤ c.now)
    (ha : ∀ a ∈ c.agenda.head?, deadline ≤ a.time) :
    c.watch id deadline = ⟨.ok none, { c with
      broker := (c.broker.nextEvent id).broker
      now := max c.now deadline }, []⟩ := by
  rw [watch]
  dsimp only
  rw [h]
  dsimp only
  rw [if_neg ht]
  split
  · rfl
  · next a rest hagenda =>
    have := ha a (by rw [hagenda]; rfl)
    rw [if_neg (by omega)]

/-- Whoever finds nothing before an appointment looks again once that has been
kept. -/
theorem watch_of_keep (h : (c.broker.nextEvent id).result = .ok none) (ht : ¬ deadline ≤ c.now)
    {a : Appointment} {rest : List Appointment} (hagenda : c.agenda = a :: rest)
    (ha : a.time < deadline) :
    let k := ({ c with broker := (c.broker.nextEvent id).broker } : Cluster).keep a rest
    c.watch id deadline = (k.cluster.watch id deadline).after k.diary := by
  rw [watch]
  dsimp only
  rw [h]
  dsimp only
  rw [if_neg ht]
  split
  · next hnil => cases hagenda.symm.trans hnil
  · next hcons =>
    cases hagenda.symm.trans hcons
    exact if_pos ha

/-- Whoever has looked and found nothing may look again. -/
theorem watch_of_looked (hs : c.broker.Sound) (h : (c.broker.nextEvent id).result = .ok none) :
    c.watch id deadline =
      ({ c with broker := (c.broker.nextEvent id).broker } : Cluster).watch id deadline := by
  have hagain : (c.broker.nextEvent id).broker.nextEvent id =
      { result := .ok none, broker := (c.broker.nextEvent id).broker } :=
    (Broker.idle_nextEvent h).nextEvent (hs.perform (.member id .next))
  have hnone : ((c.broker.nextEvent id).broker.nextEvent id).result = .ok none := by rw [hagain]
  let looked : Cluster := { c with broker := (c.broker.nextEvent id).broker }
  show _ = looked.watch id deadline
  by_cases ht : deadline ≤ c.now
  · rw [watch_of_over h ht, watch_of_over (c := looked) hnone ht, hagain]
  by_cases ha : ∃ a rest, c.agenda = a :: rest ∧ a.time < deadline
  · obtain ⟨a, rest, hagenda, ha⟩ := ha
    rw [watch_of_keep h ht hagenda ha, watch_of_keep (c := looked) hnone ht hagenda ha, hagain]
  · have hquiet : ∀ a ∈ c.agenda.head?, deadline ≤ a.time := by
      intro a hhead
      by_contra hlt
      obtain ⟨rest, hagenda⟩ := List.head?_eq_some_iff.mp hhead
      exact ha ⟨a, rest, hagenda, by omega⟩
    rw [watch_of_quiet h ht hquiet, watch_of_quiet (c := looked) hnone ht hquiet, hagain]

end Watch

/-! ## Clusters abreast -/

/-- Nobody in the group can tell clusters apart whose brokers are twins. -/
theorem alike_of_twin {id : String} {roll : Roll} {S : Cluster → Cluster → Prop} (hid : (id, g) ∈ roll)
    (htwin : ∀ w p, S w p → Broker.Twin g roll w.broker p.broker)
    (hput : ∀ w p b b', S w p → Broker.Twin g roll b b' →
      S { w with broker := b } { p with broker := b' }) : Cluster.Alike id S := by
  have hact {α : Type} {f : Broker → Broker.Effect α} (r : MemberRequest)
      (hf : ∀ {b : Broker}, b.Owns g id → f (b.alone g) = (f b).alone g)
      (hr : ∀ b, (f b).broker = (b.performFor id r).broker) : Act.Respects S (onBroker f) := by
    intro w p h
    obtain ⟨hresult, hdiary, hbroker⟩ := (htwin w p h).effect hid hf hr
    exact ⟨congrArg (Except.mapError Fault.failure) hresult, hdiary, hput _ _ _ _ h hbroker⟩
  refine ⟨hact .next Broker.nextEvent_alone fun _ => rfl, ?_, ?_, ?_, ?_, ?_⟩
  · exact fun l => hact (.assign l) (fun h => Broker.assign_alone h l) fun _ => rfl
  · exact hact .unassign Broker.unassign_alone fun _ => rfl
  · intro offsets asynchronous
    exact hact (.commit offsets asynchronous) (fun h => Broker.commit_alone h offsets asynchronous)
      fun _ => rfl
  · exact hact .leave Broker.leave_alone fun _ => rfl
  · intro w p h
    have htwin := htwin w p h
    have hleft := Broker.assignmentOf_alone (htwin.left.owns hid)
    have hright := Broker.assignmentOf_alone (htwin.right.owns hid)
    rw [htwin.alone] at hleft
    exact ⟨congrArg (Except.mapError Fault.failure) (hleft.symm.trans hright), rfl, h⟩

/-- A part of an agenda has been kept, and the rest is still on it. -/
structure HasKept (agenda done : List Appointment) (w : Cluster) : Prop where
  agenda : agenda = done ++ w.agenda
  counted : w.kept.length = done.length

/-- Two clusters, of which the one has kept what was on the agenda and the
other what of that concerns the group. The other may be behind. -/
structure Abreast (g : String) (roll : Roll) (agenda done : List Appointment) (w p : Cluster) : Prop
    extends HasKept agenda done w where
  twin : Broker.Twin g (roll.afterAll done) w.broker p.broker
  ahead : p.agenda = concerning g (roll.afterAll done) w.now w.agenda
  kept : p.kept = heeded g roll done w.kept
  behind : p.now ≤ w.now

variable {roll : Roll} {agenda done : List Appointment} {w p : Cluster} {id : String}
  {deadline : Nat}

/-- What has been kept comes first on the agenda. -/
theorem HasKept.take_eq (h : HasKept agenda done w) : agenda.take w.kept.length = done := by
  rw [h.agenda, h.counted, List.take_left]

/-- One more appointment has been kept. -/
theorem HasKept.keep (h : HasKept agenda done w) {a : Appointment} {rest : List Appointment}
    (hagenda : w.agenda = a :: rest) : HasKept agenda (done ++ [a]) (w.keep a rest).cluster where
  agenda := by
    rw [h.agenda, hagenda, List.append_assoc]
    rfl
  counted := by
    show (w.kept ++ [_]).length = _
    rw [List.length_append, List.length_append, h.counted]
    rfl

namespace Abreast

/-- Clusters stay abreast when their brokers become other twins. -/
theorem put (h : Abreast g roll agenda done w p) {b b' : Broker}
    (hb : Broker.Twin g (roll.afterAll done) b b') :
    Abreast g roll agenda done { w with broker := b } { p with broker := b' } :=
  ⟨⟨h.agenda, h.counted⟩, hb, h.ahead, h.kept, h.behind⟩

/-- What does not concern the group is kept in one of the clusters. -/
theorem keep_aside (h : Abreast g roll agenda done w p) {a : Appointment} {rest : List Appointment}
    (hagenda : w.agenda = a :: rest) (ha : a.request.concerns (roll.afterAll done) g = false) :
    Abreast g roll agenda (done ++ [a]) (w.keep a rest).cluster p := by
  have hroll : roll.afterAll (done ++ [a]) = roll.afterAll done :=
    (roll.afterAll_append done [a]).trans (Roll.after_of_not_concerns ha)
  refine ⟨h.toHasKept.keep hagenda, ?_, ?_, ?_, ?_⟩
  · rw [hroll]
    exact h.twin.aside ha
  · rw [hroll, h.ahead, hagenda, concerning_of_not_concerns ha]
    rfl
  · show p.kept = heeded g roll (done ++ [a]) (w.kept ++ [_])
    rw [heeded_append_singleton h.counted, if_neg (by simp [ha]), List.append_nil, h.kept]
  · exact Nat.le_trans h.behind (Nat.le_max_left _ _)

/-- What concerns the group is kept in both, at the same time. -/
theorem keep (h : Abreast g roll agenda done w p) {a : Appointment} {rest : List Appointment}
    (hagenda : w.agenda = a :: rest) (ha : a.request.concerns (roll.afterAll done) g = true) :
    ∃ a' rest', p.agenda = a' :: rest' ∧ a'.time = max w.now a.time ∧
      Abreast g roll agenda (done ++ [a]) (w.keep a rest).cluster (p.keep a' rest').cluster ∧
      (p.keep a' rest').cluster.now = (w.keep a rest).cluster.now := by
  have hroll : roll.afterAll (done ++ [a]) = (roll.afterAll done).after a.request :=
    roll.afterAll_append done [a]
  obtain ⟨hresult, htwin⟩ := h.twin.perform ha
  have hnow : max p.now (max w.now a.time) = max w.now a.time := by
    have := h.behind
    omega
  refine ⟨{ a with time := max w.now a.time },
    concerning g ((roll.afterAll done).after a.request) (max w.now a.time) rest, ?_, rfl,
    ⟨h.toHasKept.keep hagenda, ?_, ?_, ?_, ?_⟩, hnow⟩
  · rw [h.ahead, hagenda, concerning_of_concerns ha]
  · rw [hroll]
    exact htwin
  · rw [hroll]
    rfl
  · show p.kept ++ [_] = heeded g roll (done ++ [a]) (w.kept ++ [_])
    rw [heeded_append_singleton h.counted, if_pos ha, h.kept]
    exact congrArg (_ ++ [·]) hresult.symm
  · exact Nat.le_of_eq hnow

/-- Both wait until nothing more is to be done in time. -/
theorem pass (h : Abreast g roll agenda done w p) (ht : ¬ deadline ≤ w.now)
    (ha : ∀ a ∈ w.agenda.head?, deadline ≤ a.time) :
    Abreast g roll agenda done { w with now := max w.now deadline } { p with now := max p.now deadline } ∧
      max p.now deadline = max w.now deadline ∧ ∀ a ∈ p.agenda.head?, deadline ≤ a.time := by
  have hnow : max p.now deadline = max w.now deadline := by
    have := h.behind
    omega
  have hsame : concerning g (roll.afterAll done) (max w.now deadline) w.agenda =
      concerning g (roll.afterAll done) w.now w.agenda := by
    cases hagenda : w.agenda with
    | nil => rfl
    | cons a rest =>
      have hdeadline : deadline ≤ a.time := ha a (by rw [hagenda]; rfl)
      exact concerning_of_wait (Nat.le_max_left _ _) (by omega)
  have hahead := h.ahead.trans hsame.symm
  refine ⟨⟨⟨h.agenda, h.counted⟩, h.twin, hahead, h.kept, Nat.le_of_eq hnow⟩, hnow, fun a hmem => ?_⟩
  have hmem := List.mem_of_mem_head? hmem
  rw [hahead] at hmem
  exact Nat.le_trans (Nat.le_max_right _ _) (le_time_of_mem_concerning hmem)

/-- Both look, and find the same. -/
theorem look (h : Abreast g roll agenda done w p) (hid : (id, g) ∈ roll) :
    (p.broker.nextEvent id).result = (w.broker.nextEvent id).result ∧
      Abreast g roll agenda done { w with broker := (w.broker.nextEvent id).broker }
        { p with broker := (p.broker.nextEvent id).broker } := by
  obtain ⟨hresult, _, htwin⟩ := h.twin.effect (f := (·.nextEvent id)) (r := .next)
    (roll.subset_afterAll done hid) Broker.nextEvent_alone fun _ => rfl
  exact ⟨hresult.symm, h.put htwin⟩

/-- Whoever watches is brought the same at the same time, also if the one
who is behind has found nothing and is yet to catch up. -/
theorem watch (hid : (id, g) ∈ roll) (deadline : Nat) (w : Cluster) : ∀ done p,
    Abreast g roll agenda done w p → (p.now = w.now ∨ p.broker.Idle id ∧ w.now < deadline) →
      (p.watch id deadline).result = (w.watch id deadline).result ∧
      (p.watch id deadline).state.now = (w.watch id deadline).state.now ∧
      ∃ done', Abreast g roll agenda done' (w.watch id deadline).state
        (p.watch id deadline).state := by
  have hcaught (p w : Cluster) (hnow : p.now = w.now ∨ p.broker.Idle id ∧ w.now < deadline)
      (hs : p.broker.Sound) (hne : (p.broker.nextEvent id).result ≠ .ok none) : p.now = w.now := by
    refine hnow.resolve_right fun hidle => hne ?_
    rw [hidle.1.nextEvent hs]
  fun_induction Cluster.watch id deadline w with
  | case1 c e c' f he =>
    intro done p h hnow
    obtain ⟨hfound, hlooked⟩ := h.look hid
    rw [he] at hfound
    have hne : (p.broker.nextEvent id).result ≠ .ok none := by
      rw [hfound]
      rintro ⟨⟩
    rw [watch_of_ne hne, hfound]
    exact ⟨rfl, hcaught p c hnow h.twin.right.sound hne, done, hlooked⟩
  | case2 c e c' event he =>
    intro done p h hnow
    obtain ⟨hfound, hlooked⟩ := h.look hid
    rw [he] at hfound
    have hne : (p.broker.nextEvent id).result ≠ .ok none := by
      rw [hfound]
      rintro ⟨⟩
    rw [watch_of_ne hne, hfound]
    exact ⟨rfl, hcaught p c hnow h.twin.right.sound hne, done, hlooked⟩
  | case3 c e c' he ht =>
    intro done p h hnow
    obtain ⟨hfound, hlooked⟩ := h.look hid
    have hnow : p.now = c.now := hnow.resolve_right fun hidle => by omega
    rw [watch_of_over (hfound.trans he) (hnow ▸ ht)]
    exact ⟨rfl, hnow, done, hlooked⟩
  | case4 c e c' he ht hagenda =>
    intro done p h hnow
    obtain ⟨hfound, hlooked⟩ := h.look hid
    have hbehind := h.behind
    obtain ⟨hpassed, hnow, hquiet⟩ := hlooked.pass ht (by rw [hagenda]; rintro _ ⟨⟩)
    rw [watch_of_quiet (hfound.trans he) (by omega) hquiet]
    exact ⟨rfl, hnow, done, hpassed⟩
  | case5 c e c' he ht a rest hagenda ha ih =>
    intro done p h hnow
    obtain ⟨hfound, hlooked⟩ := h.look hid
    have hnone := hfound.trans he
    have hbehind := h.behind
    cases hc : a.request.concerns (roll.afterAll done) g with
    | true =>
      obtain ⟨a', rest', hagenda', htime, hkept, hnow⟩ := hlooked.keep hagenda hc
      have ha' : a'.time < deadline := by
        rw [htime]
        exact Nat.max_lt.mpr ⟨Nat.lt_of_not_le ht, ha⟩
      rw [watch_of_keep hnone (by omega) hagenda' ha']
      exact ih _ _ hkept (.inl hnow)
    | false =>
      have hkept := hlooked.keep_aside hagenda hc
      rw [watch_of_looked h.twin.right.sound hnone]
      exact ih _ _ hkept (.inr ⟨Broker.idle_nextEvent hnone, Nat.max_lt.mpr ⟨Nat.lt_of_not_le ht, ha⟩⟩)
  | case6 c e c' he ht a rest hagenda ha =>
    intro done p h hnow
    obtain ⟨hfound, hlooked⟩ := h.look hid
    have hbehind := h.behind
    obtain ⟨hpassed, hnow, hquiet⟩ := hlooked.pass ht (by
      rw [hagenda]
      rintro _ ⟨⟩
      omega)
    rw [watch_of_quiet (hfound.trans he) (by omega) hquiet]
    exact ⟨rfl, hnow, done, hpassed⟩

/-- Whoever waits is brought the same, at the same time. -/
theorem await (h : Abreast g roll agenda done w p) (hid : (id, g) ∈ roll) (hnow : p.now = w.now)
    (deadline : Nat) :
    (p.await id deadline).result = (w.await id deadline).result ∧
      (p.await id deadline).state.now = (w.await id deadline).state.now ∧
      ∃ done', Abreast g roll agenda done' (w.await id deadline).state (p.await id deadline).state := by
  rw [await_eq_watch h.twin.left.sound h.twin.left.grounded,
    await_eq_watch h.twin.right.sound h.twin.right.grounded]
  exact watch hid deadline w done p h (.inl hnow)

end Abreast

end Cluster

end ConsumerGroup
