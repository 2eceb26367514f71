import ConsumerGroup.Proofs.Consumer.Undone
import ConsumerGroup.Proofs.Hall.Run

/-!
# Halls that are the same to a group

Two halls are alike to a group if the same have joined, their brokers are
twins for the group, and its members have the same consumers
(`Hall.Alike`). About everybody else they may differ in any way.

What concerns the group comes to the same in both and leaves halls alike
(`Hall.Alike.move`). For a poll that means more than for the rest: while a
member waits, others keep their appointments in the one hall, and in the
other only what was kept and concerns the group is on the agenda.

The two halls are compared move by move. Where a poll waits, what is on the
agenda and was not kept is first taken off it, since it makes no difference
(`Hall.move_polled_done`).
-/

namespace ConsumerGroup

namespace Hall

variable {s p : Hall} {g id : String} {c : Consumer Seat}

/-! ## Halls that are alike to a group -/

/-- A consumer that was put there is found, and the others are found as
before. -/
theorem consumer?_put (s : Hall) (c : Consumer Seat) (id : String) :
    (s.put c).consumer? id = if c.transport.member = id then some c else s.consumer? id := by
  unfold consumer? put
  rw [List.find?_cons]
  by_cases h : c.transport.member = id
  · simp [h]
  · rw [if_neg h, beq_eq_false_iff_ne.mpr h]

theorem member_of_consumer? (h : s.consumer? id = some c) : c.transport.member = id := by
  simpa using List.find?_some h

/-- Two halls with the same roll that are the same to a group: with twin
brokers, and the same consumers of its members. Every consumer is that of
somebody who has joined. -/
structure Alike (g : String) (s p : Hall) : Prop where
  roll : p.roll = s.roll
  twin : Broker.Twin g s.roll s.broker p.broker
  consumers : ∀ id, (id, g) ∈ s.roll → p.consumer? id = s.consumer? id
  left : ∀ c ∈ s.consumers, c.transport.member ∈ s.roll.map (·.1)
  right : ∀ c ∈ p.consumers, c.transport.member ∈ s.roll.map (·.1)

/-- An empty hall is like itself. -/
theorem alike_empty (g : String) (patterns : PatternReader) :
    Alike g { broker := { patterns } } { broker := { patterns } } where
  roll := rfl
  twin := Broker.twin_empty g patterns
  consumers _ _ := rfl
  left _ h := absurd h List.not_mem_nil
  right _ h := absurd h List.not_mem_nil

namespace Alike

/-- Other twins, and whoever has joined since. -/
theorem grow (h : Alike g s p) {roll : Roll} (hroll : s.roll ⊆ roll) {b b' : Broker}
    (htwin : Broker.Twin g roll b b') :
    Alike g { s with broker := b, roll } { p with broker := b', roll } := by
  have hkeys : s.roll.map (·.1) ⊆ roll.map (·.1) := List.map_subset _ hroll
  refine ⟨rfl, htwin, fun id hid => ?_, fun c hc => hkeys (h.left c hc), fun c hc => hkeys (h.right c hc)⟩
  show p.consumer? id = s.consumer? id
  by_cases hthere : id ∈ s.roll.map (·.1)
  · exact h.consumers id (htwin.left.mem_of_subset hroll hthere hid)
  · -- nobody has a consumer before joining
    have hnone {t : Hall} (ht : ∀ c ∈ t.consumers, c.transport.member ∈ s.roll.map (·.1)) :
        t.consumer? id = none := by
      refine List.find?_eq_none.mpr fun c hc hmember => hthere ?_
      exact beq_iff_eq.mp hmember ▸ ht c hc
    rw [hnone h.left, hnone h.right]

theorem brokers (h : Alike g s p) {b b' : Broker} (htwin : Broker.Twin g s.roll b b') :
    Alike g { s with broker := b } { p with broker := b' } :=
  ⟨h.roll, htwin, h.consumers, h.left, h.right⟩

/-- Halls stay alike when the same consumer is put in both. -/
theorem put (h : Alike g s p) (hc : c.transport.member ∈ s.roll.map (·.1)) :
    Alike g (s.put c) (p.put c) := by
  refine ⟨h.roll, h.twin, fun id hid => ?_, ?_, ?_⟩
  · rw [consumer?_put, consumer?_put, h.consumers id hid]
  · exact List.forall_mem_cons.mpr ⟨hc, h.left⟩
  · exact List.forall_mem_cons.mpr ⟨hc, h.right⟩

/-- The consumer of another group is nothing to this. -/
theorem put_aside (h : Alike g s p) (hc : c.transport.member ∈ s.roll.map (·.1))
    (hg : (c.transport.member, g) ∉ s.roll) : Alike g (s.put c) p := by
  refine ⟨h.roll, h.twin, fun id hid => ?_, List.forall_mem_cons.mpr ⟨hc, h.left⟩, h.right⟩
  rw [consumer?_put, if_neg, h.consumers id hid]
  rintro rfl
  exact hg hid

/-- Whoever has a consumer has joined. -/
theorem member (h : Alike g s p) (hc : s.consumer? id = some c) : id ∈ s.roll.map (·.1) :=
  member_of_consumer? hc ▸ h.left c (List.mem_of_find?_eq_some hc)

end Alike

end Hall

/-- Two upshots that are the same to a group. -/
structure Upshot.Alike (g : String) (roll : Roll) (u v : Upshot) : Prop where
  report : v.report? = u.report?
  heard : heeded g roll v.done v.kept = heeded g roll u.done u.kept
  hall : Hall.Alike g u.hall v.hall

namespace Hall

variable {s p : Hall} {g id : String} {c : Consumer Seat}

/-- Nothing was done meanwhile. -/
theorem upshot_alike {t t' : Hall} {report? : Option Report} {roll : Roll} (h : Alike g t t') :
    Upshot.Alike g roll { hall := t, report? } { hall := t', report? } := ⟨rfl, rfl, h⟩

/-- To wait comes to the same in clusters abreast. -/
theorem Alike.waited (h : Alike g s p) {agenda done : List Appointment} {w w' : Cluster}
    (hw : Cluster.Abreast g s.roll agenda done w w') (hnow : w'.now = w.now) (report : Report) :
    Upshot.Alike g s.roll (s.waited agenda w report)
      (p.waited (concerning g s.roll 0 agenda) w' report) := by
  have hdone := hw.toHasKept.take_eq
  have hdone' : (concerning g s.roll 0 agenda).take w'.kept.length = concerning g s.roll 0 done := by
    rw [hw.agenda, hw.kept, take_concerning 0 hw.counted]
  unfold Hall.waited
  rw [hdone, hdone', hnow, h.roll, afterAll_concerning]
  refine ⟨rfl, ?_, h.grow (s.roll.subset_afterAll done) hw.twin⟩
  dsimp only
  rw [hw.kept, heeded_concerning 0 hw.counted]

/-- What concerns everybody or a member of the group, asked of both. -/
theorem Alike.asked (h : Alike g s p) {r : Request} (hr : r.concerns s.roll g = true) :
    Upshot.Alike g s.roll (s.move (.asked r)) (p.move (.asked r)) := by
  obtain ⟨hresult, htwin⟩ := h.twin.perform hr
  unfold move
  dsimp only
  rw [h.roll, hresult]
  exact upshot_alike (h.grow (s.roll.subset_after r) htwin)

/-- Nobody in the group does anything else in the one hall than in the
other. -/
theorem Alike.did (h : Alike g s p) (hid : (id, g) ∈ s.roll) (d : Deed) :
    Upshot.Alike g s.roll (s.move (.did id d)) (p.move (.did id d)) := by
  unfold move
  dsimp only
  rw [h.consumers id hid]
  cases hc : s.consumer? id with
  | none => exact upshot_alike h
  | some c =>
    have hmember := member_of_consumer? hc
    have halike : Cluster.Alike id fun w w' => Broker.Twin g s.roll w.broker w'.broker :=
      Cluster.alike_of_twin hid (fun _ _ h => h) fun _ _ _ _ _ h => h
    obtain ⟨hresult, hjournal, hconsumer, hmember', htwin⟩ :=
      halike.deed d (c, { broker := s.broker }) (c, { broker := p.broker }) ⟨rfl, hmember, h.twin⟩
    dsimp only
    rw [hresult, hjournal, ← hconsumer]
    refine upshot_alike ((h.brokers htwin).put ?_)
    rw [hmember']
    exact h.member hc

/-- A consumer that is made anywhere is made in both. -/
theorem Alike.made (h : Alike g s p) (configuration : Configuration) :
    Upshot.Alike g s.roll (s.move (.made configuration)) (p.move (.made configuration)) := by
  unfold move
  dsimp only
  cases hgroup : configuration.group? with
  | none =>
    rw [Tenure.create_of_none hgroup, Tenure.create_of_none hgroup]
    exact upshot_alike h
  | some group =>
    obtain ⟨hresult, hstate⟩ := Tenure.create_of_some hgroup { broker := s.broker }
    obtain ⟨hresult', hstate'⟩ := Tenure.create_of_some hgroup { broker := p.broker }
    have hjoined : (p.broker.connect configuration).result = (s.broker.connect configuration).result := by
      rw [(Broker.connect_alone s.broker g configuration).1,
        (Broker.connect_alone p.broker g configuration).1, h.twin.alone]
    obtain ⟨_, htwin⟩ := h.twin.perform (r := .connect configuration) rfl
    have hgrown := h.grow (s.roll.subset_after (.connect configuration)) htwin
    rw [hresult, hresult', hstate, hstate', hjoined, h.roll]
    dsimp only [Option.isSome_some, if_true]
    refine upshot_alike ?_
    cases hr : (s.broker.connect configuration).result with
    | error f => exact hgrown
    | ok member =>
      refine hgrown.put ?_
      obtain ⟨options, hm⟩ := Tenure.member?_connected h.twin.left.sound hr
      have hentered := htwin.left.members _ (List.mem_of_find?_eq_some hm)
      exact List.mem_map_of_mem (f := Prod.fst) hentered

/-- Whoever has polled and could not tell the clusters apart leaves the same
in both. -/
theorem Alike.polledTo (h : Alike g s p) {agenda : List Appointment}
    {o o' : Outcome Entry (Consumer Seat × Cluster) Message}
    (ho : Consumer.Abreast g s.roll agenda o o') :
    Upshot.Alike g s.roll (s.polled agenda o) (p.polled (concerning g s.roll 0 agenda) o') := by
  obtain ⟨hresult, hcalls, hseat, hconsumer, hnow, done, hclusters⟩ := ho
  have hput := h.put (List.mem_map_of_mem (f := Prod.fst) hseat)
  unfold Hall.polled
  rw [← hconsumer, ← hresult, ← hcalls]
  exact hput.waited hclusters hnow _

/-- A member of the group waits for the same in both, though others do more
in the one meanwhile. -/
theorem Alike.polled (h : Alike g s p) (hid : (id, g) ∈ s.roll) (timeout : Nat)
    (agenda : List Appointment) :
    Upshot.Alike g s.roll (s.move (.polled id timeout agenda))
      (p.move (.polled id timeout (concerning g s.roll 0 agenda))) := by
  have hstart : Cluster.Abreast g s.roll agenda [] { broker := s.broker, agenda }
      { broker := p.broker, agenda := concerning g s.roll 0 agenda } :=
    ⟨⟨rfl, rfl⟩, h.twin, rfl, rfl, Nat.le_refl _⟩
  unfold move
  dsimp only
  rw [h.consumers id hid]
  cases hc : s.consumer? id with
  | none =>
    obtain ⟨hresult, hnow, done, hclusters⟩ := hstart.await hid rfl timeout
    dsimp only [awaited]
    rw [hresult]
    exact h.waited hclusters hnow _
  | some c =>
    exact h.polledTo (Consumer.abreast_pollUntil _ _ _
      ⟨member_of_consumer? hc ▸ hid, rfl, rfl, [], hstart⟩)

/-! ## What was not kept -/

/-- What comes of having waited does not depend on what was not kept. -/
theorem waited_busier {agenda rest : List Appointment} {w v : Cluster} (h : w = v.busier rest)
    (s : Hall) (report : Report) :
    s.waited agenda w report = s.waited (agenda.take w.kept.length) v report := by
  subst h
  have hkept : (v.busier rest).kept = v.kept := rfl
  unfold Hall.waited
  rw [hkept, List.take_take, Nat.min_self]
  rfl

theorem polled_busier {agenda rest : List Appointment}
    {o o' : Outcome Entry (Consumer Seat × Cluster) Message}
    (h : o'.Alike (fun x y => y = (x.1, x.2.busier rest)) o) (s : Hall) :
    s.polled (agenda.take o.state.2.kept.length) o' = s.polled agenda o := by
  obtain ⟨hresult, hjournal, hstate⟩ := h
  obtain ⟨hconsumer, hcluster⟩ := Prod.ext_iff.mp hstate
  unfold Hall.polled
  rw [waited_busier hcluster, hconsumer, hresult, hjournal]

/-- To wait comes to the same with only that on the agenda which was kept. -/
theorem awaited_done (hs : s.broker.Sound) (hg : s.broker.Grounded) (agenda : List Appointment)
    (timeout : Nat) :
    let o := ({ broker := s.broker, agenda } : Cluster).await id timeout
    let done := agenda.take o.state.kept.length
    s.awaited done (({ broker := s.broker, agenda := done } : Cluster).await id timeout) =
      s.awaited agenda o := by
  intro o done
  have hbusier : { broker := s.broker, agenda } =
      ({ broker := s.broker, agenda := done } : Cluster).busier o.state.agenda :=
    ((Cluster.Since.upheld id _).await timeout (.refl hs hg)).eq_busier
  have halike := Cluster.alike_await_busier id timeout o.state.agenda
    (w := { broker := s.broker, agenda := done }) hs hg (by rw [← hbusier])
  rw [← hbusier] at halike
  obtain ⟨hresult, -, hstate⟩ := halike
  unfold awaited
  rw [waited_busier hstate, hresult]

/-- And so does a poll. -/
theorem polled_done (hs : s.broker.Sound) (hg : s.broker.Grounded) (agenda : List Appointment)
    (c : Consumer Seat) (timeout : Nat) :
    let o := Consumer.pollFor timeout (c, ({ broker := s.broker, agenda } : Cluster))
    let done := agenda.take o.state.2.kept.length
    s.polled done (Consumer.pollFor timeout (c, ({ broker := s.broker, agenda := done } : Cluster))) =
      s.polled agenda o := by
  intro o done
  have hbusier : { broker := s.broker, agenda } =
      ({ broker := s.broker, agenda := done } : Cluster).busier o.state.2.agenda :=
    ((Cluster.Since.upheld c.transport.member _).pollUntil (0 + timeout)
      (c, { broker := s.broker, agenda }) rfl (.refl hs hg)).2.eq_busier
  have halike := Consumer.alike_pollUntil_busier (0 + timeout) o.state.2.agenda
    (c, { broker := s.broker, agenda := done }) hs hg
  dsimp only at halike
  rw [← hbusier] at halike
  exact polled_busier (halike (Nat.le_refl _)) s

/-- A poll comes to the same with only that on the agenda which was kept. -/
theorem move_polled_done (hs : s.broker.Sound) (hg : s.broker.Grounded) (timeout : Nat)
    (agenda : List Appointment) :
    s.move (.polled id timeout (s.move (.polled id timeout agenda)).done) =
      s.move (.polled id timeout agenda) := by
  unfold Hall.move
  dsimp only
  cases hc : s.consumer? id with
  | none => exact awaited_done hs hg agenda timeout
  | some c => exact polled_done hs hg agenda c timeout

/-- What concerns the group comes to the same in both, whatever else others
do in the one meanwhile. -/
theorem Alike.move (h : Alike g s p) {m : Move} (hm : m.concerns s.roll g = true) :
    Upshot.Alike g s.roll (s.move m) (p.move (m.heeding s.roll g (s.move m).done)) := by
  cases m with
  | asked r => exact h.asked hm
  | made configuration => exact h.made configuration
  | equipped id onAssign onRevoke onTrouble =>
    unfold Hall.move Move.heeding
    dsimp only
    rw [h.consumers id (List.contains_iff_mem.mp hm)]
    cases hc : s.consumer? id with
    | none => exact upshot_alike h
    | some c => exact upshot_alike (h.put (h.left c (List.mem_of_find?_eq_some hc)))
  | did id d => exact h.did (List.contains_iff_mem.mp hm) d
  | polled id timeout agenda =>
    have hdone := h.polled (List.contains_iff_mem.mp hm) timeout (s.move (.polled id timeout agenda)).done
    rwa [move_polled_done h.twin.left.sound h.twin.left.grounded] at hdone

end Hall

end ConsumerGroup
