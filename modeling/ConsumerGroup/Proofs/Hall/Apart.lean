import ConsumerGroup.Proofs.Hall.Alike

/-!
# Groups apart

What does not concern a group is to the group as if it had not been done
(`Hall.Alike.aside`). If it is a poll of somebody else, what is done
meanwhile that concerns the group might as well be asked for in turn: at
every instant of that poll the hall is alike to the one where nothing else
has been done (`Hall.Follows`).

So what is left of a run for a group tells it what the run tells it
(`Hall.Alike.reportsAll_purge`), and groups do not influence each other
(`Hall.reportsAll_of_purge_eq`).

Everything that a group is told is compared, with the time it took, so it is
not only kept from harm but cannot tell that there are others. What others
are told may well depend on the group's topics and records.
-/

namespace ConsumerGroup

namespace Hall

variable {s p : Hall} {g id : String} {c : Consumer Seat}

/-! ## What does not concern the group -/

/-- What is asked for by the appointments that concern the group. -/
def heededRequests (g : String) (roll : Roll) (done : List Appointment) : List Move :=
  (heeded g roll done (done.map (·.request))).map .asked

/-- While somebody else waits in the one hall, what is done there that
concerns the group is asked for in the other. -/
structure Follows (g : String) (s p : Hall) (agenda done : List Appointment) (w : Cluster) : Prop
    extends Cluster.HasKept agenda done w where
  hall : Alike g { s with broker := w.broker, roll := s.roll.afterAll done }
    (p.afterAll (heededRequests g s.roll done))
  reports : reportsAll g p (heededRequests g s.roll done) =
    (heeded g s.roll done w.kept).map .ofAnswer

theorem heededRequests_append_singleton (roll : Roll) (done : List Appointment) (a : Appointment) :
    heededRequests g roll (done ++ [a]) = heededRequests g roll done ++
      if a.request.concerns (roll.afterAll done) g then [.asked a.request] else [] := by
  unfold heededRequests
  rw [List.map_append]
  show (heeded g roll (done ++ [a]) (done.map (·.request) ++ [a.request])).map _ = _
  rw [heeded_append_singleton (List.length_map _), List.map_append]
  split <;> rfl

/-- What concerns the group is answered as in the other hall. -/
theorem Alike.reportsAll_asked (h : Alike g s p) {r : Request} (hr : r.concerns s.roll g = true) :
    reportsAll g p [.asked r] = [.ofAnswer (s.broker.perform r).result] := by
  have hconcerns : (Move.asked r).concerns p.roll g = true := by
    rw [h.roll]
    exact hr
  show (_ ++ if _ then _ else _) ++ [] = _
  rw [if_pos hconcerns, (h.asked hr).report]
  rfl

namespace Follows

variable {agenda done : List Appointment} {w : Cluster}

/-- What is no concern of the group is done in the one hall. -/
theorem aside (h : Follows g s p agenda done w) {b : Broker}
    (hb : Broker.Twin g (s.roll.afterAll done) b (p.afterAll (heededRequests g s.roll done)).broker) :
    Follows g s p agenda done { w with broker := b } :=
  ⟨⟨h.agenda, h.counted⟩, h.hall.brokers hb, h.reports⟩

/-- Whoever follows keeps up with one appointment more. -/
theorem keep (h : Follows g s p agenda done w) {a : Appointment} {rest : List Appointment}
    (hagenda : w.agenda = a :: rest) : Follows g s p agenda (done ++ [a]) (w.keep a rest).cluster := by
  have hroll : s.roll.afterAll (done ++ [a]) = (s.roll.afterAll done).after a.request :=
    s.roll.afterAll_append done [a]
  have hkept : heeded g s.roll (done ++ [a]) (w.kept ++ [(w.broker.perform a.request).result]) = _ :=
    heeded_append_singleton h.counted
  have hmoves := heededRequests_append_singleton (g := g) s.roll done a
  cases hc : a.request.concerns (s.roll.afterAll done) g with
  | true =>
    rw [if_pos hc] at hkept hmoves
    refine ⟨h.toHasKept.keep hagenda, ?_, ?_⟩
    · rw [hmoves, hroll, afterAll_append]
      exact (h.hall.asked hc).hall
    · show _ = (heeded g s.roll (done ++ [a]) (w.kept ++ [_])).map _
      rw [hmoves, hkept, reportsAll_append, h.reports, h.hall.reportsAll_asked hc, List.map_append]
      rfl
  | false =>
    rw [if_neg (by simp [hc]), List.append_nil] at hkept hmoves
    rw [Roll.after_of_not_concerns hc] at hroll
    refine ⟨h.toHasKept.keep hagenda, ?_, ?_⟩
    · rw [hmoves, hroll]
      exact h.hall.brokers (h.hall.twin.aside hc)
    · show _ = (heeded g s.roll (done ++ [a]) (w.kept ++ [_])).map _
      rw [hmoves, hkept, h.reports]

/-- So it is through whatever somebody else does who has joined. -/
theorem upheld (hthere : id ∈ s.roll.map (·.1)) (hid : (id, g) ∉ s.roll) :
    Cluster.Upheld id fun w => ∃ done, Follows g s p agenda done w where
  mine := by
    rintro w r ⟨done, h⟩
    have haside : (Request.member id r).concerns (s.roll.afterAll done) g = false := by
      refine Bool.eq_false_iff.mpr fun hc => hid ?_
      exact h.hall.twin.left.mem_of_subset (s.roll.subset_afterAll done) hthere
        (List.contains_iff_mem.mp hc)
    exact ⟨done, h.aside (h.hall.twin.aside haside)⟩
  keep := by
    rintro w a rest hagenda ⟨done, h⟩
    exact ⟨done ++ [a], h.keep hagenda⟩
  pass := by
    rintro w now ⟨done, h⟩
    exact ⟨done, ⟨h.agenda, h.counted⟩, h.hall, h.reports⟩
  sound := fun w ⟨_, h⟩ => h.hall.twin.left.sound
  grounded := fun w ⟨_, h⟩ => h.hall.twin.left.grounded

end Follows

end Hall

/-- An upshot that is to a group as if only that had been asked for, in the
other hall, which concerns the group. -/
structure Upshot.Aside (g : String) (s p : Hall) (u : Upshot) : Prop where
  hall : Hall.Alike g u.hall (p.afterAll (Hall.heededRequests g s.roll u.done))
  reports : Hall.reportsAll g p (Hall.heededRequests g s.roll u.done) =
    (heeded g s.roll u.done u.kept).map .ofAnswer

namespace Hall

variable {s p : Hall} {g id : String} {c : Consumer Seat} {m : Move}

theorem Follows.start (h : Alike g s p) (agenda : List Appointment) :
    Follows g s p agenda [] { broker := s.broker, agenda } := ⟨⟨rfl, rfl⟩, h, rfl⟩

/-- Somebody else has waited. -/
theorem Follows.waited {agenda done : List Appointment} {w : Cluster}
    (h : Follows g s p agenda done w) (report : Report) :
    Upshot.Aside g s p (s.waited agenda w report) := by
  unfold Hall.waited
  rw [h.toHasKept.take_eq]
  exact ⟨h.hall, h.reports⟩

/-- A consumer of another group has waited. -/
theorem Follows.polled {agenda done : List Appointment}
    {o : Outcome Entry (Consumer Seat × Cluster) Message} (h : Follows g s p agenda done o.state.2)
    (hthere : o.state.1.transport.member ∈ s.roll.map (·.1))
    (hg : (o.state.1.transport.member, g) ∉ s.roll) : Upshot.Aside g s p (s.polled agenda o) := by
  have hsub := s.roll.subset_afterAll done
  unfold Hall.polled Hall.waited
  rw [h.toHasKept.take_eq]
  refine ⟨h.hall.put_aside (List.map_subset _ hsub hthere) fun hid => hg ?_, h.reports⟩
  exact h.hall.twin.left.mem_of_subset hsub hthere hid

/-- Nothing that concerns the group was done meanwhile. -/
theorem aside_of_alike {t : Hall} {report? : Option Report} (h : Alike g t p) :
    Upshot.Aside g s p { hall := t, report? } := ⟨h, rfl⟩

/-- The consumer of another group does something. -/
theorem Alike.did_aside (h : Alike g s p) (hid : (id, g) ∉ s.roll) (d : Deed) :
    Upshot.Aside g s p (s.move (.did id d)) := by
  unfold Hall.move
  dsimp only
  cases hc : s.consumer? id with
  | none => exact aside_of_alike h
  | some c =>
    have hthere := h.member hc
    obtain ⟨hmember, done, hfollows⟩ := (Follows.upheld hthere hid).deed d
      (x := (c, { broker := s.broker })) (member_of_consumer? hc) ⟨[], Follows.start h []⟩
    obtain ⟨rfl, -⟩ := List.append_eq_nil_iff.mp hfollows.agenda.symm
    rw [← hmember] at hthere hid
    exact aside_of_alike (hfollows.hall.put_aside hthere hid)

/-- Somebody else waits, and what is done meanwhile that concerns the group
might as well be asked for in turn. -/
theorem Alike.polled_aside (h : Alike g s p) (hid : (id, g) ∉ s.roll) (timeout : Nat)
    (agenda : List Appointment) : Upshot.Aside g s p (s.move (.polled id timeout agenda)) := by
  have hstart : ∃ done, Follows g s p agenda done { broker := s.broker, agenda } :=
    ⟨[], Follows.start h agenda⟩
  unfold Hall.move
  dsimp only
  cases hc : s.consumer? id with
  | none =>
    dsimp only [awaited]
    by_cases hthere : id ∈ s.roll.map (·.1)
    · obtain ⟨done, hfollows⟩ := (Follows.upheld hthere hid).await timeout hstart
      exact hfollows.waited _
    · -- nobody waits who has not joined
      have habsent : ¬ s.broker.Present id := by
        intro hpresent
        obtain ⟨m, hm, rfl⟩ := List.mem_map.mp hpresent
        exact hthere (List.mem_map_of_mem (f := Prod.fst) (h.twin.left.members m hm))
      rw [Cluster.await_of_absent timeout habsent]
      exact (Follows.start h agenda).waited _
  | some c =>
    have hthere := h.member hc
    obtain ⟨hmember, done, hfollows⟩ := (Follows.upheld hthere hid).pollUntil _
      (c, { broker := s.broker, agenda }) (member_of_consumer? hc) hstart
    rw [← hmember] at hthere hid
    exact hfollows.polled hthere hid

/-- What does not concern the group is to the group as if it had not been
done. -/
theorem Alike.aside (h : Alike g s p) (hm : m.concerns s.roll g = false) :
    Upshot.Aside g s p (s.move m) := by
  have hid {id : String} (hm : s.roll.contains (id, g) = false) : (id, g) ∉ s.roll :=
    fun hmem => by simp [hmem] at hm
  cases m with
  | asked r =>
    refine aside_of_alike ?_
    rw [Roll.after_of_not_concerns hm]
    exact h.brokers (h.twin.aside hm)
  | made configuration => cases hm
  | equipped id onAssign onRevoke onTrouble =>
    unfold Hall.move
    dsimp only
    cases hc : s.consumer? id with
    | none => exact aside_of_alike h
    | some c =>
      have hmember := member_of_consumer? hc
      exact aside_of_alike (h.put_aside (hmember ▸ h.member hc) (hmember ▸ hid hm))
  | did id d => exact h.did_aside (hid hm) d
  | polled id timeout agenda => exact h.polled_aside (hid hm) timeout agenda

/-! ## Groups apart -/

/-- What concerns the group is left, with what was kept meanwhile. -/
theorem purged_of_concerns (h : m.concerns s.roll g = true) :
    s.purged g m = [m.heeding s.roll g (s.move m).done] := if_pos h

/-- Of what others do there is left what was kept meanwhile and concerns the
group. -/
theorem purged_of_not_concerns (h : m.concerns s.roll g = false) :
    s.purged g m = heededRequests g s.roll (s.move m).done := if_neg (by simp [h])

/-- What is taken off an agenda makes no difference to whom a move concerns. -/
theorem concerns_heeding (roll : Roll) (done : List Appointment) (m : Move) :
    (m.heeding roll g done).concerns roll g = m.concerns roll g := by
  cases m <;> rfl

/-- What is left of a move tells the group what the move tells it. -/
theorem Alike.reports_purged (h : Alike g s p) (m : Move) :
    reportsAll g p (s.purged g m) = s.reports g m ∧
      Alike g (s.after m) (p.afterAll (s.purged g m)) := by
  cases hm : m.concerns s.roll g with
  | true =>
    have hmove := h.move hm
    rw [purged_of_concerns hm]
    refine ⟨?_, hmove.hall⟩
    show (_ ++ if _ then _ else _) ++ [] = (_ ++ if _ then _ else _)
    rw [List.append_nil, h.roll, concerns_heeding, hmove.heard, hmove.report]
  | false =>
    have haside := h.aside hm
    rw [purged_of_not_concerns hm]
    refine ⟨haside.reports.trans ?_, haside.hall⟩
    show _ = _ ++ if _ then _ else _
    rw [if_neg (by simp [hm]), List.append_nil]

/-- What is left of a run tells the group what the run tells it. -/
theorem Alike.reportsAll_purge (h : Alike g s p) (ms : List Move) :
    reportsAll g p (purge g s ms) = reportsAll g s ms := by
  induction ms generalizing s p with
  | nil => rfl
  | cons m ms ih =>
    obtain ⟨hreports, hafter⟩ := h.reports_purged m
    show reportsAll g p (s.purged g m ++ purge g (s.after m) ms) = _
    rw [reportsAll_append, hreports, ih hafter]
    rfl

/-- Groups do not influence each other. Take two runs from an empty hall of
which the same is left for a group: the same topics, records and consumers
are made, and the same is asked of the group and of whoever has joined it,
in the same order and, while a member of the group polls, at the same times.
Then whatever else others ask for and do, between these or while somebody
polls, the group is told the same in both: every result, every error, how
long it took, and every callback with its list. It does not matter how
the broker reads patterns. -/
theorem reportsAll_of_purge_eq (g : String) (patterns : PatternReader) {ms ms' : List Move}
    (h : purge g { broker := { patterns } } ms = purge g { broker := { patterns } } ms') :
    reportsAll g { broker := { patterns } } ms = reportsAll g { broker := { patterns } } ms' := by
  have hsame := alike_empty g patterns
  rw [← hsame.reportsAll_purge ms, h, hsame.reportsAll_purge ms']

/-- A consumer reads a topic, and another member of its group waits for a
notification. -/
def sharedTopic : List Move :=
  [.asked (.createTopic "t" 1),
    .made (.ofPairs [("group.id", "g")]),
    .made (.ofPairs [("group.id", "h")]),
    .asked (.connect (.ofPairs [("group.id", "g")])),
    .asked (.member "kafka_group-1" (.subscribe ["t"])),
    .did "kafka_group-1" .look,
    .polled "kafka_group-3" 5 [⟨3, .notify "kafka_group-3" .rebalanceInProgress []⟩]]

/-- The same, but for the other group, which is busy with the topic before
and while the member waits. -/
def sharedTopicBusily : List Move :=
  [.asked (.createTopic "t" 1),
    .made (.ofPairs [("group.id", "g")]),
    .made (.ofPairs [("group.id", "h")]),
    .asked (.member "kafka_group-2" (.subscribe ["t"])),
    .asked (.connect (.ofPairs [("group.id", "g")])),
    .asked (.member "kafka_group-1" (.subscribe ["t"])),
    .did "kafka_group-2" .look,
    .did "kafka_group-1" .look,
    .polled "kafka_group-3" 5
      [⟨1, .rebalance "h"⟩,
        ⟨3, .notify "kafka_group-3" .rebalanceInProgress []⟩,
        ⟨4, .member "kafka_group-2" .leave⟩]]

/-- A move that concerns the group is left. -/
theorem purge_cons_of_concerns (h : m.concerns s.roll g = true) (ms : List Move) :
    purge g s (m :: ms) = m.heeding s.roll g (s.move m).done :: purge g (s.after m) ms :=
  congrArg (· ++ _) (purged_of_concerns h)

/-- Nothing is left of what others do at once. -/
theorem purge_cons_of_not_concerns (h : m.concerns s.roll g = false) (hd : (s.move m).done = [])
    (ms : List Move) : purge g s (m :: ms) = purge g (s.after m) ms := by
  have hpurged : s.purged g m = [] := by rw [purged_of_not_concerns h, hd]; rfl
  exact congrArg (· ++ _) hpurged

theorem purge_sharedTopic : purge "g" {} sharedTopic = sharedTopic := by
  rw [sharedTopic, purge_cons_of_concerns, purge_cons_of_concerns, purge_cons_of_concerns,
    purge_cons_of_concerns, purge_cons_of_concerns, purge_cons_of_concerns, purge_cons_of_concerns]
  · simp only [Move.heeding, purge]
    congr
    decide +kernel
  all_goals decide +kernel

/-- Nothing more is left of the busier run. -/
theorem purge_sharedTopicBusily : purge "g" {} sharedTopicBusily = sharedTopic := by
  rw [sharedTopicBusily, purge_cons_of_concerns, purge_cons_of_concerns, purge_cons_of_concerns,
    purge_cons_of_not_concerns, purge_cons_of_concerns, purge_cons_of_concerns,
    purge_cons_of_not_concerns, purge_cons_of_concerns, purge_cons_of_concerns]
  · simp only [Move.heeding, purge, sharedTopic]
    congr
    decide +kernel
  all_goals decide +kernel

/-- To the first group both runs come to the same, though the second is told
more of by far. -/
theorem reportsAll_sharedTopic :
    purge "g" {} sharedTopic = purge "g" {} sharedTopicBusily ∧
      reportsAll "g" {} sharedTopic = reportsAll "g" {} sharedTopicBusily := by
  have hsame : purge "g" {} sharedTopic = purge "g" {} sharedTopicBusily :=
    purge_sharedTopic.trans purge_sharedTopicBusily.symm
  exact ⟨hsame, reportsAll_of_purge_eq "g" Pattern.reader hsame⟩

end Hall

end ConsumerGroup
