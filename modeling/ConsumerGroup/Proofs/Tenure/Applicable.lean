import ConsumerGroup.Proofs.Group.Applicable
import ConsumerGroup.Proofs.Tenure.Rows

/-!
# Polls apply what the group sends

In a run without notifications by hand no poll of a consumer fails because
a transport refuses what the group decided
(`Chronicle.run_applicable`). Between the rebalance that deals a share and
the request that assigns it, topics may be created, subscriptions changed,
and members may come and go; and the offsets of the share are whatever a
callback wants.

The proof takes a poll apart into single steps (`Chronicle.polled`), of
which only the last can fail, and says of that step why it did. Whoever has
left, or is made to leave while it polls, is told so, and that is an excuse
as well.
-/

namespace ConsumerGroup

namespace Chronicle

variable {patterns : PatternReader} {hs hs' : List Happening} {seat : Seat}
  {agenda : List Appointment}

/-- Whoever polls sends nothing by hand, nor does anybody meanwhile if it is
not on the agenda. -/
theorem PollsOn.byHand (h : PollsOn seat agenda hs hs') (hn : ∀ e ∈ hs, e.byHand = false)
    (ha : ∀ a ∈ agenda, a.request.byHand = false) : ∀ e ∈ hs', e.byHand = false := by
  obtain ⟨kept, later, es, rfl, hes, rfl⟩ := h
  intro e he
  rcases List.mem_append.mp he with he | he
  · exact hn e he
  · cases e with
    | did => rfl
    | asked r =>
      have hr : r ∈ es.filterMap Happening.asked? := List.mem_filterMap.mpr ⟨_, he, rfl⟩
      rw [hes.asked] at hr
      obtain ⟨a, hkept, rfl⟩ := List.mem_map.mp hr
      exact ha a (List.mem_append_left _ hkept)

/-- A look that fails has an excuse. -/
theorem excused_of_looked (hn : ∀ e ∈ hs, e.byHand = false) {c : Consumer Seat} {f : Failure}
    (h : (Happening.outcome (run hs patterns).broker c .look).result = .error (.failure f)) :
    c.Excused (Happening.outcome (run hs patterns).broker c .look).state.1
      (run (hs ++ [.did c .look]) patterns).broker f := by
  rw [run_append_singleton]
  exact Consumer.excused_of_look (w := { broker := (run hs patterns).broker })
    (plain_run hn) h

/-- A poll that fails ends with the look that fails. -/
theorem excused_of_polled (hn : ∀ e ∈ hs, e.byHand = false) {timeout : Nat} {c : Consumer Seat}
    {w : Cluster} (hb : w.broker = (run hs patterns).broker)
    (ha : ∀ a ∈ w.agenda, a.request.byHand = false) {f : Failure}
    (h : (Consumer.pollFor timeout (c, w)).result = .error (.failure f)) :
    c.Excused (Consumer.pollFor timeout (c, w)).state.1
      (Consumer.pollFor timeout (c, w)).state.2.broker f := by
  obtain ⟨hs', last, hpolls, ht, hset, hresult, hstate, hbroker⟩ :=
    polled timeout c hb (by rw [h]; nofun)
  rw [h] at hresult
  have hlast := excused_of_looked (hpolls.byHand hn ha) hresult
  rw [hstate] at hlast
  rw [hbroker]
  exact hlast.congr ht hset

/-- After a run without notifications by hand, a poll fails only because the
consumer's own callback for assignments left other partitions than it was
given, or because its member is not there any more; never because what
the group decided was refused. What is polled is a revocation or a share,
and whatever happens before it is applied: as long as the member is there,
the share can be assigned with any offsets, and everything can be given
up. -/
theorem run_applicable (hs : List Happening) (patterns : PatternReader)
    (hn : ∀ e ∈ hs, e.byHand = false) :
    (∀ (c : Consumer Seat) (f : Failure),
      (Happening.outcome (run hs patterns).broker c .look).result = .error (.failure f) →
        c.Excused (Happening.outcome (run hs patterns).broker c .look).state.1
          (run (hs ++ [.did c .look]) patterns).broker f) ∧
    (∀ (c : Consumer Seat) (w : Cluster), w.broker = (run hs patterns).broker →
      (∀ a ∈ w.agenda, a.request.byHand = false) →
        ∀ o, (o = Consumer.poll (c, w) ∨ ∃ timeout, o = Consumer.pollFor timeout (c, w)) →
          ∀ f, o.result = .error (.failure f) →
            c.Excused o.state.1 o.state.2.broker f ∧
              ∀ action source, f ≠ .rebalance action source) ∧
    ∀ id code l, ((run hs patterns).broker.nextEvent id).result = .ok (some (.rebalance code l)) →
      (code = .assignPartitions ∨ code = .revokePartitions) ∧
      ∀ es : List Happening, (run (hs ++ es) patterns).broker.Present id →
        (code = .assignPartitions → ∀ left : PartitionList, left.SamePartitions l →
          ((run (hs ++ es) patterns).broker.assign id left).result = .ok ()) ∧
        ((run (hs ++ es) patterns).broker.unassign id).result = .ok () := by
  refine ⟨fun c f => excused_of_looked hn, ?_, ?_⟩
  · rintro c w hb ha o ho f hf
    obtain ⟨timeout, rfl⟩ : ∃ timeout, o = Consumer.pollFor timeout (c, w) :=
      ho.elim (fun h => ⟨c.timeout, h⟩) fun h => h
    have hexcused := excused_of_polled hn hb ha hf
    exact ⟨hexcused, hexcused.ne_rebalance⟩
  · intro id code l hevent
    refine ⟨(plain_of_polled hn hevent).imp_left And.left, fun es hp => ⟨?_, ?_⟩⟩
    · rintro rfl left hl
      exact assign_of_polled hn hevent hp hl
    · exact Broker.unassign_ok hp

/-- In a group that two have joined, the callback of the second drops what
it is assigned; or the second leaves while a consumer of its polls; or its
share is assigned from behind the end, when there is a topic more. -/
theorem run_applicable_joinedLater :
    let c : Consumer Seat := { transport := ⟨"kafka_group-2", "g"⟩ }
    let dropping : Consumer Seat := { c with coordinator := { onAssign := some fun _ _ => .ok [] } }
    let w : Cluster := { broker := (run joinedLater).broker }
    let leaving : Cluster := { w with agenda := [⟨3, .member "kafka_group-2" .leave⟩] }
    let later := joinedLater ++ [.asked (.member "kafka_group-2" .next), .asked (.createTopic "s" 1)]
    ((Consumer.poll (dropping, w)).result =
        .error (.failure (.partitionsChanged [⟨⟨"t", 1⟩, .invalid⟩] [])) ∧
      dropping.Excused (Consumer.poll (dropping, w)).state.1
        (Consumer.poll (dropping, w)).state.2.broker
        (.partitionsChanged [⟨⟨"t", 1⟩, .invalid⟩] [])) ∧
    ((Consumer.pollFor 10 (c, leaving)).result = .error (.failure (.ofCode .destroyed)) ∧
      c.Excused (Consumer.pollFor 10 (c, leaving)).state.1
        (Consumer.pollFor 10 (c, leaving)).state.2.broker (.ofCode .destroyed)) ∧
    ((run later).broker.assign "kafka_group-2" [⟨⟨"t", 1⟩, .number 4611686018427387904⟩]).result = .ok () := by
  have hn : ∀ e ∈ joinedLater, e.byHand = false := by decide
  obtain ⟨_, hpolls, hshares⟩ := run_applicable joinedLater Pattern.reader hn
  intro c dropping w leaving later
  have hdropped : (Consumer.poll (dropping, w)).result =
      .error (.failure (.partitionsChanged [⟨⟨"t", 1⟩, .invalid⟩] [])) := by
    show (Consumer.pollUntil 1000 (dropping, w)).result = _
    rw [Consumer.pollUntil_of_untaken (e := .failure (.partitionsChanged [⟨⟨"t", 1⟩, .invalid⟩] []))
      .assignPartitions [⟨⟨"t", 1⟩, .invalid⟩] (by decide +kernel) (by decide +kernel)]
  have hleft : (Consumer.pollFor 10 (c, leaving)).result =
      .error (.failure (.ofCode .destroyed)) := by
    show (Consumer.pollUntil 10 (c, leaving)).result = _
    rw [Consumer.pollUntil_of_took .assignPartitions [⟨⟨"t", 1⟩, .invalid⟩]
        (by decide +kernel) (by decide +kernel),
      Consumer.pollUntil_of_error (e := .failure (.ofCode .destroyed)) (by decide +kernel)]
    rfl
  have hevent : ((run joinedLater).broker.nextEvent "kafka_group-2").result =
      .ok (some (.rebalance .assignPartitions [⟨⟨"t", 1⟩, .invalid⟩])) := by decide +kernel
  have hthere : (run later).broker.Present "kafka_group-2" := by
    unfold Broker.Present
    decide +kernel
  refine ⟨⟨hdropped, (hpolls _ w rfl (by decide) _ (.inl rfl) _ hdropped).1⟩, ⟨hleft, ?_⟩, ?_⟩
  · exact (hpolls c leaving rfl (by decide) _ (.inr ⟨10, rfl⟩) _ hleft).1
  · exact ((hshares _ _ _ hevent).2 _ hthere).1 rfl _ rfl

end Chronicle

end ConsumerGroup
