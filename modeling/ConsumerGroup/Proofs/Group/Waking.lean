import ConsumerGroup.Proofs.Cluster.Watch
import ConsumerGroup.Proofs.Group.Run

/-!
# Nobody sleeps through what comes for it

In a run, members read nothing but what is there
(`Chronicle.Reached.grounded`). So whoever has looked for an event, found
nothing and gone to sleep is woken by whatever makes something available
to it, be it that it is told that it is gone
(`Chronicle.Reached.wakes`).

It is said of the broker as it is after any run, and of every request, one
by one and in rows; and it is said of somebody who waits in a cluster, where
whoever is woken looks again. That a sleeper who is woken does look again is
part of what it is to wait (`Cluster.await`).
-/

namespace ConsumerGroup

namespace Broker

variable {b b' : Broker} {id : String} {d : Deed}
  {o : Outcome Entry (Consumer Seat × Cluster) (Option Message)}

/-- What a look leaves a member to read is there. -/
theorem grounded_of_looked {m m' : Member} (h : m.Looked b o m') :
    m'.held = m.held ∨ m'.Grounded b.topics := by
  cases h with
  | fetched => exact .inl (m.held_fetch b.topics)
  | assigned _ _ _ hslots => exact .inr (grounded_of_slots hslots rfl)
  | revoked => exact .inr (grounded_of_nil rfl)
  | refused | undone | passed => exact .inl rfl

/-- Whatever a consumer does, members read nothing but what is there. -/
theorem Grounded.done (hs : b.Sound) (h : b.Grounded) (hd : b.Done id o d b') : b'.Grounded := by
  refine hd.holds h (fun m m' _ hm hl => ?_) fun r _ => h.perform hs (.member id r)
  refine h.modifyMember fun m₁ hm₁ hid => ?_
  rw [hs.eq_of_member? hm hm₁ hid]
  exact grounded_of_looked hl

end Broker

namespace Chronicle

variable {allowed : Chronicle → Happening → Prop} {s : Chronicle}

/-- After every step what members read has a log. -/
theorem grounded_after (hs : s.broker.Sound) (hg : s.broker.Grounded) (e : Happening) :
    (s.after e).broker.Grounded := by
  cases e with
  | asked r => exact hg.perform hs r
  | did c d => exact hg.done hs (s.done c d)

/-- In a run, members read nothing but what is there. -/
theorem Reached.grounded (h : Reached allowed s) : s.broker.Grounded := by
  induction h with
  | start => exact Broker.grounded_empty _
  | step hs _ ih => exact grounded_after hs.sound ih _

/-- Nobody sleeps through what comes for it. While nothing can be found for
a member, every request after which something can be, or after which the
member is told that it is gone, wakes those who wait; no row of requests
that wake nobody makes anything available. And whoever sleeps until it is
woken comes to exactly what it would come to if it looked again after
everything that happens. -/
theorem Reached.wakes (h : Reached (fun _ _ => True) s) (id : String) :
    ((s.broker.nextEvent id).result = .ok none →
      (∀ r, ((s.broker.perform r).broker.nextEvent id).result ≠ .ok none →
        (s.broker.perform r).wakes = true) ∧
      ∀ rs, s.broker.AllUnheard rs → ((s.broker.afterAll rs).nextEvent id).result = .ok none) ∧
    ∀ (w : Cluster) deadline, w.broker = s.broker → w.await id deadline = w.watch id deadline := by
  refine ⟨fun hnone => ⟨fun r hr => ?_, fun rs hrs => ?_⟩, fun w deadline hw => ?_⟩
  · by_contra hw
    exact hr ((Broker.perform_unheard (Bool.eq_false_iff.mpr hw)).nextEvent_none h.grounded hnone)
  · exact hrs.nextEvent_none h.sound h.grounded hnone
  · exact Cluster.await_eq_watch (hw ▸ h.sound) (hw ▸ h.grounded)

/-- Two members of a group. The first has taken its share and read all there
is, which is nothing; the second has not subscribed. -/
def caughtUp : Broker := (run (joinedLater.take 5)).broker

/-- A member that has read everything is woken by a record, and neither by
what is done to records it has read nor by a topic that nobody covers. -/
theorem wakes_caughtUp :
    (caughtUp.nextEvent "kafka_group-1").result = .ok none ∧
      (caughtUp.perform (.produce ⟨"t", 1⟩ none [])).wakes = true ∧
      (((caughtUp.afterAll [.deleteRecords ⟨"t", 1⟩ 5, .createTopic "u" 1]).nextEvent
        "kafka_group-1").result = .ok none) ∧
      Cluster.await "kafka_group-1" 10
          { broker := caughtUp, agenda := [⟨3, .deleteRecords ⟨"t", 1⟩ 5⟩] } =
        Cluster.watch "kafka_group-1" 10
          { broker := caughtUp, agenda := [⟨3, .deleteRecords ⟨"t", 1⟩ 5⟩] } := by
  have hnone : (caughtUp.nextEvent "kafka_group-1").result = .ok none := by decide +kernel
  obtain ⟨hwakes, hwatch⟩ := (reached_run (joinedLater.take 5) Pattern.reader).wakes "kafka_group-1"
  obtain ⟨hone, hrow⟩ := hwakes hnone
  refine ⟨hnone, hone _ ?_, hrow _ ⟨by decide +kernel, by decide +kernel, trivial⟩,
    hwatch _ 10 rfl⟩
  have hrecord : ((caughtUp.perform (.produce ⟨"t", 1⟩ none [])).broker.nextEvent
      "kafka_group-1").result = .ok (some (.message (.record ⟨"t", 1⟩ 0 none (some [])))) := by
    decide +kernel
  intro h
  cases hrecord.symm.trans h

end Chronicle

end ConsumerGroup
