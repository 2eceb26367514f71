import ConsumerGroup.Proofs.Group.Standing
import ConsumerGroup.Proofs.Tenure.Run

/-!
# Whether a consumer that was closed has left

To close a consumer is to have its member leave, whatever comes of giving
up what it holds, unless a callback crashes on the way: the consumer is
closed then, and its member still there. Whoever closes it again is told
that all is well, and the member stays.

`Reached.left_iff_uninterrupted` says that this is the only way in which a
consumer closes and stays. It is said for every run, with whatever
callbacks, also with those that crash in polls before.

The invariant is one equivalence: the member is there just as long as the
consumer is open, or its end was interrupted (`Tenure.Stays`). Whoever lets
go of a consumer has its member leave in any case.
-/

namespace ConsumerGroup

namespace Broker

/-- What a group's rebalance queues last for whoever takes part in it is
its share. -/
theorem share_waits_rebalanced (b : Broker) (g : String) :
    List.Forall₂ (fun m s => m.isActive g = true → ∃ ps, s = some ps ∧
        m.queue.getLast? = some ⟨.assignPartitions, .ofPartitions ps⟩)
      (b.rebalanced g).members ((b.rebalanced g).shares g) := by
  have hlast : List.Forall₂ (fun m s => m.isActive g = true → ∀ ps, s = some ps →
      m.queue.getLast? = some ⟨.assignPartitions, .ofPartitions ps⟩)
      (b.rebalanced g).members (b.shares g) := by
    refine forall₂_rebalanced_shares fun m _ s _ hactive ps hs => ?_
    rw [Member.isActive_of_stake (stake_rebalanced g g m s)] at hactive
    have hg : m.group = g := by
      simp only [Member.isActive, Bool.and_eq_true, beq_iff_eq] at hactive
      exact hactive.1
    subst hs
    simp only [Member.rebalanced, if_pos hg, List.getLast?_append, List.getLast?_singleton,
      Option.some_or]
  have hsome := forall₂_sharesFrom_active (g := g) ((b.rebalanced g).dealt g) 0
    (b.rebalanced g).members
  rw [List.forall₂_iff_zip] at hlast hsome ⊢
  rw [← shares_rebalanced b g g] at hlast
  refine ⟨hlast.1, fun hms hactive => ?_⟩
  obtain ⟨ps, rfl⟩ := hsome.2 hms hactive
  exact ⟨ps, rfl, hlast.2 hms hactive ps rfl⟩

/-- Whoever is there is listed by its group. -/
theorem present_iff_memberIds {b : Broker} {id : String} :
    b.Present id ↔ ∃ g, id ∈ b.memberIds g := by
  unfold Present memberIds
  simp only [List.mem_map, List.mem_filter, beq_iff_eq]
  constructor
  · rintro ⟨m, hm, rfl⟩
    exact ⟨m.group, m, ⟨hm, rfl⟩, rfl⟩
  · rintro ⟨g, m, ⟨hm, _⟩, rfl⟩
    exact ⟨m, hm, rfl⟩

end Broker

namespace Tenure

variable {t : Tenure} {allowed : Tenure → Step → Prop}

/-- The seat is the consumer's own, as long as its owner keeps it: nobody
else has the member leave or does something on the seat. -/
def Seated (t : Tenure) : Step → Prop
  | .beside (.asked r) => r ≠ .member t.id .leave
  | .beside (.did c _) => c.transport.member ≠ t.id
  | .did d => ∀ unwinding, d ≠ .release unwinding
  | .equipped .. => True

/-- The member is there until the consumer is closed, and stays if that was
interrupted. -/
structure Stays (t : Tenure) : Prop where
  present : t.broker.Present t.id ↔ t.consumer.closed = false ∨ t.interrupted = true
  uninterrupted : t.consumer.closed = false → t.interrupted = false

/-- What others do neither brings the member nor takes it away. -/
theorem present_beside (hs : t.broker.Sound) (hi : t.broker.Issued t.id) {e : Happening}
    (he : t.Seated (.beside e)) :
    (t.after (.beside e)).broker.Present t.id ↔ t.broker.Present t.id := by
  refine ⟨fun hp => ?_, fun hp => ?_⟩
  · exact Chronicle.present_before hi hp
  · cases e with
    | asked r => exact (t.broker.perform_changed r).stays hp he
    | did c d =>
      obtain ⟨m, hm⟩ := Broker.present_iff.mp hp
      obtain ⟨m', hm', _⟩ := hs.dealt_done (t.chronicle.done c d) he hm
      exact Broker.present_of_member? hm'

/-- Nor does a look. -/
theorem present_looked (t : Tenure) :
    (t.after (.did .look)).broker.Present t.id ↔ t.broker.Present t.id := by
  have hlooked := t.looked
  generalize (t.after (.did .look)).broker = b' at hlooked
  cases hlooked with
  | gone => exact Iff.rfl
  | changed hm hl =>
    exact Broker.present_modifyMember fun _ _ => hl.id_eq.trans (Broker.id_of_member? hm)

theorem present_committed (t : Tenure) (x : Message) (asynchronous : Bool) :
    (t.after (.did (.commitMessage x asynchronous))).broker.Present t.id ↔ t.broker.Present t.id := by
  rcases t.committed x asynchronous with hb | ⟨l, hb⟩
  · rw [hb]
  · rw [hb]
    exact (t.broker.changed_commit t.id l asynchronous).present_iff nofun nofun

/-- Where nobody comes or goes, nothing is closed and nothing interrupted,
all stays as it is. -/
theorem Stays.congr {u : Tenure} (h : t.Stays) (hid : u.id = t.id)
    (hp : u.broker.Present t.id ↔ t.broker.Present t.id)
    (hclosed : u.consumer.closed = t.consumer.closed) (hi : u.interrupted = t.interrupted) :
    u.Stays := by
  refine ⟨?_, ?_⟩
  · rw [hid, hp, hclosed, hi]
    exact h.present
  · rw [hclosed, hi]
    exact h.uninterrupted

/-- To close makes the member leave, unless a callback crashes first. -/
theorem Stays.closed (h : t.Stays) : (t.after (.did .close)).Stays := by
  have hclosed : (t.after (.did .close)).consumer.closed = true :=
    (t.closed_did .close).trans (Bool.or_true _)
  have hinterrupted : (t.after (.did .close)).interrupted =
      (t.interrupted || (t.outcome .close).crashed) := rfl
  cases hc : t.consumer.closed with
  | true =>
    have hquiet : (t.outcome .close).crashed = false := by rw [closed_again hc]; rfl
    have hb : (t.after (.did .close)).broker = t.broker := by rw [broker_did, closed_again hc]; rfl
    refine h.congr (id_after t _) (by rw [hb]) (hclosed.trans hc.symm) ?_
    rw [hinterrupted, hquiet, Bool.or_false]
  | false =>
    rw [h.uninterrupted hc, Bool.false_or] at hinterrupted
    refine ⟨?_, fun h => by simp [hclosed] at h⟩
    rw [hclosed, hinterrupted, id_after]
    rcases closed_first hc with ⟨hcrashed, hb⟩ | ⟨hcrashed, hb⟩
    · rw [hb, hcrashed]
      exact iff_of_false (Broker.member?_eq_none_iff.mp (t.broker.member?_leave t.id)) (by simp)
    · rw [hb, hcrashed]
      refine iff_of_true ?_ (.inr rfl)
      exact (t.broker.changed_unassign t.id).stays (h.present.mpr (.inl hc)) nofun

/-- Every step leaves the member where its consumer says it is. -/
theorem Stays.after (h : t.Stays) (hs : t.broker.Sound) (hi : t.broker.Issued t.id) {e : Step}
    (he : t.Seated e) : (t.after e).Stays := by
  match e with
  | .beside e => exact h.congr (u := t.after (.beside e)) rfl (present_beside hs hi he) rfl rfl
  | .equipped .. => exact ⟨h.present, h.uninterrupted⟩
  | .did .look =>
    exact h.congr (id_after t _) t.present_looked ((t.closed_did _).trans (Bool.or_false _))
      (Bool.or_false _)
  | .did (.commitMessage x asynchronous) =>
    exact h.congr (id_after t _) (t.present_committed x asynchronous)
      ((t.closed_did _).trans (Bool.or_false _)) (Bool.or_false _)
  | .did .close => exact h.closed
  | .did (.release unwinding) => exact absurd rfl (he unwinding)

/-- So it is there, all its life, until the consumer has been closed. -/
theorem Reached.stays (h : Reached allowed t) (ha : ∀ t e, allowed t e → t.Seated e) : t.Stays := by
  induction h with
  | start hs hc =>
    obtain ⟨hclosed, options, hm⟩ := member?_begun hs.sound hc
    exact ⟨iff_of_true (Broker.present_of_member? hm) (.inl hclosed), fun _ => rfl⟩
  | step ht hstep ih => exact ih.after ht.sound ht.issued (ha _ _ hstep)

/-- When closing goes well, the member has left just if no callback has
crashed while the consumer was being closed before. The first closing that
goes well has every other member that takes part in the group wait for a
share that is computed without the one that left. -/
theorem Reached.left_iff_uninterrupted (h : Reached allowed t)
    (ha : ∀ t e, allowed t e → t.Seated e) (hok : (t.outcome .close).result = .ok none) :
    ((∀ g, t.id ∉ (t.after (.did .close)).broker.memberIds g) ↔ t.interrupted = false) ∧
    (t.consumer.closed = false → ∃ m, t.broker.member? t.id = some m ∧
      List.Forall₂ (fun m' s => m'.isActive m.group = true → ∃ ps, s = some ps ∧
          m'.queue.getLast? = some ⟨.assignPartitions, .ofPartitions ps⟩)
        (t.after (.did .close)).broker.members
        ((t.after (.did .close)).broker.shares m.group)) := by
  have hstays := h.stays ha
  have hquiet : (t.outcome .close).crashed = false := by
    unfold Outcome.crashed
    rw [hok]
  constructor
  · have hclosed : (t.after (.did .close)).consumer.closed = true :=
      (t.closed_did .close).trans (Bool.or_true _)
    have hinterrupted : (t.after (.did .close)).interrupted = t.interrupted := by
      show (t.interrupted || (t.outcome .close).crashed) = _
      rw [hquiet, Bool.or_false]
    have hpresent := hstays.closed.present
    rw [id_after, hclosed, hinterrupted, Broker.present_iff_memberIds] at hpresent
    rw [← not_exists, hpresent]
    simp
  · intro hc
    obtain ⟨m, hm⟩ := Broker.present_iff.mp (hstays.present.mpr (.inl hc))
    refine ⟨m, hm, ?_⟩
    rcases closed_first hc with ⟨_, hb⟩ | ⟨hcrashed, _⟩
    · have hleft : (t.broker.leave t.id).broker =
          ({ t.broker with members := t.broker.members.filter (·.id ≠ t.id) } : Broker).rebalanced
            m.group := by
        unfold Broker.leave
        rw [hm]
        rfl
      rw [hb, hleft]
      exact Broker.share_waits_rebalanced _ m.group
    · rw [hquiet] at hcrashed
      cases hcrashed

/-- Whoever subscribes leaves everybody in their seat. -/
theorem seated_subscribe (t : Tenure) (id : String) (topics : List String) :
    t.Seated (.beside (.asked (.member id (.subscribe topics)))) := by
  intro h
  cases (Request.member.inj h).2

/-- A callback crashes in a poll, another member comes, and the consumer is
closed: it has left. -/
theorem left_iff_uninterrupted_crashedBefore :
    ∃ t, Reached Seated t ∧ t.consumer.closed = false ∧ t.held = [] ∧
      called t.journal = [.assign [⟨⟨"t", 0⟩, .invalid⟩, ⟨⟨"t", 1⟩, .invalid⟩]] ∧
      (t.outcome .close).result = .ok none ∧
      ((∀ g, t.id ∉ (t.after (.did .close)).broker.memberIds g) ↔ t.interrupted = false) ∧
      ∃ m, t.broker.member? t.id = some m ∧
        List.Forall₂ (fun m' s => m'.isActive m.group = true → ∃ ps, s = some ps ∧
            m'.queue.getLast? = some ⟨.assignPartitions, .ofPartitions ps⟩)
          (t.after (.did .close)).broker.members
          ((t.after (.did .close)).broker.shares m.group) := by
  have hreached : Reached Seated _ :=
    .step (e := .beside (.asked (.member "kafka_group-2" (.subscribe ["t"]))))
    (.step (e := .beside (.asked (.connect (Configuration.ofPairs [("group.id", "g")]))))
    (.step (e := .did .look)
    (.step (e := .beside (.asked (.member "kafka_group-1" (.subscribe ["t"]))))
    (.step (e := .equipped (some fun _ _ => .error "no more") none none) reached_alone trivial)
    (seated_subscribe _ _ _)) nofun) nofun) (seated_subscribe _ _ _)
  have hleft := Reached.left_iff_uninterrupted hreached (fun _ _ h => h) (by decide +kernel)
  exact ⟨_, hreached, by decide +kernel, by decide +kernel, by decide +kernel, by decide +kernel,
    hleft.1, hleft.2 (by decide +kernel)⟩

/-- The callback for what is taken away crashes while the consumer is being
closed for the first time. -/
def closingCrashed : Tenure :=
  (((alone.after (.equipped none (some fun _ _ => .error "no more") none)).after
    (.beside (.asked (.member "kafka_group-1" (.subscribe ["t"]))))).after (.did .look)).after
      (.did .close)

/-- So closing can go well and leave the member where it is. -/
theorem still_there_closingCrashed :
    ¬ ∀ t, Reached Seated t → (t.outcome .close).result = .ok none →
      ∀ g, t.id ∉ (t.after (.did .close)).broker.memberIds g := by
  intro h
  have hreached : Reached Seated closingCrashed :=
    .step (.step (.step (.step reached_alone trivial) (seated_subscribe _ _ _)) nofun) nofun
  exact h _ hreached (by decide +kernel) "g" (by decide +kernel)

end Tenure

end ConsumerGroup
