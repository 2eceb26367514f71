import ConsumerGroup.Proofs.Group.Run

/-!
# What is effectively held is what a rebalance would give

While the members of a group leave what they read to the coordinator, and
no callback gets in its way (`Chronicle.Managed`), a rebalance of the
group never has anything to change: every member effectively holds just
what it would be given (`Reached.effectiveAssignment_eq_share`). So
nothing that could change a share is ever done without a rebalance.

What is queued may be taken at any pace. A share that waits while topics
are added still names partitions that are there, each once, so it is
never refused when its time comes (`Settled`).

The invariant is a relation between a member and its share that is upheld
(`Upheld`), so it is proved of looks here and of nothing else. In a managed
run no deed fails through a callback; what holds where callbacks do fail is
said in `Proofs.Group.Exclusive`.
-/

namespace ConsumerGroup

/-- Once the member has dealt with what waits it holds its share, and each
share that waits is part of what there is. -/
def Settled (all : List Partition) (m : Member) (ps : List Partition) : Prop :=
  (∀ q ∈ m.queue, q.code = .assignPartitions → q.partitions.partitions.Sublist all) ∧
    heldAfter m.held m.queue = ps

/-- The broker by itself leaves members settled: whoever joins holds nothing
and has no share yet, and a rebalance deals what will be held. -/
theorem upheld_settled (g : String) : Upheld g Settled where
  grows hall h := ⟨fun q hq hc => (h.1 q hq hc).trans hall, h.2⟩
  joins _ _ _ := ⟨fun _ hq => absurd hq List.not_mem_nil, rfl⟩
  subscribes _ h := h
  deals {all m ps s} hg hs h := by
    refine ⟨?_, heldAfter_rebalanced hg s⟩
    intro q hq hc
    rw [Member.rebalanced_of_eq hg] at hq
    rcases List.mem_append.mp hq with hq | hq
    · exact h.1 q hq hc
    · rw [eq_share_of_mem_dealtNotices hq hc]
      exact hs

/-- A look leaves settled what is settled, if no callback gets in the way. -/
theorem Settled.looked {σ : Type} {b : Broker} {o : Outcome Entry σ (Option Message)} {m m' : Member} {ps : List Partition}
    (h : Settled b.topics.partitions m ps)
    (ho : ∀ e, o.result = .error e → e.ofCallback = false) (hl : m.Looked b o m') :
    Settled b.topics.partitions m' ps := by
  cases hq : m.queue with
  | nil =>
    obtain ⟨hqueue, hheld⟩ := hl.idle hq
    unfold Settled
    rw [hqueue, hheld, ← hq]
    exact h
  | cons q rest =>
    obtain ⟨hshares, hend⟩ := h
    rw [hq] at hshares hend
    obtain ⟨hqueue, hheld⟩ := hl.leaves ho hq (hshares q List.mem_cons_self)
    unfold Settled
    rw [hqueue, hheld]
    exact ⟨fun q' hq' => hshares q' (List.mem_cons_of_mem _ hq'), hend⟩

namespace Chronicle

/-- The members of the group leave what they read to the coordinator:
nobody meddles with them, and no callback of theirs gives up or changes
which partitions are assigned. -/
def Managed (g : String) (s : Chronicle) : Happening → Prop
  | .asked r => ¬ s.broker.Meddles g r
  | .did c d => s.broker.Has g c.transport.member →
    ∀ e, (Happening.outcome s.broker c d).result = .error e → e.ofCallback = false

variable {g : String} {s : Chronicle}

/-- In every managed run everybody is settled. -/
theorem Reached.settled (h : Reached (Managed g) s) : s.broker.Each g Settled := by
  induction h with
  | start => exact List.Forall₂.nil
  | @step s h hs ha ih =>
    cases h with
    | asked r => exact ih.perform (upheld_settled g) hs.sound ha
    | did c d =>
      refine ih.done (upheld_settled g) hs.sound (s.done c d) ?_ ?_
      · intro m m' hm hg hl ps hps
        exact hps.looked (ha ⟨m, hm, hg⟩) hl
      · intro m e hm hg ho he
        rw [ha ⟨m, hm, hg⟩ e ho] at he
        cases he

/-- Every member of the group effectively holds what a rebalance would give
it, in that order, and holds it outright when nothing waits. When nothing
waits for anybody, every partition the group covers is held by exactly
one of them. -/
theorem Reached.effectiveAssignment_eq_share (h : Reached (Managed g) s) :
    List.Forall₂ (fun m share => m.group = g →
        m.effectiveAssignment.partitions = share.getD [] ∧ (m.queue = [] → m.held = share.getD []))
      s.broker.members (s.broker.shares g) ∧
    ((∀ m ∈ s.broker.members, m.group = g → m.queue = []) →
      ∀ p ∈ s.broker.topics.partitions, s.broker.Covers g p.topic →
        ∃! m, m ∈ s.broker.members ∧ m.group = g ∧ p ∈ m.held) := by
  have hsettled := h.settled
  have hidle {m : Member} {ps : List Partition} (hq : m.queue = [])
      (hm : Settled s.broker.topics.partitions m ps) : m.held = ps := by
    rw [← hm.2, hq, heldAfter_nil]
  constructor
  · refine hsettled.imp fun m share hm hg => ⟨?_, fun hq => hidle hq (hm hg)⟩
    rw [partitions_effectiveAssignment]
    exact (hm hg).2
  · intro hqueues p hp hc
    have hheld : s.broker.Each g fun _ m ps => m.held = ps := by
      refine hsettled.congr (List.forall₂_same.mpr fun m hm => ⟨rfl, ?_⟩) rfl
      intro hg ps hps
      exact hidle (hqueues m hm hg) hps
    obtain ⟨m, hm, hg, hmp⟩ := hheld.exists_member_of_covers (f := Member.held) (fun _ _ h p hp => h ▸ hp) hp hc
    refine ⟨m, ⟨hm, hg, hmp⟩, ?_⟩
    rintro m' ⟨hm', hg', hmp'⟩
    by_contra hne
    exact hheld.disjoint (fun _ _ h p hp => h ▸ hp) hm' hm hg' hg hne p hmp' hmp

/-- While three partitions are held by the first, two of them are
effectively its own, and one is the second's. -/
theorem effectiveAssignment_eq_share_joinedLater :
    Reached (Managed "g") (run joinedLater) ∧
      (run joinedLater).broker.members.map (fun m =>
        (m.held.length, m.effectiveAssignment.partitions.length)) = [(3, 2), (0, 1)] ∧
      List.Forall₂ (fun m share => m.group = "g" →
          m.effectiveAssignment.partitions = share.getD [] ∧
            (m.queue = [] → m.held = share.getD []))
        (run joinedLater).broker.members ((run joinedLater).broker.shares "g") := by
  have h : Reached (Managed "g") (run joinedLater) := by
    have hok : (Happening.outcome (run (joinedLater.take 3)).broker
        { transport := ⟨"kafka_group-1", "g"⟩ } .look).result.isOk = true := by decide +kernel
    refine .step (.step (.step (.step (.step (.step (.start _) ?_) ?_) ?_) ?_) ?_) ?_
    · exact fun h => h
    · exact fun h => h
    · rintro ⟨h | h | ⟨_, h⟩, _⟩ <;> cases h
    · intro _ e he
      change (Happening.outcome (run (joinedLater.take 3)).broker _ _).result = _ at he
      rw [he] at hok
      cases hok
    · exact fun h => h
    · rintro ⟨h | h | ⟨_, h⟩, _⟩ <;> cases h
  exact ⟨h, by decide +kernel, (Reached.effectiveAssignment_eq_share h).1⟩

end Chronicle

end ConsumerGroup
