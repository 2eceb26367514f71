import ConsumerGroup.Proofs.Group.Run

/-!
# A partition is read by one member at a time

As long as nobody meddles with the members of a group, a message of a
partition goes only to a member that effectively holds it, and no other
member of the group does (`Reached.exclusive`). Callbacks may do what
they like: refuse, rewrite offsets so that nothing can be assigned, or
crash.

What members hold at a time may well overlap, as long as one of them has
yet to be told to give up its part. But whoever has something to be told
reads nothing, and whoever has not holds its share, or nothing because a
callback got in the way (`Undisputed`).

The invariant is about each member and its share, and follows from `Upheld`,
so only looks need a proof of their own here. Nothing is said of members
that read by hand: to assign, to give up or to be notified by hand is to
meddle.
-/

namespace ConsumerGroup

/-- What waits finds the member with empty hands whenever it hands
something out, and in the end the member has its share or nothing. -/
def Undisputed (_ : List Partition) (m : Member) (ps : List Partition) : Prop :=
  Orderly m.held m.queue ∧ (heldAfter m.held m.queue = ps ∨ heldAfter m.held m.queue = [])

/-- The broker by itself leaves members undisputed: whoever joins holds
nothing, and whoever is dealt to will hold its share. -/
theorem upheld_undisputed (g : String) : Upheld g Undisputed where
  grows _ h := h
  joins _ _ _ := ⟨trivial, .inl rfl⟩
  subscribes _ h := h
  deals hg _ h := ⟨h.1.rebalanced _, .inl (heldAfter_rebalanced hg _)⟩

/-- To have nothing any more is undisputed. -/
theorem Undisputed.of_nothing {all : List Partition} {m : Member} {held ps : List Partition}
    (ho : Orderly held m.queue) (h : heldAfter held m.queue = ps ∨ heldAfter held m.queue = [])
    (hm : m.held = []) : Undisputed all m ps := by
  unfold Undisputed
  rw [hm]
  refine ⟨ho.of_nothing, ?_⟩
  rcases heldAfter_nothing held m.queue with he | he
  · rwa [he]
  · exact .inr he

/-- A look leaves undisputed what is so, whatever the callbacks do. -/
theorem Undisputed.looked {σ : Type} {b : Broker} {o : Outcome Entry σ (Option Message)}
    {all : List Partition} {m m' : Member} {ps : List Partition} (h : Undisputed all m ps)
    (hl : m.Looked b o m') : Undisputed all m' ps := by
  have hrest {q : Queued} {rest : List Queued} (hq : m.queue = q :: rest) :
      (q.code = .assignPartitions → m.held = []) ∧ Orderly (q.leaves m.held) rest ∧
        (heldAfter (q.leaves m.held) rest = ps ∨ heldAfter (q.leaves m.held) rest = []) := by
    unfold Undisputed at h
    rw [hq, heldAfter_cons] at h
    exact ⟨h.1.1, h.1.2, h.2⟩
  cases hl with
  | fetched hq =>
    unfold Undisputed
    rw [Member.held_fetch, Member.fetch_frame]
    exact h
  | assigned hq hc hsame hslots =>
    obtain ⟨_, ho, hheld⟩ := hrest hq
    rw [Queued.leaves_of_assign hc, ← hsame, ← Broker.map_partition_slots hslots] at ho hheld
    exact ⟨ho, hheld⟩
  | refused hq hc =>
    obtain ⟨hempty, ho, hheld⟩ := hrest hq
    exact .of_nothing ho hheld (hempty hc)
  | undone hq hc =>
    obtain ⟨hempty, ho, hheld⟩ := hrest hq
    exact .of_nothing ho hheld (hempty hc)
  | revoked hq hc =>
    obtain ⟨_, ho, hheld⟩ := hrest hq
    exact .of_nothing ho hheld rfl
  | passed hq ha hr =>
    obtain ⟨_, ho, hheld⟩ := hrest hq
    rw [Queued.leaves_of_neither ha hr] at ho hheld
    exact ⟨ho, hheld⟩

namespace Chronicle

/-- The members of the group leave what they read to the coordinator, and
nobody sends them notifications by hand. Their callbacks may do
anything. -/
def Coordinated (g : String) (s : Chronicle) : Happening → Prop
  | .asked r => ¬ s.broker.Meddles g r
  | .did _ _ => True

variable {g : String} {s : Chronicle}

/-- In every such run, what members hold is undisputed. -/
theorem Reached.undisputed (h : Reached (Coordinated g) s) : s.broker.Each g Undisputed := by
  induction h with
  | start => exact List.Forall₂.nil
  | @step s h hs ha ih =>
    cases h with
    | asked r => exact ih.perform (upheld_undisputed g) hs.sound ha
    | did c d =>
      refine ih.done (upheld_undisputed g) hs.sound (s.done c d) ?_ ?_
      · exact fun m m' _ _ hl ps hps => hps.looked hl
      · exact fun m _ _ _ _ _ ps hps => .of_nothing hps.1 hps.2 rfl

/-- No two members of the group effectively hold the same partition. -/
theorem Reached.disjoint_effectiveAssignment (h : Reached (Coordinated g) s) {m m' : Member}
    (hm : m ∈ s.broker.members) (hm' : m' ∈ s.broker.members) (hg : m.group = g)
    (hg' : m'.group = g) (hne : m ≠ m') :
    ∀ p ∈ m.effectiveAssignment.partitions, p ∉ m'.effectiveAssignment.partitions := by
  refine h.undisputed.disjoint (f := fun m => m.effectiveAssignment.partitions)
    (fun m ps hR p hp => ?_) hm hm' hg hg' hne
  rw [partitions_effectiveAssignment] at hp
  rcases hR.2 with he | he
  · exact he ▸ hp
  · rw [he] at hp
    cases hp

/-- Whoever was brought a message is still there afterwards. Nothing waits
for it, and it holds the partition that the message is of. -/
theorem exists_member_of_brought {c : Consumer Seat} {x : Message} {m : Member}
    (hm : s.broker.member? c.transport.member = some m)
    (hx : (Happening.outcome s.broker c .look).result = .ok (some x)) :
    ∃ m', (s.after (.did c .look)).broker.member? c.transport.member = some m' ∧
      m'.group = m.group ∧ m'.queue = [] ∧ ∃ p ∈ m'.held, x.partition? = some p := by
  obtain ⟨m₀, hm₀, hq, hfetch, hb⟩ := Consumer.brought_of_look c { broker := s.broker } hx
  cases hm.symm.trans hm₀
  have hb : (s.after (.did c .look)).broker = s.broker.modifyMember c.transport.member fun _ =>
    (m.fetch s.broker.topics).2 := hb
  have hframe := m.fetch_frame s.broker.topics
  obtain ⟨p, hp, hxp⟩ := Member.mem_held_of_fetch hfetch
  refine ⟨(m.fetch s.broker.topics).2, ?_, ?_, ?_, p, ?_, hxp⟩
  · have hid : ∀ m' : Member, m'.id = c.transport.member →
        (m.fetch s.broker.topics).2.id = c.transport.member := by
      intro m' _
      rw [hframe]
      exact (Broker.id_of_member? hm : m.id = _)
    rw [hb, Broker.member?_modifyMember hid, hm]
    rfl
  · rw [hframe]
  · rw [hframe]
    exact hq
  · rw [m.held_fetch]
    exact hp

/-- A poll that brings a member of the group a message brings it of a
partition that the member effectively holds then, and nobody else in the
group does. And members of the group for whom nothing waits have nothing
in common. -/
theorem Reached.exclusive (h : Reached (Coordinated g) s) :
    (∀ c x, s.broker.Has g c.transport.member →
      (Happening.outcome s.broker c .look).result = .ok (some x) →
      (s.after (.did c .look)).broker.Has g c.transport.member ∧
      ∃ p, x.partition? = some p ∧ ∀ m ∈ (s.after (.did c .look)).broker.members, m.group = g →
        (p ∈ m.effectiveAssignment.partitions ↔ m.id = c.transport.member)) ∧
    ∀ m ∈ s.broker.members, ∀ m' ∈ s.broker.members, m.group = g → m'.group = g → m ≠ m' →
      m.queue = [] → m'.queue = [] → ∀ p ∈ m.held, p ∉ m'.held := by
  constructor
  · intro c x ⟨m₀, hm₀, hg⟩ hx
    have hafter : Reached (Coordinated g) (s.after (.did c .look)) := .step h trivial
    obtain ⟨m, hm, hgroup, hqueue, p, hp, hxp⟩ := exists_member_of_brought hm₀ hx
    have hgroup : m.group = g := hgroup.trans hg
    have hpm : p ∈ m.effectiveAssignment.partitions := by
      rw [partitions_effectiveAssignment, hqueue]
      exact hp
    refine ⟨⟨m, hm, hgroup⟩, p, hxp, fun m' hm' hg' => ⟨?_, ?_⟩⟩
    · intro hp'
      by_contra hne
      have hother : m' ≠ m := fun he => hne (he ▸ Broker.id_of_member? hm)
      exact hafter.disjoint_effectiveAssignment hm' (List.mem_of_find?_eq_some hm) hg' hgroup hother
        p hp' hpm
    · intro hid'
      rw [hafter.sound.eq_of_member? hm hm' hid']
      exact hpm
  · intro m hm m' hm' hg hg' hne hq hq' p hp
    have hdisjoint := h.disjoint_effectiveAssignment hm hm' hg hg' hne p
    rw [partitions_effectiveAssignment, partitions_effectiveAssignment, hq, hq'] at hdisjoint
    exact hdisjoint hp

/-- The second member has taken its share, and the first has yet to give it
up: both hold the second partition, which then gets a record. -/
def overlapping : List Happening :=
  joinedLater ++ [.did { transport := ⟨"kafka_group-2", "g"⟩ } .look,
    .asked (.produce ⟨"t", 1⟩ none [])]

/-- It is the second member that gets the record, and only its own. -/
theorem exclusive_overlapping :
    Reached (Coordinated "g") (run overlapping) ∧
      (run overlapping).broker.members.map (fun m => decide (⟨"t", 1⟩ ∈ m.held)) = [true, true] ∧
      ∃ p, (Message.record ⟨"t", 1⟩ 0 none (some [])).partition? = some p ∧
        ∀ m ∈ ((run overlapping).after
            (.did { transport := ⟨"kafka_group-2", "g"⟩ } .look)).broker.members,
          m.group = "g" → (p ∈ m.effectiveAssignment.partitions ↔ m.id = "kafka_group-2") := by
  have h : Reached (Coordinated "g") (run overlapping) := by
    refine .step (.step (.step (.step (.step (.step (.step (.step (.start _) ?_) ?_) ?_) ?_) ?_) ?_)
      trivial) ?_
    · exact fun h => h
    · exact fun h => h
    · rintro ⟨h | h | ⟨_, h⟩, _⟩ <;> cases h
    · trivial
    · exact fun h => h
    · rintro ⟨h | h | ⟨_, h⟩, _⟩ <;> cases h
    · exact fun h => h
  have hmember : (run overlapping).broker.Has "g" "kafka_group-2" := by decide +kernel
  have hrecord : (Happening.outcome (run overlapping).broker
      { transport := ⟨"kafka_group-2", "g"⟩ } .look).result =
        .ok (some (.record ⟨"t", 1⟩ 0 none (some []))) := by decide +kernel
  exact ⟨h, by decide +kernel, ((Reached.exclusive h).1 _ _ hmember hrecord).2⟩

end Chronicle

end ConsumerGroup
