import ConsumerGroup.Proofs.Broker.Queue
import ConsumerGroup.Proofs.Broker.Sound
import Mathlib.Data.List.Pairwise

/-!
# Where the members of a group stand

`Broker.Each` says of every member of a group how it stands to the share
that a rebalance would give it now. A relation that this can be said with
at all times is `Upheld`: it holds of whoever joins, it does not mind
what a member subscribes to, a rebalance sets it right, and more
partitions do no harm.

`Upheld.perform` is the step: nothing that is asked of a broker disturbs
such a relation, as long as nobody meddles with the members of the group
(`Broker.Meddles`): sends them notifications by hand, takes what waits
for them, or changes what they read. What those who may do that do is
proved where they are. Every theorem about a whole group starts from
here, with a relation of its own.

Why it holds is that every request which changes somebody's share ends
with a rebalance of the group, and that no other request changes any
(`shares_congr`).

A relation may speak of all partitions there are, of the member and of the
share, and has to bear that the partitions become more. Members of other
groups are not spoken of at all.
-/

namespace ConsumerGroup

namespace Broker

/-- Of each member of a group and the share that a rebalance would give
it, given the partitions there are. -/
def Each (b : Broker) (g : String) (R : List Partition → Member → List Partition → Prop) : Prop :=
  List.Forall₂ (fun m s => m.group = g → R b.topics.partitions m (s.getD [])) b.members (b.shares g)

/-- The id is that of a member of the group. -/
def Has (b : Broker) (g id : String) : Prop := ∃ m, b.member? id = some m ∧ m.group = g

instance (b : Broker) (g id : String) : Decidable (b.Has g id) :=
  decidable_of_iff ((b.member? id).any (·.group == g) = true) (by simp [Has, Option.any_eq_true])

/-- The request reaches into what a member of the group has or is about
to read: a notification by hand, a poll, or a change of what it reads. -/
def Meddles (b : Broker) (g : String) : Request → Prop
  | .notify id _ _ => b.Has g id
  | .member id r => (r = .next ∨ r = .unassign ∨ ∃ ps, r = .assign ps) ∧ b.Has g id
  | _ => False

end Broker

/-- A relation between a member of a group and its share that the broker
keeps to by itself. -/
structure Upheld (g : String) (R : List Partition → Member → List Partition → Prop) : Prop where
  grows {all all' : List Partition} {m : Member} {ps : List Partition} :
    all.Sublist all' → R all m ps → R all' m ps
  joins (all : List Partition) (id : String) (options : MemberOptions) : R all { id, options } []
  subscribes {all : List Partition} {m : Member} {ps : List Partition}
    (subscription : List Subscription) : R all m ps → R all { m with subscription } ps
  deals {all : List Partition} {m : Member} {ps : List Partition} {s : Option (List Partition)} :
    m.group = g → (s.getD []).Sublist all → R all m ps → R all (m.rebalanced g s) (s.getD [])

namespace Broker

variable {g : String} {R R' : List Partition → Member → List Partition → Prop} {b b' : Broker}

/-- Who is of the group is part of what is at stake. -/
theorem group_eq_of_stake {m m' : Member} (h : m'.stake g = m.stake g) :
    m'.group = g ↔ m.group = g := by
  unfold Member.stake at h
  by_cases hm : m.group = g <;> by_cases hm' : m'.group = g <;> simp_all

/-- Members who stand as before, and whose shares are the same. -/
theorem Each.congr (h : b.Each g R)
    (hm : List.Forall₂ (fun m m' => m'.stake g = m.stake g ∧ (m.group = g →
      ∀ ps, R b.topics.partitions m ps → R' b'.topics.partitions m' ps)) b.members b'.members)
    (ht : b'.topics.partitions.filter (b.Covers g ·.topic) =
      b.topics.partitions.filter (b.Covers g ·.topic)) :
    b'.Each g R' := by
  have hshares : b'.shares g = b.shares g := shares_congr (hm.imp fun _ _ h => h.1) ht
  unfold Each at h ⊢
  rw [hshares]
  generalize b.shares g = ss at h
  generalize b.members = ms, b'.members = ms' at h hm
  induction hm generalizing ss with
  | nil => cases h; exact List.Forall₂.nil
  | cons hmm _ ih =>
    cases h with
    | cons hms h =>
      refine List.Forall₂.cons ?_ (ih _ h)
      intro hg
      have hg' := (group_eq_of_stake hmm.1).mp hg
      exact hmm.2 hg' _ (hms hg')

/-- Every member of the group stands to some share as the relation
says. -/
def Placed (b : Broker) (g : String) (R : List Partition → Member → List Partition → Prop) : Prop :=
  ∀ m ∈ b.members, m.group = g → ∃ ps, R b.topics.partitions m ps

/-- Every member of the group stands with the share in its own place. -/
theorem Each.exists_share (h : b.Each g R) {m : Member} (hm : m ∈ b.members) (hg : m.group = g) :
    ∃ s ∈ b.shares g, R b.topics.partitions m (s.getD []) := by
  obtain ⟨i, hi, rfl⟩ := List.getElem_of_mem hm
  have hlen : i < (b.shares g).length := h.length_eq ▸ hi
  exact ⟨(b.shares g)[i], List.getElem_mem hlen, h.get hi hlen hg⟩

/-- If each stands so with its share, all are placed so. -/
theorem Each.placed (h : b.Each g R) : b.Placed g R := fun _ hm hg =>
  have ⟨s, _, hR⟩ := h.exists_share hm hg
  ⟨s.getD [], hR⟩

/-! ## Shares that are held -/

theorem pairwise_of_forall₂ {α β : Type} {P : α → β → Prop} {Q : β → β → Prop} {T : α → α → Prop}
    (hT : ∀ a a' x x', P a x → P a' x' → Q x x' → T a a') {as : List α} {xs : List β}
    (h : List.Forall₂ P as xs) (hQ : xs.Pairwise Q) : as.Pairwise T := by
  rw [List.pairwise_iff_getElem] at hQ ⊢
  intro i j hi hj hij
  have hi' : i < xs.length := h.length_eq ▸ hi
  have hj' : j < xs.length := h.length_eq ▸ hj
  exact hT _ _ _ _ (h.get hi hi') (h.get hj hj') (hQ i j hi' hj' hij)

/-- While everybody in the group has no more than its share, no two of them
have a partition in common. -/
theorem Each.disjoint (h : b.Each g R) {f : Member → List Partition}
    (hf : ∀ m ps, R b.topics.partitions m ps → ∀ p ∈ f m, p ∈ ps) {m m' : Member}
    (hm : m ∈ b.members) (hm' : m' ∈ b.members) (hg : m.group = g) (hg' : m'.group = g)
    (hne : m ≠ m') : ∀ p ∈ f m, p ∉ f m' := by
  let T (m m' : Member) : Prop := m.group = g → m'.group = g → ∀ p, ¬ (p ∈ f m ∧ p ∈ f m')
  have hT : b.members.Pairwise T := by
    refine pairwise_of_forall₂ (fun m m' s s' hR hR' hss hg hg' p ⟨hp, hp'⟩ => ?_) h
      pairwise_shares
    exact hss p (hf m _ (hR hg) p hp) (hf m' _ (hR' hg') p hp')
  have : Std.Symm T := ⟨fun m m' h hg' hg p ⟨hp', hp⟩ => h hg hg' p ⟨hp, hp'⟩⟩
  exact fun p hp hp' => hT.forall hm hm' hne hg hg' p ⟨hp, hp'⟩

/-- While everybody in the group has all of its share, somebody has each
partition that the group covers. -/
theorem Each.exists_member_of_covers (h : b.Each g R) {f : Member → List Partition}
    (hf : ∀ m ps, R b.topics.partitions m ps → ∀ p ∈ ps, p ∈ f m) {p : Partition}
    (hp : p ∈ b.topics.partitions) (hc : b.Covers g p.topic) :
    ∃ m ∈ b.members, m.group = g ∧ p ∈ f m := by
  obtain ⟨s, hs, hps⟩ := exists_share_of_covers hp hc
  obtain ⟨i, hi, rfl⟩ := List.getElem_of_mem hs
  have hi' : i < b.members.length := h.length_eq ▸ hi
  have hg : b.members[i].group = g := by
    by_contra hne
    have hnone : (b.shares g)[i] = none :=
      (forall₂_sharesFrom_group (b.dealt g) 0 b.members).get hi' hi hne
    rw [hnone] at hps
    cases hps
  exact ⟨b.members[i], List.getElem_mem hi', hg, hf _ _ (h.get hi' hi hg) p hps⟩

/-! ## Rebalances -/

/-- To deal to one group changes the shares of none. -/
theorem shares_rebalanced (b : Broker) (g g' : String) :
    (b.rebalanced g').shares g = b.shares g :=
  shares_congr (forall₂_rebalanced fun m s _ => stake_rebalanced g g' m s) rfl

/-- A rebalance sets right where everybody in the group stands. -/
theorem Placed.rebalanced (hR : Upheld g R) (h : b.Placed g R) : (b.rebalanced g).Each g R := by
  unfold Each
  rw [shares_rebalanced]
  apply forall₂_rebalanced_shares
  intro m hm s hs hg
  have hg : m.group = g := (group_eq_of_stake (stake_rebalanced g g m s)).mp hg
  obtain ⟨ps, hps⟩ := h m hm hg
  exact hR.deals hg (sublist_of_mem_shares (b := b) hs) hps

/-- The rebalance of another group changes nothing. -/
theorem Each.rebalanced_of_ne {g' : String} (hg : g' ≠ g) (h : b.Each g R) :
    (b.rebalanced g').Each g R := by
  refine h.congr (forall₂_rebalanced fun m s _ => ⟨stake_rebalanced g g' m s, ?_⟩) rfl
  intro hm ps hps
  rwa [Member.rebalanced_of_ne (hm.trans_ne hg.symm)]

/-- Where the members of the group are placed is nothing to the rebalance of
another. -/
theorem Placed.rebalanced_of_ne {g' : String} (hg : g' ≠ g) (h : b.Placed g R) :
    (b.rebalanced g').Placed g R := by
  intro m' hm' hg'
  obtain ⟨m, hm, s, _, rfl⟩ := mem_members_rebalanced hm'
  have hm' : m.group = g := (group_eq_of_stake (stake_rebalanced g g' m s)).mp hg'
  rw [Member.rebalanced_of_ne (hm'.trans_ne hg.symm)]
  exact h m hm hm'

/-- Several groups rebalance: wherever everybody stood, it is set right if
the group is one of them; otherwise it has to have been right. -/
theorem Placed.rebalancedAll (hR : Upheld g R) {groups : List String} (h : b.Placed g R)
    (hne : g ∉ groups → b.Each g R) : (b.rebalancedAll groups).Each g R := by
  unfold Broker.rebalancedAll
  induction groups generalizing b with
  | nil => exact hne (List.not_mem_nil)
  | cons g' groups ih =>
    by_cases hg : g' = g
    · subst hg
      have := h.rebalanced hR
      exact ih this.placed fun _ => this
    · refine ih (h.rebalanced_of_ne hg) fun hn => (hne ?_).rebalanced_of_ne hg
      exact List.not_mem_cons_of_ne_of_not_mem (Ne.symm hg) hn

/-- A relation that rebalances uphold holds after them. -/
theorem Each.rebalanced (hR : Upheld g R) (h : b.Each g R) (g' : String) :
    (b.rebalanced g').Each g R := by
  by_cases hg : g' = g
  · subst hg
    exact h.placed.rebalanced hR
  · exact h.rebalanced_of_ne hg

/-- A new topic moves the cards of no group that does not cover it, and
the groups that do rebalance. -/
theorem Each.topicCreated (hR : Upheld g R) (h : b.Each g R) {t : Topic}
    (ht : t.name ∉ b.topics.names) :
    (({ b with topics := b.topics.insert t } : Broker).rebalancedAll
      (({ b with topics := b.topics.insert t } : Broker).groupsCovering t.name)).Each g R := by
  have hgrows {m : Member} {ps : List Partition} (hm : R b.topics.partitions m ps) :
      R (b.topics.insert t).partitions m ps :=
    hR.grows (Topics.partitions_sublist_insert ht) hm
  refine Placed.rebalancedAll hR ?_ ?_
  · intro m hm hg
    obtain ⟨ps, hps⟩ := h.placed m hm hg
    exact ⟨ps, hgrows hps⟩
  · intro hn
    refine h.congr (List.forall₂_same.mpr fun m _ => ⟨rfl, fun _ ps => hgrows⟩) ?_
    refine Topics.filter_partitions_insert (P := fun n => decide (b.Covers g n)) ht ?_
    exact decide_eq_false fun hc => hn (mem_groupsCovering.mpr hc)

/-! ## Members that join, change and leave -/

/-- Whoever joins stands with an empty share, and so with nothing. -/
theorem Each.connected (hR : Upheld g R) (h : b.Each g R) (id : String) (options : MemberOptions)
    (joined : Nat) :
    ({ b with members := b.members ++ [{ id, options }], joined } : Broker).Each g R := by
  have hidle : ({ id, options } : Member).isActive g = false := by simp [Member.isActive]
  have hdealt : ({ b with members := b.members ++ [{ id, options }], joined } : Broker).dealt g =
      b.dealt g := by
    unfold dealt active
    simp [hidle]
  unfold Each shares
  rw [hdealt, sharesFrom_append_idle hidle]
  exact List.rel_append h (List.Forall₂.cons (fun _ => hR.joins _ id options) List.Forall₂.nil)

/-- A change of one member, by its id. -/
theorem forall₂_modifyMember (hs : b.Sound) {id : String} {m : Member} (hm : b.member? id = some m)
    {f : Member → Member} {P : Member → Member → Prop} (hf : P m (f m)) (hP : ∀ m, P m m) :
    List.Forall₂ P b.members (b.modifyMember id f).members := by
  unfold modifyMember
  rw [List.forall₂_map_right_iff, List.forall₂_same]
  intro m' hm'
  split
  · next hid => rwa [hs.eq_of_member? hm hm' hid]
  · exact hP m'

/-- A member that still stands where it stood may change, if it does not
change its subscriptions. -/
theorem Each.modifyMember (hs : b.Sound) (h : b.Each g R) {id : String} {m : Member}
    (hm : b.member? id = some m) {f : Member → Member} (hstake : (f m).stake g = m.stake g)
    (hf : m.group = g → ∀ ps, R b.topics.partitions m ps → R b.topics.partitions (f m) ps) :
    (b.modifyMember id f).Each g R :=
  h.congr (forall₂_modifyMember hs hm ⟨hstake, hf⟩ fun _ => ⟨rfl, fun _ _ h => h⟩) rfl

/-- A member of the group subscribes to other topics, and the group
rebalances; in another group it is no concern of this one. -/
theorem Each.resubscribed (hR : Upheld g R) (hs : b.Sound) (h : b.Each g R) {id : String}
    {m : Member} (hm : b.member? id = some m) (subscription : List Subscription) :
    ((b.modifyMember id fun m => { m with subscription }).rebalanced m.group).Each g R := by
  by_cases hg : m.group = g
  · subst hg
    apply Placed.rebalanced hR
    intro m₁ hm₁ hg₁
    obtain ⟨m₀, hm₀, rfl⟩ := List.mem_map.mp hm₁
    by_cases hid : m₀.id = id
    · rw [if_pos hid] at hg₁ ⊢
      obtain ⟨ps, hps⟩ := h.placed m₀ hm₀ hg₁
      exact ⟨ps, hR.subscribes subscription hps⟩
    · rw [if_neg hid] at hg₁ ⊢
      exact h.placed m₀ hm₀ hg₁
  · apply Each.rebalanced_of_ne hg
    refine h.modifyMember hs hm ?_ fun hm => absurd hm hg
    unfold Member.stake
    rw [if_neg hg, if_neg hg]

/-- A member leaves. Nobody's share in another group changes. -/
theorem Each.left (hR : Upheld g R) (hs : b.Sound) (h : b.Each g R) {id : String} {m : Member}
    (hm : b.member? id = some m) :
    (({ b with members := b.members.filter (·.id ≠ id) } : Broker).rebalanced m.group).Each g R := by
  by_cases hg : m.group = g
  · subst hg
    apply Placed.rebalanced hR
    intro m₁ hm₁ hg₁
    exact h.placed m₁ (List.mem_of_mem_filter hm₁) hg₁
  · apply Each.rebalanced_of_ne hg
    have hkept : ∀ m' ∈ b.members, m'.isActive g = true → decide (m'.id ≠ id) = true := by
      intro m' hm' ha
      refine decide_eq_true fun hid => hg ?_
      rw [← hs.eq_of_member? hm hm' hid]
      simp only [Member.isActive, Bool.and_eq_true, beq_iff_eq] at ha
      exact ha.1
    unfold Each shares dealt
    rw [active_filter hkept]
    exact forall₂_sharesFrom_filter hkept h

/-! ## What is asked of a broker -/

/-- What is asked of a broker leaves everybody in the group where they
stand, unless it meddles with them. -/
theorem Each.perform (hR : Upheld g R) (hs : b.Sound) {r : Request} (hr : ¬ b.Meddles g r)
    (h : b.Each g R) : (b.perform r).broker.Each g R := by
  have hchanged := b.perform_changed r
  generalize (b.perform r).broker = b' at hchanged
  have other {id : String} {m : Member} {f : Member → Member} (hm : b.member? id = some m)
      (hg : m.group ≠ g) (hf : (f m).group = m.group) : (b.modifyMember id f).Each g R := by
    refine h.modifyMember hs hm ?_ fun hm => absurd hm hg
    unfold Member.stake
    rw [hf, if_neg hg, if_neg hg]
  cases hchanged with
  | nothing => exact h
  | topicCreated b₁ hname hb => subst hb; exact h.topicCreated hR hname
  | appended hl | dropped hl =>
    refine h.congr (List.forall₂_same.mpr fun m _ => ⟨rfl, ?_⟩) ?_
    · intro _ ps hps
      rwa [Topics.partitions_modifyLog]
    · rw [Topics.partitions_modifyLog]
  | connected ho => exact h.connected hR _ _ _
  | rebalanced => exact h.rebalanced hR _
  | notified hm => exact other hm (fun hg => hr ⟨_, hm, hg⟩) rfl
  | resubscribed _ hm => exact h.resubscribed hR hs hm _
  | assigned _ hm => exact other hm (fun hg => hr ⟨.inr (.inr ⟨_, rfl⟩), _, hm, hg⟩) rfl
  | unassigned hm => exact other hm (fun hg => hr ⟨.inr (.inl rfl), _, hm, hg⟩) rfl
  | looked hm => exact other hm (fun hg => hr ⟨.inl rfl, _, hm, hg⟩) (group_next _ _)
  | @committed _ m offsets _ hm hf =>
    obtain ⟨ht, hms, _⟩ := b.putAllCommitted_frame m.group offsets
    refine h.congr ?_ ?_
    · rw [hms]
      exact List.forall₂_same.mpr fun m _ => ⟨rfl, fun _ ps hps => by rwa [ht]⟩
    · rw [ht]
  | left hm => exact h.left hR hs hm

end Broker

end ConsumerGroup
