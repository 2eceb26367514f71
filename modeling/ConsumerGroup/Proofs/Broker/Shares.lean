import ConsumerGroup.Proofs.Broker.Deal
import ConsumerGroup.Proofs.Broker.Topics
import Mathlib.Data.List.Forall2

/-!
# Shares

What a rebalance of a group would give each member (`Broker.shares`),
and what that depends on: of the members only what the group's own
subscribe to (`Member.stake`), and of the topics only those that somebody
in the group covers. Whatever leaves these alone leaves every share
alone (`shares_congr`).

Shares are parts of what there is, in its order; no two of them have a
partition in common, and together they hold every partition of every
topic that is covered.

The members are walked along with the number of those before them that take
part, which is their place at the table (`sharesFrom`); a fact about shares
is a fact about that walk, for any place it may begin at.
-/

namespace ConsumerGroup

/-- What the dealing of a group sees of a member: its subscriptions, if
it belongs to the group. -/
def Member.stake (g : String) (m : Member) : Option (List Subscription) :=
  if m.group = g then some m.subscription else none

theorem Member.isActive_of_stake {g : String} {m m' : Member} (h : m'.stake g = m.stake g) :
    m'.isActive g = m.isActive g := by
  have active (m : Member) : m.isActive g = (m.stake g).any fun s => !s.isEmpty := by
    unfold Member.isActive Member.stake
    by_cases hg : m.group = g <;> simp [hg]
  rw [active, active, h]

theorem Member.covers_of_stake {g : String} {m m' : Member} (h : m'.stake g = m.stake g)
    (hm : m.isActive g = true) : m'.covers = m.covers := by
  have hg : m.group = g := by
    simp only [Member.isActive, Bool.and_eq_true, beq_iff_eq] at hm
    exact hm.1
  unfold Member.stake at h
  rw [if_pos hg] at h
  split at h
  · funext topic
    unfold Member.covers
    rw [Option.some.inj h]
  · cases h

/-- Who covers a topic takes part in the dealing. -/
theorem Member.isActive_of_covers {g topic : String} {m : Member} (hg : m.group = g)
    (h : m.covers topic = true) : m.isActive g = true := by
  unfold Member.isActive
  cases hs : m.subscription with
  | nil => simp [Member.covers, hs] at h
  | cons s rest => simp [hg]

namespace Broker

/-- Somebody in the group covers the topic. -/
def Covers (b : Broker) (g topic : String) : Prop :=
  ∃ m ∈ b.members, m.group = g ∧ m.covers topic = true

instance (b : Broker) (g topic : String) : Decidable (b.Covers g topic) :=
  inferInstanceAs (Decidable (∃ m ∈ b.members, m.group = g ∧ m.covers topic = true))

/-- The groups that cover a topic are those with a member that takes part and
covers it. -/
theorem mem_groupsCovering {b : Broker} {g topic : String} :
    g ∈ b.groupsCovering topic ↔ b.Covers g topic := by
  unfold groupsCovering Covers
  rw [List.mem_eraseDups, List.mem_mergeSort, List.mem_map]
  simp only [List.mem_filter]
  constructor
  · rintro ⟨m, ⟨hm, hc⟩, hg⟩
    exact ⟨m, hm, hg, hc⟩
  · rintro ⟨m, hm, hg, hc⟩
    exact ⟨m, ⟨hm, hc⟩, hg⟩

/-- A topic is taken by somebody in the deal just where the group covers it. -/
theorem taken_active_iff {b : Broker} {g topic : String} :
    Taken ((b.active g).map Member.covers) topic ↔ b.Covers g topic := by
  unfold Taken Covers active
  simp only [List.mem_map, List.mem_filter]
  constructor
  · rintro ⟨_, ⟨m, ⟨hm, ha⟩, rfl⟩, ht⟩
    simp only [Member.isActive, Bool.and_eq_true, beq_iff_eq] at ha
    exact ⟨m, hm, ha.1, ht⟩
  · rintro ⟨m, hm, hg, ht⟩
    exact ⟨m.covers, ⟨m, ⟨hm, Member.isActive_of_covers hg ht⟩, rfl⟩, ht⟩

/-! ## What shares depend on -/

variable {g : String}

/-- Shares depend on the deal and on what members have at stake, and on
nothing else about them. -/
theorem sharesFrom_congr {d d' : List (Partition × Option Nat)}
    (hd : ∀ i, shareAt d' i = shareAt d i) {ms ms' : List Member}
    (hm : List.Forall₂ (fun m m' => m'.stake g = m.stake g) ms ms') (i : Nat) :
    sharesFrom g d' i ms' = sharesFrom g d i ms := by
  induction hm generalizing i with
  | nil => rfl
  | cons h _ ih =>
    unfold sharesFrom
    rw [Member.isActive_of_stake h, hd, ih, ih]

/-- What those who take part cover is part of what they have at stake. -/
theorem covers_active_congr {ms ms' : List Member}
    (hm : List.Forall₂ (fun m m' => m'.stake g = m.stake g) ms ms') :
    (ms'.filter (·.isActive g)).map Member.covers = (ms.filter (·.isActive g)).map Member.covers := by
  induction hm with
  | nil => rfl
  | @cons m m' ms ms' h _ ih =>
    rw [List.filter_cons, List.filter_cons, Member.isActive_of_stake h]
    split
    · next ha => rw [List.map_cons, List.map_cons, ih, Member.covers_of_stake h ha]
    · exact ih

/-- Shares stay what they are while the subscriptions in the group do,
and the partitions of the topics that are covered. -/
theorem shares_congr {b b' : Broker}
    (hm : List.Forall₂ (fun m m' => m'.stake g = m.stake g) b.members b'.members)
    (ht : b'.topics.partitions.filter (b.Covers g ·.topic) =
      b.topics.partitions.filter (b.Covers g ·.topic)) :
    b'.shares g = b.shares g := by
  refine sharesFrom_congr ?_ hm 0
  intro i
  have hplayers : (b'.active g).map Member.covers = (b.active g).map Member.covers :=
    covers_active_congr hm
  have htaken (ps : List Partition) :
      ps.filter (Taken ((b.active g).map Member.covers) ·.topic) =
        ps.filter (b.Covers g ·.topic) :=
    List.filter_congr fun p _ => decide_eq_decide.mpr taken_active_iff
  unfold dealt
  rw [hplayers, ← shareAt_deal_filter, htaken, ht, ← htaken, shareAt_deal_filter]

/-! ## What shares are -/

/-- Everybody has a share, or none, in their own place. -/
theorem length_sharesFrom (d : List (Partition × Option Nat)) (i : Nat) (ms : List Member) :
    (sharesFrom g d i ms).length = ms.length := by
  induction ms generalizing i with
  | nil => rfl
  | cons m ms ih =>
    unfold sharesFrom
    split <;> simp [ih]

/-- A share from the `i`-th place on is what is dealt to one of these
places, or none. -/
theorem mem_sharesFrom {d : List (Partition × Option Nat)} {i : Nat} {ms : List Member}
    {s : Option (List Partition)} (h : s ∈ sharesFrom g d i ms) :
    s = none ∨ ∃ j, i ≤ j ∧ s = some (shareAt d j) := by
  induction ms generalizing i with
  | nil => cases h
  | cons m ms ih =>
    unfold sharesFrom at h
    split at h
    · rcases List.mem_cons.mp h with rfl | h
      · exact .inr ⟨i, Nat.le_refl i, rfl⟩
      · rcases ih h with rfl | ⟨j, hj, rfl⟩
        · exact .inl rfl
        · exact .inr ⟨j, by omega, rfl⟩
    · rcases List.mem_cons.mp h with rfl | h
      · exact .inl rfl
      · exact ih h

/-- Every place of a player has its share among the shares. -/
theorem shareAt_mem_sharesFrom {d : List (Partition × Option Nat)} {i j : Nat} {ms : List Member}
    (hj : j < (ms.filter (·.isActive g)).length) :
    some (shareAt d (i + j)) ∈ sharesFrom g d i ms := by
  induction ms generalizing i j with
  | nil => simp at hj
  | cons m ms ih =>
    unfold sharesFrom
    rw [List.filter_cons] at hj
    split at hj
    · next ha =>
      rw [if_pos ha]
      cases j with
      | zero => exact List.mem_cons_self
      | succ j =>
        have := ih (i := i + 1) (j := j) (by simpa using hj)
        rw [show i + (j + 1) = i + 1 + j by omega]
        exact List.mem_cons_of_mem _ this
    · next ha =>
      rw [if_neg ha]
      exact List.mem_cons_of_mem _ (ih hj)

/-- Members of other groups get no share. -/
theorem forall₂_sharesFrom_group (d : List (Partition × Option Nat)) (i : Nat) (ms : List Member) :
    List.Forall₂ (fun m s => m.group ≠ g → s = none) ms (sharesFrom g d i ms) := by
  induction ms generalizing i with
  | nil => exact List.Forall₂.nil
  | cons m ms ih =>
    unfold sharesFrom
    split
    · next ha =>
      refine List.Forall₂.cons (fun hne => absurd ?_ hne) (ih (i + 1))
      simp only [Member.isActive, Bool.and_eq_true, beq_iff_eq] at ha
      exact ha.1
    · exact List.Forall₂.cons (fun _ => rfl) (ih i)

/-- Whoever takes part has a share, be it empty. -/
theorem forall₂_sharesFrom_active (d : List (Partition × Option Nat)) (i : Nat) (ms : List Member) :
    List.Forall₂ (fun m s => m.isActive g = true → ∃ ps, s = some ps) ms (sharesFrom g d i ms) := by
  induction ms generalizing i with
  | nil => exact List.Forall₂.nil
  | cons m ms ih =>
    unfold sharesFrom
    split
    · exact List.Forall₂.cons (fun _ => ⟨_, rfl⟩) (ih (i + 1))
    · next hidle => exact List.Forall₂.cons (fun hactive => absurd hactive hidle) (ih i)

/-- Whoever takes part has a share, and nobody else has. -/
theorem forall₂_sharesFrom_isSome (d : List (Partition × Option Nat)) (i : Nat) (ms : List Member) :
    List.Forall₂ (fun m s => s.isSome = m.isActive g) ms (sharesFrom g d i ms) := by
  induction ms generalizing i with
  | nil => exact List.Forall₂.nil
  | cons m ms ih =>
    unfold sharesFrom
    cases ha : m.isActive g with
    | true => exact List.Forall₂.cons ha.symm (ih (i + 1))
    | false => exact List.Forall₂.cons ha.symm (ih i)

/-- What holds of every player and what is dealt to his place holds of
every member and its share. -/
theorem forall₂_sharesFrom {P : Member → List Partition → Prop}
    {d : List (Partition × Option Nat)} {i : Nat} {ms : List Member}
    (h : ∀ j m, (ms.filter (·.isActive g))[j]? = some m → P m (shareAt d (i + j))) :
    List.Forall₂ (fun m s => ∀ ps, s = some ps → P m ps) ms (sharesFrom g d i ms) := by
  induction ms generalizing i with
  | nil => exact List.Forall₂.nil
  | cons m ms ih =>
    unfold sharesFrom
    split
    · next ha =>
      rw [List.filter_cons, if_pos ha] at h
      refine List.Forall₂.cons ?_ (ih fun j m' hm' => ?_)
      · rintro _ ⟨⟩
        exact h 0 m rfl
      · rw [Nat.add_right_comm]
        exact h (j + 1) m' hm'
    · next ha =>
      rw [List.filter_cons, if_neg ha] at h
      exact List.Forall₂.cons nofun (ih h)

/-- A share is part of what there is, in its order. -/
theorem sublist_of_mem_shares {b : Broker} {s : Option (List Partition)} (h : s ∈ b.shares g) :
    (s.getD []).Sublist b.topics.partitions := by
  rcases mem_sharesFrom h with rfl | ⟨j, _, rfl⟩
  · exact List.nil_sublist _
  · have := shareAt_sublist (b.dealt g) j
    rwa [dealt, map_fst_deal] at this

/-- No partition is in two shares. -/
theorem pairwise_sharesFrom {d : List (Partition × Option Nat)} (hd : (d.map Prod.fst).Nodup)
    (i : Nat) (ms : List Member) :
    (sharesFrom g d i ms).Pairwise fun s t => ∀ p ∈ s.getD [], p ∉ t.getD [] := by
  induction ms generalizing i with
  | nil => exact List.Pairwise.nil
  | cons m ms ih =>
    unfold sharesFrom
    split
    · refine List.Pairwise.cons ?_ (ih (i + 1))
      intro t ht p hp
      rcases mem_sharesFrom ht with rfl | ⟨j, hj, rfl⟩
      · simp
      · exact disjoint_shareAt hd (by omega) hp
    · exact List.Pairwise.cons (fun t _ p hp => by cases hp) (ih i)

/-- No two shares have a partition in common. -/
theorem pairwise_shares {b : Broker} :
    (b.shares g).Pairwise fun s t => ∀ p ∈ s.getD [], p ∉ t.getD [] := by
  refine pairwise_sharesFrom ?_ 0 b.members
  rw [dealt, map_fst_deal]
  exact b.topics.nodup_partitions

/-- What somebody in the group covers is in one of the shares. -/
theorem exists_share_of_covers {b : Broker} {p : Partition} (hp : p ∈ b.topics.partitions)
    (hc : b.Covers g p.topic) : ∃ s ∈ b.shares g, p ∈ s.getD [] := by
  obtain ⟨i, hi, hm⟩ := @exists_mem_shareAt _ 0 _ _ hp (taken_active_iff.mpr hc)
  rw [List.length_map] at hi
  exact ⟨_, shareAt_mem_sharesFrom (i := 0) hi, by rwa [Nat.zero_add]⟩

/-- What is in a share is covered by somebody in the group. -/
theorem covers_of_mem_shares {b : Broker} {s : Option (List Partition)} (h : s ∈ b.shares g)
    {p : Partition} (hp : p ∈ s.getD []) : b.Covers g p.topic := by
  rcases mem_sharesFrom h with rfl | ⟨j, _, rfl⟩
  · cases hp
  · obtain ⟨f, hf, htakes⟩ := takes_of_mem_shareAt hp
    exact taken_active_iff.mp ⟨f, List.mem_of_getElem? hf, htakes⟩

/-! ## Members that take no part -/

/-- Whoever takes no part, and comes last, changes nothing about the shares
before. -/
theorem sharesFrom_append_idle {m : Member} (hm : m.isActive g = false)
    (d : List (Partition × Option Nat)) (i : Nat) (ms : List Member) :
    sharesFrom g d i (ms ++ [m]) = sharesFrom g d i ms ++ [none] := by
  induction ms generalizing i with
  | nil => simp [sharesFrom, hm]
  | cons m' ms ih =>
    rw [List.cons_append]
    unfold sharesFrom
    split <;> rw [ih, List.cons_append]

/-- Who takes no part in the dealing can go, and the others keep their
shares. -/
theorem forall₂_sharesFrom_filter {P : Member → Option (List Partition) → Prop}
    {d : List (Partition × Option Nat)} {q : Member → Bool} {i : Nat} {ms : List Member}
    (hq : ∀ m ∈ ms, m.isActive g = true → q m = true)
    (h : List.Forall₂ P ms (sharesFrom g d i ms)) :
    List.Forall₂ P (ms.filter q) (sharesFrom g d i (ms.filter q)) := by
  induction ms generalizing i with
  | nil => exact List.Forall₂.nil
  | cons m ms ih =>
    have hq' : ∀ m ∈ ms, m.isActive g = true → q m = true := fun m hm =>
      hq m (List.mem_cons_of_mem _ hm)
    unfold sharesFrom at h
    rw [List.filter_cons]
    split at h
    · next ha =>
      rw [List.forall₂_cons] at h
      rw [if_pos (hq m List.mem_cons_self ha)]
      unfold sharesFrom
      rw [if_pos ha]
      exact List.Forall₂.cons h.1 (ih hq' h.2)
    · next ha =>
      rw [List.forall₂_cons] at h
      split
      · unfold sharesFrom
        rw [if_neg ha]
        exact List.Forall₂.cons h.1 (ih hq' h.2)
      · exact ih hq' h.2

/-- Those who take part do so without those who do not. -/
theorem active_filter {b : Broker} {q : Member → Bool}
    (hq : ∀ m ∈ b.members, m.isActive g = true → q m = true) :
    ({ b with members := b.members.filter q } : Broker).active g = b.active g := by
  unfold active
  rw [List.filter_filter]
  apply List.filter_congr
  intro m hm
  cases ha : m.isActive g with
  | false => rfl
  | true => rw [hq m hm ha]; rfl

/-! ## What a rebalance does to the members -/

/-- To be dealt to changes nothing about what a member has at stake. -/
theorem stake_rebalanced (g g' : String) (m : Member) (s : Option (List Partition)) :
    (m.rebalanced g' s).stake g = m.stake g := by
  unfold Member.rebalanced
  split <;> rfl

/-- What holds of each member after it is told its share holds of all the
members after a rebalance. -/
theorem forall₂_rebalanced_shares {b : Broker} {P : Member → Option (List Partition) → Prop}
    (h : ∀ m ∈ b.members, ∀ s ∈ b.shares g, P (m.rebalanced g s) s) :
    List.Forall₂ P (b.rebalanced g).members (b.shares g) := by
  have hlen : b.members.length = (b.shares g).length := (length_sharesFrom _ 0 _).symm
  show List.Forall₂ P (List.zipWith (Member.rebalanced g) b.members (b.shares g)) (b.shares g)
  refine List.forall₂_iff_get.mpr ⟨?_, ?_⟩
  · rw [List.length_zipWith, hlen, Nat.min_self]
  · intro i hi hs
    have hm : i < b.members.length := hlen ▸ hs
    rw [List.get_eq_getElem, List.get_eq_getElem, List.getElem_zipWith]
    exact h _ (List.getElem_mem hm) _ (List.getElem_mem hs)

/-- A rebalance changes each member by itself. -/
theorem forall₂_rebalanced {b : Broker} {P : Member → Member → Prop}
    (h : ∀ m s, (m, s) ∈ b.members.zip (b.shares g) → P m (m.rebalanced g s)) :
    List.Forall₂ P b.members (b.rebalanced g).members := by
  have hlen : b.members.length = (b.shares g).length := (length_sharesFrom _ 0 _).symm
  show List.Forall₂ P b.members (List.zipWith (Member.rebalanced g) b.members (b.shares g))
  generalize b.members = ms, b.shares g = ss at h hlen
  induction ms generalizing ss with
  | nil => exact List.Forall₂.nil
  | cons m ms ih =>
    cases ss with
    | nil => cases hlen
    | cons s ss =>
      refine List.Forall₂.cons (h m s List.mem_cons_self) (ih ss ?_ ?_)
      · intro m' s' h'
        exact h m' s' (List.mem_cons_of_mem _ h')
      · exact Nat.succ.inj hlen

/-- Whoever is there after a rebalance was there before, and has been dealt
to. -/
theorem mem_members_rebalanced {b : Broker} {m' : Member} (h : m' ∈ (b.rebalanced g).members) :
    ∃ m ∈ b.members, ∃ s ∈ b.shares g, m' = m.rebalanced g s := by
  unfold rebalanced at h
  rw [← List.map_uncurry_zip_eq_zipWith, List.mem_map] at h
  obtain ⟨⟨m, s⟩, hms, rfl⟩ := h
  exact ⟨m, (List.of_mem_zip hms).1, s, (List.of_mem_zip hms).2, rfl⟩

/-- What no rebalance changes in a member is the same for all of them
afterwards. -/
theorem map_rebalanced {α : Type} (f : Member → α) (hf : ∀ m s, f (m.rebalanced g s) = f m)
    (b : Broker) : (b.rebalanced g).members.map f = b.members.map f := by
  rw [← List.forall₂_eq_eq_eq, List.forall₂_map_left_iff, List.forall₂_map_right_iff]
  exact List.Forall₂.flip (forall₂_rebalanced fun m s _ => hf m s)

end Broker

end ConsumerGroup
