import ConsumerGroup.Broker.Rebalance
import Mathlib.Data.List.Nodup
import Mathlib.Tactic.Common

/-!
# Dealing

What a player gets when partitions are dealt (`deal`, `shareAt`).

- Nobody gets anything that was not on the table, and what one gets is in
  the order of the table (`shareAt_sublist`).
- What is dealt to one place is not dealt to another
  (`disjoint_shareAt`), and what somebody takes is dealt to some place
  (`exists_mem_shareAt`).
- A partition that nobody takes is laid aside without moving the turn:
  the table may as well be dealt without it (`shareAt_deal_filter`). So
  what nobody takes can come and go, anywhere on the table, and all
  shares stay what they are.

All this is proved by induction on the cards, for any turn they may begin
with, since the cards behind the first are dealt from where that has left
the turn.
-/

namespace ConsumerGroup

/-! ## The places at the table -/

/-- Going round the table from anywhere meets every place. -/
theorem mem_turns {n next i : Nat} : i ∈ turns n next ↔ i < n := by
  unfold turns
  rw [List.mem_map]
  constructor
  · rintro ⟨step, hstep, rfl⟩
    have := List.mem_range.mp hstep
    exact Nat.mod_lt _ (by omega)
  · intro hi
    have hpos : 0 < n := by omega
    have hnext : next % n < n := Nat.mod_lt _ hpos
    refine ⟨(i + (n - next % n)) % n, List.mem_range.mpr (Nat.mod_lt _ hpos), ?_⟩
    calc (next + (i + (n - next % n)) % n) % n
        = (next % n + (i + (n - next % n))) % n := by
          rw [Nat.add_mod, Nat.mod_mod, ← Nat.add_mod, Nat.add_mod, ← Nat.mod_mod next n,
            ← Nat.add_mod, Nat.mod_mod]
      _ = (i + n) % n := by congr 1; omega
      _ = i := by rw [Nat.add_mod_right, Nat.mod_eq_of_lt hi]

/-- Somebody at the table takes partitions of a topic. -/
def Taken (players : List (String → Bool)) (topic : String) : Prop := ∃ f ∈ players, f topic = true

instance (players : List (String → Bool)) (topic : String) : Decidable (Taken players topic) :=
  inferInstanceAs (Decidable (∃ f ∈ players, f topic = true))

/-- Who gets a card is at the table and takes it. -/
theorem of_receiver?_eq_some {players : List (String → Bool)} {next i : Nat} {topic : String}
    (h : receiver? players next topic = some i) : ∃ f, players[i]? = some f ∧ f topic = true := by
  have := List.find?_some h
  simpa [Option.any_eq_true] using this

/-- A card finds somebody exactly if somebody takes it, wherever the turn
is. -/
theorem isSome_receiver?_iff {players : List (String → Bool)} {next : Nat} {topic : String} :
    (receiver? players next topic).isSome ↔ Taken players topic := by
  unfold receiver?
  rw [List.find?_isSome]
  constructor
  · rintro ⟨i, _, hi⟩
    obtain ⟨f, hf, hft⟩ := (Option.any_eq_true _ _).mp hi
    exact ⟨f, List.mem_of_getElem? hf, hft⟩
  · rintro ⟨f, hf, hft⟩
    obtain ⟨i, hi⟩ := List.getElem?_of_mem hf
    have hlt : i < players.length := (List.getElem?_eq_some_iff.mp hi).1
    exact ⟨i, mem_turns.mpr hlt, by simp [hi, hft]⟩

/-- A topic has no receiver where nobody takes it. -/
theorem receiver?_eq_none_iff {players : List (String → Bool)} {next : Nat} {topic : String} :
    receiver? players next topic = none ↔ ¬ Taken players topic := by
  rw [← @isSome_receiver?_iff players next topic, Option.not_isSome_iff_eq_none]

/-! ## The cards -/

/-- Every card on the table is dealt, in the order of the table. -/
@[simp] theorem map_fst_deal (players : List (String → Bool)) (next : Nat) (ps : List Partition) :
    (deal players next ps).map Prod.fst = ps := by
  induction ps generalizing next with
  | nil => rfl
  | cons p ps ih =>
    unfold deal
    split <;> simp [ih]

theorem shareAt_cons (p : Partition) (place : Option Nat) (dealt : List (Partition × Option Nat))
    (i : Nat) :
    shareAt ((p, place) :: dealt) i =
      if place = some i then p :: shareAt dealt i else shareAt dealt i := by
  unfold shareAt
  rw [List.filterMap_cons]
  by_cases h : place = some i <;> simp [h]

/-- A share is made of what was dealt to its place. -/
theorem mem_shareAt {dealt : List (Partition × Option Nat)} {i : Nat} {p : Partition} :
    p ∈ shareAt dealt i ↔ (p, some i) ∈ dealt := by
  induction dealt with
  | nil => simp [shareAt]
  | cons d dealt ih =>
    obtain ⟨q, place⟩ := d
    rw [shareAt_cons, List.mem_cons, Prod.mk.injEq]
    by_cases h : place = some i
    · rw [if_pos h, List.mem_cons, ih]
      simp [h]
    · rw [if_neg h, ih]
      have : some i ≠ place := fun he => h he.symm
      simp [this]

/-- A share is part of what was dealt, in its order. -/
theorem shareAt_sublist (dealt : List (Partition × Option Nat)) (i : Nat) :
    (shareAt dealt i).Sublist (dealt.map Prod.fst) := by
  induction dealt with
  | nil => exact List.nil_sublist _
  | cons d dealt ih =>
    obtain ⟨p, place⟩ := d
    rw [shareAt_cons, List.map_cons]
    split
    · exact ih.cons_cons p
    · exact ih.cons p

/-- What is dealt to one place is not dealt to another. -/
theorem disjoint_shareAt {dealt : List (Partition × Option Nat)} (h : (dealt.map Prod.fst).Nodup)
    {i j : Nat} (hij : i ≠ j) {p : Partition} (hi : p ∈ shareAt dealt i) : p ∉ shareAt dealt j := by
  intro hj
  have := List.inj_on_of_nodup_map h (mem_shareAt.mp hi) (mem_shareAt.mp hj) rfl
  exact hij (Option.some.inj (Prod.mk.inj this).2)

/-- What somebody takes is dealt to some place at the table. -/
theorem exists_mem_shareAt {players : List (String → Bool)} {next : Nat} {ps : List Partition}
    {p : Partition} (hp : p ∈ ps) (ht : Taken players p.topic) :
    ∃ i < players.length, p ∈ shareAt (deal players next ps) i := by
  simp only [mem_shareAt]
  induction ps generalizing next with
  | nil => cases hp
  | cons q ps ih =>
    unfold deal
    rcases List.mem_cons.mp hp with rfl | hp
    · cases hr : receiver? players next p.topic with
      | none => exact absurd ht (receiver?_eq_none_iff.mp hr)
      | some i =>
        obtain ⟨f, hf, _⟩ := of_receiver?_eq_some hr
        exact ⟨i, (List.getElem?_eq_some_iff.mp hf).1, List.mem_cons_self⟩
    · split
      · next k _ =>
        obtain ⟨i, hi, hm⟩ := @ih (k + 1) hp
        exact ⟨i, hi, List.mem_cons_of_mem _ hm⟩
      · obtain ⟨i, hi, hm⟩ := @ih next hp
        exact ⟨i, hi, List.mem_cons_of_mem _ hm⟩

/-- What is dealt to a place is taken there. -/
theorem takes_of_mem_shareAt {players : List (String → Bool)} {next i : Nat} {ps : List Partition}
    {p : Partition} (h : p ∈ shareAt (deal players next ps) i) :
    ∃ f, players[i]? = some f ∧ f p.topic = true := by
  rw [mem_shareAt] at h
  induction ps generalizing next with
  | nil => cases h
  | cons q ps ih =>
    unfold deal at h
    split at h
    · next hr =>
      rcases List.mem_cons.mp h with heq | h
      · obtain ⟨rfl, hi⟩ := Prod.mk.inj heq
        cases hi
        exact of_receiver?_eq_some hr
      · exact ih h
    · rcases List.mem_cons.mp h with heq | h
      · cases heq
      · exact ih h

/-- A card that nobody takes may as well not have been on the table. -/
theorem shareAt_deal_filter (players : List (String → Bool)) (next : Nat) (ps : List Partition)
    (i : Nat) :
    shareAt (deal players next (ps.filter fun p => Taken players p.topic)) i =
      shareAt (deal players next ps) i := by
  induction ps generalizing next with
  | nil => rfl
  | cons p ps ih =>
    rw [List.filter_cons]
    cases hr : receiver? players next p.topic with
    | none =>
      rw [if_neg (by simpa using receiver?_eq_none_iff.mp hr), ih]
      simp only [deal, hr]
      rw [shareAt_cons, if_neg (by simp)]
    | some k =>
      have ht : Taken players p.topic := isSome_receiver?_iff.mp (by rw [hr]; rfl)
      rw [if_pos (by simpa using ht)]
      simp only [deal, hr]
      rw [shareAt_cons, shareAt_cons, ih]

end ConsumerGroup
