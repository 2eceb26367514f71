import ConsumerGroup.Proofs.Broker.Queue
import ConsumerGroup.Proofs.Broker.Shares
import Mathlib.Data.Int.CardIntervalMod

/-!
# Shares are even

Where all players take the same cards, dealing goes strictly round the
table: who sits at the place `i` of `n` gets the cards whose numbers leave
the remainder `i` (`shareAt_deal_of_alike`). It does not matter how the
cards fall into topics, for the turn goes on from one topic to the next,
nor which others lie between them that nobody takes.

So a group whose members cover the same topics shares them evenly, and
who joined earlier has no less than who joined later
(`Broker.Alike.dealsEvenly`).

The proof counts cards: those that are taken are numbered in their order,
and the turn after so many cards is that number's remainder. Of groups whose
members cover different topics nothing is said here; their shares may be as
uneven as what they cover.
-/

namespace ConsumerGroup

/-! ## Round the table -/

/-- The cards that fall to a place at a table of `n`, when each player
gets one in turn and the first of them goes to the first place. -/
def atTurn (n i : Nat) (ps : List Partition) : List Partition :=
  (ps.zipIdx.filter fun card => card.2 % n = i).map Prod.fst

/-- A card that everybody takes goes to whose turn it is. -/
theorem receiver?_of_alike {players : List (String → Bool)} {topic : String}
    (h : ∀ f ∈ players, f topic = true) (hn : 0 < players.length) (next : Nat) :
    receiver? players next topic = some (next % players.length) := by
  have hturn : next % players.length < players.length := Nat.mod_lt _ hn
  have htakes : (players[next % players.length]?).any (· topic) = true := by
    rw [List.getElem?_eq_getElem hturn]
    exact h _ (List.getElem_mem hturn)
  obtain ⟨n, hlength⟩ : ∃ n, players.length = n + 1 := ⟨players.length - 1, by omega⟩
  unfold receiver? turns
  rw [hlength, List.range_succ_eq_map, List.map_cons, Nat.add_zero, ← hlength]
  exact List.find?_cons_of_pos htakes

/-- Cards that everybody takes are dealt round the table, wherever the turn
and the numbering begin together. -/
theorem shareAt_deal_of_alike {players : List (String → Bool)} {ps : List Partition}
    (h : ∀ p ∈ ps, ∀ f ∈ players, f p.topic = true) (hn : 0 < players.length) {next start : Nat}
    (hnext : next % players.length = start % players.length) (i : Nat) :
    shareAt (deal players next ps) i =
      ((ps.zipIdx start).filter fun card => card.2 % players.length = i).map Prod.fst := by
  induction ps generalizing next start with
  | nil => rfl
  | cons p ps ih =>
    have hturn : (next % players.length + 1) % players.length = (start + 1) % players.length := by
      rw [Nat.mod_add_mod, Nat.add_mod, hnext, ← Nat.add_mod]
    have hrest := ih (fun q hq => h q (List.mem_cons_of_mem _ hq)) hturn
    rw [deal, receiver?_of_alike (h p List.mem_cons_self) hn]
    dsimp only
    rw [shareAt_cons, hrest, List.zipIdx_cons, List.filter_cons, hnext]
    by_cases hi : start % players.length = i <;> simp [hi]

/-- As many cards fall to a place as there are numbers that leave its
remainder. -/
theorem length_atTurn_eq_count (n i : Nat) (ps : List Partition) :
    (atTurn n i ps).length = ps.length.count (· % n = i) := by
  unfold atTurn
  rw [List.length_map]
  -- The last card has the highest number, so the induction is from the end.
  induction ps using List.reverseRecOn with
  | nil => rfl
  | append_singleton ps p ih =>
    rw [List.zipIdx_append, List.filter_append, List.length_append, ih, List.length_append,
      List.length_singleton, Nat.count_succ, Nat.zero_add, List.zipIdx_singleton,
      List.filter_singleton]
    by_cases hp : ps.length % n = i <;> simp [hp]

/-- How many cards fall to a place: one for each full round, and one more
if the last round gets so far. -/
theorem length_atTurn {n i : Nat} (hi : i < n) (ps : List Partition) :
    (atTurn n i ps).length = ps.length / n + if i < ps.length % n then 1 else 0 := by
  have hremainder : ps.length.count (· % n = i) = ps.length.count (· ≡ i [MOD n]) := by
    unfold Nat.ModEq
    simp only [Nat.mod_eq_of_lt hi]
  rw [length_atTurn_eq_count, hremainder, Nat.count_modEq_card _ (Nat.zero_lt_of_lt hi),
    Nat.mod_eq_of_lt hi]

/-- No place gets fewer cards than one behind it, nor more than one
more. -/
theorem even_atTurn {n i j : Nat} (hij : i ≤ j) (hj : j < n) (ps : List Partition) :
    (atTurn n j ps).length ≤ (atTurn n i ps).length ∧
      (atTurn n i ps).length ≤ (atTurn n j ps).length + 1 := by
  rw [length_atTurn hj, length_atTurn (Nat.lt_of_le_of_lt hij hj)]
  split <;> split <;> omega

namespace Broker

variable {b : Broker} {g : String}

/-! ## Groups that cover the same -/

/-- The partitions that somebody in a group covers, in their order. -/
def covered (b : Broker) (g : String) : List Partition :=
  b.topics.partitions.filter (b.Covers g ·.topic)

/-- The members of the group that subscribe to anything cover the same of
the topics there are. -/
def Alike (b : Broker) (g : String) : Prop :=
  ∀ m ∈ b.active g, ∀ m' ∈ b.active g, ∀ topic ∈ b.topics.names, m.covers topic = m'.covers topic

instance (b : Broker) (g : String) : Decidable (b.Alike g) :=
  inferInstanceAs (Decidable (∀ m ∈ b.active g, ∀ m' ∈ b.active g, ∀ topic ∈ b.topics.names, _))

/-- What somebody covers is then covered by all of them. -/
theorem Alike.covers (h : b.Alike g) {p : Partition} (hp : p ∈ b.covered g) {m : Member}
    (hm : m ∈ b.active g) : m.covers p.topic = true := by
  obtain ⟨hmem, hcovers⟩ := List.mem_filter.mp hp
  obtain ⟨m', hm', hg, htopic⟩ := of_decide_eq_true hcovers
  have hactive : m' ∈ b.active g :=
    List.mem_filter.mpr ⟨hm', Member.isActive_of_covers hg htopic⟩
  rw [h m hm m' hactive _ (Topics.topic_mem_names hmem)]
  exact htopic

/-- What is dealt to a place is what falls to it when the cards go round. -/
theorem Alike.shareAt_dealt (h : b.Alike g) (hn : 0 < (b.active g).length) (i : Nat) :
    shareAt (b.dealt g) i = atTurn (b.active g).length i (b.covered g) := by
  have htaken : b.topics.partitions.filter (Taken ((b.active g).map Member.covers) ·.topic) =
      b.covered g :=
    List.filter_congr fun p _ => decide_eq_decide.mpr taken_active_iff
  unfold dealt atTurn
  rw [← shareAt_deal_filter, htaken, shareAt_deal_of_alike _ _ rfl, List.length_map]
  · intro p hp f hf
    obtain ⟨m, hm, rfl⟩ := List.mem_map.mp hf
    exact h.covers hp hm
  · rwa [List.length_map]

/-- Of the members from one on, each that takes part is told what was dealt
to its place, when the first of them that does has the place `i`. -/
theorem filter_isActive_zipWith_rebalanced (g : String) (d : List (Partition × Option Nat)) (i : Nat)
    (ms : List Member) :
    (List.zipWith (Member.rebalanced g) ms (sharesFrom g d i ms)).filter (·.isActive g) =
      (ms.filter (·.isActive g)).mapIdx fun j m =>
        { m with queue := m.queue ++ dealtNotices m (some (shareAt d (i + j))) } := by
  induction ms generalizing i with
  | nil => rfl
  | cons m ms ih =>
    have hsame (s : Option (List Partition)) : (m.rebalanced g s).isActive g = m.isActive g :=
      Member.isActive_of_stake (stake_rebalanced g g m s)
    unfold sharesFrom
    split
    · next ha =>
      have hg : m.group = g := by simpa using (Bool.and_eq_true_iff.mp ha).1
      rw [List.zipWith_cons_cons, List.filter_cons, List.filter_cons, hsame, if_pos ha, if_pos ha,
        ih, List.mapIdx_cons, Member.rebalanced_of_eq hg]
      simp only [Nat.add_right_comm i 1, Nat.add_assoc, Nat.add_zero]
    · next ha =>
      rw [List.zipWith_cons_cons, List.filter_cons, List.filter_cons, hsame, if_neg ha, if_neg ha,
        ih]

/-- Of the members that take part each is told what was dealt to its place,
in the order they joined. -/
theorem active_rebalanced (b : Broker) (g : String) :
    (b.rebalanced g).active g = (b.active g).mapIdx fun i m =>
      { m with queue := m.queue ++ dealtNotices m (some (shareAt (b.dealt g) i)) } := by
  have hplaces := filter_isActive_zipWith_rebalanced g (b.dealt g) 0 b.members
  simp only [Nat.zero_add] at hplaces
  exact hplaces

/-- Topics that nobody in the group covers may come and go, and nobody is
told anything else. -/
theorem members_rebalanced_of_filter {ts : Topics}
    (h : ts.toList.filter (b.Covers g ·.name) = b.topics.toList.filter (b.Covers g ·.name)) :
    ({ b with topics := ts }.rebalanced g).members = (b.rebalanced g).members := by
  have hshares : ({ b with topics := ts } : Broker).shares g = b.shares g := by
    refine shares_congr (List.forall₂_same.mpr fun _ _ => rfl) ?_
    rw [Topics.filter_partitions (b.Covers g ·), Topics.filter_partitions (b.Covers g ·), h]
  unfold rebalanced
  rw [hshares]

/-- What a rebalance deals out, it deals out evenly to those of the group
that subscribe to something: the partitions `ps`, one to each in turn. -/
structure DealsEvenly (b : Broker) (g : String) (ps : List Partition) : Prop where
  /-- They are in order. -/
  ascending : ps.Pairwise (· < ·)
  /-- They are all there are of the topics that are covered. -/
  mem_iff : ∀ p, p ∈ ps ↔ (b.log? p).isSome ∧ b.Covers g p.topic
  /-- Of `n` members the one who joined `i`-th, counted from none, has those whose place among
  them leaves the remainder `i`. -/
  told : (b.rebalanced g).active g = (b.active g).mapIdx fun i m =>
    { m with queue := m.queue ++ dealtNotices m (some (atTurn (b.active g).length i ps)) }
  /-- No two shares differ by more than one, and who joined first has no less. -/
  even : ∀ i j, i ≤ j → j < (b.active g).length →
    (atTurn (b.active g).length j ps).length ≤ (atTurn (b.active g).length i ps).length ∧
      (atTurn (b.active g).length i ps).length ≤ (atTurn (b.active g).length j ps).length + 1
  /-- With other topics that nobody covers, everybody would be told the same. -/
  unmatched : ∀ ts : Topics,
    ts.toList.filter (b.Covers g ·.name) = b.topics.toList.filter (b.Covers g ·.name) →
      ({ b with topics := ts }.rebalanced g).members = (b.rebalanced g).members

/-- A group whose members cover the same topics shares them evenly. -/
theorem Alike.dealsEvenly (h : b.Alike g) : b.DealsEvenly g (b.covered g) where
  ascending := b.topics.pairwise_partitions.filter _
  mem_iff p := by
    unfold covered
    rw [List.mem_filter, Topics.mem_partitions_iff, decide_eq_true_iff]
    rfl
  told := by
    rw [active_rebalanced]
    rcases Nat.eq_zero_or_pos (b.active g).length with hn | hn
    · rw [List.length_eq_zero_iff.mp hn]
      rfl
    · simp only [h.shareAt_dealt hn]
  even _ _ hij hj := even_atTurn hij hj _
  unmatched _ := members_rebalanced_of_filter

/-- Two members of a group cover two of three topics, the one by name and
the other by a pattern; a member of another group has the topic between
them. -/
def alikeByPattern : Broker where
  topics := { toList := [⟨"r", [{}]⟩, ⟨"s", [{}]⟩, ⟨"t", [{}, {}, {}, {}]⟩] }
  members := [
    { id := "a", options := { group := "g" }, subscription := [.topic "t", .topic "r"] },
    { id := "b", options := { group := "h" }, subscription := [.topic "s"] },
    { id := "c", options := { group := "g" }, subscription := [.pattern "^[^s]$" (· ≠ "s")] }]

/-- The first then has one partition more than the second. -/
theorem dealsEvenly_alikeByPattern :
    alikeByPattern.Alike "g" ∧
      alikeByPattern.DealsEvenly "g"
        [⟨"r", 0⟩, ⟨"t", 0⟩, ⟨"t", 1⟩, ⟨"t", 2⟩, ⟨"t", 3⟩] ∧
      atTurn 2 0 (alikeByPattern.covered "g") = [⟨"r", 0⟩, ⟨"t", 1⟩, ⟨"t", 3⟩] ∧
      atTurn 2 1 (alikeByPattern.covered "g") = [⟨"t", 0⟩, ⟨"t", 2⟩] := by
  have halike : alikeByPattern.Alike "g" := by decide +kernel
  have hcovered : alikeByPattern.covered "g" =
      [⟨"r", 0⟩, ⟨"t", 0⟩, ⟨"t", 1⟩, ⟨"t", 2⟩, ⟨"t", 3⟩] := by decide +kernel
  refine ⟨halike, hcovered ▸ halike.dealsEvenly, ?_, ?_⟩ <;> decide +kernel

end Broker

end ConsumerGroup
