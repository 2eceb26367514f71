import ConsumerGroup.Proofs.Broker.Queue
import ConsumerGroup.Proofs.Broker.Shares
import Mathlib.Data.List.Zip

/-!
# What a rebalance hands out

A rebalance of a group hands every partition that somebody in the group
covers to one member who covers it, and to nobody else
(`Broker.handsOut_rebalanced`). It does so through the queues of the
members, and leaves everything else as it was.

What the members subscribe to may overlap in any way, or not at all; a
pattern is whatever predicate it is. Members of other groups may stand
between those of the group.

Everything is said of the list of shares as it lies beside the list of
members, so that a member and its share are found at the same place. Whether
members ever take what is queued for them is not said, nor how long that
takes.
-/

namespace ConsumerGroup

namespace Member

/-- What is queued for a member by a rebalance of a group that gives it a
share, or none: of its group it first gives up what it effectively holds,
if that is anything. -/
def notices (m : Member) (g : String) (share : Option PartitionList) : List Queued :=
  (if m.group = g ∧ m.effectiveAssignment ≠ [] then
    [⟨.revokePartitions, m.effectiveAssignment⟩] else []) ++
    share.toList.map (⟨.assignPartitions, ·⟩)

/-- A rebalance queues these, for whoever has no share if it is not of the
group. -/
theorem rebalanced_of_share {m : Member} {g : String} {share : Option (List Partition)}
    (h : m.group ≠ g → share = none) :
    m.rebalanced g share =
      { m with queue := m.queue ++ m.notices g (share.map .ofPartitions) } := by
  by_cases hg : m.group = g
  · have hnotices : m.notices g (share.map .ofPartitions) = dealtNotices m share := by
      unfold notices dealtNotices
      by_cases he : m.effectiveAssignment = [] <;> cases share <;> simp [hg, he]
    rw [rebalanced_of_eq hg, hnotices]
  · rw [rebalanced_of_ne hg, h hg]
    unfold notices
    rw [if_neg fun hboth => hg hboth.1]
    exact congrArg (fun queue => ({ m with queue } : Member)) (List.append_nil _).symm

end Member

namespace Broker

/-- The shares, one a member or none, hand out all that a group covers;
and a broker is afterwards what it was, but for what is queued. -/
structure HandsOut (b : Broker) (g : String) (shares : List (Option PartitionList))
    (b' : Broker) : Prop where
  /-- Nothing changes but what waits for the members, and there it is added at the end. -/
  state : b' = { b with
    members := List.zipWith (fun m share => { m with queue := m.queue ++ m.notices g share })
      b.members shares }
  /-- What a member is told to give up is what it would hold once it has taken all that waits. -/
  revoked : ∀ m ∈ b.members, m.effectiveAssignment.partitions = heldAfter m.held m.queue
  /-- Those of the group that subscribe to something have a share, and nobody else has. -/
  given : List.Forall₂
    (fun m share => share.isSome ↔ m.group = g ∧ m.subscription ≠ []) b.members shares
  /-- A share holds nothing but what its member covers. -/
  covered : List.Forall₂ (fun m share => ∀ l, share = some l → ∀ e ∈ l, m.covers e.topic = true)
    b.members shares
  /-- Every partition there is of a topic that is covered is handed out once, and no other. -/
  once : ∀ p, (shares.flatMap fun share => (share.getD []).partitions).count p =
    if (b.log? p).isSome ∧ b.Covers g p.topic then 1 else 0
  /-- Every share ascends. -/
  ascending : ∀ l, some l ∈ shares → l.partitions.Pairwise (· < ·)
  /-- No share says where to begin. -/
  unset : ∀ l, some l ∈ shares → ∀ e ∈ l, e.offset = .invalid

variable {b : Broker} {g : String}

/-- A rebalance adds to what waits, and does nothing else. -/
theorem rebalanced_eq_notices (b : Broker) (g : String) : b.rebalanced g = { b with
    members := List.zipWith (fun m share => { m with queue := m.queue ++ m.notices g share })
      b.members ((b.shares g).map (·.map .ofPartitions)) } := by
  have hsame : List.zipWith (Member.rebalanced g) b.members (b.shares g) =
      List.zipWith (fun m share => { m with queue := m.queue ++ m.notices g share })
        b.members ((b.shares g).map (·.map .ofPartitions)) := by
    rw [List.zipWith_map_right]
    refine List.zipWith_congr _ _ _ _ ?_
    exact (forall₂_sharesFrom_group _ 0 _).imp fun _ _ hnone => Member.rebalanced_of_share hnone
  exact congrArg (fun members => ({ b with members } : Broker)) hsame

/-- Every partition there is of a topic that is covered is in one of the
shares, and nothing else is. -/
theorem mem_shares_iff {p : Partition} :
    (∃ s ∈ b.shares g, p ∈ s.getD []) ↔ (b.log? p).isSome ∧ b.Covers g p.topic := by
  constructor
  · rintro ⟨s, hs, hp⟩
    have hmem := (sublist_of_mem_shares hs).subset hp
    exact ⟨Topics.mem_partitions_iff.mp hmem, covers_of_mem_shares hs hp⟩
  · rintro ⟨hlog, hcovers⟩
    exact exists_share_of_covers (Topics.mem_partitions_iff.mpr hlog) hcovers

/-- No partition is handed out twice. -/
theorem nodup_flatMap_shares : ((b.shares g).flatMap (·.getD [])).Nodup := by
  rw [List.nodup_flatMap]
  refine ⟨fun s hs => ?_, pairwise_shares⟩
  exact (sublist_of_mem_shares hs).nodup b.topics.nodup_partitions

/-- Every member covers what is in its share. -/
theorem forall₂_shares_covered (b : Broker) (g : String) :
    List.Forall₂ (fun m s => ∀ ps, s = some ps → ∀ p ∈ ps, m.covers p.topic = true)
      b.members (b.shares g) := by
  refine forall₂_sharesFrom fun j m hm p hp => ?_
  rw [Nat.zero_add] at hp
  obtain ⟨f, hf, htakes⟩ := takes_of_mem_shareAt hp
  rw [List.getElem?_map] at hf
  have hplayer : (b.active g)[j]? = some m := hm
  rw [hplayer] at hf
  cases hf
  exact htakes

/-- One rebalance of a group hands out every partition that somebody in
the group covers, each once and to one who covers it, and does nothing
else. -/
theorem handsOut_rebalanced (b : Broker) (g : String) :
    b.HandsOut g ((b.shares g).map (·.map .ofPartitions)) (b.rebalanced g) where
  state := b.rebalanced_eq_notices g
  revoked m _ := partitions_effectiveAssignment m
  given := by
    rw [List.forall₂_map_right_iff]
    refine (forall₂_sharesFrom_isSome (b.dealt g) 0 b.members).imp fun m s hs => ?_
    rw [Option.isSome_map, hs, Member.isActive]
    simp
  covered := by
    rw [List.forall₂_map_right_iff]
    refine (b.forall₂_shares_covered g).imp fun m s hcovers l hl e he => ?_
    obtain ⟨ps, rfl, rfl⟩ := Option.map_eq_some_iff.mp hl
    obtain ⟨p, hp, rfl⟩ := List.mem_map.mp he
    exact hcovers ps rfl p hp
  once := by
    intro p
    have hplain (s : Option (List Partition)) :
        PartitionList.partitions ((s.map .ofPartitions).getD []) = s.getD [] := by
      cases s with
      | none => rfl
      | some ps => exact PartitionList.partitions_ofPartitions ps
    rw [List.flatMap_map]
    simp only [hplain]
    rw [nodup_flatMap_shares.count]
    exact if_congr (List.mem_flatMap.trans mem_shares_iff) rfl rfl
  ascending := by
    intro l hl
    obtain ⟨s, hs, hmap⟩ := List.mem_map.mp hl
    obtain ⟨ps, rfl, rfl⟩ := Option.map_eq_some_iff.mp hmap
    rw [PartitionList.partitions_ofPartitions]
    exact b.topics.pairwise_partitions.sublist (sublist_of_mem_shares hs)
  unset := by
    intro l hl e he
    obtain ⟨s, _, hmap⟩ := List.mem_map.mp hl
    obtain ⟨ps, rfl, rfl⟩ := Option.map_eq_some_iff.mp hmap
    obtain ⟨p, _, rfl⟩ := List.mem_map.mp he
    rfl

/-- A group whose members subscribe to different things, one of them
twice to the same and by a pattern besides, one of them to nothing; a
member of another group stands among them, and one topic is nobody's.
One of them reads a partition, and one has yet to take a share it was
given while it still subscribed to something. -/
def mixed : Broker where
  topics := { toList := [⟨"s", [{}]⟩, ⟨"t", [{}, {}, {}]⟩, ⟨"u", [{}, {}]⟩] }
  members := [
    { id := "a", options := { group := "g" },
      subscription := [.topic "t", .topic "t", .pattern "^[t-z]" ("t" ≤ ·)] },
    { id := "b", options := { group := "h" }, subscription := [.topic "s"] },
    { id := "c", options := { group := "g" }, subscription := [.topic "u"],
      assignment := [⟨⟨"t", 0⟩, none, false, false⟩] },
    { id := "d", options := { group := "g" },
      queue := [⟨.assignPartitions, .ofPartitions [⟨"t", 1⟩]⟩] }]

/-- Three partitions go to the first of them alone, and the two of the
topic that two of them cover are shared. The third gives up the partition
it reads before it gets its share, and the last gives up the share that
waits for it and gets nothing. -/
theorem handsOut_rebalanced_mixed :
    mixed.HandsOut "g"
        [some (.ofPartitions [⟨"t", 0⟩, ⟨"t", 1⟩, ⟨"t", 2⟩, ⟨"u", 1⟩]), none,
          some (.ofPartitions [⟨"u", 0⟩]), none]
        (mixed.rebalanced "g") ∧
      (mixed.rebalanced "g").members.map (·.queue) = [
        [⟨.assignPartitions, .ofPartitions [⟨"t", 0⟩, ⟨"t", 1⟩, ⟨"t", 2⟩, ⟨"u", 1⟩]⟩],
        [],
        [⟨.revokePartitions, .ofPartitions [⟨"t", 0⟩]⟩,
          ⟨.assignPartitions, .ofPartitions [⟨"u", 0⟩]⟩],
        [⟨.assignPartitions, .ofPartitions [⟨"t", 1⟩]⟩,
          ⟨.revokePartitions, .ofPartitions [⟨"t", 1⟩]⟩]] := by
  have hshares : mixed.shares "g" =
      [some [⟨"t", 0⟩, ⟨"t", 1⟩, ⟨"t", 2⟩, ⟨"u", 1⟩], none, some [⟨"u", 0⟩], none] := by
    decide +kernel
  have hhands := mixed.handsOut_rebalanced "g"
  rw [hshares] at hhands
  exact ⟨hhands, by decide +kernel⟩

end Broker

end ConsumerGroup
