import ConsumerGroup.Broker.Basic

/-!
# Rebalancing a group

All partitions are dealt out like cards, in the order of the topics, to
the active members in the order they joined. A partition goes to the
first member that covers its topic, counting from the one after the last
that got a card and round the table; a partition that nobody covers is
laid aside and does not move the turn.

Every member is first told to give up what it effectively holds, if that
is anything, and then each active member is told its new share, even an
empty one. All this is only queued.
-/

namespace ConsumerGroup

/-! ## Dealing -/

/-- The places at a table of `n`, from `next` on and round. -/
def turns (n next : Nat) : List Nat := (List.range n).map fun step => (next + step) % n

/-- The place of the first player from `next` on who takes a card. -/
def receiver? (players : List (String → Bool)) (next : Nat) (topic : String) : Option Nat :=
  (turns players.length next).find? fun i => (players[i]?).any (· topic)

/-- Deals partitions: each with the place of the player who gets it, if
one does. -/
def deal (players : List (String → Bool)) : Nat → List Partition → List (Partition × Option Nat)
  | _, [] => []
  | next, p :: rest =>
    match receiver? players next p.topic with
    | some i => (p, some i) :: deal players (i + 1) rest
    | none => (p, none) :: deal players next rest

/-- The partitions dealt to a place, in the order they were dealt. -/
def shareAt (dealt : List (Partition × Option Nat)) (i : Nat) : List Partition :=
  dealt.filterMap fun (p, place) => if place = some i then some p else none

/-! ## Shares -/

namespace Broker

/-- The members that take part in the dealing of a group. -/
def active (b : Broker) (group : String) : List Member := b.members.filter (·.isActive group)

/-- All partitions, dealt to the active members of a group. -/
def dealt (b : Broker) (group : String) : List (Partition × Option Nat) :=
  deal ((b.active group).map Member.covers) 0 b.topics.partitions

/-- Gives each member its share, the first active one that of place `i`;
a member that takes no part has none. -/
def sharesFrom (group : String) (dealt : List (Partition × Option Nat)) :
    Nat → List Member → List (Option (List Partition))
  | _, [] => []
  | i, m :: rest =>
    if m.isActive group then some (shareAt dealt i) :: sharesFrom group dealt (i + 1) rest
    else none :: sharesFrom group dealt i rest

/-- What a rebalance of a group would give each member, in the order of
the members. -/
def shares (b : Broker) (group : String) : List (Option (List Partition)) :=
  sharesFrom group (b.dealt group) 0 b.members

end Broker

/-- A member of the group is told to give up what it effectively holds,
and then what it gets. -/
def Member.rebalanced (group : String) (m : Member) (share : Option (List Partition)) : Member :=
  if m.group = group then
    let held := m.effectiveAssignment
    let taken := if held.isEmpty then [] else [⟨.revokePartitions, held⟩]
    let given := match share with
      | some ps => [⟨.assignPartitions, .ofPartitions ps⟩]
      | none => []
    { m with queue := m.queue ++ taken ++ given }
  else m

namespace Broker

/-- Rebalances a group: queues the notifications of all its members. -/
def rebalanced (b : Broker) (group : String) : Broker :=
  { b with members := List.zipWith (Member.rebalanced group) b.members (b.shares group) }

/-- What a rebalance tells: the size of each active member's share. -/
def rebalanceDiary (b : Broker) (group : String) : List DiaryEntry :=
  (List.zip b.members (b.shares group)).filterMap fun (m, share) =>
    share.map fun ps => .assignmentQueued group m.id ps.length

/-- Rebalances several groups, one after the other. -/
def rebalancedAll (b : Broker) (groups : List String) : Broker :=
  groups.foldl rebalanced b

/-- What the rebalances of several groups tell. What a group is dealt
does not depend on the queues, so each can be told from the start. -/
def rebalanceAllDiary (b : Broker) (groups : List String) : List DiaryEntry :=
  groups.flatMap b.rebalanceDiary

/-- The groups with a member that covers a topic, each once, by name. -/
def groupsCovering (b : Broker) (topic : String) : List String :=
  (((b.members.filter (·.covers topic)).map (·.group)).mergeSort (· ≤ ·)).eraseDups

end Broker

end ConsumerGroup
