import ConsumerGroup.Proofs.Broker.Change
import ConsumerGroup.Proofs.Broker.Queue
import ConsumerGroup.Proofs.Broker.Reading
import ConsumerGroup.Proofs.Broker.Sound
import Mathlib.Data.List.Find

/-!
# A broker as if one group were alone

`Broker.alone` leaves of a broker what one group has to do with: the
topics, the members of the group, what the group has committed, and how
many members have ever joined any group.

What a member of the group asks for comes to the same with the group alone
(`Broker.performFor_alone`), and so does whatever else is not for another
group (`Broker.perform_alone`). What is for another group leaves the group
as it is (`Broker.alone_perform`).

The proof goes operation by operation: each is opened once, and takes the
same branch with the group alone, for it sees the same topics and the same
members of the group. When a topic is created other groups are dealt to as
well, so there the diary may differ, and only the result and what becomes of
the group are compared (`Effect.SameFor`). What it means to wait is not
looked at here.
-/

namespace ConsumerGroup

namespace Broker

variable {α : Type} {b : Broker} {g g' id : String} {m : Member}

/-- The broker with nobody but the members of a group. -/
def alone (g : String) (b : Broker) : Broker :=
  { b with
    members := b.members.filter (·.group == g)
    committed := b.committed.filter (·.1.1 == g) }

/-- The effect on the broker with the group alone. -/
def Effect.alone (g : String) (e : Effect α) : Effect α := { e with broker := e.broker.alone g }

/-- The two effects have the same result, and are the same to the group. -/
def Effect.SameFor (g : String) (e e' : Effect α) : Prop :=
  e.result = e'.result ∧ e.broker.alone g = e'.broker.alone g

/-- Whoever has the id is a member of the group. -/
def Owns (b : Broker) (g id : String) : Prop := ∀ m ∈ b.members, m.id = id → m.group = g

/-- Nobody who has the id is a member of the group. -/
def Shuns (b : Broker) (g id : String) : Prop := ∀ m ∈ b.members, m.id = id → m.group ≠ g

@[simp] theorem topics_alone (b : Broker) (g : String) : (b.alone g).topics = b.topics := rfl

@[simp] theorem joined_alone (b : Broker) (g : String) : (b.alone g).joined = b.joined := rfl

@[simp] theorem patterns_alone (b : Broker) (g : String) : (b.alone g).patterns = b.patterns := rfl

@[simp] theorem alone_alone (b : Broker) (g : String) : (b.alone g).alone g = b.alone g := by
  unfold alone
  simp

/-! ## Members -/

/-- Whoever is of the group is found in it as before. -/
theorem member?_alone (h : b.Owns g id) : (b.alone g).member? id = b.member? id := by
  unfold member? alone
  rw [List.find?_filter]
  refine List.find?_congr fun m hm => ?_
  by_cases he : m.id = id
  · simp [he, h m hm he]
  · simp [he]

/-- A change of members that leaves each in its group. -/
theorem alone_modifyMember {f : Member → Member}
    (hf : ∀ m ∈ b.members, m.id = id → (f m).group = m.group) :
    (b.modifyMember id f).alone g = (b.alone g).modifyMember id f := by
  have hmembers : (b.modifyMember id f).members.filter (·.group == g) =
      ((b.alone g).modifyMember id f).members := by
    unfold modifyMember alone
    dsimp only
    rw [List.filter_map]
    congr 1
    refine List.filter_congr fun m hm => ?_
    show ((if m.id = id then f m else m).group == g) = (m.group == g)
    split
    · next he => rw [hf m hm he]
    · rfl
  unfold alone
  rw [hmembers]
  rfl

/-- Who takes no part in the dealing can go, and the others are dealt what
they were. -/
theorem zip_sharesFrom_filter {d : List (Partition × Option Nat)} {q : Member → Bool} {i : Nat}
    {ms : List Member} (hq : ∀ m ∈ ms, m.isActive g = true → q m = true) :
    (ms.filter q).zip (sharesFrom g d i (ms.filter q)) =
      (ms.zip (sharesFrom g d i ms)).filter (q ·.1) := by
  induction ms generalizing i with
  | nil => rfl
  | cons m ms ih =>
    have hrest : ∀ m ∈ ms, m.isActive g = true → q m = true := fun m hm =>
      hq m (List.mem_cons_of_mem _ hm)
    by_cases ha : m.isActive g = true
    · have hm := hq m List.mem_cons_self ha
      rw [List.filter_cons_of_pos hm, sharesFrom, sharesFrom, if_pos ha, if_pos ha,
        List.zip_cons_cons, List.zip_cons_cons, ih hrest]
      exact (List.filter_cons_of_pos (p := fun x : Member × Option (List Partition) => q x.1) hm).symm
    · rw [sharesFrom, if_neg ha, List.zip_cons_cons]
      by_cases hm : q m = true
      · rw [List.filter_cons_of_pos hm, sharesFrom, if_neg ha, List.zip_cons_cons, ih hrest]
        exact (List.filter_cons_of_pos (p := fun x : Member × Option (List Partition) => q x.1) hm).symm
      · rw [List.filter_cons_of_neg hm, ih hrest]
        exact (List.filter_cons_of_neg (p := fun x : Member × Option (List Partition) => q x.1) hm).symm

/-- Members of other groups get nothing, and the others what they got. -/
theorem zip_shares_alone (b : Broker) (g : String) :
    (b.alone g).members.zip ((b.alone g).shares g) =
      (b.members.zip (b.shares g)).filter (·.1.group == g) := by
  have hactive : ∀ m ∈ b.members, m.isActive g = true → (m.group == g) = true := by
    intro m _ ha
    unfold Member.isActive at ha
    exact (Bool.and_eq_true_iff.mp ha).1
  have hdealt : (b.alone g).dealt g = b.dealt g :=
    congrArg (fun ms : List Member => deal (ms.map Member.covers) 0 b.topics.partitions)
      (active_filter hactive)
  unfold shares
  rw [hdealt]
  exact zip_sharesFrom_filter hactive

@[simp] theorem group_rebalanced (g : String) (m : Member) (share : Option (List Partition)) :
    (m.rebalanced g share).group = m.group := by
  unfold Member.rebalanced
  split <;> rfl

/-- A group is dealt to as if it were alone: who else is there has no share in
what its members get. -/
theorem alone_rebalanced (b : Broker) (g : String) :
    (b.rebalanced g).alone g = (b.alone g).rebalanced g := by
  have hmembers : (b.rebalanced g).members.filter (·.group == g) =
      ((b.alone g).rebalanced g).members := by
    unfold rebalanced
    rw [← List.map_uncurry_zip_eq_zipWith, ← List.map_uncurry_zip_eq_zipWith, zip_shares_alone,
      List.filter_map]
    congr 1
    refine List.filter_congr fun (m, share) _ => ?_
    show ((m.rebalanced g share).group == g) = _
    rw [group_rebalanced]
  unfold alone
  rw [hmembers]
  rfl

/-- When another group rebalances, nothing changes. -/
theorem alone_rebalanced_of_ne (b : Broker) (hne : g' ≠ g) :
    (b.rebalanced g').alone g = b.alone g := by
  have hmembers : (b.rebalanced g').members.filter (·.group == g) =
      b.members.filter (·.group == g) := by
    have hlength : b.members.length = (b.shares g').length := (length_sharesFrom _ _ _).symm
    unfold rebalanced
    dsimp only
    generalize b.shares g' = shares at hlength
    generalize b.members = ms at hlength
    induction ms generalizing shares with
    | nil => rfl
    | cons m ms ih =>
      cases shares with
      | nil => cases hlength
      | cons share shares =>
        rw [List.zipWith_cons_cons, List.filter_cons, List.filter_cons, group_rebalanced,
          ih shares (Nat.succ.inj hlength)]
        by_cases hg : m.group = g
        · rw [Member.rebalanced_of_ne fun he => hne (he.symm.trans hg)]
        · simp [hg]
  unfold alone
  rw [hmembers]
  rfl

/-- What a rebalance tells is about the group alone. -/
theorem rebalanceDiary_alone (b : Broker) (g : String) :
    (b.alone g).rebalanceDiary g = b.rebalanceDiary g := by
  unfold rebalanceDiary
  rw [zip_shares_alone, List.filterMap_filter]
  refine List.filterMap_congr fun (m, share) hmem => ?_
  by_cases hg : m.group = g
  · exact if_pos (beq_iff_eq.mpr hg)
  · have hnone : share = none :=
      List.forall₂_zip (forall₂_sharesFrom_group (b.dealt g) 0 b.members) hmem hg
    rw [hnone]
    exact if_neg (by simpa using hg)

theorem forceRebalance_alone (b : Broker) (g : String) :
    (b.alone g).forceRebalance g = (b.forceRebalance g).alone g := by
  unfold forceRebalance Effect.alone
  dsimp only
  rw [rebalanceDiary_alone, alone_rebalanced]

/-! ## What a member asks for -/

/-- Whoever is found under an id that the group owns is of the group. -/
theorem Owns.group (h : b.Owns g id) (hm : b.member? id = some m) : m.group = g :=
  h m (List.mem_of_find?_eq_some hm) (id_of_member? hm)

theorem committed?_alone (b : Broker) (g : String) (p : Partition) :
    (b.alone g).committed? g p = b.committed? g p := by
  unfold committed? alone
  dsimp only
  induction b.committed with
  | nil => rfl
  | cons e rest ih =>
    obtain ⟨⟨g', p'⟩, n⟩ := e
    by_cases hg : g' = g
    · rw [List.filter_cons_of_pos (by simpa using hg), List.lookup_cons, List.lookup_cons, ih]
    · have hne : ((g, p) == (g', p')) = false := by simp [Ne.symm hg]
      rw [List.filter_cons_of_neg (by simpa using hg), List.lookup_cons, hne, ih]

/-- Where partitions begin to be read depends on the topics and on what the
member's own group has committed. -/
theorem slots_alone (b : Broker) (hm : m.group = g) (l : PartitionList) :
    (b.alone g).slots m l = b.slots m l := by
  induction l with
  | nil => rfl
  | cons e l ih =>
    rw [slots_cons, slots_cons, ih, hm, committed?_alone]
    rfl

theorem alone_putCommitted (b : Broker) (g : String) (p : Partition) (n : Int) :
    (b.putCommitted g p n).alone g = (b.alone g).putCommitted g p n := by
  unfold putCommitted alone
  dsimp only
  rw [List.filter_cons_of_pos (by simp), List.filter_filter, List.filter_filter]
  simp only [Bool.and_comm]

/-- Commits of a group are kept when it is taken by itself. -/
theorem alone_putAllCommitted (b : Broker) (g : String) (offsets : PartitionList) :
    (b.putAllCommitted g offsets).alone g = (b.alone g).putAllCommitted g offsets := by
  unfold putAllCommitted
  induction offsets generalizing b with
  | nil => rfl
  | cons e offsets ih =>
    rw [List.foldl_cons, List.foldl_cons, ih]
    split
    · rw [alone_putCommitted]
    · rfl

/-- What is wrong with offsets depends on the topics alone. -/
theorem commitFault?_alone (b : Broker) (g : String) (offsets : PartitionList) :
    (b.alone g).commitFault? offsets = b.commitFault? offsets := by
  induction offsets with
  | nil => rfl
  | cons e offsets ih =>
    unfold commitFault?
    rw [ih]
    rfl

section Owned

variable (h : b.Owns g id)
include h

/-- Whether a member subscribes or no longer does, only its group is dealt to. -/
theorem resubscribe_alone (hm : b.member? id = some m) (subscription : List Subscription) :
    (b.alone g).resubscribe m subscription = (b.resubscribe m subscription).alone g := by
  have hg := h.group hm
  subst hg
  have hsame : (b.modifyMember m.id fun m => { m with subscription }).alone m.group =
      (b.alone m.group).modifyMember m.id fun m => { m with subscription } :=
    alone_modifyMember fun _ _ _ => rfl
  unfold resubscribe
  dsimp only
  rw [← hsame, forceRebalance_alone]

theorem subscribe_alone (topics : List String) :
    (b.alone g).subscribe id topics = (b.subscribe id topics).alone g := by
  unfold subscribe
  rw [member?_alone h, patterns_alone]
  split
  · rfl
  · split
    · rfl
    · split
      · rfl
      · next hm => exact resubscribe_alone h hm _

theorem unsubscribe_alone : (b.alone g).unsubscribe id = (b.unsubscribe id).alone g := by
  unfold unsubscribe
  rw [member?_alone h]
  split
  · rfl
  · next hm => exact resubscribe_alone h hm _

theorem assign_alone (l : PartitionList) : (b.alone g).assign id l = (b.assign id l).alone g := by
  unfold assign
  rw [member?_alone h]
  split
  · rfl
  · split
    · rfl
    · next hm =>
      rw [slots_alone b (h.group hm)]
      split
      · rfl
      · next assignment _ =>
        unfold Effect.alone
        dsimp only
        rw [alone_modifyMember (f := fun m => { m with assignment, cursor := 0 }) fun _ _ _ => rfl]

theorem unassign_alone : (b.alone g).unassign id = (b.unassign id).alone g := by
  unfold unassign
  rw [member?_alone h]
  split
  · rfl
  · unfold Effect.alone
    dsimp only
    rw [alone_modifyMember (f := fun m => { m with assignment := [], cursor := 0 }) fun _ _ _ => rfl]

theorem commitNow_alone (offsets : PartitionList) :
    (b.alone g).commitNow id offsets = (b.commitNow id offsets).alone g := by
  unfold commitNow
  rw [member?_alone h, commitFault?_alone]
  split
  · rfl
  · next hm =>
    split
    · rfl
    · split
      · rfl
      · rw [h.group hm]
        unfold Effect.alone
        dsimp only
        rw [alone_putAllCommitted]

theorem commit_alone (offsets : PartitionList) (asynchronous : Bool) :
    (b.alone g).commit id offsets asynchronous = (b.commit id offsets asynchronous).alone g := by
  unfold commit
  rw [commitNow_alone h]
  generalize b.commitNow id offsets = e
  obtain ⟨result, _, _, _⟩ := e
  cases result <;> cases asynchronous <;> rfl

theorem nextEvent_alone : (b.alone g).nextEvent id = (b.nextEvent id).alone g := by
  unfold nextEvent
  rw [member?_alone h]
  split
  · rfl
  · next m hm =>
    have hsame : (b.modifyMember id fun _ => (m.next b.topics).2).alone g =
        (b.alone g).modifyMember id fun _ => (m.next b.topics).2 :=
      alone_modifyMember fun m' hm' hid =>
        (group_next m b.topics).trans ((h.group hm).trans (h m' hm' hid).symm)
    unfold Effect.alone
    dsimp only
    rw [hsame]
    rfl

theorem leave_alone : (b.alone g).leave id = (b.leave id).alone g := by
  unfold leave
  rw [member?_alone h]
  split
  · rfl
  · next m hm =>
    have hg := h.group hm
    subst hg
    have hsame : ({ b.alone m.group with
        members := (b.alone m.group).members.filter (·.id ≠ id) } : Broker) =
        ({ b with members := b.members.filter (·.id ≠ id) } : Broker).alone m.group := by
      unfold alone
      dsimp only
      rw [List.filter_filter, List.filter_filter]
      simp only [Bool.and_comm]
    rw [hsame, forceRebalance_alone]
    rfl

/-! ## What a member wants to know -/

theorem member_alone : (b.alone g).member id = b.member id := by
  unfold member
  rw [member?_alone h]

theorem watermarksFor_alone (p : Partition) :
    (b.alone g).watermarksFor id p = b.watermarksFor id p := by
  unfold watermarksFor
  rw [member_alone h]
  rfl

theorem committedFor_alone (l : PartitionList) :
    (b.alone g).committedFor id l = b.committedFor id l := by
  unfold committedFor member
  rw [member?_alone h]
  cases hm : b.member? id with
  | none => rfl
  | some m =>
    have hg := h.group hm
    subst hg
    dsimp only [bind, Except.bind]
    simp only [committed?_alone]
    rfl

theorem positionsOf_alone (l : PartitionList) :
    (b.alone g).positionsOf id l = b.positionsOf id l := by
  unfold positionsOf
  rw [member_alone h]

theorem assignmentOf_alone : (b.alone g).assignmentOf id = b.assignmentOf id := by
  unfold assignmentOf
  rw [member_alone h]

theorem subscriptionOf_alone : (b.alone g).subscriptionOf id = b.subscriptionOf id := by
  unfold subscriptionOf
  rw [member_alone h]

theorem notify_alone (code : StatusCode) (l : PartitionList) :
    (b.alone g).notify id code l = (b.notify id code l).alone g := by
  unfold notify
  rw [member?_alone h]
  split
  · rfl
  · unfold Effect.alone
    dsimp only
    rw [alone_modifyMember (f := fun m => { m with queue := m.queue ++ [⟨code, l⟩] }) fun _ _ _ => rfl]

/-- What a member of the group asks for comes to the same with the group
alone. -/
theorem performFor_alone (r : MemberRequest) :
    (b.alone g).performFor id r = (b.performFor id r).alone g := by
  unfold performFor
  cases r with
  | next => exact congrArg (Effect.map _) (nextEvent_alone h)
  | subscribe topics => exact congrArg (Effect.map _) (subscribe_alone h topics)
  | unsubscribe => exact congrArg (Effect.map _) (unsubscribe_alone h)
  | assign l => exact congrArg (Effect.map _) (assign_alone h l)
  | unassign => exact congrArg (Effect.map _) (unassign_alone h)
  | commit offsets asynchronous => exact congrArg (Effect.map _) (commit_alone h offsets asynchronous)
  | leave => exact congrArg (Effect.map _) (leave_alone h)
  | watermarks p =>
    dsimp only
    rw [watermarksFor_alone h]
    rfl
  | committed l =>
    dsimp only
    rw [committedFor_alone h]
    rfl
  | positions l =>
    dsimp only
    rw [positionsOf_alone h]
    rfl
  | assignment =>
    dsimp only
    rw [assignmentOf_alone h]
    rfl
  | subscription =>
    dsimp only
    rw [subscriptionOf_alone h]
    rfl

end Owned

/-! ## What is for everybody -/

/-- Effects that are the same are the same to the group. -/
theorem sameFor_of_eq {e e' : Effect α} (h : e' = e.alone g) : e.SameFor g e' := by
  subst h
  exact ⟨rfl, (alone_alone e.broker g).symm⟩

theorem Effect.SameFor.map {β : Type} {e e' : Effect α} (h : e.SameFor g e') (f : α → β) :
    (e.map f).SameFor g (e'.map f) := ⟨congrArg (Except.map f) h.1, h.2⟩

@[simp] theorem memberIds_alone (b : Broker) (g : String) : (b.alone g).memberIds g = b.memberIds g := by
  unfold memberIds alone
  simp

theorem produce_alone (b : Broker) (g : String) (p : Partition) (key : Option (List UInt8))
    (payload : List UInt8) :
    (b.alone g).produce p key payload = (b.produce p key payload).alone g := by
  have hlog : (b.alone g).log? p = b.log? p := rfl
  unfold produce
  rw [hlog]
  cases b.log? p <;> rfl

theorem deleteRecords_alone (b : Broker) (g : String) (p : Partition) (before : Int) :
    (b.alone g).deleteRecords p before = (b.deleteRecords p before).alone g := by
  have hlog : (b.alone g).log? p = b.log? p := rfl
  unfold deleteRecords
  rw [hlog]
  cases b.log? p <;> rfl

/-- Whoever joins gets the same id. -/
theorem connect_alone (b : Broker) (g : String) (c : Configuration) :
    (b.connect c).SameFor g ((b.alone g).connect c) := by
  unfold connect
  cases MemberOptions.read c with
  | error f => exact sameFor_of_eq rfl
  | ok options =>
    refine ⟨rfl, ?_⟩
    unfold alone
    simp

/-- Of a row of groups that are dealt to, only the group itself matters to it. -/
theorem alone_rebalancedAll (b : Broker) (g : String) (groups : List String) :
    (b.rebalancedAll groups).alone g = (b.alone g).rebalancedAll (groups.filter (· == g)) := by
  unfold rebalancedAll
  induction groups generalizing b with
  | nil => rfl
  | cons g' groups ih =>
    rw [List.foldl_cons, ih]
    by_cases hg : g' = g
    · rw [List.filter_cons_of_pos (p := (· == g)) (beq_iff_eq.mpr hg), List.foldl_cons, hg, alone_rebalanced]
    · rw [List.filter_cons_of_neg (p := (· == g)) (by simpa using hg), alone_rebalanced_of_ne b hg]

theorem nodup_eraseDups (l : List String) : l.eraseDups.Nodup := by
  induction h : l.length using Nat.strongRecOn generalizing l with
  | ind n ih =>
    cases l with
    | nil => exact List.nodup_nil
    | cons x l =>
      rw [List.eraseDups_cons, List.nodup_cons, List.mem_eraseDups, List.mem_filter]
      refine ⟨fun hx => by simp at hx, ih _ ?_ _ rfl⟩
      rw [← h]
      exact Nat.lt_succ_of_le (List.length_filter_le _ _)

/-- Whether a group covers a topic is up to its members. -/
theorem covers_alone (b : Broker) (g topic : String) : (b.alone g).Covers g topic ↔ b.Covers g topic := by
  unfold Covers alone
  simp only [List.mem_filter, beq_iff_eq]
  constructor
  · rintro ⟨m, ⟨hm, _⟩, hg, hc⟩
    exact ⟨m, hm, hg, hc⟩
  · rintro ⟨m, hm, hg, hc⟩
    exact ⟨m, ⟨hm, hg⟩, hg, hc⟩

/-- Of the groups that cover a topic, the one is left. -/
theorem groupsCovering_alone (b : Broker) (g topic : String) :
    (b.alone g).groupsCovering topic = (b.groupsCovering topic).filter (· == g) := by
  have hcount (b : Broker) : (b.groupsCovering topic).count g = if b.Covers g topic then 1 else 0 := by
    have hnodup : (b.groupsCovering topic).Nodup := nodup_eraseDups _
    rw [hnodup.count]
    simp only [mem_groupsCovering]
  have honly : (b.alone g).groupsCovering topic = ((b.alone g).groupsCovering topic).filter (· == g) := by
    symm
    rw [List.filter_eq_self]
    intro g' hg'
    obtain ⟨m, hm, rfl, _⟩ := mem_groupsCovering.mp hg'
    exact (List.mem_filter.mp hm).2
  rw [honly, List.filter_beq, List.filter_beq, hcount, hcount]
  simp only [covers_alone]

/-- The groups that a new topic has rebalance are the same but for the others. -/
theorem rebalancedAll_alone (b : Broker) (g name : String) :
    (b.rebalancedAll (b.groupsCovering name)).alone g =
      ((b.alone g).rebalancedAll ((b.alone g).groupsCovering name)).alone g := by
  rw [alone_rebalancedAll, groupsCovering_alone, alone_rebalancedAll, alone_alone,
    List.filter_filter]
  simp only [Bool.and_self]

/-- A new topic comes to the same for a group, though other groups that cover
it are dealt to as well and what is told of that is not the same. -/
theorem createTopic_alone (b : Broker) (g name : String) (n : Int) :
    (b.createTopic name n).SameFor g ((b.alone g).createTopic name n) := by
  unfold createTopic
  by_cases hinvalid : name.isEmpty ∨ n < 1
  · rw [if_pos hinvalid, if_pos hinvalid]
    exact sameFor_of_eq rfl
  rw [if_neg hinvalid, if_neg hinvalid, topics_alone]
  by_cases hthere : (b.topics.find? name).isSome
  · rw [if_pos hthere, if_pos hthere]
    exact sameFor_of_eq rfl
  · rw [if_neg hthere, if_neg hthere]
    exact ⟨rfl, rebalancedAll_alone { b with topics := b.topics.insert ⟨name, _⟩ } g name⟩

/-! ## What is for others -/

section Shunned

/-- Whatever becomes of a member of another group, as long as it stays there,
is nothing to the group. -/
theorem alone_modifyMember_of_shuns (h : b.Shuns g id) {f : Member → Member}
    (hf : ∀ m ∈ b.members, m.id = id → (f m).group ≠ g) : (b.modifyMember id f).alone g = b.alone g := by
  have hmembers : (b.modifyMember id f).members.filter (·.group == g) =
      b.members.filter (·.group == g) := by
    unfold modifyMember
    dsimp only
    rw [List.filter_map]
    have hsame : b.members.filter ((·.group == g) ∘ fun m => if m.id = id then f m else m) =
        b.members.filter (·.group == g) := by
      refine List.filter_congr fun m hm => ?_
      show ((if m.id = id then f m else m).group == g) = (m.group == g)
      split
      · next hid => rw [beq_false_of_ne (hf m hm hid), beq_false_of_ne (h m hm hid)]
      · rfl
    rw [hsame]
    refine (List.map_congr_left fun m hm => ?_).trans (List.map_id _)
    obtain ⟨hm, hg⟩ := List.mem_filter.mp hm
    exact if_neg fun hid => h m hm hid (beq_iff_eq.mp hg)
  unfold alone
  rw [hmembers]
  rfl

/-- What another group commits is nothing to the group. -/
theorem alone_putAllCommitted_of_ne (b : Broker) (hne : g' ≠ g) (offsets : PartitionList) :
    (b.putAllCommitted g' offsets).alone g = b.alone g := by
  have hput (b : Broker) (p : Partition) (n : Int) : (b.putCommitted g' p n).alone g = b.alone g := by
    unfold putCommitted alone
    dsimp only
    rw [List.filter_cons_of_neg (by simpa using hne), List.filter_filter]
    congr 1
    refine List.filter_congr fun e _ => ?_
    by_cases he : e.1.1 = g
    · have : e.1 ≠ (g', p) := fun h => hne ((congrArg Prod.fst h).symm.trans he)
      simp [this]
    · simp [he]
  unfold putAllCommitted
  induction offsets generalizing b with
  | nil => rfl
  | cons e offsets ih =>
    rw [List.foldl_cons, ih]
    split
    · exact hput _ _ _
    · rfl

/-- Nor is it that a member of another group leaves. -/
theorem alone_left (h : b.Shuns g id) :
    ({ b with members := b.members.filter (·.id ≠ id) } : Broker).alone g = b.alone g := by
  unfold alone
  dsimp only
  rw [List.filter_filter]
  congr 1
  refine List.filter_congr fun m hm => ?_
  by_cases hg : m.group = g
  · have : m.id ≠ id := fun hid => h m hm hid hg
    simp [this]
  · simp [hg]

variable {b' : Broker}

/-- What a member of another group asks for changes nothing for the group. -/
theorem Changed.alone_of_shuns {r : MemberRequest} (h : b.Changed (.member id r) b') (hs : b.Shuns g id) :
    b'.alone g = b.alone g := by
  have hmodify {f : Member → Member} (hf : ∀ m, (f m).group = m.group) :
      (b.modifyMember id f).alone g = b.alone g :=
    alone_modifyMember_of_shuns hs fun m hm hid => (hf m).symm ▸ hs m hm hid
  have hne {m : Member} (hm : b.member? id = some m) : m.group ≠ g :=
    hs m (List.mem_of_find?_eq_some hm) (id_of_member? hm)
  cases h with
  | nothing => rfl
  | resubscribed hr hm =>
    rw [alone_rebalanced_of_ne _ (hne hm)]
    exact hmodify fun _ => rfl
  | assigned => exact hmodify fun _ => rfl
  | unassigned => exact hmodify fun _ => rfl
  | looked hm =>
    refine alone_modifyMember_of_shuns hs fun _ _ _ => ?_
    rw [group_next]
    exact hne hm
  | committed hm => exact alone_putAllCommitted_of_ne b (hne hm) _
  | left hm =>
    rw [alone_rebalanced_of_ne _ (hne hm)]
    exact alone_left hs

/-- What is sent by hand to a member of another group changes nothing for
the group. -/
theorem Changed.alone_of_notify {code : StatusCode} {l : PartitionList}
    (h : b.Changed (.notify id code l) b') (hs : b.Shuns g id) : b'.alone g = b.alone g := by
  cases h with
  | nothing => rfl
  | notified => exact alone_modifyMember_of_shuns hs fun m hm hid => hs m hm hid

end Shunned

end Broker

end ConsumerGroup
