import ConsumerGroup.Proofs.Broker.Change
import ConsumerGroup.Proofs.Broker.Shares
import Std.Data.String.ToNat

/-!
# Ids

In a broker that only requests have changed, each member's id is there
once. An id is made of the client's name and a number that is never given
again; what else the client's name may contain, dashes and digits included,
the number can be read off the end (`eq_of_numbered_eq`).

So the member found by an id is the only one that has it: a change of
that member changes no other (`Sound.eq_of_member?`).
-/

namespace ConsumerGroup

/-- The number at the end of an id is the number it was made with. -/
theorem eq_of_numbered_eq {c c' : String} {n n' : Nat}
    (h : c ++ "-" ++ toString n = c' ++ "-" ++ toString n') : n = n' := by
  have digits (c : String) (n : Nat) :
      (c ++ "-" ++ toString n).toList.reverse.takeWhile (· ≠ '-') = (n.repr.toList).reverse := by
    have hdash : ∀ a ∈ n.repr.toList.reverse, decide (a ≠ '-') = true := fun a ha => by
      rw [List.mem_reverse, Nat.toList_repr] at ha
      have hdigit := Nat.isDigit_of_mem_toDigits (by decide) (by decide) ha
      apply decide_eq_true
      intro hd
      rw [hd] at hdigit
      exact absurd hdigit (by decide)
    have hlist : (c ++ "-" ++ toString n).toList.reverse =
        n.repr.toList.reverse ++ '-' :: c.toList.reverse := by
      show (c ++ "-" ++ n.repr).toList.reverse = _
      simp [String.toList_append]
    rw [hlist, List.takeWhile_append_of_pos hdash]
    simp
  have hrev := congrArg (fun s => s.toList.reverse.takeWhile (· ≠ '-')) h
  simp only [digits] at hrev
  exact Nat.repr_injective (String.toList_inj.mp (List.reverse_injective hrev))

namespace Broker

/-- Each id is there once, and every id has a number that has been given. -/
structure Sound (b : Broker) : Prop where
  ids : (b.members.map (·.id)).Nodup
  numbered : ∀ m ∈ b.members, ∃ client n, n ≤ b.joined ∧ m.id = client ++ "-" ++ toString n

theorem sound_empty (patterns : PatternReader) : ({ patterns } : Broker).Sound :=
  ⟨List.nodup_nil, fun _ h => absurd h (by simp)⟩

/-- Whoever has the id is the member found by it. -/
theorem Sound.eq_of_member? {b : Broker} (hs : b.Sound) {id : String} {m m' : Member}
    (h : b.member? id = some m) (hm' : m' ∈ b.members) (hid : m'.id = id) : m' = m :=
  List.inj_on_of_nodup_map hs.ids hm' (List.mem_of_find?_eq_some h) (hid.trans (id_of_member? h).symm)

/-- What the ids of members are made of is all that soundness asks of
them. -/
theorem Sound.of_ids {b b' : Broker} (hs : b.Sound)
    (hm : (b'.members.map (·.id)).Sublist (b.members.map (·.id))) (hj : b'.joined = b.joined) :
    b'.Sound := by
  refine ⟨hm.nodup hs.ids, ?_⟩
  intro m h
  obtain ⟨m', hm', hid⟩ := List.mem_map.mp (hm.subset (List.mem_map_of_mem h))
  obtain ⟨client, n, hn, he⟩ := hs.numbered m' hm'
  exact ⟨client, n, hj ▸ hn, hid ▸ he⟩

/-! ## What keeps a broker sound -/

theorem id_rebalanced (g : String) (m : Member) (share : Option (List Partition)) :
    (m.rebalanced g share).id = m.id := by
  unfold Member.rebalanced
  split <;> rfl

/-- Whatever comes out of a look at a member, what is told of it for good
stays. -/
theorem next_frame (m : Member) (ts : Topics) :
    (m.next ts).2.id = m.id ∧ (m.next ts).2.options = m.options ∧
      (m.next ts).2.subscription = m.subscription := by
  unfold Member.next Member.fetch
  split
  · exact ⟨rfl, rfl, rfl⟩
  · dsimp only
    split
    · exact ⟨rfl, rfl, rfl⟩
    · split <;> exact ⟨rfl, rfl, rfl⟩

theorem id_next (m : Member) (ts : Topics) : (m.next ts).2.id = m.id := (next_frame m ts).1

theorem group_next (m : Member) (ts : Topics) : (m.next ts).2.group = m.group :=
  congrArg MemberOptions.group (next_frame m ts).2.1

/-- To deal keeps a broker sound, since ids stay. -/
theorem Sound.rebalanced {b : Broker} (hs : b.Sound) (g : String) : (b.rebalanced g).Sound := by
  refine hs.of_ids ?_ rfl
  rw [map_rebalanced (fun m => m.id) (id_rebalanced g) b]

theorem Sound.rebalancedAll {b : Broker} (hs : b.Sound) (groups : List String) :
    (b.rebalancedAll groups).Sound := by
  unfold Broker.rebalancedAll
  induction groups generalizing b with
  | nil => exact hs
  | cons g groups ih => exact ih (hs.rebalanced g)

theorem ids_modifyMember {b : Broker} {id : String} {f : Member → Member}
    (h : ∀ m, m.id = id → (f m).id = id) :
    (b.modifyMember id f).members.map (·.id) = b.members.map (·.id) := by
  unfold modifyMember
  rw [List.map_map]
  apply List.map_congr_left
  intro m _
  show (if m.id = id then f m else m).id = m.id
  split
  · next hm => rw [h m hm, hm]
  · rfl

/-- So does any change to a member that leaves its id. -/
theorem Sound.modifyMember {b : Broker} (hs : b.Sound) {id : String} {f : Member → Member}
    (h : ∀ m, m.id = id → (f m).id = id) : (b.modifyMember id f).Sound := by
  refine hs.of_ids ?_ rfl
  rw [ids_modifyMember h]

/-- To commit offsets changes nothing but what is committed. -/
theorem putAllCommitted_eq (b : Broker) (g : String) (offsets : PartitionList) :
    b.putAllCommitted g offsets =
      { b with committed := (b.putAllCommitted g offsets).committed } := by
  unfold putAllCommitted
  induction offsets generalizing b with
  | nil => rfl
  | cons e offsets ih =>
    rw [List.foldl_cons]
    split
    · exact ih _
    · exact ih b

/-- To commit changes neither topics nor members, nor who joins next. -/
theorem putAllCommitted_frame (b : Broker) (g : String) (offsets : PartitionList) :
    (b.putAllCommitted g offsets).topics = b.topics ∧
      (b.putAllCommitted g offsets).members = b.members ∧
      (b.putAllCommitted g offsets).joined = b.joined := by
  rw [putAllCommitted_eq]
  exact ⟨rfl, rfl, rfl⟩

/-- Nobody who has joined has the id that the next to join gets. -/
theorem Sound.fresh {b : Broker} (hs : b.Sound) (client : String) :
    client ++ "-" ++ toString (b.joined + 1) ∉ b.members.map (·.id) := by
  intro h
  obtain ⟨m, hm, hid⟩ := List.mem_map.mp h
  obtain ⟨client', n, hn, he⟩ := hs.numbered m hm
  have := eq_of_numbered_eq (he.symm.trans hid)
  omega

/-- Whoever joins has an id that nobody has, with the next number in it. -/
theorem Sound.connected {b : Broker} (hs : b.Sound) (options : MemberOptions) :
    ({ b with
      members := b.members ++ [{ id := options.client ++ "-" ++ toString (b.joined + 1), options }]
      joined := b.joined + 1 } : Broker).Sound := by
  refine ⟨?_, ?_⟩
  · simp only [List.map_append, List.map_cons, List.map_nil]
    exact List.nodup_append_comm.mp (List.nodup_cons.mpr ⟨hs.fresh options.client, hs.ids⟩)
  · intro m hm
    rcases List.mem_append.mp hm with hm | hm
    · obtain ⟨client, n, hn, he⟩ := hs.numbered m hm
      exact ⟨client, n, Nat.le_succ_of_le hn, he⟩
    · rw [List.mem_singleton.mp hm]
      exact ⟨options.client, b.joined + 1, Nat.le_refl _, rfl⟩

/-- No request makes a sound broker unsound. -/
theorem Sound.changed {b b' : Broker} (hs : b.Sound) {r : Request} (h : b.Changed r b') :
    b'.Sound := by
  cases h with
  | nothing => exact hs
  | topicCreated b₁ hname hb =>
    refine Sound.rebalancedAll ?_ _
    rw [hb]
    exact ⟨hs.ids, hs.numbered⟩
  | appended hl => exact hs.of_ids (List.Sublist.refl _) rfl
  | dropped hl => exact hs.of_ids (List.Sublist.refl _) rfl
  | connected ho => exact hs.connected _
  | rebalanced => exact hs.rebalanced _
  | notified hm => exact hs.modifyMember fun _ h => h
  | resubscribed hr hm =>
    refine Sound.rebalanced ?_ _
    exact hs.modifyMember fun _ h => h
  | assigned => exact hs.modifyMember fun _ h => h
  | unassigned => exact hs.modifyMember fun _ h => h
  | looked hm => exact hs.modifyMember fun _ _ => (id_next _ _).trans (id_of_member? hm)
  | @committed _ m offsets _ hm hf =>
    obtain ⟨_, hms, hj⟩ := b.putAllCommitted_frame m.group offsets
    exact hs.of_ids (by rw [hms]) hj
  | left hm =>
    refine Sound.rebalanced ?_ _
    exact hs.of_ids ((List.filter_sublist (l := b.members)).map _) rfl

/-- A sound broker is sound after every request. -/
theorem Sound.perform {b : Broker} (hs : b.Sound) (r : Request) : (b.perform r).broker.Sound :=
  hs.changed (b.perform_changed r)

/-! ## Members by their ids -/

/-- Two changes to the same member are one. -/
theorem modifyMember_modifyMember (b : Broker) {id : String} {f h : Member → Member}
    (hf : ∀ m, m.id = id → (f m).id = id) :
    (b.modifyMember id f).modifyMember id h = b.modifyMember id fun m => h (f m) := by
  unfold modifyMember
  rw [List.map_map]
  congr 1
  apply List.map_congr_left
  intro m _
  show (if (if m.id = id then f m else m).id = id then h _ else _) = _
  by_cases hm : m.id = id
  · simp only [if_pos hm, if_pos (hf m hm)]
  · simp only [if_neg hm]

/-- Nobody is found just where nobody has the id. -/
theorem member?_eq_none_iff {b : Broker} {id : String} :
    b.member? id = none ↔ id ∉ b.members.map (·.id) := by
  unfold member?
  rw [List.find?_eq_none]
  simp

/-- In a sound broker everybody is found by their id. -/
theorem Sound.member?_of_mem {b : Broker} (hs : b.Sound) {m : Member} (hm : m ∈ b.members) :
    b.member? m.id = some m := by
  cases h : b.member? m.id with
  | none => exact absurd (List.mem_map_of_mem hm) (member?_eq_none_iff.mp h)
  | some m' => rw [hs.eq_of_member? h hm rfl]

/-- A change that keeps the id of one member leaves the others alone. -/
theorem member?_modifyMember_of_ne {b : Broker} {id id' : String} (hne : id' ≠ id)
    {f : Member → Member} (hf : ∀ m, m.id = id → (f m).id = id) :
    (b.modifyMember id f).member? id' = b.member? id' := by
  unfold member? modifyMember
  dsimp only
  induction b.members with
  | nil => rfl
  | cons m ms ih =>
    by_cases hm : m.id = id
    · simp [hm, hf m hm, hne.symm, ih]
    · simp [hm, List.find?_cons, ih]

/-- Whoever has left is no longer there. -/
theorem member?_leave (b : Broker) (id : String) : (b.leave id).broker.member? id = none := by
  unfold leave
  cases hm : b.member? id with
  | none => exact hm
  | some m =>
    show (Broker.rebalanced _ m.group).member? id = none
    rw [member?_eq_none_iff, map_rebalanced (fun m => m.id) (id_rebalanced m.group)]
    simp

/-- To leave twice is to leave once. -/
theorem leave_leave (b : Broker) (id : String) :
    ((b.leave id).broker.leave id).broker = (b.leave id).broker := by
  have hgone := b.member?_leave id
  generalize b.leave id = e at hgone
  unfold leave
  rw [hgone]
  rfl

/-- It makes no difference to the others what became of somebody who
leaves. -/
theorem leave_modifyMember {b : Broker} {id : String} {m : Member} (hm : b.member? id = some m)
    {f : Member → Member} (hf : ∀ m, m.id = id → (f m).id = id) (hg : (f m).group = m.group) :
    ((b.modifyMember id f).leave id).broker = (b.leave id).broker := by
  have hrest : (b.modifyMember id f).members.filter (·.id ≠ id) =
      b.members.filter (·.id ≠ id) := by
    unfold modifyMember
    simp only
    induction b.members with
    | nil => rfl
    | cons m₁ ms ih =>
      rw [List.map_cons, List.filter_cons, List.filter_cons, ih]
      by_cases h : m₁.id = id
      · simp [h, hf]
      · simp [h]
  unfold leave
  rw [member?_modifyMember hf, hm, hrest]
  show Broker.rebalanced _ (f m).group = Broker.rebalanced _ m.group
  rw [hg]
  rfl

/-- Whoever gives everything up and then leaves has left. -/
theorem leave_unassign (b : Broker) (id : String) :
    ((b.unassign id).broker.leave id).broker = (b.leave id).broker := by
  unfold unassign
  cases hm : b.member? id with
  | none => rfl
  | some m =>
    refine leave_modifyMember (f := fun m => { m with assignment := [], cursor := 0 }) hm ?_ rfl
    exact fun _ h => h

end Broker

end ConsumerGroup
