import ConsumerGroup.Proofs.Broker.Queueing

/-!
# Members that subscribe to nothing

A member that subscribes to nothing takes no part in the dealing of its
group, and is never given a share. It stays so until it subscribes
(`Unsubscribed.perform`).

But a rebalance does not leave it alone. What it effectively holds is taken
away from it as from anybody else in the group, by whatever has the group
rebalance; and after that it effectively holds nothing, so that nothing
more is queued for it (`queues_of_unsubscribed`).

So what is queued for it can be told exactly: what it effectively holds,
once, or nothing. Whether its owner assigns it anything by hand meanwhile,
and what becomes of that, is not said here.
-/

namespace ConsumerGroup

namespace Broker

variable {b b' : Broker} {id id' g : String} {m : Member} {r : Request}

/-- Whoever has the id subscribes to nothing. -/
def Unsubscribed (b : Broker) (id : String) : Prop :=
  ∀ m ∈ b.members, m.id = id → m.subscription = []

/-- Whoever is found under the id has no subscription. -/
theorem Unsubscribed.subscription_eq_nil (h : b.Unsubscribed id) (hm : b.member? id = some m) :
    m.subscription = [] :=
  h m (List.mem_of_find?_eq_some hm) (id_of_member? hm)

/-! ## Nobody subscribes for another -/

/-- To deal subscribes nobody. -/
theorem Unsubscribed.rebalanced (h : b.Unsubscribed id) (g : String) :
    (b.rebalanced g).Unsubscribed id := by
  intro m' hm' hid
  obtain ⟨m, hm, s, _, rfl⟩ := mem_members_rebalanced hm'
  rw [id_rebalanced] at hid
  unfold Member.rebalanced
  split <;> exact h m hm hid

theorem Unsubscribed.rebalancedAll (h : b.Unsubscribed id) (groups : List String) :
    (b.rebalancedAll groups).Unsubscribed id := by
  unfold Broker.rebalancedAll
  induction groups generalizing b with
  | nil => exact h
  | cons g groups ih => exact ih (h.rebalanced g)

/-- A change to members that subscribes nobody of that id leaves it
unsubscribed. -/
theorem Unsubscribed.modifyMember {f : Member → Member} (h : b.Unsubscribed id)
    (hf : ∀ m, m.id = id' → (f m).id = id')
    (hsub : id' = id → ∀ m ∈ b.members, m.id = id → (f m).subscription = []) :
    (b.modifyMember id' f).Unsubscribed id := by
  intro m' hm' hid
  obtain ⟨m, hm, rfl⟩ := List.mem_map.mp hm'
  split at hid
  · next he =>
    have hsame : id' = id := (hf m he).symm.trans hid
    rw [if_pos he]
    exact hsub hsame m hm (he.trans hsame)
  · next he =>
    rw [if_neg he]
    exact h m hm hid

/-- Whoever subscribes to nothing goes on so until it subscribes itself. -/
theorem Unsubscribed.perform (h : b.Unsubscribed id)
    (hr : ∀ topics, r ≠ .member id (.subscribe topics)) : (b.perform r).broker.Unsubscribed id := by
  -- That a member subscribes to nothing from now on is not in what `Changed` says.
  by_cases hown : r = .member id .unsubscribe
  · subst hown
    show (b.unsubscribe id).broker.Unsubscribed id
    unfold unsubscribe
    split
    · exact h
    · next m hm =>
      apply Unsubscribed.rebalanced
      exact h.modifyMember (fun _ h => h) fun _ _ _ _ => rfl
  have hchanged := b.perform_changed r
  generalize (b.perform r).broker = b' at hchanged
  cases hchanged with
  | nothing | appended | dropped => exact h
  | topicCreated b₁ hname hb =>
    refine Unsubscribed.rebalancedAll ?_ _
    rw [hb]
    exact h
  | connected =>
    intro m hm hid
    rcases List.mem_append.mp hm with hm | hm
    · exact h m hm hid
    · rw [List.mem_singleton.mp hm]
  | rebalanced => exact h.rebalanced _
  | notified | assigned | unassigned => exact h.modifyMember (fun _ h => h) fun _ => h
  | resubscribed hsub =>
    apply Unsubscribed.rebalanced
    refine h.modifyMember (fun _ h => h) ?_
    rintro rfl
    rcases hsub with rfl | ⟨topics, rfl⟩
    · exact absurd rfl hown
    · exact absurd rfl (hr topics)
  | looked hm =>
    refine h.modifyMember (fun _ _ => (id_next _ _).trans (id_of_member? hm)) ?_
    rintro rfl _ _ _
    exact (next_frame _ _).2.2.trans (h.subscription_eq_nil hm)
  | committed =>
    unfold Unsubscribed
    rw [(b.putAllCommitted_frame _ _).2.1]
    exact h
  | left => exact Unsubscribed.rebalanced (fun m hm => h m (List.mem_of_mem_filter hm)) _

/-! ## What a rebalance queues for them -/

/-- Who subscribes to nothing is there without a share. -/
theorem find?_zip_shares (hm : b.member? id = some m) (hsub : m.subscription = []) (g : String) :
    (b.members.zip (b.shares g)).find? (·.1.id == id) = some (m, none) := by
  have hlength : b.members.length ≤ (b.shares g).length := Nat.le_of_eq (length_sharesFrom _ _ _).symm
  have hfirst : b.member? id = ((b.members.zip (b.shares g)).find? (·.1.id == id)).map Prod.fst := by
    unfold member?
    conv_lhs => rw [← List.map_fst_zip hlength, List.find?_map]
    rfl
  rw [hm] at hfirst
  obtain ⟨⟨_, s⟩, hfound, rfl⟩ := Option.map_eq_some_iff.mp hfirst.symm
  have hnone : s.isSome = _ :=
    List.forall₂_zip (forall₂_sharesFrom_isSome (b.dealt g) 0 b.members)
      (List.mem_of_find?_eq_some hfound)
  rw [Member.isActive, hsub, List.isEmpty_nil, Bool.not_true, Bool.and_false,
    Option.isSome_eq_false_iff, Option.isNone_iff_eq_none] at hnone
  rw [hfound, hnone]

/-- Whoever is not subscribed is dealt no share, which is not the same as an
empty one. -/
theorem member?_rebalanced_of_unsubscribed (hm : b.member? id = some m)
    (hsub : m.subscription = []) (g : String) :
    (b.rebalanced g).member? id = some (m.rebalanced g none) := by
  have hids : (fun ms : Member × Option (List Partition) => (ms.1.rebalanced g ms.2).id == id) =
      (·.1.id == id) := by
    funext ms
    rw [id_rebalanced]
  have hfind := find?_zip_shares hm hsub g
  unfold member? rebalanced
  dsimp only
  rw [← List.map_uncurry_zip_eq_zipWith, List.find?_map]
  show Option.map _ ((b.members.zip (b.shares g)).find? fun ms => (ms.1.rebalanced g ms.2).id == id) = _
  rw [hids, hfind]
  rfl

/-- All that can come to it is a revocation. -/
theorem dealsTo_of_unsubscribed (hm : b.member? id = some m) (hsub : m.subscription = [])
    (g : String) : b.dealsTo g id = if m.group = g then dealtNotices m none else [] := by
  unfold dealsTo
  rw [find?_zip_shares hm hsub g]
  rfl

/-- What was to be taken away is taken away once. -/
theorem dealtNotices_rebalanced (hg : m.group = g) : dealtNotices (m.rebalanced g none) none = [] := by
  unfold dealtNotices
  rw [isEmpty_effectiveAssignment, heldAfter_rebalanced hg]
  rfl

/-- However many groups rebalance, it is told once. -/
theorem dealsAllTo_of_unsubscribed (hm : b.member? id = some m) (hsub : m.subscription = [])
    (groups : List String) :
    b.dealsAllTo groups id = if m.group ∈ groups then dealtNotices m none else [] := by
  induction groups generalizing b m with
  | nil => rfl
  | cons g groups ih =>
    have hnext := member?_rebalanced_of_unsubscribed hm hsub g
    unfold dealsAllTo
    rw [dealsTo_of_unsubscribed hm hsub]
    by_cases hg : m.group = g
    · have hnothing := dealtNotices_rebalanced hg
      rw [Member.rebalanced_of_eq hg] at hnext hnothing
      rw [ih hnext hsub, hnothing, ite_self, List.append_nil, if_pos hg,
        if_pos (List.mem_cons.mpr (.inl hg))]
    · rw [Member.rebalanced_of_ne hg] at hnext
      rw [ih hnext hsub, if_neg hg, List.nil_append]
      simp [hg]

/-! ## What a request queues for them -/

/-- The request is not refused, and has the group of the member with an id
rebalance. -/
def disturbs (b : Broker) (id : String) (r : Request) : Bool :=
  (b.perform r).result.toOption.isSome && (b.groupOf id).any (· ∈ (b.rebalancing r).2)

/-- Before groups rebalance, nothing becomes of a member but by itself. -/
theorem member?_rebalancing (hm : b.member? id = some m) (hsub : m.subscription = [])
    (hs : ∀ topics, r ≠ .member id (.subscribe topics)) (hl : r ≠ .member id .leave) :
    (b.rebalancing r).1.member? id = some m := by
  have hsame : ({ m with subscription := [] } : Member) = m := by rw [← hsub]
  unfold rebalancing
  split
  · exact hm
  · exact hm
  · next id' topics =>
    have hne : id ≠ id' := by
      rintro rfl
      exact hs topics rfl
    dsimp only
    rw [member?_modifyMember_of_ne hne, hm]
    exact fun _ h => h
  · next id' =>
    dsimp only
    by_cases he : id = id'
    · subst he
      rw [member?_modifyMember, hm, Option.map_some, hsame]
      exact fun _ h => h
    · rw [member?_modifyMember_of_ne he, hm]
      exact fun _ h => h
  · next id' =>
    have hne : id ≠ id' := by
      rintro rfl
      exact hl rfl
    exact (member?_left hne).trans hm
  · exact hm

/-- All that is queued for a member that subscribes to nothing, as long as
nothing is sent to it by hand, is that what it effectively holds is taken
away, whenever its group rebalances. -/
theorem queues_of_unsubscribed (hm : b.member? id = some m) (hsub : m.subscription = [])
    (hn : ∀ code partitions, r ≠ .notify id code partitions)
    (hs : ∀ topics, r ≠ .member id (.subscribe topics)) (hl : r ≠ .member id .leave) :
    b.queues id r = if b.disturbs id r then dealtNotices m none else [] := by
  unfold disturbs
  cases hx : (b.perform r).result with
  | error f => exact queues_of_error hx
  | ok x =>
    by_cases hnotify : ∃ id' code partitions, r = .notify id' code partitions
    · obtain ⟨id', code, partitions, rfl⟩ := hnotify
      have hne : id' ≠ id := by
        rintro rfl
        exact hn code partitions rfl
      have hnothing : b.queues id (.notify id' code partitions) = [] := by
        unfold queues
        rw [hx]
        exact if_neg hne
      rw [hnothing, groupOf_of_member? hm]
      rfl
    · have hother : ∀ id' code partitions, r ≠ .notify id' code partitions :=
        fun id' code partitions he => hnotify ⟨id', code, partitions, he⟩
      rw [queues_of_ok hx hother,
        dealsAllTo_of_unsubscribed (member?_rebalancing hm hsub hs hl) hsub, groupOf_of_member? hm]
      simp [Except.toOption]

end Broker

end ConsumerGroup
