import ConsumerGroup.Proofs.Broker.Frame

/-!
# What happens aside from a member

A member stays until it leaves, and whatever is asked of the broker that
neither reaches for the member nor has it leave only deals to it
(`Sound.dealt_aside`): it goes on reading what it read, where it read it.

Whoever has left is gone for good, since the number at the end of its id
is not given again (`Issued.absent_perform`).

Both are read off what a request can change (`Broker.Changed`), case by
case. What is done for the member itself, and by whom, is not distinguished:
somebody else who asks in its place reaches for it as well.
-/

namespace ConsumerGroup

/-- The request sends the member a notification by hand, takes what waits
for it, changes what it reads, or has it leave. -/
def Request.Touches (id : String) : Request → Prop
  | .notify id' _ _ => id' = id
  | .member id' .next | .member id' (.assign _) | .member id' .unassign | .member id' .leave => id' = id
  | _ => False

namespace Broker

variable {b b' : Broker} {id : String} {m : Member} {r : Request}

/-- There is a member with the id. -/
def Present (b : Broker) (id : String) : Prop := id ∈ b.members.map (·.id)

/-- To be there is to be found. -/
theorem present_iff : b.Present id ↔ ∃ m, b.member? id = some m := by
  unfold Present
  rw [← Option.isSome_iff_exists, ← not_iff_not, ← member?_eq_none_iff, Option.not_isSome_iff_eq_none]

theorem present_of_member? (h : b.member? id = some m) : b.Present id := present_iff.mpr ⟨m, h⟩

/-! ## Who is there -/

/-- Whoever is there stays so, however many groups are dealt to. -/
theorem ids_rebalancedAll (b : Broker) (groups : List String) :
    (b.rebalancedAll groups).members.map (·.id) = b.members.map (·.id) := by
  unfold rebalancedAll
  induction groups generalizing b with
  | nil => rfl
  | cons g groups ih => exact (ih (b.rebalanced g)).trans (map_rebalanced _ (id_rebalanced g) b)

/-- A member that keeps its id is there as before, and so is everybody else. -/
theorem present_modifyMember {id' : String} {f : Member → Member}
    (hf : ∀ m, m.id = id' → (f m).id = id') : (b.modifyMember id' f).Present id ↔ b.Present id := by
  unfold Present
  rw [ids_modifyMember hf]

theorem present_rebalanced (g : String) : (b.rebalanced g).Present id ↔ b.Present id := by
  unfold Present
  rw [map_rebalanced _ (id_rebalanced g)]

/-- When one leaves, all others are still there. -/
theorem present_left {id' : String} :
    ({ b with members := b.members.filter (·.id ≠ id') } : Broker).Present id ↔
      b.Present id ∧ id ≠ id' := by
  unfold Present
  simp only [List.mem_map, List.mem_filter, decide_eq_true_eq]
  constructor
  · rintro ⟨m, ⟨hm, hne⟩, rfl⟩
    exact ⟨⟨m, hm, rfl⟩, hne⟩
  · rintro ⟨⟨m, hm, rfl⟩, hne⟩
    exact ⟨m, ⟨hm, hne⟩, rfl⟩

/-- Nobody comes or goes but whoever joins or leaves. -/
theorem Changed.present_iff (h : b.Changed r b') (hc : ∀ c, r ≠ .connect c)
    (hl : r ≠ .member id .leave) : b'.Present id ↔ b.Present id := by
  cases h with
  | nothing | appended | dropped => exact Iff.rfl
  | topicCreated b₁ hname hb =>
    unfold Present
    rw [ids_rebalancedAll, hb]
  | connected => exact absurd rfl (hc _)
  | rebalanced => exact present_rebalanced _
  | notified | assigned | unassigned => exact present_modifyMember fun _ h => h
  | resubscribed => exact (present_rebalanced _).trans (present_modifyMember fun _ h => h)
  | looked hm =>
    exact present_modifyMember fun _ _ => (id_next _ _).trans (id_of_member? hm)
  | committed =>
    unfold Present
    rw [(b.putAllCommitted_frame _ _).2.1]
  | @left id' =>
    refine (present_rebalanced _).trans (present_left.trans ⟨And.left, fun hp => ⟨hp, ?_⟩⟩)
    rintro rfl
    exact hl rfl

/-- Nobody comes to be there but by connecting. -/
theorem Changed.absent (h : b.Changed r b') (hc : ∀ c, r ≠ .connect c) (hn : ¬ b.Present id) :
    ¬ b'.Present id := by
  by_cases hl : r = .member id .leave
  · subst hl
    cases h with
    | nothing => exact hn
    | resubscribed hr => rcases hr with hr | ⟨_, hr⟩ <;> cases hr
    | left => exact fun hp => hn (present_left.mp ((present_rebalanced _).mp hp)).1
  · exact fun hp => hn ((h.present_iff hc hl).mp hp)

/-- Whoever comes to be there has just joined, with the next number, and
reads nothing. -/
theorem Changed.joined (h : b.Changed r b') (hn : ¬ b.Present id) (hp : b'.Present id) :
    ∃ options : MemberOptions, b'.member? id = some { id, options } ∧
      id = options.client ++ "-" ++ toString (b.joined + 1) := by
  by_cases hc : ∃ c, r = .connect c
  · obtain ⟨c, rfl⟩ := hc
    cases h with
    | nothing => exact absurd hp hn
    | @connected _ options =>
      have hnone : b.members.find? (·.id == id) = none := member?_eq_none_iff.mpr hn
      unfold Present at hp
      rw [List.map_append, List.mem_append, List.map_singleton, List.mem_singleton] at hp
      obtain rfl := hp.resolve_left hn
      refine ⟨options, ?_, rfl⟩
      unfold member?
      rw [List.find?_append, hnone, Option.none_or, List.find?_singleton,
        if_pos (beq_self_eq_true _)]
  · exact absurd hp (h.absent (not_exists.mp hc) hn)

/-- Whoever is there stays until it leaves. -/
theorem Changed.stays (h : b.Changed r b') (hp : b.Present id) (hr : r ≠ .member id .leave) :
    b'.Present id := by
  by_cases hc : ∃ c, r = .connect c
  · obtain ⟨c, rfl⟩ := hc
    cases h with
    | nothing => exact hp
    | connected =>
      unfold Present
      rw [List.map_append]
      exact List.mem_append_left _ hp
  · exact (h.present_iff (not_exists.mp hc) hr).mpr hp

/-- The id was given to somebody. -/
def Issued (b : Broker) (id : String) : Prop :=
  ∃ client n, n ≤ b.joined ∧ id = client ++ "-" ++ toString n

/-- Whoever is there was given its id. -/
theorem Sound.issued (hs : b.Sound) (h : b.Present id) : b.Issued id := by
  obtain ⟨m, hm, rfl⟩ := List.mem_map.mp h
  exact hs.numbered m hm

/-- An id that has been given stays so. -/
theorem Issued.perform (h : b.Issued id) (r : Request) : (b.perform r).broker.Issued id :=
  have ⟨client, n, hn, he⟩ := h
  ⟨client, n, Nat.le_trans hn (b.perform_grows r).2, he⟩

/-- An id is not given twice. -/
theorem Issued.ne_next (h : b.Issued id) (client : String) :
    id ≠ client ++ "-" ++ toString (b.joined + 1) := by
  obtain ⟨client', n, hn, rfl⟩ := h
  intro he
  have := eq_of_numbered_eq he
  omega

/-- Whoever has left does not come back. -/
theorem Issued.absent_perform (h : b.Issued id) (hn : ¬ b.Present id) (r : Request) :
    ¬ (b.perform r).broker.Present id := by
  intro hp
  obtain ⟨options, _, he⟩ := (b.perform_changed r).joined hn hp
  exact h.ne_next options.client he

/-! ## What becomes of a member that is left alone -/

/-- Where everybody has only been dealt to, so has the one with the id. -/
theorem Sound.dealt_of_deals (hs : b.Sound) (hd : b.Deals b') (hm : b.member? id = some m)
    (hp : b'.Present id) :
    ∃ m', b'.member? id = some m' ∧ m.Dealt b'.topics.partitions m' := by
  obtain ⟨m', hm'⟩ := present_iff.mp hp
  obtain ⟨m₀, hm₀, hdealt⟩ := hd m' (List.mem_of_find?_eq_some hm')
  have hid : m₀.id = id := hdealt.frame.1.symm.trans (id_of_member? hm')
  rw [hs.eq_of_member? hm hm₀ hid] at hdealt
  exact ⟨m', hm', hdealt⟩

/-- Whoever is found as before has been dealt nothing. -/
theorem dealt_of_member? (h : b'.member? id = b.member? id) (hm : b.member? id = some m) :
    ∃ m', b'.member? id = some m' ∧ m.Dealt b'.topics.partitions m' :=
  ⟨m, h.trans hm, .refl⟩

/-- A member is dealt to by what is asked of a broker, as long as nobody
touches it. -/
theorem Sound.dealt_aside (hs : b.Sound) (hr : ¬ r.Touches id) (hm : b.member? id = some m) :
    ∃ m', (b.perform r).broker.member? id = some m' ∧
      m.Dealt (b.perform r).broker.topics.partitions m' := by
  have hleave : r ≠ .member id .leave := by
    rintro rfl
    exact hr rfl
  have hchanged := b.perform_changed r
  generalize (b.perform r).broker = b' at hchanged
  have hp : b'.Present id := hchanged.stays (present_of_member? hm) hleave
  by_cases hreach : reaches r = false
  · exact hs.dealt_of_deals (hchanged.deals hreach) hm hp
  -- Of the requests that reach for a member, one takes in a new one, and the
  -- others concern somebody else.
  have hne {id' : String} {f : Member → Member} (hid : id' ≠ id)
      (hf : ∀ m, m.id = id' → (f m).id = id') :
      ∃ m', (b.modifyMember id' f).member? id = some m' ∧ m.Dealt b.topics.partitions m' :=
    dealt_of_member? (member?_modifyMember_of_ne hid.symm hf) hm
  cases hchanged with
  | connected =>
    refine ⟨m, ?_, .refl⟩
    have hfound : b.members.find? (·.id == id) = some m := hm
    unfold member?
    rw [List.find?_append, hfound]
    rfl
  | notified | assigned | unassigned => exact hne hr fun _ h => h
  | looked hm' => exact hne hr fun _ _ => (id_next _ _).trans (id_of_member? hm')
  | nothing => exact ⟨m, hm, .refl⟩
  | resubscribed hsub =>
    rcases hsub with rfl | ⟨_, rfl⟩ <;> exact absurd rfl hreach
  | _ => exact absurd rfl hreach

end Broker

end ConsumerGroup
