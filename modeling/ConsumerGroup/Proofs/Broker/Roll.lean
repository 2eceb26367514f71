import ConsumerGroup.Proofs.Broker.Alone
import ConsumerGroup.Proofs.Broker.Waking

/-!
# Who has ever joined

A roll lists everybody who has ever joined a broker, with the group they
joined, in the order they did. It depends on nothing but who was to be
connected (`Roll.after`), and it tells for each request whether it concerns
a group: what is for everybody does, and what is addressed to the group or
to one of its members, also when that has left (`Request.concerns`).

Two brokers are twins for a group if they are the same with the group
alone. What concerns the group has the same result with both and leaves
twins (`Twin.perform`), and what does not concern it may be asked of one of
them and not of the other (`Twin.aside`).

Both theorems about twins rest on the group alone being left the same by
both, and neither opens an operation again. The roll goes on listing whoever
has left, since what is addressed to one who is gone concerns the group as
well.
-/

namespace ConsumerGroup

/-- Everybody who has ever joined, by id and group. -/
abbrev Roll := List (String × String)

/-- The roll after a request: whoever joins is entered. -/
def Roll.after (roll : Roll) : Request → Roll
  | .connect c =>
    match MemberOptions.read c with
    | .ok options => roll ++ [(options.client ++ "-" ++ toString (roll.length + 1), options.group)]
    | .error _ => roll
  | _ => roll

/-- The request is for everybody, or it is addressed to the group or to
somebody who has joined it. -/
def Request.concerns (roll : Roll) (g : String) : Request → Bool
  | .createTopic .. | .produce .. | .deleteRecords .. | .watermarks _ | .connect _ => true
  | .committed g' _ | .rebalance g' | .members g' => g' == g
  | .notify id _ _ | .member id _ => roll.contains (id, g)
  | .describe => false

/-- Nobody is struck off the roll. -/
theorem Roll.subset_after (roll : Roll) (r : Request) : roll ⊆ roll.after r := by
  unfold after
  split
  · split
    · exact List.subset_append_left _ _
    · exact List.Subset.refl _
  · exact List.Subset.refl _

/-- The roll grows only when somebody connects. -/
theorem Roll.after_of_ne {r : Request} (hr : ∀ c, r ≠ .connect c) (roll : Roll) :
    roll.after r = roll := by
  unfold after
  split
  · next c => exact absurd rfl (hr c)
  · rfl

/-- Whoever joins concerns everybody. -/
theorem Roll.after_of_not_concerns {roll : Roll} {g : String} {r : Request}
    (hr : r.concerns roll g = false) : roll.after r = roll := by
  refine Roll.after_of_ne ?_ roll
  rintro c rfl
  cases hr

namespace Broker

variable {b b' : Broker} {roll : Roll} {g id : String} {r : Request}

/-- The roll is that of a broker that only requests have changed. -/
structure Enrolled (b : Broker) (roll : Roll) : Prop where
  sound : b.Sound
  grounded : b.Grounded
  joined : b.joined = roll.length
  members : ∀ m ∈ b.members, (m.id, m.group) ∈ roll
  ids : (roll.map (·.1)).Nodup
  numbered : ∀ e ∈ roll, ∃ client n, n ≤ roll.length ∧ e.1 = client ++ "-" ++ toString n

theorem enrolled_empty (patterns : PatternReader) : ({ patterns } : Broker).Enrolled [] where
  sound := sound_empty patterns
  grounded := grounded_empty patterns
  joined := rfl
  members _ h := absurd h List.not_mem_nil
  ids := List.nodup_nil
  numbered _ h := absurd h List.not_mem_nil

/-- Nobody joins two groups. -/
theorem Enrolled.owns (h : b.Enrolled roll) (hid : (id, g) ∈ roll) : b.Owns g id := by
  rintro m hm rfl
  have he := List.inj_on_of_nodup_map h.ids (h.members m hm) hid rfl
  exact congrArg Prod.snd he

/-- An id that is not on the roll for the group is not of the group. -/
theorem Enrolled.shuns (h : b.Enrolled roll) (hid : (id, g) ∉ roll) : b.Shuns g id := by
  rintro m hm rfl rfl
  exact hid (h.members m hm)

/-- Whoever is on a part of the roll is not entered elsewhere. -/
theorem Enrolled.mem_of_subset {old : Roll} (h : b.Enrolled roll) (hsub : old ⊆ roll)
    (hthere : id ∈ old.map (·.1)) (hid : (id, g) ∈ roll) : (id, g) ∈ old := by
  obtain ⟨⟨_, g'⟩, he, rfl⟩ := List.mem_map.mp hthere
  exact List.inj_on_of_nodup_map h.ids (hsub he) hid rfl ▸ he

/-- Who is there, and in which group. -/
def present (b : Broker) : Roll := b.members.map fun m => (m.id, m.group)

theorem present_rebalanced_eq (b : Broker) (g : String) : (b.rebalanced g).present = b.present :=
  map_rebalanced _ (fun m share => by rw [id_rebalanced, group_rebalanced]) b

theorem present_rebalancedAll_eq (b : Broker) (groups : List String) :
    (b.rebalancedAll groups).present = b.present := by
  unfold rebalancedAll
  induction groups generalizing b with
  | nil => rfl
  | cons g groups ih => exact (ih _).trans (b.present_rebalanced_eq g)

/-- A change to members that leaves their ids and groups leaves who is there. -/
theorem present_modifyMember_eq {f : Member → Member}
    (hf : ∀ m ∈ b.members, m.id = id → (f m).id = m.id ∧ (f m).group = m.group) :
    (b.modifyMember id f).present = b.present := by
  unfold present modifyMember
  rw [List.map_map]
  refine List.map_congr_left fun m hm => ?_
  show ((if m.id = id then f m else m).id, (if m.id = id then f m else m).group) = _
  split
  · next hid =>
    obtain ⟨hsame, hgroup⟩ := hf m hm hid
    rw [hsame, hgroup]
  · rfl

/-- But for whoever joins, everybody who is there was there, in the same
group. -/
theorem Changed.present_subset (h : b.Changed r b') (hs : b.Sound) (hc : ∀ c, r ≠ .connect c) :
    b'.present ⊆ b.present ∧ b'.joined = b.joined := by
  have hkept {b' : Broker} (h : b'.present = b.present) : b'.present ⊆ b.present := h ▸ List.Subset.refl _
  cases h with
  | connected => exact absurd rfl (hc _)
  | nothing | appended | dropped => exact ⟨List.Subset.refl _, rfl⟩
  | topicCreated b₁ _ hb =>
    rw [(frame_rebalancedAll b₁ _).2.2, hb]
    refine ⟨hkept ?_, rfl⟩
    rw [present_rebalancedAll_eq]
    rfl
  | rebalanced => exact ⟨hkept (b.present_rebalanced_eq _), rfl⟩
  | notified | assigned | unassigned =>
    exact ⟨hkept (present_modifyMember_eq fun _ _ _ => ⟨rfl, rfl⟩), rfl⟩
  | resubscribed =>
    refine ⟨hkept ?_, rfl⟩
    rw [present_rebalanced_eq]
    exact present_modifyMember_eq fun _ _ _ => ⟨rfl, rfl⟩
  | looked hm =>
    refine ⟨hkept (present_modifyMember_eq fun m' hm' hid => ?_), rfl⟩
    rw [id_next, group_next, hs.eq_of_member? hm hm' hid]
    exact ⟨rfl, rfl⟩
  | @committed _ m offsets =>
    obtain ⟨_, hmembers, hjoined⟩ := b.putAllCommitted_frame m.group offsets
    refine ⟨hkept ?_, hjoined⟩
    unfold present
    rw [hmembers]
  | left hm =>
    refine ⟨?_, rfl⟩
    rw [present_rebalanced_eq]
    exact List.map_subset _ List.filter_sublist.subset

/-- Whoever connects is put on the roll with the id and the group it is given. -/
theorem Enrolled.connect (h : b.Enrolled roll) (c : Configuration) :
    (b.connect c).broker.Enrolled (roll.after (.connect c)) := by
  have hsound : (b.connect c).broker.Sound := h.sound.perform (.connect c)
  have hgrounded : (b.connect c).broker.Grounded := h.grounded.perform h.sound (.connect c)
  unfold Roll.after
  unfold Broker.connect at hsound hgrounded ⊢
  dsimp only
  cases hr : MemberOptions.read c with
  | error f => exact h
  | ok options =>
    rw [hr] at hsound hgrounded
    dsimp only at hsound hgrounded ⊢
    rw [← h.joined]
    have hfresh : options.client ++ "-" ++ toString (b.joined + 1) ∉ roll.map (·.1) := by
      intro hmem
      obtain ⟨e, he, hid⟩ := List.mem_map.mp hmem
      obtain ⟨client, n, hn, hnumber⟩ := h.numbered e he
      have := eq_of_numbered_eq (hnumber.symm.trans hid)
      have := h.joined
      omega
    refine ⟨hsound, hgrounded, ?_, ?_, ?_, ?_⟩
    · rw [List.length_append, List.length_singleton, h.joined]
    · intro m hm
      rcases List.mem_append.mp hm with hm | hm
      · exact List.mem_append_left _ (h.members m hm)
      · rw [List.mem_singleton.mp hm]
        exact List.mem_append_right _ (List.mem_singleton.mpr rfl)
    · rw [List.map_append]
      exact List.nodup_append_comm.mp (List.nodup_cons.mpr ⟨hfresh, h.ids⟩)
    · intro e he
      rw [List.length_append, List.length_singleton]
      rcases List.mem_append.mp he with he | he
      · obtain ⟨client, n, hn, hid⟩ := h.numbered e he
        exact ⟨client, n, Nat.le_succ_of_le hn, hid⟩
      · rw [List.mem_singleton.mp he]
        exact ⟨options.client, b.joined + 1, by rw [h.joined], rfl⟩

/-- The roll accounts for everybody after any request. -/
theorem Enrolled.perform (h : b.Enrolled roll) (r : Request) :
    (b.perform r).broker.Enrolled (roll.after r) := by
  by_cases hc : ∀ c, r ≠ .connect c
  · obtain ⟨hsub, hjoined⟩ := (b.perform_changed r).present_subset h.sound hc
    rw [Roll.after_of_ne hc]
    refine ⟨h.sound.perform r, h.grounded.perform h.sound r, hjoined.trans h.joined, ?_, h.ids, h.numbered⟩
    intro m hm
    obtain ⟨m', hm', he⟩ := List.mem_map.mp (hsub (List.mem_map_of_mem hm))
    rw [← he]
    exact h.members m' hm'
  · push Not at hc
    obtain ⟨c, rfl⟩ := hc
    exact h.connect c

/-! ## What concerns the group -/

/-- What concerns the group comes to the same with the group alone. -/
theorem Enrolled.sameFor (h : b.Enrolled roll) (hr : r.concerns roll g = true) :
    (b.perform r).SameFor g ((b.alone g).perform r) := by
  cases r with
  | createTopic name n => exact (createTopic_alone b g name n).map _
  | produce p key payload => exact (sameFor_of_eq (produce_alone b g p key payload)).map _
  | deleteRecords p before => exact (sameFor_of_eq (deleteRecords_alone b g p before)).map _
  | watermarks p => exact sameFor_of_eq rfl
  | connect c => exact (connect_alone b g c).map _
  | committed g' p =>
    obtain rfl : g' = g := beq_iff_eq.mp hr
    refine sameFor_of_eq ?_
    show ((b.alone g').answer (.ok ((b.alone g').committed? g' p))).map _ = _
    rw [committed?_alone]
    rfl
  | rebalance g' =>
    obtain rfl : g' = g := beq_iff_eq.mp hr
    exact (sameFor_of_eq (forceRebalance_alone b g')).map _
  | members g' =>
    obtain rfl : g' = g := beq_iff_eq.mp hr
    refine sameFor_of_eq ?_
    show ((b.alone g').answer (.ok ((b.alone g').memberIds g'))).map _ = _
    rw [memberIds_alone]
    rfl
  | notify id code l =>
    exact (sameFor_of_eq (notify_alone (h.owns (List.contains_iff_mem.mp hr)) code l)).map _
  | member id r => exact sameFor_of_eq (performFor_alone (h.owns (List.contains_iff_mem.mp hr)) r)
  | describe => cases hr

/-- What does not concern the group changes nothing for it. -/
theorem Enrolled.alone_perform (h : b.Enrolled roll) (hr : r.concerns roll g = false) :
    (b.perform r).broker.alone g = b.alone g := by
  have hchanged := b.perform_changed r
  have hshuns {id : String} (hr : roll.contains (id, g) = false) : b.Shuns g id :=
    h.shuns fun hid => by simp [hid] at hr
  cases r with
  | createTopic | produce | deleteRecords | watermarks | connect => cases hr
  | committed | members | describe => rfl
  | rebalance g' => exact alone_rebalanced_of_ne b (beq_eq_false_iff_ne.mp hr)
  | notify id code l => exact hchanged.alone_of_notify (hshuns hr)
  | member id r => exact hchanged.alone_of_shuns (hshuns hr)

/-! ## Twins -/

/-- Two brokers with the same roll that are the same with the group
alone. -/
structure Twin (g : String) (roll : Roll) (b b' : Broker) : Prop where
  alone : b.alone g = b'.alone g
  left : b.Enrolled roll
  right : b'.Enrolled roll

theorem twin_empty (g : String) (patterns : PatternReader) : Twin g [] { patterns } { patterns } :=
  ⟨rfl, enrolled_empty patterns, enrolled_empty patterns⟩

/-- What concerns the group has the same result with twins, and leaves
twins. -/
theorem Twin.perform (h : Twin g roll b b') (hr : r.concerns roll g = true) :
    (b.perform r).result = (b'.perform r).result ∧
      Twin g (roll.after r) (b.perform r).broker (b'.perform r).broker := by
  obtain ⟨hresult, hbroker⟩ := h.left.sameFor hr
  obtain ⟨hresult', hbroker'⟩ := h.right.sameFor hr
  rw [h.alone] at hresult hbroker
  exact ⟨hresult.trans hresult'.symm, hbroker.trans hbroker'.symm, h.left.perform r, h.right.perform r⟩

/-- What a member of the group does at twins. -/
theorem Twin.effect {α : Type} {f : Broker → Effect α} {r : MemberRequest} (h : Twin g roll b b')
    (hid : (id, g) ∈ roll) (hf : ∀ {b : Broker}, b.Owns g id → f (b.alone g) = (f b).alone g)
    (hr : ∀ b, (f b).broker = (b.performFor id r).broker) :
    (f b).result = (f b').result ∧ (f b).diary = (f b').diary ∧
      Twin g roll (f b).broker (f b').broker := by
  have hleft := hf (h.left.owns hid)
  have hright := hf (h.right.owns hid)
  rw [h.alone] at hleft
  have hsame : (f b).alone g = (f b').alone g := hleft.symm.trans hright
  have henrolled {b : Broker} (h : b.Enrolled roll) : (f b).broker.Enrolled roll := by
    rw [hr]
    exact h.perform (.member id r)
  obtain ⟨hresult, hbroker, _, hdiary⟩ := Effect.mk.inj hsame
  exact ⟨hresult, hdiary, hbroker, henrolled h.left, henrolled h.right⟩

/-- What does not concern the group leaves twins if one of them is asked for
it. -/
theorem Twin.aside (h : Twin g roll b b') (hr : r.concerns roll g = false) :
    Twin g roll (b.perform r).broker b' := by
  have hleft := h.left.perform r
  rw [Roll.after_of_not_concerns hr] at hleft
  exact ⟨(h.left.alone_perform hr).trans h.alone, hleft, h.right⟩

end Broker

end ConsumerGroup
