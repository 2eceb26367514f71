import ConsumerGroup.Proofs.Broker.Aside
import ConsumerGroup.Proofs.Broker.Bounds
import ConsumerGroup.Proofs.Group.Run

/-!
# The course of one member

What a step of a run makes of one member. A step that does not touch it
leaves it there and only deals to it (`Chronicle.dealt_aside`). Of what it
reads, whatever happens, a member keeps everything where it is, or it
reads on from there, until something else is assigned to it
(`Chronicle.course_after`).

Messages are brought to a member that has found them, and by nothing but
the step that has it read on (`Chronicle.fetched_of_brings`).

The cases of `Member.Course` are what can become of one member in one step,
and whatever has to hold of its slots from step to step is proved from them.
Members that have left are not followed any further.
-/

namespace ConsumerGroup

namespace Happening

/-- Somebody reaches for the member or has it leave, or it is the member's
consumer that does something. -/
def Touches (id : String) : Happening → Prop
  | .asked r => r.Touches id
  | .did c _ => c.transport.member = id

/-- The list is assigned to the member: somebody has asked for it, or the
member's consumer has taken a share that the callback left so. -/
def Assigns (b : Broker) (id : String) (l : PartitionList) : Happening → Prop
  | .asked r => r = .member id (.assign l) ∧ (b.assign id l).result = .ok ()
  | .did c .look => c.transport.member = id ∧
      .asked (.assign l) ∈ (outcome b c .look).journal ∧ (outcome b c .look).result = .ok none
  | .did _ _ => False

/-- The message that a step brings to a member, if it brings one. -/
def tells (b : Broker) (e : Happening) (id : String) : List Message :=
  match e.brings b with
  | some (id', x) => if id' = id then [x] else []
  | none => []

variable {b : Broker} {e : Happening} {id : String}

/-- What a step brings to a member it tells that member, and nothing else. -/
theorem tells_of_brings {x : Message} (h : e.brings b = some (id, x)) : e.tells b id = [x] := by
  unfold tells
  rw [h]
  exact if_pos rfl

/-- A step that brings nothing to a member tells it nothing. -/
theorem tells_of_ne (h : ∀ x, e.brings b ≠ some (id, x)) : e.tells b id = [] := by
  unfold tells
  split
  · next id' x hb =>
    refine if_neg ?_
    rintro rfl
    exact h x hb
  · rfl

/-- A deed brings something only if it comes to a message. -/
theorem brings_did {c : Consumer Seat} {d : Deed}
    (h : ∀ x, (outcome b c d).result ≠ .ok (some x)) : (did c d).brings b = none := by
  cases hr : (outcome b c d).result with
  | error f => simp only [brings, hr]
  | ok found =>
    cases found with
    | none => simp only [brings, hr]
    | some x => exact absurd hr (h x)

/-- Nobody is brought a message by what is not asked for it. -/
theorem tells_of_asked {r : Request} (h : r ≠ .member id .next) : (asked r).tells b id = [] := by
  refine tells_of_ne fun x hx => ?_
  unfold brings at hx
  split at hx
  · next he =>
    split at hx
    · cases he
      cases hx
      exact h rfl
    · cases hx
  · cases hx
  · next he => cases he

end Happening

/-- What a step makes of what a member reads. -/
inductive Member.Course (b : Broker) (e : Happening) (m : Member) : Member → Prop
  | kept {m' : Member} (ho : m'.options = m.options) (ha : m'.assignment = m.assignment)
      (hc : m'.cursor = m.cursor) : Course b e m m'
  | fetched (he : e.brings b = (m.fetch b.topics).1.map (m.id, ·)) :
      Course b e m (m.fetch b.topics).2
  | assigned {m' : Member} {l : PartitionList} (hl : e.Assigns b m.id l) : Course b e m m'

theorem Member.Looked.id_eq {σ : Type} {b : Broker} {o : Outcome Entry σ (Option Message)}
    {m m' : Member} (h : m.Looked b o m') : m'.id = m.id := by
  rw [h.frame]

namespace Broker

variable {b b' : Broker} {id id' : String} {m m' : Member} {d : Deed}
  {o : Outcome Entry (Consumer Seat × Cluster) (Option Message)}

/-- What a consumer does is to the others like something that is asked. -/
theorem Sound.dealt_done (hs : b.Sound) (hd : b.Done id' o d b') (hne : id' ≠ id)
    (hm : b.member? id = some m) :
    ∃ m', b'.member? id = some m' ∧ m.Dealt b'.topics.partitions m' := by
  cases hd with
  | looked hl =>
    cases hl with
    | gone => exact ⟨m, hm, .refl⟩
    | changed hm' hl =>
      refine dealt_of_member? (member?_modifyMember_of_ne hne.symm fun _ _ => ?_) hm
      exact hl.id_eq.trans (id_of_member? hm')
  | committed => exact hs.dealt_aside (r := .member id' (.commit _ _)) (fun h => h) hm
  | nothing => exact ⟨m, hm, .refl⟩
  | left => exact hs.dealt_aside (r := .member id' .leave) hne hm
  | gaveUp => exact hs.dealt_aside (r := .member id' .unassign) hne hm

/-- Nobody comes to be there by what a consumer does. -/
theorem Done.absent (hd : b.Done id' o d b') (hn : ¬ b.Present id) : ¬ b'.Present id := by
  refine hd.holds (P := fun b' => ¬ b'.Present id) hn (fun m m' _ hm hl => ?_) fun r _ =>
    (b.perform_changed (.member id' r)).absent nofun hn
  rwa [present_modifyMember fun _ _ => hl.id_eq.trans (id_of_member? hm)]

/-- Ids that were given stay given. -/
theorem Issued.done (h : b.Issued id) (hd : b.Done id' o d b') : b'.Issued id :=
  hd.holds (P := (·.Issued id)) h (fun _ _ _ _ _ => h) fun r _ => h.perform (.member id' r)

/-- Whoever is found after a change was found before, and has been changed. -/
theorem eq_of_member?_modifyMember {f : Member → Member}
    (h : (b.modifyMember id f).member? id = some m') (hf : ∀ m, m.id = id → (f m).id = id) :
    ∃ m, b.member? id = some m ∧ m' = f m := by
  rw [member?_modifyMember hf] at h
  obtain ⟨m, hm, rfl⟩ := Option.map_eq_some_iff.mp h
  exact ⟨m, hm, rfl⟩

/-- Whoever is replaced under the same id is found as what it was replaced by. -/
theorem member?_replaced (hm : b.member? id = some m) (hid : m'.id = id) :
    (b.modifyMember id fun _ => m').member? id = some m' := by
  rw [member?_modifyMember fun _ _ => hid, hm]
  rfl

end Broker

namespace Chronicle

variable {s : Chronicle} {e : Happening} {id : String} {m m' : Member}

/-- A step that does not touch a member leaves it there, and only deals to
it. -/
theorem dealt_aside (hs : s.broker.Sound) (he : ¬ e.Touches id) (hm : s.broker.member? id = some m) :
    ∃ m', (s.after e).broker.member? id = some m' ∧
      m.Dealt (s.after e).broker.topics.partitions m' := by
  cases e with
  | asked r => exact hs.dealt_aside he hm
  | did c d => exact hs.dealt_done (s.done c d) he hm

/-- Whoever comes to be there reads nothing. -/
theorem joined_after (hn : ¬ s.broker.Present id) (hm' : (s.after e).broker.member? id = some m') :
    m'.assignment = [] := by
  have hp := Broker.present_of_member? hm'
  cases e with
  | asked r =>
    obtain ⟨options, hm, _⟩ := (s.broker.perform_changed r).joined hn hp
    cases hm.symm.trans hm'
    rfl
  | did c d => exact absurd hp ((s.done c d).absent hn)

/-- Ids that have been given stay so. -/
theorem issued_after (h : s.broker.Issued id) (e : Happening) : (s.after e).broker.Issued id := by
  cases e with
  | asked r => exact h.perform r
  | did c d => exact h.done (s.done c d)

/-- Whoever has left is gone for good. -/
theorem absent_after (h : s.broker.Issued id) (hn : ¬ s.broker.Present id) (e : Happening) :
    ¬ (s.after e).broker.Present id := by
  cases e with
  | asked r => exact h.absent_perform hn r
  | did c d => exact (s.done c d).absent hn

/-- Whoever is there after a step was there before it. -/
theorem present_before (h : s.broker.Issued id) (hp : (s.after e).broker.Present id) :
    s.broker.Present id := by
  by_contra hn
  exact absent_after h hn e hp

/-- A poll of one for whom nothing waits brings what it finds. -/
theorem brings_next {b : Broker} (hm : b.member? id = some m) (hq : m.queue = []) :
    (Happening.asked (.member id .next)).brings b = (m.fetch b.topics).1.map (id, ·) := by
  unfold Happening.brings
  simp only [Broker.nextEvent, hm, Member.next, hq]
  cases (m.fetch b.topics).1 <;> rfl

/-- The course of a member whose transport somebody uses by hand. -/
theorem course_asked {r : Request} (hr : r.Touches id) (hm : s.broker.member? id = some m)
    (hm' : (s.after (.asked r)).broker.member? id = some m') :
    m'.assignment = [] ∨ m.Course s.broker (.asked r) m' := by
  have hid := Broker.id_of_member? hm
  change (s.broker.perform r).broker.member? id = some m' at hm'
  have hchanged := s.broker.perform_changed r
  generalize (s.broker.perform r).broker = b' at hm' hchanged
  cases hchanged with
  | nothing =>
    cases hm.symm.trans hm'
    exact .inr (.kept rfl rfl rfl)
  | notified =>
    cases hr
    obtain ⟨_, hm₀, rfl⟩ := Broker.eq_of_member?_modifyMember hm' fun _ h => h
    cases hm.symm.trans hm₀
    exact .inr (.kept rfl rfl rfl)
  | @assigned _ l _ assignment hd hm₁ hslots =>
    cases hr
    cases hm.symm.trans hm₁
    refine .inr (.assigned (l := l) ?_)
    rw [hid]
    refine ⟨rfl, ?_⟩
    simp only [Broker.assign, if_neg hd, hm, hslots]
  | unassigned =>
    cases hr
    obtain ⟨_, _, rfl⟩ := Broker.eq_of_member?_modifyMember hm' fun _ h => h
    exact .inl rfl
  | looked hm₁ =>
    cases hr
    cases hm.symm.trans hm₁
    obtain ⟨_, _, rfl⟩ := Broker.eq_of_member?_modifyMember hm'
      fun _ _ => (Broker.id_next m _).trans hid
    have hnext : m.Course s.broker (.asked (.member id .next)) (m.next s.broker.topics).2 := by
      cases hq : m.queue with
      | nil =>
        rw [show (m.next s.broker.topics).2 = (m.fetch s.broker.topics).2 by
          simp only [Member.next, hq]]
        exact .fetched (by rw [brings_next hm hq, hid])
      | cons q rest =>
        rw [show (m.next s.broker.topics).2 = { m with queue := rest } by
          simp only [Member.next, hq]]
        exact .kept rfl rfl rfl
    exact .inr hnext
  | left =>
    cases hr
    have hp := (Broker.present_rebalanced _).mp (Broker.present_of_member? hm')
    exact absurd rfl (Broker.present_left.mp hp).2
  | resubscribed hsub => rcases hsub with rfl | ⟨_, rfl⟩ <;> exact hr.elim
  | topicCreated | appended | dropped | connected | rebalanced | committed => exact hr.elim

/-- The course of a member whose consumer does something. -/
theorem course_did (hs : s.broker.Sound) {c : Consumer Seat} {d : Deed}
    (hm : s.broker.member? c.transport.member = some m)
    (hm' : (s.after (.did c d)).broker.member? c.transport.member = some m') :
    m'.assignment = [] ∨ m.Course s.broker (.did c d) m' := by
  have hid := Broker.id_of_member? hm
  have hd := s.done c d
  generalize hb : (s.after (.did c d)).broker = b' at hm' hd
  cases hd with
  | looked hl =>
    cases hl with
    | gone hnone => cases hnone.symm.trans hm
    | changed hm₁ hl =>
      cases hm.symm.trans hm₁
      obtain ⟨_, _, rfl⟩ := Broker.eq_of_member?_modifyMember hm' fun _ _ => hl.id_eq.trans hid
      cases hl with
      | fetched hq ho =>
        refine .inr (.fetched ?_)
        simp only [Happening.brings, ho, hid]
        cases (m.fetch s.broker.topics).1 <;> rfl
      | assigned hq hc hl hslots hj ho =>
        exact .inr (.assigned ⟨hid.symm, hj, ho⟩)
      | revoked => exact .inl rfl
      | refused | undone | passed => exact .inr (.kept rfl rfl rfl)
  | @committed _ asynchronous offsets =>
    obtain ⟨m'', hm'', hdealt⟩ :=
      hs.dealt_aside (r := .member c.transport.member (.commit offsets asynchronous)) (fun h => h) hm
    cases hm''.symm.trans hm'
    exact .inr (.kept hdealt.frame.2.1 hdealt.frame.2.2 hdealt.cursor_eq)
  | nothing =>
    cases hm.symm.trans hm'
    exact .inr (.kept rfl rfl rfl)
  | left =>
    rw [Broker.member?_leave] at hm'
    cases hm'
  | gaveUp =>
    unfold Broker.unassign at hm'
    rw [hm] at hm'
    obtain ⟨_, _, rfl⟩ := Broker.eq_of_member?_modifyMember hm' fun _ h => h
    exact .inl rfl

/-- Whoever is there after a step reads nothing, or it was there before and
keeps to its course. -/
theorem course_after (hs : s.broker.Sound) (hm' : (s.after e).broker.member? id = some m') :
    m'.assignment = [] ∨ ∃ m, s.broker.member? id = some m ∧ m.Course s.broker e m' := by
  cases hm : s.broker.member? id with
  | none =>
    refine .inl (joined_after ?_ hm')
    exact Broker.member?_eq_none_iff.mp hm
  | some m =>
    by_cases he : e.Touches id
    · refine Or.imp_right (fun h => ⟨m, rfl, h⟩) ?_
      cases e with
      | asked r => exact course_asked he hm hm'
      | did c d =>
        cases he
        exact course_did hs hm hm'
    · obtain ⟨m'', hm'', hdealt⟩ := dealt_aside hs he hm
      cases hm''.symm.trans hm'
      exact .inr ⟨m, rfl, .kept hdealt.frame.2.1 hdealt.frame.2.2 hdealt.cursor_eq⟩

/-- A message is brought to a member that has found it, and that has then
read on. -/
theorem fetched_of_brings {x : Message} (h : e.brings s.broker = some (id, x)) :
    ∃ m, s.broker.member? id = some m ∧ (m.fetch s.broker.topics).1 = some x ∧
      (s.after e).broker = s.broker.modifyMember id fun _ => (m.fetch s.broker.topics).2 := by
  unfold Happening.brings at h
  split at h
  · split at h
    · next hx =>
      cases h
      obtain ⟨m, hm, hf, hb⟩ := Broker.found_of_nextEvent hx
      exact ⟨m, hm, hf, hb⟩
    · cases h
  · cases h
  · split at h
    · next hx =>
      cases h
      cases Deed.eq_look_of_brings hx
      obtain ⟨m, hm, _, hf, hb⟩ := Consumer.brought_of_look _ { broker := s.broker } hx
      exact ⟨m, hm, hf, hb⟩
    · cases h

/-- What is assigned to a member it reads from then on, each partition from
its start. -/
theorem assigned_after {l : PartitionList} (h : e.Assigns s.broker id l) :
    ∃ m m', s.broker.member? id = some m ∧ l.partitions.Nodup ∧
      s.broker.slots m l = .ok m'.assignment ∧ m'.options = m.options ∧
      (s.after e).broker.member? id = some m' ∧ (s.after e).broker.topics = s.broker.topics := by
  cases e with
  | asked r =>
    obtain ⟨rfl, hok⟩ := h
    show ∃ m m', _ ∧ _ ∧ _ ∧ _ ∧ (s.broker.assign id l).broker.member? id = _ ∧
      (s.broker.assign id l).broker.topics = _
    unfold Broker.assign at hok ⊢
    split at hok
    · cases hok
    · next hd =>
      have hnodup := PartitionList.hasDuplicates_eq_false_iff.mp (Bool.eq_false_iff.mpr hd)
      rw [if_neg hd]
      split at hok
      · cases hok
      · next m hm =>
        split at hok
        · cases hok
        · next assignment hslots =>
          simp only [hm]
          have hafter := Broker.member?_modifyMember (b := s.broker)
            (f := fun m => { m with assignment, cursor := 0 }) fun m (h : m.id = id) => h
          rw [hm] at hafter
          exact ⟨m, { m with assignment, cursor := 0 }, rfl, hnodup, hslots, rfl, hafter, rfl⟩
  | did c d =>
    cases d with
    | look =>
      obtain ⟨rfl, hj, ho⟩ := h
      obtain ⟨m, q, rest, assignment, hm, _, _, _, hnodup, hslots, hb⟩ :=
        Consumer.assigned_of_look c { broker := s.broker } hj ho
      have hafter : (s.after (.did c .look)).broker = _ := hb
      refine ⟨m, { m with queue := rest, assignment, cursor := 0 }, hm, hnodup, hslots, rfl, ?_, ?_⟩
      · rw [hafter]
        have hid : m.id = c.transport.member := Broker.id_of_member? hm
        exact Broker.member?_replaced hm hid
      · rw [hafter]
        rfl
    | _ => exact h.elim

end Chronicle

end ConsumerGroup
