import ConsumerGroup.Proofs.Broker.Aside
import ConsumerGroup.Proofs.Broker.Rest

/-!
# What wakes nobody

A poll that finds nothing sleeps until somebody is woken, so whatever
makes something available to it has to wake. Here is why the other
requests need not. They are listed by `Broker.Unheard`: of all that a
poll can see, they take records away from the front of a log or add a
log that nobody reads yet (`Unheard.recedes`), and they do nothing to a
member but look for it (`Unheard.member?`). Members read nothing but what
is there (`Grounded.perform`), so what has nothing to tell them goes on
having nothing to tell.

The other half is short: an operation that may make something available
wakes whenever it changes anything (`Effect.Loud`). Who is asleep, and until
when, is not looked at; here a poll is a single look.
-/

namespace ConsumerGroup

/-- Whoever reads what somebody read before is grounded as long as logs
stay. -/
theorem Member.Grounded.of_held {m m' : Member} {ts ts' : Topics} (h : m.Grounded ts)
    (ht : ts.Grows ts') (hheld : m'.held = m.held) : m'.Grounded ts' := by
  intro p hp
  rw [hheld] at hp
  obtain ⟨l, hl⟩ := Option.isSome_iff_exists.mp (h p hp)
  obtain ⟨l', hl', _⟩ := ht p l hl
  rw [hl']
  rfl

namespace Broker

variable {b b' : Broker} {id : String} {r : Request} {m : Member}

/-! ## Looking for an event -/

/-- To look for an event is refused to nobody but those who are gone. -/
theorem nextEvent_of_present (h : b.Present id) : ∃ event, (b.nextEvent id).result = .ok event := by
  obtain ⟨m, hm⟩ := present_iff.mp h
  unfold nextEvent
  rw [hm]
  exact ⟨_, rfl⟩

/-- Whoever is not there is told so. -/
theorem nextEvent_of_absent (h : ¬ b.Present id) :
    b.nextEvent id = b.answer (.error (.ofCode .destroyed)) := by
  unfold nextEvent
  rw [member?_eq_none_iff.mpr h]
  rfl

/-- A poll makes nobody come or go. -/
theorem present_nextEvent (id' : String) : (b.nextEvent id').broker.Present id ↔ b.Present id :=
  (b.changed_nextEvent id').present_iff nofun nofun

/-! ## What is read is there -/

/-- Every member reads nothing but what is there. -/
def Grounded (b : Broker) : Prop := ∀ m ∈ b.members, m.Grounded b.topics

theorem grounded_empty (patterns : PatternReader) : ({ patterns } : Broker).Grounded :=
  fun _ hm => absurd hm List.not_mem_nil

/-- A member that is changed may read anything that is there. -/
theorem Grounded.modifyMember (h : b.Grounded) {f : Member → Member}
    (hf : ∀ m ∈ b.members, m.id = id → (f m).held = m.held ∨ (f m).Grounded b.topics) :
    (b.modifyMember id f).Grounded := by
  intro m' hm'
  obtain ⟨m, hm, rfl⟩ := List.mem_map.mp hm'
  split
  · next hid =>
    rcases hf m hm hid with hheld | hgrounded
    · exact (h m hm).of_held (.refl _) hheld
    · exact hgrounded
  · exact h m hm

/-- What is assigned is there. -/
theorem grounded_of_slots {l : PartitionList} {slots : List Slot} (h : b.slots m l = .ok slots)
    {m' : Member} (hm' : m'.assignment = slots) : m'.Grounded b.topics := by
  intro p hp
  unfold Member.held at hp
  rw [hm'] at hp
  obtain ⟨s, hs, rfl⟩ := List.mem_map.mp hp
  obtain ⟨e, _, log, hlog, hpartition, _⟩ := mem_slots h hs
  rw [hpartition]
  exact Option.isSome_iff_exists.mpr ⟨log, hlog⟩

/-- Whoever reads nothing is grounded. -/
theorem grounded_of_nil {ts : Topics} (h : m.assignment = []) : m.Grounded ts := by
  intro p hp
  unfold Member.held at hp
  rw [h] at hp
  cases hp

/-- A poll leaves a member with the partitions it reads. -/
theorem held_next (m : Member) (ts : Topics) : (m.next ts).2.held = m.held := by
  unfold Member.next
  split
  · rfl
  · exact m.held_fetch ts

/-- Whatever is asked of a broker, its members read nothing but what is
there. -/
theorem Grounded.perform (hs : b.Sound) (h : b.Grounded) (r : Request) :
    (b.perform r).broker.Grounded := by
  intro m' hm'
  have hbefore : m'.Grounded b.topics := by
    rcases (b.perform_changed r).members hs hm' with ⟨m, hm, hasked⟩ | ⟨_, _, rfl⟩
    · have hgrounded := h m hm
      cases hasked with
      | dealt hd => exact hgrounded.of_held (.refl _) (congrArg (List.map Slot.partition) hd.frame.2.2)
      | notified => exact hgrounded
      | assigned _ hslots => exact grounded_of_slots hslots rfl
      | unassigned => exact grounded_of_nil rfl
      | looked => exact hgrounded.of_held (.refl _) (held_next m b.topics)
    · exact grounded_of_nil rfl
  exact hbefore.of_held (b.grows_perform r) rfl

/-! ## What is done unheard -/

/-- What is done without waking anybody. -/
inductive Unheard (b : Broker) : Request → Broker → Prop
  | nothing {r : Request} : Unheard b r b
  | topicCreated {name : String} {n : Int} (hname : name ∉ b.topics.names) :
      Unheard b (.createTopic name n)
        { b with topics := b.topics.insert ⟨name, List.replicate n.toNat {}⟩ }
  | dropped {p : Partition} {before : Int} {l : Log} (hl : b.log? p = some l) :
      Unheard b (.deleteRecords p before)
        { b with topics := b.topics.modifyLog p (·.dropBelow before) }
  | connected {c : Configuration} (m : Member) :
      Unheard b (.connect c) { b with members := b.members ++ [m], joined := b.joined + 1 }
  | looked (id : String) : Unheard b (.member id .next) (b.nextEvent id).broker
  | committed {id g : String} {offsets : PartitionList} {asynchronous : Bool} :
      Unheard b (.member id (.commit offsets asynchronous)) (b.putAllCommitted g offsets)

/-- A topic that wakes nobody is one that no group covers, and nobody is dealt
to. -/
theorem unheard_createTopic {name : String} {n : Int} (hw : (b.createTopic name n).wakes = false) :
    b.Unheard (.createTopic name n) (b.createTopic name n).broker := by
  unfold createTopic at hw ⊢
  split
  · exact .nothing
  · next hargs =>
    rw [if_neg hargs] at hw
    split
    · exact .nothing
    · next hname =>
      rw [if_neg hname] at hw
      dsimp only at hw ⊢
      rw [Bool.not_eq_false', List.isEmpty_iff] at hw
      rw [hw]
      exact .topicCreated (Topics.find?_eq_none_iff.mp (Option.not_isSome_iff_eq_none.mp hname))

theorem unheard_deleteRecords (b : Broker) (p : Partition) (before : Int) :
    b.Unheard (.deleteRecords p before) (b.deleteRecords p before).broker := by
  unfold deleteRecords
  split
  · exact .nothing
  · next hl => exact .dropped hl

theorem unheard_connect (b : Broker) (c : Configuration) :
    b.Unheard (.connect c) (b.connect c).broker := by
  unfold connect
  split
  · exact .nothing
  · exact .connected _

theorem unheard_commit (b : Broker) (id : String) (offsets : PartitionList) (asynchronous : Bool) :
    b.Unheard (.member id (.commit offsets asynchronous))
      (b.commit id offsets asynchronous).broker := by
  rw [broker_commit]
  unfold commitNow
  split
  · exact .nothing
  · split
    · exact .nothing
    · split
      · exact .nothing
      · exact .committed

/-- An effect on a broker that wakes, unless nothing is done. -/
def Effect.Loud {α : Type} (b : Broker) (e : Effect α) : Prop := e.wakes = true ∨ e.broker = b

/-- What would have woken whoever waits, and has not, has changed nothing. -/
theorem Effect.Loud.unheard {α : Type} {e : Effect α} (h : e.Loud b) (hw : e.wakes = false) :
    b.Unheard r e.broker := by
  rcases h with h | h
  · rw [hw] at h
    cases h
  · rw [h]
    exact .nothing

theorem loud_produce (b : Broker) (p : Partition) (key : Option (List UInt8)) (payload : List UInt8) :
    (b.produce p key payload).Loud b := by
  unfold produce
  split
  · exact .inr rfl
  · exact .inl rfl

theorem loud_notify (b : Broker) (id : String) (code : StatusCode) (partitions : PartitionList) :
    (b.notify id code partitions).Loud b := by
  unfold notify
  split
  · exact .inr rfl
  · exact .inl rfl

/-- Whoever subscribes wakes those who wait, or is refused. -/
theorem loud_subscribe (b : Broker) (id : String) (topics : List String) :
    (b.subscribe id topics).Loud b := by
  unfold subscribe
  split
  · exact .inr rfl
  · split
    · exact .inr rfl
    · split
      · exact .inr rfl
      · exact .inl rfl

theorem loud_unsubscribe (b : Broker) (id : String) : (b.unsubscribe id).Loud b := by
  unfold unsubscribe
  split
  · exact .inr rfl
  · exact .inl rfl

theorem loud_assign (b : Broker) (id : String) (partitions : PartitionList) :
    (b.assign id partitions).Loud b := by
  unfold assign
  split
  · exact .inr rfl
  · split
    · exact .inr rfl
    · split
      · exact .inr rfl
      · exact .inl rfl

theorem loud_unassign (b : Broker) (id : String) : (b.unassign id).Loud b := by
  unfold unassign
  split
  · exact .inr rfl
  · exact .inl rfl

theorem loud_leave (b : Broker) (id : String) : (b.leave id).Loud b := by
  unfold leave
  split
  · exact .inr rfl
  · exact .inl rfl

/-- A request that wakes nobody has been done unheard. -/
theorem perform_unheard (hw : (b.perform r).wakes = false) : b.Unheard r (b.perform r).broker := by
  cases r with
  | createTopic name n => exact unheard_createTopic hw
  | produce p key payload => exact (b.loud_produce p key payload).unheard hw
  | deleteRecords p before => exact b.unheard_deleteRecords p before
  | connect c => exact b.unheard_connect c
  | rebalance g => cases hw
  | notify id code partitions => exact (b.loud_notify id code partitions).unheard hw
  | watermarks | committed | members | describe => exact .nothing
  | member id r =>
    cases r with
    | next => exact .looked id
    | subscribe topics => exact (b.loud_subscribe id topics).unheard hw
    | unsubscribe => exact (b.loud_unsubscribe id).unheard hw
    | assign partitions => exact (b.loud_assign id partitions).unheard hw
    | unassign => exact (b.loud_unassign id).unheard hw
    | commit offsets asynchronous => exact b.unheard_commit id offsets asynchronous
    | leave => exact (b.loud_leave id).unheard hw
    | watermarks | committed | positions | assignment | subscription => exact .nothing

/-- What is done unheard leaves logs where they end. -/
theorem Unheard.recedes (h : b.Unheard r b') : b.topics.Recedes b'.topics := by
  cases h with
  | nothing | connected => exact .refl _
  | topicCreated hname =>
    exact fun p l hl => ⟨l, Topics.log?_insert hname hl, Nat.le_refl _, rfl⟩
  | @dropped p before l hl =>
    intro q k hk
    rw [Topics.log?_modifyLog _ (Topics.index_nonneg_of_log? hl)]
    by_cases hq : q = p
    · subst hq
      rw [if_pos rfl, hk]
      exact ⟨_, rfl, Nat.le_max_left _ _, k.high_dropBelow before⟩
    · rw [if_neg hq]
      exact ⟨k, hk, Nat.le_refl _, rfl⟩
  | looked id =>
    unfold nextEvent
    split <;> exact .refl _
  | committed =>
    rw [(b.putAllCommitted_frame _ _).1]
    exact .refl _

/-- What is done unheard leaves every member as it is, but for one that is
looked for. -/
theorem Unheard.member? (h : b.Unheard r b') (hm : b.member? id = some m)
    (hr : r ≠ .member id .next) : b'.member? id = some m := by
  cases h with
  | nothing | topicCreated | dropped => exact hm
  | connected =>
    unfold Broker.member? at hm ⊢
    rw [List.find?_append, hm]
    rfl
  | looked id' =>
    have hne : id ≠ id' := by
      rintro rfl
      exact hr rfl
    unfold nextEvent
    split
    · exact hm
    · next m' hm' =>
      dsimp only
      rw [member?_modifyMember_of_ne hne fun _ _ => (id_next _ _).trans (id_of_member? hm')]
      exact hm
  | committed =>
    unfold Broker.member?
    rw [(b.putAllCommitted_frame _ _).2.1]
    exact hm

/-! ## Members that would find nothing -/

/-- A poll is up to the member and the topics alone. -/
theorem nextEvent_of_member? (hm : b.member? id = some m) :
    b.nextEvent id = { result := .ok (m.next b.topics).1
                       broker := b.modifyMember id fun _ => (m.next b.topics).2 } := by
  unfold nextEvent
  rw [hm]

theorem member?_nextEvent (hm : b.member? id = some m) :
    (b.nextEvent id).broker.member? id = some (m.next b.topics).2 := by
  have hid : ∀ m' : Member, m'.id = id → (m.next b.topics).2.id = id := fun _ _ =>
    (id_next m _).trans (id_of_member? hm)
  rw [nextEvent_of_member? hm, member?_modifyMember hid, hm]
  rfl

/-- A poll finds nothing just where the member is there and has nothing next. -/
theorem nextEvent_none_iff : (b.nextEvent id).result = .ok none ↔
    ∃ m, b.member? id = some m ∧ (m.next b.topics).1 = none := by
  cases hm : b.member? id with
  | none =>
    rw [nextEvent_of_absent (by simp [present_iff, hm])]
    simp [answer]
  | some m =>
    rw [nextEvent_of_member? hm]
    simp

/-- Whoever would find nothing still finds nothing after what is done
unheard; were it to look for itself meanwhile, it would find nothing then
either. -/
theorem Unheard.nextEvent_none (hg : b.Grounded) (h : b.Unheard r b')
    (hnone : (b.nextEvent id).result = .ok none) : (b'.nextEvent id).result = .ok none := by
  obtain ⟨m, hm, hnext⟩ := nextEvent_none_iff.mp hnone
  rw [nextEvent_none_iff]
  by_cases hr : r = .member id .next
  · subst hr
    cases h with
    | nothing => exact ⟨m, hm, hnext⟩
    | looked =>
      refine ⟨_, member?_nextEvent hm, ?_⟩
      rw [nextEvent_of_member? hm]
      exact congrArg Prod.fst (Member.idle_next hnext)
  · refine ⟨m, h.member? hm hr, ?_⟩
    exact Member.next_none_mono h.recedes (hg m (List.mem_of_find?_eq_some hm)) hnext

/-- The member is there and idle. -/
def Idle (b : Broker) (id : String) : Prop := ∃ m, b.member? id = some m ∧ m.Idle b.topics

/-- To look once more changes nothing. -/
theorem Idle.nextEvent (hs : b.Sound) (h : b.Idle id) :
    b.nextEvent id = { result := .ok none, broker := b } := by
  obtain ⟨m, hm, hidle⟩ := h
  have hsame : (b.modifyMember id fun _ => m) = b := by
    have hmembers : (b.members.map fun m' => if m'.id = id then m else m') = b.members := by
      refine (List.map_congr_left fun m' hm' => ?_).trans (List.map_id' b.members)
      split
      · next hid => exact (hs.eq_of_member? hm hm' hid).symm
      · rfl
    unfold modifyMember
    rw [hmembers]
  rw [nextEvent_of_member? hm, show m.next b.topics = (none, m) from hidle, hsame]

/-- Whoever has looked and found nothing is idle. -/
theorem idle_nextEvent (hnone : (b.nextEvent id).result = .ok none) :
    (b.nextEvent id).broker.Idle id := by
  obtain ⟨m, hm, hnext⟩ := nextEvent_none_iff.mp hnone
  refine ⟨_, member?_nextEvent hm, ?_⟩
  rw [nextEvent_of_member? hm]
  exact Member.idle_next hnext

/-- Whoever is idle stays so whatever is done unheard. -/
theorem Unheard.idle (hs : b.Sound) (hg : b.Grounded) (h : b.Unheard r b') (hi : b.Idle id) :
    b'.Idle id := by
  by_cases hr : r = .member id .next
  · subst hr
    cases h with
    | nothing => exact hi
    | looked => rwa [hi.nextEvent hs]
  · obtain ⟨m, hm, hidle⟩ := hi
    exact ⟨m, h.member? hm hr, hidle.mono h.recedes (hg m (List.mem_of_find?_eq_some hm))⟩

/-! ## Rows of requests -/

def afterAll (b : Broker) (rs : List Request) : Broker :=
  rs.foldl (fun b r => (b.perform r).broker) b

/-- None of a row of requests wakes anybody. -/
def AllUnheard : Broker → List Request → Prop
  | _, [] => True
  | b, r :: rs => (b.perform r).wakes = false ∧ (b.perform r).broker.AllUnheard rs

/-- Whoever would find nothing still finds nothing after any row of requests
that wakes nobody. -/
theorem AllUnheard.nextEvent_none {rs : List Request} (hs : b.Sound) (hg : b.Grounded)
    (h : b.AllUnheard rs) (hnone : (b.nextEvent id).result = .ok none) :
    ((b.afterAll rs).nextEvent id).result = .ok none := by
  induction rs generalizing b with
  | nil => exact hnone
  | cons r rs ih =>
    obtain ⟨hw, hrest⟩ := h
    apply ih (hs.perform r) (hg.perform hs r) hrest
    exact (perform_unheard hw).nextEvent_none hg hnone

end Broker

end ConsumerGroup
