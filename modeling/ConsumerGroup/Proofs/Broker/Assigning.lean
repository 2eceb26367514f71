import ConsumerGroup.Proofs.Broker.Reading
import ConsumerGroup.Proofs.Broker.Sound

/-!
# What an assignment does

A list is assigned if it names no partition twice, whatever the offsets, and
none that is not there. The member then reads the partitions of the list, in
its order, and each begins at the place its offset stands for, where the log
has that place, and else where the policy of the member puts it
(`Offset.StandsFor`, `BeginsAt`).

Of the broker nothing else changes, and what the member read before, how far
it had come and what it had told of that make no difference
(`Broker.Assigns`).

The list is walked once, and an entry without a log ends the walk. Places
are told as integers throughout, so that a number below zero is a place
nobody has and not a number that was cut off.
-/

namespace ConsumerGroup

/-- A number that lies in a log, both ends included. -/
def Log.Spans (log : Log) (n : Int) : Prop := log.low ≤ n ∧ n ≤ log.high

/-- A place as it is told: its number, or that there is none. -/
def Offset.ofPlace : Option Nat → Offset
  | some n => .number n
  | none => .invalid

/-- What is told of where a partition begins to be read: the number its
offset stands for, if the log has that, and else where the policy puts it. -/
structure BeginsAt (committed : Option Int) (log : Log) (policy : ResetPolicy)
    (offset told : Offset) : Prop where
  usable : ∀ n, offset.StandsFor committed log n → log.Spans n → told = .number n
  earliest : (∀ n, offset.StandsFor committed log n → ¬ log.Spans n) → policy = .earliest →
    told = .number log.low
  latest : (∀ n, offset.StandsFor committed log n → ¬ log.Spans n) → policy = .latest →
    told = .number log.high
  refused : (∀ n, offset.StandsFor committed log n → ¬ log.Spans n) → policy = .refuse →
    told = .invalid

variable {committed : Option Int} {log : Log} {policy : ResetPolicy} {offset told : Offset}

/-- What is told of where a partition begins is where it does begin. -/
theorem beginsAt_startPosition (offset : Offset) (committed : Option Int) (log : Log)
    (policy : ResetPolicy) :
    BeginsAt committed log policy offset
      (.ofPlace (startPosition offset committed log policy)) := by
  obtain ⟨wanted, hwanted, hstart⟩ := startPosition_wanted offset committed log policy
  have hplace (hnone : ∀ n, offset.StandsFor committed log n → ¬ log.Spans n) :
      startPosition offset committed log policy = policy.place? log := by
    rw [hstart]
    cases wanted with
    | none => rfl
    | some n => exact if_neg (hnone n ((hwanted n).mpr rfl))
  constructor
  case usable =>
    intro n hn hspan
    obtain ⟨k, hk, rfl⟩ := startPosition_of_standsFor hn hspan.1 hspan.2 policy
    rw [hk]
    rfl
  case earliest => rintro hnone rfl; rw [hplace hnone]; rfl
  case latest => rintro hnone rfl; rw [hplace hnone]; rfl
  case refused => rintro hnone rfl; rw [hplace hnone]; rfl

namespace BeginsAt

/-- A partition begins to be read inside its log, or not at all. -/
theorem spans_or_invalid (h : BeginsAt committed log policy offset told) :
    (∃ n, told = .number n ∧ log.Spans n) ∨ told = .invalid := by
  have hlog : (log.low : Int) ≤ log.high := Int.ofNat_le.mpr log.low_le_high
  by_cases hused : ∃ n, offset.StandsFor committed log n ∧ log.Spans n
  · obtain ⟨n, hn, hspan⟩ := hused
    exact .inl ⟨n, h.usable n hn hspan, hspan⟩
  have hnone : ∀ n, offset.StandsFor committed log n → ¬ log.Spans n :=
    fun n hn hspan => hused ⟨n, hn, hspan⟩
  cases policy with
  | earliest => exact .inl ⟨_, h.earliest hnone rfl, Int.le_refl _, hlog⟩
  | latest => exact .inl ⟨_, h.latest hnone rfl, hlog, Int.le_refl _⟩
  | refuse => exact .inr (h.refused hnone rfl)

/-- It does not begin to be read only if the policy refuses, and what its
offset stands for, if anything, is not in the log. -/
theorem invalid_iff (h : BeginsAt committed log policy offset told) :
    told = .invalid ↔
      policy = .refuse ∧ ∀ n, offset.StandsFor committed log n → ¬ log.Spans n := by
  refine ⟨?_, fun ⟨hpolicy, hnone⟩ => h.refused hnone hpolicy⟩
  rintro rfl
  have hnone : ∀ n, offset.StandsFor committed log n → ¬ log.Spans n :=
    fun n hn hspan => nomatch h.usable n hn hspan
  refine ⟨?_, hnone⟩
  cases policy with
  | refuse => rfl
  | earliest => exact nomatch h.earliest hnone rfl
  | latest => exact nomatch h.latest hnone rfl

end BeginsAt

namespace Broker

variable {b : Broker} {id : String} {m : Member} {l : PartitionList} {slots : List Slot}

/-- Each entry of a list has its slot. -/
theorem exists_slot (h : b.slots m l = .ok slots) {e : PartitionOffset} (he : e ∈ l) :
    ∃ log, b.log? e.partition = some log ∧ ∃ s ∈ slots, s.partition = e.partition ∧
      s.position = startPosition e.offset (b.committed? m.group e.partition) log m.options.reset := by
  induction l generalizing slots with
  | nil => cases he
  | cons x l ih =>
    rw [slots_cons] at h
    split at h
    · cases h
    · next log hlog =>
      split at h
      · cases h
      · next rest hrest =>
        cases h
        rcases List.mem_cons.mp he with rfl | he
        · exact ⟨log, hlog, _, List.mem_cons_self, rfl, rfl⟩
        · obtain ⟨log, hlog, s, hs, hslot⟩ := ih hrest he
          exact ⟨log, hlog, s, List.mem_cons_of_mem _ hs, hslot⟩

/-- What a member that was assigned an entry is told when it asks for its
position. -/
structure Resolved (b : Broker) (m : Member) (e told : PartitionOffset) : Prop where
  partition : told.partition = e.partition
  begins : ∀ log, b.log? e.partition = some log →
    BeginsAt (b.committed? m.group e.partition) log m.options.reset e.offset told.offset
  spans : ∀ log, b.log? e.partition = some log →
    (∃ n, told.offset = .number n ∧ log.Spans n) ∨ told.offset = .invalid
  invalid : ∀ log, b.log? e.partition = some log →
    (told.offset = .invalid ↔ m.options.reset = .refuse ∧
      ∀ n, e.offset.StandsFor (b.committed? m.group e.partition) log n → ¬ log.Spans n)

/-- What comes of assigning a list to a member. -/
structure Assigns (b : Broker) (id : String) (m : Member) (l : PartitionList) (o : Effect Unit) :
    Prop where
  accepted : o.result = .ok () ↔
    l.partitions.Nodup ∧ ∀ e ∈ l, (b.log? e.partition).isSome
  refused : o.result ≠ .ok () → o.broker = b
  held : o.result = .ok () → o.broker.assignmentOf id = .ok (.ofPartitions l.partitions)
  resolved : o.result = .ok () → ∃ told, o.broker.positionsOf id l = .ok told ∧
    List.Forall₂ (b.Resolved m) l told
  /-- Of the member only what it reads changes. -/
  self : ∃ assignment cursor, o.broker.member? id = some { m with assignment, cursor }
  others : ∀ id', id' ≠ id → o.broker.member? id' = b.member? id'
  frame : o.broker = { b with members := o.broker.members } ∧
    o.broker.members.map (·.id) = b.members.map (·.id)
  /-- What it read before makes no difference. -/
  forgets : ∀ assignment cursor,
    let other := (b.modifyMember id fun m => { m with assignment, cursor }).assign id l
    other.result = o.result ∧ (o.result = .ok () → other = o)

/-- A list that names a partition twice is refused before anything is looked
at. -/
theorem assign_of_duplicates (h : ¬ l.partitions.Nodup) :
    b.assign id l = b.refuse .invalidArgument := by
  unfold assign
  rw [if_pos]
  exact Bool.of_not_eq_false fun hd => h (PartitionList.hasDuplicates_eq_false_iff.mp hd)

/-- A list with an unknown partition is refused, and the member reads on what
it did. -/
theorem assign_of_error (hm : b.member? id = some m) (hl : l.partitions.Nodup) {f : Failure}
    (h : b.slots m l = .error f) : b.assign id l = b.answer (.error f) := by
  unfold assign
  rw [PartitionList.hasDuplicates_eq_false_iff.mpr hl, if_neg Bool.false_ne_true, hm]
  dsimp only
  rw [h]

/-- A list whose partitions are all there takes the place of what the member
read, and the circle begins anew. -/
theorem assign_of_slots (hm : b.member? id = some m) (hl : l.partitions.Nodup)
    (h : b.slots m l = .ok slots) :
    b.assign id l =
      { result := .ok ()
        broker := b.modifyMember id fun m => { m with assignment := slots, cursor := 0 }
        wakes := true
        diary := [.assignmentApplied id l.length] } := by
  unfold assign
  rw [PartitionList.hasDuplicates_eq_false_iff.mpr hl, if_neg Bool.false_ne_true, hm]
  dsimp only
  rw [h]

/-- An assignment is refused and nothing changes, or each entry has its
slot. -/
theorem assign_cases (hm : b.member? id = some m) (l : PartitionList) :
    (∃ f, b.assign id l = b.answer (.error f)) ∨
      l.partitions.Nodup ∧ ∃ slots, b.slots m l = .ok slots := by
  by_cases hl : l.partitions.Nodup
  · cases hs : b.slots m l with
    | error f => exact .inl ⟨f, assign_of_error hm hl hs⟩
    | ok slots => exact .inr ⟨hl, slots, rfl⟩
  · exact .inl ⟨_, assign_of_duplicates hl⟩

/-- A member may assign itself just the lists that name partitions which are
there, and each once. -/
theorem assign_ok_iff (hm : b.member? id = some m) (l : PartitionList) :
    (b.assign id l).result = .ok () ↔
      l.partitions.Nodup ∧ ∀ e ∈ l, (b.log? e.partition).isSome := by
  constructor
  · intro hok
    rcases assign_cases hm l with ⟨f, hf⟩ | ⟨hl, slots, hs⟩
    · rw [hf] at hok
      cases hok
    · refine ⟨hl, fun e he => ?_⟩
      obtain ⟨log, hlog, -⟩ := exists_slot hs he
      rw [hlog]
      rfl
  · rintro ⟨hl, hlogs⟩
    obtain ⟨slots, hs⟩ := b.exists_slots m (l := l) fun p hp => by
      obtain ⟨e, he, rfl⟩ := List.mem_map.mp hp
      exact hlogs e he
    rw [assign_of_slots hm hl hs]

/-- The member once it is given other things to read. -/
theorem member?_reading (hm : b.member? id = some m) (assignment : List Slot) (cursor : Nat) :
    (b.modifyMember id fun m => { m with assignment, cursor }).member? id =
      some { m with assignment, cursor } := by
  have hkeeps : ∀ m : Member, m.id = id → { m with assignment, cursor }.id = id := fun _ h => h
  rw [member?_modifyMember hkeeps, hm]
  rfl

/-- What a member reads already makes no difference to what it is
assigned. -/
theorem assign_forgets (hm : b.member? id = some m) (l : PartitionList) (assignment : List Slot)
    (cursor : Nat) :
    let other := (b.modifyMember id fun m => { m with assignment, cursor }).assign id l
    other.result = (b.assign id l).result ∧
      ((b.assign id l).result = .ok () → other = b.assign id l) := by
  have hm' := member?_reading hm assignment cursor
  have hslots := @slots_congr b (b.modifyMember id fun m => { m with assignment, cursor }) m
    { m with assignment, cursor } rfl rfl rfl l
  have hkeeps : ∀ m : Member, m.id = id → { m with assignment, cursor }.id = id := fun _ h => h
  by_cases hl : l.partitions.Nodup
  · cases hs : b.slots m l with
    | error f =>
      rw [assign_of_error hm hl hs, assign_of_error hm' hl (hslots.trans hs)]
      exact ⟨rfl, nofun⟩
    | ok slots =>
      rw [assign_of_slots hm hl hs, assign_of_slots hm' hl (hslots.trans hs),
        modifyMember_modifyMember b hkeeps]
      exact ⟨rfl, fun _ => rfl⟩
  · rw [assign_of_duplicates hl, assign_of_duplicates hl]
    exact ⟨rfl, nofun⟩

/-- Each entry is told as it was resolved. -/
theorem resolved_of_slots {m' : Member} (hl : l.partitions.Nodup) (hs : b.slots m l = .ok slots)
    (hm' : m'.assignment = slots) {e : PartitionOffset} (he : e ∈ l) :
    b.Resolved m e { e with offset := .ofPlace (m'.position? e.partition) } := by
  obtain ⟨log, hlog, s, hmem, hpartition, hposition⟩ := exists_slot hs he
  have hheld : m'.held.Nodup := by
    unfold Member.held
    rwa [hm', map_partition_slots hs]
  have hplace : m'.position? e.partition =
      startPosition e.offset (b.committed? m.group e.partition) log m.options.reset := by
    rw [← hpartition, Member.position?_of_mem hheld (hm' ▸ hmem), hposition,
      hpartition]
  have hbegins : ∀ log', b.log? e.partition = some log' →
      BeginsAt (b.committed? m.group e.partition) log' m.options.reset e.offset
        (.ofPlace (m'.position? e.partition)) := by
    intro log' hlog'
    obtain rfl : log = log' := Option.some.inj (hlog.symm.trans hlog')
    rw [hplace]
    exact beginsAt_startPosition _ _ _ _
  exact ⟨rfl, hbegins, fun log' h => (hbegins log' h).spans_or_invalid,
    fun log' h => (hbegins log' h).invalid_iff⟩

/-- What comes of assigning to a member that has not left. -/
theorem assigns_assign (hm : b.member? id = some m) (l : PartitionList) :
    b.Assigns id m l (b.assign id l) := by
  constructor
  case accepted => exact assign_ok_iff hm l
  case forgets => exact assign_forgets hm l
  all_goals rcases assign_cases hm l with ⟨f, hf⟩ | ⟨hl, slots, hs⟩
  case refused.inl => rw [hf]; exact fun _ => rfl
  case refused.inr => rw [assign_of_slots hm hl hs]; exact fun h => absurd rfl h
  case held.inl => rw [hf]; nofun
  case held.inr =>
    intro _
    rw [assign_of_slots hm hl hs, ← map_partition_slots hs]
    unfold assignmentOf member
    rw [member?_reading hm slots 0]
    rfl
  case resolved.inl => rw [hf]; nofun
  case resolved.inr =>
    intro _
    let reading : Member := { m with assignment := slots, cursor := 0 }
    refine ⟨l.map fun e => { e with offset := .ofPlace (reading.position? e.partition) }, ?_, ?_⟩
    · rw [assign_of_slots hm hl hs]
      unfold positionsOf member
      rw [member?_reading hm slots 0]
      refine congrArg Except.ok (List.map_congr_left fun e _ => ?_)
      show PartitionOffset.mk _ (match reading.position? e.partition with
        | some n => .number n
        | none => .invalid) = _
      cases reading.position? e.partition <;> rfl
    · rw [List.forall₂_map_right_iff, List.forall₂_same]
      exact fun e he => resolved_of_slots hl hs rfl he
  case self.inl => exact ⟨m.assignment, m.cursor, by rw [hf]; exact hm⟩
  case self.inr => exact ⟨slots, 0, by rw [assign_of_slots hm hl hs]; exact member?_reading hm slots 0⟩
  case others.inl => rw [hf]; exact fun _ _ => rfl
  case others.inr =>
    intro id' hne
    rw [assign_of_slots hm hl hs]
    exact member?_modifyMember_of_ne hne fun _ h => h
  case frame.inl => rw [hf]; exact ⟨rfl, rfl⟩
  case frame.inr =>
    rw [assign_of_slots hm hl hs]
    refine ⟨rfl, ?_⟩
    simp only [modifyMember, List.map_map]
    refine List.map_congr_left fun m _ => ?_
    simp only [Function.comp]
    split <;> rfl

/-- The place behind the last record is in the log. A commit that lies past
the end is not, and a member that wants no other place is told so. -/
theorem assigns_assign_ends :
    let p : Partition := ⟨"t", 0⟩
    let q : Partition := ⟨"t", 1⟩
    let m : Member :=
      { id := "a", options := { group := "g", reset := .refuse },
        assignment := [{ partition := q, position := none, refusalTold := true }] }
    let b : Broker :=
      { topics := { toList := [⟨"t", [⟨2, List.replicate 5 ⟨none, none⟩⟩, {}]⟩] },
        committed := [(("g", q), 4)], members := [m] }
    let l : PartitionList := [⟨p, .number 7⟩, ⟨q, .stored⟩]
    ∃ atEnd nowhere : PartitionOffset,
      (b.assign "a" l).broker.positionsOf "a" l = .ok [atEnd, nowhere] ∧
        atEnd.offset = .number 7 ∧ nowhere.offset = .invalid := by
  intro p q m b l
  have hm : b.member? "a" = some m := rfl
  have h := assigns_assign hm l
  obtain ⟨told, htold, hresolved⟩ := h.resolved (h.accepted.mpr ⟨by decide, by decide⟩)
  obtain ⟨atEnd, rest, hend, hrest, rfl⟩ := List.forall₂_cons_left_iff.mp hresolved
  obtain ⟨nowhere, others, hnowhere, hothers, rfl⟩ := List.forall₂_cons_left_iff.mp hrest
  obtain rfl := List.forall₂_nil_left_iff.mp hothers
  refine ⟨atEnd, nowhere, htold, ?_, ?_⟩
  · exact (hend.begins _ rfl).usable 7 (.number 7) ⟨by decide, by decide⟩
  · refine (hnowhere.begins _ rfl).refused (fun n hn hspan => ?_) rfl
    have hcommitted : b.committed? "g" q = some n := by
      cases hn
      assumption
    cases hcommitted
    exact absurd hspan.2 (by decide)

end Broker

end ConsumerGroup
