import ConsumerGroup.Proofs.Broker.Sound
import Mathlib.Data.List.Forall2
import Mathlib.Tactic.Common

/-!
# What a member reads

A member reads the partitions it was assigned, and keeps reading them
whatever it finds there: a look at a slot moves its place and never its
partition (`held_fetch`). A message comes from one slot, the first that
had something to tell; the slots looked at on the way had nothing to tell,
and the others stay as they are (`fetch_cases`).

An assignment is turned into slots one by one, or not at all; it is as
good as done when every partition in it has a log (`exists_slots`), as
those of a share have (`assignable`).

A slot that is looked at in vain may still change, for a place outside the
log is given up for another. `Slot.Quiet` is what such a look may do, and
all that has to be known of the slots before the one that tells something.
-/

namespace ConsumerGroup

/-! ## Slots -/

namespace Slot

variable {o : MemberOptions} {ts : Topics}

theorem partition_moved (policy : ResetPolicy) (l : Log) (s : Slot) :
    (s.moved policy l).partition = s.partition := by
  unfold moved
  split
  · split <;> rfl
  · rfl

/-- What a slot inside its log can have to tell. -/
inductive Answers (announces : Bool) (l : Log) (s : Slot) : Option Message × Slot → Prop
  | refused (hp : s.position = none) (ht : s.refusalTold = true) : Answers announces l s (none, s)
  | refusal (hp : s.position = none) (ht : s.refusalTold = false) :
      Answers announces l s (some (.notify .offsetOutOfRange s.partition Offset.rawInvalid),
        { s with refusalTold := true })
  | record {n : Nat} {r : StoredRecord} (hp : s.position = some n) (hr : l.get? n = some r) :
      Answers announces l s (some (.record s.partition n r.key r.payload),
        { s with position := some (n + 1), endTold := false })
  | atEnd {n : Nat} (hp : s.position = some n) (hr : l.get? n = none) (ht : s.endTold = false) :
      Answers announces l s (some (.atEnd s.partition n), { s with endTold := true })
  | nothing {n : Nat} (hp : s.position = some n) (hr : l.get? n = none) :
      Answers announces l s (none, s)

/-- What a slot tells is one of these. -/
theorem told_cases (announces : Bool) (l : Log) (s : Slot) :
    s.Answers announces l (s.told announces l) := by
  unfold told
  split
  · next hp =>
    split
    · next ht => exact .refused hp ht
    · next ht => exact .refusal hp (Bool.eq_false_iff.mpr ht)
  · next n hp =>
    split
    · next r hr => exact .record hp hr
    · next hr =>
      split
      · next ht => exact .atEnd hp hr (Bool.eq_false_iff.mpr ht.2)
      · exact .nothing hp hr

theorem partition_told (announces : Bool) (l : Log) (s : Slot) :
    (s.told announces l).2.partition = s.partition := by
  have h := s.told_cases announces l
  generalize s.told announces l = t at h
  cases h <;> rfl

theorem partition_look (o : MemberOptions) (ts : Topics) (s : Slot) :
    (s.look o ts).2.partition = s.partition := by
  unfold look
  split
  · rfl
  · rw [partition_told, partition_moved]

/-- What a slot tells is about its partition. -/
theorem partition_of_told {announces : Bool} {l : Log} {s : Slot} {x : Message}
    (h : (s.told announces l).1 = some x) : x.partition? = some s.partition := by
  have ht := s.told_cases announces l
  generalize s.told announces l = t at h ht
  cases ht <;> cases h <;> rfl

/-- What a slot has to tell is about its partition. -/
theorem partition_of_look {s : Slot} {x : Message} (h : (s.look o ts).1 = some x) :
    x.partition? = some s.partition := by
  unfold look at h
  split at h
  · cases h
  · rw [partition_of_told h, partition_moved]

/-- A look that may be made on the way to another slot: it is not made, or
there is nothing to tell. -/
def Quiet (o : MemberOptions) (ts : Topics) (s s' : Slot) : Prop :=
  s' = s ∨ (s.look o ts).1 = none ∧ s' = (s.look o ts).2

end Slot

section FirstTold

variable {o : MemberOptions} {ts : Topics} {slots : List Slot}

/-- Either one of the slots is the first to tell something, and what is
behind it stays as it was, or none does and all have been looked at. -/
theorem firstTold_cases (o : MemberOptions) (ts : Topics) (slots : List Slot) :
    (∃ before s behind x, slots = before ++ s :: behind ∧ (∀ q ∈ before, (q.look o ts).1 = none) ∧
      (s.look o ts).1 = some x ∧ firstTold o ts slots =
        (some (x, before.length), before.map (·.look o ts |>.2) ++ (s.look o ts).2 :: behind)) ∨
    (∀ q ∈ slots, (q.look o ts).1 = none) ∧
      firstTold o ts slots = (none, slots.map (·.look o ts |>.2)) := by
  induction slots with
  | nil => exact .inr ⟨fun _ h => absurd h List.not_mem_nil, rfl⟩
  | cons q rest ih =>
    cases hq : q.look o ts with
    | mk found q' =>
      cases found with
      | some x =>
        refine .inl ⟨[], q, rest, x, rfl, fun _ h => absurd h List.not_mem_nil, by rw [hq], ?_⟩
        simp only [firstTold, hq]
        rfl
      | none =>
        have hnone : (q.look o ts).1 = none := by rw [hq]
        rcases ih with ⟨before, s, behind, x, rfl, hbefore, hx, h⟩ | ⟨hrest, h⟩
        · refine .inl ⟨q :: before, s, behind, x, rfl, List.forall_mem_cons.mpr ⟨hnone, hbefore⟩, hx, ?_⟩
          simp only [firstTold, hq, h, List.map_cons, List.cons_append]
          rfl
        · refine .inr ⟨List.forall_mem_cons.mpr ⟨hnone, hrest⟩, ?_⟩
          simp only [firstTold, hq, h, List.map_cons]
          rfl

theorem quiet_same (slots : List Slot) : List.Forall₂ (Slot.Quiet o ts) slots slots :=
  List.forall₂_same.mpr fun _ _ => .inl rfl

/-- Slots that have nothing to tell are quiet when they have been looked at. -/
theorem quiet_map (h : ∀ q ∈ slots, (q.look o ts).1 = none) :
    List.Forall₂ (Slot.Quiet o ts) slots (slots.map (·.look o ts |>.2)) := by
  rw [List.forall₂_map_right_iff, List.forall₂_same]
  exact fun q hq => .inr ⟨h q hq, rfl⟩

end FirstTold

/-! ## Members -/

namespace Member

variable {m : Member} {ts : Topics}

/-- To look for a message changes a member's slots and its cursor, and nothing
else. -/
theorem fetch_frame (m : Member) (ts : Topics) :
    (m.fetch ts).2 = { m with
      assignment := (m.fetch ts).2.assignment, cursor := (m.fetch ts).2.cursor } := by
  unfold fetch
  dsimp only
  split
  · rfl
  · split <;> rfl

/-- Either a member finds what one of its slots has to tell, and with the
others nothing is done that is told of, or it finds nothing. -/
theorem fetch_cases (m : Member) (ts : Topics) :
    (∃ before s behind x before' behind', m.assignment = before ++ s :: behind ∧
      (m.fetch ts).1 = some x ∧ (s.look m.options ts).1 = some x ∧
      (m.fetch ts).2.assignment = before' ++ (s.look m.options ts).2 :: behind' ∧
      List.Forall₂ (Slot.Quiet m.options ts) before before' ∧
      List.Forall₂ (Slot.Quiet m.options ts) behind behind') ∨
    (m.fetch ts).1 = none ∧
      List.Forall₂ (Slot.Quiet m.options ts) m.assignment (m.fetch ts).2.assignment := by
  have hparts := List.take_append_drop m.cursor m.assignment
  unfold fetch
  dsimp only
  rcases firstTold_cases m.options ts (m.assignment.drop m.cursor) with
    ⟨before, s, behind, x, hdrop, hbefore, hx, h⟩ | ⟨hdropped, h⟩
  · rw [h]
    rw [hdrop] at hparts
    refine .inl ⟨m.assignment.take m.cursor ++ before, s, behind, x,
      m.assignment.take m.cursor ++ before.map (·.look m.options ts |>.2), behind,
      hparts.symm.trans (List.append_assoc _ _ _).symm, rfl, hx, (List.append_assoc _ _ _).symm, ?_,
      quiet_same behind⟩
    exact List.rel_append (quiet_same _) (quiet_map hbefore)
  · rw [h]
    dsimp only
    rcases firstTold_cases m.options ts (m.assignment.take m.cursor) with
      ⟨before, s, behind, x, htake, hbefore, hx, h'⟩ | ⟨htaken, h'⟩
    · rw [h']
      rw [htake] at hparts
      refine .inl ⟨before, s, behind ++ m.assignment.drop m.cursor, x,
        before.map (·.look m.options ts |>.2),
        behind ++ (m.assignment.drop m.cursor).map (·.look m.options ts |>.2),
        hparts.symm.trans (List.append_assoc _ _ _), rfl, hx, List.append_assoc _ _ _,
        quiet_map hbefore, ?_⟩
      exact List.rel_append (quiet_same behind) (quiet_map hdropped)
    · rw [h']
      refine .inr ⟨rfl, ?_⟩
      conv => lhs; rw [← hparts]
      exact List.rel_append (quiet_map htaken) (quiet_map hdropped)

/-- Quiet slots keep their partitions. -/
theorem map_partition_of_quiet {slots slots' : List Slot} {o : MemberOptions}
    (h : List.Forall₂ (Slot.Quiet o ts) slots slots') :
    slots'.map (·.partition) = slots.map (·.partition) := by
  induction h with
  | nil => rfl
  | cons hs _ ih =>
    refine congrArg₂ (· :: ·) ?_ ih
    rcases hs with rfl | ⟨_, rfl⟩
    · rfl
    · exact Slot.partition_look _ _ _

/-- Whatever is found, a member goes on reading the same partitions. -/
theorem held_fetch (m : Member) (ts : Topics) : (m.fetch ts).2.held = m.held := by
  unfold held
  rcases m.fetch_cases ts with ⟨before, s, behind, x, before', behind', ha, _, _, ha', hb, hb'⟩ | ⟨_, hq⟩
  · rw [ha, ha', List.map_append, List.map_append, List.map_cons, List.map_cons,
      map_partition_of_quiet hb, map_partition_of_quiet hb', Slot.partition_look]
  · exact map_partition_of_quiet hq

/-- A message is what one of the slots has to tell. -/
theorem exists_slot_of_fetch {x : Message} (h : (m.fetch ts).1 = some x) :
    ∃ s ∈ m.assignment, (s.look m.options ts).1 = some x := by
  rcases m.fetch_cases ts with ⟨before, s, behind, x', _, _, ha, hx, hs, _⟩ | ⟨hnone, _⟩
  · cases hx.symm.trans h
    exact ⟨s, ha ▸ List.mem_append_right _ List.mem_cons_self, hs⟩
  · rw [hnone] at h
    cases h

/-- A message is about a partition that is held. -/
theorem mem_held_of_fetch {x : Message} (h : (m.fetch ts).1 = some x) :
    ∃ p ∈ m.held, x.partition? = some p := by
  obtain ⟨s, hs, hx⟩ := exists_slot_of_fetch h
  exact ⟨s.partition, List.mem_map_of_mem hs, Slot.partition_of_look hx⟩

/-- A slot of a quiet row was one of the row before. -/
theorem exists_of_mem_quiet {slots slots' : List Slot} {o : MemberOptions}
    (h : List.Forall₂ (Slot.Quiet o ts) slots slots') {s' : Slot} (hs' : s' ∈ slots') :
    ∃ s ∈ slots, s.Quiet o ts s' := by
  obtain ⟨i, hi, rfl⟩ := List.getElem_of_mem hs'
  have hi' : i < slots.length := h.length_eq ▸ hi
  exact ⟨slots[i], List.getElem_mem hi', h.get hi' hi⟩

/-- Afterwards a slot is as it was, or it has been looked at and had
nothing to tell but the message. -/
theorem mem_assignment_fetch {s' : Slot} (h : s' ∈ (m.fetch ts).2.assignment) :
    ∃ s ∈ m.assignment, s' = s ∨ (s' = (s.look m.options ts).2 ∧
      ((s.look m.options ts).1 = none ∨ (s.look m.options ts).1 = (m.fetch ts).1)) := by
  have quiet {s : Slot} (hs : s.Quiet m.options ts s') : s' = s ∨
      (s' = (s.look m.options ts).2 ∧
        ((s.look m.options ts).1 = none ∨ (s.look m.options ts).1 = (m.fetch ts).1)) :=
    hs.imp_right fun ⟨hnone, he⟩ => ⟨he, .inl hnone⟩
  rcases m.fetch_cases ts with
    ⟨before, s, behind, x, before', behind', ha, hx, hs, ha', hb, hb'⟩ | ⟨_, hq⟩
  · rw [ha'] at h
    rw [ha]
    rcases List.mem_append.mp h with h | h
    · obtain ⟨s, hs, hquiet⟩ := exists_of_mem_quiet hb h
      exact ⟨s, List.mem_append_left _ hs, quiet hquiet⟩
    · rcases List.mem_cons.mp h with rfl | h
      · exact ⟨s, List.mem_append_right _ List.mem_cons_self, .inr ⟨rfl, .inr (hs.trans hx.symm)⟩⟩
      · obtain ⟨s, hs, hquiet⟩ := exists_of_mem_quiet hb' h
        exact ⟨s, List.mem_append_right _ (List.mem_cons_of_mem _ hs), quiet hquiet⟩
  · obtain ⟨s, hs, hquiet⟩ := exists_of_mem_quiet hq h
    exact ⟨s, hs, quiet hquiet⟩

/-- Afterwards the slot of a partition is the one that had the message to
tell, or the message, if there is one, is about something else. -/
theorem slot_fetch (hn : m.held.Nodup) {s' : Slot} (h : s' ∈ (m.fetch ts).2.assignment) :
    ∃ s ∈ m.assignment, s.partition = s'.partition ∧
      ((s' = (s.look m.options ts).2 ∧ ∃ x, (s.look m.options ts).1 = some x ∧
          (m.fetch ts).1 = some x) ∨
        (s.Quiet m.options ts s' ∧ ∀ x, (m.fetch ts).1 = some x →
          x.partition? ≠ some s'.partition)) := by
  have same {s : Slot} (hs : s.Quiet m.options ts s') : s.partition = s'.partition := by
    rcases hs with rfl | ⟨_, rfl⟩
    · rfl
    · exact (Slot.partition_look _ _ _).symm
  rcases m.fetch_cases ts with
    ⟨before, s, behind, x, before', behind', ha, hx, hs, ha', hb, hb'⟩ | ⟨hnone, hq⟩
  · -- Whoever told the message holds the partition, and nobody else does.
    have hother {q : Slot} (hq : q.Quiet m.options ts s') (hne : s.partition ≠ q.partition) :
        ∀ y, (m.fetch ts).1 = some y → y.partition? ≠ some s'.partition := by
      intro y hy hp
      cases hx.symm.trans hy
      rw [Slot.partition_of_look hs, ← same hq] at hp
      exact hne (Option.some.inj hp)
    have hnodup := hn
    unfold held at hnodup
    rw [ha, List.map_append, List.map_cons] at hnodup
    rw [ha'] at h
    rw [ha]
    rcases List.mem_append.mp h with h | h
    · obtain ⟨q, hq, hquiet⟩ := exists_of_mem_quiet hb h
      refine ⟨q, List.mem_append_left _ hq, same hquiet, .inr ⟨hquiet, hother hquiet fun he => ?_⟩⟩
      exact (List.nodup_append.mp hnodup).2.2 _ (List.mem_map_of_mem hq) _ List.mem_cons_self he.symm
    · rcases List.mem_cons.mp h with rfl | h
      · exact ⟨s, List.mem_append_right _ List.mem_cons_self, (Slot.partition_look _ _ _).symm,
          .inl ⟨rfl, x, hs, hx⟩⟩
      · obtain ⟨q, hq, hquiet⟩ := exists_of_mem_quiet hb' h
        refine ⟨q, List.mem_append_right _ (List.mem_cons_of_mem _ hq), same hquiet,
          .inr ⟨hquiet, hother hquiet fun he => ?_⟩⟩
        exact (List.nodup_cons.mp (List.nodup_append.mp hnodup).2.1).1 (he ▸ List.mem_map_of_mem hq)
  · obtain ⟨q, hq, hquiet⟩ := exists_of_mem_quiet hq h
    exact ⟨q, hq, same hquiet, .inr ⟨hquiet, fun x hx => by rw [hnone] at hx; cases hx⟩⟩

end Member

/-- Of the slots of different partitions, one is found by its partition. -/
theorem Member.position?_of_mem {m : Member} (hn : m.held.Nodup) {s : Slot}
    (hs : s ∈ m.assignment) : m.position? s.partition = s.position := by
  have hfind : m.assignment.find? (·.partition == s.partition) = some s := by
    unfold held at hn
    obtain ⟨before, behind, ha⟩ := List.append_of_mem hs
    rw [ha, List.map_append, List.map_cons] at hn
    have hbefore : before.find? (·.partition == s.partition) = none := by
      rw [List.find?_eq_none]
      intro q hq he
      exact (List.nodup_append.mp hn).2.2 _ (List.mem_map_of_mem hq) _ List.mem_cons_self (eq_of_beq he)
    rw [ha, List.find?_append, hbefore]
    simp
  unfold position?
  rw [hfind]
  rfl

/-! ## Assignments -/

/-- Whatever place a policy picks lies in the log. -/
theorem ResetPolicy.mem_log_of_place? {policy : ResetPolicy} {l : Log} {n : Nat}
    (h : policy.place? l = some n) : l.low ≤ n ∧ n ≤ l.high := by
  have hlog := l.low_le_high
  cases policy with
  | earliest => cases h; exact ⟨Nat.le_refl _, hlog⟩
  | latest => cases h; exact ⟨hlog, Nat.le_refl _⟩
  | refuse => cases h

/-- The number an offset stands for, given what the group has committed. A
number stands for itself, wherever it lies. -/
inductive Offset.StandsFor (committed : Option Int) (log : Log) : Offset → Int → Prop
  | number (n : Int) : StandsFor committed log (.number n) n
  | beginning : StandsFor committed log .beginning log.low
  | ending : StandsFor committed log .ending log.high
  | stored {n : Int} (h : committed = some n) : StandsFor committed log .stored n
  | invalid {n : Int} (h : committed = some n) : StandsFor committed log .invalid n

/-- An offset stands for one number at most, and that place is taken if the
log has it. -/
theorem startPosition_wanted (offset : Offset) (committed : Option Int) (log : Log)
    (policy : ResetPolicy) :
    ∃ wanted : Option Int, (∀ n, offset.StandsFor committed log n ↔ wanted = some n) ∧
      startPosition offset committed log policy =
        match wanted with
        | some n => if log.low ≤ n ∧ n ≤ log.high then some n.toNat else policy.place? log
        | none => policy.place? log := by
  cases offset with
  | number k =>
    refine ⟨some k, fun n => ⟨?_, ?_⟩, rfl⟩
    · rintro ⟨⟩; rfl
    · rintro ⟨⟩; exact .number k
  | beginning =>
    refine ⟨some log.low, fun n => ⟨?_, ?_⟩, rfl⟩
    · rintro ⟨⟩; rfl
    · rintro ⟨⟩; exact .beginning
  | ending =>
    refine ⟨some log.high, fun n => ⟨?_, ?_⟩, rfl⟩
    · rintro ⟨⟩; rfl
    · rintro ⟨⟩; exact .ending
  | stored =>
    refine ⟨committed, fun n => ⟨?_, .stored⟩, rfl⟩
    rintro (_ | _ | _ | h)
    exact h
  | invalid =>
    refine ⟨committed, fun n => ⟨?_, .invalid⟩, rfl⟩
    rintro (_ | _ | _ | _ | h)
    exact h

/-- The number that an offset stands for is the place, as the integer it is,
if the log has it. No log begins below zero, so such a number is a place. -/
theorem startPosition_of_standsFor {offset : Offset} {committed : Option Int} {log : Log} {n : Int}
    (h : offset.StandsFor committed log n) (hlow : log.low ≤ n) (hhigh : n ≤ log.high)
    (policy : ResetPolicy) :
    ∃ k : Nat, startPosition offset committed log policy = some k ∧ (k : Int) = n := by
  obtain ⟨wanted, hwanted, hstart⟩ := startPosition_wanted offset committed log policy
  have hplace : startPosition offset committed log policy = some n.toNat := by
    rw [hstart, (hwanted n).mp h]
    exact if_pos ⟨hlow, hhigh⟩
  exact ⟨n.toNat, hplace, Int.toNat_of_nonneg (by omega)⟩

/-- A partition begins to be read inside its log. -/
theorem mem_log_of_startPosition {asked : Offset} {committed : Option Int} {l : Log}
    {policy : ResetPolicy} {n : Nat} (h : startPosition asked committed l policy = some n) :
    l.low ≤ n ∧ n ≤ l.high := by
  obtain ⟨wanted, _, hwanted⟩ := startPosition_wanted asked committed l policy
  rw [hwanted] at h
  split at h
  · split at h
    · cases h
      omega
    · exact ResetPolicy.mem_log_of_place? h
  · exact ResetPolicy.mem_log_of_place? h

/-- It does not begin to be read only where the policy refuses. -/
theorem refuse_of_startPosition {asked : Offset} {committed : Option Int} {l : Log}
    {policy : ResetPolicy} (h : startPosition asked committed l policy = none) :
    policy = .refuse := by
  have hplace (h : policy.place? l = none) : policy = .refuse := by
    cases policy with
    | refuse => rfl
    | earliest | latest => cases h
  obtain ⟨wanted, _, hwanted⟩ := startPosition_wanted asked committed l policy
  rw [hwanted] at h
  split at h
  · split at h
    · cases h
    · exact hplace h
  · exact hplace h

/-- A partition begins to be read where the policy says, or at a place in
the log: the one asked for, or the one committed if none is. -/
theorem startPosition_cases {asked : Offset} {committed : Option Int} {l : Log}
    {policy : ResetPolicy} {n : Nat} (h : startPosition asked committed l policy = some n) :
    policy.place? l = some n ∨ asked = .number n ∨ (asked = .beginning ∧ n = l.low) ∨
      (asked = .ending ∧ n = l.high) ∨
      ((asked = .stored ∨ asked = .invalid) ∧ committed = some (n : Int)) := by
  obtain ⟨wanted, hwanted, hstart⟩ := startPosition_wanted asked committed l policy
  have hplace : policy.place? l = some n ∨ wanted = some (n : Int) := by
    rw [hstart] at h
    split at h
    · split at h
      · next hin =>
        cases h
        exact .inr (by rw [Int.toNat_of_nonneg (by omega)])
      · exact .inl h
    · exact .inl h
  rcases hplace with hplace | hsome
  · exact .inl hplace
  have hstands := (hwanted n).mpr hsome
  generalize hk : (n : Int) = k at hstands
  refine .inr ?_
  cases hstands with
  | number => exact .inl rfl
  | beginning => exact .inr (.inl ⟨rfl, Int.ofNat_inj.mp hk⟩)
  | ending => exact .inr (.inr (.inl ⟨rfl, Int.ofNat_inj.mp hk⟩))
  | stored hc => exact .inr (.inr (.inr ⟨.inl rfl, hc⟩))
  | invalid hc => exact .inr (.inr (.inr ⟨.inr rfl, hc⟩))

namespace Broker

variable {b : Broker} {m : Member} {l : PartitionList} {slots : List Slot}

/-- The first partition of a list that is not there fails the list, and
otherwise each entry has a slot of its own. -/
theorem slots_cons (b : Broker) (m : Member) (e : PartitionOffset) (l : PartitionList) :
    b.slots m (e :: l) =
      match b.log? e.partition with
      | none => .error (.ofCode .unknownPartition)
      | some log =>
        match b.slots m l with
        | .error f => .error f
        | .ok slots =>
          .ok ({ partition := e.partition
                 position := startPosition e.offset (b.committed? m.group e.partition) log
                  m.options.reset } :: slots) := by
  rw [Broker.slots]
  unfold log
  cases b.log? e.partition with
  | none => rfl
  | some log => cases b.slots m l <;> rfl

/-- A message comes only from what is read, with nothing waiting. -/
theorem found_of_nextEvent {id : String} {x : Message}
    (h : (b.nextEvent id).result = .ok (some (.message x))) :
    ∃ m, b.member? id = some m ∧ (m.fetch b.topics).1 = some x ∧
      (b.nextEvent id).broker = b.modifyMember id fun _ => (m.fetch b.topics).2 := by
  unfold nextEvent at h ⊢
  split at h
  · cases h
  · next m hm =>
    rw [hm]
    unfold Member.next at h ⊢
    cases hq : m.queue with
    | nil =>
      rw [hq] at h
      obtain ⟨y, hy, hx⟩ := Option.map_eq_some_iff.mp (Except.ok.inj h)
      cases hx
      exact ⟨m, rfl, hy, rfl⟩
    | cons q rest =>
      rw [hq] at h
      cases h

/-- A notification comes only from the front of the queue. -/
theorem queued_of_nextEvent {id : String} {code : StatusCode}
    (h : (b.nextEvent id).result = .ok (some (.rebalance code l))) :
    ∃ m rest, b.member? id = some m ∧ m.queue = ⟨code, l⟩ :: rest := by
  unfold nextEvent at h
  split at h
  · cases h
  · next m hm =>
    unfold Member.next at h
    cases hq : m.queue with
    | nil =>
      rw [hq] at h
      obtain ⟨x, _, hx⟩ := Option.map_eq_some_iff.mp (Except.ok.inj h)
      cases hx
    | cons q rest =>
      rw [hq] at h
      cases h
      exact ⟨m, rest, hm, hq⟩

/-- A member for which nothing waits is brought the message that it finds. -/
theorem nextEvent_of_nil {id : String} {x : Message} (hm : b.member? id = some m)
    (hq : m.queue = []) (hf : (m.fetch b.topics).1 = some x) :
    (b.nextEvent id).result = .ok (some (.message x)) := by
  simp only [nextEvent, hm, Member.next, hq, hf]
  rfl

/-- The slots are for the partitions of the list. -/
theorem map_partition_slots (h : b.slots m l = .ok slots) :
    slots.map (·.partition) = l.partitions := by
  induction l generalizing slots with
  | nil => cases h; rfl
  | cons e l ih =>
    rw [slots_cons] at h
    split at h
    · cases h
    · split at h
      · cases h
      · next hs => cases h; exact congrArg (_ :: ·) (ih hs)

/-- Where every partition has a log, there are slots. -/
theorem exists_slots (b : Broker) (m : Member) (h : ∀ p ∈ l.partitions, (b.log? p).isSome) :
    ∃ slots, b.slots m l = .ok slots := by
  induction l with
  | nil => exact ⟨[], rfl⟩
  | cons e l ih =>
    obtain ⟨log, hlog⟩ := Option.isSome_iff_exists.mp (h e.partition List.mem_cons_self)
    obtain ⟨slots, hslots⟩ := ih fun p hp => h p (List.mem_cons_of_mem _ hp)
    exact ⟨_, by rw [slots_cons, hlog, hslots]⟩

/-- A list of what there is, with nothing twice, can be assigned. -/
theorem assignable (m : Member) (hl : l.partitions.Sublist b.topics.partitions) :
    ¬ l.hasDuplicates = true ∧ ∃ slots, b.slots m l = .ok slots := by
  have hnodup := hl.nodup b.topics.nodup_partitions
  refine ⟨Bool.eq_false_iff.mp (PartitionList.hasDuplicates_eq_false_iff.mpr hnodup), ?_⟩
  exact b.exists_slots m fun p hp => Topics.mem_partitions_iff.mp (hl.subset hp)

/-- A slot begins where its entry in the list asks for. -/
theorem mem_slots (h : b.slots m l = .ok slots) {s : Slot} (hs : s ∈ slots) :
    ∃ e ∈ l, ∃ log, b.log? e.partition = some log ∧ s.partition = e.partition ∧
      s.position = startPosition e.offset (b.committed? m.group e.partition) log m.options.reset := by
  induction l generalizing slots with
  | nil => cases h; cases hs
  | cons e l ih =>
    rw [slots_cons] at h
    split at h
    · cases h
    · next log hlog =>
      split at h
      · cases h
      · next rest hrest =>
        cases h
        rcases List.mem_cons.mp hs with rfl | hs
        · exact ⟨e, List.mem_cons_self, log, hlog, rfl, rfl⟩
        · obtain ⟨e', he', hcase⟩ := ih hrest hs
          exact ⟨e', List.mem_cons_of_mem _ he', hcase⟩

/-- Slots depend on the topics, on what is committed and on the options
of the member. -/
theorem slots_congr {b b' : Broker} {m m' : Member} (ht : b'.topics = b.topics)
    (hc : b'.committed = b.committed) (ho : m'.options = m.options) (l : PartitionList) :
    b'.slots m' l = b.slots m l := by
  induction l with
  | nil => rfl
  | cons e l ih => simp only [slots_cons, ih, log?, committed?, Member.group, ht, hc, ho]

end Broker

end ConsumerGroup
