import ConsumerGroup.Proofs.Broker.Frame
import ConsumerGroup.Proofs.Broker.Order

/-!
# Members stay in bounds

What a member reads is there, each partition once; the place where it
reads a partition next is not behind the end of the log, and a partition
is refused only where the policy refuses; and the cursor points to one of
the slots, if there are any (`Member.InBounds`). Three things move under
each other here: assignments put slots anew, reading moves places and the
cursor, and logs grow and are cut while they are read. No request takes
anybody out of bounds (`Broker.InBounds.perform`).

`Member.checkedFetch` looks for a message as `Member.fetch` does, and
fails wherever a member in bounds never comes: at a partition without a
log, at a place behind the end, at a circle of no slots. It never fails
for a member in bounds (`Member.InBounds.checkedFetch_eq`).

The proof of `Broker.InBounds.perform` goes through what a request can
change, and asks of each change what it makes of one member and of the logs.
That no place lies below zero is carried by places being natural numbers.
-/

namespace ConsumerGroup

/-! ## Slots -/

/-- The place is not behind the end of the log, and there is one unless the
policy refuses. -/
structure Slot.Within (policy : ResetPolicy) (l : Log) (s : Slot) : Prop where
  place : ∀ n, s.position = some n → n ≤ l.high
  refused : s.position = none → policy = .refuse

/-- The partition has a log, and the slot is within it. -/
def Slot.InBounds (policy : ResetPolicy) (ts : Topics) (s : Slot) : Prop :=
  ∃ l, ts.log? s.partition = some l ∧ s.Within policy l

namespace Slot

variable {policy : ResetPolicy} {l l' : Log} {s : Slot} {ts ts' : Topics}

/-- A log that has grown, or begins later, has room for what it had room for
before. -/
theorem Within.mono (h : s.Within policy l) (hl : l.Leads l') : s.Within policy l' where
  place _ hn := Nat.le_trans (h.place _ hn) hl.2
  refused := h.refused

/-- Wherever the policy puts a slot, or a list asks for, it is within the
log. -/
theorem within_of_startPosition {asked : Offset} {committed : Option Int}
    (h : s.position = startPosition asked committed l policy) : s.Within policy l where
  place _ hn := (mem_log_of_startPosition (h.symm.trans hn)).2
  refused hn := refuse_of_startPosition (h.symm.trans hn)

/-- Where the policy puts a slot is within the log. -/
theorem within_of_place? (h : s.position = policy.place? l) : s.Within policy l where
  place _ hn := (ResetPolicy.mem_log_of_place? (h.symm.trans hn)).2
  refused hn := by
    have hnone : policy.place? l = none := h.symm.trans hn
    cases policy with
    | refuse => rfl
    | earliest | latest => cases hnone

/-- To give up a place outside the log leads inside. -/
theorem Within.moved (h : s.Within policy l) : (s.moved policy l).Within policy l := by
  unfold Slot.moved
  split
  · split
    · exact within_of_place? rfl
    · exact h
  · exact h

/-- A place goes on by one only where a record was, so not past the end. -/
theorem Within.told (h : s.Within policy l) (announces : Bool) :
    (s.told announces l).2.Within policy l := by
  have ht := s.told_cases announces l
  generalize s.told announces l = t at ht
  cases ht with
  | refused | nothing => exact h
  | refusal | atEnd => exact ⟨h.place, h.refused⟩
  | record hp hr =>
    refine ⟨fun k hk => ?_, nofun⟩
    cases hk
    exact (Log.lt_high_of_get? hr).2

/-- Slots stay in bounds while the topics advance. -/
theorem InBounds.mono (h : s.InBounds policy ts) (ht : ts.Advances ts') :
    s.InBounds policy ts' := by
  obtain ⟨l, hl, hs⟩ := h
  obtain ⟨l', hl', hleads⟩ := ht _ l hl
  exact ⟨l', hl', hs.mono hleads⟩

/-- To look at a slot keeps it in bounds, whether it tells anything or not. -/
theorem InBounds.look {o : MemberOptions} (h : s.InBounds o.reset ts) :
    (s.look o ts).2.InBounds o.reset ts := by
  obtain ⟨l, hl, hs⟩ := h
  have hlook : s.look o ts = (s.moved o.reset l).told o.announcesEnd l := by
    unfold Slot.look
    rw [hl]
  refine ⟨l, ?_, ?_⟩
  · rw [partition_look]
    exact hl
  · rw [hlook]
    exact hs.moved.told _

end Slot

/-! ## Members -/

/-- What a member reads is there, each partition once and within its log,
and the cursor points to one of the slots. -/
structure Member.InBounds (ts : Topics) (m : Member) : Prop where
  nodup : m.held.Nodup
  cursor : m.cursor < m.assignment.length ∨ m.assignment = [] ∧ m.cursor = 0
  slots : ∀ s ∈ m.assignment, s.InBounds m.options.reset ts

namespace Member

variable {m m' : Member} {ts ts' : Topics}

/-- Whoever reads the same as somebody in bounds is, as long as logs
advance. -/
theorem InBounds.of_same (h : m.InBounds ts) (ht : ts.Advances ts')
    (ho : m'.options = m.options) (ha : m'.assignment = m.assignment)
    (hc : m'.cursor = m.cursor) : m'.InBounds ts' where
  nodup := by
    unfold held
    rw [ha]
    exact h.nodup
  cursor := by
    rw [ha, hc]
    exact h.cursor
  slots s hs := by
    rw [ha] at hs
    rw [ho]
    exact (h.slots s hs).mono ht

/-- Whoever reads nothing is in bounds. -/
theorem inBounds_of_nil (ha : m.assignment = []) (hc : m.cursor = 0) : m.InBounds ts where
  nodup := by simp [held, ha]
  cursor := .inr ⟨ha, hc⟩
  slots s hs := by simp [ha] at hs

/-- To look for a message neither adds slots nor drops any. -/
theorem length_fetch (m : Member) (ts : Topics) :
    (m.fetch ts).2.assignment.length = m.assignment.length := by
  have hheld := congrArg List.length (m.held_fetch ts)
  simpa only [held, List.length_map] using hheld

/-- The cursor stays where it is, or a message has put it behind the slot it
came from, in the circle. -/
theorem cursor_fetch (m : Member) (ts : Topics) :
    (m.fetch ts).2.cursor = m.cursor ∨
      (∃ x, (m.fetch ts).1 = some x) ∧
        ∃ i, (m.fetch ts).2.cursor = (i + 1) % m.assignment.length := by
  unfold fetch
  dsimp only
  split
  · exact .inr ⟨⟨_, rfl⟩, _, rfl⟩
  · split
    · exact .inr ⟨⟨_, rfl⟩, _, rfl⟩
    · exact .inl rfl

/-- To look for a message keeps a member in bounds: all slots are looked at in
place, and the cursor moves within the circle. -/
theorem InBounds.fetch (h : m.InBounds ts) : (m.fetch ts).2.InBounds ts where
  nodup := by
    rw [held_fetch]
    exact h.nodup
  cursor := by
    have hlength := m.length_fetch ts
    rcases m.cursor_fetch ts with hc | ⟨⟨x, hx⟩, i, hc⟩
    · rw [hc]
      rcases h.cursor with hlt | ⟨hnil, hzero⟩
      · exact .inl (hlength ▸ hlt)
      · rw [hnil] at hlength
        exact .inr ⟨List.length_eq_zero_iff.mp hlength, hzero⟩
    · -- A message comes from a slot, so the circle is not empty.
      obtain ⟨s, hs, _⟩ := exists_slot_of_fetch hx
      rw [hc, hlength]
      exact .inl (Nat.mod_lt _ (List.length_pos_of_mem hs))
  slots s' hs' := by
    rw [fetch_frame]
    obtain ⟨s, hs, rfl | ⟨rfl, _⟩⟩ := mem_assignment_fetch hs'
    · exact h.slots s' hs
    · exact (h.slots s hs).look

/-- And so does to take the next event. -/
theorem InBounds.next (h : m.InBounds ts) : (m.next ts).2.InBounds ts := by
  unfold Member.next
  split
  · exact h.of_same (.refl _) rfl rfl rfl
  · exact h.fetch

/-- Whoever is dealt to goes on looking where it did. -/
theorem Dealt.cursor_eq {all : List Partition} (h : m.Dealt all m') : m'.cursor = m.cursor := by
  induction h with
  | refl => rfl
  | resubscribed _ _ ih => exact ih
  | rebalanced g _ _ ih =>
    unfold Member.rebalanced
    split <;> exact ih

end Member

/-! ## Brokers -/

namespace Broker

variable {b b' : Broker} {id : String} {m m' : Member}

def InBounds (b : Broker) : Prop := ∀ m ∈ b.members, m.InBounds b.topics

theorem inBounds_empty (patterns : PatternReader) : ({ patterns } : Broker).InBounds :=
  fun _ hm => absurd hm List.not_mem_nil

/-- What is assigned begins in bounds. -/
theorem inBounds_of_slots {l : PartitionList} (hd : l.partitions.Nodup)
    (hs : b.slots m l = .ok m'.assignment) (ho : m'.options = m.options) (hc : m'.cursor = 0) :
    m'.InBounds b.topics where
  nodup := by
    unfold Member.held
    rw [map_partition_slots hs]
    exact hd
  cursor := by
    rw [hc]
    cases m'.assignment with
    | nil => exact .inr ⟨rfl, rfl⟩
    | cons s rest => exact .inl (Nat.succ_pos _)
  slots s h := by
    obtain ⟨e, _, l, hl, hp, hn⟩ := mem_slots hs h
    rw [ho]
    exact ⟨l, hp ▸ hl, Slot.within_of_startPosition hn⟩

/-- A change to one member that keeps it in bounds keeps all of them there. -/
theorem InBounds.modifyMember (h : b.InBounds) {f : Member → Member}
    (hf : ∀ m ∈ b.members, m.id = id → (f m).InBounds b.topics) :
    (b.modifyMember id f).InBounds := by
  intro m' hm'
  obtain ⟨m, hm, rfl⟩ := List.mem_map.mp hm'
  split
  · next hid => exact hf m hm hid
  · exact h m hm

/-- Nothing that is asked of a broker takes a member out of bounds. -/
theorem InBounds.perform (hs : b.Sound) (h : b.InBounds) (r : Request) :
    (b.perform r).broker.InBounds := by
  intro m' hm'
  have hbefore : m'.InBounds b.topics := by
    rcases (b.perform_changed r).members hs hm' with ⟨m, hm, hasked⟩ | ⟨_, _, rfl⟩
    · have hbounds := h m hm
      cases hasked with
      | dealt hd => exact hbounds.of_same (.refl _) hd.frame.2.1 hd.frame.2.2 hd.cursor_eq
      | notified => exact hbounds.of_same (.refl _) rfl rfl rfl
      | assigned hd hslots =>
        have hnodup := PartitionList.hasDuplicates_eq_false_iff.mp (Bool.eq_false_iff.mpr hd)
        exact inBounds_of_slots hnodup hslots rfl rfl
      | unassigned => exact Member.inBounds_of_nil rfl rfl
      | looked => exact hbounds.next
    · exact Member.inBounds_of_nil rfl rfl
  exact hbefore.of_same (b.advances_perform r) rfl rfl rfl

end Broker

/-! ## Looking for a message, and failing where nobody comes -/

/-- Looks at a slot, and fails where there is no log or where the place is
behind its end. -/
def Slot.checkedLook (o : MemberOptions) (ts : Topics) (s : Slot) :
    Option (Option Message × Slot) :=
  match ts.log? s.partition, s.position with
  | none, _ => none
  | some l, none => some (s.told o.announcesEnd l)
  | some l, some n =>
    if l.high < n then none
    else if n < l.low then
      some (Slot.told o.announcesEnd l { s with position := o.reset.place? l, endTold := false })
    else some (s.told o.announcesEnd l)

/-- The first message that slots have to tell, if no look fails on the way
to it. -/
def checkedFirstTold (o : MemberOptions) (ts : Topics) :
    List Slot → Option (Option (Message × Nat) × List Slot)
  | [] => some (none, [])
  | s :: rest =>
    match s.checkedLook o ts with
    | none => none
    | some (some m, s) => some (some (m, 0), s :: rest)
    | some (none, s) =>
      (checkedFirstTold o ts rest).map fun (found, rest) =>
        (found.map fun (m, i) => (m, i + 1), s :: rest)

/-- A remainder, which fails when it is divided by nothing. -/
def checkedMod (n d : Nat) : Option Nat := if d = 0 then none else some (n % d)

/-- The next message from the partitions held, and the member afterwards, if
no look fails and the circle is not empty where it has to be gone
round. -/
def Member.checkedFetch (m : Member) (ts : Topics) : Option (Option Message × Member) :=
  let before := m.assignment.take m.cursor
  let behind := m.assignment.drop m.cursor
  let wrapped (i : Nat) : Option Nat := checkedMod (i + 1) m.assignment.length
  match checkedFirstTold m.options ts behind with
  | none => none
  | some (some (x, i), behind) =>
    (wrapped (m.cursor + i)).map fun cursor =>
      (some x, { m with assignment := before ++ behind, cursor })
  | some (none, behind) =>
    match checkedFirstTold m.options ts before with
    | none => none
    | some (some (x, i), before) =>
      (wrapped i).map fun cursor => (some x, { m with assignment := before ++ behind, cursor })
    | some (none, before) => some (none, { m with assignment := before ++ behind })

/-- In bounds, the look that fails outside does not fail. -/
theorem Slot.InBounds.checkedLook_eq {o : MemberOptions} {ts : Topics} {s : Slot}
    (h : s.InBounds o.reset ts) : s.checkedLook o ts = some (s.look o ts) := by
  obtain ⟨l, hl, hs⟩ := h
  unfold Slot.checkedLook Slot.look Slot.moved
  rw [hl]
  cases hp : s.position with
  | none => rfl
  | some n =>
    have hhigh : ¬ l.high < n := Nat.not_lt.mpr (hs.place n hp)
    by_cases hlow : n < l.low
    · simp only [hhigh, hlow, true_or, if_true, if_false]
    · simp only [hhigh, hlow, or_self, if_false]

/-- Nor does it along a row of slots. -/
theorem checkedFirstTold_eq {o : MemberOptions} {ts : Topics} {slots : List Slot}
    (h : ∀ s ∈ slots, s.InBounds o.reset ts) :
    checkedFirstTold o ts slots = some (firstTold o ts slots) := by
  induction slots with
  | nil => rfl
  | cons s rest ih =>
    have hlook := (h s List.mem_cons_self).checkedLook_eq
    have hrest := ih fun q hq => h q (List.mem_cons_of_mem _ hq)
    simp only [checkedFirstTold, firstTold, hlook, hrest]
    obtain ⟨found, s'⟩ := s.look o ts
    cases found <;> rfl

theorem checkedMod_eq {n d : Nat} (h : 0 < d) : checkedMod n d = some (n % d) :=
  if_neg (Nat.ne_of_gt h)

/-- What was told was told by some slot. -/
theorem pos_of_firstTold {o : MemberOptions} {ts : Topics} {slots slots' : List Slot} {x : Message}
    {i : Nat} (h : firstTold o ts slots = (some (x, i), slots')) : 0 < slots.length := by
  cases slots with
  | nil => cases h
  | cons s rest => exact Nat.succ_pos _

/-- For a member in bounds, no look fails and no circle is empty. -/
theorem Member.InBounds.checkedFetch_eq {m : Member} {ts : Topics} (h : m.InBounds ts) :
    m.checkedFetch ts = some (m.fetch ts) := by
  have hbehind := checkedFirstTold_eq fun s hs => h.slots s (List.mem_of_mem_drop (i := m.cursor) hs)
  have hbefore := checkedFirstTold_eq fun s hs => h.slots s (List.mem_of_mem_take (i := m.cursor) hs)
  unfold Member.checkedFetch Member.fetch
  dsimp only
  rw [hbehind, hbefore]
  cases hd : firstTold m.options ts (m.assignment.drop m.cursor) with
  | mk found behind =>
    cases found with
    | some found =>
      have hpos := pos_of_firstTold hd
      rw [List.length_drop] at hpos
      dsimp only
      rw [checkedMod_eq (by omega)]
      rfl
    | none =>
      dsimp only
      cases ht : firstTold m.options ts (m.assignment.take m.cursor) with
      | mk found before =>
        cases found with
        | some found =>
          have hpos := pos_of_firstTold ht
          rw [List.length_take] at hpos
          dsimp only
          rw [checkedMod_eq (by omega)]
          rfl
        | none => rfl

end ConsumerGroup
