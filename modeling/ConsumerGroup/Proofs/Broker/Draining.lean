import ConsumerGroup.Proofs.Broker.Circle
import ConsumerGroup.Proofs.Broker.Rest

/-!
# What is left to tell

As long as nothing else happens, what a member will be told is settled.
Each partition it reads is due some messages (`Slot.due`): the records from
its place on, and one notice of the end if that is news; or one notice that
it was refused. The member is told them in turns, the partitions taken in
its circle (`Member.leftToTell`).

A fetch brings the first of these messages and leaves the rest
(`Member.InBounds.fetch_leftToTell`). A partition that is due nothing is just one
that is not ready (`Slot.due_eq_nil_iff`).

A partition that is served comes last in the circle and is due the rest of
its messages, which is just how lists are told in rounds (`inRounds_cons`).
In between nothing may change: neither the topics, nor what the member
reads, nor what waits for it.
-/

namespace ConsumerGroup

/-- Gives notice that a partition has been refused. -/
def Message.refusal (p : Partition) : Message :=
  .notice .offsetOutOfRange rfl p Offset.rawInvalid

theorem Message.notify_refusal (p : Partition) :
    notify .offsetOutOfRange p Offset.rawInvalid = refusal p := dif_pos rfl

/-! ## The records from a place on -/

namespace Log

variable {l : Log} {p : Partition} {n : Nat}

/-- The records of a partition's log from a place on, as messages. -/
def messages (l : Log) (p : Partition) (n : Nat) : List Message :=
  (l.records.drop (n - l.low)).mapIdx fun i r =>
    .record p ((n + i : Nat) : Int) r.key r.payload

/-- From a record on, a log has that to tell and then what comes behind it. -/
theorem messages_of_get? {r : StoredRecord} (h : l.get? n = some r) :
    l.messages p n = .record p n r.key r.payload :: l.messages p (n + 1) := by
  obtain ⟨hlow, _⟩ := lt_high_of_get? h
  have hr : l.records[n - l.low]? = some r := by
    unfold get? at h
    rwa [if_neg (by omega)] at h
  obtain ⟨hlt, hr⟩ := List.getElem?_eq_some_iff.mp hr
  have hnext : n + 1 - l.low = n - l.low + 1 := by omega
  unfold messages
  rw [List.drop_eq_getElem_cons hlt, hr, hnext, List.mapIdx_cons]
  have hshift : (fun (i : Nat) (r : StoredRecord) =>
      Message.record p ((n + (i + 1) : Nat) : Int) r.key r.payload) =
      fun i r => .record p ((n + 1 + i : Nat) : Int) r.key r.payload := by
    funext i r
    rw [Nat.add_assoc, Nat.add_comm 1]
  rw [hshift]
  rfl

/-- Where a log has no record, and does not begin later, there is nothing more
to read. -/
theorem messages_of_none (h : l.get? n = none) (hlow : l.low ≤ n) : l.messages p n = [] := by
  have hhigh := high_le_of_get? h hlow
  unfold high at hhigh
  unfold messages
  rw [List.drop_eq_nil_of_le (by omega), List.mapIdx_nil]

/-- A log has nothing more to read just where the next record is missing. -/
theorem messages_eq_nil_iff (hlow : l.low ≤ n) : l.messages p n = [] ↔ l.get? n = none := by
  constructor
  · intro h
    cases hr : l.get? n with
    | none => rfl
    | some r =>
      rw [messages_of_get? hr] at h
      cases h
  · intro h
    exact messages_of_none h hlow

end Log

/-! ## What a partition is due -/

namespace Slot

variable {o : MemberOptions} {ts : Topics} {l : Log} {s : Slot}

/-- The records at the place have been dropped. -/
def cutOff (l : Log) (s : Slot) : Bool := s.position.any (· < l.low)

/-- Where the partition is read on: at its place, or where the policy says
if the records there have been dropped. -/
def place? (policy : ResetPolicy) (l : Log) (s : Slot) : Option Nat :=
  if s.cutOff l then policy.place? l else s.position

/-- The messages a partition has to tell, in their order: its records from
where it is read on, and then its end, if that is announced and there was a
record, the place was cut off or the end had not been told; or else that it
was refused, unless that had been told. -/
def due (o : MemberOptions) (ts : Topics) (s : Slot) : List Message :=
  match ts.log? s.partition with
  | none => []
  | some l =>
    match s.place? o.reset l with
    | some n =>
      l.messages s.partition n ++
        if o.announcesEnd ∧ (l.messages s.partition n ≠ [] ∨ s.cutOff l ∨ ¬ s.endTold) then
          [.atEnd s.partition l.high]
        else []
    | none => if s.refusalTold then [] else [.refusal s.partition]

/-- A partition is ready: there is a record where it is read on, or an end
that is announced and has not been told since the place was cut off or a
record was read, or a refusal that has not been told. -/
def Ready (o : MemberOptions) (ts : Topics) (s : Slot) : Prop :=
  ∃ l, ts.log? s.partition = some l ∧
    match s.place? o.reset l with
    | some n => (l.get? n).isSome ∨ (o.announcesEnd = true ∧ (s.cutOff l ∨ ¬ s.endTold))
    | none => s.refusalTold = false

/-- A slot within its log moves to the place its policy picks for it, and
forgets that the end was told if it had to move. -/
theorem moved_eq (h : s.Within o.reset l) :
    s.moved o.reset l = { s with
      position := s.place? o.reset l, endTold := s.endTold && !s.cutOff l } := by
  obtain ⟨p, position, endTold, refusalTold⟩ := s
  unfold moved place? cutOff
  cases position with
  | none => simp
  | some n =>
    have hhigh : n ≤ l.high := h.place n rfl
    by_cases hlow : n < l.low
    · simp [hlow]
    · simp [hlow, Nat.not_lt.mpr hhigh]

/-- A slot inside its log. -/
def Inside (l : Log) (s : Slot) : Prop := ∀ n, s.position = some n → l.low ≤ n ∧ n ≤ l.high

/-- What lies inside the log has not been cut off. -/
theorem Inside.cutOff (h : s.Inside l) : s.cutOff l = false := by
  unfold Slot.cutOff
  cases hp : s.position with
  | none => rfl
  | some n =>
    have := (h n hp).1
    simp [this]

/-- A slot inside its log stays where it is. -/
theorem Inside.place? (h : s.Inside l) (policy : ResetPolicy) : s.place? policy l = s.position := by
  unfold Slot.place?
  rw [h.cutOff]
  exact if_neg Bool.false_ne_true

/-- Inside the log the end is news unless it has been told. -/
theorem Inside.due_eq (h : s.Inside l) (hl : ts.log? s.partition = some l) :
    s.due o ts =
      match s.position with
      | some n =>
        l.messages s.partition n ++
          if o.announcesEnd ∧ (l.messages s.partition n ≠ [] ∨ ¬ s.endTold) then
            [.atEnd s.partition l.high]
          else []
      | none => if s.refusalTold then [] else [.refusal s.partition] := by
  unfold due
  rw [hl]
  dsimp only
  rw [h.place?, h.cutOff]
  simp only [Bool.false_eq_true, false_or]

/-- A slot that has moved is inside its log. -/
theorem inside_moved : (s.moved o.reset l).Inside l := fun _ => inside_of_moved

/-- To be moved changes nothing about what is due. -/
theorem due_moved (hl : ts.log? s.partition = some l) (h : s.Within o.reset l) :
    (s.moved o.reset l).due o ts = s.due o ts := by
  have hl' : ts.log? (s.moved o.reset l).partition = some l := by rwa [partition_moved]
  rw [inside_moved.due_eq hl', moved_eq h]
  unfold due
  rw [hl]
  dsimp only
  cases s.cutOff l <;> simp

section Told

variable {p : Partition} {n : Nat} {endTold refusalTold : Bool}

/-- A refused partition is due one message, the refusal, and none once that
has been told. -/
theorem due_refused (hl : ts.log? p = some l) :
    due o ts ⟨p, none, endTold, refusalTold⟩ = if refusalTold then [] else [.refusal p] :=
  Inside.due_eq (s := ⟨p, none, endTold, refusalTold⟩) nofun hl

/-- From a place inside the log a partition is due the records from there on,
and then its end, unless that was told and there are no records. -/
theorem due_inside (hl : ts.log? p = some l) (hn : l.low ≤ n ∧ n ≤ l.high) :
    due o ts ⟨p, some n, endTold, refusalTold⟩ = l.messages p n ++
      if o.announcesEnd ∧ (l.messages p n ≠ [] ∨ ¬ endTold) then [.atEnd p l.high] else [] :=
  Inside.due_eq (s := ⟨p, some n, endTold, refusalTold⟩) (fun _ h => Option.some.inj h ▸ hn) hl

/-- Where there is a record, a partition is due that and then what is due
behind it. -/
theorem due_record {r : StoredRecord} (hl : ts.log? p = some l) (hr : l.get? n = some r) :
    due o ts ⟨p, some n, endTold, refusalTold⟩ =
      .record p n r.key r.payload :: due o ts ⟨p, some (n + 1), false, refusalTold⟩ := by
  obtain ⟨hlow, hhigh⟩ := Log.lt_high_of_get? hr
  rw [due_inside hl ⟨hlow, Nat.le_of_lt hhigh⟩, due_inside hl ⟨Nat.le_succ_of_le hlow, hhigh⟩,
    Log.messages_of_get? hr]
  simp

/-- At the end of the log a partition is due only the end, and only once. -/
theorem due_end (hl : ts.log? p = some l) (hn : l.low ≤ n ∧ n ≤ l.high) (hr : l.get? n = none) :
    due o ts ⟨p, some n, endTold, refusalTold⟩ =
      if o.announcesEnd ∧ ¬ endTold then [.atEnd p n] else [] := by
  have hend : n = l.high := Nat.le_antisymm hn.2 (Log.high_le_of_get? hr hn.1)
  rw [due_inside hl hn, Log.messages_of_none hr hn.1, ← hend]
  simp

end Told

/-- A slot inside its log tells the first message it is due, and is due the
others afterwards. -/
theorem Inside.told (h : s.Inside l) (hl : ts.log? s.partition = some l) :
    (s.told o.announcesEnd l).1 = (s.due o ts).head? ∧
      (s.told o.announcesEnd l).2.due o ts = (s.due o ts).tail := by
  obtain ⟨p, position, endTold, refusalTold⟩ := s
  unfold Slot.told
  cases position with
  | none =>
    cases refusalTold with
    | true => simp [due_refused hl]
    | false => simp [due_refused hl, Message.notify_refusal]
  | some n =>
    have hn := h n rfl
    dsimp only
    cases hr : l.get? n with
    | some r => simp [due_record hl hr]
    | none =>
      cases endTold <;> cases ha : o.announcesEnd <;> simp [due_end hl hn hr, ha]

/-- A look brings the first message a partition is due, and leaves it the
others. -/
theorem InBounds.look_due (h : s.InBounds o.reset ts) :
    (s.look o ts).1 = (s.due o ts).head? ∧ (s.look o ts).2.due o ts = (s.due o ts).tail := by
  obtain ⟨l, hl, hwithin⟩ := h
  have hl' : ts.log? (s.moved o.reset l).partition = some l := by rwa [partition_moved]
  rw [look_of_log hl, ← due_moved hl hwithin]
  exact inside_moved.told hl'

/-- The place that a slot moves to is not before the log begins. -/
theorem low_le_place? {n : Nat} (h : s.place? o.reset l = some n) : l.low ≤ n := by
  unfold place? at h
  split at h
  · exact (ResetPolicy.mem_log_of_place? h).1
  · next hcut =>
    unfold cutOff at hcut
    rw [h] at hcut
    simpa using hcut

/-- Nothing is due just where a partition is not ready. -/
theorem due_eq_nil_iff : s.due o ts = [] ↔ ¬ s.Ready o ts := by
  unfold due Ready
  cases hl : ts.log? s.partition with
  | none => simp
  | some l =>
    dsimp only
    cases hp : s.place? o.reset l with
    | none => simp [hp]
    | some n =>
      have hnil := Log.messages_eq_nil_iff (l := l) (p := s.partition) (low_le_place? hp)
      simp only [Option.some.injEq, exists_eq_left', hp, List.append_eq_nil_iff, hnil]
      cases hr : l.get? n with
      | none =>
        rw [hnil.mpr hr]
        simp
      | some r => simp

/-- Whatever is due to a partition is about it. -/
theorem partition_of_mem_due {x : Message} (h : x ∈ s.due o ts) :
    x.partition? = some s.partition := by
  unfold due at h
  split at h
  · cases h
  · next l _ =>
    split at h
    · rcases List.mem_append.mp h with h | h
      · unfold Log.messages at h
        obtain ⟨i, hi, rfl⟩ := List.mem_mapIdx.mp h
        rfl
      · split at h
        · rw [List.mem_singleton] at h
          rw [h]
          rfl
        · cases h
    · split at h
      · cases h
      · rw [List.mem_singleton] at h
        rw [h]
        rfl

end Slot

/-! ## In turns -/

section InRounds

variable {α : Type} {l : List α} {ls before behind : List (List α)} {n : Nat}

/-- The first of each list, then the second of each, and so on for a number
of turns; a list that has none left is passed over. -/
def rounds (n : Nat) (ls : List (List α)) : List α :=
  (List.range n).flatMap fun i => ls.filterMap (·[i]?)

/-- Everything in the lists, in turns. -/
def inRounds (ls : List (List α)) : List α := rounds ls.flatten.length ls

/-- One round more is told after the rounds before it. -/
theorem rounds_succ (n : Nat) (ls : List (List α)) :
    rounds (n + 1) ls = rounds n ls ++ ls.filterMap (·[n]?) := by
  unfold rounds
  rw [List.range_succ, List.flatMap_append, List.flatMap_singleton]

/-- When the lists have come to their ends there is nothing more. -/
theorem rounds_of_le (h : ∀ l ∈ ls, l.length ≤ n) (k : Nat) : rounds (n + k) ls = rounds n ls := by
  induction k with
  | zero => rfl
  | succ k ih =>
    have hnone : ls.filterMap (·[n + k]?) = [] := by
      rw [List.filterMap_eq_nil_iff]
      intro l hl
      exact List.getElem?_eq_none (Nat.le_trans (h l hl) (Nat.le_add_right n k))
    rw [← Nat.add_assoc, rounds_succ, ih, hnone, List.append_nil]

/-- As many rounds are enough as the longest list has entries. -/
theorem inRounds_eq (h : ∀ l ∈ ls, l.length ≤ n) : inRounds ls = rounds n ls := by
  have hsum : ∀ l ∈ ls, l.length ≤ ls.flatten.length := fun l hl =>
    (List.sublist_flatten_of_mem hl).length_le
  unfold inRounds
  rw [← rounds_of_le hsum n, Nat.add_comm, rounds_of_le h]

/-- Whoever has had the first turn has the last turn next. -/
theorem rounds_cons (n : Nat) (l : List α) (ls : List (List α)) :
    l.head?.toList ++ rounds n (ls ++ [l.tail]) = rounds n (l :: ls) ++ l[n]?.toList := by
  induction n with
  | zero => cases l <;> rfl
  | succ n ih =>
    have hfirst : (l :: ls).filterMap (·[n]?) = l[n]?.toList ++ ls.filterMap (·[n]?) := by
      rw [List.filterMap_cons]
      cases l[n]? <;> rfl
    have hlast : (ls ++ [l.tail]).filterMap (·[n]?) = ls.filterMap (·[n]?) ++ l[n + 1]?.toList := by
      rw [List.filterMap_append, List.filterMap_cons, List.getElem?_tail]
      cases l[n + 1]? <;> rfl
    rw [rounds_succ, rounds_succ, ← List.append_assoc, ih, hfirst, hlast]
    simp only [List.append_assoc]

/-- To tell lists in rounds is to tell what comes first in the first list, and
to go on with the rest of it behind all others. -/
theorem inRounds_cons (l : List α) (ls : List (List α)) :
    inRounds (l :: ls) = l.head?.toList ++ inRounds (ls ++ [l.tail]) := by
  have hlength : ∀ k ∈ l :: ls, k.length ≤ (l :: ls).flatten.length := fun k hk =>
    (List.sublist_flatten_of_mem hk).length_le
  have hrest : ∀ k ∈ ls ++ [l.tail], k.length ≤ (l :: ls).flatten.length := by
    intro k hk
    rcases List.mem_append.mp hk with hk | hk
    · exact hlength k (List.mem_cons_of_mem _ hk)
    · rw [List.mem_singleton.mp hk, List.length_tail]
      exact Nat.le_trans (Nat.sub_le _ _) (hlength l List.mem_cons_self)
  have hover : l[(l :: ls).flatten.length]?.toList = [] := by
    rw [List.getElem?_eq_none (hlength l List.mem_cons_self)]
    rfl
  rw [inRounds_eq hlength, inRounds_eq hrest, rounds_cons, hover, List.append_nil]

/-- Whoever has nothing is passed over, and whoever has had a turn is last. -/
theorem inRounds_append_cons {x : α} (h : ∀ l ∈ before, l = []) :
    inRounds (before ++ (x :: l) :: behind) = x :: inRounds (behind ++ before ++ [l]) := by
  induction before generalizing behind with
  | nil =>
    rw [List.nil_append, inRounds_cons, List.append_nil]
    rfl
  | cons k before ih =>
    obtain ⟨rfl, hbefore⟩ := List.forall_mem_cons.mp h
    rw [List.cons_append, inRounds_cons, List.append_assoc, List.cons_append, List.tail_nil,
      ih hbefore]
    simp

theorem inRounds_of_nil (h : ∀ l ∈ ls, l = []) : inRounds ls = [] := by
  have hlength : ∀ l ∈ ls, l.length ≤ 0 := fun l hl => by rw [h l hl]; exact Nat.le_refl 0
  rw [inRounds_eq hlength]
  rfl

/-- What is told in rounds is what the lists have, and nothing else. -/
theorem mem_inRounds {x : α} : x ∈ inRounds ls ↔ ∃ l ∈ ls, x ∈ l := by
  have hlength : ∀ l ∈ ls, l.length ≤ ls.flatten.length := fun l hl =>
    (List.sublist_flatten_of_mem hl).length_le
  unfold inRounds rounds
  simp only [List.mem_flatMap, List.mem_range, List.mem_filterMap]
  constructor
  · rintro ⟨i, _, l, hl, hx⟩
    exact ⟨l, hl, List.mem_of_getElem? hx⟩
  · rintro ⟨l, hl, hx⟩
    obtain ⟨i, hi, rfl⟩ := List.getElem_of_mem hx
    exact ⟨i, Nat.lt_of_lt_of_le hi (hlength l hl), l, hl, List.getElem?_eq_getElem hi⟩

/-- Of what is taken in turns, what is one list's is that list. -/
theorem filter_inRounds {p : α → Bool} (hl : ∀ x ∈ l, p x = true)
    (hbefore : ∀ k ∈ before, ∀ x ∈ k, p x = false) (hbehind : ∀ k ∈ behind, ∀ x ∈ k, p x = false) :
    (inRounds (before ++ l :: behind)).filter p = l := by
  have hnone {ks : List (List α)} (h : ∀ k ∈ ks, ∀ x ∈ k, p x = false) (i : Nat) :
      (ks.filterMap (·[i]?)).filter p = [] := by
    rw [List.filter_eq_nil_iff]
    intro x hx
    obtain ⟨k, hk, hx⟩ := List.mem_filterMap.mp hx
    exact Bool.eq_false_iff.mp (h k hk x (List.mem_of_getElem? hx))
  have hsome (i : Nat) : ((before ++ l :: behind).filterMap (·[i]?)).filter p = l[i]?.toList := by
    rw [List.filterMap_append, List.filter_append, hnone hbefore, List.filterMap_cons]
    cases hx : l[i]? with
    | none => exact hnone hbehind i
    | some x =>
      dsimp only
      rw [List.filter_cons_of_pos (hl x (List.mem_of_getElem? hx)), hnone hbehind]
      rfl
  have htaken (n : Nat) : (List.range n).flatMap (l[·]?.toList) = l.take n := by
    induction n with
    | zero => rfl
    | succ n ih =>
      rw [List.range_succ, List.flatMap_append, List.flatMap_singleton, ih, List.take_add_one]
  have hlength : l.length ≤ (before ++ l :: behind).flatten.length :=
    (List.sublist_flatten_of_mem (by simp)).length_le
  unfold inRounds rounds
  rw [List.filter_flatMap]
  simp only [hsome]
  rw [htaken, List.take_of_length_le hlength]

end InRounds

/-! ## What a member is left to tell -/

namespace Member

variable {m : Member} {ts : Topics}

/-- The messages the member will be told as long as nothing else happens:
what its partitions are due, in turns, as they stand in its circle. -/
def leftToTell (m : Member) (ts : Topics) : List Message :=
  inRounds (m.circle.map (Slot.due m.options ts))

/-- To look for a message leaves a member's options alone. -/
theorem options_fetch (m : Member) (ts : Topics) : (m.fetch ts).2.options = m.options := by
  rw [m.fetch_frame]

/-- A fetch brings the first message that is left to tell, and leaves the
others. -/
theorem InBounds.fetch_leftToTell (h : m.InBounds ts) :
    (m.fetch ts).1 = (m.leftToTell ts).head? ∧
      (m.fetch ts).2.leftToTell ts = (m.leftToTell ts).tail := by
  have hslots : ∀ s ∈ m.circle, s.InBounds m.options.reset ts := fun s hs =>
    h.slots s (mem_circle.mp hs)
  have hserved := circle_fetch h.cursor_le ts
  unfold leftToTell
  rw [options_fetch]
  generalize (m.fetch ts).1 = found at hserved ⊢
  generalize (m.fetch ts).2.circle = circle at hserved ⊢
  -- whoever has nothing to tell is due nothing, before the look and after it
  have hquiet {q : Slot} (hq : q ∈ m.circle) (hnone : (q.look m.options ts).1 = none) :
      q.due m.options ts = [] ∧ (q.look m.options ts).2.due m.options ts = [] := by
    obtain ⟨hhead, htail⟩ := (hslots q hq).look_due
    have hnil := List.head?_eq_none_iff.mp (hhead.symm.trans hnone)
    rw [htail, hnil]
    exact ⟨rfl, rfl⟩
  cases hserved with
  | @told before behind s x hc hq hx =>
    rw [hc] at hslots hquiet ⊢
    obtain ⟨hhead, htail⟩ := (hslots s (by simp)).look_due
    have hs : s.due m.options ts = x :: (s.due m.options ts).tail :=
      (List.cons_head?_tail (hhead.symm.trans hx)).symm
    have hbefore : ∀ k ∈ before.map (Slot.due m.options ts), k = [] := by
      intro k hk
      obtain ⟨q, hmem, rfl⟩ := List.mem_map.mp hk
      exact (hquiet (List.mem_append_left _ hmem) (hq q hmem)).1
    have hlooked : before.map (fun q => (q.look m.options ts).2.due m.options ts) =
        before.map (Slot.due m.options ts) :=
      List.map_congr_left fun q hmem => by
        obtain ⟨hnil, hnil'⟩ := hquiet (List.mem_append_left _ hmem) (hq q hmem)
        rw [hnil, hnil']
    rw [List.map_append, List.map_cons, hs, inRounds_append_cons hbefore]
    refine ⟨rfl, ?_⟩
    simp only [List.map_append, List.map_cons, List.map_nil, List.map_map, Function.comp_def,
      hlooked, htail, List.tail_cons]
  | nothing hq =>
    have hnil : ∀ k ∈ m.circle.map (Slot.due m.options ts), k = [] := by
      intro k hk
      obtain ⟨q, hmem, rfl⟩ := List.mem_map.mp hk
      exact (hquiet hmem (hq q hmem)).1
    have hnil' : ∀ k ∈ (m.circle.map fun q => (q.look m.options ts).2).map
        (Slot.due m.options ts), k = [] := by
      intro k hk
      rw [List.map_map] at hk
      obtain ⟨q, hmem, rfl⟩ := List.mem_map.mp hk
      exact (hquiet hmem (hq q hmem)).2
    rw [inRounds_of_nil hnil, inRounds_of_nil hnil']
    exact ⟨rfl, rfl⟩

/-- Nothing is left to tell just where no partition is ready. -/
theorem leftToTell_eq_nil_iff :
    m.leftToTell ts = [] ↔ ∀ s ∈ m.assignment, ¬ s.Ready m.options ts := by
  unfold leftToTell
  rw [List.eq_nil_iff_forall_not_mem]
  simp only [← Slot.due_eq_nil_iff, List.eq_nil_iff_forall_not_mem, mem_inRounds]
  constructor
  · intro h s hs x hx
    exact h x ⟨_, List.mem_map_of_mem (mem_circle.mpr hs), hx⟩
  · rintro h x ⟨_, hk, hx⟩
    obtain ⟨s, hs, rfl⟩ := List.mem_map.mp hk
    exact h s (mem_circle.mp hs) x hx

/-- Of what is left to tell, what is about one partition is what that
partition is due. -/
theorem InBounds.filter_leftToTell (h : m.InBounds ts) {s : Slot} (hs : s ∈ m.assignment) :
    (m.leftToTell ts).filter (·.partition? = some s.partition) = s.due m.options ts := by
  obtain ⟨before, behind, hc⟩ := List.append_of_mem (mem_circle.mpr hs)
  have hnodup : (m.circle.map (·.partition)).Nodup := by
    unfold circle
    rw [List.map_rotate, List.nodup_rotate]
    exact h.nodup
  rw [hc, List.map_append, List.map_cons] at hnodup
  have hother {q : Slot} (hne : q.partition ≠ s.partition) :
      ∀ x ∈ q.due m.options ts, decide (x.partition? = some s.partition) = false := by
    intro x hx
    rw [Slot.partition_of_mem_due hx]
    exact decide_eq_false fun he => hne (Option.some.inj he)
  unfold leftToTell
  rw [hc, List.map_append, List.map_cons]
  apply filter_inRounds
  · intro x hx
    exact decide_eq_true (Slot.partition_of_mem_due hx)
  · intro k hk
    obtain ⟨q, hq, rfl⟩ := List.mem_map.mp hk
    refine hother fun he => ?_
    exact (List.nodup_append.mp hnodup).2.2 _ (List.mem_map_of_mem hq) _ List.mem_cons_self he
  · intro k hk
    obtain ⟨q, hq, rfl⟩ := List.mem_map.mp hk
    refine hother fun he => ?_
    exact (List.nodup_cons.mp (List.nodup_append.mp hnodup).2.1).1 (he ▸ List.mem_map_of_mem hq)

end Member

end ConsumerGroup
