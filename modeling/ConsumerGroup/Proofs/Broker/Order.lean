import ConsumerGroup.Proofs.Broker.Frame
import ConsumerGroup.Proofs.Broker.Reading

/-!
# In the order of the log

What is told of a partition from when its reading begins, latest first
(`InOrder`): records in the order of their numbers, and none left out but
for one that is no longer kept; the end, wherever it has come to; and the
refusal, once and last.

`Slot.Tells` is what carries this: it ties the place where a slot reads
next to what the slot has told. Nothing that becomes of the log disturbs
it (`Slot.Tells.mono`), and a look either tells what may come next, or
tells nothing (`Slot.Tells.look`).

What was told is compared with the log it was told of, and not with the log
as it is now: a record that was left out may have been dropped long since.
Nothing is said of partitions the member does not read.
-/

namespace ConsumerGroup

/-- A record that is kept lies between both ends of its log. -/
theorem Log.lt_high_of_get? {l : Log} {n : Nat} {r : StoredRecord} (h : l.get? n = some r) :
    l.low ≤ n ∧ n < l.high := by
  unfold get? at h
  split at h
  · cases h
  · next hlow =>
    have hlt := (List.getElem?_eq_some_iff.mp h).1
    unfold high
    omega

/-- Where nothing is kept, and the log does not begin later, it has ended. -/
theorem Log.high_le_of_get? {l : Log} {n : Nat} (h : l.get? n = none) (hn : l.low ≤ n) :
    l.high ≤ n := by
  unfold get? at h
  rw [if_neg (by omega), List.getElem?_eq_none_iff] at h
  unfold high
  omega

namespace Broker

variable {b : Broker} {p : Partition}

theorem watermarks_of_log? {l : Log} (h : b.log? p = some l) :
    b.watermarks p = .ok l.watermarks := by
  unfold watermarks log
  rw [h]
  rfl

/-- A partition without a log has no ends to tell. -/
theorem watermarks_of_none (h : b.log? p = none) :
    b.watermarks p = .error (.ofCode .unknownTopicOrPartition) := by
  unfold watermarks log
  rw [h]
  rfl

/-- Both ends are answered only of a log that is there. -/
theorem exists_log_of_watermarks {w : Watermarks} (h : b.watermarks p = .ok w) :
    ∃ l, b.log? p = some l ∧ w = l.watermarks := by
  cases hl : b.log? p with
  | none =>
    rw [watermarks_of_none hl] at h
    cases h
  | some l =>
    rw [watermarks_of_log? hl] at h
    cases h
    exact ⟨l, rfl, rfl⟩

end Broker

/-- A message about a partition, and the partition's log when it was
told. -/
structure Read where
  message : Message
  log : Log

namespace Read

/-- The number of the record that was told. -/
def record? (r : Read) : Option Int :=
  match r.message with
  | .record _ o _ _ => some o
  | _ => none

/-- The place where the partition was said to end. -/
def end? (r : Read) : Option Int := if r.message.isEnd then some r.message.offset else none

/-- Whether the partition was refused. -/
def isRefusal (r : Read) : Bool := r.message.code? == some .offsetOutOfRange

/-- The place behind the last record that was told, or else the place where
reading began. -/
def reached (start : Option Nat) (said : List Read) : Option Int :=
  match said.filterMap record? with
  | [] => start.map Int.ofNat
  | o :: _ => some (o + 1)

/-- To go on from one place to another: it is the same, or what was there
is no longer kept. Whoever begins at the beginning leaves out nothing that
is kept, and whoever refuses leaves out nothing. -/
structure GoesOn (policy : ResetPolicy) (l : Log) (q n : Int) : Prop where
  forward : q ≤ n
  gap : n = q ∨ q < l.low
  earliest : policy = .earliest → ∀ k, q ≤ k → k < n → k < l.low
  refuse : policy = .refuse → n = q

/-- What may be told after what was told before. -/
structure Follows (policy : ResetPolicy) (start : Option Nat) (said : List Read) (r : Read) : Prop where
  record : ∀ o, r.record? = some o → (∀ o' ∈ said.filterMap record?, o' < o) ∧
    ∃ q, reached start said = some q ∧ GoesOn policy r.log q o
  ends : ∀ o, r.end? = some o → o = r.log.high ∧ ∀ o' ∈ said.filterMap end?, o' < o
  refusal : r.isRefusal = true → policy = .refuse
  last : ∀ r' ∈ said, r'.isRefusal = false

end Read

open Read

/-- Everything that was told, latest first, followed what was told before
it. -/
def InOrder (policy : ResetPolicy) (start : Option Nat) : List Read → Prop
  | [] => True
  | r :: said => InOrder policy start said ∧ r.Follows policy start said

variable {policy : ResetPolicy} {start : Option Nat} {said : List Read} {l l' : Log}

namespace Read

/-- Reading goes on as well in a log that has moved on. -/
theorem GoesOn.mono {q n : Int} (h : GoesOn policy l q n) (hl : l.Leads l') :
    GoesOn policy l' q n where
  forward := h.forward
  gap := h.gap.imp_right fun hq => by have := hl.1; omega
  earliest hp k hq hk := by have := h.earliest hp k hq hk; have := hl.1; omega
  refuse := h.refuse

theorem goesOn_refl (policy : ResetPolicy) (l : Log) (q : Int) : GoesOn policy l q q where
  forward := Int.le_refl q
  gap := .inl rfl
  earliest _ k hq hk := by omega
  refuse _ := rfl

/-- A place that is no longer kept is given up for the one the policy
picks. -/
theorem GoesOn.place {q : Int} {n n' : Nat} (h : GoesOn policy l q n) (hn : n < l.low)
    (hp : policy.place? l = some n') : GoesOn policy l q n' ∧ n < n' ∧ n' ≤ l.high := by
  have hforward := h.forward
  have hlog := l.low_le_high
  cases policy with
  | earliest =>
    cases hp
    exact ⟨⟨by omega, .inr (by omega), fun _ k _ hk => hk, nofun⟩, hn, hlog⟩
  | latest =>
    cases hp
    exact ⟨⟨by omega, .inr (by omega), nofun, nofun⟩, by omega, Nat.le_refl _⟩
  | refuse => cases hp

end Read

/-! ## Slots -/

/-- No slot is left where nothing is kept any more. -/
theorem Slot.low_le_of_moved {s : Slot} {n : Nat} (h : (s.moved policy l).position = some n) :
    l.low ≤ n := by
  have hlog := l.low_le_high
  unfold Slot.moved at h
  split at h
  · split at h
    · cases policy with
      | earliest | latest => cases h; omega
      | refuse => cases h
    · next k hk hin =>
      cases hk.symm.trans h
      omega
  · next hnone =>
    rw [hnone] at h
    cases h

/-- Where a slot reads next, after what it has told. -/
structure Slot.Tells (policy : ResetPolicy) (start : Option Nat) (said : List Read) (l : Log)
    (s : Slot) : Prop where
  place : ∀ n, s.position = some n → n ≤ l.high ∧ (∀ o ∈ said.filterMap record?, o < n) ∧
    ∃ q, reached start said = some q ∧ GoesOn policy l q n
  ends : ∀ n, s.position = some n → ∀ o ∈ said.filterMap end?,
    o < n ∨ (s.endTold = true ∧ o = n)
  refused : s.position = none → policy = .refuse
  refusal : ∀ r ∈ said, r.isRefusal = true → s.position = none ∧ s.refusalTold = true

namespace Slot.Tells

variable {s : Slot} {o : MemberOptions}

/-- Nothing is told yet, and reading begins inside the log. -/
theorem begin {n? : Option Nat} (hs : s.position = n?) (hn : ∀ n, n? = some n → n ≤ l.high)
    (hr : n? = none → policy = .refuse) : s.Tells policy n? [] l where
  place n hp := by
    have hp : n? = some n := hs.symm.trans hp
    refine ⟨hn n hp, fun o ho => absurd ho List.not_mem_nil, n, ?_, goesOn_refl _ _ _⟩
    rw [hp]
    rfl
  ends _ _ o ho := absurd ho List.not_mem_nil
  refused hp := hr (hs.symm.trans hp)
  refusal r hr := absurd hr List.not_mem_nil

/-- Whatever becomes of the log, it has not told anything. -/
theorem mono (h : s.Tells policy start said l) (hl : l.Leads l') : s.Tells policy start said l' where
  place n hn :=
    have ⟨hhigh, hrecords, q, hq, hgoes⟩ := h.place n hn
    ⟨Nat.le_trans hhigh hl.2, hrecords, q, hq, hgoes.mono hl⟩
  ends := h.ends
  refused := h.refused
  refusal := h.refusal

/-- To give up a place outside the log tells nothing. -/
theorem moved (h : s.Tells policy start said l) : (s.moved policy l).Tells policy start said l := by
  unfold Slot.moved
  split
  · next n hn =>
    obtain ⟨hhigh, hrecords, q, hq, hgoes⟩ := h.place n hn
    split
    · next hout =>
      have hlow : n < l.low := by omega
      refine ⟨?_, ?_, ?_, ?_⟩
      · intro n' hn'
        obtain ⟨hgoes', hlt, hhigh'⟩ := hgoes.place hlow hn'
        refine ⟨hhigh', fun o ho => ?_, q, hq, hgoes'⟩
        have := hrecords o ho
        omega
      · intro n' hn' o ho
        obtain ⟨_, hlt, _⟩ := hgoes.place hlow hn'
        rcases h.ends n hn o ho with hlt' | ⟨_, rfl⟩
        · exact .inl (by omega)
        · exact .inl (by omega)
      · intro hnone
        cases policy with
        | refuse => rfl
        | earliest | latest => cases hnone
      · intro r hr hrefusal
        rw [(h.refusal r hr hrefusal).1] at hn
        cases hn
    · exact h
  · exact h

/-- A slot that has a place to read at has not refused. -/
theorem not_refused (h : s.Tells policy start said l) {n : Nat} (hp : s.position = some n) :
    ∀ r ∈ said, r.isRefusal = false := by
  intro r hr
  apply Bool.eq_false_iff.mpr
  intro hrefusal
  rw [(h.refusal r hr hrefusal).1] at hp
  cases hp

/-- The record that is told is the next, and the slot goes on behind it. -/
theorem record (h : s.Tells policy start said l) {n : Nat} (hp : s.position = some n)
    {x : Message} {key payload : Option (List UInt8)} (hx : x = .record s.partition n key payload)
    (hn : n < l.high) :
    Follows policy start said ⟨x, l⟩ ∧ Slot.Tells policy start (⟨x, l⟩ :: said) l
      { s with position := some (n + 1), endTold := false } := by
  subst hx
  obtain ⟨_, hrecords, hreached⟩ := h.place n hp
  refine ⟨⟨?_, nofun, nofun, h.not_refused hp⟩, ⟨?_, ?_, nofun, ?_⟩⟩
  · intro o ho
    cases ho
    exact ⟨hrecords, hreached⟩
  · intro n' hn'
    cases hn'
    refine ⟨hn, ?_, n + 1, rfl, goesOn_refl _ _ _⟩
    intro o ho
    rcases List.mem_cons.mp ho with rfl | ho
    · omega
    · have := hrecords o ho
      omega
  · intro n' hn' o ho
    cases hn'
    rcases h.ends n hp o ho with hlt | ⟨_, rfl⟩
    · exact .inl (by omega)
    · exact .inl (by omega)
  · intro r hr hrefusal
    rcases List.mem_cons.mp hr with rfl | hr
    · cases hrefusal
    · rw [h.not_refused hp r hr] at hrefusal
      cases hrefusal

/-- The end that is told is that of the log, and was not told before. -/
theorem atEnd (h : s.Tells policy start said l) (hp : s.position = some l.high)
    (ht : s.endTold = false) {x : Message} (hx : x = .atEnd s.partition l.high) :
    Follows policy start said ⟨x, l⟩ ∧
      Slot.Tells policy start (⟨x, l⟩ :: said) l { s with endTold := true } := by
  subst hx
  have hends : ∀ o ∈ said.filterMap end?, o < l.high := by
    intro o ho
    rcases h.ends _ hp o ho with hlt | ⟨htrue, _⟩
    · exact hlt
    · rw [ht] at htrue
      cases htrue
  refine ⟨⟨nofun, ?_, nofun, h.not_refused hp⟩, ⟨h.place, ?_, h.refused, ?_⟩⟩
  · intro o ho
    cases ho
    exact ⟨rfl, hends⟩
  · intro n hn o ho
    cases hp.symm.trans hn
    rcases List.mem_cons.mp ho with rfl | ho
    · exact .inr ⟨rfl, rfl⟩
    · exact .inl (hends o ho)
  · intro r hr hrefusal
    rcases List.mem_cons.mp hr with rfl | hr
    · cases hrefusal
    · exact h.refusal r hr hrefusal

/-- The refusal is told where there is no place to read at, and not
again. -/
theorem refuse (h : s.Tells policy start said l) (hp : s.position = none)
    (ht : s.refusalTold = false) {x : Message}
    (hx : x = .notify .offsetOutOfRange s.partition Offset.rawInvalid) :
    Follows policy start said ⟨x, l⟩ ∧
      Slot.Tells policy start (⟨x, l⟩ :: said) l { s with refusalTold := true } := by
  subst hx
  have hplace {n : Nat} (hn : s.position = some n) : False := by
    rw [hp] at hn
    cases hn
  refine ⟨⟨nofun, nofun, fun _ => h.refused hp, ?_⟩, ⟨?_, ?_, h.refused, ?_⟩⟩
  · intro r hr
    apply Bool.eq_false_iff.mpr
    intro hrefusal
    rw [(h.refusal r hr hrefusal).2] at ht
    cases ht
  · exact fun n hn => (hplace hn).elim
  · exact fun n hn => (hplace hn).elim
  · exact fun r hr hrefusal => ⟨hp, rfl⟩

/-- A slot inside its log tells what may come next, or nothing. -/
theorem told (h : s.Tells policy start said l) (hin : ∀ n, s.position = some n → l.low ≤ n)
    (announces : Bool) :
    match s.told announces l with
    | (some x, s') => Follows policy start said ⟨x, l⟩ ∧ s'.Tells policy start (⟨x, l⟩ :: said) l
    | (none, s') => s'.Tells policy start said l := by
  have ht := s.told_cases announces l
  generalize s.told announces l = t at ht
  cases ht with
  | refused => exact h
  | nothing => exact h
  | refusal hp ht => exact h.refuse hp ht rfl
  | record hp hr => exact h.record hp rfl (Log.lt_high_of_get? hr).2
  | @atEnd n hp hr ht =>
    have hhigh : n = l.high :=
      Nat.le_antisymm (h.place n hp).1 (Log.high_le_of_get? hr (hin n hp))
    subst hhigh
    exact h.atEnd hp ht rfl

/-- A look tells what may come next, or nothing. -/
theorem look (h : s.Tells o.reset start said l) {ts : Topics} (hl : ts.log? s.partition = some l) :
    match s.look o ts with
    | (some x, s') => Follows o.reset start said ⟨x, l⟩ ∧ s'.Tells o.reset start (⟨x, l⟩ :: said) l
    | (none, s') => s'.Tells o.reset start said l := by
  unfold Slot.look
  rw [hl]
  exact h.moved.told (fun n hn => Slot.low_le_of_moved hn) o.announcesEnd

end Slot.Tells

/-! ## Members -/

/-- What a member hears of a partition by a message, if there is one. -/
def readsOf (ts : Topics) (p : Partition) (found : Option Message) : List Read :=
  (found.filter (·.partition? == some p)).toList.map fun x => ⟨x, (ts.log? p).getD {}⟩

variable {ts ts' : Topics} {p : Partition}

/-- A message about the partition is one more read of it. -/
theorem readsOf_of_eq {x : Message} (hx : x.partition? = some p) (hl : ts.log? p = some l) :
    readsOf ts p (some x) = [⟨x, l⟩] := by
  simp [readsOf, hx, hl]

/-- A message about something else is none. -/
theorem readsOf_of_ne {found : Option Message} (h : ∀ x, found = some x → x.partition? ≠ some p) :
    readsOf ts p found = [] := by
  cases found with
  | none => rfl
  | some x => simp [readsOf, h x rfl]

/-- A member that reads a partition where it is to, after what it has
heard. -/
structure Member.Tells (policy : ResetPolicy) (start : Option Nat) (p : Partition)
    (said : List Read) (ts : Topics) (m : Member) : Prop where
  nodup : m.held.Nodup
  slots : ∀ s ∈ m.assignment, s.partition = p → m.options.reset = policy ∧
    ∃ l, ts.log? p = some l ∧ s.Tells policy start said l

namespace Member.Tells

variable {m m' : Member}

/-- Whoever reads nothing tells nothing out of order. -/
theorem of_nothing (h : m.assignment = []) : m.Tells policy start p said ts where
  nodup := by rw [held, h]; exact List.nodup_nil
  slots s hs := by rw [h] at hs; cases hs

/-- Nothing is heard yet of what was just assigned. -/
theorem begin {b : Broker} {k : PartitionList} (hk : k.partitions.Nodup)
    (hslots : b.slots m k = .ok m'.assignment) (ho : m'.options = m.options) :
    m'.Tells m.options.reset (m'.position? p) p [] b.topics := by
  have hn : m'.held.Nodup := by
    unfold held
    rwa [Broker.map_partition_slots hslots]
  refine ⟨hn, ?_⟩
  rintro s hs rfl
  obtain ⟨e, _, l, hl, hp, hposition⟩ := Broker.mem_slots hslots hs
  refine ⟨congrArg MemberOptions.reset ho, l, hp ▸ hl, ?_⟩
  rw [position?_of_mem hn hs]
  refine Slot.Tells.begin rfl ?_ ?_
  · intro n h
    exact (mem_log_of_startPosition (hposition.symm.trans h)).2
  · intro h
    exact refuse_of_startPosition (hposition.symm.trans h)

/-- A member goes on as before if it still reads the same. -/
theorem kept (h : m.Tells policy start p said ts) (hts : ts.Advances ts')
    (ho : m'.options = m.options) (ha : m'.assignment = m.assignment) :
    m'.Tells policy start p said ts' where
  nodup := by
    have hn := h.nodup
    unfold held at hn ⊢
    rwa [ha]
  slots s hs hp := by
    rw [ha] at hs
    obtain ⟨hreset, l, hl, htells⟩ := h.slots s hs hp
    obtain ⟨l', hl', hleads⟩ := hts p l hl
    rw [ho]
    exact ⟨hreset, l', hl', htells.mono hleads⟩

/-- What a member finds may come next, and the member goes on from
there. -/
theorem fetch (h : m.Tells policy start p said ts) (hs : InOrder policy start said) :
    InOrder policy start (readsOf ts p (m.fetch ts).1 ++ said) ∧
      (m.fetch ts).2.Tells policy start p (readsOf ts p (m.fetch ts).1 ++ said) ts := by
  -- what the slot of the partition has to tell
  have look {s : Slot} (hs : s ∈ m.assignment) (hp : s.partition = p) :
      ∃ l, ts.log? p = some l ∧ s.Tells policy start said l ∧
        match s.look m.options ts with
        | (some x, s') => Follows policy start said ⟨x, l⟩ ∧ s'.Tells policy start (⟨x, l⟩ :: said) l
        | (none, s') => s'.Tells policy start said l := by
    obtain ⟨rfl, l, hl, htells⟩ := h.slots s hs hp
    exact ⟨l, hl, htells, htells.look (hp ▸ hl)⟩
  refine ⟨?_, ?_, ?_⟩
  · by_cases hx : ∃ x, (m.fetch ts).1 = some x ∧ x.partition? = some p
    · obtain ⟨x, hx, hp⟩ := hx
      obtain ⟨s, hs', hlook⟩ := exists_slot_of_fetch hx
      have hsp : s.partition = p := Option.some.inj ((Slot.partition_of_look hlook).symm.trans hp)
      obtain ⟨l, hl, _, hfollows⟩ := look hs' hsp
      rw [hx, readsOf_of_eq hp hl]
      generalize s.look m.options ts = t at hlook hfollows
      obtain ⟨_, s'⟩ := t
      subst hlook
      exact ⟨hs, hfollows.1⟩
    · rw [readsOf_of_ne fun x hfetch hp => hx ⟨x, hfetch, hp⟩]
      exact hs
  · rw [held_fetch]
    exact h.nodup
  · intro s' hs' hp
    obtain ⟨s, hs, hsp, ⟨rfl, x, hlook, hx⟩ | ⟨hquiet, hother⟩⟩ := slot_fetch h.nodup hs'
    all_goals
      have hsp := hsp.trans hp
      rw [m.fetch_frame]
      refine ⟨(h.slots s hs hsp).1, ?_⟩
      obtain ⟨l, hl, hbefore, hafter⟩ := look hs hsp
      refine ⟨l, hl, ?_⟩
    · have hxp : x.partition? = some p := (Slot.partition_of_look hlook).trans (congrArg some hsp)
      rw [hx, readsOf_of_eq hxp hl]
      generalize s.look m.options ts = t at hlook hafter
      obtain ⟨_, s'⟩ := t
      subst hlook
      exact hafter.2
    · rw [readsOf_of_ne fun x hx => hp ▸ hother x hx]
      rcases hquiet with rfl | ⟨hnone, rfl⟩
      · exact hbefore
      · generalize s.look m.options ts = t at hnone hafter
        obtain ⟨_, s'⟩ := t
        subst hnone
        exact hafter

end Member.Tells

end ConsumerGroup
