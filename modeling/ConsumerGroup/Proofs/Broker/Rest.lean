import ConsumerGroup.Proofs.Broker.Order

/-!
# Slots and members at rest

A slot that has nothing to tell rests (`Slot.Resting`): its refusal has
been told, or it has come to the end of its log, and has told that too if
it is to. Where the log begins makes no difference to a slot that rests,
and neither to one that would only come to rest by a look. So a member
that finds nothing goes on finding nothing while logs only lose records
(`Member.next_none_mono`), as long as it reads nothing but what is there
(`Member.Grounded`); and once it has looked, another look would change
nothing (`Member.Idle`).

The topics may only recede here: logs stay, end where they did, and may
begin later. A record that is written, or a notification, may well end the
rest.
-/

namespace ConsumerGroup

/-- Logs stay and end where they did; they may begin later. -/
def Topics.Recedes (ts ts' : Topics) : Prop :=
  ∀ p l, ts.log? p = some l → ∃ l', ts'.log? p = some l' ∧ l.low ≤ l'.low ∧ l'.high = l.high

theorem Topics.Recedes.refl (ts : Topics) : ts.Recedes ts := fun _ l h => ⟨l, h, Nat.le_refl _, rfl⟩

/-- The next record is not there yet. -/
theorem Log.get?_high (l : Log) : l.get? l.high = none := by
  cases h : l.get? l.high with
  | none => rfl
  | some r =>
    have := lt_high_of_get? h
    omega

/-! ## Slots that rest -/

namespace Slot

variable {o : MemberOptions} {ts ts' : Topics} {announces : Bool} {policy : ResetPolicy}
  {l l' : Log} {s : Slot}

/-- A slot with nothing to tell: it has been refused and has told so, or it
has come to the end of its log, and has told so if it is to. -/
def Resting (announces : Bool) (l : Log) (s : Slot) : Prop :=
  match s.position with
  | none => s.refusalTold = true
  | some n => n = l.high ∧ (announces = true → s.endTold = true)

/-- A refused slot rests once the refusal has been told. -/
theorem resting_of_none (hp : s.position = none) : s.Resting announces l ↔ s.refusalTold = true := by
  unfold Resting
  rw [hp]

/-- Any other slot rests at the end of its log, once that has been told if it
is to be. -/
theorem resting_of_some {n : Nat} (hp : s.position = some n) :
    s.Resting announces l ↔ n = l.high ∧ (announces = true → s.endTold = true) := by
  unfold Resting
  rw [hp]

/-- Nothing is told by a slot that rests. -/
theorem told_of_resting (h : s.Resting announces l) : s.told announces l = (none, s) := by
  unfold told
  cases hp : s.position with
  | none =>
    rw [resting_of_none hp] at h
    simp [h]
  | some n =>
    rw [resting_of_some hp] at h
    obtain ⟨rfl, hend⟩ := h
    dsimp only
    rw [l.get?_high]
    dsimp only
    rw [if_neg fun ht => ht.2 (hend ht.1)]

/-- Nothing is told inside a log but by a slot that rests. -/
theorem resting_of_told (hin : ∀ n, s.position = some n → l.low ≤ n ∧ n ≤ l.high)
    (h : (s.told announces l).1 = none) : s.Resting announces l := by
  unfold told at h
  cases hp : s.position with
  | none =>
    rw [resting_of_none hp]
    by_contra hr
    simp [hp, hr] at h
  | some n =>
    rw [resting_of_some hp]
    obtain ⟨hlow, hhigh⟩ := hin n hp
    rw [hp] at h
    dsimp only at h
    cases hr : l.get? n with
    | some r =>
      rw [hr] at h
      cases h
    | none =>
      rw [hr] at h
      have := Log.high_le_of_get? hr hlow
      refine ⟨by omega, fun ha => ?_⟩
      by_contra hend
      simp [ha, hend] at h

/-- A slot that has been moved is inside its log. -/
theorem inside_of_moved {n : Nat} (h : (s.moved policy l).position = some n) :
    l.low ≤ n ∧ n ≤ l.high := by
  unfold moved at h
  split at h
  · next k hk =>
    split at h
    · exact ResetPolicy.mem_log_of_place? h
    · cases hk.symm.trans h
      omega
  · next hnone => cases hnone.symm.trans h

/-- A slot that rests is not moved. -/
theorem moved_of_resting (h : s.Resting announces l) : s.moved policy l = s := by
  have hlog := l.low_le_high
  unfold moved
  split
  · next n hp =>
    rw [resting_of_some hp] at h
    exact if_neg (by omega)
  · rfl

/-- A slot that rests goes on resting when its log loses records. -/
theorem Resting.mono (h : s.Resting announces l) (hhigh : l'.high = l.high) :
    s.Resting announces l' := by
  unfold Resting at h ⊢
  rw [hhigh]
  exact h

/-- A slot that a look would bring to rest still is such a one when its log
loses records: if it was outside the log it still is, and is still brought
to an end that nothing comes before. -/
theorem Resting.moved_mono (h : (s.moved policy l).Resting announces l) (hlow : l.low ≤ l'.low)
    (hhigh : l'.high = l.high) : (s.moved policy l').Resting announces l' := by
  have hlog' := l'.low_le_high
  cases hp : s.position with
  | none =>
    have hmoved (k : Log) : s.moved policy k = s := by
      unfold moved
      rw [hp]
    rw [hmoved] at h ⊢
    exact h.mono hhigh
  | some n =>
    by_cases hout : n < l.low ∨ l.high < n
    · have hmoved {k : Log} (hk : n < k.low ∨ k.high < n) :
          s.moved policy k = { s with position := policy.place? k, endTold := false } := by
        unfold moved
        rw [hp]
        exact if_pos hk
      have hout' : n < l'.low ∨ l'.high < n := by omega
      rw [hmoved hout] at h
      rw [hmoved hout']
      cases policy with
      | earliest =>
        rw [resting_of_some rfl] at h ⊢
        exact ⟨by omega, h.2⟩
      | latest =>
        rw [resting_of_some rfl] at h ⊢
        exact ⟨rfl, h.2⟩
      | refuse => exact h
    · have hmoved : s.moved policy l = s := by
        unfold moved
        rw [hp]
        exact if_neg hout
      rw [hmoved] at h
      have h' := h.mono hhigh
      rwa [moved_of_resting h']

theorem look_of_log (hl : ts.log? s.partition = some l) :
    s.look o ts = (s.moved o.reset l).told o.announcesEnd l := by
  unfold look
  rw [hl]

/-- A slot has nothing to tell just where it rests once it has moved inside
its log. -/
theorem look_none_iff (hl : ts.log? s.partition = some l) :
    (s.look o ts).1 = none ↔ (s.moved o.reset l).Resting o.announcesEnd l := by
  rw [look_of_log hl]
  constructor
  · intro h
    exact resting_of_told (fun _ hn => inside_of_moved hn) h
  · intro h
    rw [told_of_resting h]

/-- Where a look found nothing, another finds nothing either, and changes
nothing. -/
theorem look_look (h : (s.look o ts).1 = none) :
    (s.look o ts).2.look o ts = (none, (s.look o ts).2) := by
  cases hl : ts.log? s.partition with
  | none =>
    have hlook : s.look o ts = (none, s) := by
      unfold look
      rw [hl]
    rw [hlook]
    exact hlook
  | some l =>
    have hrests := (look_none_iff hl).mp h
    rw [look_of_log hl, told_of_resting hrests]
    have hl' : ts.log? (s.moved o.reset l).partition = some l := by rwa [partition_moved]
    rw [look_of_log hl', moved_of_resting hrests, told_of_resting hrests]

/-- What has nothing to tell has nothing to tell when logs lose records. -/
theorem look_none_mono (hts : ts.Recedes ts') (hl : (ts.log? s.partition).isSome)
    (h : (s.look o ts).1 = none) : (s.look o ts').1 = none := by
  obtain ⟨l, hl⟩ := Option.isSome_iff_exists.mp hl
  obtain ⟨l', hl', hlow, hhigh⟩ := hts _ _ hl
  rw [look_none_iff hl']
  exact ((look_none_iff hl).mp h).moved_mono hlow hhigh

/-- A look that would change nothing still would not when logs lose
records. -/
theorem look_idle_mono (hts : ts.Recedes ts') (hl : (ts.log? s.partition).isSome)
    (h : s.look o ts = (none, s)) : s.look o ts' = (none, s) := by
  obtain ⟨l, hl⟩ := Option.isSome_iff_exists.mp hl
  obtain ⟨l', hl', _, hhigh⟩ := hts _ _ hl
  have hrests := (look_none_iff hl).mp (congrArg Prod.fst h)
  have hsame : s.moved o.reset l = s := by
    rw [look_of_log hl, told_of_resting hrests] at h
    exact congrArg Prod.snd h
  rw [hsame] at hrests
  have hrests' := hrests.mono hhigh
  rw [look_of_log hl', moved_of_resting hrests', told_of_resting hrests']

end Slot

/-! ## Members that find nothing -/

namespace Member

variable {m : Member} {ts ts' : Topics}

/-- Where no slot has anything to tell, all of them are looked at. -/
theorem fetch_of_none (h : ∀ s ∈ m.assignment, (s.look m.options ts).1 = none) :
    m.fetch ts =
      (none, { m with assignment := m.assignment.map fun s => (s.look m.options ts).2 }) := by
  have hquiet (slots : List Slot) (hslots : slots ⊆ m.assignment) :
      firstTold m.options ts slots = (none, slots.map fun s => (s.look m.options ts).2) := by
    rcases firstTold_cases m.options ts slots with ⟨_, s, _, x, rfl, _, hx, _⟩ | ⟨_, h'⟩
    · rw [h s (hslots (by simp))] at hx
      cases hx
    · exact h'
  unfold fetch
  dsimp only
  rw [hquiet _ (List.drop_subset _ _)]
  dsimp only
  rw [hquiet _ (List.take_subset _ _)]
  dsimp only
  rw [← List.map_append, List.take_append_drop]

/-- Nothing is found only where no slot has anything to tell. -/
theorem fetch_none_iff :
    (m.fetch ts).1 = none ↔ ∀ s ∈ m.assignment, (s.look m.options ts).1 = none := by
  constructor
  · intro h
    rw [← List.take_append_drop m.cursor m.assignment, List.forall_mem_append]
    unfold fetch at h
    dsimp only at h
    rcases firstTold_cases m.options ts (m.assignment.drop m.cursor) with
      ⟨_, _, _, _, _, _, _, hfound⟩ | ⟨hbehind, hnone⟩
    · rw [hfound] at h
      cases h
    · rw [hnone] at h
      dsimp only at h
      rcases firstTold_cases m.options ts (m.assignment.take m.cursor) with
        ⟨_, _, _, _, _, _, _, hfound⟩ | ⟨hbefore, _⟩
      · rw [hfound] at h
        cases h
      · exact ⟨hbefore, hbehind⟩
  · intro h
    rw [fetch_of_none h]

/-- Nothing comes next only if nothing waits and no slot has anything to
tell. -/
theorem next_none_iff : (m.next ts).1 = none ↔
    m.queue = [] ∧ ∀ s ∈ m.assignment, (s.look m.options ts).1 = none := by
  unfold next
  cases hq : m.queue with
  | nil => simp [← fetch_none_iff]
  | cons q rest => simp

/-- A poll that finds nothing has looked at every slot, and taken nothing. -/
theorem next_of_none (h : (m.next ts).1 = none) :
    m.next ts = (none, { m with assignment := m.assignment.map fun s => (s.look m.options ts).2 }) := by
  obtain ⟨hq, hslots⟩ := next_none_iff.mp h
  have hfetch := fetch_of_none hslots
  unfold next
  split
  · next hcons => cases hq.symm.trans hcons
  · rw [hfetch]
    rfl

/-- A member whose look finds nothing and changes nothing. -/
def Idle (m : Member) (ts : Topics) : Prop := m.next ts = (none, m)

/-- A member is idle if nothing waits for it and none of its slots has
anything to tell or changes by being looked at. -/
theorem idle_iff : m.Idle ts ↔ m.queue = [] ∧ ∀ s ∈ m.assignment, s.look m.options ts = (none, s) := by
  constructor
  · intro h
    have hnone : (m.next ts).1 = none := congrArg Prod.fst h
    obtain ⟨hq, hslots⟩ := next_none_iff.mp hnone
    refine ⟨hq, fun s hs => ?_⟩
    have hsame : m.assignment.map (fun s => (s.look m.options ts).2) = m.assignment := by
      have := (next_of_none hnone).symm.trans h
      exact congrArg (fun x : Option Event × Member => x.2.assignment) this
    exact Prod.ext (hslots s hs) (List.map_inj_left.mp (hsame.trans (List.map_id _).symm) s hs)
  · rintro ⟨hq, hslots⟩
    have hnone : (m.next ts).1 = none :=
      next_none_iff.mpr ⟨hq, fun s hs => congrArg Prod.fst (hslots s hs)⟩
    have hsame : m.assignment.map (fun s => (s.look m.options ts).2) = m.assignment := by
      rw [List.map_congr_left fun s hs => congrArg Prod.snd (hslots s hs)]
      exact List.map_id _
    unfold Idle
    rw [next_of_none hnone, hsame]

/-- Whoever has looked and found nothing is idle. -/
theorem idle_next (h : (m.next ts).1 = none) : (m.next ts).2.Idle ts := by
  obtain ⟨hq, hslots⟩ := next_none_iff.mp h
  rw [next_of_none h, idle_iff]
  refine ⟨hq, fun s' hs' => ?_⟩
  obtain ⟨s, hs, rfl⟩ := List.mem_map.mp hs'
  exact Slot.look_look (hslots s hs)

/-- The member reads nothing but what is there. -/
def Grounded (m : Member) (ts : Topics) : Prop := ∀ p ∈ m.held, (ts.log? p).isSome

/-- What a grounded member reads has a log. -/
theorem Grounded.log (h : m.Grounded ts) {s : Slot} (hs : s ∈ m.assignment) :
    (ts.log? s.partition).isSome := h _ (List.mem_map_of_mem hs)

/-- Whoever would find nothing finds nothing when logs lose records. -/
theorem next_none_mono (hts : ts.Recedes ts') (hg : m.Grounded ts) (h : (m.next ts).1 = none) :
    (m.next ts').1 = none := by
  obtain ⟨hq, hslots⟩ := next_none_iff.mp h
  exact next_none_iff.mpr ⟨hq, fun s hs => Slot.look_none_mono hts (hg.log hs) (hslots s hs)⟩

/-- Whoever is idle stays so when logs lose records. -/
theorem Idle.mono (h : m.Idle ts) (hts : ts.Recedes ts') (hg : m.Grounded ts) : m.Idle ts' := by
  obtain ⟨hq, hslots⟩ := idle_iff.mp h
  exact idle_iff.mpr ⟨hq, fun s hs => Slot.look_idle_mono hts (hg.log hs) (hslots s hs)⟩

end Member

end ConsumerGroup
