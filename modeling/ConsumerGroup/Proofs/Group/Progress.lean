import ConsumerGroup.Proofs.Broker.Frame
import ConsumerGroup.Proofs.Group.Run

/-!
# Nothing is skipped

When the members of a group begin at the beginning and are assigned no
numbers to begin at, and whoever commits commits a message that the group
was told (`Chronicle.Diligent`), then every record below what the group
has committed was told to one of its members, or is no longer kept
(`Reached.told_or_dropped`).

What is below a place is passed (`Passed`). Wherever a member reads next,
all below is passed; to read on passes the record that is told, and to
begin again begins where nothing below is kept. A message that was told
has everything up to it passed, for good: so it can be committed by
anybody at any time.

The proof carries what is passed by every slot, by every commit and by every
message that was told (`Broker.Passes`), through every request and every
deed. Records that are dropped count as passed: nobody is told of them any
more.
-/

namespace ConsumerGroup

/-! ## What is passed -/

/-- The group was told the record. -/
def Heard (g : String) (said : List Told) (p : Partition) (o : Int) : Prop :=
  ∃ key payload, (⟨g, .record p o key payload⟩ : Told) ∈ said

/-- Every record below the place was told, or is no longer kept. -/
def Passed (g : String) (ts : Topics) (said : List Told) (p : Partition) (n : Int) : Prop :=
  ∃ l, ts.log? p = some l ∧ ∀ o < n, Heard g said p o ∨ o < l.low

variable {g : String} {ts ts' : Topics} {said said' : List Told} {p : Partition} {n : Int}

/-- What is passed stays so. -/
theorem Passed.mono (h : Passed g ts said p n) (hts : ts.Grows ts') (htold : said ⊆ said') :
    Passed g ts' said' p n := by
  obtain ⟨l, hl, hbelow⟩ := h
  obtain ⟨l', hl', hlow⟩ := hts p l hl
  refine ⟨l', hl', ?_⟩
  intro o ho
  rcases hbelow o ho with ⟨key, payload, hk⟩ | hlt
  · exact .inl ⟨key, payload, htold hk⟩
  · exact .inr (by omega)

/-- Below the oldest record that is kept all is passed. -/
theorem passed_low {l : Log} (hl : ts.log? p = some l) : Passed g ts said p l.low :=
  ⟨l, hl, fun _ ho => .inr ho⟩

/-- A record that is told is passed. -/
theorem Passed.succ (h : Passed g ts said p n) (hn : Heard g said p n) :
    Passed g ts said p (n + 1) := by
  obtain ⟨l, hl, hbelow⟩ := h
  refine ⟨l, hl, ?_⟩
  intro o ho
  rcases Int.lt_or_eq_of_le (Int.lt_add_one_iff.mp ho) with hlt | rfl
  · exact hbelow o hlt
  · exact .inl hn

/-! ## Slots -/

/-- Below where the slot is read next all is passed. -/
def Slot.Passes (g : String) (ts : Topics) (said : List Told) (s : Slot) : Prop :=
  ∀ n, s.position = some n → Passed g ts said s.partition n

/-- What a slot passes stays passed when more has been told and more is there. -/
theorem Slot.Passes.mono {s : Slot} (h : s.Passes g ts said) (hts : ts.Grows ts')
    (htold : said ⊆ said') : s.Passes g ts' said' := fun n hn => (h n hn).mono hts htold

/-- A slot that is given up for the beginning passes nothing. -/
theorem Slot.Passes.moved {s : Slot} {l : Log} (h : s.Passes g ts said)
    (hl : ts.log? s.partition = some l) : (s.moved .earliest l).Passes g ts said := by
  intro n hn
  rw [partition_moved]
  unfold Slot.moved at hn
  split at hn
  · split at hn
    · cases hn
      exact passed_low hl
    · exact h n hn
  · exact h n hn

/-- A slot that tells a record passes that one. -/
theorem Slot.Passes.told {announces : Bool} {s : Slot} {l : Log} (h : s.Passes g ts said)
    (htold : ∀ x, (s.told announces l).1 = some x → (⟨g, x⟩ : Told) ∈ said) :
    (s.told announces l).2.Passes g ts said := by
  intro n hn
  rw [partition_told]
  cases hp : s.position with
  | none =>
    have : (s.told announces l).2.position = none := by
      unfold Slot.told
      rw [hp]
      dsimp only
      split
      · exact hp
      · rfl
    rw [this] at hn
    cases hn
  | some k =>
    cases hr : l.get? k with
    | some r =>
      have hlook : s.told announces l = (some (.record s.partition k r.key r.payload),
          { s with position := some (k + 1), endTold := false }) := by
        simp only [Slot.told, hp, hr]
      rw [hlook] at hn htold
      cases hn
      exact (h k hp).succ ⟨_, _, htold _ rfl⟩
    | none =>
      have : (s.told announces l).2.position = some k := by
        simp only [Slot.told, hp, hr]
        split
        · rfl
        · exact hp
      rw [this] at hn
      cases hn
      exact h _ hp

/-- A look passes nothing but what it tells. -/
theorem Slot.Passes.look {o : MemberOptions} {s : Slot} (h : s.Passes g ts said)
    (ho : o.reset = .earliest)
    (htold : ∀ x, (s.look o ts).1 = some x → (⟨g, x⟩ : Told) ∈ said) :
    (s.look o ts).2.Passes g ts said := by
  unfold Slot.look at htold ⊢
  split at htold
  · exact h
  · next l hl =>
    rw [ho] at htold ⊢
    exact (h.moved hl).told htold

/-- Where a slot has told a record, it reads next behind it. -/
theorem Slot.position_look {o : MemberOptions} {s : Slot} {k : Int}
    {key payload : Option (List UInt8)} (h : (s.look o ts).1 = some (.record p k key payload)) :
    (s.look o ts).2.partition = p ∧ ∃ n : Nat, (s.look o ts).2.position = some n ∧ k + 1 = n := by
  have hpartition := partition_of_look h
  rw [← partition_look o ts] at hpartition
  refine ⟨(Option.some.inj hpartition).symm, ?_⟩
  unfold Slot.look at h ⊢
  split at h
  · cases h
  · unfold Slot.told at h ⊢
    split at h
    · split at h
      · cases h
      · cases h
    · next n hn =>
      split at h
      · next r hr =>
        cases h
        exact ⟨n + 1, rfl, rfl⟩
      · split at h
        · cases h
        · cases h

/-! ## Members -/

/-- A member that begins at the beginning and has passed everything below
where it reads next. -/
def Member.Passes (g : String) (ts : Topics) (said : List Told) (m : Member) : Prop :=
  m.options.reset = .earliest ∧ ∀ s ∈ m.assignment, s.Passes g ts said

/-- And so it does for a member. -/
theorem Member.Passes.mono {m : Member} (h : m.Passes g ts said) (hts : ts.Grows ts')
    (htold : said ⊆ said') : m.Passes g ts' said' :=
  ⟨h.1, fun s hs => (h.2 s hs).mono hts htold⟩

/-- To fetch passes nothing but what is found. -/
theorem Member.Passes.fetch {m : Member} (h : m.Passes g ts said)
    (htold : ∀ x, (m.fetch ts).1 = some x → (⟨g, x⟩ : Told) ∈ said) :
    (m.fetch ts).2.Passes g ts said := by
  refine ⟨?_, ?_⟩
  · rw [m.fetch_frame]
    exact h.1
  · intro s' hs'
    obtain ⟨s, hs, rfl | ⟨rfl, hlook⟩⟩ := mem_assignment_fetch hs'
    · exact h.2 s' hs
    · refine (h.2 s hs).look h.1 fun x hx => htold x ?_
      rcases hlook with hnone | hfetch
      · rw [hx] at hnone
        cases hnone
      · rw [← hfetch, hx]

/-- The record that is found is passed once it is told. -/
theorem Member.Passes.found {m : Member} (h : m.Passes g ts said) {k : Int}
    {key payload : Option (List UInt8)} (hf : (m.fetch ts).1 = some (.record p k key payload))
    (htold : (⟨g, .record p k key payload⟩ : Told) ∈ said) : Passed g ts said p (k + 1) := by
  obtain ⟨s, hs, hlook⟩ := exists_slot_of_fetch hf
  have hpasses := (h.2 s hs).look h.1 fun x hx => by
    rw [hlook] at hx
    cases hx
    exact htold
  obtain ⟨rfl, n, hn, hk⟩ := Slot.position_look hlook
  rw [hk]
  exact hpasses n hn

/-- The list asks for no number: each partition begins where the group has
come to, or at the beginning. -/
def PartitionList.Unpinned (l : PartitionList) : Prop :=
  ∀ e ∈ l, e.offset = .beginning ∨ e.offset = .stored ∨ e.offset = .invalid

/-- To begin at the beginning, or where the group has committed, passes
nothing that is not passed already. -/
theorem Member.Passes.assigned {b : Broker} {m : Member} (h : m.options.reset = .earliest)
    (hc : ∀ p c, b.committed? m.group p = some c → Passed g b.topics said p c) {l : PartitionList}
    (hl : l.Unpinned) {slots : List Slot} (hs : b.slots m l = .ok slots) :
    ∀ s ∈ slots, s.Passes g b.topics said := by
  intro s hs' n hn
  obtain ⟨e, he, log, hlog, hpartition, hposition⟩ := Broker.mem_slots hs hs'
  rw [hpartition]
  rw [hposition, h] at hn
  have hlow : Passed g b.topics said e.partition log.low := passed_low hlog
  rcases startPosition_cases hn with hplace | ho | ⟨_, rfl⟩ | ⟨ho, _⟩ | ⟨_, hcommitted⟩
  · cases hplace
    exact hlow
  · rcases hl e he with h | h | h <;> cases h.symm.trans ho
  · exact hlow
  · rcases hl e he with h | h | h <;> cases h.symm.trans ho
  · exact hc _ _ hcommitted

/-! ## Brokers -/

/-- Every member of the group has passed what is below where it reads
next, and so has the group below what it has committed. -/
structure Broker.Passes (g : String) (said : List Told) (b : Broker) : Prop where
  members : ∀ m ∈ b.members, m.group = g → m.Passes g b.topics said
  committed : ∀ p c, b.committed? g p = some c → Passed g b.topics said p c

namespace Broker

variable {b b' : Broker}

/-- To deal makes nobody pass over anything. -/
theorem Passes.of_deals (h : b.Passes g said) (hd : b.Deals b') (hts : b.topics.Grows b'.topics)
    (hc : b'.committed = b.committed) (hsaid : said ⊆ said') : b'.Passes g said' := by
  refine ⟨?_, ?_⟩
  · intro m' hm' hg
    obtain ⟨m, hm, hdealt⟩ := hd m' hm'
    obtain ⟨_, ho, ha⟩ := hdealt.frame
    unfold Member.group at hg
    unfold Member.Passes
    rw [ho] at hg ⊢
    rw [ha]
    exact (h.members m hm hg).mono hts hsaid
  · intro p c hpc
    unfold committed? at hpc
    rw [hc] at hpc
    exact (h.committed p c hpc).mono hts hsaid

/-- One member reads something else now. -/
theorem Passes.modifyMember (h : b.Passes g said) (hs : b.Sound) {id : String} {m : Member}
    (hm : b.member? id = some m) {f : Member → Member} (hg : (f m).group = m.group)
    (hf : m.group = g → m.Passes g b.topics said' → (f m).Passes g b.topics said')
    (hsaid : said ⊆ said') : (b.modifyMember id f).Passes g said' := by
  refine ⟨?_, fun p c hpc => (h.committed p c hpc).mono (.refl _) hsaid⟩
  intro m₁ hm₁ hg₁
  obtain ⟨m₀, hm₀, rfl⟩ := List.mem_map.mp hm₁
  by_cases hid : m₀.id = id
  · cases hs.eq_of_member? hm hm₀ hid
    rw [if_pos hid] at hg₁ ⊢
    rw [hg] at hg₁
    exact hf hg₁ ((h.members _ hm₀ hg₁).mono (.refl _) hsaid)
  · rw [if_neg hid] at hg₁ ⊢
    exact (h.members m₀ hm₀ hg₁).mono (.refl _) hsaid

/-- Whoever looks for a message passes only over what it is told or what is
not kept any more. -/
theorem Passes.fetched (h : b.Passes g said) (hs : b.Sound) {id : String} {m : Member}
    (hm : b.member? id = some m)
    (hx : m.group = g → ∀ x, (m.fetch b.topics).1 = some x → (⟨g, x⟩ : Told) ∈ said')
    (hsaid : said ⊆ said') :
    (b.modifyMember id fun _ => (m.fetch b.topics).2).Passes g said' := by
  refine h.modifyMember hs hm ?_ (fun hg hp => hp.fetch (hx hg)) hsaid
  rw [m.fetch_frame]

/-- Whoever is assigned partitions without numbers begins where the group has
committed, or where the log begins. -/
theorem Passes.assigned (h : b.Passes g said) {m : Member} (hm : m ∈ b.members) (hg : m.group = g)
    {l : PartitionList} (hl : l.Unpinned) {slots : List Slot} (hs : b.slots m l = .ok slots)
    (queue : List Queued) (cursor : Nat) (hsaid : said ⊆ said') :
    ({ m with queue, assignment := slots, cursor } : Member).Passes g b.topics said' := by
  have hreset := (h.members m hm hg).1
  subst hg
  refine ⟨hreset, ?_⟩
  intro s hs'
  exact (Member.Passes.assigned hreset h.committed hl hs s hs').mono (.refl _) hsaid

/-- Whoever joins has passed over nothing. -/
theorem Passes.connected (h : b.Passes g said) (id : String) {options : MemberOptions} (joined : Nat)
    (ho : options.group = g → options.reset = .earliest) (hsaid : said ⊆ said') :
    ({ b with members := b.members ++ [{ id, options }], joined } : Broker).Passes g said' := by
  refine ⟨?_, fun p c hpc => (h.committed p c hpc).mono (.refl _) hsaid⟩
  intro m hm hg
  rcases List.mem_append.mp hm with hm | hm
  · exact (h.members m hm hg).mono (.refl _) hsaid
  · rw [List.mem_singleton] at hm
    subst hm
    exact ⟨ho hg, fun s hs => absurd hs List.not_mem_nil⟩

/-- A look passes over nothing but what it tells, whether it takes a
notification or brings a message. -/
theorem Passes.looked (h : b.Passes g said) (hs : b.Sound) {id : String} {m : Member}
    (hm : b.member? id = some m)
    (hx : m.group = g → m.queue = [] → ∀ x, (m.fetch b.topics).1 = some x → (⟨g, x⟩ : Told) ∈ said')
    (hsaid : said ⊆ said') : (b.modifyMember id fun _ => (m.next b.topics).2).Passes g said' := by
  cases hq : m.queue with
  | nil =>
    have hnext : (m.next b.topics).2 = (m.fetch b.topics).2 := by simp only [Member.next, hq]
    rw [hnext]
    exact h.fetched hs hm (fun hg => hx hg hq) hsaid
  | cons q rest =>
    have hnext : (m.next b.topics).2 = { m with queue := rest } := by simp only [Member.next, hq]
    rw [hnext]
    exact h.modifyMember hs hm rfl (fun _ hp => hp) hsaid

/-- What another group commits is no concern of this one. -/
theorem Passes.putAllCommitted_of_ne (h : b.Passes g said) {g' : String} (hne : g ≠ g')
    (l : PartitionList) (hsaid : said ⊆ said') : (b.putAllCommitted g' l).Passes g said' := by
  obtain ⟨ht, hms, _⟩ := b.putAllCommitted_frame g' l
  refine ⟨?_, ?_⟩
  · intro m hm hg
    rw [hms] at hm
    rw [ht]
    exact (h.members m hm hg).mono (.refl _) hsaid
  · intro p c hpc
    rw [committed?_putAllCommitted_of_ne b hne] at hpc
    rw [ht]
    exact (h.committed p c hpc).mono (.refl _) hsaid

/-- What is asked of a broker passes nothing, if whoever joins the group
begins at the beginning, if no numbers are asked for, and if what is
found is told. -/
theorem Passes.perform (h : b.Passes g said) (hs : b.Sound) {r : Request}
    (hconnect : ∀ c o, r = .connect c → MemberOptions.read c = .ok o → o.group = g →
      o.reset = .earliest)
    (hassign : ∀ id l, r = .member id (.assign l) → b.Has g id → (b.assign id l).result = .ok () →
      l.Unpinned)
    (hnext : ∀ id m x, r = .member id .next → b.member? id = some m → m.group = g →
      m.queue = [] → (m.fetch b.topics).1 = some x → (⟨g, x⟩ : Told) ∈ said')
    (hcommit : ∀ id l a, r = .member id (.commit l a) → ¬ b.Has g id)
    (hsaid : said ⊆ said') : (b.perform r).broker.Passes g said' := by
  have hgrows := b.grows_perform r
  have hchanged := b.perform_changed r
  generalize (b.perform r).broker = b' at hgrows hchanged
  have hdeals := hchanged.deals
  cases hchanged with
  | nothing => exact h.of_deals (.of_members rfl) hgrows rfl hsaid
  | topicCreated b₁ hname hb =>
    refine h.of_deals (hdeals rfl) hgrows ?_ hsaid
    rw [(b₁.frame_rebalancedAll _).2.1, hb]
  | appended | dropped | rebalanced | left => exact h.of_deals (hdeals rfl) hgrows rfl hsaid
  | connected ho => exact h.connected _ _ (hconnect _ _ rfl ho) hsaid
  | notified hm => exact h.modifyMember hs hm rfl (fun _ hp => hp) hsaid
  | resubscribed hr hm =>
    refine h.of_deals (hdeals ?_) hgrows rfl hsaid
    rcases hr with rfl | ⟨_, rfl⟩ <;> rfl
  | @assigned id l m slots hd hm hslots =>
    refine h.modifyMember hs hm rfl ?_ hsaid
    intro hg _
    refine h.assigned (List.mem_of_find?_eq_some hm) hg ?_ hslots m.queue 0 hsaid
    refine hassign id l rfl ⟨m, hm, hg⟩ ?_
    simp only [assign, if_neg hd, hm, hslots]
  | unassigned hm =>
    refine h.modifyMember hs hm rfl ?_ hsaid
    intro hg hp
    exact ⟨hp.1, fun s hs => absurd hs List.not_mem_nil⟩
  | @looked id m hm => exact h.looked hs hm (fun hg hq x => hnext id m x rfl hm hg hq) hsaid
  | @committed id m l a hm hf =>
    have hne : g ≠ m.group := fun hg => hcommit id l a rfl ⟨m, hm, hg.symm⟩
    exact h.putAllCommitted_of_ne hne l hsaid

/-- A commit of a message that the group was told passes nothing that is
not passed already. -/
theorem Passes.commitMessage (h : b.Passes g said) {x : Message} {l : PartitionList}
    (hl : Consumer.afterMessage? x = some l)
    (hx : ∀ p k key payload, x = .record p k key payload → Passed g b.topics said p (k + 1)) :
    (b.putAllCommitted g l).Passes g said := by
  cases x with
  | record p k key payload =>
    cases hl
    obtain ⟨ht, hms, _⟩ := b.putAllCommitted_frame g [⟨p, .ofRaw (k + 1)⟩]
    refine ⟨?_, ?_⟩
    · intro m hm hg
      rw [hms] at hm
      rw [ht]
      exact h.members m hm hg
    · intro p' c hpc
      rw [ht]
      unfold putAllCommitted at hpc
      rw [List.foldl_cons, List.foldl_nil] at hpc
      dsimp only at hpc
      cases hn : (Offset.ofRaw (k + 1)).number? with
      | none =>
        rw [hn] at hpc
        exact h.committed p' c hpc
      | some n =>
        rw [hn] at hpc
        dsimp only at hpc
        rw [committed?_putCommitted] at hpc
        split at hpc
        · next hsame =>
          cases hpc
          rw [hsame.2, Offset.eq_of_number?_ofRaw hn]
          exact hx p k key payload rfl
        · exact h.committed p' c hpc
  | empty | notice => cases hl

/-- To commit a message commits what was told up to it. -/
theorem Passes.commit (h : b.Passes g said) {x : Message} {l : PartitionList}
    (hl : Consumer.afterMessage? x = some l) {id : String} (asynchronous : Bool)
    (hx : b.Has g id → ∀ p k key payload, x = .record p k key payload →
      Passed g b.topics said p (k + 1)) (hsaid : said ⊆ said') :
    (b.commit id l asynchronous).broker.Passes g said' := by
  have hsame {b' : Broker} (hb : b'.Passes g said) : b'.Passes g said' :=
    hb.of_deals (.of_members rfl) (.refl _) rfl hsaid
  rw [broker_commit]
  unfold commitNow
  cases hm : b.member? id with
  | none => exact hsame h
  | some m =>
    dsimp only
    split
    · exact hsame h
    · split
      · exact hsame h
      · by_cases hg : m.group = g
        · rw [hg]
          exact hsame (h.commitMessage hl (hx ⟨m, hm, hg⟩))
        · exact h.putAllCommitted_of_ne (Ne.symm hg) l hsaid

/-- A deed of a consumer passes nothing, if no numbers are asked for, if
what is found is told, and if what is committed was. -/
theorem Passes.done (h : b.Passes g said) (hs : b.Sound) {id : String} {d : Deed}
    {o : Outcome Entry (Consumer Seat × Cluster) (Option Message)} (hd : b.Done id o d b')
    (hassign : d = .look → b.Has g id → o.result = .ok none →
      ∀ l, .asked (.assign l) ∈ o.journal → l.Unpinned)
    (hfound : ∀ m x, b.member? id = some m → m.group = g → o.result = .ok (some x) →
      (⟨g, x⟩ : Told) ∈ said')
    (hcommit : ∀ x a, d = .commitMessage x a → b.Has g id → ∀ p k key payload,
      x = .record p k key payload → Passed g b.topics said p (k + 1))
    (hsaid : said ⊆ said') : b'.Passes g said' := by
  cases hd with
  | nothing => exact h.of_deals (.of_members rfl) (.refl _) rfl hsaid
  | left =>
    exact h.perform hs (r := .member id .leave) (fun _ _ h => nomatch h) (fun _ _ h => nomatch h)
      (fun _ _ _ h => nomatch h) (fun _ _ _ h => nomatch h) hsaid
  | gaveUp =>
    exact h.perform hs (r := .member id .unassign) (fun _ _ h => nomatch h) (fun _ _ h => nomatch h)
      (fun _ _ _ h => nomatch h) (fun _ _ _ h => nomatch h) hsaid
  | @committed x a l hl => exact h.commit hl a (hcommit x a rfl) hsaid
  | looked hl =>
    cases hl with
    | gone => exact h.of_deals (.of_members rfl) (.refl _) rfl hsaid
    | @changed m m' hm hl =>
      have hmem := List.mem_of_find?_eq_some hm
      cases hl with
      | fetched hq ho =>
        exact h.fetched hs hm (fun hg x hx => hfound m x hm hg (by rw [ho, hx])) hsaid
      | assigned hq hc hsame hslots hj ho =>
        refine h.modifyMember hs hm rfl ?_ hsaid
        intro hg _
        exact h.assigned hmem hg (hassign rfl ⟨m, hm, hg⟩ ho _ hj) hslots _ 0 hsaid
      | revoked =>
        refine h.modifyMember hs hm rfl ?_ hsaid
        intro hg hp
        exact ⟨hp.1, fun s hs => absurd hs List.not_mem_nil⟩
      | refused | undone | passed => exact h.modifyMember hs hm rfl (fun _ hp => hp) hsaid

end Broker

/-! ## Runs -/

/-- The list that a transport was asked to assign, if that is told. -/
def Entry.assignment? : Entry → Option PartitionList
  | .asked (.assign l) => some l
  | _ => none

namespace Chronicle

/-- Members of the group begin at the beginning; nobody asks for numbers
when something is assigned to them, be it by hand or as their callbacks
leave it; and they commit messages that the group was told. -/
def Diligent (g : String) (s : Chronicle) : Happening → Prop
  | .asked (.connect c) =>
    ∀ o, MemberOptions.read c = .ok o → o.group = g → o.reset = .earliest
  | .asked (.member id (.assign l)) =>
    s.broker.Has g id → (s.broker.assign id l).result = .ok () → l.Unpinned
  | .asked (.member id (.commit _ _)) => ¬ s.broker.Has g id
  | .asked _ => True
  | .did c .look =>
    s.broker.Has g c.transport.member → (Happening.outcome s.broker c .look).result = .ok none →
      ∀ l ∈ (Happening.outcome s.broker c .look).journal.filterMap Entry.assignment?, l.Unpinned
  | .did c (.commitMessage x _) => s.broker.Has g c.transport.member → (⟨g, x⟩ : Told) ∈ s.told
  | .did _ _ => True

variable {g : String} {s : Chronicle}

/-- What a member is brought its group was told. -/
theorem mem_heard {b : Broker} {id : String} {x : Message} {m : Member}
    (hm : b.member? id = some m) : (⟨m.group, x⟩ : Told) ∈ heard b (some (id, x)) := by
  simp [heard, hm]

/-- What a step brings is what the member found, with nothing waiting. -/
theorem of_mem_heard {b : Broker} {h : Happening} {t : Told} (ht : t ∈ heard b (h.brings b)) :
    ∃ m ∈ b.members, t.group = m.group ∧ (m.fetch b.topics).1 = some t.message := by
  have found {id : String} {x : Message} {m : Member} (hm : b.member? id = some m)
      (hf : (m.fetch b.topics).1 = some x) (ht : t ∈ heard b (some (id, x))) :
      ∃ m ∈ b.members, t.group = m.group ∧ (m.fetch b.topics).1 = some t.message := by
    simp only [heard, hm, Option.toList_some, List.map_cons, List.map_nil,
      List.mem_singleton] at ht
    subst ht
    exact ⟨m, List.mem_of_find?_eq_some hm, rfl, hf⟩
  unfold Happening.brings at ht
  split at ht
  · next id =>
    split at ht
    · next x hx =>
      obtain ⟨m, hm, hf, _⟩ := Broker.found_of_nextEvent hx
      exact found hm hf ht
    · cases ht
  · cases ht
  · next c d =>
    split at ht
    · next x hx =>
      cases Deed.eq_look_of_brings hx
      obtain ⟨m, hm, _, hf, _⟩ := Consumer.brought_of_look c { broker := b } hx
      exact found hm hf ht
    · cases ht

/-- Wherever a diligent group has come to, all below is passed; and so it
is up to every record that the group was told. -/
theorem Reached.passes (h : Reached (Diligent g) s) :
    s.broker.Passes g s.told ∧ ∀ p k key payload, (⟨g, .record p k key payload⟩ : Told) ∈ s.told →
      Passed g s.broker.topics s.told p (k + 1) := by
  induction h with
  | start => exact ⟨⟨fun _ h => absurd h List.not_mem_nil, fun _ _ h => nomatch h⟩,
      fun _ _ _ _ h => absurd h List.not_mem_nil⟩
  | @step s h hs ha ih =>
    obtain ⟨hpasses, htold⟩ := ih
    have hsaid : s.told ⊆ (s.after h).told := List.subset_append_right _ _
    have hgrows : s.broker.topics.Grows (s.after h).broker.topics := (s.advances_after h).grows
    refine ⟨?_, ?_⟩
    · cases h with
      | asked r =>
        refine hpasses.perform hs.sound ?_ ?_ ?_ ?_ hsaid
        · rintro c o rfl
          exact ha o
        · rintro id l rfl
          exact ha
        · rintro id m x rfl hm rfl hq hf
          apply List.mem_append_left
          rw [Happening.brings, Broker.nextEvent_of_nil hm hq hf]
          exact mem_heard hm
        · rintro id l a rfl
          exact ha
      | did c d =>
        refine hpasses.done hs.sound (s.done c d) ?_ ?_ ?_ hsaid
        · rintro rfl hmember ho l hl
          exact ha hmember ho l (List.mem_filterMap.mpr ⟨_, hl, rfl⟩)
        · rintro m x hm rfl hx
          apply List.mem_append_left
          rw [Happening.brings, hx]
          exact mem_heard hm
        · rintro x a rfl hmember p k key payload rfl
          exact htold p k key payload (ha hmember)
    · intro p k key payload hk
      rcases List.mem_append.mp hk with hk | hk
      · obtain ⟨m, hm, hg, hf⟩ := of_mem_heard hk
        have hm := (hpasses.members m hm hg.symm).mono (.refl _) hsaid
        exact (hm.found hf (List.mem_append_left _ hk)).mono hgrows (List.Subset.refl _)
      · exact (htold p k key payload hk).mono hgrows hsaid

/-- Whatever a diligent group has committed, it was told every record below
that is still kept. -/
theorem Reached.told_or_dropped (h : Reached (Diligent g) s) {p : Partition} {c : Int}
    (hc : s.broker.committed? g p = some c) :
    ∃ l, s.broker.log? p = some l ∧ ∀ o < c,
      (∃ key payload, (⟨g, .record p o key payload⟩ : Told) ∈ s.told) ∨ o < l.low :=
  h.passes.1.committed p c hc

/-- Of three records the first is dropped before anybody reads. The second
is told and committed. -/
def readOne : List Happening :=
  [.asked (.createTopic "t" 1),
    .asked (.produce ⟨"t", 0⟩ none [1]),
    .asked (.produce ⟨"t", 0⟩ none [2]),
    .asked (.produce ⟨"t", 0⟩ none [3]),
    .asked (.deleteRecords ⟨"t", 0⟩ 1),
    .asked (.connect (Configuration.ofPairs
      [("auto.offset.reset", "earliest"), ("group.id", "g")])),
    .asked (.member "kafka_group-1" (.subscribe ["t"])),
    .did { transport := ⟨"kafka_group-1", "g"⟩ } .look,
    .did { transport := ⟨"kafka_group-1", "g"⟩ } .look,
    .did { transport := ⟨"kafka_group-1", "g"⟩ }
      (.commitMessage (.record ⟨"t", 0⟩ 1 none (some [2])) false)]

/-- Below what is committed then there is the record that was dropped, and
the one that was told. -/
theorem told_or_dropped_readOne :
    Reached (Diligent "g") (run readOne) ∧
      (run readOne).broker.committed? "g" ⟨"t", 0⟩ = some 2 ∧
      ∃ l, (run readOne).broker.log? ⟨"t", 0⟩ = some l ∧ ∀ o < (2 : Int),
        (∃ key payload, (⟨"g", .record ⟨"t", 0⟩ o key payload⟩ : Told) ∈ (run readOne).told) ∨
          o < l.low := by
  have h : Reached (Diligent "g") (run readOne) := by
    refine .step (.step (.step (.step (.step (.step (.step (.step (.step (.step (.start _) trivial)
      trivial) trivial) trivial) trivial) ?_) trivial) ?_) ?_) ?_
    · intro o ho _
      have hreset : (MemberOptions.read (Configuration.ofPairs
          [("auto.offset.reset", "earliest"), ("group.id", "g")])).toOption.map (·.reset) =
            some .earliest := by decide +kernel
      rw [ho] at hreset
      exact Option.some.inj hreset
    · intro _ _ l hl
      have hasked : (Happening.outcome (run (readOne.take 7)).broker
          { transport := ⟨"kafka_group-1", "g"⟩ } .look).journal.filterMap Entry.assignment? =
            [[⟨⟨"t", 0⟩, .invalid⟩]] := by decide +kernel
      change l ∈ (Happening.outcome (run (readOne.take 7)).broker _ _).journal.filterMap _ at hl
      rw [hasked, List.mem_singleton] at hl
      subst hl
      exact fun e he => .inr (.inr (by rw [List.mem_singleton.mp he]))
    · intro _ hnone
      have hfound : (Happening.outcome (run (readOne.take 8)).broker
          { transport := ⟨"kafka_group-1", "g"⟩ } .look).result.toOption.join.isSome = true := by
        decide +kernel
      change (Happening.outcome (run (readOne.take 8)).broker _ _).result = _ at hnone
      rw [hnone] at hfound
      cases hfound
    · exact fun _ => by decide +kernel
  have hc : (run readOne).broker.committed? "g" ⟨"t", 0⟩ = some 2 := by decide +kernel
  exact ⟨h, hc, Reached.told_or_dropped h hc⟩

end Chronicle

end ConsumerGroup
