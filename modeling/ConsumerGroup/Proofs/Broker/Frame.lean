import ConsumerGroup.Proofs.Broker.Sound

/-!
# What requests leave alone

Whatever is asked of a broker, its logs stay and neither of their ends
goes back (`Broker.advances_perform`): no record that was dropped is kept
again. A rebalance changes what waits for members
and nothing they read, nor does a change of subscriptions
(`Broker.Deals`); and nothing else is changed about members, unless it is
one of them that is reached for (`Broker.deals_perform`). So what holds of
every member after a request is proved by what the request makes of one
(`Broker.Changed.members`). What a group has committed is changed by
nothing but a commit of one of its own.

Some requests reach for one member (`Broker.reaches`). What such a request
makes of the member is said in `Member.Asked`, and needs no word about
anybody else.
-/

namespace ConsumerGroup

/-- Logs stay, and keep no record they have dropped. -/
def Topics.Grows (ts ts' : Topics) : Prop :=
  ∀ p l, ts.log? p = some l → ∃ l', ts'.log? p = some l' ∧ l.low ≤ l'.low

theorem Topics.Grows.refl (ts : Topics) : ts.Grows ts := fun _ l h => ⟨l, h, Nat.le_refl _⟩

/-- Neither end of the log is before that of the other. -/
def Log.Leads (l l' : Log) : Prop := l.low ≤ l'.low ∧ l.high ≤ l'.high

theorem Log.Leads.refl (l : Log) : l.Leads l := ⟨Nat.le_refl _, Nat.le_refl _⟩

/-- Logs stay, and neither of their ends goes back. -/
def Topics.Advances (ts ts' : Topics) : Prop :=
  ∀ p l, ts.log? p = some l → ∃ l', ts'.log? p = some l' ∧ l.Leads l'

namespace Topics

variable {ts ts' ts'' : Topics}

theorem Advances.refl (ts : Topics) : ts.Advances ts := fun _ l h => ⟨l, h, .refl l⟩

/-- Logs that move on and on move on. -/
theorem Advances.trans (h : ts.Advances ts') (h' : ts'.Advances ts'') : ts.Advances ts'' := by
  intro p l hl
  obtain ⟨l', hl', hlow, hhigh⟩ := h p l hl
  obtain ⟨l'', hl'', hlow', hhigh'⟩ := h' p l' hl'
  exact ⟨l'', hl'', Nat.le_trans hlow hlow', Nat.le_trans hhigh hhigh'⟩

/-- Topics whose logs move on lose none of their partitions. -/
theorem Advances.grows (h : ts.Advances ts') : ts.Grows ts' := fun p l hl =>
  have ⟨l', hl', hlow, _⟩ := h p l hl
  ⟨l', hl', hlow⟩

end Topics

/-- What dealing makes of a member: it may have subscribed to something
else, and its groups have rebalanced any number of times. -/
inductive Member.Dealt (all : List Partition) (m : Member) : Member → Prop
  | refl : Dealt all m m
  | resubscribed {m' : Member} (subscription : List Subscription) (h : Dealt all m m') :
      Dealt all m { m' with subscription }
  | rebalanced {m' : Member} (g : String) {s : Option (List Partition)}
      (hs : (s.getD []).Sublist all) (h : Dealt all m m') : Dealt all m (m'.rebalanced g s)

/-- What is dealt in two rounds is dealt. -/
theorem Member.Dealt.trans {all : List Partition} {m m' m'' : Member} (h : m.Dealt all m')
    (h' : m'.Dealt all m'') : m.Dealt all m'' := by
  induction h' with
  | refl => exact h
  | resubscribed subscription _ ih => exact .resubscribed subscription ih
  | rebalanced g hs _ ih => exact .rebalanced g hs ih

/-- Whoever is dealt to reads what it did. -/
theorem Member.Dealt.frame {all : List Partition} {m m' : Member} (h : m.Dealt all m') :
    m'.id = m.id ∧ m'.options = m.options ∧ m'.assignment = m.assignment := by
  induction h with
  | refl => exact ⟨rfl, rfl, rfl⟩
  | resubscribed _ _ ih => exact ih
  | rebalanced g _ _ ih =>
    unfold Member.rebalanced
    split <;> exact ih

namespace Broker

/-- To deal to groups changes neither topics nor commits, nor who joins next. -/
theorem frame_rebalancedAll (b : Broker) (groups : List String) :
    (b.rebalancedAll groups).topics = b.topics ∧
      (b.rebalancedAll groups).committed = b.committed ∧
      (b.rebalancedAll groups).joined = b.joined := by
  unfold rebalancedAll
  induction groups generalizing b with
  | nil => exact ⟨rfl, rfl, rfl⟩
  | cons g groups ih => exact ih (b.rebalanced g)

@[simp] theorem patterns_rebalancedAll (b : Broker) (groups : List String) :
    (b.rebalancedAll groups).patterns = b.patterns := by
  unfold rebalancedAll
  induction groups generalizing b with
  | nil => rfl
  | cons g groups ih => exact ih (b.rebalanced g)

/-- No request changes how patterns are read. -/
theorem Changed.patterns_eq {b b' : Broker} {r : Request} (h : b.Changed r b') :
    b'.patterns = b.patterns := by
  cases h with
  | topicCreated b' _ hb => rw [patterns_rebalancedAll, hb]
  | committed => rw [putAllCommitted_eq]
  | _ => rfl

/-- Every member was there before, and has only been dealt to since. -/
def Deals (b b' : Broker) : Prop :=
  ∀ m' ∈ b'.members, ∃ m ∈ b.members, m.Dealt b'.topics.partitions m'

variable {b b' : Broker}

theorem Deals.of_members (h : b'.members = b.members) : b.Deals b' := fun m hm =>
  ⟨m, h ▸ hm, .refl⟩

/-- To deal and to deal again is to deal, as long as the topics stay. -/
theorem Deals.trans {b'' : Broker} (h : b.Deals b') (h' : b'.Deals b'')
    (ht : b''.topics = b'.topics) : b.Deals b'' := by
  intro m'' hm''
  obtain ⟨m', hm', hd'⟩ := h' m'' hm''
  obtain ⟨m, hm, hd⟩ := h m' hm'
  rw [ht] at hd' ⊢
  exact ⟨m, hm, hd.trans hd'⟩

/-- A rebalance only deals. -/
theorem deals_rebalanced (b : Broker) (g : String) : b.Deals (b.rebalanced g) := by
  intro m' hm'
  obtain ⟨m, hm, s, hs, rfl⟩ := mem_members_rebalanced hm'
  exact ⟨m, hm, .rebalanced g (sublist_of_mem_shares (b := b) hs) .refl⟩

/-- So do several. -/
theorem deals_rebalancedAll (b : Broker) (groups : List String) :
    b.Deals (b.rebalancedAll groups) := by
  unfold rebalancedAll
  induction groups generalizing b with
  | nil => exact .of_members rfl
  | cons g groups ih => exact (b.deals_rebalanced g).trans (ih _) (frame_rebalancedAll _ _).1

theorem deals_resubscribed (b : Broker) (id : String) (subscription : List Subscription) :
    b.Deals (b.modifyMember id fun m => { m with subscription }) := by
  intro m' hm'
  obtain ⟨m, hm, rfl⟩ := List.mem_map.mp hm'
  refine ⟨m, hm, ?_⟩
  split
  · exact .resubscribed subscription .refl
  · exact .refl

theorem deals_left (b : Broker) (id : String) :
    b.Deals { b with members := b.members.filter (·.id ≠ id) } := fun m hm =>
  ⟨m, List.mem_of_mem_filter hm, .refl⟩

/-- The request takes somebody in, or reaches for one member: it sends a
notification by hand, takes what waits, or changes what is read. -/
def reaches : Request → Bool
  | .connect _ | .notify .. => true
  | .member _ .next | .member _ (.assign _) | .member _ .unassign => true
  | _ => false

/-- Requests that do not reach for a member deal, and do nothing else to
anybody. -/
theorem Changed.deals {r : Request} (h : b.Changed r b') (hr : reaches r = false) : b.Deals b' := by
  cases h with
  | nothing | appended | dropped => exact .of_members rfl
  | topicCreated b₁ hname hb =>
    have hmembers : b.Deals b₁ := .of_members (by rw [hb])
    exact hmembers.trans (b₁.deals_rebalancedAll _) (b₁.frame_rebalancedAll _).1
  | connected | notified | assigned | unassigned | looked => cases hr
  | rebalanced => exact b.deals_rebalanced _
  | resubscribed => exact (b.deals_resubscribed _ _).trans (deals_rebalanced _ _) rfl
  | committed => exact .of_members (b.putAllCommitted_frame _ _).2.1
  | left => exact (b.deals_left _).trans (deals_rebalanced _ _) rfl

theorem deals_perform (b : Broker) {r : Request} (hr : reaches r = false) :
    b.Deals (b.perform r).broker := (b.perform_changed r).deals hr

end Broker

/-- What a request makes of one member: it is only dealt to, or it is the
one that is reached for. -/
inductive Member.Asked (b : Broker) (all : List Partition) (m : Member) : Request → Member → Prop
  | dealt {r : Request} {m' : Member} (h : m.Dealt all m') : Asked b all m r m'
  | notified {code : StatusCode} {l : PartitionList} :
      Asked b all m (.notify m.id code l) { m with queue := m.queue ++ [⟨code, l⟩] }
  | assigned {l : PartitionList} {assignment : List Slot} (hd : ¬ l.hasDuplicates = true)
      (hs : b.slots m l = .ok assignment) :
      Asked b all m (.member m.id (.assign l)) { m with assignment, cursor := 0 }
  | unassigned :
      Asked b all m (.member m.id .unassign) { m with assignment := [], cursor := 0 }
  | looked : Asked b all m (.member m.id .next) (m.next b.topics).2

namespace Broker

variable {b b' : Broker}

/-- Whoever is there after a request was there before, or has just
joined. -/
theorem Changed.members {r : Request} (hs : b.Sound) (h : b.Changed r b') {m' : Member}
    (hm' : m' ∈ b'.members) :
    (∃ m ∈ b.members, m.Asked b b'.topics.partitions r m') ∨ ∃ id options, m' = { id, options } := by
  by_cases hreach : reaches r = false
  · obtain ⟨m, hm, hd⟩ := h.deals hreach m' hm'
    exact .inl ⟨m, hm, .dealt hd⟩
  have hreached {id : String} {f : Member → Member} {all : List Partition}
      (hm' : m' ∈ (b.modifyMember id f).members)
      (hf : ∀ m ∈ b.members, m.id = id → m.Asked b all r (f m)) :
      ∃ m ∈ b.members, m.Asked b all r m' := by
    obtain ⟨m, hm, rfl⟩ := List.mem_map.mp hm'
    refine ⟨m, hm, ?_⟩
    split
    · next hid => exact hf m hm hid
    · exact .dealt .refl
  cases h with
  | nothing => exact .inl ⟨m', hm', .dealt .refl⟩
  | connected =>
    rcases List.mem_append.mp hm' with hm' | hm'
    · exact .inl ⟨m', hm', .dealt .refl⟩
    · exact .inr ⟨_, _, List.mem_singleton.mp hm'⟩
  | notified => exact .inl (hreached hm' fun m _ hid => hid ▸ .notified)
  | assigned hd hm hslots =>
    refine .inl (hreached hm' fun m hmem hid => ?_)
    cases hs.eq_of_member? hm hmem hid
    exact hid ▸ .assigned hd hslots
  | unassigned => exact .inl (hreached hm' fun m _ hid => hid ▸ .unassigned)
  | looked hm =>
    refine .inl (hreached hm' fun m hmem hid => ?_)
    cases hs.eq_of_member? hm hmem hid
    exact hid ▸ .looked
  | resubscribed hsub => rcases hsub with rfl | ⟨_, rfl⟩ <;> exact absurd rfl hreach
  | _ => exact absurd rfl hreach

/-- To change one log so that neither end goes back makes the topics advance. -/
theorem advances_modifyLog {ts : Topics} {p : Partition} {l : Log} (hl : ts.log? p = some l)
    {f : Log → Log} (hf : l.Leads (f l)) : ts.Advances (ts.modifyLog p f) := by
  intro q k hk
  rw [Topics.log?_modifyLog ts (Topics.index_nonneg_of_log? hl)]
  by_cases hq : q = p
  · subst hq
    cases hl.symm.trans hk
    rw [if_pos rfl, hl]
    exact ⟨_, rfl, hf⟩
  · rw [if_neg hq]
    exact ⟨k, hk, .refl k⟩

/-- Whatever is asked of a broker, logs stay and neither of their ends goes
back. -/
theorem advances_perform (b : Broker) (r : Request) :
    b.topics.Advances (b.perform r).broker.topics := by
  have hchanged := b.perform_changed r
  generalize (b.perform r).broker = b' at hchanged
  cases hchanged with
  | topicCreated b₁ hname hb =>
    rw [(frame_rebalancedAll b₁ _).1, hb]
    exact fun p l hl => ⟨l, Topics.log?_insert hname hl, .refl l⟩
  | @appended _ _ _ l hl =>
    exact advances_modifyLog hl ⟨Nat.le_refl _, by simp⟩
  | @dropped _ before l hl =>
    exact advances_modifyLog hl ⟨Nat.le_max_left _ _, Nat.le_of_eq (l.high_dropBelow before).symm⟩
  | committed hm hf =>
    rw [(b.putAllCommitted_frame _ _).1]
    exact .refl _
  | _ => exact .refl _

/-- Whatever is asked of a broker, logs stay and keep no record they have
dropped. -/
theorem grows_perform (b : Broker) (r : Request) : b.topics.Grows (b.perform r).broker.topics :=
  (b.advances_perform r).grows

/-- Partitions stay, and whoever has joined has. -/
theorem perform_grows (b : Broker) (r : Request) :
    b.topics.partitions.Sublist (b.perform r).broker.topics.partitions ∧
      b.joined ≤ (b.perform r).broker.joined := by
  have hchanged := b.perform_changed r
  generalize (b.perform r).broker = b' at hchanged
  have hsame : b.topics.partitions.Sublist b.topics.partitions ∧ b.joined ≤ b.joined :=
    ⟨List.Sublist.refl _, Nat.le_refl _⟩
  cases hchanged with
  | topicCreated b₁ hname hb =>
    obtain ⟨ht, _, hj⟩ := b₁.frame_rebalancedAll (b₁.groupsCovering _)
    rw [ht, hj, hb]
    exact ⟨Topics.partitions_sublist_insert hname, Nat.le_refl _⟩
  | appended | dropped =>
    rw [Topics.partitions_modifyLog]
    exact hsame
  | connected => exact ⟨List.Sublist.refl _, Nat.le_succ _⟩
  | @committed _ m offsets =>
    obtain ⟨ht, _, hj⟩ := b.putAllCommitted_frame m.group offsets
    rw [ht, hj]
    exact hsame
  | _ => exact hsame

/-- What a group has committed for a partition is what it committed last. -/
theorem committed?_putCommitted (b : Broker) (g g' : String) (p p' : Partition) (n : Int) :
    (b.putCommitted g' p' n).committed? g p =
      if g = g' ∧ p = p' then some n else b.committed? g p := by
  unfold putCommitted committed?
  dsimp only
  rw [List.lookup_cons]
  by_cases h : g = g' ∧ p = p'
  · rw [if_pos h, h.1, h.2]
    simp
  · rw [if_neg h]
    have hne : ((g, p) == (g', p')) = false := by
      simpa [Prod.ext_iff] using h
    rw [hne]
    dsimp only
    induction b.committed with
    | nil => rfl
    | cons e rest ih =>
      obtain ⟨key, k⟩ := e
      by_cases hkey : key = (g', p')
      · subst hkey
        rw [List.filter_cons_of_neg (by simp), ih, List.lookup_cons, hne]
      · rw [List.filter_cons_of_pos (by simpa using hkey), List.lookup_cons, List.lookup_cons, ih]

/-- What a group commits is nothing to another. -/
theorem committed?_putAllCommitted_of_ne (b : Broker) {g g' : String} (hg : g ≠ g')
    (offsets : PartitionList) (p : Partition) :
    (b.putAllCommitted g' offsets).committed? g p = b.committed? g p := by
  unfold putAllCommitted
  induction offsets generalizing b with
  | nil => rfl
  | cons e offsets ih =>
    rw [List.foldl_cons, ih]
    split
    · rw [committed?_putCommitted, if_neg fun h => hg h.1]
    · rfl

end Broker

end ConsumerGroup
