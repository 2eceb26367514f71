import ConsumerGroup.Proofs.Group.Progress
import ConsumerGroup.Proofs.Group.Stretch

/-!
# Where a group resumes

A group that has committed a record it was told does not hear of it again:
whoever of the group is assigned the partition later, from where the group
has come to, begins behind the record, and hears only what lies behind it
(`Reached.resumes`).

A record that anybody was told lies below the end of its log for good
(`Reached.written`), so the place behind it is in the log or is no
longer kept; and what a group has committed stays until it commits
something else for the partition (`committed_leads`).

Whether the record is still kept when reading resumes makes two cases: if it
is, reading begins right behind it, and if not, where the policy says, which
is behind it as well. Somebody else of the group may have read on meanwhile,
as long as nothing was committed.
-/

namespace ConsumerGroup

namespace Happening

/-- What a step commits, and for which member's group. -/
def commit? : Happening → Option (String × PartitionList)
  | .asked (.member id (.commit l _)) => some (id, l)
  | .did c (.commitMessage x _) => (Consumer.afterMessage? x).map (c.transport.member, ·)
  | _ => none

/-- The step commits something for the group and the partition. -/
def Commits (b : Broker) (g : String) (p : Partition) (e : Happening) : Prop :=
  ∃ id l, e.commit? = some (id, l) ∧ b.Has g id ∧ p ∈ l.partitions ∧
    (b.commitNow id l).result = .ok ()

end Happening

namespace Broker

variable {b b' : Broker} {g : String} {p : Partition}

/-- What is committed for other partitions is nothing to this one. -/
theorem committed?_putAllCommitted_of_not_mem (b : Broker) (g g' : String) {l : PartitionList}
    (hp : p ∉ l.partitions) : (b.putAllCommitted g' l).committed? g p = b.committed? g p := by
  unfold putAllCommitted
  induction l generalizing b with
  | nil => rfl
  | cons e l ih =>
    rw [PartitionList.partitions_cons, List.mem_cons, not_or] at hp
    rw [List.foldl_cons, ih _ hp.2]
    split
    · rw [committed?_putCommitted, if_neg fun h => hp.1 h.2]
    · rfl

/-- Nothing but a commit changes what a group has committed. -/
theorem committed?_perform {r : Request} (hr : ∀ id l a, r = .member id (.commit l a) → b.Has g id →
      p ∈ l.partitions → (b.commitNow id l).result ≠ .ok ()) :
    (b.perform r).broker.committed? g p = b.committed? g p := by
  have hchanged := b.perform_changed r
  generalize (b.perform r).broker = b' at hchanged
  cases hchanged with
  | topicCreated b₁ hname hb =>
    unfold committed?
    rw [(b₁.frame_rebalancedAll _).2.1, hb]
  | @committed id m l a hm hf =>
    by_cases hg : g = m.group
    · refine committed?_putAllCommitted_of_not_mem b g m.group fun hp => ?_
      refine hr id l a rfl ⟨m, hm, hg.symm⟩ hp ?_
      have hl : l ≠ [] := by
        rintro rfl
        cases hp
      simp only [commitNow, hm, hf, List.isEmpty_iff, hl, if_false]
    · exact committed?_putAllCommitted_of_ne b hg l p
  | _ => rfl

/-- A deed commits nothing for the group and the partition but a record of
that, by a member of the group. -/
theorem committed?_done {id : String} {d : Deed}
    {o : Outcome Entry (Consumer Seat × Cluster) (Option Message)} (hd : b.Done id o d b')
    (hr : ∀ x a l, d = .commitMessage x a → Consumer.afterMessage? x = some l → b.Has g id →
      p ∈ l.partitions → (b.commitNow id l).result ≠ .ok ()) :
    b'.committed? g p = b.committed? g p := by
  cases hd with
  | looked hl => cases hl <;> rfl
  | @committed x a l hl =>
    refine committed?_perform (r := .member id (.commit l a)) ?_
    rintro _ _ _ ⟨⟩
    exact hr x a l rfl hl
  | nothing => rfl
  | left => exact committed?_perform (r := .member id .leave) nofun
  | gaveUp => exact committed?_perform (r := .member id .unassign) nofun

end Broker

namespace Chronicle

/-- A run goes on with what is allowed. -/
inductive Leads (allowed : Chronicle → Happening → Prop) (s : Chronicle) : Chronicle → Prop
  | refl : Leads allowed s s
  | step {t : Chronicle} {e : Happening} (h : Leads allowed s t) (ha : allowed t e) :
      Leads allowed s (t.after e)

/-- Nothing is committed for the group and the partition. -/
def Spares (g : String) (p : Partition) (s : Chronicle) (e : Happening) : Prop :=
  ¬ e.Commits s.broker g p

variable {s t u : Chronicle} {e : Happening} {g id : String} {p : Partition} {o : Int}
  {allowed : Chronicle → Happening → Prop}

/-- A step that spares the group and the partition leaves what is committed. -/
theorem committed_after (h : Spares g p s e) :
    (s.after e).broker.committed? g p = s.broker.committed? g p := by
  cases e with
  | asked r =>
    refine Broker.committed?_perform ?_
    rintro id l a rfl hg hp hok
    exact h ⟨id, l, rfl, hg, hp, hok⟩
  | did c d =>
    refine Broker.committed?_done (s.done c d) ?_
    rintro x a l rfl hl hg hp hok
    exact h ⟨_, l, by rw [Happening.commit?, hl]; rfl, hg, hp, hok⟩

/-- And so does a row of such steps. -/
theorem committed_leads (h : Leads (Spares g p) s t) :
    t.broker.committed? g p = s.broker.committed? g p := by
  induction h with
  | refl => rfl
  | step _ ha ih => exact (committed_after ha).trans ih

/-- A row of steps leaves a sound broker sound. -/
theorem Leads.sound (h : Leads allowed s t) (hs : s.broker.Sound) : t.broker.Sound := by
  induction h with
  | refl => exact hs
  | step _ _ ih => exact sound_after ih _

/-- Along a row of steps no log goes back. -/
theorem Leads.advances (h : Leads allowed s t) : s.broker.topics.Advances t.broker.topics := by
  induction h with
  | refl => exact .refl _
  | step _ _ ih => exact ih.trans (advances_after _ _)

/-! ## Records that were told -/

/-- There is a log that has come to the number, or past it. -/
def Written (ts : Topics) (p : Partition) (o : Int) : Prop :=
  ∃ l, ts.log? p = some l ∧ 0 ≤ o ∧ o < l.high

/-- What was written stays written, though it may be dropped. -/
theorem Written.mono {ts ts' : Topics} (h : Written ts p o) (hts : ts.Advances ts') :
    Written ts' p o := by
  obtain ⟨l, hl, hnonneg, hlt⟩ := h
  obtain ⟨l', hl', _, hhigh⟩ := hts p l hl
  exact ⟨l', hl', hnonneg, by omega⟩

/-- A record that is found has been written. -/
theorem written_of_fetch {m : Member} {ts : Topics} {key payload : Option (List UInt8)}
    (h : (m.fetch ts).1 = some (.record p o key payload)) : Written ts p o := by
  obtain ⟨s, hs, hlook⟩ := Member.exists_slot_of_fetch h
  have hp : s.partition = p := Option.some.inj (Slot.partition_of_look hlook).symm
  unfold Slot.look at hlook
  split at hlook
  · cases hlook
  · next l hl =>
    have ht := (s.moved m.options.reset l).told_cases m.options.announcesEnd l
    generalize (s.moved m.options.reset l).told m.options.announcesEnd l = answer at hlook ht
    cases ht with
    | record hn hr =>
      cases hlook
      refine ⟨l, hp ▸ hl, Int.natCast_nonneg _, ?_⟩
      exact Int.ofNat_lt.mpr (Log.lt_high_of_get? hr).2
    | refusal | atEnd | nothing | refused => cases hlook

/-- What anybody was told has been written, and stays so. -/
theorem Reached.written (h : Reached allowed s) {x : Told} (hx : x ∈ s.told)
    {key payload : Option (List UInt8)} (hm : x.message = .record p o key payload) :
    Written s.broker.topics p o := by
  induction h with
  | start => cases hx
  | @step s e hs _ ih =>
    refine Written.mono ?_ (s.advances_after e)
    rcases List.mem_append.mp hx with hx | hx
    · obtain ⟨m, _, _, hf⟩ := of_mem_heard hx
      exact written_of_fetch (hf.trans (congrArg some hm))
    · exact ih hx

/-! ## Commits -/

/-- A commit of a message that goes well is a commit of the broker that
does. -/
theorem commitNow_of_outcome {b : Broker} {c : Consumer Seat} {x : Message} {l : PartitionList}
    (hl : Consumer.afterMessage? x = some l)
    (hok : (Happening.outcome b c (.commitMessage x false)).result = .ok none) :
    (b.commitNow c.transport.member l).result = .ok () := by
  have hcommit : (Consumer.commitMessage x false (c, ({ broker := b } : Cluster))).result =
      (b.commit c.transport.member l false).result.mapError .failure := by
    unfold Consumer.commitMessage
    rw [hl]
    rfl
  have hnow : b.commit c.transport.member l false = b.commitNow c.transport.member l := by
    unfold Broker.commit
    dsimp only
    split
    · next h => cases h
    · rfl
  unfold Happening.outcome at hok
  rw [Deed.act_commitMessage] at hok
  have hresult := Except.eq_ok_of_map hok
  rw [hresult, hnow] at hcommit
  exact Except.eq_ok_of_mapError hcommit.symm

/-- A record that is committed is committed up to the place behind it. -/
theorem committed_of_commitMessage {c : Consumer Seat} {key payload : Option (List UInt8)}
    (ho : 0 ≤ o) (hg : s.broker.Has g c.transport.member)
    (hok : (Happening.outcome s.broker c
      (.commitMessage (.record p o key payload) false)).result = .ok none) :
    (s.after (.did c (.commitMessage (.record p o key payload) false))).broker.committed? g p =
      some (o + 1) := by
  obtain ⟨m, hm, rfl⟩ := hg
  have hoffset : Offset.ofRaw (o + 1) = .number (o + 1) := Offset.ofRaw_of_nonneg (by omega)
  have hl : Consumer.afterMessage? (.record p o key payload) =
      some [⟨p, .number (o + 1)⟩] := by rw [← hoffset]; rfl
  have hnow := commitNow_of_outcome hl hok
  have hafter : (s.after (.did c (.commitMessage (.record p o key payload) false))).broker =
      (s.broker.commitNow c.transport.member [⟨p, .number (o + 1)⟩]).broker := by
    rw [← Broker.broker_commit _ _ _ false]
    have hstate := Consumer.commitMessage_of_some c { broker := s.broker } hl false
    show (Deed.act _ _).state.2.broker = _
    rw [Deed.act_commitMessage, hstate]
  rw [hafter]
  unfold Broker.commitNow at hnow ⊢
  rw [hm] at hnow ⊢
  dsimp only at hnow ⊢
  rw [if_neg (by simp)] at hnow ⊢
  split at hnow
  · cases hnow
  · next hf =>
    show ((s.broker.putCommitted m.group p (o + 1)).committed? m.group p) = _
    rw [Broker.committed?_putCommitted, if_pos ⟨rfl, rfl⟩]

/-- Whoever begins where the group has come to begins there, or past it
where that is no longer kept. -/
theorem startPosition_committed {asked : Offset} {l : Log} (policy : ResetPolicy) {n : Int}
    (hasked : asked = .stored ∨ asked = .invalid) (hn : n ≤ l.high) :
    (l.low ≤ n → ∃ k : Nat, startPosition asked (some n) l policy = some k ∧ (k : Int) = n) ∧
      ∀ k, startPosition asked (some n) l policy = some k → n ≤ k := by
  have hstands : asked.StandsFor (some n) l n := by
    rcases hasked with rfl | rfl
    · exact .stored rfl
    · exact .invalid rfl
  refine ⟨fun hlow => startPosition_of_standsFor hstands hlow hn policy, fun k hk => ?_⟩
  by_cases hlow : l.low ≤ n
  · obtain ⟨k', hk', rfl⟩ := startPosition_of_standsFor hstands hlow hn policy
    cases hk.symm.trans hk'
    exact Int.le_refl _
  · have := (mem_log_of_startPosition hk).1
    omega

end Chronicle

/-- Of what is heard in order, nothing lies before where reading began. -/
theorem InOrder.le {policy : ResetPolicy} {start : Option Nat} {heard : List Read} {n : Int}
    (h : InOrder policy start heard) (hstart : ∀ k, start = some k → n ≤ k) :
    ∀ r ∈ heard, ∀ k, r.record? = some k → n ≤ k := by
  induction heard with
  | nil => exact fun r hr => absurd hr List.not_mem_nil
  | cons r heard ih =>
    obtain ⟨hrest, hfollows⟩ := h
    have hbefore := ih hrest
    refine List.forall_mem_cons.mpr ⟨fun k hk => ?_, hbefore⟩
    obtain ⟨_, q, hq, hgoes⟩ := hfollows.record k hk
    have hforward := hgoes.forward
    unfold Read.reached at hq
    split at hq
    · obtain ⟨k', hk', rfl⟩ := Option.map_eq_some_iff.mp hq
      have := hstart k' hk'
      exact Int.le_trans this hforward
    · next o rest hrecords =>
      cases hq
      obtain ⟨r', hr', ho⟩ := List.mem_filterMap.mp (hrecords ▸ List.mem_cons_self)
      have := hbefore r' hr' o ho
      omega

namespace Chronicle

variable {s u : Chronicle} {e : Happening} {g id : String} {p : Partition} {o : Int}
  {allowed : Chronicle → Happening → Prop}

/-- Where whoever is assigned a partition from where its group has come to
begins, and what it can hear of it after that. -/
theorem starts_of_committed (hs : u.broker.Sound) (hw : Written u.broker.topics p o)
    (hcommitted : u.broker.committed? g p = some (o + 1)) {l : PartitionList}
    (ha : e.Assigns u.broker id l) (hid : u.broker.Has g id) {entry : PartitionOffset}
    (hentry : entry ∈ l) (hp : entry.partition = p)
    (hoffset : entry.offset = .stored ∨ entry.offset = .invalid) :
    ∃ log m, u.broker.log? p = some log ∧ (u.after e).broker.member? id = some m ∧
      (log.low ≤ o + 1 → ∃ n : Nat, m.position? p = some n ∧ (n : Int) = o + 1) ∧
      ∀ v heard, Stretch id p (u.after e) v heard →
        ∀ r ∈ heard, ∀ n, r.record? = some n → o < n := by
  obtain ⟨log, hlog, _, hhigh⟩ := hw
  obtain ⟨m, m', hm, hnodup, hslots, ho, hm', hts⟩ := assigned_after ha
  obtain ⟨m₀, hm₀, rfl⟩ := hid
  cases hm.symm.trans hm₀
  have hheld : m'.held = l.partitions := Broker.map_partition_slots hslots
  -- Each partition is asked for once, so that its slot begins where the entry says.
  obtain ⟨slot, hslot, hpartition⟩ : ∃ slot ∈ m'.assignment, slot.partition = p := by
    have hmem : p ∈ m'.held := hheld ▸ hp ▸ List.mem_map_of_mem hentry
    exact List.mem_map.mp hmem
  obtain ⟨entry', hentry', log', hlog', hsame, hposition⟩ := Broker.mem_slots hslots hslot
  have hunique : entry' = entry :=
    List.inj_on_of_nodup_map hnodup hentry' hentry (hsame.symm.trans (hpartition.trans hp.symm))
  subst hunique
  rw [hp] at hlog' hposition
  cases hlog'.symm.trans hlog
  have hstart : m'.position? p =
      startPosition entry'.offset (some (o + 1)) log m.options.reset := by
    rw [← hpartition, Member.position?_of_mem (hheld ▸ hnodup) hslot, hposition, hcommitted]
  obtain ⟨hexact, hbehind⟩ :=
    startPosition_committed m.options.reset hoffset (show o + 1 ≤ log.high by omega)
  refine ⟨log, m', hlog, hm', fun hlow => hstart ▸ hexact hlow, ?_⟩
  intro v heard hst r hr n hn
  obtain ⟨m'', hm'', _, htells⟩ := tells_assigned ha
  cases hm''.symm.trans hm'
  have horder := (hst.tells (sound_after hs e) (htells p)).inOrder
  have hle := horder.le (n := o + 1) (fun k hk => hbehind k (hstart ▸ hk)) r hr n hn
  omega

/-- A group that has committed a record it was told resumes behind it:
whoever of the group is assigned the partition from where the group has
come to begins there, if that is still kept, and in no case hears of the
record, or of one before it, again. -/
theorem Reached.resumes (h : Reached allowed s) {x : Told} (hx : x ∈ s.told)
    {key payload : Option (List UInt8)} (hm : x.message = .record p o key payload)
    {c : Consumer Seat} (hg : s.broker.Has g c.transport.member)
    (hok : (Happening.outcome s.broker c
      (.commitMessage (.record p o key payload) false)).result = .ok none)
    (hl : Leads (Spares g p) (s.after (.did c (.commitMessage (.record p o key payload) false))) u)
    {l : PartitionList} (ha : e.Assigns u.broker id l) (hid : u.broker.Has g id)
    {entry : PartitionOffset} (hentry : entry ∈ l) (hp : entry.partition = p)
    (hoffset : entry.offset = .stored ∨ entry.offset = .invalid) :
    ∃ log m, u.broker.log? p = some log ∧ (u.after e).broker.member? id = some m ∧
      (log.low ≤ o + 1 → ∃ n : Nat, m.position? p = some n ∧ (n : Int) = o + 1) ∧
      ∀ v heard, Stretch id p (u.after e) v heard →
        ∀ r ∈ heard, ∀ n, r.record? = some n → o < n := by
  have hw := h.written hx hm
  have hnonneg : 0 ≤ o := hw.elim fun _ h => h.2.1
  have hcommitted := (committed_leads hl).trans (committed_of_commitMessage hnonneg hg hok)
  have hs := sound_after h.sound (.did c (.commitMessage (.record p o key payload) false))
  have hw' := hw.mono ((s.advances_after _).trans hl.advances)
  exact starts_of_committed (hl.sound hs) hw' hcommitted ha hid hentry hp hoffset

/-- The first member commits the first record and leaves, and the second
comes: it begins behind that record. -/
theorem resumes_threeWait :
    let c : Consumer Seat := { transport := ⟨"kafka_group-1", "g"⟩ }
    let d : Consumer Seat := { transport := ⟨"kafka_group-2", "g"⟩ }
    let s := ((run threeWait).after (.did c .look)).after (.did c .look)
    let t := s.after (.did c (.commitMessage (.record ⟨"t", 0⟩ 0 none (some [1])) false))
    let u := ((t.after (.did c .close)).after (.asked (.connect (Configuration.ofPairs
      [("auto.offset.reset", "latest"), ("group.id", "g")])))).after
        (.asked (.member "kafka_group-2" (.subscribe ["t"])))
    ⟨"g", .record ⟨"t", 0⟩ 0 none (some [1])⟩ ∈ s.told ∧
      ∃ log m, u.broker.log? ⟨"t", 0⟩ = some log ∧
        (u.after (.did d .look)).broker.member? "kafka_group-2" = some m ∧
        ((log.low : Int) ≤ 0 + 1 → ∃ n : Nat, m.position? ⟨"t", 0⟩ = some n ∧ (n : Int) = 0 + 1) ∧
        ∀ v heard, Stretch "kafka_group-2" ⟨"t", 0⟩ (u.after (.did d .look)) v heard →
          ∀ r ∈ heard, ∀ n, r.record? = some n → 0 < n := by
  intro c d s t u
  have hreached : Reached (fun _ _ => True) s :=
    .step (.step (.step (.step (.step (.step (.step (.step (.start _) trivial) trivial) trivial)
      trivial) trivial) trivial) trivial) trivial
  have htold : (⟨"g", .record ⟨"t", 0⟩ 0 none (some [1])⟩ : Told) ∈ s.told := by decide +kernel
  have hassigns : (Happening.did d .look).Assigns u.broker "kafka_group-2"
      [⟨⟨"t", 0⟩, .invalid⟩] := by
    refine ⟨rfl, ?_, ?_⟩
    · exact List.mem_of_getElem? (i := 2) (by decide +kernel)
    · decide +kernel
  have hspared {s : Chronicle} {e : Happening} (he : e.commit? = none) : Spares "g" ⟨"t", 0⟩ s e := by
    rintro ⟨_, _, h, _⟩
    cases he.symm.trans h
  have hspares : Leads (Spares "g" ⟨"t", 0⟩) t u :=
    .step (.step (.step .refl (hspared rfl)) (hspared rfl)) (hspared rfl)
  have hok : (Happening.outcome s.broker c
      (.commitMessage (.record ⟨"t", 0⟩ 0 none (some [1])) false)).result = .ok none := by
    decide +kernel
  exact ⟨htold, Reached.resumes hreached htold rfl (by decide +kernel) hok hspares hassigns
    (by decide +kernel) (List.mem_singleton.mpr rfl) rfl (.inr rfl)⟩

end Chronicle

end ConsumerGroup
