import ConsumerGroup.Proofs.Broker.Frame
import ConsumerGroup.Proofs.Broker.Sparing
import Mathlib.Data.List.Induction

/-!
# What a commit does

A list of offsets is committed as a whole or not at all: if it names
anything, and every entry names a partition there is and carries a number,
whatever number that is. Otherwise the first entry that does not decides
how the commit is refused (`Broker.Offends`).

Whoever of the group asks for the committed offsets afterwards is told the
last number that the list gives for a partition, and for a partition that it
does not name what he would have been told before. Nothing else changes, and
whether the commit is waited for makes no difference to what it leaves
behind (`Broker.Commits`).

Where the ends of a log lie plays no part: a number outside the log can be
committed, and it is for whoever begins to read there to find that it is not
there (`startPosition`).
-/

namespace ConsumerGroup

namespace PartitionList

/-- The last entry for a partition. -/
def last? (l : PartitionList) (p : Partition) : Option PartitionOffset := find? l.reverse p

/-- The last entry for a partition is the one that comes last. -/
theorem last?_append (l : PartitionList) (e : PartitionOffset) (p : Partition) :
    last? (l ++ [e]) p = if e.partition = p then some e else l.last? p := by
  unfold last? find?
  rw [List.reverse_append, List.reverse_singleton, List.singleton_append, List.find?_cons]
  by_cases h : e.partition = p
  · rw [if_pos h, beq_iff_eq.mpr h]
  · rw [if_neg h, beq_eq_false_iff_ne.mpr h]

/-- It is an entry of the list, and names the partition. -/
theorem of_last? {l : PartitionList} {p : Partition} {e : PartitionOffset}
    (h : l.last? p = some e) : e ∈ l ∧ e.partition = p :=
  ⟨List.mem_reverse.mp (List.mem_of_find?_eq_some h), by simpa using List.find?_some h⟩

end PartitionList

namespace Broker

variable {b : Broker} {l : PartitionList}

/-! ## What can be committed -/

/-- The entry names a partition there is, and carries a number. -/
def Committable (b : Broker) (e : PartitionOffset) : Prop :=
  (b.log? e.partition).isSome ∧ ∃ n, e.offset = .number n

/-- The entry cannot be committed, and how that is refused: that there is no
such partition comes before that there is no number. -/
inductive Offends (b : Broker) (e : PartitionOffset) : StatusCode → Prop
  | unknown (h : b.log? e.partition = none) : Offends b e .unknownTopicOrPartition
  | noNumber (h : (b.log? e.partition).isSome) (hn : ∀ n, e.offset ≠ .number n) :
    Offends b e .invalidArgument

/-- What offends is not committed. -/
theorem Offends.not_committable {e : PartitionOffset} {code : StatusCode} (h : b.Offends e code) :
    ¬ b.Committable e := by
  rintro ⟨hlog, n, hn⟩
  cases h with
  | unknown h => rw [h] at hlog; cases hlog
  | noNumber _ hne => exact hne n hn

/-- An entry that can be committed leaves the fault to the entries behind it. -/
theorem commitFault?_cons_of_committable {e : PartitionOffset} (h : b.Committable e) :
    b.commitFault? (e :: l) = b.commitFault? l := by
  obtain ⟨hlog, n, hn⟩ := h
  rw [commitFault?, if_neg (by simpa [Option.isSome_iff_ne_none] using hlog),
    if_neg (by simp [hn, Offset.number?])]

/-- The first entry that offends is the one whose code is told. -/
theorem commitFault?_cons_of_offends {e : PartitionOffset} {code : StatusCode}
    (h : b.Offends e code) : b.commitFault? (e :: l) = some code := by
  cases h with
  | unknown h => rw [commitFault?, if_pos (by simp [h])]
  | noNumber h hn =>
    have hnone : e.offset.number?.isNone := by
      cases ho : e.offset with
      | number n => exact absurd ho (hn n)
      | beginning | ending | stored | invalid => rfl
    rw [commitFault?, if_neg (by simpa [Option.isSome_iff_ne_none] using h), if_pos hnone]

/-- An entry can be committed, or it offends. -/
theorem committable_or_offends (b : Broker) (e : PartitionOffset) :
    b.Committable e ∨ ∃ code, b.Offends e code := by
  cases hlog : b.log? e.partition with
  | none => exact .inr ⟨_, .unknown hlog⟩
  | some log =>
    have hsome : (b.log? e.partition).isSome := by rw [hlog]; rfl
    by_cases hn : ∃ n, e.offset = .number n
    · exact .inl ⟨hsome, hn⟩
    · exact .inr ⟨_, .noNumber hsome fun n h => hn ⟨n, h⟩⟩

/-- Nothing is wrong with a list of entries that can be committed. -/
theorem commitFault?_eq_none_iff :
    b.commitFault? l = none ↔ ∀ e ∈ l, b.Committable e := by
  induction l with
  | nil => simp [commitFault?]
  | cons e l ih =>
    rcases b.committable_or_offends e with he | ⟨code, he⟩
    · rw [commitFault?_cons_of_committable he, ih, List.forall_mem_cons]
      exact (and_iff_right he).symm
    · rw [commitFault?_cons_of_offends he]
      exact iff_of_false nofun fun h => he.not_committable (h e List.mem_cons_self)

/-- The first entry that offends decides. -/
theorem commitFault?_append {before rest : PartitionList} {e : PartitionOffset} {code : StatusCode}
    (hbefore : ∀ x ∈ before, b.Committable x) (he : b.Offends e code) :
    b.commitFault? (before ++ e :: rest) = some code := by
  induction before with
  | nil => exact commitFault?_cons_of_offends he
  | cons x before ih =>
    obtain ⟨hx, hbefore⟩ := List.forall_mem_cons.mp hbefore
    rw [List.cons_append, commitFault?_cons_of_committable hx]
    exact ih hbefore

/-! ## What is read back -/

/-- After a list of numbers has been committed, the last number for a
partition counts. -/
theorem committed?_putAllCommitted (b : Broker) (g : String) (hl : ∀ e ∈ l, b.Committable e)
    (p : Partition) : (b.putAllCommitted g l).committed? g p =
      match l.last? p with
      | some e => e.offset.number?
      | none => b.committed? g p := by
  induction l using List.reverseRecOn with
  | nil => rfl
  | append_singleton l e ih =>
    obtain ⟨hl, he⟩ := List.forall_mem_append.mp hl
    obtain ⟨-, n, hn⟩ := he e (List.mem_singleton_self e)
    have hput : b.putAllCommitted g (l ++ [e]) =
        (b.putAllCommitted g l).putCommitted g e.partition n := by
      unfold putAllCommitted
      rw [List.foldl_append, List.foldl_cons, List.foldl_nil, hn]
      rfl
    rw [hput, committed?_putCommitted, ih hl, PartitionList.last?_append]
    by_cases hp : e.partition = p
    · rw [if_pos ⟨rfl, hp.symm⟩, if_pos hp]
      exact (congrArg Offset.number? hn).symm
    · rw [if_neg fun h => hp h.2.symm, if_neg hp]

/-- The offset a group has committed for a partition, as an answer. -/
def committedOffset (b : Broker) (g : String) (p : Partition) : Offset :=
  match b.committed? g p with
  | some n => .number n
  | none => .invalid

/-- Whoever asks for partitions there are is told of each in its place. -/
theorem committedFor_eq {id : String} {m : Member} (hm : b.member? id = some m) {q : PartitionList}
    (hq : ∀ e ∈ q, (b.log? e.partition).isSome) :
    b.committedFor id q =
      .ok (q.map fun e => { e with offset := b.committedOffset m.group e.partition }) := by
  unfold committedFor member
  rw [hm]
  change q.mapM _ = _
  induction q with
  | nil => rfl
  | cons e q ih =>
    obtain ⟨he, hq⟩ := List.forall_mem_cons.mp hq
    obtain ⟨log, hlog⟩ := Option.isSome_iff_exists.mp he
    rw [List.mapM_cons, ih hq]
    unfold Broker.log
    rw [hlog]
    rfl

/-- What is told of a partition after a commit: the last entry for it, or
what was told before. -/
theorem told_of_last? (hl : ∀ e ∈ l, b.Committable e) (g : String) (e : PartitionOffset) :
    { e with offset := (b.putAllCommitted g l).committedOffset g e.partition } =
      (l.last? e.partition).getD { e with offset := b.committedOffset g e.partition } := by
  unfold committedOffset
  rw [committed?_putAllCommitted b g hl]
  cases hlast : l.last? e.partition with
  | none => rfl
  | some e' =>
    obtain ⟨hmem, hp⟩ := PartitionList.of_last? hlast
    obtain ⟨-, n, hn⟩ := hl e' hmem
    obtain ⟨p', o'⟩ := e'
    cases hp
    cases hn
    rfl

/-! ## Commits -/

/-- What comes of a commit of a list by a member: `now` if it is waited for,
`later` if it is not. -/
structure Commits (b : Broker) (m : Member) (l : PartitionList) (now later : Effect Unit) :
    Prop where
  accepted : now.result = .ok () ↔ l ≠ [] ∧ ∀ e ∈ l, b.Committable e
  empty : l = [] → now.result = .error (.ofCode .noOffset)
  /-- The first entry that offends decides. -/
  offended : ∀ before e rest code, l = before ++ e :: rest → (∀ x ∈ before, b.Committable x) →
    b.Offends e code → now.result = .error (.ofCode code)
  refused : now.result ≠ .ok () → now.broker = b
  /-- Whoever of the group asks is told the last offset that the list gives
  for a partition, and else what was told before. -/
  told : now.result = .ok () → ∀ id' m', b.member? id' = some m' → m'.group = m.group →
    ∀ q : PartitionList, (∀ e ∈ q, (b.log? e.partition).isSome) →
      ∃ before after : PartitionList, b.committedFor id' q = .ok before ∧
        now.broker.committedFor id' q = .ok after ∧ after.SamePartitions q ∧
        after = before.map fun e => (l.last? e.partition).getD e
  others : ∀ g, g ≠ m.group → ∀ p, now.broker.committed? g p = b.committed? g p
  /-- Nothing changes but what is committed. -/
  frame : now.broker = { b with committed := now.broker.committed }
  /-- Whether it is waited for makes no difference to what it leaves
  behind. -/
  unawaited : later.result = .ok () ∧ later.broker = now.broker

section Commit

variable {id : String} {m : Member}

/-- To commit nothing is refused. -/
theorem commitNow_nil (hm : b.member? id = some m) : b.commitNow id [] = b.refuse .noOffset := by
  unfold commitNow
  rw [hm]
  rfl

/-- If any entry offends, none is committed. -/
theorem commitNow_of_fault (hm : b.member? id = some m) (hl : l ≠ []) {code : StatusCode}
    (h : b.commitFault? l = some code) : b.commitNow id l = b.refuse code := by
  unfold commitNow
  rw [hm]
  dsimp only
  rw [if_neg (by simpa using hl), h]

/-- Entries that can all be committed are, in their order. -/
theorem commitNow_of_committable (hm : b.member? id = some m) (hl : l ≠ [])
    (h : ∀ e ∈ l, b.Committable e) :
    b.commitNow id l = { result := .ok (), broker := b.putAllCommitted m.group l } := by
  unfold commitNow
  rw [hm]
  dsimp only
  rw [if_neg (by simpa using hl), commitFault?_eq_none_iff.mpr h]

/-- A commit that is done is one of a list that can be committed. -/
theorem committable_of_commitNow (hm : b.member? id = some m)
    (h : (b.commitNow id l).result = .ok ()) : l ≠ [] ∧ ∀ e ∈ l, b.Committable e := by
  have hl : l ≠ [] := by
    rintro rfl
    rw [commitNow_nil hm] at h
    cases h
  refine ⟨hl, ?_⟩
  cases hfault : b.commitFault? l with
  | none => exact commitFault?_eq_none_iff.mp hfault
  | some code =>
    rw [commitNow_of_fault hm hl hfault] at h
    cases h

/-- A commit that is waited for is done at once. -/
theorem commit_awaited (b : Broker) (id : String) (l : PartitionList) :
    b.commit id l false = b.commitNow id l := by
  unfold commit
  dsimp only
  split
  · next h => cases h
  · rfl

/-- A commit that is not waited for is never refused. -/
theorem result_commit_unawaited (b : Broker) (id : String) (l : PartitionList) :
    (b.commit id l true).result = .ok () := by
  unfold commit
  dsimp only
  split
  · rfl
  · next h =>
    cases hr : (b.commitNow id l).result with
    | ok _ => rfl
    | error f => exact absurd rfl (h f hr)

/-- A commit leaves the broker as it was, or all of the list is
committed. -/
theorem broker_commitNow (hm : b.member? id = some m) (l : PartitionList) :
    (b.commitNow id l).result ≠ .ok () ∧ (b.commitNow id l).broker = b ∨
      (b.commitNow id l).result = .ok () ∧
        (b.commitNow id l).broker = b.putAllCommitted m.group l := by
  cases hr : (b.commitNow id l).result with
  | error f =>
    refine .inl ⟨nofun, ?_⟩
    rw [b.sparing_commitNow id l f hr]
    rfl
  | ok _ =>
    obtain ⟨hl, hall⟩ := committable_of_commitNow hm hr
    refine .inr ⟨rfl, ?_⟩
    rw [commitNow_of_committable hm hl hall]

/-- What comes of a commit by a member that has not left. -/
theorem commits_commit (hm : b.member? id = some m) (l : PartitionList) :
    b.Commits m l (b.commit id l false) (b.commit id l true) := by
  have hcases := broker_commitNow hm l
  rw [commit_awaited]
  constructor
  case accepted =>
    refine ⟨committable_of_commitNow hm, fun ⟨hl, hall⟩ => ?_⟩
    rw [commitNow_of_committable hm hl hall]
  case empty =>
    rintro rfl
    rw [commitNow_nil hm]
    rfl
  case offended =>
    rintro before e rest code rfl hbefore he
    rw [commitNow_of_fault hm (by simp) (commitFault?_append hbefore he)]
    rfl
  case refused =>
    intro hne
    obtain ⟨-, hb⟩ | ⟨hok, -⟩ := hcases
    · exact hb
    · exact absurd hok hne
  case told =>
    intro hok id' m' hm' hg q hq
    obtain ⟨hl, hall⟩ := committable_of_commitNow hm hok
    obtain ⟨htopics, hmembers, -⟩ := b.putAllCommitted_frame m.group l
    rw [commitNow_of_committable hm hl hall]
    have hm'' : (b.putAllCommitted m.group l).member? id' = some m' := by
      unfold member?
      rwa [hmembers]
    have hq' : ∀ e ∈ q, ((b.putAllCommitted m.group l).log? e.partition).isSome := by
      unfold Broker.log?
      rwa [htopics]
    refine ⟨_, _, committedFor_eq hm' hq, committedFor_eq hm'' hq', ?_, ?_⟩
    · simp [PartitionList.SamePartitions, PartitionList.partitions]
    · rw [List.map_map, hg]
      exact List.map_congr_left fun e _ => told_of_last? hall m.group e
  case others =>
    intro g hg p
    obtain ⟨-, hb⟩ | ⟨-, hb⟩ := hcases
    · rw [hb]
    · rw [hb, committed?_putAllCommitted_of_ne b hg]
  case frame =>
    obtain ⟨-, hb⟩ | ⟨-, hb⟩ := hcases
    · rw [hb]
    · rw [hb]
      exact b.putAllCommitted_eq m.group l
  case unawaited => exact ⟨b.result_commit_unawaited id l, b.broker_commit id l true⟩

/-- Of two numbers for a partition the last counts, also below zero, and
another member of the group reads it back. -/
theorem commits_commit_twice :
    let member (id : String) : Member := { id, options := { group := "g" } }
    let b : Broker := { topics := { toList := [⟨"t", [{}, {}]⟩] }, members := [member "a", member "b"] }
    let p : Partition := ⟨"t", 0⟩
    let q : Partition := ⟨"t", 1⟩
    let after := (b.commit "a" [⟨p, .number 4⟩, ⟨p, .number (-7)⟩] false).broker
    after.committedFor "b" [⟨q, .ending⟩, ⟨p, .stored⟩] =
      .ok [⟨q, .invalid⟩, ⟨p, .number (-7)⟩] := by
  intro member b p q after
  have hm : b.member? "a" = some (member "a") := rfl
  have h := commits_commit hm [⟨p, .number 4⟩, ⟨p, .number (-7)⟩]
  obtain ⟨before, told, hbefore, htold, -, rfl⟩ := h.told rfl "b" (member "b") rfl rfl
    [⟨q, .ending⟩, ⟨p, .stored⟩] (by decide)
  cases hbefore
  exact htold

end Commit

end Broker

end ConsumerGroup
