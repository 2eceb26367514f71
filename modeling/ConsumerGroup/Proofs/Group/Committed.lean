import ConsumerGroup.Proofs.Group.Resume

/-!
# What groups have committed

Where nobody commits anything but messages that polls have brought, be it
to whom and when it may, whatever a group has committed lies in the log:
behind its first record and not behind its end
(`Reached.committed_mem_log`). The end only moves on, and so a message can
be kept for as long as one likes before it is committed, also while the
record itself is dropped.

Of what polls bring only records are ever committed. A notice carries an
offset too, which is the end of a log or no place at all; but it is
refused before the transport hears of it.

A number that a group has committed was committed before the step or is put
down by it (`committed_after_cases`), and the induction on the run has to
look at nothing else. Whoever commits numbers of his own choice is left out:
any number can be committed for a partition there is.
-/

namespace ConsumerGroup

namespace Broker

variable {b : Broker} {g g' : String} {p : Partition} {n : Int} {l : PartitionList}

/-- What is committed after a list was committed before, or is a number
of the list. -/
theorem committed?_putAllCommitted_cases (h : (b.putAllCommitted g' l).committed? g p = some n) :
    b.committed? g p = some n ∨ ∃ e ∈ l, e.partition = p ∧ e.offset.number? = some n := by
  unfold putAllCommitted at h
  induction l generalizing b with
  | nil => exact .inl h
  | cons e l ih =>
    rw [List.foldl_cons] at h
    rcases ih h with hrest | ⟨e', he', hnumber⟩
    · split at hrest
      · next k hk =>
        rw [committed?_putCommitted] at hrest
        split at hrest
        · next hsame =>
          cases hrest
          exact .inr ⟨e, List.mem_cons_self, hsame.2.symm, hk⟩
        · exact .inl hrest
      · exact .inl hrest
    · exact .inr ⟨e', List.mem_cons_of_mem _ he', hnumber⟩

/-- The same of a commit, whether it is refused or not. -/
theorem committed?_commit_cases {id : String} {asynchronous : Bool}
    (h : (b.commit id l asynchronous).broker.committed? g p = some n) :
    b.committed? g p = some n ∨ ∃ e ∈ l, e.partition = p ∧ e.offset.number? = some n := by
  rw [broker_commit] at h
  unfold commitNow at h
  split at h
  · exact .inl h
  · split at h
    · exact .inl h
    · split at h
      · exact .inl h
      · exact committed?_putAllCommitted_cases h

end Broker

namespace Happening

/-- A step that commits something leaves the broker as the commit does. -/
theorem broker_of_commit? {e : Happening} {id : String} {l : PartitionList}
    (h : e.commit? = some (id, l)) (b : Broker) :
    ∃ asynchronous, e.broker b = (b.commit id l asynchronous).broker := by
  unfold commit? at h
  split at h
  · next asynchronous =>
    cases h
    exact ⟨asynchronous, rfl⟩
  · next c x asynchronous =>
    obtain ⟨_, hl, hsame⟩ := Option.map_eq_some_iff.mp h
    cases hsame
    refine ⟨asynchronous, ?_⟩
    show ((Deed.commitMessage x asynchronous).act (c, { broker := b })).state.2.broker = _
    rw [Deed.act_commitMessage, Consumer.commitMessage_of_some c { broker := b } hl asynchronous]
  · cases h

end Happening

namespace Chronicle

/-- Nobody commits anything but messages that a poll has brought to
anybody; one that brings no message brings the empty one. -/
def Retold (s : Chronicle) : Happening → Prop
  | .asked (.member _ (.commit _ _)) => False
  | .did _ (.commitMessage x _) => x = .empty ∨ ∃ t ∈ s.told, t.message = x
  | _ => True

variable {s : Chronicle} {e : Happening} {g : String} {p : Partition} {n : Int}

/-- Of what was brought, a commit puts down the number behind a record. -/
theorem Retold.told_of_commit? (h : Retold s e) {id : String} {l : PartitionList}
    (hl : e.commit? = some (id, l)) {entry : PartitionOffset} (hentry : entry ∈ l)
    (hn : entry.offset.number? = some n) :
    ∃ t ∈ s.told, ∃ k key payload,
      t.message = .record entry.partition k key payload ∧ n = k + 1 := by
  unfold Happening.commit? at hl
  split at hl
  · exact False.elim h
  · next c x asynchronous =>
    obtain ⟨_, hafter, hsame⟩ := Option.map_eq_some_iff.mp hl
    cases hsame
    cases x with
    | record q k key payload =>
      cases hafter
      rw [List.mem_singleton.mp hentry] at hn ⊢
      obtain hempty | ⟨t, ht, hmessage⟩ := h
      · cases hempty
      · exact ⟨t, ht, k, key, payload, hmessage, Offset.eq_of_number?_ofRaw hn⟩
    | empty | notice => cases hafter
  · cases hl

/-- What is committed after a step was committed before it, or is a
number that the step puts down. -/
theorem committed_after_cases (h : (s.after e).broker.committed? g p = some n) :
    s.broker.committed? g p = some n ∨ ∃ id l, e.commit? = some (id, l) ∧
      ∃ entry ∈ l, entry.partition = p ∧ entry.offset.number? = some n := by
  cases hcommit : e.commit? with
  | none =>
    have hspares : Spares g p s e := by
      rintro ⟨id, l, hl, _⟩
      cases hcommit.symm.trans hl
    exact .inl (committed_after hspares ▸ h)
  | some committed =>
    obtain ⟨id, l⟩ := committed
    obtain ⟨asynchronous, hb⟩ := Happening.broker_of_commit? hcommit s.broker
    change (e.broker s.broker).committed? g p = some n at h
    rw [hb] at h
    exact (Broker.committed?_commit_cases h).imp_right fun hentry => ⟨id, l, rfl, hentry⟩

/-- Whatever is committed is the number behind a record that somebody was
told. -/
theorem Reached.told_of_committed (h : Reached Retold s)
    (hn : s.broker.committed? g p = some n) :
    ∃ t ∈ s.told, ∃ k key payload, t.message = .record p k key payload ∧ n = k + 1 := by
  induction h with
  | start => cases hn
  | @step s e _ ha ih =>
    have kept : ∀ t ∈ s.told, t ∈ (s.after e).told := fun t ht => List.mem_append_right _ ht
    rcases committed_after_cases hn with hbefore | ⟨id, l, hl, entry, hentry, rfl, hnumber⟩
    · obtain ⟨t, ht, htold⟩ := ih hbefore
      exact ⟨t, kept t ht, htold⟩
    · obtain ⟨t, ht, htold⟩ := ha.told_of_commit? hl hentry hnumber
      exact ⟨t, kept t ht, htold⟩

/-- Whatever a group has committed for a partition lies in its log, behind
the first record there ever was and not behind the end; and a message that
is no record is refused, whatever the transport, without asking it. -/
theorem Reached.committed_mem_log (h : Reached Retold s) :
    (∀ g p n, s.broker.committed? g p = some n →
      ∃ l, s.broker.log? p = some l ∧ 1 ≤ n ∧ n ≤ l.high) ∧
    ∀ (H W : Type) [Transport H W] (c : Consumer H) (w : W) (x : Message) (asynchronous : Bool),
      x.isRecord = false →
        Consumer.commitMessage x asynchronous (c, w) =
          ⟨.error (.failure (.ofCode .invalidArgument)), (c, w), []⟩ := by
  refine ⟨fun g p n hn => ?_, ?_⟩
  · obtain ⟨t, ht, k, key, payload, hmessage, rfl⟩ := h.told_of_committed hn
    obtain ⟨l, hl, hnonneg, hlt⟩ := h.written ht hmessage
    exact ⟨l, hl, by omega, by omega⟩
  · intro H W _ c w x asynchronous hx
    cases x with
    | record => cases hx
    | empty | notice => rfl

/-- A record is told to one group, and then dropped together with the one
behind it; and only then a member of another group commits it. -/
def committedLate : List Happening :=
  [.asked (.createTopic "t" 1),
    .asked (.produce ⟨"t", 0⟩ none [1]),
    .asked (.produce ⟨"t", 0⟩ none [2]),
    .asked (.connect (Configuration.ofPairs
      [("auto.offset.reset", "earliest"), ("group.id", "g")])),
    .asked (.member "kafka_group-1" (.subscribe ["t"])),
    .did { transport := ⟨"kafka_group-1", "g"⟩ } .look,
    .did { transport := ⟨"kafka_group-1", "g"⟩ } .look,
    .asked (.deleteRecords ⟨"t", 0⟩ 2),
    .asked (.connect (Configuration.ofPairs [("group.id", "h")])),
    .did { transport := ⟨"kafka_group-2", "h"⟩ }
      (.commitMessage (.record ⟨"t", 0⟩ 0 none (some [1])) true)]

/-- The other group has then come to the place behind the record, though
nothing before the end of the log is kept. -/
theorem committed_mem_log_committedLate :
    Reached Retold (run committedLate) ∧
      (run committedLate).broker.committed? "h" ⟨"t", 0⟩ = some 1 ∧
      ∃ l, (run committedLate).broker.log? ⟨"t", 0⟩ = some l ∧ (1 : Int) ≤ 1 ∧ 1 ≤ (l.high : Int) := by
  have h : Reached Retold (run committedLate) := by
    refine .step (.step (.step (.step (.step (.step (.step (.step (.step (.step (.start _) trivial)
      trivial) trivial) trivial) trivial) trivial) trivial) trivial) trivial) (.inr ?_)
    have htold : (⟨"g", .record ⟨"t", 0⟩ 0 none (some [1])⟩ : Told) ∈
        (run (committedLate.take 9)).told := by decide +kernel
    exact ⟨_, htold, rfl⟩
  have hn : (run committedLate).broker.committed? "h" ⟨"t", 0⟩ = some 1 := by decide +kernel
  exact ⟨h, hn, (Reached.committed_mem_log h).1 _ _ _ hn⟩

end Chronicle

end ConsumerGroup
