import ConsumerGroup.Broker.Log
import Mathlib.Data.List.Flatten
import Mathlib.Data.List.Nodup
import Mathlib.Data.String.Basic
import Mathlib.Tactic.Common

/-!
# Topics and what changes them

The topics of a broker change in two ways only: a new one is put into
its place (`insert`), and the log of a partition changes (`modifyLog`).
Either way the names go on ascending, which `Topics` carries with it, so
no name is there twice and nothing has to be assumed of the topics here.

What is proved is how these two look through the views everything else
uses: the partitions there are, and the log of a partition.

* The partitions there are ascend, by topic and by number
  (`pairwise_partitions`): the place of a partition among them, or among
  some of them, is its rank.
* They only grow, and they grow in order: what was there before stays a
  sublist of what is there afterwards (`partitions_sublist_insert`). That
  one fact is why a share that has waited in a queue for however long can
  still be assigned.
* Changing one log changes that log and no other (`log?_modifyLog`).

Topics never go away, and a topic never gets more partitions; neither
has an operation.
-/

namespace ConsumerGroup

/-- By topic, and within a topic by number. -/
theorem Partition.lt_iff {p q : Partition} :
    p < q ↔ p.topic < q.topic ∨ p.topic = q.topic ∧ p.index < q.index := by
  show (compare p.topic q.topic).then (compare p.index q.index) = .lt ↔ _
  rw [Ordering.then_eq_lt, compare_lt_iff_lt, compare_eq_iff_eq, compare_lt_iff_lt]

theorem Partition.ne_of_lt {p q : Partition} (h : p < q) : p ≠ q := by
  rintro rfl
  rcases lt_iff.mp h with htopic | ⟨-, hindex⟩
  · exact lt_irrefl _ htopic
  · exact lt_irrefl _ hindex

namespace Topics

/-- The names ascend, and so none is there twice. -/
theorem nodup_names (ts : Topics) : ts.names.Nodup :=
  List.pairwise_map.mpr (ts.ascending.imp fun h => h.ne)

theorem find?_eq_none_iff {ts : Topics} {n : String} : ts.find? n = none ↔ n ∉ ts.names := by
  simp [find?, names, List.find?_eq_none]

/-- A topic is found by its name. -/
theorem find?_of_mem {ts : Topics} {t : Topic} (ht : t ∈ ts.toList) : ts.find? t.name = some t := by
  cases hf : ts.find? t.name with
  | none => exact absurd (List.mem_map_of_mem ht) (find?_eq_none_iff.mp hf)
  | some u =>
    have hname : u.name = t.name := by simpa using List.find?_some hf
    rw [List.inj_on_of_nodup_map ts.nodup_names (List.mem_of_find?_eq_some hf) ht hname]

/-! ## The partitions there are -/

/-- The partitions of a topic are those of its name whose number has a log. -/
theorem mem_partitions_topic {t : Topic} {p : Partition} :
    p ∈ t.partitions ↔ p.topic = t.name ∧ (logAt? t.logs p.index).isSome := by
  unfold Topic.partitions logAt?
  rw [List.mem_map]
  constructor
  · rintro ⟨i, hi, rfl⟩
    have := List.mem_range.mp hi
    simp [this]
  · rintro ⟨ht, hp⟩
    split at hp
    · simp at hp
    · next h0 =>
      have hlt : p.index.toNat < t.logs.length := by simpa using hp
      refine ⟨p.index.toNat, List.mem_range.mpr hlt, ?_⟩
      cases p
      simp only at ht h0
      subst ht
      simp only [Partition.mk.injEq, true_and]
      omega

/-- The partitions of a topic are in order. -/
theorem pairwise_partitions_topic (t : Topic) : t.partitions.Pairwise (· < ·) := by
  unfold Topic.partitions
  refine List.pairwise_map.mpr (List.pairwise_lt_range.imp fun hlt => ?_)
  exact Partition.lt_iff.mpr (.inr ⟨rfl, Int.ofNat_lt.mpr hlt⟩)

/-- The partitions there are are those with a log. -/
theorem mem_partitions_iff {ts : Topics} {p : Partition} :
    p ∈ ts.partitions ↔ (ts.log? p).isSome := by
  unfold partitions log?
  rw [List.mem_flatMap]
  constructor
  · rintro ⟨t, ht, hp⟩
    obtain ⟨hname, hlog⟩ := mem_partitions_topic.mp hp
    rw [hname, find?_of_mem ht]
    exact hlog
  · intro hp
    cases hf : ts.find? p.topic with
    | none => rw [hf] at hp; simp at hp
    | some t =>
      rw [hf] at hp
      have hname : t.name = p.topic := by simpa using List.find?_some hf
      exact ⟨t, List.mem_of_find?_eq_some hf, mem_partitions_topic.mpr ⟨hname.symm, hp⟩⟩

/-- The partitions there are ascend. -/
theorem pairwise_partitions (ts : Topics) : ts.partitions.Pairwise (· < ·) := by
  unfold Topics.partitions
  rw [List.pairwise_flatMap]
  refine ⟨fun t _ => pairwise_partitions_topic t, ts.ascending.imp ?_⟩
  intro t u hlt p hp q hq
  have hpt := (mem_partitions_topic.mp hp).1
  have hqu := (mem_partitions_topic.mp hq).1
  exact Partition.lt_iff.mpr (.inl (hpt ▸ hqu ▸ hlt))

/-- Each partition is there once. -/
theorem nodup_partitions (ts : Topics) : ts.partitions.Nodup :=
  ts.pairwise_partitions.imp Partition.ne_of_lt

/-- A partition that is there is one of a topic that is. -/
theorem topic_mem_names {ts : Topics} {p : Partition} (h : p ∈ ts.partitions) :
    p.topic ∈ ts.names := by
  obtain ⟨t, ht, hp⟩ := List.mem_flatMap.mp h
  rw [(mem_partitions_topic.mp hp).1]
  exact List.mem_map_of_mem ht

/-- Whoever minds only the names of topics sees the partitions of the topics
he minds. -/
theorem filter_partitions (P : String → Bool) (ts : Topics) :
    ts.partitions.filter (P ·.topic) = (ts.toList.filter (P ·.name)).flatMap Topic.partitions := by
  unfold partitions
  induction ts.toList with
  | nil => rfl
  | cons t ts ih =>
    have hall : t.partitions.filter (P ·.topic) = if P t.name then t.partitions else [] := by
      have hname {p : Partition} (hp : p ∈ t.partitions) : p.topic = t.name :=
        (mem_partitions_topic.mp hp).1
      split
      · next ht => exact List.filter_eq_self.mpr fun p hp => (hname hp).symm ▸ ht
      · next ht => exact List.filter_eq_nil_iff.mpr fun p hp => (hname hp).symm ▸ ht
    rw [List.flatMap_cons, List.filter_append, ih, hall, List.filter_cons]
    cases P t.name <;> rfl

/-! ## A new topic -/

/-- The topics there were keep their places. -/
theorem sublist_place {t : Topic} {ts : List Topic} (ht : t.name ∉ ts.map (·.name)) :
    ts.Sublist (t.place ts) := by
  induction ts with
  | nil => exact List.nil_sublist _
  | cons u ts ih =>
    rw [List.map_cons, List.mem_cons, not_or] at ht
    unfold Topic.place
    rw [if_neg ht.1]
    split
    · exact List.sublist_cons_self _ _
    · exact (ih ht.2).cons_cons u

/-- The partitions there were are still there, in their order. -/
theorem partitions_sublist_insert {t : Topic} {ts : Topics} (ht : t.name ∉ ts.names) :
    ts.partitions.Sublist (ts.insert t).partitions :=
  (sublist_place ht).flatMap Topic.partitions

/-- Whoever minds only the names of topics sees no partition of a new topic
whose name is nothing to him. -/
theorem filter_partitions_insert {P : String → Bool} {t : Topic} {ts : Topics}
    (ht : t.name ∉ ts.names) (hP : P t.name = false) :
    (ts.insert t).partitions.filter (P ·.topic) = ts.partitions.filter (P ·.topic) := by
  have hplace {us : List Topic} (hus : t.name ∉ us.map (·.name)) :
      (t.place us).filter (P ·.name) = us.filter (P ·.name) := by
    induction us with
    | nil => simp [Topic.place, hP]
    | cons u us ih =>
      rw [List.map_cons, List.mem_cons, not_or] at hus
      unfold Topic.place
      rw [if_neg hus.1]
      split
      · simp [hP]
      · rw [List.filter_cons, List.filter_cons, ih hus.2]
  rw [filter_partitions, filter_partitions]
  exact congrArg (List.flatMap Topic.partitions) (hplace ht)

/-- A new topic is found by its name, the others as before. -/
theorem find?_insert {t : Topic} {ts : Topics} (ht : t.name ∉ ts.names) (n : String) :
    (ts.insert t).find? n = if t.name = n then some t else ts.find? n := by
  have hplace {us : List Topic} (hus : t.name ∉ us.map (·.name)) :
      (t.place us).find? (·.name == n) = if t.name = n then some t else us.find? (·.name == n) := by
    induction us with
    | nil => by_cases hn : t.name = n <;> simp [Topic.place, hn]
    | cons u us ih =>
      rw [List.map_cons, List.mem_cons, not_or] at hus
      unfold Topic.place
      rw [if_neg hus.1]
      split
      · by_cases hn : t.name = n <;> simp [hn]
      · by_cases hun : u.name = n
        · have htn : t.name ≠ n := fun h => hus.1 (h.trans hun.symm)
          simp [hun, htn]
        · simp [hun, ih hus.2]
  exact hplace ht

/-- What is in a log stays there when a topic is put beside it. -/
theorem log?_insert {t : Topic} {ts : Topics} (ht : t.name ∉ ts.names) {p : Partition} {l : Log}
    (h : ts.log? p = some l) : (ts.insert t).log? p = some l := by
  unfold log? at h ⊢
  rw [find?_insert ht]
  split
  · next htp =>
    rw [find?_eq_none_iff.mpr (htp ▸ ht)] at h
    exact absurd h (by simp)
  · exact h

/-! ## A changed log -/

/-- Changing a log leaves the partitions there are alone. -/
@[simp] theorem partitions_modifyLog (ts : Topics) (p : Partition) (f : Log → Log) :
    (ts.modifyLog p f).partitions = ts.partitions := by
  unfold partitions modifyLog
  rw [List.flatMap_map]
  congr 1
  funext t
  show (t.modifyLog p f).partitions = t.partitions
  unfold Topic.modifyLog
  split
  · simp [Topic.partitions]
  · rfl

/-- Only partitions that can be counted have a log. -/
theorem index_nonneg_of_log? {ts : Topics} {p : Partition} {l : Log} (h : ts.log? p = some l) :
    0 ≤ p.index := by
  obtain ⟨t, _, ht⟩ := Option.bind_eq_some_iff.mp h
  unfold logAt? at ht
  split at ht
  · cases ht
  · omega

/-- Every topic is found when a log has been changed, with the log changed if
it is its own. -/
theorem find?_modifyLog (ts : Topics) (p : Partition) (f : Log → Log) (n : String) :
    (ts.modifyLog p f).find? n = (ts.find? n).map (·.modifyLog p f) := by
  unfold find? modifyLog
  rw [List.find?_map]
  congr 1
  refine congrArg (List.find? · ts.toList) (funext fun t => ?_)
  show ((t.modifyLog p f).name == n) = (t.name == n)
  rw [t.name_modifyLog]

/-- Changing one log changes that log and no other. -/
theorem log?_modifyLog (ts : Topics) {p : Partition} (hp : 0 ≤ p.index) (f : Log → Log)
    (q : Partition) :
    (ts.modifyLog p f).log? q = if q = p then (ts.log? p).map f else ts.log? q := by
  unfold log?
  rw [find?_modifyLog]
  by_cases hq : q.topic = p.topic
  · cases hf : ts.find? p.topic with
    | none =>
      rw [hq, hf]
      simp
    | some t =>
      have hname : t.name = p.topic := by simpa using List.find?_some hf
      rw [hq, hf]
      simp only [Option.map_some, Option.bind_some, Topic.modifyLog, hname, if_true]
      by_cases hi : q.index = p.index
      · have hqp : q = p := by cases p; cases q; simp_all
        subst hqp
        have : ¬ q.index < 0 := by omega
        simp [logAt?, this]
      · have hqp : q ≠ p := fun h => hi (h ▸ rfl)
        rw [if_neg hqp]
        unfold logAt?
        split
        · rfl
        · next hq0 =>
          have : p.index.toNat ≠ q.index.toNat := by omega
          simp [this]
  · have hqp : q ≠ p := fun h => hq (h ▸ rfl)
    rw [if_neg hqp]
    cases hf : ts.find? q.topic with
    | none => rfl
    | some t =>
      have hname : t.name = q.topic := by simpa using List.find?_some hf
      simp [Topic.modifyLog, hname, hq]

end Topics

end ConsumerGroup
