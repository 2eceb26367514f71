import ConsumerGroup.Proofs.Broker.Order
import ConsumerGroup.Proofs.Group.Course

/-!
# Between two assignments

A stretch of a run is what happens from some moment on while nothing is
assigned to a member. What the member hears of a partition in a stretch
that begins when the partition is assigned to it is in the order of the
log (`Reached.heard_inOrder`): whoever writes, whoever drops records, and
whatever becomes of the other members.

The step is `Stretch.tells`: the slot of the partition is where it has to
be after what was heard, or the member does not read the partition any
more.

What was heard before the stretch does not count: a partition that is
assigned anew is read from where it begins then, and may be heard of again
from there.
-/

namespace ConsumerGroup

/-- What a step has a member hear of a partition. -/
def Happening.reads (b : Broker) (e : Happening) (id : String) (p : Partition) : List Read :=
  match e.brings b with
  | some (id', x) => if id' = id then readsOf b.topics p (some x) else []
  | none => []

namespace Chronicle

/-- What a member hears of a partition, latest first, while nothing is
assigned to it. -/
inductive Stretch (id : String) (p : Partition) (s : Chronicle) : Chronicle → List Read → Prop
  | start : Stretch id p s s []
  | step {t : Chronicle} {heard : List Read} {e : Happening} (h : Stretch id p s t heard)
      (he : ∀ l, ¬ e.Assigns t.broker id l) :
      Stretch id p s (t.after e) (e.reads t.broker id p ++ heard)

variable {s t : Chronicle} {e : Happening} {id : String} {p : Partition} {heard : List Read}
  {policy : ResetPolicy} {start : Option Nat}

/-- A stretch leaves a sound broker sound. -/
theorem Stretch.sound (h : Stretch id p s t heard) (hs : s.broker.Sound) : t.broker.Sound := by
  induction h with
  | start => exact hs
  | step _ _ ih => exact sound_after ih _

/-- What was heard is in order, and the member, if it is there, reads on
from there. -/
structure Tells (policy : ResetPolicy) (start : Option Nat) (id : String) (p : Partition)
    (heard : List Read) (t : Chronicle) : Prop where
  inOrder : InOrder policy start heard
  member : ∀ m, t.broker.member? id = some m → m.Tells policy start p heard t.broker.topics

/-- What a step brings, if it is about the partition, is one read more. -/
theorem reads_of_brings {b : Broker} {found : Option Message}
    (h : e.brings b = found.map (id, ·)) : e.reads b id p = readsOf b.topics p found := by
  unfold Happening.reads
  rw [h]
  cases found with
  | none => rfl
  | some x => exact if_pos rfl

theorem reads_of_ne {b : Broker} (h : ∀ x, e.brings b ≠ some (id, x)) : e.reads b id p = [] := by
  unfold Happening.reads
  split
  · next id' x hb =>
    refine if_neg ?_
    rintro rfl
    exact h x hb
  · rfl

/-- A step that assigns nothing to the member has it hear what comes next. -/
theorem Tells.step (h : t.Tells policy start id p heard) (hs : t.broker.Sound)
    (he : ∀ l, ¬ e.Assigns t.broker id l) :
    (t.after e).Tells policy start id p (e.reads t.broker id p ++ heard) := by
  have hadvances := t.advances_after e
  by_cases hbrings : ∃ x, e.brings t.broker = some (id, x)
  · obtain ⟨x, hx⟩ := hbrings
    obtain ⟨m, hm, hf, hb⟩ := fetched_of_brings hx
    obtain ⟨hin, htells⟩ := (h.member m hm).fetch h.inOrder
    have hfound : e.brings t.broker = (m.fetch t.broker.topics).1.map (id, ·) := by
      rw [hx, hf]
      rfl
    rw [reads_of_brings hfound]
    refine ⟨hin, fun m' hm' => ?_⟩
    have hid := Broker.id_of_member? hm
    have hfetched : (m.fetch t.broker.topics).2.id = id := by rw [m.fetch_frame]; exact hid
    rw [hb, Broker.member?_replaced hm hfetched] at hm'
    cases hm'
    rw [hb]
    exact htells
  · have hnothing : ∀ x, e.brings t.broker ≠ some (id, x) := not_exists.mp hbrings
    rw [reads_of_ne hnothing]
    refine ⟨h.inOrder, fun m' hm' => ?_⟩
    rcases course_after hs hm' with hnone | ⟨m, hm, hcourse⟩
    · exact .of_nothing hnone
    · have hid := Broker.id_of_member? hm
      have htells := h.member m hm
      cases hcourse with
      | kept ho ha => exact htells.kept hadvances ho ha
      | fetched hf =>
        have hnone : (m.fetch t.broker.topics).1 = none := by
          cases hx : (m.fetch t.broker.topics).1 with
          | none => rfl
          | some x =>
            rw [hx, hid] at hf
            exact absurd hf (hnothing x)
        have hfetch := (htells.fetch h.inOrder).2
        rw [hnone] at hfetch
        exact hfetch.kept hadvances rfl rfl
      | assigned hl =>
        rw [hid] at hl
        exact absurd hl (he _)

/-- As long as nothing is assigned to the member, what it hears is in
order. -/
theorem Stretch.tells (h : Stretch id p s t heard) (hs : s.broker.Sound)
    (hstart : s.Tells policy start id p []) : t.Tells policy start id p heard := by
  induction h with
  | start => exact hstart
  | step hst he ih => exact ih.step (hst.sound hs) he

/-- Nothing is heard yet of what was just assigned. -/
theorem tells_assigned {l : PartitionList} (ha : e.Assigns s.broker id l) :
    ∃ m, (s.after e).broker.member? id = some m ∧ m.held = l.partitions ∧ ∀ p,
      (s.after e).Tells m.options.reset (m.position? p) id p [] := by
  obtain ⟨m, m', hm, hn, hslots, ho, hm', hts⟩ := assigned_after ha
  refine ⟨m', hm', Broker.map_partition_slots hslots, fun p => ⟨trivial, ?_⟩⟩
  intro m'' hm''
  cases hm'.symm.trans hm''
  rw [hts, ho]
  exact .begin hn hslots ho

variable {allowed : Chronicle → Happening → Prop}

/-- What a member hears of a partition that is assigned to it is in the
order of the log, from where it begins to read, until something else is
assigned to it. -/
theorem Reached.heard_inOrder (h : Reached allowed s) {l : PartitionList}
    (ha : e.Assigns s.broker id l) (hp : p ∈ l.partitions)
    (hst : Stretch id p (s.after e) t heard) :
    ∃ m, (s.after e).broker.member? id = some m ∧ p ∈ m.held ∧
      InOrder m.options.reset (m.position? p) heard := by
  obtain ⟨m, hm, hheld, htells⟩ := tells_assigned ha
  have hs := sound_after h.sound e
  exact ⟨m, hm, hheld ▸ hp, (hst.tells hs (htells p)).inOrder⟩

/-- Three records wait for the only member of a group, which begins at the
beginning and wants to hear of the end. -/
def threeWait : List Happening :=
  [.asked (.createTopic "t" 1),
    .asked (.produce ⟨"t", 0⟩ none [1]),
    .asked (.produce ⟨"t", 0⟩ none [2]),
    .asked (.produce ⟨"t", 0⟩ none [3]),
    .asked (.connect (Configuration.ofPairs [("auto.offset.reset", "earliest"),
      ("enable.partition.eof", "true"), ("group.id", "g")])),
    .asked (.member "kafka_group-1" (.subscribe ["t"]))]

/-- The member takes its share and reads the first record. The second is
dropped, it reads the third and comes to the end, and it reads on when one
more is written. -/
theorem heard_inOrder_threeWait :
    let c : Consumer Seat := { transport := ⟨"kafka_group-1", "g"⟩ }
    ∃ t heard, Stretch "kafka_group-1" ⟨"t", 0⟩ ((run threeWait).after (.did c .look)) t heard ∧
      heard.map (·.message) = [.record ⟨"t", 0⟩ 3 none (some [4]),
        .atEnd ⟨"t", 0⟩ 3, .record ⟨"t", 0⟩ 2 none (some [3]), .record ⟨"t", 0⟩ 0 none (some [1])] ∧
      ∃ m, ((run threeWait).after (.did c .look)).broker.member? "kafka_group-1" = some m ∧
        ⟨"t", 0⟩ ∈ m.held ∧ InOrder m.options.reset (m.position? ⟨"t", 0⟩) heard := by
  intro c
  have hreached : Reached (fun _ _ => True) (run threeWait) :=
    .step (.step (.step (.step (.step (.step (.start _) trivial) trivial) trivial) trivial) trivial) trivial
  have hassigns : (Happening.did c .look).Assigns (run threeWait).broker "kafka_group-1"
      [⟨⟨"t", 0⟩, .invalid⟩] := by
    refine ⟨rfl, ?_, ?_⟩
    · exact List.mem_of_getElem? (i := 2) (by decide +kernel)
    · decide +kernel
  have found {s : Chronicle}
      (h : (Happening.outcome s.broker c .look).result.toOption.join.isSome = true) :
      ∀ l, ¬ (Happening.did c .look).Assigns s.broker "kafka_group-1" l := by
    intro l hl
    rw [hl.2.2] at h
    cases h
  have hst : Stretch "kafka_group-1" ⟨"t", 0⟩ ((run threeWait).after (.did c .look)) _ _ :=
    .step (e := .did c .look) (.step (e := .asked (.produce ⟨"t", 0⟩ none [4]))
    (.step (e := .did c .look) (.step (e := .did c .look)
    (.step (e := .asked (.deleteRecords ⟨"t", 0⟩ 2))
    (.step (e := .did c .look) .start
    (found (by decide +kernel))) fun _ h => by cases h.1)
    (found (by decide +kernel))) (found (by decide +kernel))) fun _ h => by cases h.1)
    (found (by decide +kernel))
  exact ⟨_, _, hst, by decide +kernel, Reached.heard_inOrder hreached hassigns (by decide) hst⟩

end Chronicle

end ConsumerGroup
