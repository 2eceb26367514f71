import ConsumerGroup.Proofs.Broker.Draining
import ConsumerGroup.Proofs.Group.Bounds
import ConsumerGroup.Proofs.Group.Course

/-!
# Fair rotation

However many records the other partitions have, a partition that is ready
at every fetch that brings its member a message is not passed over for a
whole round: of as many messages as the member has partitions, one comes
from it (`Chronicle.Pressing.served`). Anybody may write or drop records
meanwhile, and the others may become ready or not.

What counts is the place of the partition in the line of those that the
member looks at (`Member.line`). A message that comes from another
partition brings it forward (`Member.InBounds.forward_fetch`), and nothing
else moves the line as long as nothing is assigned.

Messages count here, and not polls: a poll that takes a notification, or
finds nothing, brings the partition no nearer and costs it nothing. The
partition has to be ready at each of these fetches, which is for whoever
writes to see to.
-/

namespace ConsumerGroup

namespace Member

variable {m m' : Member} {ts : Topics}

/-- The partitions in the order in which the next fetch looks at them. -/
def line (m : Member) : List Partition := m.circle.map (·.partition)

theorem length_line (m : Member) : m.line.length = m.held.length := by
  unfold line circle held
  rw [List.length_map, List.length_rotate, List.length_map]

/-- Those in line are the partitions that are read. -/
theorem mem_line {p : Partition} : p ∈ m.line ↔ p ∈ m.held := by
  unfold line circle held
  rw [List.map_rotate, List.mem_rotate]

/-- In bounds nobody stands in line twice. -/
theorem InBounds.nodup_line (h : m.InBounds ts) : m.line.Nodup := by
  unfold line circle
  rw [List.map_rotate, List.nodup_rotate]
  exact h.nodup

/-- A fetch that finds nothing leaves the line as it is. -/
theorem line_fetch (h : m.InBounds ts) (hnone : (m.fetch ts).1 = none) :
    (m.fetch ts).2.line = m.line := by
  have hserved := circle_fetch h.cursor_le ts
  unfold line
  rw [hnone] at hserved
  generalize (m.fetch ts).2.circle = circle at hserved ⊢
  cases hserved with
  | nothing =>
    rw [List.map_map]
    exact List.map_congr_left fun q _ => Slot.partition_look _ _ q

/-- A message is about a partition that is ready, or brings that partition
forward in the line. -/
theorem InBounds.forward_fetch (h : m.InBounds ts) {s : Slot} (hs : s ∈ m.assignment)
    (hready : s.Ready m.options ts) {x : Message} (hx : (m.fetch ts).1 = some x) :
    x.partition? = some s.partition ∨
      (m.fetch ts).2.line.idxOf s.partition < m.line.idxOf s.partition := by
  have hserved := circle_fetch h.cursor_le ts
  have hnodup := h.nodup_line
  have hlook : (s.look m.options ts).1 ≠ none := by
    intro hnone
    rw [(h.slots s hs).look_due.1, List.head?_eq_none_iff, Slot.due_eq_nil_iff] at hnone
    exact hnone hready
  have hmem := mem_circle.mpr hs
  unfold line at hnodup ⊢
  rw [hx] at hserved
  generalize (m.fetch ts).2.circle = circle at hserved ⊢
  cases hserved with
  | @told before behind s' _ hc hq hx =>
    rw [hc, List.map_append, List.map_cons] at hnodup
    rw [hc] at hmem ⊢
    rcases List.mem_append.mp hmem with hbefore | hbehind
    · exact absurd (hq s hbefore) hlook
    · rcases List.mem_cons.mp hbehind with rfl | hbehind
      · exact .inl (Slot.partition_of_look hx)
      · -- The ready slot stands behind the one that is served, and the first now is behind that.
        obtain ⟨_, hbehinds, hapart⟩ := List.nodup_append.mp hnodup
        have hp : s.partition ∈ behind.map (·.partition) := List.mem_map_of_mem hbehind
        have hne : s'.partition ≠ s.partition := fun he =>
          (List.nodup_cons.mp hbehinds).1 (he ▸ hp)
        have hnot : s.partition ∉ before.map (·.partition) := fun hb =>
          hapart _ hb _ (List.mem_cons_of_mem _ hp) rfl
        have hwas : ((before ++ s' :: behind).map (·.partition)).idxOf s.partition =
            before.length + ((behind.map (·.partition)).idxOf s.partition + 1) := by
          rw [List.map_append, List.map_cons, List.idxOf_append_of_notMem hnot,
            List.idxOf_cons_ne _ hne, List.length_map]
        refine .inr ?_
        rw [hwas, List.append_assoc, List.map_append, List.idxOf_append_of_mem hp]
        omega

end Member

/-- The member reads the partition, and the partition is ready. -/
def Broker.Ready (b : Broker) (id : String) (p : Partition) : Prop :=
  ∃ m, b.member? id = some m ∧ ∃ s ∈ m.assignment, s.partition = p ∧ s.Ready m.options b.topics

namespace Chronicle

/-- The messages a member is brought, latest first, while nothing is
assigned to it, and each time a partition is ready. -/
inductive Pressing (id : String) (p : Partition) (s : Chronicle) : Chronicle → List Message → Prop
  | start : Pressing id p s s []
  | step {t : Chronicle} {heard : List Message} {e : Happening} (h : Pressing id p s t heard)
      (he : ∀ l, ¬ e.Assigns t.broker id l)
      (hready : ∀ x, e.brings t.broker = some (id, x) → t.broker.Ready id p) :
      Pressing id p s (t.after e) (e.tells t.broker id ++ heard)

variable {patterns : PatternReader} {s t : Chronicle} {e : Happening} {id : String} {p : Partition}
  {heard : List Message}
  {n : Nat}

/-- A message has come from the partition, or there have not been that many,
and as long as the member reads anything the partition is so much nearer to
the head of its line. -/
def Comes (n : Nat) (id : String) (p : Partition) (heard : List Message) (t : Chronicle) : Prop :=
  (∃ x ∈ heard, x.partition? = some p) ∨
    heard.length < n ∧ ∀ m, t.broker.member? id = some m → m.assignment = [] ∨
      m.line.idxOf p + heard.length < n

/-- A message is from the partition or brings it nearer. -/
theorem Comes.told (h : t.Comes n id p heard) (hb : t.broker.InBounds) {x : Message}
    (hx : e.brings t.broker = some (id, x)) (hready : t.broker.Ready id p) :
    (t.after e).Comes n id p (x :: heard) := by
  rcases h with ⟨y, hy, hp⟩ | ⟨hlength, hnear⟩
  · exact .inl ⟨y, List.mem_cons_of_mem _ hy, hp⟩
  · obtain ⟨m, hm, hfound, hafter⟩ := fetched_of_brings hx
    obtain ⟨m₁, hm₁, slot, hslot, rfl, hslotReady⟩ := hready
    cases hm.symm.trans hm₁
    have hbounds : m.InBounds t.broker.topics := hb m (List.mem_of_find?_eq_some hm)
    have hnear : m.line.idxOf slot.partition + heard.length < n :=
      (hnear m hm).resolve_left (List.ne_nil_of_mem hslot)
    rcases hbounds.forward_fetch hslot hslotReady hfound with hp | hforward
    · exact .inl ⟨x, List.mem_cons_self, hp⟩
    · have hid := Broker.id_of_member? hm
      have hfetched : (m.fetch t.broker.topics).2.id = id := by rw [m.fetch_frame]; exact hid
      refine .inr ⟨?_, fun m' hm' => .inr ?_⟩
      · rw [List.length_cons]
        omega
      · rw [hafter, Broker.member?_replaced hm hfetched] at hm'
        cases hm'
        rw [List.length_cons]
        omega

/-- Nothing else moves the line. -/
theorem Comes.kept (h : t.Comes n id p heard) (hs : t.broker.Sound) (hb : t.broker.InBounds)
    (he : ∀ l, ¬ e.Assigns t.broker id l) (hx : ∀ x, e.brings t.broker ≠ some (id, x)) :
    (t.after e).Comes n id p heard := by
  refine h.imp_right fun ⟨hlength, hnear⟩ => ⟨hlength, fun m' hm' => ?_⟩
  rcases course_after hs hm' with hnone | ⟨m, hm, hcourse⟩
  · exact .inl hnone
  · have hid := Broker.id_of_member? hm
    have hbounds : m.InBounds t.broker.topics := hb m (List.mem_of_find?_eq_some hm)
    cases hcourse with
    | kept _ ha hc =>
      have hline : m'.line = m.line := by
        unfold Member.line Member.circle
        rw [ha, hc]
      rw [ha, hline]
      exact hnear m hm
    | fetched hf =>
      have hnone : (m.fetch t.broker.topics).1 = none := by
        cases hfound : (m.fetch t.broker.topics).1 with
        | none => rfl
        | some x =>
          rw [hfound, hid] at hf
          exact absurd hf (hx x)
      rw [Member.line_fetch hbounds hnone]
      refine (hnear m hm).imp_left fun hnil => ?_
      rw [← List.length_eq_zero_iff, m.length_fetch, hnil]
      rfl
    | assigned hl =>
      rw [hid] at hl
      exact absurd hl (he _)

/-- With each message that is brought the partition comes nearer, or has come. -/
theorem Comes.step (h : t.Comes n id p heard) (hs : t.broker.Sound) (hb : t.broker.InBounds)
    (he : ∀ l, ¬ e.Assigns t.broker id l)
    (hready : ∀ x, e.brings t.broker = some (id, x) → t.broker.Ready id p) :
    (t.after e).Comes n id p (e.tells t.broker id ++ heard) := by
  by_cases hbrings : ∃ x, e.brings t.broker = some (id, x)
  · obtain ⟨x, hx⟩ := hbrings
    rw [Happening.tells_of_brings hx]
    exact h.told hb hx (hready x hx)
  · have hnothing : ∀ x, e.brings t.broker ≠ some (id, x) := not_exists.mp hbrings
    rw [Happening.tells_of_ne hnothing]
    exact h.kept hs hb he hnothing

/-- So it comes on a row of steps at each of which it is ready. -/
theorem Pressing.comes (h : Pressing id p s t heard) (hs : s.broker.Sound) (hb : s.broker.InBounds)
    (hstart : s.Comes n id p []) : t.broker.Sound ∧ t.broker.InBounds ∧ t.Comes n id p heard := by
  induction h with
  | start => exact ⟨hs, hb, hstart⟩
  | step _ he hready ih =>
    obtain ⟨hs, hb, hcomes⟩ := ih
    exact ⟨sound_after hs _, inBounds_after hs hb _, hcomes.step hs hb he hready⟩

/-- From any moment of any run on, and as long as nothing is assigned to a
member: if a partition it reads is ready each time the member is brought a
message, then of as many messages as it reads partitions one comes from
that partition. -/
theorem Pressing.served {hs : List Happening} {m : Member}
    (h : Pressing id p (run hs patterns) t heard) (hm : (run hs patterns).broker.member? id = some m)
    (hp : p ∈ m.held) (hn : heard.length = m.held.length) :
    ∃ x ∈ heard, x.partition? = some p := by
  have hindex : m.line.idxOf p < m.held.length := by
    rw [← m.length_line]
    exact List.idxOf_lt_length_of_mem (Member.mem_line.mpr hp)
  have hstart : (run hs patterns).Comes m.held.length id p [] := by
    refine .inr ⟨List.length_pos_of_mem hp, fun m' hm' => .inr ?_⟩
    cases hm.symm.trans hm'
    exact hindex
  obtain ⟨_, _, hcome | ⟨hfew, _⟩⟩ := h.comes (reached_run hs _).sound (inBounds_run hs _) hstart
  · exact hcome
  · omega

/-- A member reads two partitions from the beginning, one with three records
and one with one. -/
def oneAgainstMany : List Happening :=
  [.asked (.createTopic "t" 2),
    .asked (.produce ⟨"t", 0⟩ none [1]),
    .asked (.produce ⟨"t", 0⟩ none [2]),
    .asked (.produce ⟨"t", 0⟩ none [3]),
    .asked (.produce ⟨"t", 1⟩ none [4]),
    .asked (.connect (Configuration.ofPairs [("group.id", "g")])),
    .asked (.member "kafka_group-1" (.assign [⟨⟨"t", 0⟩, .beginning⟩, ⟨⟨"t", 1⟩, .beginning⟩]))]

/-- The partition with one record is ready all the time. More is written to
the other and its first records are dropped, and still the second message
comes from the one. -/
theorem served_oneAgainstMany :
    ∃ t heard, Pressing "kafka_group-1" ⟨"t", 1⟩ (run oneAgainstMany) t heard ∧
      heard = [.record ⟨"t", 1⟩ 0 none (some [4]), .record ⟨"t", 0⟩ 0 none (some [1])] ∧
      ∃ x ∈ heard, x.partition? = some ⟨"t", 1⟩ := by
  have hready {s : Chronicle} (h : ((s.broker.member? "kafka_group-1").bind fun m =>
      (m.assignment.find? (·.partition = ⟨"t", 1⟩)).map fun slot =>
        slot.due m.options s.broker.topics) = some [.record ⟨"t", 1⟩ 0 none (some [4])]) :
      s.broker.Ready "kafka_group-1" ⟨"t", 1⟩ := by
    obtain ⟨m, hm, hslot⟩ := Option.bind_eq_some_iff.mp h
    obtain ⟨slot, hfind, hdue⟩ := Option.map_eq_some_iff.mp hslot
    have hp : slot.partition = ⟨"t", 1⟩ := by simpa using List.find?_some hfind
    refine ⟨m, hm, slot, List.mem_of_find?_eq_some hfind, hp, ?_⟩
    by_contra hnot
    rw [Slot.due_eq_nil_iff.mpr hnot] at hdue
    cases hdue
  have hst : Pressing "kafka_group-1" ⟨"t", 1⟩ (run oneAgainstMany) _ _ :=
    .step (e := .asked (.member "kafka_group-1" .next))
      (.step (e := .asked (.deleteRecords ⟨"t", 0⟩ 2))
        (.step (e := .asked (.produce ⟨"t", 0⟩ none [5]))
          (.step (e := .asked (.member "kafka_group-1" .next)) .start
            (fun _ h => by cases h.1) fun _ _ => hready (by decide +kernel))
          (fun _ h => by cases h.1) nofun)
        (fun _ h => by cases h.1) nofun)
      (fun _ h => by cases h.1) fun _ _ => hready (by decide +kernel)
  have hfound : ((run oneAgainstMany).broker.member? "kafka_group-1").map (·.held) =
      some [⟨"t", 0⟩, ⟨"t", 1⟩] := by
    decide +kernel
  obtain ⟨m, hm, hheld⟩ := Option.map_eq_some_iff.mp hfound
  refine ⟨_, _, hst, by decide +kernel, Pressing.served hst hm ?_ ?_⟩
  · rw [hheld]
    decide
  · rw [hheld]
    decide +kernel

end Chronicle

end ConsumerGroup
