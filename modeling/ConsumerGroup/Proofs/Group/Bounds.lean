import ConsumerGroup.Proofs.Broker.Bounds
import ConsumerGroup.Proofs.Group.Run

/-!
# In bounds throughout a run

Whatever happens in a run, be it that notifications are sent by hand or
that places far outside a log are asked for, no member gets out of bounds
(`Chronicle.inBounds_run`). So reading never comes to where it could not
go on (`Chronicle.run_bounds`).

Each step is a request or a deed, and a deed is made of what requests are
made of, so the work is done for single requests
(`Broker.InBounds.perform`); what is left is the induction on the run.
-/

namespace ConsumerGroup

namespace Chronicle

variable {patterns : PatternReader} {s : Chronicle}

/-- A consumer takes nobody out of bounds. -/
theorem inBounds_did (hs : s.broker.Sound) (h : s.broker.InBounds) (c : Consumer Seat) (d : Deed) :
    (s.after (.did c d)).broker.InBounds := by
  refine (s.done c d).holds h (fun m m' hlook hm hl => ?_) fun r _ => h.perform hs (.member _ r)
  subst hlook
  have hbounds : m.InBounds s.broker.topics := h m (List.mem_of_find?_eq_some hm)
  apply h.modifyMember
  intro _ _ _
  cases hl with
  | fetched => exact hbounds.fetch
  | assigned _ _ _ hslots hj ho =>
    obtain ⟨_, _, _, _, _, _, _, _, hnodup, _⟩ :=
      Consumer.assigned_of_look c { broker := s.broker } hj ho
    exact Broker.inBounds_of_slots hnodup hslots rfl rfl
  | revoked => exact Member.inBounds_of_nil rfl rfl
  | refused | undone | passed => exact hbounds.of_same (.refl _) rfl rfl rfl

/-- No step takes anybody out of bounds. -/
theorem inBounds_after (hs : s.broker.Sound) (h : s.broker.InBounds) (e : Happening) :
    (s.after e).broker.InBounds := by
  cases e with
  | asked r => exact h.perform hs r
  | did c d => exact inBounds_did hs h c d

/-- In every run everybody reads within bounds. -/
theorem inBounds_run (hs : List Happening) (patterns : PatternReader) :
    (run hs patterns).broker.InBounds := by
  induction hs using List.reverseRecOn with
  | nil => exact Broker.inBounds_empty patterns
  | append_singleton hs e ih =>
    rw [run_append_singleton]
    exact inBounds_after (reached_run hs patterns).sound ih e

/-- After any run, every log ends where it begins or behind that. Every
member reads what is there, each partition once; its cursor points to one
of its slots, if it has any; it reads on at no place behind the end, and is
refused a partition only by the policy that refuses. So when it looks for a
message, it never comes to a partition without a log, to a place behind the
end or to a circle of no slots. That neither a log nor a place lies below
zero is said here too, but carried by their being natural numbers; that they
are what the integers asked for make them is `Log.low_dropBelow` and
`startPosition_of_standsFor`. -/
theorem run_bounds (hs : List Happening) (patterns : PatternReader) :
    (∀ p w, (run hs patterns).broker.watermarks p = .ok w → 0 ≤ w.low ∧ w.low ≤ w.high) ∧
    ∀ m ∈ (run hs patterns).broker.members,
      m.held.Nodup ∧
      (if m.assignment = [] then m.cursor = 0 else m.cursor < m.assignment.length) ∧
      (∀ slot ∈ m.assignment, ∃ l, (run hs patterns).broker.log? slot.partition = some l ∧
        match slot.position with
        | some n => 0 ≤ (n : Int) ∧ (n : Int) ≤ l.watermarks.high
        | none => m.options.reset = .refuse) ∧
      m.checkedFetch (run hs patterns).broker.topics =
        some (m.fetch (run hs patterns).broker.topics) := by
  refine ⟨fun p w hw => ?_, fun m hm => ?_⟩
  · obtain ⟨l, _, rfl⟩ := Broker.exists_log_of_watermarks hw
    exact ⟨Int.natCast_nonneg _, Int.ofNat_le.mpr l.low_le_high⟩
  · have hbounds := inBounds_run hs patterns m hm
    refine ⟨hbounds.nodup, ?_, fun slot hslot => ?_, hbounds.checkedFetch_eq⟩
    · rcases hbounds.cursor with hlt | ⟨hnil, hzero⟩
      · rw [if_neg (List.ne_nil_of_length_pos (Nat.zero_lt_of_lt hlt))]
        exact hlt
      · rw [if_pos hnil]
        exact hzero
    · obtain ⟨l, hl, hwithin⟩ := hbounds.slots slot hslot
      refine ⟨l, hl, ?_⟩
      cases hp : slot.position with
      | some n => exact ⟨Int.natCast_nonneg n, Int.ofNat_le.mpr (hwithin.place n hp)⟩
      | none => exact hwithin.refused hp

/-- A member whose policy refuses has asked for places on both sides of
their logs and for one inside, and has looked twice. The log it reads has
been cut since, and a share that names a partition twice waits for it. -/
def strewn : List Happening :=
  [.asked (.createTopic "t" 3),
    .asked (.produce ⟨"t", 1⟩ none [1]),
    .asked (.produce ⟨"t", 1⟩ none [2]),
    .asked (.connect (Configuration.ofPairs
      [("auto.offset.reset", "error"), ("group.id", "g")])),
    .asked (.member "kafka_group-1" (.assign
      [⟨⟨"t", 0⟩, .number (-9)⟩, ⟨⟨"t", 1⟩, .number 1⟩, ⟨⟨"t", 2⟩, .number 4000000000000000000⟩])),
    .asked (.member "kafka_group-1" .next),
    .asked (.member "kafka_group-1" .next),
    .asked (.deleteRecords ⟨"t", 1⟩ 7),
    .asked (.notify "kafka_group-1" .assignPartitions [⟨⟨"t", 0⟩, .ending⟩, ⟨⟨"t", 0⟩, .ending⟩])]

/-- The member has been refused both places outside, reads on at the end of
the log that was cut, and looks next at the third partition. -/
theorem run_bounds_strewn :
    (run strewn).broker.watermarks ⟨"t", 1⟩ = .ok ⟨2, 2⟩ ∧ ((0 : Int) ≤ 2 ∧ (2 : Int) ≤ 2) ∧
    ∃ m, (run strewn).broker.member? "kafka_group-1" = some m ∧
      m.assignment.map (·.position) = [none, some 2, none] ∧ m.cursor = 2 ∧
      m.options.reset = .refuse ∧
      m.checkedFetch (run strewn).broker.topics = some (m.fetch (run strewn).broker.topics) := by
  obtain ⟨hlogs, hmembers⟩ := run_bounds strewn Pattern.reader
  have hends : ((run strewn).broker.log? ⟨"t", 1⟩).map Log.watermarks = some ⟨2, 2⟩ := by
    decide +kernel
  obtain ⟨l, hl, hlw⟩ := Option.map_eq_some_iff.mp hends
  have hw : (run strewn).broker.watermarks ⟨"t", 1⟩ = .ok ⟨2, 2⟩ := by
    rw [Broker.watermarks_of_log? hl, hlw]
  have hfound : ((run strewn).broker.member? "kafka_group-1").map
      (fun m => (m.assignment.map (·.position), m.cursor)) = some ([none, some 2, none], 2) := by
    decide +kernel
  obtain ⟨m, hm, hread⟩ := Option.map_eq_some_iff.mp hfound
  obtain ⟨hpositions, hcursor⟩ := Prod.mk.inj hread
  obtain ⟨_, _, hslots, hfetch⟩ := hmembers m (List.mem_of_find?_eq_some hm)
  have hrefused : ∃ slot ∈ m.assignment, slot.position = none :=
    List.mem_map.mp (by rw [hpositions]; exact List.mem_cons_self)
  obtain ⟨slot, hslot, hnone⟩ := hrefused
  obtain ⟨_, _, hpolicy⟩ := hslots slot hslot
  rw [hnone] at hpolicy
  exact ⟨hw, hlogs _ _ hw, m, hm, hpositions, hcursor, hpolicy, hfetch⟩

end Chronicle

end ConsumerGroup
