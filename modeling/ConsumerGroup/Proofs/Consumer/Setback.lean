import ConsumerGroup.Proofs.Consumer.Contract
import ConsumerGroup.Proofs.Consumer.Look

/-!
# Notifications that go wrong

A look at a member for whom a notification waits takes it out of the
queue, whatever becomes of it (`Consumer.look_of_waiting`). Either it is
dealt with, and the member holds what the notification leaves it with; or
it goes wrong in one of few ways (`Queued.GoesWrong`), and nothing else
about the member is changed, except that a revocation has been obeyed
(`Member.setBack`).

What went wrong is not tried again: it is out of the queue, and there is
nobody who would put it back. That is what `Member.setBack` says of the
member, whichever way it went.
-/

namespace ConsumerGroup

namespace Coordinator

/-- The callback for a notification is set, and crashes with these words. -/
def Crashes (k : Coordinator) (text : String) : Notification → Prop
  | .assign l => k.leaves l = .error text
  | .revoke l => k.hearsRevoked l = .error text
  | .trouble code => k.hearsTrouble code = .error text

/-- The coordinator once the callbacks for notifications, where they are set,
have been called. -/
def heardAll (k : Coordinator) (queue : List Queued) : Coordinator :=
  queue.foldl (fun k q => k.heard (.ofCode q.code q.partitions)) k

theorem heardAll_append (k : Coordinator) (queue more : List Queued) :
    k.heardAll (queue ++ more) = (k.heardAll queue).heardAll more := List.foldl_append

end Coordinator

/-- How a notification goes wrong: a callback crashes; or, of what is handed
out, the callback leaves other partitions, or some partition is named
twice, or there is none of its name. -/
inductive Queued.GoesWrong (b : Broker) (k : Coordinator) (q : Queued) : Fault → Prop
  | crashed {text : String} (h : k.Crashes text (.ofCode q.code q.partitions)) :
      GoesWrong b k q (.crash (.callback text))
  | changed {left : PartitionList} (ha : q.code = .assignPartitions)
      (hl : k.leaves q.partitions = .ok left) (h : ¬ left.SamePartitions q.partitions) :
      GoesWrong b k q (.failure (.partitionsChanged q.partitions left))
  | doubled {left : PartitionList} (ha : q.code = .assignPartitions)
      (hl : k.leaves q.partitions = .ok left) (hs : left.SamePartitions q.partitions)
      (h : ¬ q.partitions.partitions.Nodup) :
      GoesWrong b k q (.failure (.rebalance .assign (.ofCode .invalidArgument)))
  | unknown {left : PartitionList} {p : Partition} (ha : q.code = .assignPartitions)
      (hl : k.leaves q.partitions = .ok left) (hs : left.SamePartitions q.partitions)
      (hp : p ∈ q.partitions.partitions) (h : b.log? p = none) :
      GoesWrong b k q (.failure (.rebalance .assign (.ofCode .unknownPartition)))

namespace Member

/-- The member when a notification has gone wrong. -/
def setBack (m : Member) (q : Queued) (rest : List Queued) : Member :=
  if q.code = .revokePartitions then { m with queue := rest, assignment := [], cursor := 0 }
  else { m with queue := rest }

/-- Only a revocation that goes wrong takes away what is held. -/
theorem setBack_of_ne {m : Member} {q : Queued} (h : q.code ≠ .revokePartitions)
    (rest : List Queued) : m.setBack q rest = { m with queue := rest } := if_neg h

theorem id_setBack (m : Member) (q : Queued) (rest : List Queued) :
    (m.setBack q rest).id = m.id := by
  unfold setBack
  split <;> rfl

/-- What waited behind it still waits. -/
theorem queue_setBack (m : Member) (q : Queued) (rest : List Queued) :
    (m.setBack q rest).queue = rest := by
  unfold setBack
  split <;> rfl

/-- What becomes of the notification that waited first, and of the member. -/
inductive Takes (b : Broker) (k : Coordinator) (m : Member) (q : Queued) (rest : List Queued) :
    Except Fault (Option Message) → Member → Prop
  | well {assignment : List Slot} {cursor : Nat}
      (h : assignment.map (·.partition) = q.leaves m.held) :
      Takes b k m q rest (.ok none) { m with queue := rest, assignment, cursor }
  | badly {e : Fault} (h : q.GoesWrong b k e) :
      Takes b k m q rest (.error e) (m.setBack q rest)

end Member

namespace Broker

variable {b : Broker} {id : String} {m : Member} {l : PartitionList}

/-- Where there are no slots, some partition is not there. -/
theorem unknown_of_slots {f : Failure} (h : b.slots m l = .error f) :
    f = .ofCode .unknownPartition ∧ ∃ p ∈ l.partitions, b.log? p = none := by
  induction l with
  | nil => cases h
  | cons e l ih =>
    rw [slots_cons] at h
    cases hlog : b.log? e.partition with
    | none =>
      rw [hlog] at h
      cases h
      exact ⟨rfl, e.partition, List.mem_cons_self, hlog⟩
    | some log =>
      rw [hlog] at h
      dsimp only at h
      cases hs : b.slots m l with
      | error f' =>
        rw [hs] at h
        cases h
        obtain ⟨hf, p, hp, hnone⟩ := ih hs
        exact ⟨hf, p, List.mem_cons_of_mem _ hp, hnone⟩
      | ok slots =>
        rw [hs] at h
        cases h

/-- How a member whose notification was just removed is refused a list. -/
theorem refused_popped (hm : b.member? id = some m) (rest : List Queued)
    (hbad : l.hasDuplicates = true ∨ ∃ f, b.slots m l = .error f) :
    ∃ code, ((b.modifyMember id fun _ => { m with queue := rest }).assign id l).result =
        .error (.ofCode code) ∧
      (code = .invalidArgument ∧ ¬ l.partitions.Nodup ∨
        code = .unknownPartition ∧ ∃ p ∈ l.partitions, b.log? p = none) := by
  unfold assign
  by_cases hd : l.hasDuplicates = true
  · rw [if_pos hd]
    refine ⟨_, rfl, .inl ⟨rfl, fun hnodup => ?_⟩⟩
    exact Bool.eq_false_iff.mp (PartitionList.hasDuplicates_eq_false_iff.mpr hnodup) hd
  · obtain ⟨f, hf⟩ := hbad.resolve_left hd
    obtain ⟨rfl, hunknown⟩ := unknown_of_slots hf
    have hmid : m.id = id := id_of_member? hm
    have hid : ∀ m' : Member, m'.id = id → ({ m with queue := rest } : Member).id = id :=
      fun _ _ => hmid
    have hslots : (b.modifyMember id fun _ => { m with queue := rest }).slots
        { m with queue := rest } l = b.slots m l := by apply slots_congr <;> rfl
    rw [if_neg hd, member?_modifyMember hid, hm]
    dsimp only [Option.map_some]
    rw [hslots, hf]
    exact ⟨_, rfl, .inr ⟨rfl, hunknown⟩⟩

/-- Whoever is there can give everything up. -/
theorem unassign_ok_popped (hm : b.member? id = some m) (rest : List Queued) :
    ((b.modifyMember id fun _ => { m with queue := rest }).unassign id).result = .ok () := by
  have hmid : m.id = id := id_of_member? hm
  have hid : ∀ m' : Member, m'.id = id → ({ m with queue := rest } : Member).id = id :=
    fun _ _ => hmid
  unfold unassign
  rw [member?_modifyMember hid, hm]
  rfl

end Broker

namespace Consumer

variable {c : Consumer Seat} {w : Cluster} {m : Member} {q : Queued} {rest : List Queued}
  {o : Outcome Entry (Coordinator × Seat × Cluster) Unit}

/-- What becomes of what is handed out. -/
theorem takes_assign (hm : w.broker.member? c.transport.member = some m)
    (ha : q.code = .assignPartitions)
    (h : Coordinator.HandsOver q.partitions
      (c.coordinator, c.transport, popped w c.transport.member m rest) o) :
    ∃ m', o.state.2 =
        (c.transport, { w with broker := w.broker.modifyMember c.transport.member fun _ => m' }) ∧
      m.Takes w.broker c.coordinator q rest (o.result.map fun _ => none) m' := by
  have hstays : m.setBack q rest = { m with queue := rest } :=
    Member.setBack_of_ne (ha ▸ StatusCode.revokePartitions_ne_assignPartitions.symm) rest
  have hwrong {e : Fault} (he : q.GoesWrong w.broker c.coordinator e) :
      m.Takes w.broker c.coordinator q rest (.error e) { m with queue := rest } :=
    hstays ▸ .badly he
  cases hl : c.coordinator.leaves q.partitions with
  | error text =>
    obtain ⟨_, hs, hr⟩ := h.crashed text hl
    have hcrash : c.coordinator.Crashes text (.ofCode q.code q.partitions) := by
      rwa [Notification.ofCode_of_assign ha]
    rw [hs, hr]
    exact ⟨_, rfl, hwrong (.crashed hcrash)⟩
  | ok left =>
    by_cases hsame : left.SamePartitions q.partitions
    · obtain ⟨_, hs, hpasses⟩ := h.assigned left hl hsame
      have hs : o.state.2 = (c.transport, { w with
          broker := ((popped w c.transport.member m rest).broker.assign c.transport.member
            left).broker }) := hs
      rw [hs]
      rcases Broker.assign_popped hm rest left with ⟨hok, _, assignment, hslots, hb⟩ | ⟨_, hbad, hb⟩
      · have hheld : assignment.map (·.partition) = q.leaves m.held := by
          rw [Broker.map_partition_slots hslots, Queued.leaves_of_assign ha]
          exact hsame
        have hdone : o.result = .ok () :=
          hpasses.done (congrArg (Except.mapError Fault.failure) hok)
        rw [popped, hb, hdone]
        exact ⟨_, rfl, .well hheld⟩
      · obtain ⟨code, hrefused, hcode⟩ := Broker.refused_popped hm rest hbad
        have hr := (hpasses.refused _ (congrArg (Except.mapError Fault.failure) hrefused)).1
        rw [popped, hb, hr]
        refine ⟨_, rfl, hwrong ?_⟩
        rw [show left.partitions = q.partitions.partitions from hsame] at hcode
        rcases hcode with ⟨rfl, hdoubled⟩ | ⟨rfl, p, hp, hnone⟩
        · exact .doubled ha hl hsame hdoubled
        · exact .unknown ha hl hsame hp hnone
    · obtain ⟨_, hs, hr⟩ := h.changed left hl hsame
      rw [hs, hr]
      exact ⟨_, rfl, hwrong (.changed ha hl hsame)⟩

/-- What becomes of a revocation: it is obeyed, whatever the callback does. -/
theorem takes_revoke (hm : w.broker.member? c.transport.member = some m)
    (hc : q.code = .revokePartitions)
    (h : Coordinator.GivesUp q.partitions
      (c.coordinator, c.transport, popped w c.transport.member m rest) o) :
    ∃ m', o.state.2 =
        (c.transport, { w with broker := w.broker.modifyMember c.transport.member fun _ => m' }) ∧
      m.Takes w.broker c.coordinator q rest (o.result.map fun _ => none) m' := by
  refine ⟨{ m with queue := rest, assignment := [], cursor := 0 }, ?_, ?_⟩
  · rw [h.transport]
    show (c.transport, { w with broker := (Broker.unassign _ _).broker }) = _
    rw [popped, Broker.unassign_popped hm]
  · cases hheard : c.coordinator.hearsRevoked q.partitions with
    | ok x =>
      have hgiven := congrArg (Except.mapError Fault.failure) (Broker.unassign_ok_popped hm rest)
      rw [(h.returned hheard).done hgiven]
      exact .well (Queued.leaves_of_revoke hc _).symm
    | error text =>
      have hsetBack : m.setBack q rest = { m with queue := rest, assignment := [], cursor := 0 } :=
        if_pos hc
      have hcrash : c.coordinator.Crashes text (.ofCode q.code q.partitions) := by
        rwa [Notification.ofCode_of_revoke hc]
      have hgiven := congrArg (Except.mapError Fault.failure) (Broker.unassign_ok_popped hm rest)
      rw [h.crashed text hheard fun _ he => (by cases hgiven.symm.trans he), ← hsetBack]
      exact .badly (.crashed hcrash)

/-- What becomes of any other notification. -/
theorem takes_trouble (ha : q.code ≠ .assignPartitions) (hc : q.code ≠ .revokePartitions)
    (h : Coordinator.OnlyTells q.code
      (c.coordinator, c.transport, popped w c.transport.member m rest) o) :
    ∃ m', o.state.2 =
        (c.transport, { w with broker := w.broker.modifyMember c.transport.member fun _ => m' }) ∧
      m.Takes w.broker c.coordinator q rest (o.result.map fun _ => none) m' := by
  refine ⟨{ m with queue := rest }, h.transport, ?_⟩
  rw [h.result]
  cases hheard : c.coordinator.hearsTrouble q.code with
  | ok x => exact .well (Queued.leaves_of_neither ha hc _).symm
  | error text =>
    have hcrash : c.coordinator.Crashes text (.ofCode q.code q.partitions) := by
      rwa [Notification.ofCode_of_neither ha hc]
    rw [← Member.setBack_of_ne hc]
    exact .badly (.crashed hcrash)

/-- A look at a member for whom something waits takes what waits first. It
is heard of, it is gone from the queue, and it is dealt with or has gone
wrong. -/
theorem look_of_waiting (hm : w.broker.member? c.transport.member = some m)
    (hq : m.queue = q :: rest) :
    ∃ m', (look (c, w)).state =
        ({ c with coordinator := c.coordinator.heard (.ofCode q.code q.partitions) },
          { w with broker := w.broker.modifyMember c.transport.member fun _ => m' }) ∧
      m.Takes w.broker c.coordinator q rest (look (c, w)).result m' := by
  -- It is enough to know what the coordinator leaves of itself, and what of the broker.
  have htakes : ∃ o, Coordinator.take (.ofCode q.code q.partitions)
        (c.coordinator, c.transport, popped w c.transport.member m rest) = o ∧
      o.state.1 = c.coordinator.heard (.ofCode q.code q.partitions) ∧
      ∃ m', o.state.2 =
          (c.transport, { w with broker := w.broker.modifyMember c.transport.member fun _ => m' }) ∧
        m.Takes w.broker c.coordinator q rest (o.result.map fun _ => none) m' := by
    refine ⟨_, rfl, ?_⟩
    by_cases ha : q.code = .assignPartitions
    · rw [Notification.ofCode_of_assign ha]
      have h := Coordinator.handsOver_take q.partitions
        (c.coordinator, c.transport, popped w c.transport.member m rest)
      exact ⟨h.coordinator, takes_assign hm ha h⟩
    by_cases hc : q.code = .revokePartitions
    · rw [Notification.ofCode_of_revoke hc]
      have h := Coordinator.givesUp_take q.partitions
        (c.coordinator, c.transport, popped w c.transport.member m rest)
      exact ⟨h.coordinator, takes_revoke hm hc h⟩
    · rw [Notification.ofCode_of_neither ha hc]
      have h := Coordinator.onlyTells_take q.code
        (c.coordinator, c.transport, popped w c.transport.member m rest)
      exact ⟨h.coordinator, takes_trouble ha hc h⟩
  obtain ⟨o, ho, hk, m', hs, htakes⟩ := htakes
  have hlook : look (c, w) = (handle (some (.rebalance q.code q.partitions))
      (c, popped w c.transport.member m rest)).after [.asked (.poll 0)] :=
    look_of_cons c w hm hq rfl
  rw [handle_rebalance c _ ho, hk, hs] at hlook
  rw [hlook]
  exact ⟨m', rfl, htakes⟩

end Consumer

end ConsumerGroup
