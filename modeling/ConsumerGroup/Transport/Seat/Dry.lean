import ConsumerGroup.Transport.Seat

/-!
# A seat runs dry

A member is notified of only so many rebalances while it polls: those
that wait for it already, and those that appointments yet to be kept
bring. Each notification taken from the queue shortens the queue, and to
wait for one an appointment has to be kept.
-/

namespace ConsumerGroup

namespace Broker

/-- How many notifications wait for a member. -/
def waiting (b : Broker) (id : String) : Nat := ((b.member? id).map (·.queue.length)).getD 0

/-- A change of a member that leaves its queue alone leaves as many
notifications waiting. -/
theorem waiting_modifyMember {b : Broker} {id : String} {f : Member → Member}
    (hid : ∀ m, (f m).id = m.id) (hq : ∀ m, (f m).queue = m.queue) :
    (b.modifyMember id f).waiting id = b.waiting id := by
  rw [waiting, member?_modifyMember fun m h => (hid m).trans h, waiting, Option.map_map]
  congr 2
  funext m
  exact congrArg List.length (hq m)

/-- Taking a notification shortens the queue. -/
theorem waiting_nextEvent {b : Broker} {id : String} {code : StatusCode}
    {partitions : PartitionList}
    (h : (b.nextEvent id).result = .ok (some (.rebalance code partitions))) :
    (b.nextEvent id).broker.waiting id < b.waiting id := by
  unfold nextEvent at h ⊢
  cases hm : b.member? id with
  | none => simp [hm, refuse] at h
  | some m =>
    simp only [hm, Member.next] at h ⊢
    cases hq : m.queue with
    | nil =>
      simp only [hq] at h
      cases hf : (m.fetch b.topics).1 <;> simp [hf] at h
    | cons q rest =>
      have hid : m.id = id := id_of_member? hm
      rw [waiting, waiting, hm]
      have found := member?_modifyMember (b := b) (f := fun _ => { m with queue := rest })
        fun _ _ => hid
      simp [found, hm, hq]

theorem waiting_assign (b : Broker) (id : String) (partitions : PartitionList) :
    (b.assign id partitions).broker.waiting id = b.waiting id := by
  unfold assign
  split
  · rfl
  · split
    · rfl
    · split
      · rfl
      · exact waiting_modifyMember (fun _ => rfl) fun _ => rfl

theorem waiting_unassign (b : Broker) (id : String) :
    (b.unassign id).broker.waiting id = b.waiting id := by
  unfold unassign
  split
  · rfl
  · exact waiting_modifyMember (fun _ => rfl) fun _ => rfl

end Broker

namespace Cluster

/-- While a member waits nothing is put on the agenda, and a notification
that comes of it was waiting or has been brought by an appointment. -/
theorem await_less {id : String} {deadline : Nat} {c : Cluster} :
    (c.await id deadline).state.agenda.length ≤ c.agenda.length ∧
      ∀ code partitions, (c.await id deadline).result = .ok (some (.rebalance code partitions)) →
        (c.await id deadline).state.agenda.length < c.agenda.length ∨
          (c.await id deadline).state.agenda.length = c.agenda.length ∧
            (c.await id deadline).state.broker.waiting id < c.broker.waiting id := by
  fun_induction await id deadline c with
  | case1 => exact ⟨Nat.le_refl _, by simp⟩
  | case2 c e c' event he =>
    refine ⟨Nat.le_refl _, fun code partitions h => .inr ⟨rfl, ?_⟩⟩
    exact Broker.waiting_nextEvent (he.trans (by simpa using h))
  | case3 => exact ⟨Nat.le_refl _, by simp⟩
  | case4 c e c' he ht s hw ih =>
    have hs := (length_agenda_sleepFrom deadline c' c.agenda).2 hw
    exact ⟨Nat.le_trans ih.1 (Nat.le_of_lt hs), fun _ _ _ => .inl (Nat.lt_of_le_of_lt ih.1 hs)⟩
  | case5 c e c' he ht s hw =>
    exact ⟨(length_agenda_sleepFrom deadline c' c.agenda).1, by simp⟩

end Cluster

namespace Seat

instance : RunsDry Seat Cluster where
  backlog s := ⟨s.2.agenda.length, s.2.broker.waiting s.1.member⟩
  less_of_poll {_ s code partitions} h := by
    rcases Cluster.await_less.2 code partitions h with h | ⟨h, k⟩
    · exact Backlog.less_of_ahead h
    · exact Backlog.less_of_atHand h k
  backlog_assign partitions s := by
    exact congrArg (Backlog.mk _) (Broker.waiting_assign s.2.broker s.1.member partitions)
  backlog_unassign s := by
    exact congrArg (Backlog.mk _) (Broker.waiting_unassign s.2.broker s.1.member)

end Seat

end ConsumerGroup
