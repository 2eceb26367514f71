import ConsumerGroup.Consumer
import ConsumerGroup.Proofs.Broker.Queue
import ConsumerGroup.Proofs.Broker.Reading
import ConsumerGroup.Proofs.Broker.Sound
import ConsumerGroup.Proofs.Consumer.Taking
import ConsumerGroup.Transport.Seat

/-!
# Looks

A poll is a row of looks (`Consumer.look`): a look takes a notification or
brings a message, in one step, and between two looks others may ask the
broker for anything.

`Broker.Looked` tells apart what a look can make of a broker, whatever
the callbacks do (`Consumer.looked`). A message comes only when nothing
waits for the member (`Consumer.brought_of_look`).

The cases are those of the member's queue: nobody there, nothing waiting, or
a notification first. In the last the callbacks decide what becomes of it,
and each way they can go has its own constructor (`Member.Looked`).
-/

namespace ConsumerGroup

theorem Except.eq_ok_of_map {ε β : Type} {x : Except ε Unit} {y z : β}
    (h : x.map (fun _ => y) = .ok z) : x = .ok () := by
  cases x with
  | ok _ => rfl
  | error e => cases h

theorem Except.eq_error_of_map {ε α β : Type} {g : α → β} {x : Except ε α} {e : ε}
    (h : x.map g = .error e) : x = .error e := by
  cases x with
  | ok _ => cases h
  | error _ =>
    cases h
    rfl

theorem Except.eq_ok_of_mapError {ε ε' α : Type} {f : ε → ε'} {x : Except ε α} {y : α}
    (h : x.mapError f = .ok y) : x = .ok y := by
  cases x with
  | ok _ =>
    cases h
    rfl
  | error e => cases h

namespace Consumer

variable {H W : Type}

/-- The transport of a consumer, and the world it is connected to. -/
def connection (s : Consumer H × W) : H × W := (s.1.transport, s.2)

/-- A consumer with its transport in another state, and the world as well. -/
def connected (c : Consumer H) (t : H × W) : Consumer H × W := ({ c with transport := t.1 }, t.2)

/-- A request is told of and made. -/
theorem onTransport_ask {α : Type} (a : Ask) (m : Act DiaryEntry (H × W) α)
    (s : Consumer H × W) :
    onTransport (Transport.ask a m) s =
      ⟨(m (connection s)).result, s.1.connected (m (connection s)).state,
        .asked a :: (m (connection s)).journal.map .diary⟩ := by
  have hasked : Transport.ask a m (connection s) =
      ⟨(m (connection s)).result, (m (connection s)).state,
        .asked a :: (m (connection s)).journal.map .diary⟩ :=
    Act.bind_ok (m := Act.note _) (t := connection s) rfl
  show Outcome.mk (Transport.ask a m (connection s)).result _ _ = _
  rw [hasked]
  rfl

variable [Transport H W]

/-- What becomes of what a poll brings: a message is handed over, a
notification is taken. -/
def handle : Option Event → Act Entry (Consumer H × W) (Option Message)
  | none => pure none
  | some (.message m) => pure (some m)
  | some (.rebalance code partitions) => do
    onCoordinator (Coordinator.take (.ofCode code partitions))
    pure none

/-- One look of a poll: the message at hand, if there is one. A
notification that waits is taken instead. -/
def look : Act Entry (Consumer H × W) (Option Message) := do
  handle (← onTransport (Transport.askPoll 0))

end Consumer

namespace Member

variable {σ : Type}

/-- What a look makes of a member, with how it came to that: nothing waits
and the partitions are read; what waits is a share that is now read as
the callback left it, or one that is refused or that the callback was to
blame for; it takes everything away; or it is something else. -/
inductive Looked (b : Broker) (o : Outcome Entry σ (Option Message)) (m : Member) : Member → Prop
  | fetched (hq : m.queue = []) (ho : o.result = .ok (m.fetch b.topics).1) :
      Looked b o m (m.fetch b.topics).2
  | assigned {q : Queued} {rest : List Queued} {left : PartitionList} {assignment : List Slot}
      (hq : m.queue = q :: rest) (hc : q.code = .assignPartitions)
      (hl : left.SamePartitions q.partitions) (hs : b.slots m left = .ok assignment)
      (hj : .asked (.assign left) ∈ o.journal) (ho : o.result = .ok none) :
      Looked b o m { m with queue := rest, assignment, cursor := 0 }
  | refused {q : Queued} {rest : List Queued} {left : PartitionList}
      (hq : m.queue = q :: rest) (hc : q.code = .assignPartitions)
      (hl : left.SamePartitions q.partitions)
      (hbad : left.hasDuplicates = true ∨ ∃ f, b.slots m left = .error f) :
      Looked b o m { m with queue := rest }
  | undone {q : Queued} {rest : List Queued} {e : Fault}
      (hq : m.queue = q :: rest) (hc : q.code = .assignPartitions)
      (ho : o.result = .error e) (he : e.ofCallback = true) :
      Looked b o m { m with queue := rest }
  | revoked {q : Queued} {rest : List Queued}
      (hq : m.queue = q :: rest) (hc : q.code = .revokePartitions) :
      Looked b o m { m with queue := rest, assignment := [], cursor := 0 }
  | passed {q : Queued} {rest : List Queued}
      (hq : m.queue = q :: rest) (ha : q.code ≠ .assignPartitions) (hr : q.code ≠ .revokePartitions) :
      Looked b o m { m with queue := rest }

/-- A look changes what a member reads and what waits for it, and nothing
else. -/
theorem Looked.frame {b : Broker} {o : Outcome Entry σ (Option Message)} {m m' : Member}
    (h : m.Looked b o m') :
    m' = { m with queue := m'.queue, assignment := m'.assignment, cursor := m'.cursor } := by
  cases h with
  | fetched => rw [fetch_frame]
  | _ => rfl

/-- A look takes the first notification that waits and leaves the member
with what that says, if a share names partitions that are there, each
once, and no callback gets in the way. -/
theorem Looked.leaves {b : Broker} {o : Outcome Entry σ (Option Message)}
    {m m' : Member} (h : m.Looked b o m') (ho : ∀ e, o.result = .error e → e.ofCallback = false)
    {q : Queued} {rest : List Queued} (hq : m.queue = q :: rest)
    (hshare : q.code = .assignPartitions → q.partitions.partitions.Sublist b.topics.partitions) :
    m'.queue = rest ∧ m'.held = q.leaves m.held := by
  cases h with
  | fetched hq' => cases hq'.symm.trans hq
  | assigned hq' hc hsame hslots =>
    cases hq'.symm.trans hq
    rw [Queued.leaves_of_assign hc, ← hsame, ← Broker.map_partition_slots hslots]
    exact ⟨rfl, rfl⟩
  | refused hq' hc hsame hbad =>
    cases hq'.symm.trans hq
    obtain ⟨hnodup, slots, hslots⟩ := Broker.assignable m (hsame ▸ hshare hc)
    rcases hbad with hd | ⟨f, hf⟩
    · exact absurd hd hnodup
    · cases hslots.symm.trans hf
  | undone hq' hc hr he =>
    rw [ho _ hr] at he
    cases he
  | revoked hq' hc =>
    cases hq'.symm.trans hq
    exact ⟨rfl, (Queued.leaves_of_revoke hc _).symm⟩
  | passed hq' ha hr =>
    cases hq'.symm.trans hq
    exact ⟨rfl, (Queued.leaves_of_neither ha hr _).symm⟩

/-- Whoever is told first to give up holds nothing after a look, whatever
its callback does. -/
theorem Looked.gaveUp {b : Broker} {o : Outcome Entry σ (Option Message)} {m m' : Member}
    (h : m.Looked b o m') {q : Queued} {rest : List Queued} (hq : m.queue = q :: rest)
    (hc : q.code = .revokePartitions) : m'.held = [] := by
  cases h with
  | fetched hq' => cases hq'.symm.trans hq
  | assigned hq' hc' | refused hq' hc' | undone hq' hc' =>
    cases hq'.symm.trans hq
    exact absurd (hc.symm.trans hc') StatusCode.revokePartitions_ne_assignPartitions
  | revoked => rfl
  | passed hq' _ hc' =>
    cases hq'.symm.trans hq
    exact absurd hc hc'

/-- When nothing waits, a look leaves the member with what it holds. -/
theorem Looked.idle {b : Broker} {o : Outcome Entry σ (Option Message)} {m m' : Member}
    (h : m.Looked b o m') (hq : m.queue = []) : m'.queue = [] ∧ m'.held = m.held := by
  cases h with
  | fetched =>
    refine ⟨?_, held_fetch m b.topics⟩
    rw [fetch_frame]
    exact hq
  | assigned hq' | refused hq' | undone hq' | revoked hq' | passed hq' => cases hq.symm.trans hq'

end Member

namespace Broker

variable {σ : Type}

/-- What a look makes of a broker: it changes the member who looks, if that
is still there. -/
inductive Looked (b : Broker) (id : String) (o : Outcome Entry σ (Option Message)) : Broker → Prop
  | gone (hm : b.member? id = none) : Looked b id o b
  | changed {m m' : Member} (hm : b.member? id = some m) (h : m.Looked b o m') :
      Looked b id o (b.modifyMember id fun _ => m')

/-- To assign to a member whose notification was just removed. -/
theorem assign_popped {b : Broker} {id : String} {m : Member} (hm : b.member? id = some m)
    (rest : List Queued) (left : PartitionList) :
    let e := (b.modifyMember id fun _ => { m with queue := rest }).assign id left
    (e.result = .ok () ∧ left.partitions.Nodup ∧ ∃ assignment, b.slots m left = .ok assignment ∧
      e.broker = b.modifyMember id fun _ => { m with queue := rest, assignment, cursor := 0 }) ∨
    (e.result ≠ .ok () ∧ (left.hasDuplicates = true ∨ ∃ f, b.slots m left = .error f) ∧
      e.broker = b.modifyMember id fun _ => { m with queue := rest }) := by
  have hmid : m.id = id := id_of_member? hm
  have hid : ∀ m' : Member, m'.id = id → ({ m with queue := rest } : Member).id = id := fun _ _ => hmid
  have hm' : (b.modifyMember id fun _ => { m with queue := rest }).member? id =
      some { m with queue := rest } := by
    rw [member?_modifyMember hid, hm]
    rfl
  have hslots : (b.modifyMember id fun _ => { m with queue := rest }).slots
      { m with queue := rest } left = b.slots m left := by
    apply slots_congr <;> rfl
  unfold assign
  by_cases hd : left.hasDuplicates = true
  · rw [if_pos hd]
    exact .inr ⟨nofun, .inl hd, rfl⟩
  · rw [if_neg hd, hm']
    dsimp only
    rw [hslots]
    cases hs : b.slots m left with
    | error f => exact .inr ⟨nofun, .inr ⟨f, rfl⟩, rfl⟩
    | ok assignment =>
      have hnodup := PartitionList.hasDuplicates_eq_false_iff.mp (Bool.eq_false_iff.mpr hd)
      refine .inl ⟨rfl, hnodup, assignment, rfl, ?_⟩
      exact modifyMember_modifyMember b hid

/-- To give everything up once the first notification has been taken is to
drop that and all that is read. -/
theorem unassign_popped {b : Broker} {id : String} {m : Member} (hm : b.member? id = some m)
    (rest : List Queued) :
    ((b.modifyMember id fun _ => { m with queue := rest }).unassign id).broker =
      b.modifyMember id fun _ => { m with queue := rest, assignment := [], cursor := 0 } := by
  have hmid : m.id = id := id_of_member? hm
  have hid : ∀ m' : Member, m'.id = id → ({ m with queue := rest } : Member).id = id := fun _ _ => hmid
  unfold unassign
  rw [member?_modifyMember hid, hm]
  exact modifyMember_modifyMember b hid

end Broker

namespace Cluster

/-- Whoever waits until now has the next event that is there already. -/
theorem await_now (w : Cluster) (id : String) :
    w.await id w.now = ⟨(w.broker.nextEvent id).result.mapError .failure,
      { w with broker := (w.broker.nextEvent id).broker }, []⟩ := by
  rw [await]
  cases (w.broker.nextEvent id).result with
  | error f => rfl
  | ok event =>
    cases event with
    | some event => rfl
    | none => exact if_pos (Nat.le_refl _)

end Cluster

namespace Consumer

variable (c : Consumer Seat) (w : Cluster)

/-- To poll without waiting is to ask for the next event. -/
theorem askPoll_now :
    onTransport (Transport.askPoll 0) (c, w) =
      ⟨(w.broker.nextEvent c.transport.member).result.mapError .failure,
        (c, { w with broker := (w.broker.nextEvent c.transport.member).broker }),
        [.asked (.poll 0)]⟩ := by
  have hpoll : Transport.poll 0 (c.transport, w) =
      ⟨(w.broker.nextEvent c.transport.member).result.mapError .failure,
        (c.transport, { w with broker := (w.broker.nextEvent c.transport.member).broker }), []⟩ := by
    show Seat.poll 0 (c.transport, w) = _
    unfold Seat.poll
    dsimp only
    rw [Nat.add_zero, Cluster.await_now]
  rw [Transport.askPoll, onTransport_ask, connection, hpoll]
  rfl

/-- A notification is what its coordinator makes of it. -/
theorem handle_rebalance {code : StatusCode} {partitions : PartitionList}
    {o : Outcome Entry (Coordinator × Seat × Cluster) Unit}
    (ho : Coordinator.take (.ofCode code partitions) (c.coordinator, c.transport, w) = o) :
    handle (some (.rebalance code partitions)) (c, w) =
      ⟨o.result.map fun _ => none,
        ({ c with transport := o.state.2.1, coordinator := o.state.1 }, o.state.2.2), o.journal⟩ := by
  obtain ⟨result, s, journal⟩ := o
  have hin : onCoordinator (Coordinator.take (.ofCode code partitions)) (c, w) =
      ⟨result, ({ c with transport := s.2.1, coordinator := s.1 }, s.2.2), journal⟩ := by
    unfold onCoordinator Act.within
    dsimp only
    rw [ho]
  cases result with
  | ok x =>
    refine (Act.bind_ok hin).trans ?_
    show Outcome.mk _ _ (journal ++ []) = _
    rw [List.append_nil]
    rfl
  | error e => exact Act.bind_error hin

/-- To take a notification brings no message. -/
theorem handle_rebalance_ne {code : StatusCode} {partitions : PartitionList} {x : Message} :
    (handle (some (.rebalance code partitions)) (c, w)).result ≠ .ok (some x) := by
  rw [handle_rebalance c w rfl]
  intro h
  cases hr : (Coordinator.take (.ofCode code partitions) (c.coordinator, c.transport, w)).result <;>
  · rw [hr] at h
    cases h

/-- What a look comes to, after what came out of the poll. -/
theorem look_of_nextEvent {x : Option Event} {b : Broker}
    (h : (w.broker.nextEvent c.transport.member).result = .ok x)
    (hb : (w.broker.nextEvent c.transport.member).broker = b) :
    look (c, w) = (handle x (c, { w with broker := b })).after [.asked (.poll 0)] := by
  have hpoll := askPoll_now c w
  rw [h, hb] at hpoll
  exact Act.bind_ok hpoll

section Handled

variable {c : Consumer Seat} {w : Cluster} {m : Member} {q : Queued} {rest : List Queued}

/-- The cluster when a notification was just removed. -/
def popped (w : Cluster) (id : String) (m : Member) (rest : List Queued) : Cluster :=
  { w with broker := w.broker.modifyMember id fun _ => { m with queue := rest } }

variable {σ : Type} {o : Outcome Entry (Coordinator × Seat × Cluster) Unit}
  {o' : Outcome Entry σ (Option Message)}

/-- What comes of a share that was just removed and is taken at once. -/
theorem handled_assign (hm : w.broker.member? c.transport.member = some m) (hq : m.queue = q :: rest)
    (ha : q.code = .assignPartitions)
    (ho : Coordinator.take (.assign q.partitions)
      (c.coordinator, c.transport, popped w c.transport.member m rest) = o)
    (hr' : o'.result = o.result.map fun _ => none) (hj' : o.journal ⊆ o'.journal) :
    ∃ b', o.state.2 = (c.transport, { w with broker := b' }) ∧
      w.broker.Looked c.transport.member o' b' := by
  have htake := Coordinator.take_assign q.partitions
    (c.coordinator, c.transport, popped w c.transport.member m rest)
  rw [ho] at htake
  rcases htake with ⟨left, hl, hs, hj, hr⟩ | ⟨hs, e, _, he, hcallback, _⟩
  · refine ⟨_, hs, ?_⟩
    rcases Broker.assign_popped hm rest left with ⟨hok, _, assignment, hslots, hb⟩ | ⟨_, hbad, hb⟩
    · have hresult : o'.result = .ok none := by
        rw [hr', hr.mp (congrArg (Except.mapError Fault.failure) hok)]
        rfl
      have hasked : .asked (.assign left) ∈ o.journal := by simp [hj]
      show Broker.Looked _ _ _ (Broker.assign _ _ left).broker
      rw [popped, hb]
      exact .changed hm (.assigned hq ha hl hslots (hj' hasked) hresult)
    · show Broker.Looked _ _ _ (Broker.assign _ _ left).broker
      rw [popped, hb]
      exact .changed hm (.refused hq ha hl hbad)
  · rw [he] at hr'
    exact ⟨_, hs, .changed hm (.undone hq ha hr' hcallback)⟩

/-- What comes of a revocation that was just removed and is taken at once,
whether it goes well or not. -/
theorem handled_revoke (hm : w.broker.member? c.transport.member = some m) (hq : m.queue = q :: rest)
    (hc : q.code = .revokePartitions)
    (ho : Coordinator.take (.revoke q.partitions)
      (c.coordinator, c.transport, popped w c.transport.member m rest) = o) :
    ∃ b', o.state.2 = (c.transport, { w with broker := b' }) ∧
      w.broker.Looked c.transport.member o' b' := by
  have htake := Coordinator.take_revoke q.partitions
    (c.coordinator, c.transport, popped w c.transport.member m rest)
  rw [ho] at htake
  refine ⟨_, htake.1, ?_⟩
  show Broker.Looked _ _ _ (Broker.unassign _ _).broker
  rw [popped, Broker.unassign_popped hm]
  exact .changed hm (.revoked hq hc)

/-- A notification that was just removed and is taken at once. -/
theorem handled (hm : w.broker.member? c.transport.member = some m) (hq : m.queue = q :: rest)
    {o : Outcome Entry (Consumer Seat × Cluster) (Option Message)}
    (ho : handle (some (.rebalance q.code q.partitions))
      (c, popped w c.transport.member m rest) = o) (before : List Entry) :
    ∃ b', o.state.2 = { w with broker := b' } ∧ o.state.1.transport = c.transport ∧
      w.broker.Looked c.transport.member (o.after before) b' := by
  subst ho
  cases ho : Coordinator.take (.ofCode q.code q.partitions)
      (c.coordinator, c.transport, popped w c.transport.member m rest) with
  | mk result s journal =>
    rw [handle_rebalance c _ ho]
    -- It is enough to know what the coordinator leaves of the seat and the cluster.
    generalize ho' : Outcome.after before _ = o'
    suffices h : ∃ b', s.2 = (c.transport, { w with broker := b' }) ∧
        w.broker.Looked c.transport.member o' b' by
      obtain ⟨b', hs, hl⟩ := h
      exact ⟨b', congrArg Prod.snd hs, congrArg Prod.fst hs, hl⟩
    subst ho'
    by_cases ha : q.code = .assignPartitions
    · rw [Notification.ofCode_of_assign ha] at ho
      exact handled_assign hm hq ha ho rfl (List.subset_append_right _ _)
    · by_cases hc : q.code = .revokePartitions
      · rw [Notification.ofCode_of_revoke hc] at ho
        exact handled_revoke hm hq hc ho
      · rw [Notification.ofCode_of_neither ha hc] at ho
        have htake := Coordinator.take_trouble q.code
          (c.coordinator, c.transport, popped w c.transport.member m rest)
        rw [ho] at htake
        exact ⟨_, htake.1, .changed hm (.passed hq ha hc)⟩

end Handled

/-- Whoever is gone is told so when it looks. -/
theorem look_of_gone (h : w.broker.member? c.transport.member = none) :
    look (c, w) = ⟨.error (.failure (.ofCode .destroyed)), (c, w), [.asked (.poll 0)]⟩ := by
  have hevent : w.broker.nextEvent c.transport.member = w.broker.refuse .destroyed := by
    unfold Broker.nextEvent
    rw [h]
  have hpoll := askPoll_now c w
  rw [hevent] at hpoll
  exact Act.bind_error hpoll

/-- Whoever has no notification waiting is brought the message that it finds,
if any. -/
theorem look_of_nil {m : Member} (hm : w.broker.member? c.transport.member = some m)
    (hq : m.queue = []) {b : Broker}
    (hb : b = w.broker.modifyMember c.transport.member fun _ => (m.fetch w.broker.topics).2) :
    look (c, w) = ⟨.ok (m.fetch w.broker.topics).1, (c, { w with broker := b }), [.asked (.poll 0)]⟩ := by
  rw [look_of_nextEvent c w (x := (m.fetch w.broker.topics).1.map .message) (b := b)
    (by simp only [Broker.nextEvent, hm, Member.next, hq])
    (by simp only [Broker.nextEvent, hm, Member.next, hq, hb])]
  cases (m.fetch w.broker.topics).1 <;> rfl

/-- Whoever has one waiting takes that, and is brought no message. -/
theorem look_of_cons {m : Member} (hm : w.broker.member? c.transport.member = some m) {q : Queued}
    {rest : List Queued} (hq : m.queue = q :: rest) {b : Broker}
    (hb : b = w.broker.modifyMember c.transport.member fun _ => { m with queue := rest }) :
    look (c, w) = (handle (some (.rebalance q.code q.partitions))
      (c, { w with broker := b })).after [.asked (.poll 0)] :=
  look_of_nextEvent c w (by simp only [Broker.nextEvent, hm, Member.next, hq])
    (by simp only [Broker.nextEvent, hm, Member.next, hq, hb])

/-- A look changes the broker as `Broker.Looked` says, and else neither the
cluster nor the seat. -/
theorem looked : ∃ b', (look (c, w)).state.2 = { w with broker := b' } ∧
    (look (c, w)).state.1.transport = c.transport ∧
    w.broker.Looked c.transport.member (look (c, w)) b' := by
  cases hm : w.broker.member? c.transport.member with
  | none =>
    rw [look_of_gone c w hm]
    exact ⟨w.broker, rfl, rfl, .gone hm⟩
  | some m =>
    cases hq : m.queue with
    | nil =>
      rw [look_of_nil c w hm hq rfl]
      exact ⟨_, rfl, rfl, .changed hm (.fetched hq rfl)⟩
    | cons q rest =>
      rw [look_of_cons c w hm hq rfl]
      exact handled hm hq rfl _

/-- A message is brought only when nothing waits, and it is what the
member found. -/
theorem brought_of_look {x : Message} (h : (look (c, w)).result = .ok (some x)) :
    ∃ m, w.broker.member? c.transport.member = some m ∧ m.queue = [] ∧
      (m.fetch w.broker.topics).1 = some x ∧ (look (c, w)).state.2.broker =
        w.broker.modifyMember c.transport.member fun _ => (m.fetch w.broker.topics).2 := by
  cases hm : w.broker.member? c.transport.member with
  | none =>
    rw [look_of_gone c w hm] at h
    cases h
  | some m =>
    cases hq : m.queue with
    | nil =>
      rw [look_of_nil c w hm hq rfl] at h ⊢
      exact ⟨m, rfl, hq, Except.ok.inj h, rfl⟩
    | cons q rest =>
      rw [look_of_cons c w hm hq rfl] at h
      exact absurd h (handle_rebalance_ne c _)

/-- A list is assigned only when a share waits that names the same
partitions in the same order, and then nothing else becomes of it. -/
theorem assigned_of_look {l : PartitionList} (hj : .asked (.assign l) ∈ (look (c, w)).journal)
    (ho : (look (c, w)).result = .ok none) :
    ∃ m q rest assignment, w.broker.member? c.transport.member = some m ∧ m.queue = q :: rest ∧
      q.code = .assignPartitions ∧ l.SamePartitions q.partitions ∧ l.partitions.Nodup ∧
      w.broker.slots m l = .ok assignment ∧ (look (c, w)).state.2.broker =
        w.broker.modifyMember c.transport.member
          fun _ => { m with queue := rest, assignment, cursor := 0 } := by
  cases hm : w.broker.member? c.transport.member with
  | none =>
    rw [look_of_gone c w hm] at ho
    cases ho
  | some m =>
    cases hq : m.queue with
    | nil =>
      rw [look_of_nil c w hm hq rfl] at hj
      simp at hj
    | cons q rest =>
      rw [look_of_cons c w hm hq rfl, handle_rebalance c _ rfl] at hj ho ⊢
      simp only [Outcome.result_after, Outcome.journal_after, Outcome.state_after, List.mem_append,
        List.mem_singleton, Entry.asked.injEq, reduceCtorEq, false_or] at hj ho ⊢
      obtain ⟨l', hn, hl, hs, hr⟩ := Coordinator.asked_assign_of_take hj
      obtain ⟨hc, rfl⟩ := Notification.ofCode_eq_assign_iff.mp hn
      rw [hs]
      have hok : (Transport.assign l (c.transport, popped w c.transport.member m rest)).result =
          .ok () := hr.mpr (Except.eq_ok_of_map ho)
      rcases Broker.assign_popped hm rest l with ⟨_, hnodup, assignment, hslots, hb⟩ | ⟨hbad, _⟩
      · exact ⟨m, q, rest, assignment, rfl, hq, hc, hl, hnodup, hslots, hb⟩
      · exact absurd (Except.eq_ok_of_mapError hok) hbad

end Consumer

end ConsumerGroup
