import ConsumerGroup.Proofs.Broker.Draining
import ConsumerGroup.Proofs.Broker.Queueing
import ConsumerGroup.Proofs.Consumer.Upheld
import ConsumerGroup.Proofs.Group.Bounds

/-!
# Draining

A member for which no notification waits, and that polls again and again
without waiting while nothing else happens, is told what is left to tell,
message by message, and then nothing any more (`Chronicle.drains`). What is
left to tell is what each partition is due, in turns.

The step is `Consumer.pollFor_now`: a poll that does not wait brings what
the next fetch finds, and leaves the member as the fetch does. The row of
polls follows by induction on their number (`Consumer.results_pollFor`).

Others are quiet here. What they can do to the order in which a member is
served, and what they cannot, is said in `Proofs.Group.Fairness`.
-/

namespace ConsumerGroup

namespace Act

variable {ω σ α β : Type}

/-- What an act comes to, done so many times one after the other. -/
def results (m : Act ω σ α) : Nat → σ → List (Except Fault α)
  | 0, _ => []
  | n + 1, s => (m s).result :: m.results n (m s).state

/-- An act that takes the first of a list, each time, takes the list in its
order, and finds nothing afterwards. -/
theorem results_eq {m : Act ω σ α} {P : σ → List β → Prop} {f : Option β → Except Fault α}
    (hstep : ∀ s l, P s l → (m s).result = f l.head? ∧ P (m s).state l.tail)
    {s : σ} {l : List β} (h : P s l) (k : Nat) :
    m.results k s = (List.range k).map fun i => f l[i]? := by
  induction k generalizing s l with
  | zero => rfl
  | succ k ih =>
    obtain ⟨hresult, hleft⟩ := hstep s l h
    rw [results, hresult, ih hleft, List.range_succ_eq_map, List.map_cons, List.map_map,
      List.head?_eq_getElem?]
    simp only [List.getElem?_tail, Function.comp_def, Nat.succ_eq_add_one]

end Act

/-- Nothing waits for the member, and so much is left to tell it. -/
def Broker.Leaves (b : Broker) (id : String) (left : List Message) : Prop :=
  ∃ m, b.member? id = some m ∧ m.queue = [] ∧ m.InBounds b.topics ∧ m.leftToTell b.topics = left

/-- The first of what is left to tell is brought next, and the rest is left
then. -/
theorem Broker.Leaves.next {b : Broker} {id : String} {left : List Message} (h : b.Leaves id left) :
    (b.nextEvent id).result = .ok (left.head?.map .message) ∧
      (b.nextEvent id).broker.Leaves id left.tail := by
  obtain ⟨m, hm, hq, hbounds, rfl⟩ := h
  obtain ⟨hfound, hleft⟩ := hbounds.fetch_leftToTell
  have hm' : (b.nextEvent id).broker.member? id = some (m.fetch b.topics).2 := by
    rw [member?_nextEvent hm, Member.next_of_nil hq]
  have hq' : (m.fetch b.topics).2.queue = [] := by
    rw [m.fetch_frame]
    exact hq
  have hts : (b.nextEvent id).broker.topics = b.topics := by
    rw [nextEvent_of_member? hm]
    rfl
  refine ⟨?_, _, hm', hq', ?_, ?_⟩
  · rw [nextEvent_of_member? hm, Member.next_of_nil hq, ← hfound]
  · rw [hts]
    exact hbounds.fetch
  · rw [hts]
    exact hleft

/-- A seat that polls without waiting has the next event that is there. -/
theorem Seat.poll_now (s : Seat) (w : Cluster) :
    (Transport.poll 0 : Act DiaryEntry (Seat × Cluster) _) (s, w) =
      ⟨(w.broker.nextEvent s.member).result.mapError .failure,
        (s, { w with broker := (w.broker.nextEvent s.member).broker }), []⟩ := by
  show Seat.poll 0 (s, w) = _
  unfold Seat.poll
  dsimp only
  rw [Nat.add_zero, Cluster.await_now]

/-- A consumer that polls without waiting, and for which no notification
waits, has the message that comes next, or nothing. -/
theorem Consumer.pollFor_now {c : Consumer Seat} {w : Cluster} {x : Option Message}
    (h : (w.broker.nextEvent c.transport.member).result = .ok (x.map .message)) :
    (pollFor 0 : Act Entry (Consumer Seat × Cluster) Message) (c, w) =
      ⟨.ok (x.getD .empty),
        (c, { w with broker := (w.broker.nextEvent c.transport.member).broker }),
        [.asked (.poll 0)]⟩ := by
  have hcome : awaitEvent (w.now + 0) (c, w) =
      ⟨.ok (x.map .message),
        (c, { w with broker := (w.broker.nextEvent c.transport.member).broker }),
        [.asked (.poll 0)]⟩ := by
    have hnow : w.now + 0 - w.now = 0 := by omega
    rw [awaitEvent_eq, hnow, Nat.add_zero, Cluster.await_now, h]
    rfl
  show pollUntil (w.now + 0) (c, w) = _
  rw [pollUntil_eq, Act.bind_ok hcome]
  cases x <;> rfl

variable {w : Cluster} {left : List Message}

/-- A row of such polls of a seat is told what is left to tell. -/
theorem Seat.results_poll {s : Seat} (h : w.broker.Leaves s.member left) (k : Nat) :
    (Transport.poll 0 : Act DiaryEntry (Seat × Cluster) _).results k (s, w) =
      (List.range k).map fun i => .ok (left[i]?.map .message) := by
  refine Act.results_eq (s := (s, w)) (f := fun x => .ok (x.map Event.message))
    (P := fun x left => x.2.broker.Leaves x.1.member left) ?_ h k
  rintro ⟨s, w⟩ left h
  obtain ⟨hresult, hleft⟩ := h.next
  rw [poll_now, hresult]
  exact ⟨rfl, hleft⟩

/-- A row of such polls of a consumer is told what is left to tell. -/
theorem Consumer.results_pollFor {c : Consumer Seat} (h : w.broker.Leaves c.transport.member left)
    (k : Nat) :
    (pollFor 0 : Act Entry (Consumer Seat × Cluster) Message).results k (c, w) =
      (List.range k).map fun i => .ok (left[i]?.getD .empty) := by
  refine Act.results_eq (s := (c, w)) (f := fun x => .ok (x.getD Message.empty))
    (P := fun x left => x.2.broker.Leaves x.1.transport.member left) ?_ h k
  rintro ⟨c, w⟩ left h
  obtain ⟨hresult, hleft⟩ := h.next
  rw [pollFor_now hresult]
  exact ⟨rfl, hleft⟩

namespace Chronicle

/-- After any run, a member for which no notification waits, and that polls
again and again without waiting while nothing else happens, is told what is
left to tell, in its order, and from then on nothing. Of that, what is about
one partition is what that partition is due, and there is nothing else. A
poll finds nothing just where no partition is ready. -/
theorem drains (hs : List Happening) (patterns : PatternReader) {c : Consumer Seat} {m : Member}
    {w : Cluster} (hw : w.broker = (run hs patterns).broker)
    (hm : (run hs patterns).broker.member? c.transport.member = some m) (hq : m.queue = []) :
    let ts := (run hs patterns).broker.topics
    let left := m.leftToTell ts
    (∀ k, (Transport.poll 0 : Act DiaryEntry (Seat × Cluster) _).results k (c.transport, w) =
      (List.range k).map fun i => .ok (left[i]?.map .message)) ∧
    (∀ k, (Consumer.pollFor 0 : Act Entry (Consumer Seat × Cluster) _).results k (c, w) =
      (List.range k).map fun i => .ok (left[i]?.getD .empty)) ∧
    (∀ s ∈ m.assignment, left.filter (·.partition? = some s.partition) = s.due m.options ts) ∧
    (∀ x ∈ left, ∃ s ∈ m.assignment, x.partition? = some s.partition) ∧
    ((Consumer.pollFor 0 (c, w)).result = .ok .empty ↔
      ∀ s ∈ m.assignment, ¬ s.Ready m.options ts) := by
  intro ts left
  have hbounds : m.InBounds ts := inBounds_run hs patterns m (List.mem_of_find?_eq_some hm)
  have hleaves : w.broker.Leaves c.transport.member left := by
    rw [hw]
    exact ⟨m, hm, hq, hbounds, rfl⟩
  have habout : ∀ x ∈ left, ∃ s ∈ m.assignment, x.partition? = some s.partition := by
    intro x hx
    obtain ⟨_, hk, hx⟩ := mem_inRounds.mp hx
    obtain ⟨s, hs, rfl⟩ := List.mem_map.mp hk
    exact ⟨s, Member.mem_circle.mp hs, Slot.partition_of_mem_due hx⟩
  refine ⟨Seat.results_poll hleaves, Consumer.results_pollFor hleaves,
    fun s hs => hbounds.filter_leftToTell hs, habout, ?_⟩
  rw [← Member.leftToTell_eq_nil_iff, Consumer.pollFor_now hleaves.next.1]
  show Except.ok (left.head?.getD .empty) = _ ↔ left = []
  cases hleft : left with
  | nil => simp
  | cons x rest =>
    obtain ⟨s, _, hx⟩ := habout x (by rw [hleft]; exact List.mem_cons_self)
    have hne : x ≠ .empty := by
      rintro rfl
      cases hx
    simp [hne]

/-- A member whose policy refuses reads three partitions from the beginning:
one with two records, one whose only record has been dropped since, and one
that is empty. -/
def threeAssigned : List Happening :=
  [.asked (.createTopic "t" 3),
    .asked (.produce ⟨"t", 0⟩ none [1]),
    .asked (.produce ⟨"t", 0⟩ (some [7]) [2]),
    .asked (.produce ⟨"t", 1⟩ none [3]),
    .asked (.connect (Configuration.ofPairs [("auto.offset.reset", "error"),
      ("enable.partition.eof", "true"), ("group.id", "g")])),
    .asked (.member "kafka_group-1" (.assign
      [⟨⟨"t", 0⟩, .beginning⟩, ⟨⟨"t", 1⟩, .beginning⟩, ⟨⟨"t", 2⟩, .beginning⟩])),
    .asked (.deleteRecords ⟨"t", 1⟩ 1)]

/-- It is told the first record, the refusal and the end of the empty
partition, in the second round what is left of the first partition, and
then nothing. -/
theorem drains_threeAssigned :
    let c : Consumer Seat := { transport := ⟨"kafka_group-1", "g"⟩ }
    let w : Cluster := { broker := (run threeAssigned).broker }
    (Consumer.pollFor 0 : Act Entry (Consumer Seat × Cluster) _).results 7 (c, w) =
      [.ok (.record ⟨"t", 0⟩ 0 none (some [1])), .ok (.refusal ⟨"t", 1⟩), .ok (.atEnd ⟨"t", 2⟩ 0),
        .ok (.record ⟨"t", 0⟩ 1 (some [7]) (some [2])), .ok (.atEnd ⟨"t", 0⟩ 2),
        .ok .empty, .ok .empty] := by
  intro c w
  have hfound : ((run threeAssigned).broker.member? "kafka_group-1").map
      (fun m => (m.queue, m.leftToTell (run threeAssigned).broker.topics)) =
      some ([], [.record ⟨"t", 0⟩ 0 none (some [1]), .refusal ⟨"t", 1⟩, .atEnd ⟨"t", 2⟩ 0,
        .record ⟨"t", 0⟩ 1 (some [7]) (some [2]), .atEnd ⟨"t", 0⟩ 2]) := by
    decide +kernel
  obtain ⟨m, hm, hread⟩ := Option.map_eq_some_iff.mp hfound
  obtain ⟨hq, hleft⟩ := Prod.mk.inj hread
  obtain ⟨_, hpolls, _⟩ := drains threeAssigned Pattern.reader (c := c) (w := w) rfl hm hq
  rw [hpolls, hleft]
  rfl

end Chronicle

end ConsumerGroup
