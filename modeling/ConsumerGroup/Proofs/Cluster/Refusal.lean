import ConsumerGroup.Proofs.Broker.Sparing
import ConsumerGroup.Proofs.Cluster.Sleep
import ConsumerGroup.Proofs.Group.Run
import ConsumerGroup.Session

/-!
# What fails changes nothing

An operation of the broker that fails is nothing but its failure
(`Broker.sparing_perform`), and so is what fails at a seat. A poll fails at
once or not at all: whoever is there when it begins, and is not asked to
leave meanwhile, is never refused later.

For operations this needs no word about why they fail. A poll is different,
since it sleeps, and others change the broker while it does: so it is said
of polls that they fail only before they have slept, as long as nobody has
the member leave.
-/

namespace ConsumerGroup

namespace Seat

variable {α : Type} {seat : Seat} {w : Cluster}

/-- An act that, if it fails at a seat, is no more than its failure. -/
def Sparing (seat : Seat) (w : Cluster) (m : Act DiaryEntry (Seat × Cluster) α) : Prop :=
  ∀ e, (m (seat, w)).result = .error e → m (seat, w) = ⟨.error e, (seat, w), []⟩

/-- What is sparing for the broker is sparing at a seat. -/
theorem sparing_act {f : Broker → String → Broker.Effect α} (hf : ∀ b, (f b seat.member).Sparing b) :
    Sparing seat w (act f) := by
  intro e h
  change (f w.broker seat.member).result.mapError _ = _ at h
  cases hr : (f w.broker seat.member).result with
  | ok x =>
    rw [hr] at h
    cases h
  | error failure =>
    rw [hr] at h
    cases h
    unfold act Cluster.onBroker
    dsimp only
    rw [hf w.broker failure hr]
    rfl

/-- To ask a question changes nothing. -/
theorem sparing_wonder (f : Broker → String → Except Failure α) : Sparing seat w (wonder f) := by
  intro e h
  unfold wonder
  dsimp only
  rw [show (f w.broker seat.member).mapError _ = _ from h]

/-- Nobody is refused while it waits, but at once or not at all. -/
theorem sparing_poll (timeout : Nat)
    (hl : ∀ a ∈ w.agenda, a.request ≠ .member seat.member .leave) :
    Sparing seat w (poll timeout) := by
  intro e h
  have hawait : w.await seat.member (w.now + timeout) = ⟨.error e, w, []⟩ :=
    Cluster.await_of_error hl h
  unfold poll
  dsimp only
  rw [hawait]

section Asked

variable {m : {H : Type} → [Transport H Cluster] → Act DiaryEntry (H × Cluster) α}

/-- What is asked of the transport at a seat is told of, and then it is what
the seat does. -/
theorem asked_seat (a : Ask) (g : α → Response) :
    (do let x ← Transport.ask a (Link.act m); return g x : Act Entry (Link × Cluster) Response)
      (.seat seat, w) = ⟨(m (seat, w)).result.map g,
        (.seat (m (seat, w)).state.1, (m (seat, w)).state.2),
        .asked a :: (m (seat, w)).journal.map .diary⟩ := by
  have hask : Transport.ask a (Link.act m) (.seat seat, w) =
      ⟨(m (seat, w)).result, (.seat (m (seat, w)).state.1, (m (seat, w)).state.2),
        .asked a :: (m (seat, w)).journal.map .diary⟩ := rfl
  cases hr : (m (seat, w)).result with
  | ok x =>
    rw [hr] at hask
    rw [Act.bind_ok hask]
    show Outcome.mk _ _ (_ ++ []) = _
    rw [List.append_nil]
    rfl
  | error e =>
    rw [hr] at hask
    rw [Act.bind_error hask]
    rfl

/-- What is asked of the transport at a seat is told of, and if it fails
that is all that has come of it. -/
theorem Sparing.asked (hm : Sparing seat w (m (H := Seat))) (a : Ask) (g : α → Response) {e : Fault}
    (h : ((do let x ← Transport.ask a (Link.act m); return g x :
      Act Entry (Link × Cluster) Response) (.seat seat, w)).result = .error e) :
    (do let x ← Transport.ask a (Link.act m); return g x : Act Entry (Link × Cluster) Response)
      (.seat seat, w) = ⟨.error e, (.seat seat, w), [.asked a]⟩ := by
  rw [asked_seat] at h ⊢
  cases hr : (m (seat, w)).result with
  | ok x =>
    rw [hr] at h
    cases h
  | error e' =>
    rw [hr] at h
    cases h
    rw [hm _ hr]
    rfl

end Asked

/-- Whatever is asked of the transport at a seat, if it fails it changes
nothing. -/
theorem askTransport_of_error (a : Ask) {e : Fault}
    (hl : a.method = .poll → ∀ x ∈ w.agenda, x.request ≠ .member seat.member .leave)
    (h : (Session.askTransport a (.seat seat, w)).result = .error e) :
    Session.askTransport a (.seat seat, w) = ⟨.error e, (.seat seat, w), [.asked a]⟩ := by
  cases a with
  | poll timeout => exact (sparing_poll timeout (hl rfl)).asked _ _ h
  | subscribe topics => exact (sparing_act fun b => b.sparing_subscribe _ topics).asked _ _ h
  | unsubscribe => exact (sparing_act fun b => b.sparing_unsubscribe _).asked _ _ h
  | assign partitions => exact (sparing_act fun b => b.sparing_assign _ partitions).asked _ _ h
  | unassign => exact (sparing_act fun b => b.sparing_unassign _).asked _ _ h
  | commit offsets asynchronous =>
    exact (sparing_act fun b => b.sparing_commit _ offsets asynchronous).asked _ _ h
  | watermarks | committed | positions | assignment | subscription =>
    exact (sparing_wonder _).asked _ _ h
  | close => exact (sparing_act fun b => b.sparing_leave _).asked _ _ h

end Seat

/-- Whatever fails changes nothing: what is asked of a broker; a commit
that fails only in the diary; and what is asked of the transport at a
seat, a poll included, which fails before any time has passed. (Nobody
can have a member leave that is busy waiting.) -/
theorem failing_changes_nothing (b : Broker) :
    (∀ r f, (b.perform r).result = .error f → b.perform r = b.answer (.error f)) ∧
    (∀ id offsets id' f, .commitFailedLater id' f ∈ (b.commit id offsets true).diary →
      b.commit id offsets true =
        { result := .ok (), broker := b, diary := [.commitFailedLater id' f] }) ∧
    ∀ (a : Ask) (seat : Seat) (w : Cluster) e, w.broker = b →
      (a.method = .poll → ∀ x ∈ w.agenda, x.request ≠ .member seat.member .leave) →
      (Session.askTransport a (.seat seat, w)).result = .error e →
        Session.askTransport a (.seat seat, w) = ⟨.error e, (.seat seat, w), [.asked a]⟩ := by
  refine ⟨b.sparing_perform, fun _ _ _ _ h => Broker.commit_of_told h, ?_⟩
  intro a seat w e _ hl h
  exact Seat.askTransport_of_error a hl h

/-- Two members have joined a group, and a record is about to be written. -/
def Cluster.beforeRecord : Cluster where
  broker := (Chronicle.run Chronicle.joinedLater).broker
  agenda := [⟨5, .produce ⟨"t", 0⟩ none []⟩]

/-- Offsets to commit, of which only the first can be. -/
def PartitionList.halfBad : PartitionList := [⟨⟨"t", 0⟩, .number 2⟩, ⟨⟨"t", 7⟩, .number 2⟩]

/-- A commit whose second entry is bad commits nothing, waited for or not;
and somebody who never joined is refused at once, though a record is about
to come. -/
theorem failing_changes_nothing_beforeRecord :
    Cluster.beforeRecord.broker.perform (.member "kafka_group-1" (.commit .halfBad false)) =
        Cluster.beforeRecord.broker.answer (.error (.ofCode .unknownTopicOrPartition)) ∧
      Cluster.beforeRecord.broker.commit "kafka_group-1" .halfBad true =
        { result := .ok (), broker := Cluster.beforeRecord.broker,
          diary := [.commitFailedLater "kafka_group-1" (.ofCode .unknownTopicOrPartition)] } ∧
      Session.askTransport (.poll 10) (.seat ⟨"stranger", "g"⟩, .beforeRecord) =
        ⟨.error (.failure (.ofCode .destroyed)), (.seat ⟨"stranger", "g"⟩, .beforeRecord),
          [.asked (.poll 10)]⟩ := by
  obtain ⟨hperform, hcommit, hask⟩ := failing_changes_nothing Cluster.beforeRecord.broker
  refine ⟨hperform _ _ (by decide +kernel), hcommit _ _ _ _ ?_,
    hask (.poll 10) _ _ _ rfl ?_ (by decide +kernel)⟩
  · have hdiary : (Cluster.beforeRecord.broker.commit "kafka_group-1" .halfBad true).diary =
      [.commitFailedLater "kafka_group-1" (.ofCode .unknownTopicOrPartition)] := by decide +kernel
    simp [hdiary]
  · intro _
    simp [Cluster.beforeRecord]

end ConsumerGroup
