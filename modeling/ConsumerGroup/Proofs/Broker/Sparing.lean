import ConsumerGroup.Broker.Operation

/-!
# Operations that fail

Every operation of the broker checks first and writes then. An operation
that fails is therefore nothing but its failure (`Broker.Effect.Sparing`):
the broker is as it was, nobody is woken, and the diary says nothing. An
asynchronous commit does not fail, but one that could not be done leaves
no more behind than the entry in the diary that says so.

One operation after the other is opened, and in each branch either nothing
has been written or the result is no error. Nothing is said of operations
that go well.
-/

namespace ConsumerGroup

namespace Broker

variable {α β : Type} {b : Broker}

/-- An effect on a broker that, if it fails, is no more than its failure. -/
def Effect.Sparing (b : Broker) (e : Effect α) : Prop :=
  ∀ f, e.result = .error f → e = b.answer (.error f)

theorem sparing_answer (b : Broker) (x : Except Failure α) : (b.answer x).Sparing b := by
  intro f h
  rw [show x = .error f from h]

theorem sparing_refuse (b : Broker) (code : StatusCode) : (b.refuse code : Effect α).Sparing b :=
  b.sparing_answer (.error (.ofCode code))

/-- What goes well need not spare anything. -/
theorem Effect.sparing_of_ok {e : Effect α} {x : α} (h : e.result = .ok x) : e.Sparing b := by
  intro f hf
  rw [h] at hf
  cases hf

/-- It does not matter how the answer is told. -/
theorem Effect.Sparing.map {e : Effect α} (he : e.Sparing b) (f : α → β) : (e.map f).Sparing b := by
  intro failure h
  change e.result.map f = _ at h
  cases hr : e.result with
  | ok x =>
    rw [hr] at h
    cases h
  | error _ =>
    rw [hr] at h
    cases h
    rw [he failure hr]
    rfl

/-! ## The operations -/

theorem sparing_createTopic (b : Broker) (name : String) (n : Int) :
    (b.createTopic name n).Sparing b := by
  unfold createTopic
  split
  · exact b.sparing_refuse _
  · split
    · exact b.sparing_refuse _
    · exact Effect.sparing_of_ok rfl

theorem sparing_produce (b : Broker) (p : Partition) (key : Option (List UInt8))
    (payload : List UInt8) : (b.produce p key payload).Sparing b := by
  unfold produce
  split
  · exact b.sparing_refuse _
  · exact Effect.sparing_of_ok rfl

theorem sparing_deleteRecords (b : Broker) (p : Partition) (before : Int) :
    (b.deleteRecords p before).Sparing b := by
  unfold deleteRecords
  split
  · exact b.sparing_refuse _
  · exact Effect.sparing_of_ok rfl

/-- Options are read before anybody is let in. -/
theorem sparing_connect (b : Broker) (c : Configuration) : (b.connect c).Sparing b := by
  unfold connect
  split
  · exact b.sparing_answer _
  · exact Effect.sparing_of_ok rfl

theorem sparing_notify (b : Broker) (id : String) (code : StatusCode) (partitions : PartitionList) :
    (b.notify id code partitions).Sparing b := by
  unfold notify
  split
  · exact b.sparing_refuse _
  · exact Effect.sparing_of_ok rfl

/-- All patterns are read before the first of them counts. -/
theorem sparing_subscribe (b : Broker) (id : String) (topics : List String) :
    (b.subscribe id topics).Sparing b := by
  unfold subscribe
  split
  · exact b.sparing_refuse _
  · split
    · exact b.sparing_answer _
    · split
      · exact b.sparing_refuse _
      · exact Effect.sparing_of_ok rfl

theorem sparing_unsubscribe (b : Broker) (id : String) : (b.unsubscribe id).Sparing b := by
  unfold unsubscribe
  split
  · exact b.sparing_refuse _
  · exact Effect.sparing_of_ok rfl

/-- Every slot of an assignment is found its place before the member has
any of them. -/
theorem sparing_assign (b : Broker) (id : String) (partitions : PartitionList) :
    (b.assign id partitions).Sparing b := by
  unfold assign
  split
  · exact b.sparing_refuse _
  · split
    · exact b.sparing_refuse _
    · split
      · exact b.sparing_answer _
      · exact Effect.sparing_of_ok rfl

theorem sparing_unassign (b : Broker) (id : String) : (b.unassign id).Sparing b := by
  unfold unassign
  split
  · exact b.sparing_refuse _
  · exact Effect.sparing_of_ok rfl

/-- No offset is committed until all of them can be. -/
theorem sparing_commitNow (b : Broker) (id : String) (offsets : PartitionList) :
    (b.commitNow id offsets).Sparing b := by
  unfold commitNow
  split
  · exact b.sparing_refuse _
  · split
    · exact b.sparing_refuse _
    · split
      · exact b.sparing_refuse _
      · exact Effect.sparing_of_ok rfl

/-- A commit that is not waited for is sparing too: when it fails, only the
diary tells. -/
theorem sparing_commit (b : Broker) (id : String) (offsets : PartitionList) (asynchronous : Bool) :
    (b.commit id offsets asynchronous).Sparing b := by
  unfold commit
  dsimp only
  split
  · exact Effect.sparing_of_ok rfl
  · exact b.sparing_commitNow id offsets

theorem sparing_nextEvent (b : Broker) (id : String) : (b.nextEvent id).Sparing b := by
  unfold nextEvent
  split
  · exact b.sparing_refuse _
  · exact Effect.sparing_of_ok rfl

theorem sparing_leave (b : Broker) (id : String) : (b.leave id).Sparing b := by
  unfold leave
  split <;> exact Effect.sparing_of_ok rfl

/-- Whatever a member asks for is sparing. -/
theorem sparing_performFor (b : Broker) (id : String) (r : MemberRequest) :
    (b.performFor id r).Sparing b := by
  cases r with
  | next => exact (b.sparing_nextEvent id).map _
  | subscribe topics => exact (b.sparing_subscribe id topics).map _
  | unsubscribe => exact (b.sparing_unsubscribe id).map _
  | assign partitions => exact (b.sparing_assign id partitions).map _
  | unassign => exact (b.sparing_unassign id).map _
  | commit offsets asynchronous => exact (b.sparing_commit id offsets asynchronous).map _
  | leave => exact (b.sparing_leave id).map _
  | watermarks | committed | positions | assignment | subscription =>
    exact (b.sparing_answer _).map _

/-- Whatever is asked of a broker, if it fails it changes nothing, wakes
nobody and is not told of. -/
theorem sparing_perform (b : Broker) (r : Request) : (b.perform r).Sparing b := by
  cases r with
  | createTopic name n => exact (b.sparing_createTopic name n).map _
  | produce p key payload => exact (b.sparing_produce p key payload).map _
  | deleteRecords p before => exact (b.sparing_deleteRecords p before).map _
  | connect c => exact (b.sparing_connect c).map _
  | rebalance g => exact (Effect.sparing_of_ok rfl).map _
  | notify id code partitions => exact (b.sparing_notify id code partitions).map _
  | member id r => exact b.sparing_performFor id r
  | watermarks | committed | members | describe => exact (b.sparing_answer _).map _

/-! ## Commits that are not waited for -/

/-- A commit that could not be done is told of and nothing else, if it is
not waited for. -/
theorem commit_of_told {id id' : String} {offsets : PartitionList} {f : Failure}
    (h : .commitFailedLater id' f ∈ (b.commit id offsets true).diary) :
    b.commit id offsets true =
      { result := .ok (), broker := b, diary := [.commitFailedLater id' f] } := by
  unfold commit at h ⊢
  dsimp only at h ⊢
  cases hr : (b.commitNow id offsets).result with
  | ok x =>
    rw [hr] at h
    have hdiary : (b.commitNow id offsets).diary = [] := by
      unfold commitNow
      split
      · rfl
      · split
        · rfl
        · split <;> rfl
    rw [hdiary] at h
    cases h
  | error f' =>
    rw [hr] at h
    rw [b.sparing_commitNow id offsets f' hr] at h ⊢
    rcases List.mem_cons.mp h with he | h
    · cases he
      rfl
    · cases h

end Broker

end ConsumerGroup
