import ConsumerGroup.Proofs.Consumer.Deed

/-!
# What a consumer tells of its notifications

A journal tells which notifications were taken and which callbacks were
called for them, each in its order (`taken`, `called`). A look takes the
first notification that waits and no other (`Consumer.taken_look`), and
the first `close` takes what is held, as a revocation, if that is
anything (`Consumer.taken_close`). Callbacks are called for what is
taken, each for the notifications it is set for, and for nothing else.

The broker's own diary tells of rebalances and commits and is not about what
anybody has taken; that is proved operation by operation, and used for all
of them at once (`taken_diary`).
-/

namespace ConsumerGroup

/-- The notifications that were taken, by what a journal tells. -/
def taken (journal : List Entry) : List Notification := journal.filterMap Entry.taken?

/-- The notifications that callbacks were called for, by what a journal
tells. -/
def called (journal : List Entry) : List Notification := journal.filterMap Entry.called?

section Journals

variable (j k : List Entry) (e : Entry)

@[simp] theorem taken_nil : taken [] = [] := rfl

@[simp] theorem taken_append : taken (j ++ k) = taken j ++ taken k := List.filterMap_append

@[simp] theorem taken_cons : taken (e :: j) = e.taken?.toList ++ taken j := by
  unfold taken
  rw [List.filterMap_cons]
  cases e.taken? <;> rfl

@[simp] theorem called_nil : called [] = [] := rfl

@[simp] theorem called_append : called (j ++ k) = called j ++ called k := List.filterMap_append

@[simp] theorem called_cons : called (e :: j) = e.called?.toList ++ called j := by
  unfold called
  rw [List.filterMap_cons]
  cases e.called? <;> rfl

/-- What is only told calls nobody. -/
@[simp] theorem called_diary (diary : List DiaryEntry) : called (diary.map .diary) = [] := by
  unfold called
  rw [List.filterMap_map, List.filterMap_eq_nil_iff]
  exact fun _ _ => rfl

/-- A diary that tells of no notifications. -/
theorem taken_diary {diary : List DiaryEntry} (h : ∀ d ∈ diary, (Entry.diary d).taken? = none) :
    taken (diary.map .diary) = [] := by
  unfold taken
  rw [List.filterMap_map, List.filterMap_eq_nil_iff]
  exact h

end Journals

/-! ## Brokers -/

namespace Broker

variable (b : Broker) (id : String)

/-- The partitions the member with an id reads; none if it is not there. -/
def heldBy : List Partition := ((b.member? id).map Member.held).getD []

/-- What is held by whoever is found is what it reads. -/
theorem heldBy_of_member? {b : Broker} {id : String} {m : Member} (h : b.member? id = some m) :
    b.heldBy id = m.held := by
  unfold heldBy
  rw [h]
  rfl

/-- Whoever is gone holds nothing. -/
theorem heldBy_of_gone {b : Broker} {id : String} (h : b.member? id = none) : b.heldBy id = [] := by
  unfold heldBy
  rw [h]
  rfl

/-- What a rebalance tells is what it queues. -/
theorem taken_rebalanceDiary (g : String) : taken ((b.rebalanceDiary g).map .diary) = [] := by
  refine taken_diary fun d hd => ?_
  obtain ⟨⟨m, share⟩, _, hshare⟩ := List.mem_filterMap.mp hd
  obtain ⟨ps, _, rfl⟩ := Option.map_eq_some_iff.mp hshare
  rfl

/-- What a rebalance tells is not that anybody has taken anything. -/
theorem taken_rebalanceAllDiary (groups : List String) :
    taken ((b.rebalanceAllDiary groups).map .diary) = [] := by
  induction groups with
  | nil => rfl
  | cons g groups ih =>
    unfold rebalanceAllDiary at ih ⊢
    rw [List.flatMap_cons, List.map_append, taken_append, b.taken_rebalanceDiary g, ih]
    rfl

theorem taken_createTopic (name : String) (partitions : Int) :
    taken ((b.createTopic name partitions).diary.map .diary) = [] := by
  unfold createTopic
  split
  · rfl
  · split
    · rfl
    · exact taken_rebalanceAllDiary _ _

theorem taken_subscribe (topics : List String) :
    taken ((b.subscribe id topics).diary.map .diary) = [] := by
  unfold subscribe
  split
  · rfl
  · split
    · rfl
    · split
      · rfl
      · exact taken_rebalanceDiary _ _

theorem taken_unsubscribe : taken ((b.unsubscribe id).diary.map .diary) = [] := by
  unfold unsubscribe
  split
  · rfl
  · exact taken_rebalanceDiary _ _

theorem taken_assign (l : PartitionList) : taken ((b.assign id l).diary.map .diary) = [] := by
  unfold assign
  split
  · rfl
  · split
    · rfl
    · split <;> rfl

theorem taken_unassign : taken ((b.unassign id).diary.map .diary) = [] := by
  unfold unassign
  split <;> rfl

/-- A commit tells of no notification, neither when it fails nor later. -/
theorem taken_commit (l : PartitionList) (asynchronous : Bool) :
    taken ((b.commit id l asynchronous).diary.map .diary) = [] := by
  have hnow : (b.commitNow id l).diary = [] := by
    unfold commitNow
    split
    · rfl
    · split
      · rfl
      · split <;> rfl
  unfold commit
  dsimp only
  split <;> rw [hnow] <;> rfl

theorem taken_leave : taken ((b.leave id).diary.map .diary) = [] := by
  unfold leave
  split
  · rfl
  · exact taken_rebalanceDiary _ _

/-- A broker takes no notifications: it queues them. -/
theorem taken_perform (r : Request) : taken ((b.perform r).diary.map .diary) = [] := by
  cases r with
  | createTopic name partitions => exact b.taken_createTopic name partitions
  | rebalance group => exact b.taken_rebalanceDiary group
  | watermarks | committed | members | describe => rfl
  | produce p key payload =>
    show taken ((b.produce p key payload).diary.map .diary) = []
    unfold produce
    split <;> rfl
  | deleteRecords p before =>
    show taken ((b.deleteRecords p before).diary.map .diary) = []
    unfold deleteRecords
    split <;> rfl
  | connect c =>
    show taken ((b.connect c).diary.map .diary) = []
    unfold connect
    split <;> rfl
  | notify id code partitions =>
    show taken ((b.notify id code partitions).diary.map .diary) = []
    unfold notify
    split <;> rfl
  | member id request =>
    cases request with
    | subscribe topics => exact b.taken_subscribe id topics
    | unsubscribe => exact b.taken_unsubscribe id
    | assign l => exact b.taken_assign id l
    | unassign => exact b.taken_unassign id
    | commit l asynchronous => exact b.taken_commit id l asynchronous
    | leave => exact b.taken_leave id
    | watermarks | committed | positions | assignment | subscription => rfl
    | next =>
      show taken ((b.nextEvent id).diary.map .diary) = []
      unfold nextEvent
      split <;> rfl

end Broker

/-! ## Coordinators -/

namespace Coordinator

@[simp] theorem taken_calling (k : Coordinator) (n : Notification) : taken (k.calling n) = [] := by
  unfold calling
  split
  · cases n <;> rfl
  · rfl

@[simp] theorem called_calling (k : Coordinator) (n : Notification) :
    called (k.calling n) = [n].filter k.hears := by
  unfold calling
  rw [List.filter_singleton]
  split
  · next h =>
    rw [h]
    cases n <;> rfl
  · next h =>
    rw [Bool.eq_false_iff.mpr h]
    rfl

/-- To take a notification is told once. -/
theorem taken_take (n : Notification) (s : Coordinator × Seat × Cluster) :
    taken (take n s).journal = [n] := by
  have hrefused (refused : List PartitionList) :
      taken ((refused.map DiaryEntry.assignmentRefused).map .diary) = [] := by
    refine taken_diary fun d hd => ?_
    obtain ⟨_, _, rfl⟩ := List.mem_map.mp hd
    rfl
  have hfailed (refused : List Failure) :
      taken ((refused.map DiaryEntry.unassignFailed).map .diary) = [] := by
    refine taken_diary fun d hd => ?_
    obtain ⟨_, _, rfl⟩ := List.mem_map.mp hd
    rfl
  cases n with
  | assign l =>
    rcases take_assign l s with ⟨left, _, _, hj, _⟩ | ⟨_, e, refused, _, _, hj⟩
    · have hasked : taken ((Transport.assign left s.2).journal.map .diary) = [] :=
        Broker.taken_assign _ _ left
      simp [hj, hasked, Entry.taken?]
    · simp only [hj, taken_cons, taken_append, taken_calling, hrefused]
      rfl
  | revoke l =>
    obtain ⟨_, refused, hj⟩ := take_revoke l s
    have hasked : taken ((Transport.unassign s.2).journal.map .diary) = [] :=
      Broker.taken_unassign _ _
    simp only [hj, List.map_append, taken_cons, taken_append, taken_calling, hasked, hfailed]
    rfl
  | trouble code => simp [(take_trouble code s).2, Entry.taken?]

/-- The callback for a notification is called once, if it is set. -/
theorem called_take (n : Notification) (s : Coordinator × Seat × Cluster) :
    called (take n s).journal = [n].filter s.1.hears := by
  cases n with
  | assign l =>
    rcases take_assign l s with ⟨left, _, _, hj, _⟩ | ⟨_, e, refused, _, _, hj⟩
    · simp [hj, Entry.called?]
    · simp only [hj, called_cons, called_append, called_calling, called_diary, List.append_nil]
      rfl
  | revoke l =>
    obtain ⟨_, refused, hj⟩ := take_revoke l s
    simp only [hj, called_cons, called_append, called_calling, called_diary]
    simp [Entry.called?]
  | trouble code => simp [(take_trouble code s).2, Entry.called?]

end Coordinator

/-! ## Consumers -/

namespace Consumer

variable (c : Consumer Seat) (w : Cluster)

/-- The first notification that waits for a member. -/
def first? (b : Broker) (id : String) : Option Notification :=
  (b.member? id).bind fun m => m.queue.head?.map fun q => .ofCode q.code q.partitions

/-- A look takes the first notification that waits, if one does. -/
theorem taken_look : taken (look (c, w)).journal = (first? w.broker c.transport.member).toList ∧
    called (look (c, w)).journal =
      (first? w.broker c.transport.member).toList.filter c.coordinator.hears := by
  unfold first?
  cases hm : w.broker.member? c.transport.member with
  | none =>
    rw [look_of_gone c w hm]
    exact ⟨rfl, rfl⟩
  | some m =>
    cases hq : m.queue with
    | nil =>
      rw [look_of_nil c w hm hq rfl]
      simp [hq, Entry.taken?, Entry.called?]
    | cons q rest =>
      rw [look_of_cons c w hm hq rfl, handle_rebalance c _ rfl]
      simp only [Outcome.journal_after, taken_append, called_append, Coordinator.taken_take,
        Coordinator.called_take]
      simp [hq, Entry.taken?, Entry.called?]

/-- To give up what is held tells of one revocation, or of none if that is
nothing, and calls whoever listens for it. -/
theorem taken_revokeAll :
    taken (revokeAll (c, w)).journal =
      (if w.broker.heldBy c.transport.member = [] then []
        else [.revoke (.ofPartitions (w.broker.heldBy c.transport.member))]) ∧
    called (revokeAll (c, w)).journal =
      (taken (revokeAll (c, w)).journal).filter c.coordinator.hears := by
  have hask : onTransport Transport.askAssignment (c, w) =
      ⟨(w.broker.assignmentOf c.transport.member).mapError .failure, (c, w), [.asked .assignment]⟩ :=
    rfl
  unfold revokeAll
  cases hm : w.broker.member? c.transport.member with
  | none =>
    have ha : w.broker.assignmentOf c.transport.member = .error (.ofCode .destroyed) := by
      simp only [Broker.assignmentOf, Broker.member, hm]
      rfl
    rw [ha] at hask
    rw [Act.bind_error hask, Broker.heldBy_of_gone hm]
    exact ⟨rfl, rfl⟩
  | some m =>
    have ha : w.broker.assignmentOf c.transport.member = .ok (.ofPartitions m.held) := by
      simp only [Broker.assignmentOf, Broker.member, hm]
      rfl
    rw [ha] at hask
    rw [Act.bind_ok (x := .ofPartitions m.held) hask, Broker.heldBy_of_member? hm]
    by_cases he : m.held = []
    · rw [if_pos he, he]
      exact ⟨rfl, rfl⟩
    · rw [if_neg he, if_neg (by simpa [PartitionList.ofPartitions] using he)]
      have htaken := Coordinator.taken_take (.revoke (.ofPartitions m.held))
        (c.coordinator, c.transport, w)
      have hcalled := Coordinator.called_take (.revoke (.ofPartitions m.held))
        (c.coordinator, c.transport, w)
      rw [Outcome.journal_after, taken_append, called_append]
      exact ⟨htaken, hcalled.trans (congrArg _ htaken.symm)⟩

/-- The first `close` takes what is held, as a revocation, if that is
anything. -/
theorem taken_close (hc : c.closed = false) :
    taken (close (c, w)).journal =
      (if w.broker.heldBy c.transport.member = [] then []
        else [.revoke (.ofPartitions (w.broker.heldBy c.transport.member))]) ∧
    called (close (c, w)).journal =
      (taken (close (c, w)).journal).filter c.coordinator.hears := by
  have hne : ¬ c.closed = true := by rw [hc]; exact Bool.false_ne_true
  obtain ⟨htaken, hcalled⟩ := taken_revokeAll { c with closed := true } w
  unfold close
  rw [Act.bind_ok (m := self) (s := (c, w)) (t := (c, w)) rfl, if_neg hne,
    Act.bind_ok (m := update _) (t := ({ c with closed := true }, w)) rfl]
  cases hr : revokeAll ({ c with closed := true }, w) with
  | mk result s journal =>
    rw [hr] at htaken hcalled
    obtain ⟨c₁, w₁⟩ := s
    rcases Act.settle_cases hr with ⟨revoked, hsettled⟩ | ⟨e, rfl, hsettled⟩
    · -- Leaving adds nothing to what was taken before.
      rw [Act.bind_ok hsettled, leaving_seat]
      simp only [Outcome.journal_after, taken_append, taken_cons, called_append, called_cons,
        called_diary, Broker.taken_leave]
      simpa [Entry.taken?, Entry.called?] using And.intro htaken hcalled
    · rw [Act.bind_error hsettled]
      exact ⟨htaken, hcalled⟩

/-- To commit takes nothing. -/
theorem taken_commitMessage (x : Message) (asynchronous : Bool) :
    taken (commitMessage x asynchronous (c, w)).journal = [] ∧
      called (commitMessage x asynchronous (c, w)).journal = [] := by
  unfold commitMessage
  cases afterMessage? x with
  | none => exact ⟨rfl, rfl⟩
  | some l =>
    have hcommitted := w.broker.taken_commit c.transport.member l asynchronous
    show taken (_ :: _ :: ((w.broker.commit c.transport.member l asynchronous).diary.map .diary)) = [] ∧
      called (_ :: _ :: ((w.broker.commit c.transport.member l asynchronous).diary.map .diary)) = []
    rw [taken_cons, taken_cons, hcommitted, called_cons, called_cons, called_diary]
    exact ⟨rfl, rfl⟩

/-- To let go of the transport tells of none. -/
theorem taken_releaseTransport :
    taken (releaseTransport (c, w)).journal = [] ∧ called (releaseTransport (c, w)).journal = [] :=
  ⟨w.broker.taken_leave c.transport.member, called_diary _⟩

/-- To tell of a failure takes nothing. -/
theorem taken_orElse_tell (m : Act Entry (Consumer Seat × Cluster) Unit) (f : Failure → DiaryEntry)
    (hf : ∀ x, (Entry.diary (f x)).taken? = none) (s : Consumer Seat × Cluster) :
    taken ((m.orElse fun e => tell (f e)) s).journal = taken (m s).journal ∧
      called ((m.orElse fun e => tell (f e)) s).journal = called (m s).journal := by
  obtain ⟨_, told, h, htold⟩ := orElse_tell m f s
  rw [h]
  dsimp only
  rw [taken_append, called_append]
  rcases htold with rfl | ⟨x, rfl⟩
  · exact ⟨List.append_nil _, List.append_nil _⟩
  · rw [taken_cons, hf]
    exact ⟨List.append_nil _, List.append_nil _⟩

/-- Whoever lets go of a consumer that is not closed closes it, except
while a crash is being handled. -/
theorem taken_release (unwinding : Bool) :
    (taken (release unwinding (c, w)).journal =
        if c.closed ∨ unwinding then [] else taken (close (c, w)).journal) ∧
      called (release unwinding (c, w)).journal =
        if c.closed ∨ unwinding then [] else called (close (c, w)).journal := by
  unfold release
  rw [Act.bind_ok (m := self) (s := (c, w)) (t := (c, w)) rfl]
  by_cases hc : c.closed = true
  · rw [if_pos hc, if_pos (.inl hc), if_pos (.inl hc)]
    exact taken_releaseTransport c w
  rw [if_neg hc]
  cases unwinding with
  | true =>
    obtain ⟨htaken, hcalled⟩ := taken_releaseTransport { c with closed := true }
      { w with broker := (w.broker.leave c.transport.member).broker }
    rw [if_pos rfl, if_pos (.inr rfl), if_pos (.inr rfl), Act.bind_ok (closeQuietly_seat c w)]
    simp only [Outcome.journal_after, taken_append, taken_cons, called_append, called_cons,
      called_diary, Broker.taken_leave, htaken, hcalled]
    exact ⟨rfl, rfl⟩
  | false =>
    have hclose : ¬ (c.closed = true ∨ false = true) := by simp [hc]
    rw [if_neg Bool.false_ne_true, if_neg hclose, if_neg hclose, Act.bind_ok (m := Act.attempt _) rfl]
    obtain ⟨htaken, hcalled⟩ := taken_orElse_tell close .consumerCloseFailed (fun _ => rfl) (c, w)
    generalize (close.orElse fun f => tell (.consumerCloseFailed f)) (c, w) = o at htaken hcalled
    obtain ⟨result, ⟨c₁, w₁⟩, journal⟩ := o
    obtain ⟨htaken', hcalled'⟩ := taken_releaseTransport c₁ w₁
    simp only [Outcome.journal_after, taken_append, called_append]
    rw [Act.journal_bind, htaken', hcalled']
    · simpa using And.intro htaken hcalled
    · cases result <;> exact fun _ _ => rfl

end Consumer

/-! ## Deeds -/

namespace Deed

variable (c : Consumer Seat) (w : Cluster)

/-- Callbacks are called for what is taken, for each notification that is
to be heard of once, and for nothing else. -/
theorem called_act (d : Deed) :
    called (d.act (c, w)).journal = (taken (d.act (c, w)).journal).filter c.coordinator.hears := by
  cases d with
  | look =>
    obtain ⟨htaken, hcalled⟩ := Consumer.taken_look c w
    exact hcalled.trans (congrArg _ htaken.symm)
  | commitMessage x asynchronous =>
    obtain ⟨htaken, hcalled⟩ := Consumer.taken_commitMessage c w x asynchronous
    rw [act_commitMessage, htaken, hcalled]
    rfl
  | close =>
    rw [act_close]
    cases hc : c.closed with
    | true => rw [Consumer.close_of_closed c w hc]; rfl
    | false => exact (Consumer.taken_close c w hc).2
  | release unwinding =>
    obtain ⟨htaken, hcalled⟩ := Consumer.taken_release c w unwinding
    rw [act_release, htaken, hcalled]
    split
    · rfl
    · next h =>
      exact (Consumer.taken_close c w (Bool.eq_false_iff.mpr fun hc => h (.inl hc))).2

end Deed

end ConsumerGroup
