import ConsumerGroup.Proofs.Consumer.Contract
import ConsumerGroup.Proofs.Consumer.Upheld

/-!
# A transport is closed once

Whatever is done with a consumer from when it is made, and however often it
is closed, its transport is asked to close once by the time its owner has
let go of it (`Consumer.Lived.closedOnce`). Nothing but `close` and to be let
go of asks for that (`Consumer.Offered.spared`), and from then on the consumer
is closed.

The first `close` asks what is held. If that is anything it is given up
first, as a revocation, and the transport is closed also if that could not
be found out or was refused (`Consumer.Closes`). A consumer that is let go
of while a crash is being handled only has its transport closed.

The transport may refuse any request. It may also crash, but not when it is
asked what is held, to give that up or to close (`Transport.Steady`).

The proof counts the requests to close in the journal, and a life is a row
of what can be done with a consumer (`Lived`): each kind asks for nothing of
the sort, or is the one that closes. A callback for revocations that crashes
is left out here (`Coordinator.Calm`).
-/

namespace ConsumerGroup

/-- The request to a transport, if that is told. -/
def Entry.asked? : Entry → Option Ask
  | .asked a => some a
  | _ => none

/-- The requests that a journal tells of. -/
def asked (journal : List Entry) : List Ask := journal.filterMap Entry.asked?

section Asked

variable (j k : List Entry) (e : Entry)

@[simp] theorem asked_nil : asked [] = [] := rfl

@[simp] theorem asked_append : asked (j ++ k) = asked j ++ asked k := List.filterMap_append

@[simp] theorem asked_cons : asked (e :: j) = e.asked?.toList ++ asked j := by
  cases e <;> rfl

@[simp] theorem asked_diary (diary : List DiaryEntry) : asked (diary.map .diary) = [] := by
  induction diary with
  | nil => rfl
  | cons _ _ ih => exact ih

/-- A request is one of the exchanges. -/
theorem asked_filter_isExchange : asked (j.filter Entry.isExchange) = asked j := by
  induction j with
  | nil => rfl
  | cons e j ih =>
    cases e with
    | asked a => exact congrArg (a :: ·) ih
    | called _ | diary _ | connecting _ => exact ih

/-- A request that is made, and whatever is written into the diary on the
way, is one exchange. -/
theorem filter_isExchange_asked (a : Ask) (diary : List DiaryEntry) :
    (Entry.asked a :: diary.map .diary).filter Entry.isExchange = [.asked a] := by
  rw [List.filter_cons_of_pos rfl, filter_isExchange_diary]

end Asked

/-- A transport that does not crash when it is asked what is held, to give
that up, or to close. It may refuse all of it. -/
structure Transport.Steady (H W : Type) [Transport H W] : Prop where
  assignment : ∀ (t : H × W) c, (Transport.assignment t).result ≠ .error (.crash c)
  unassign : ∀ (t : H × W) c, (Transport.unassign t).result ≠ .error (.crash c)
  close : ∀ (t : H × W) c, (Transport.close t).result ≠ .error (.crash c)

/-- A script answers or refuses. -/
theorem Script.steady (W : Type) [Timed W] : Transport.Steady Script W := by
  have hfollow {α : Type} (m : Method) {f : Script → Act DiaryEntry (Script × W) α}
      (hf : ∀ t t' c, (f t t').result ≠ .error (.crash c)) (t : Script × W) (c : Crash) :
      (follow m f t).result ≠ .error (.crash c) := by
    unfold follow
    dsimp only
    split
    · rintro ⟨⟩
    · exact hf _ _ _
  constructor
  case assignment => exact hfollow _ fun _ _ _ h => by cases h
  case unassign => exact hfollow _ fun _ _ _ h => by cases h
  case close => exact hfollow _ fun _ _ _ h => by cases h

/-! ## What taking a notification leaves alone -/

namespace Coordinator

/-- What is passed on is no crash if the answer was none. -/
theorem PassesOn.ne_crash {action : RebalanceAction} {answer result : Except Fault Unit}
    (h : PassesOn action answer result) (hanswer : ∀ c, answer ≠ .error (.crash c)) (c : Crash) :
    result ≠ .error (.crash c) := by
  match answer with
  | .ok () => rw [h.done rfl]; nofun
  | .error (.failure f) => rw [(h.refused f rfl).1]; nofun
  | .error (.crash c) => exact absurd rfl (hanswer c)

/-- The callback for revocations returns, if one is set. -/
def Calm (k : Coordinator) : Prop := ∀ f ∈ k.onRevoke, ∀ calls l, f calls l = .ok ()

variable {k : Coordinator} {H W : Type} [Transport H W]

/-- A calm coordinator stays calm when it has called somebody. -/
theorem Calm.heard (h : k.Calm) (n : Notification) : (k.heard n).Calm := by
  unfold Coordinator.heard
  split
  · exact h
  · exact h

/-- No callback of a calm coordinator crashes over a revocation. -/
theorem Calm.hearsRevoked (h : k.Calm) (l : PartitionList) : k.hearsRevoked l = .ok () := by
  unfold Coordinator.hearsRevoked
  cases hset : k.onRevoke with
  | none => rfl
  | some f => exact h f hset _ _

@[simp] theorem asked_callOf (k : Coordinator) (n : Notification) : asked (k.callOf n) = [] := by
  unfold callOf
  split <;> rfl

/-- Of a coordinator a notification changes only what its callbacks have been
called for. -/
theorem take_coordinator (n : Notification) (s : Coordinator × H × W) :
    (take n s).state.1 = s.1.heard n := by
  cases n with
  | assign l => exact (handsOver_take l s).coordinator
  | revoke l => exact (givesUp_take l s).coordinator
  | trouble code => exact (onlyTells_take code s).coordinator

/-- Whatever is taken, the transport is not asked to close. -/
theorem close_not_mem_take (n : Notification) (s : Coordinator × H × W) :
    .close ∉ asked (take n s).journal := by
  rw [← asked_filter_isExchange]
  change .close ∉ asked (take n s).exchanges
  cases n with
  | assign l =>
    have hover := handsOver_take l s
    cases hleft : s.1.leaves l with
    | error text => simp [(hover.crashed text hleft).1]
    | ok left =>
      by_cases hsame : left.SamePartitions l
      · simp [(hover.assigned left hleft hsame).1, Entry.asked?]
      · simp [(hover.changed left hleft hsame).1]
  | revoke l => simp [(givesUp_take l s).exchanges, Entry.asked?]
  | trouble code => simp [(onlyTells_take code s).exchanges]

end Coordinator

namespace Consumer

variable {H W α β : Type}

/-- A failure that is only told is no exchange. -/
theorem exchanges_orElse_tell (m : Act Entry (Consumer H × W) Unit) (e : Failure → DiaryEntry)
    (s : Consumer H × W) : ((m.orElse fun f => tell (e f)) s).exchanges = (m s).exchanges := by
  obtain ⟨_, told, h, htold⟩ := orElse_tell m e s
  rw [h]
  simp only [Outcome.exchanges, List.filter_append]
  rcases htold with rfl | ⟨f, rfl⟩ <;> exact List.append_nil _

/-- What follows an act and exchanges nothing adds nothing to what was
exchanged. -/
theorem exchanges_bind {m : Act Entry (Consumer H × W) α}
    {f : α → Act Entry (Consumer H × W) β} {s : Consumer H × W}
    (hf : ∀ x t, (f x t).exchanges = []) :
    ((m >>= f) s).exchanges = (m s).exchanges := by
  rcases hs : m s with ⟨result, t, journal⟩
  cases result with
  | error e => rw [Act.bind_error hs]; rfl
  | ok x =>
    rw [Act.bind_ok hs]
    have hx := hf x t
    simp only [Outcome.exchanges, Outcome.journal_after, List.filter_append] at hx ⊢
    rw [hx, List.append_nil]

/-! ## What does not close a consumer -/

/-- The transport was not asked to close, the consumer is closed if it was
before, and its callback for revocations returns if it did before. -/
structure Spared (s : Consumer H × W) (o : Outcome Entry (Consumer H × W) α) : Prop where
  closed : o.state.1.closed = s.1.closed
  calm : s.1.coordinator.Calm → o.state.1.coordinator.Calm
  unasked : .close ∉ asked o.journal

namespace Spared

variable {s : Consumer H × W}

/-- To do nothing spares the transport. -/
theorem silent (result : Except Fault α) : Spared s ⟨result, s, []⟩ :=
  ⟨rfl, id, List.not_mem_nil⟩

/-- Two acts that spare the transport spare it together. -/
theorem bind {m : Act Entry (Consumer H × W) α} {f : α → Act Entry (Consumer H × W) β}
    (hm : Spared s (m s))
    (hf : ∀ x, (m s).result = .ok x → Spared (m s).state (f x (m s).state)) :
    Spared s ((m >>= f) s) := by
  rcases hs : m s with ⟨result, t, journal⟩
  rw [hs] at hm hf
  cases result with
  | error e =>
    rw [Act.bind_error hs]
    exact ⟨hm.closed, hm.calm, hm.unasked⟩
  | ok x =>
    have hx := hf x rfl
    rw [Act.bind_ok hs]
    refine ⟨hx.closed.trans hm.closed, fun h => hx.calm (hm.calm h), ?_⟩
    rw [Outcome.journal_after, asked_append]
    exact List.not_mem_append hm.unasked hx.unasked

theorem tell (e : DiaryEntry) : Spared s (tell e s) := ⟨rfl, id, List.not_mem_nil⟩

/-- Any request but the one to close spares it. -/
theorem ask {a : Ask} (ha : a ≠ .close) (m : Act DiaryEntry (H × W) α) :
    Spared s (onTransport (Transport.ask a m) s) := by
  rw [onTransport_ask]
  exact ⟨rfl, id, by simpa [Entry.asked?] using ha.symm⟩

variable [Transport H W]

/-- To take a notification asks for other things than to close. -/
theorem take (n : Notification) : Spared s (onCoordinator (Coordinator.take n) s) where
  closed := rfl
  calm h := by
    have hheard := Coordinator.take_coordinator n (s.1.coordinator, s.1.transport, s.2)
    change (Coordinator.take n (s.1.coordinator, s.1.transport, s.2)).state.1.Calm
    rw [hheard]
    exact h.heard n
  unasked := Coordinator.close_not_mem_take n (s.1.coordinator, s.1.transport, s.2)

theorem handle (event : Option Event) : Spared s (handle event s) := by
  match event with
  | none | some (.message _) => exact silent _
  | some (.rebalance code l) => exact bind (take _) fun _ _ => silent _

theorem commit (offsets : PartitionList) (asynchronous : Bool) :
    Spared s (commit offsets asynchronous s) := bind (tell _) fun _ _ => ask (by nofun) _

/-- A poll spares the transport, however many notifications it takes. -/
theorem pollUntil [RunsDry H W] [Timed W] (deadline : Nat) (s : Consumer H × W) :
    Spared s (pollUntil deadline s) := by
  induction s using backlog_induction with
  | poll s ih =>
    rw [pollUntil_eq]
    refine bind (ask (by nofun) _) fun event hevent => ?_
    match event with
    | none | some (.message _) => exact silent _
    | some (.rebalance code l) =>
      exact bind (take _) fun _ _ => ih _ (less_of_taken hevent)

end Spared

variable [Transport H W]

/-- What the owner of a consumer can do with it, short of closing it and of
letting go of it. A poll is a row of rounds, and may be given up after any
of them. -/
inductive Offered : {α : Type} → Act Entry (Consumer H × W) α → Prop
  | subscribe (topics : List String) : Offered (subscribe topics)
  | unsubscribe : Offered unsubscribe
  | assign (l : PartitionList) : Offered (onTransport (Transport.askAssign l))
  | unassign : Offered (onTransport Transport.askUnassign)
  | commit (l : PartitionList) (asynchronous : Bool) : Offered (commit l asynchronous)
  | commitMessage (m : Message) (asynchronous : Bool) : Offered (commitMessage m asynchronous)
  | watermarks (p : PartitionOffset) : Offered (onTransport (Transport.askWatermarks p))
  | committed (l : PartitionList) : Offered (onTransport (Transport.askCommitted l))
  | positions (l : PartitionList) : Offered (onTransport (Transport.askPositions l))
  | assignment : Offered (onTransport Transport.askAssignment)
  | subscription : Offered (onTransport Transport.askSubscription)
  | round (timeout : Nat) : Offered (onTransport (Transport.askPoll timeout) >>= handle)
  | poll [RunsDry H W] [Timed W] : Offered poll
  | pollFor [RunsDry H W] [Timed W] (timeout : Nat) : Offered (pollFor timeout)
  | timeout (timeout : Nat) : Offered (update fun c => { c with timeout })
  | onAssign (f : AssignCallback) :
    Offered (update fun c => { c with coordinator := { c.coordinator with onAssign := some f } })
  | onRevoke (f : RevokeCallback) (hf : ∀ calls l, f calls l = .ok ()) :
    Offered (update fun c => { c with coordinator := { c.coordinator with onRevoke := some f } })
  | onTrouble (f : TroubleCallback) :
    Offered (update fun c => { c with coordinator := { c.coordinator with onTrouble := some f } })

/-- None of that closes a consumer. -/
theorem Offered.spared {m : Act Entry (Consumer H × W) α} (h : Offered m) (s : Consumer H × W) :
    Spared s (m s) := by
  cases h with
  | subscribe | unsubscribe => exact .bind (.ask (by nofun) _) fun _ _ => .tell _
  | assign | unassign | watermarks | committed | positions | assignment | subscription =>
    exact .ask (by nofun) _
  | commit l asynchronous => exact .commit l asynchronous
  | commitMessage x asynchronous =>
    unfold Consumer.commitMessage
    cases afterMessage? x with
    | none => exact .silent _
    | some l => exact .commit l asynchronous
  | round => exact .bind (.ask (by nofun) _) fun _ _ => .handle _
  | poll => exact .pollUntil _ s
  | pollFor => exact .pollUntil _ s
  | timeout | onAssign | onTrouble => exact ⟨rfl, id, List.not_mem_nil⟩
  | onRevoke f hf =>
    refine ⟨rfl, fun _ g hg => ?_, List.not_mem_nil⟩
    cases hg
    exact hf

/-! ## The first close -/

/-- What the first `close` of a consumer does. -/
structure Closes (s : Consumer H × W) (o : Outcome Entry (Consumer H × W) Unit) : Prop where
  /-- The transport does not say what is held. -/
  unknown : ∀ f, (Transport.assignment (connection s)).result = .error (.failure f) →
    o.exchanges = [.asked .assignment, .asked .close] ∧
      connection o.state = (Transport.close (Transport.assignment (connection s)).state).state ∧
      o.result = .error (.failure f)
  nothing : (Transport.assignment (connection s)).result = .ok [] →
    o.exchanges = [.asked .assignment, .asked .close] ∧
      connection o.state = (Transport.close (Transport.assignment (connection s)).state).state ∧
      o.result = (Transport.close (Transport.assignment (connection s)).state).result
  /-- What is held is given up before the transport is closed. That it was
  refused counts for more than what came of closing. -/
  held : ∀ l, (Transport.assignment (connection s)).result = .ok l → l ≠ [] →
    let given := Transport.unassign (Transport.assignment (connection s)).state
    o.exchanges = .asked .assignment :: s.1.coordinator.callOf (.revoke l) ++
        [.asked .unassign, .asked .close] ∧
      connection o.state = (Transport.close given.state).state ∧
      (given.result = .ok () → o.result = (Transport.close given.state).result) ∧
      ∀ f, given.result = .error (.failure f) →
        o.result = .error (.failure (.rebalance .unassign f))

section Close

variable {s : Consumer H × W}

/-- To give up what is held asks the transport for other things than to
close. -/
theorem spared_revokeAll (s : Consumer H × W) : Spared s (revokeAll s) := by
  refine .bind (.ask (by nofun) _) fun held _ => ?_
  split
  · exact .silent _
  · exact .take _

/-- Where the transport does not say what is held, nothing can be given up. -/
theorem revokeAll_of_unknown {f : Failure}
    (h : (Transport.assignment (connection s)).result = .error (.failure f)) :
    revokeAll s = ⟨.error (.failure f), s.1.connected (Transport.assignment (connection s)).state,
      .asked .assignment :: (Transport.assignment (connection s)).journal.map .diary⟩ := by
  have hasked := onTransport_ask .assignment Transport.assignment s
  rw [h] at hasked
  exact Act.bind_error hasked

/-- What is held is given up through the coordinator, unless it is nothing. -/
theorem revokeAll_of_known {l : PartitionList}
    (h : (Transport.assignment (connection s)).result = .ok l) :
    revokeAll s =
      ((if l.isEmpty then pure () else onCoordinator (Coordinator.take (.revoke l)) :
        Act Entry (Consumer H × W) Unit)
          (s.1.connected (Transport.assignment (connection s)).state)).after
        (.asked .assignment :: (Transport.assignment (connection s)).journal.map .diary) := by
  have hasked := onTransport_ask .assignment Transport.assignment s
  rw [h] at hasked
  exact Act.bind_ok hasked

/-- The consumer when it begins to close. -/
def closing (s : Consumer H × W) : Consumer H × W := ({ s.1 with closed := true }, s.2)

/-- A consumer that is open gives up what it holds and then has its
transport closed. What came of closing counts if giving up went well. -/
theorem close_eq (hsteady : Transport.Steady H W) (hopen : s.1.closed = false)
    {result : Except Fault Unit} {t : Consumer H × W} {journal : List Entry}
    (h : revokeAll (closing s) = ⟨result, t, journal⟩) (hresult : ∀ c, result ≠ .error (.crash c)) :
    close s = ⟨result.bind fun _ => (Transport.close (connection t)).result,
      t.1.connected (Transport.close (connection t)).state,
      journal ++ (.asked .close :: (Transport.close (connection t)).journal.map .diary ++
        [.diary (.consumerClosed
          (Transport.memberId W (Transport.close (connection t)).state.1))])⟩ := by
  obtain ⟨revoked, rfl⟩ := Act.settled_of_ne_crash hresult
  have hne : ¬ s.1.closed = true := by rw [hopen]; exact Bool.false_ne_true
  unfold close
  rw [Act.bind_ok (m := self) (t := s) rfl, if_neg hne,
    Act.bind_ok (m := update _) (t := closing s) rfl, Act.bind_ok (Act.settle_of_settled h),
    leaving_eq (hsteady.close _)]
  rfl

/-- What is held is given up as a revocation. -/
theorem revokeAll_of_held {l : PartitionList} {result : Except Fault Unit}
    {u : Coordinator × H × W} {journal : List Entry}
    (h : (Transport.assignment (connection s)).result = .ok l) (hne : l ≠ [])
    (htake : Coordinator.take (.revoke l)
      (s.1.coordinator, (Transport.assignment (connection s)).state) = ⟨result, u, journal⟩) :
    revokeAll s = ⟨result, ({ s.1 with transport := u.2.1, coordinator := u.1 }, u.2.2),
      (.asked .assignment :: (Transport.assignment (connection s)).journal.map .diary) ++ journal⟩ := by
  have hempty : ¬ l.isEmpty = true := by simpa using hne
  have htaken : onCoordinator (Coordinator.take (.revoke l))
      (s.1.connected (Transport.assignment (connection s)).state) =
        ⟨result, ({ s.1 with transport := u.2.1, coordinator := u.1 }, u.2.2), journal⟩ := by
    unfold onCoordinator Act.within connected
    dsimp only
    rw [htake]
  rw [revokeAll_of_known h, if_neg hempty, htaken]
  rfl

/-- To give up what is held crashes only if the callback does or the
transport. -/
theorem revokeAll_ne_crash (hsteady : Transport.Steady H W) (hcalm : s.1.coordinator.Calm)
    (c : Crash) : (revokeAll s).result ≠ .error (.crash c) := by
  match h : (Transport.assignment (connection s)).result with
  | .error (.failure f) =>
    rw [revokeAll_of_unknown h]
    nofun
  | .error (.crash c) => exact absurd h (hsteady.assignment _ c)
  | .ok [] =>
    rw [revokeAll_of_known h]
    nofun
  | .ok (e :: l) =>
    rcases htake : Coordinator.take (.revoke (e :: l))
      (s.1.coordinator, (Transport.assignment (connection s)).state) with ⟨result, u, journal⟩
    have hgives := Coordinator.givesUp_take (e :: l)
      (s.1.coordinator, (Transport.assignment (connection s)).state)
    rw [htake] at hgives
    rw [revokeAll_of_held h nofun htake]
    exact (hgives.returned (hcalm.hearsRevoked _)).ne_crash (hsteady.unassign _) c

/-- The last that is asked of the transport is to close. -/
theorem exchanges_close (hsteady : Transport.Steady H W) (hcalm : s.1.coordinator.Calm)
    (hopen : s.1.closed = false) :
    (close s).exchanges = (revokeAll (closing s)).exchanges ++ [.asked .close] := by
  have hne := revokeAll_ne_crash (s := closing s) hsteady hcalm
  rcases hr : revokeAll (closing s) with ⟨result, t, journal⟩
  rw [hr] at hne
  rw [close_eq hsteady hopen hr hne]
  simp only [Outcome.exchanges, List.filter_append, filter_isExchange_asked]
  rfl

/-- What an open consumer does when it is closed. -/
theorem closes_close (hsteady : Transport.Steady H W) (hcalm : s.1.coordinator.Calm)
    (hopen : s.1.closed = false) : Closes s (close s) where
  unknown f h := by
    have hr := revokeAll_of_unknown (s := closing s) h
    refine ⟨?_, ?_⟩
    · rw [exchanges_close hsteady hcalm hopen, hr]
      simp only [Outcome.exchanges, filter_isExchange_asked]
      rfl
    · rw [close_eq hsteady hopen hr nofun]
      exact ⟨rfl, rfl⟩
  nothing h := by
    have hr := revokeAll_of_known (s := closing s) h
    refine ⟨?_, ?_⟩
    · rw [exchanges_close hsteady hcalm hopen, hr]
      simp only [Outcome.exchanges, Outcome.journal_after, List.filter_append,
        filter_isExchange_asked]
      rfl
    · rw [close_eq hsteady hopen hr nofun]
      exact ⟨rfl, rfl⟩
  held l h hne := by
    intro given
    have hgives := Coordinator.givesUp_take l
      (s.1.coordinator, (Transport.assignment (connection s)).state)
    rcases htake : Coordinator.take (.revoke l)
      (s.1.coordinator, (Transport.assignment (connection s)).state) with ⟨result, u, journal⟩
    rw [htake] at hgives
    have hpassed := hgives.returned (hcalm.hearsRevoked l)
    have hr := revokeAll_of_held (s := closing s) h hne htake
    have hstate : u.2 = given.state := hgives.transport
    refine ⟨?_, ?_⟩
    · rw [exchanges_close hsteady hcalm hopen, hr]
      have hexchanges := hgives.exchanges
      simp only [Outcome.exchanges, List.filter_append, filter_isExchange_asked] at hexchanges ⊢
      rw [hexchanges]
      simp
    · rw [close_eq hsteady hopen hr (hpassed.ne_crash (hsteady.unassign _)), ← hstate]
      refine ⟨rfl, fun hok => ?_, fun f hf => ?_⟩
      · obtain rfl : result = .ok () := hpassed.done hok
        rfl
      · obtain rfl : result = .error (.failure (.rebalance .unassign f)) := (hpassed.refused f hf).1
        rfl

/-- What the first `close` leaves behind: a closed consumer with the
callback it had. -/
theorem closed_of_close (hsteady : Transport.Steady H W) (hcalm : s.1.coordinator.Calm)
    (hopen : s.1.closed = false) :
    (close s).state.1.closed = true ∧ (close s).state.1.coordinator.Calm := by
  have hne := revokeAll_ne_crash (s := closing s) hsteady hcalm
  have hspared := spared_revokeAll (closing s)
  rcases hr : revokeAll (closing s) with ⟨result, t, journal⟩
  rw [hr] at hne hspared
  rw [close_eq hsteady hopen hr hne]
  exact ⟨hspared.closed, hspared.calm hcalm⟩

/-- An open consumer asks once to close. -/
theorem count_close (hsteady : Transport.Steady H W) (hcalm : s.1.coordinator.Calm)
    (hopen : s.1.closed = false) : (asked (close s).journal).count .close = 1 := by
  have hspared := (spared_revokeAll (closing s)).unasked
  rw [← asked_filter_isExchange] at hspared ⊢
  change .close ∉ asked (revokeAll (closing s)).exchanges at hspared
  change (asked (close s).exchanges).count .close = 1
  rw [exchanges_close hsteady hcalm hopen, asked_append, List.count_append,
    List.count_eq_zero.mpr hspared]
  rfl

end Close

/-! ## To let go of a consumer -/

section Release

variable {s : Consumer H × W}

/-- To let go of the transport asks it for nothing. -/
theorem exchanges_releaseTransport (s : Consumer H × W) : (releaseTransport s).exchanges = [] :=
  filter_isExchange_diary _

/-- Whoever lets go of a closed consumer calls nobody and asks for
nothing. -/
theorem exchanges_release_closed (hclosed : s.1.closed = true) (unwinding : Bool) :
    (release unwinding s).exchanges = [] := by
  unfold release
  rw [Act.bind_ok (m := self) (t := s) rfl, if_pos hclosed]
  exact exchanges_releaseTransport s

/-- Whoever lets go of an open consumer while a crash is being handled has
its transport closed, and nothing else. -/
theorem exchanges_release_unwinding (hopen : s.1.closed = false) :
    (release true s).exchanges = [.asked .close] := by
  have hne : ¬ s.1.closed = true := by rw [hopen]; exact Bool.false_ne_true
  unfold release
  rw [Act.bind_ok (m := self) (t := s) rfl, if_neg hne, if_pos rfl]
  change ((closeQuietly >>= fun _ => releaseTransport) s).exchanges = _
  rw [exchanges_bind fun _ => exchanges_releaseTransport]
  unfold closeQuietly
  rw [Act.bind_ok (m := update _) (t := closing s) rfl]
  change ((onTransport Transport.askClose).orElse _ (closing s)).exchanges = _
  rw [exchanges_orElse_tell, Transport.askClose, onTransport_ask]
  exact filter_isExchange_asked _ _

/-- Whoever lets go of an open consumer otherwise closes it. -/
theorem exchanges_release (hopen : s.1.closed = false) :
    (release false s).exchanges = (close s).exchanges := by
  have hne : ¬ s.1.closed = true := by rw [hopen]; exact Bool.false_ne_true
  unfold release
  rw [Act.bind_ok (m := self) (t := s) rfl, if_neg hne, if_neg Bool.false_ne_true]
  refine (exchanges_bind fun closed t => ?_).trans (exchanges_orElse_tell _ _ _)
  refine (exchanges_bind fun _ u => ?_).trans (exchanges_releaseTransport t)
  cases closed <;> rfl

end Release

/-! ## The life of a consumer -/

/-- What can have become of a consumer, and what has been told since it was
made. Between what its owner does with it, anything may become of the
transport and of the world. -/
inductive Lived : Consumer H × W → List Entry → Prop
  | made {configuration : Configuration} {connect : Configuration → Act DiaryEntry W H} {w w' : W}
      {c : Consumer H} {journal : List Entry}
      (h : create configuration connect w = ⟨.ok c, w', journal⟩) : Lived (c, w') journal
  | offered {s : Consumer H × W} {journal : List Entry} {α : Type}
      {m : Act Entry (Consumer H × W) α} (h : Lived s journal) (hm : Offered m) :
      Lived (m s).state (journal ++ (m s).journal)
  | closed {s : Consumer H × W} {journal : List Entry} (h : Lived s journal) :
      Lived (close s).state (journal ++ (close s).journal)
  | meanwhile {s : Consumer H × W} {journal : List Entry} (h : Lived s journal)
      (f : H × W → H × W) : Lived (s.1.connected (f (connection s))) journal

/-- A consumer that has just been made is open, has no callbacks and has
asked its transport for nothing. -/
theorem create_eq {configuration : Configuration} {connect : Configuration → Act DiaryEntry W H}
    {w w' : W} {c : Consumer H} {journal : List Entry}
    (h : create configuration connect w = ⟨.ok c, w', journal⟩) :
    c = { transport := c.transport } ∧ asked journal = [] := by
  unfold create at h
  cases hgroup : configuration.group? with
  | none =>
    rw [hgroup] at h
    cases h
  | some group =>
    rw [hgroup] at h
    dsimp only at h
    rw [Act.bind_ok (m := Act.note _) (t := w) rfl] at h
    rcases hconnect : connect configuration w with ⟨result, w₁, diary⟩
    have htold : (connect configuration).telling Entry.diary w = ⟨result, w₁, diary.map .diary⟩ := by
      unfold Act.telling
      rw [hconnect]
    cases result with
    | error e =>
      rw [Act.bind_error htold] at h
      cases h
    | ok t =>
      rw [Act.bind_ok htold, Act.bind_ok (m := Act.note _) (t := w₁) rfl] at h
      cases h
      refine ⟨rfl, ?_⟩
      simp only [Outcome.journal_after, asked_append, asked_diary]
      rfl

/-- How often the transport of a consumer was asked to close, and how often
it will have been once the consumer is let go of. -/
structure ClosedOnce (s : Consumer H × W) (journal : List Entry) : Prop where
  /-- A closed consumer has asked once, an open one has not. -/
  soFar : (asked journal).count .close = if s.1.closed then 1 else 0
  inAll : ∀ unwinding, (asked (journal ++ (release unwinding s).journal)).count .close = 1
  first : s.1.closed = false → Closes s (close s)
  dropped : s.1.closed = false → (release false s).exchanges = (close s).exchanges
  unwound : s.1.closed = false → (release true s).exchanges = [.asked .close]
  later : s.1.closed = true →
    close s = ⟨.ok (), s, []⟩ ∧ ∀ unwinding, (release unwinding s).exchanges = []

/-- Throughout its life a consumer has asked its transport to close once if it
is closed, and never before. -/
theorem Lived.count {s : Consumer H × W} {journal : List Entry} (hsteady : Transport.Steady H W)
    (h : Lived s journal) :
    s.1.coordinator.Calm ∧ (asked journal).count .close = if s.1.closed then 1 else 0 := by
  induction h with
  | made h =>
    obtain ⟨hc, hasked⟩ := create_eq h
    rw [hc, hasked]
    exact ⟨nofun, rfl⟩
  | @offered s journal _ m _ hm ih =>
    have hspared := hm.spared s
    refine ⟨hspared.calm ih.1, ?_⟩
    rw [asked_append, List.count_append, List.count_eq_zero.mpr hspared.unasked, hspared.closed]
    exact ih.2
  | @closed s journal _ ih =>
    cases hs : s.1.closed with
    | true =>
      rw [close_of_closed s.1 s.2 hs, List.append_nil]
      exact ih
    | false =>
      obtain ⟨hclosed, hcalm⟩ := closed_of_close hsteady ih.1 hs
      refine ⟨hcalm, ?_⟩
      rw [asked_append, List.count_append, ih.2, hs, hclosed, count_close hsteady ih.1 hs]
      rfl
  | meanwhile _ _ ih => exact ih

/-- However a consumer has lived, its transport is asked to close once, by
the first `close` or when the consumer is let go of. -/
theorem Lived.closedOnce {s : Consumer H × W} {journal : List Entry}
    (hsteady : Transport.Steady H W) (h : Lived s journal) : ClosedOnce s journal := by
  obtain ⟨hcalm, hcount⟩ := h.count hsteady
  have hreleased (unwinding : Bool) : (asked (release unwinding s).journal).count .close =
      if s.1.closed then 0 else 1 := by
    rw [← asked_filter_isExchange]
    change (asked (release unwinding s).exchanges).count .close = _
    cases hs : s.1.closed with
    | true => rw [exchanges_release_closed hs]; rfl
    | false =>
      cases unwinding with
      | true => rw [exchanges_release_unwinding hs]; rfl
      | false =>
        rw [exchanges_release hs, Outcome.exchanges, asked_filter_isExchange]
        exact count_close hsteady hcalm hs
  constructor
  case soFar => exact hcount
  case inAll =>
    intro unwinding
    rw [asked_append, List.count_append, hcount, hreleased]
    cases s.1.closed <;> rfl
  case first => exact closes_close hsteady hcalm
  case dropped => exact exchanges_release
  case unwound => exact exchanges_release_unwinding
  case later => exact fun hs => ⟨close_of_closed s.1 s.2 hs, exchanges_release_closed hs⟩

/-- Giving up is refused, and so is closing: what is told is that nothing
could be given up, and nothing more is asked once the consumer is let go
of. -/
theorem Lived.closedOnce_refused :
    let l : PartitionList := [⟨⟨"t", 0⟩, .invalid⟩]
    let t : Script :=
      { assignment := l, refusals := [(.unassign, .illegalGeneration), (.close, .timedOut)] }
    let s : Consumer Script × Cluster :=
      ({ transport := t, coordinator := { onRevoke := some fun _ _ => .ok () } }, {})
    let journal : List Entry := [.connecting 1, .diary (.consumerCreated "g" "scripted-1")]
    (close s).exchanges =
        [.asked .assignment, .called (.revoke l), .asked .unassign, .asked .close] ∧
      (close s).result = .error (.failure (.rebalance .unassign (.ofCode .illegalGeneration))) ∧
      (asked (journal ++ (close s).journal ++ (release false (close s).state).journal)).count .close
        = 1 := by
  intro l t s journal
  have hsteady := Script.steady Cluster
  have hmade : create ⟨[("group.id", "g")]⟩ (fun _ => pure t) ({} : Cluster) =
      ⟨.ok { transport := t }, {}, journal⟩ := rfl
  have hlived : Lived s journal := (Lived.made hmade).offered (.onRevoke _ fun _ _ => rfl)
  obtain ⟨hexchanges, -, -, hrefused⟩ := (hlived.closedOnce hsteady).first rfl |>.held l rfl nofun
  exact ⟨hexchanges, hrefused _ rfl, (hlived.closed.closedOnce hsteady).inAll false⟩

end Consumer

end ConsumerGroup
