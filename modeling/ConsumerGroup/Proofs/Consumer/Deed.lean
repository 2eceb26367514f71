import ConsumerGroup.Proofs.Consumer.Look

/-!
# What a consumer does in one step

A look, a commit of a message, to close and to be let go of are one step
each. These four are the deeds of a consumer; whatever else it can be
asked for is a single request to the broker.

`Deed.done` says what a deed makes of the broker, whatever the callbacks
do. Closing comes to nothing more than leaving, unless a callback
crashes: what was given up on the way makes no difference to the others.

So what has to hold after every deed is proved from five cases
(`Broker.Done`), and none of them has to know what callbacks are set. What a
deed tells, and in which order, is not in them.
-/

namespace ConsumerGroup

/-- What a consumer does in one step. -/
inductive Deed where
  | look
  | commitMessage (m : Message) (asynchronous : Bool)
  | close
  | release (unwinding : Bool)

/-- Does it. Only a look can bring a message. -/
def Deed.act : Deed → Act Entry (Consumer Seat × Cluster) (Option Message)
  | .look => Consumer.look
  | .commitMessage m asynchronous => do
    Consumer.commitMessage m asynchronous
    pure none
  | .close => do
    Consumer.close
    pure none
  | .release unwinding => do
    Consumer.release unwinding
    pure none

namespace Deed

/-- A deed that is to bring nothing comes to what its act does. -/
theorem silent (m : Act Entry (Consumer Seat × Cluster) Unit) (s : Consumer Seat × Cluster) :
    (do m; pure none : Act Entry (Consumer Seat × Cluster) (Option Message)) s =
      ⟨(m s).result.map fun _ => none, (m s).state, (m s).journal⟩ := by
  cases hm : m s with
  | mk result t journal =>
    cases result with
    | ok _ =>
      rw [Act.bind_ok hm]
      exact congrArg (Outcome.mk _ _) (List.append_nil _)
    | error e => exact Act.bind_error hm

variable (s : Consumer Seat × Cluster)

theorem act_commitMessage (m : Message) (asynchronous : Bool) :
    act (.commitMessage m asynchronous) s =
      ⟨(Consumer.commitMessage m asynchronous s).result.map fun _ => none,
        (Consumer.commitMessage m asynchronous s).state,
        (Consumer.commitMessage m asynchronous s).journal⟩ := silent _ s

theorem act_close : act .close s = ⟨(Consumer.close s).result.map fun _ => none,
    (Consumer.close s).state, (Consumer.close s).journal⟩ := silent _ s

theorem act_release (unwinding : Bool) : act (.release unwinding) s =
    ⟨(Consumer.release unwinding s).result.map fun _ => none,
      (Consumer.release unwinding s).state, (Consumer.release unwinding s).journal⟩ := silent _ s

end Deed

/-! ## The end of any consumer -/

/-- A result that is no crash is a failure or goes well. -/
theorem Act.settled_of_ne_crash {α : Type} {result : Except Fault α}
    (h : ∀ c, result ≠ .error (.crash c)) :
    ∃ settled : Except Failure α, result = settled.mapError .failure := by
  match result with
  | .ok x => exact ⟨.ok x, rfl⟩
  | .error (.failure f) => exact ⟨.error f, rfl⟩
  | .error (.crash c) => exact absurd rfl (h c)

/-- What does not crash is settled, and its journal stays. -/
theorem Act.settle_of_settled {ω σ α : Type} {m : Act ω σ α} {s t : σ} {settled : Except Failure α}
    {journal : List ω} (h : m s = ⟨settled.mapError .failure, t, journal⟩) :
    m.settle s = ⟨.ok settled, t, journal⟩ := by
  unfold Act.settle
  rw [h]
  cases settled <;> rfl

namespace Consumer

section Ending

variable {H W : Type}

/-- To tell of a failure changes nothing, and adds at most a line to what
is told. -/
theorem orElse_tell (m : Act Entry (Consumer H × W) Unit) (f : Failure → DiaryEntry)
    (s : Consumer H × W) : ∃ result told,
      (m.orElse fun e => tell (f e)) s = ⟨result, (m s).state, (m s).journal ++ told⟩ ∧
        (told = [] ∨ ∃ e, told = [.diary (f e)]) := by
  unfold Act.orElse
  rcases m s with ⟨result, t, journal⟩
  match result with
  | .ok _ | .error (.crash _) => exact ⟨_, [], by rw [List.append_nil], .inl rfl⟩
  | .error (.failure e) => exact ⟨_, [.diary (f e)], rfl, .inr ⟨e, rfl⟩⟩

variable [Transport H W]

/-- A consumer that is closed is not closed again. -/
theorem close_of_closed (c : Consumer H) (w : W) (hc : c.closed = true) :
    close (c, w) = ⟨.ok (), (c, w), []⟩ := by
  unfold close
  rw [Act.bind_ok (m := self) (s := (c, w)) (t := (c, w)) rfl, if_pos hc]
  rfl

/-- The rest of `close`, once it is settled what came of giving up: unless
the transport crashes, what came of closing counts if giving up went
well. -/
theorem leaving_eq {s : Consumer H × W}
    (hclose : ∀ c, (Transport.close (connection s)).result ≠ .error (.crash c))
    (revoked : Except Failure Unit) :
    (do
      let left ← (onTransport Transport.askClose).settle
      tell (.consumerClosed (Transport.memberId W (← self).transport))
      Act.ofExcept revoked
      Act.ofExcept left : Act Entry (Consumer H × W) Unit) s =
      ⟨(revoked.mapError .failure).bind fun _ => (Transport.close (connection s)).result,
        s.1.connected (Transport.close (connection s)).state,
        .asked .close :: (Transport.close (connection s)).journal.map .diary ++
          [.diary (.consumerClosed (Transport.memberId W (Transport.close (connection s)).state.1))]⟩ := by
  have hasked := onTransport_ask .close Transport.close s
  generalize Transport.close (connection s) = o at hclose hasked ⊢
  obtain ⟨result, t, journal⟩ := o
  obtain ⟨left, rfl⟩ := Act.settled_of_ne_crash hclose
  have hsettled := Act.settle_of_settled hasked
  change (onTransport Transport.askClose).settle s = _ at hsettled
  rw [Act.bind_ok hsettled, Act.bind_ok (m := self) (t := s.1.connected t) rfl,
    Act.bind_ok (m := tell _) (t := s.1.connected t) rfl]
  cases revoked with
  | error f => rfl
  | ok _ => cases left <;> rfl

end Ending

variable (c : Consumer Seat) (w : Cluster)

/-! ## The end of a member -/

/-- To close a seat is to have its member leave. -/
theorem close_seat : Transport.close (c.transport, w) =
    ⟨.ok (), (c.transport, { w with broker := (w.broker.leave c.transport.member).broker }),
      (w.broker.leave c.transport.member).diary⟩ := by
  have hok : (w.broker.leave c.transport.member).result = .ok () := by
    unfold Broker.leave
    split <;> rfl
  show Outcome.mk ((w.broker.leave c.transport.member).result.mapError _) _ _ = _
  rw [hok]
  rfl

/-- To give up what is held, through the coordinator, has the broker
unassign it or does nothing; it can crash only in the first case. -/
theorem revokeAll_cases : ∃ b', (revokeAll (c, w)).state.2 = { w with broker := b' } ∧
    (revokeAll (c, w)).state.1.transport = c.transport ∧
    ((b' = w.broker ∧ ∀ e, (revokeAll (c, w)).result ≠ .error (.crash e)) ∨
      b' = (w.broker.unassign c.transport.member).broker) := by
  have hask : onTransport Transport.askAssignment (c, w) =
      ⟨(w.broker.assignmentOf c.transport.member).mapError .failure, (c, w), [.asked .assignment]⟩ :=
    rfl
  unfold revokeAll
  cases ha : w.broker.assignmentOf c.transport.member with
  | error f =>
    rw [ha] at hask
    rw [Act.bind_error hask]
    exact ⟨_, rfl, rfl, .inl ⟨rfl, fun e h => by cases h⟩⟩
  | ok held =>
    rw [ha] at hask
    rw [Act.bind_ok (x := held) hask]
    by_cases he : held.isEmpty = true
    · rw [if_pos he]
      exact ⟨_, rfl, rfl, .inl ⟨rfl, fun e h => by cases h⟩⟩
    · rw [if_neg he]
      have htake := (Coordinator.take_revoke held (c.coordinator, c.transport, w)).1
      refine ⟨_, ?_, ?_, .inr rfl⟩
      · exact congrArg Prod.snd htake
      · exact congrArg Prod.fst htake

/-- The rest of `close`, once it is settled what came of giving up. -/
theorem leaving_seat (revoked : Except Failure Unit) :
    (do
      let left ← (onTransport Transport.askClose).settle
      tell (.consumerClosed (Transport.memberId Cluster (← self).transport))
      Act.ofExcept revoked
      Act.ofExcept left : Act Entry (Consumer Seat × Cluster) Unit) (c, w) =
      ⟨revoked.mapError .failure,
        (c, { w with broker := (w.broker.leave c.transport.member).broker }),
        .asked .close :: (w.broker.leave c.transport.member).diary.map .diary ++
          [.diary (.consumerClosed c.transport.member)]⟩ := by
  have hclosed : Transport.close (connection (c, w)) = _ := close_seat c w
  rw [leaving_eq (by rw [hclosed]; nofun), hclosed]
  cases revoked <;> rfl

/-- The first `close` has the member leave, whatever came of giving up what
it held, unless a callback crashes. -/
theorem close_cases (hc : c.closed = false) :
    ∃ b', (close (c, w)).state.2 = { w with broker := b' } ∧
      (close (c, w)).state.1.transport = c.transport ∧
      ((b' = (w.broker.leave c.transport.member).broker ∧
          ∀ e, (close (c, w)).result ≠ .error (.crash e)) ∨
        (b' = (w.broker.unassign c.transport.member).broker ∧
          ∃ e, (close (c, w)).result = .error (.crash e))) := by
  have hne : ¬ c.closed = true := by rw [hc]; exact Bool.false_ne_true
  obtain ⟨b₁, hs, ht, hb⟩ := revokeAll_cases { c with closed := true } w
  unfold close
  rw [Act.bind_ok (m := self) (s := (c, w)) (t := (c, w)) rfl, if_neg hne,
    Act.bind_ok (m := update _) (t := ({ c with closed := true }, w)) rfl]
  cases hr : revokeAll ({ c with closed := true }, w) with
  | mk result s journal =>
    obtain ⟨c₁, w₁⟩ := s
    rw [hr] at hs ht hb
    dsimp only at hs ht hb
    subst hs
    -- The member leaves however far it came with giving up.
    have hleave : (b₁.leave c₁.transport.member).broker =
        (w.broker.leave c.transport.member).broker := by
      rw [ht]
      rcases hb with ⟨rfl, _⟩ | rfl
      · rfl
      · exact w.broker.leave_unassign _
    rcases Act.settle_cases hr with ⟨revoked, hsettled⟩ | ⟨e, rfl, hsettled⟩
    · rw [Act.bind_ok hsettled, leaving_seat]
      refine ⟨_, rfl, ht, .inl ⟨hleave, fun e => ?_⟩⟩
      cases revoked <;> exact nofun
    · rw [Act.bind_error hsettled]
      refine ⟨b₁, rfl, ht, .inr ⟨?_, e, rfl⟩⟩
      exact hb.resolve_left fun h => h.2 e rfl

/-- Whoever lets go of its transport leaves. -/
theorem state_releaseTransport :
    (releaseTransport (c, w)).state =
      (c, { w with broker := (w.broker.leave c.transport.member).broker }) := rfl

/-- To close quietly leaves, whoever is there, and never fails. -/
theorem closeQuietly_seat :
    closeQuietly (c, w) = ⟨.ok (), ({ c with closed := true },
        { w with broker := (w.broker.leave c.transport.member).broker }),
      .asked .close :: (w.broker.leave c.transport.member).diary.map .diary⟩ := by
  unfold closeQuietly
  rw [Act.bind_ok (m := update _) (t := ({ c with closed := true }, w)) rfl]
  unfold Act.orElse
  rw [Transport.askClose, onTransport_ask, connection, close_seat]
  rfl

/-- To tell of a failure changes nothing. -/
theorem state_orElse_tell (m : Act Entry (Consumer Seat × Cluster) Unit) (f : Failure → DiaryEntry)
    (s : Consumer Seat × Cluster) : ((m.orElse fun e => tell (f e)) s).state = (m s).state := by
  obtain ⟨_, _, h, _⟩ := orElse_tell m f s
  rw [h]

/-- Whoever lets go of a consumer has its member leave, in whatever way it
ends. -/
theorem state_release (unwinding : Bool) :
    (release unwinding (c, w)).state.2 =
      { w with broker := (w.broker.leave c.transport.member).broker } := by
  unfold release
  rw [Act.bind_ok (m := self) (s := (c, w)) (t := (c, w)) rfl]
  by_cases hc : c.closed = true
  · rw [if_pos hc]
    rfl
  rw [if_neg hc]
  cases unwinding with
  | true =>
    rw [if_pos rfl, Act.bind_ok (closeQuietly_seat c w)]
    rw [Outcome.state_after, Outcome.state_after, state_releaseTransport]
    dsimp only
    rw [Broker.leave_leave]
  | false =>
    obtain ⟨b₁, hs, ht, hb⟩ := close_cases c w (Bool.eq_false_iff.mpr hc)
    have hleave : (b₁.leave c.transport.member).broker =
        (w.broker.leave c.transport.member).broker := by
      rcases hb with ⟨rfl, _⟩ | ⟨rfl, _⟩
      · exact w.broker.leave_leave _
      · exact w.broker.leave_unassign _
    rw [if_neg Bool.false_ne_true, Act.bind_ok (m := Act.attempt _) rfl, state_orElse_tell]
    generalize ((close.orElse fun f => tell (.consumerCloseFailed f)) (c, w)).result = result
    generalize (close (c, w)).state = s at hs ht
    obtain ⟨c₁, w₁⟩ := s
    dsimp only at hs ht
    subst hs
    have hgone := state_releaseTransport c₁ { w with broker := b₁ }
    rw [ht, hleave] at hgone
    apply Act.view_bind Prod.snd (congrArg Prod.snd hgone)
    intro _ t h
    cases result <;> exact h

/-! ## Commits -/

/-- What is no record commits nothing. -/
theorem commitMessage_of_none {m : Message} (h : afterMessage? m = none) (asynchronous : Bool) :
    (commitMessage m asynchronous (c, w)).state.2 = w := by
  unfold commitMessage
  rw [h]
  rfl

/-- A record is dealt with by committing what comes behind it. -/
theorem commitMessage_of_some {m : Message} {offsets : PartitionList}
    (h : afterMessage? m = some offsets) (asynchronous : Bool) :
    (commitMessage m asynchronous (c, w)).state.2 =
      { w with broker := (w.broker.commit c.transport.member offsets asynchronous).broker } := by
  unfold commitMessage
  rw [h]
  rfl

/-! ## The consumer itself -/

/-- Nothing but to close it or to let go of it closes a consumer. -/
theorem keeps_closed_look :
    Act.Keeps (·.1.closed) (look : Act Entry (Consumer Seat × Cluster) (Option Message)) := by
  refine Act.keeps_bind (fun _ => rfl) fun x => ?_
  match x with
  | none | some (.message _) => exact Act.keeps_pure _
  | some (.rebalance _ _) => exact Act.keeps_bind (fun _ => rfl) fun _ => Act.keeps_pure _

/-- To give up what is held closes nothing. -/
theorem keeps_closed_revokeAll :
    Act.Keeps (·.1.closed) (revokeAll : Act Entry (Consumer Seat × Cluster) Unit) := by
  refine Act.keeps_bind (fun _ => rfl) fun held => ?_
  split
  · exact Act.keeps_pure _
  · exact fun _ => rfl

/-- Whatever comes of it, a consumer that was closed is closed. -/
theorem closed_close : (close (c, w)).state.1.closed = true := by
  cases hc : c.closed with
  | true => rwa [close_of_closed c w hc]
  | false =>
    have hne : ¬ c.closed = true := by rw [hc]; exact Bool.false_ne_true
    unfold close
    rw [Act.bind_ok (m := self) (s := (c, w)) (t := (c, w)) rfl, if_neg hne,
      Act.bind_ok (m := update _) (t := ({ c with closed := true }, w)) rfl]
    refine Act.keeps_bind (Act.keeps_settle keeps_closed_revokeAll) ?_ ({ c with closed := true }, w)
    intro revoked s
    rw [leaving_seat]

/-- Whoever lets go of a consumer closes it. -/
theorem closed_release (unwinding : Bool) : (release unwinding (c, w)).state.1.closed = true := by
  unfold release
  rw [Act.bind_ok (m := self) (s := (c, w)) (t := (c, w)) rfl]
  by_cases hc : c.closed = true
  · rw [if_pos hc]
    exact hc
  rw [if_neg hc]
  cases unwinding with
  | true =>
    rw [if_pos rfl, Act.bind_ok (closeQuietly_seat c w)]
    rfl
  | false =>
    rw [if_neg Bool.false_ne_true, Act.bind_ok (m := Act.attempt _) rfl, state_orElse_tell]
    have hclosed := closed_close c w
    generalize ((close.orElse fun f => tell (.consumerCloseFailed f)) (c, w)).result = result
    generalize (close (c, w)).state = s at hclosed
    refine Act.view_bind (fun s : Consumer Seat × Cluster => s.1.closed) (m := releaseTransport)
      hclosed fun _ t h => ?_
    cases result <;> exact h

theorem keeps_transport_look :
    Act.Keeps (·.1.transport) (look : Act Entry (Consumer Seat × Cluster) (Option Message)) :=
  fun (c, w) => (looked c w).elim fun _ h => h.2.1

theorem keeps_transport_close :
    Act.Keeps (·.1.transport) (close : Act Entry (Consumer Seat × Cluster) Unit) := by
  rintro ⟨c, w⟩
  cases hc : c.closed with
  | true => rw [close_of_closed c w hc]
  | false => exact (close_cases c w hc).elim fun _ h => h.2.1

theorem keeps_transport_release (unwinding : Bool) :
    Act.Keeps (·.1.transport) (release unwinding : Act Entry (Consumer Seat × Cluster) Unit) := by
  refine Act.keeps_bind (fun _ => rfl) fun c => ?_
  split
  · exact fun _ => rfl
  · split
    · exact Act.keeps_bind (Act.keeps_bind (fun _ => rfl) fun _ =>
        Act.keeps_orElse (fun _ => rfl) fun _ => fun _ => rfl) fun _ => fun _ => rfl
    · refine Act.keeps_bind (Act.keeps_attempt (Act.keeps_orElse keeps_transport_close
        fun _ => fun _ => rfl)) fun closed => ?_
      exact Act.keeps_bind (fun _ => rfl) fun _ => by cases closed <;> exact fun _ => rfl

end Consumer

namespace Broker

/-- What a deed of a consumer makes of a broker, with how it came to
that. -/
inductive Done (b : Broker) (id : String)
    (o : Outcome Entry (Consumer Seat × Cluster) (Option Message)) : Deed → Broker → Prop
  | looked {b' : Broker} (h : b.Looked id o b') : Done b id o .look b'
  | committed {m : Message} {asynchronous : Bool} {offsets : PartitionList}
      (h : Consumer.afterMessage? m = some offsets) :
      Done b id o (.commitMessage m asynchronous) (b.commit id offsets asynchronous).broker
  | nothing {d : Deed} : Done b id o d b
  | left {d : Deed} : Done b id o d (b.leave id).broker
  | gaveUp {d : Deed} {e : Fault} (ho : o.result = .error e) (he : e.ofCallback = true) :
      Done b id o d (b.unassign id).broker

/-- What holds before a deed, whatever a look makes of the member, and after
whatever the member may ask for other than to subscribe, holds after it. -/
theorem Done.holds {P : Broker → Prop} {b b' : Broker} {id : String} {d : Deed}
    {o : Outcome Entry (Consumer Seat × Cluster) (Option Message)} (h : b.Done id o d b')
    (hsame : P b)
    (hlooked : ∀ m m', d = .look → b.member? id = some m → m.Looked b o m' →
      P (b.modifyMember id fun _ => m'))
    (hasked : ∀ r, (∀ topics, r ≠ .subscribe topics) → P (b.perform (.member id r)).broker) :
    P b' := by
  cases h with
  | looked h =>
    cases h with
    | gone => exact hsame
    | changed hm h => exact hlooked _ _ rfl hm h
  | committed => exact hasked (.commit _ _) nofun
  | nothing => exact hsame
  | left => exact hasked .leave nofun
  | gaveUp => exact hasked .unassign nofun

end Broker

/-- A deed changes the broker as `Broker.Done` says, and nothing else in the
cluster. -/
theorem Deed.done (d : Deed) (c : Consumer Seat) (w : Cluster) :
    ∃ b', (d.act (c, w)).state.2 = { w with broker := b' } ∧
      w.broker.Done c.transport.member (d.act (c, w)) d b' := by
  cases d with
  | look =>
    obtain ⟨b', hs, _, hb⟩ := Consumer.looked c w
    exact ⟨b', hs, .looked hb⟩
  | commitMessage m asynchronous =>
    rw [act_commitMessage]
    cases ha : Consumer.afterMessage? m with
    | none => exact ⟨_, Consumer.commitMessage_of_none c w ha asynchronous, .nothing⟩
    | some offsets =>
      exact ⟨_, Consumer.commitMessage_of_some c w ha asynchronous, .committed ha⟩
  | close =>
    rw [act_close]
    cases hc : c.closed with
    | true =>
      have hs : (Consumer.close (c, w)).state.2 = w := by rw [Consumer.close_of_closed c w hc]
      exact ⟨_, hs, .nothing⟩
    | false =>
      obtain ⟨b', hs, _, hb⟩ := Consumer.close_cases c w hc
      refine ⟨b', hs, ?_⟩
      rcases hb with ⟨rfl, _⟩ | ⟨rfl, e, he⟩
      · exact .left
      · refine .gaveUp (e := .crash e) ?_ rfl
        rw [he]
        rfl
  | release unwinding =>
    rw [act_release]
    exact ⟨_, Consumer.state_release c w unwinding, .left⟩

/-- A consumer keeps its seat, whatever it does. -/
theorem Deed.transport_act (d : Deed) (c : Consumer Seat) (w : Cluster) :
    (d.act (c, w)).state.1.transport = c.transport := by
  cases d with
  | look => exact Consumer.keeps_transport_look (c, w)
  | commitMessage x asynchronous =>
    rw [act_commitMessage]
    unfold Consumer.commitMessage
    cases Consumer.afterMessage? x <;> rfl
  | close =>
    rw [act_close]
    exact Consumer.keeps_transport_close (c, w)
  | release unwinding =>
    rw [act_release]
    exact Consumer.keeps_transport_release unwinding (c, w)

/-- The deed is the consumer's end. -/
def Deed.ends : Deed → Bool
  | .close | .release _ => true
  | _ => false

/-- A consumer that is closed stays so, and nothing but its end closes
it. -/
theorem Deed.closed_act (d : Deed) (c : Consumer Seat) (w : Cluster) :
    (d.act (c, w)).state.1.closed = (c.closed || d.ends) := by
  cases d with
  | look => exact (Consumer.keeps_closed_look (c, w)).trans (Bool.or_false _).symm
  | commitMessage x asynchronous =>
    rw [act_commitMessage]
    unfold Consumer.commitMessage
    cases Consumer.afterMessage? x <;> exact (Bool.or_false _).symm
  | close =>
    rw [act_close]
    exact (Consumer.closed_close c w).trans (Bool.or_true _).symm
  | release unwinding =>
    rw [act_release]
    exact (Consumer.closed_release c w unwinding).trans (Bool.or_true _).symm

/-- Only a look brings a message. -/
theorem Deed.eq_look_of_brings {d : Deed} {s : Consumer Seat × Cluster} {x : Message}
    (h : (d.act s).result = .ok (some x)) : d = .look := by
  have hquiet (m : Act Entry (Consumer Seat × Cluster) Unit) :
      (m s).result.map (fun _ => (none : Option Message)) ≠ .ok (some x) := by
    cases (m s).result <;> exact nofun
  cases d with
  | look => rfl
  | commitMessage m asynchronous => exact absurd (act_commitMessage s m asynchronous ▸ h) (hquiet _)
  | close => exact absurd (act_close s ▸ h) (hquiet _)
  | release unwinding => exact absurd (act_release s unwinding ▸ h) (hquiet _)

end ConsumerGroup
