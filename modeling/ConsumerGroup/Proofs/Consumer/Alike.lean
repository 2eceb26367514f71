import ConsumerGroup.Proofs.Consumer.Deed

/-!
# What a consumer cannot tell apart

An act respects a relation between states if from related states it comes
to the same, tells the same, and leaves related states (`Act.Respects`).
Acts that are composed of such acts are such acts.

Two clusters may differ in ways that a member does not notice by anything
it asks for at once (`Cluster.Alike`). Then a consumer at that member's
seat does not notice either, whatever its callbacks do
(`Cluster.Alike.deed`). So a look depends on the broker alone, and not on
the time, on what others will ask for later, or on what came of what they
have asked (`Consumer.look_congr`).

The lemmas follow the acts in the order they are composed: the broker's
operations, a seat, a coordinator, a consumer. Nothing is assumed of
callbacks, which see the notifications and what they were called for before,
and nothing of the cluster.
-/

namespace ConsumerGroup

variable {ω ω' σ τ α β : Type}

/-- The two come to the same and tell the same, and leave related
states. -/
structure Outcome.Alike (R : σ → σ → Prop) (o o' : Outcome ω σ α) : Prop where
  result : o.result = o'.result
  journal : o.journal = o'.journal
  state : R o.state o'.state

namespace Act

/-- From related states the act comes to the same and tells the same, and
leaves related states. -/
def Respects (R : σ → σ → Prop) (m : Act ω σ α) : Prop := ∀ s t, R s t → (m s).Alike R (m t)

variable {R : σ → σ → Prop}

theorem respects_pure (x : α) : Respects R (pure x : Act ω σ α) := fun _ _ h => ⟨rfl, rfl, h⟩

theorem respects_note (w : ω) : Respects R (note w) := fun _ _ h => ⟨rfl, rfl, h⟩

theorem respects_throw (e : Fault) : Respects R (throw e : Act ω σ α) := fun _ _ h => ⟨rfl, rfl, h⟩

theorem respects_ofExcept (x : Except Failure α) : Respects R (ofExcept x : Act ω σ α) := by
  cases x with
  | ok x => exact respects_pure x
  | error f => exact respects_throw _

theorem respects_modify {f : σ → σ} (hf : ∀ s t, R s t → R (f s) (f t)) :
    Respects R (modify f : Act ω σ Unit) := fun s t h => ⟨rfl, rfl, hf s t h⟩

/-- What is alike and goes on alike is alike. -/
theorem alike_bind {m : Act ω σ α} {k : α → Act ω σ β} {s t : σ} (hm : (m s).Alike R (m t))
    (hk : ∀ x, (m s).result = .ok x → (k x (m s).state).Alike R (k x (m t).state)) :
    ((m >>= k) s).Alike R ((m >>= k) t) := by
  rcases hs : m s with ⟨result, s', journal⟩
  rcases ht : m t with ⟨result', t', journal'⟩
  rw [hs, ht] at hm hk
  obtain ⟨rfl, rfl, hstate⟩ := hm
  cases result with
  | ok x =>
    obtain ⟨hresult, hjournal, hstate⟩ := hk x rfl
    rw [bind_ok hs, bind_ok ht]
    exact ⟨hresult, congrArg (journal ++ ·) hjournal, hstate⟩
  | error e =>
    rw [bind_error hs, bind_error ht]
    exact ⟨rfl, rfl, hstate⟩

/-- Two acts that cannot tell states apart cannot together. -/
theorem respects_bind {m : Act ω σ α} {k : α → Act ω σ β} (hm : Respects R m)
    (hk : ∀ x, Respects R (k x)) : Respects R (m >>= k) :=
  fun s t h => alike_bind (hm s t h) fun x _ => hk x _ _ (hm s t h).state

/-- To read the state is to read what related states have in common. -/
theorem respects_get_bind {k : σ → Act ω σ β} (hsame : ∀ s t, R s t → k s = k t)
    (hk : ∀ s, Respects R (k s)) : Respects R (get >>= k) := by
  intro s t h
  obtain ⟨hresult, hjournal, hstate⟩ := hk s s t h
  rw [bind_ok (m := get) (s := s) rfl, bind_ok (m := get) (s := t) rfl, ← hsame s t h]
  exact ⟨hresult, hjournal, hstate⟩

theorem respects_attempt {m : Act ω σ α} (hm : Respects R m) : Respects R m.attempt := by
  intro s t h
  obtain ⟨hresult, hjournal, hstate⟩ := hm s t h
  exact ⟨congrArg Except.ok hresult, hjournal, hstate⟩

/-- Nor can one with another in its place when it fails. -/
theorem respects_orElse {m : Act ω σ α} {k : Failure → Act ω σ α} (hm : Respects R m)
    (hk : ∀ e, Respects R (k e)) : Respects R (m.orElse k) := by
  intro s t h
  obtain ⟨hresult, hjournal, hstate⟩ := hm s t h
  unfold orElse
  generalize m s = o at hresult hjournal hstate
  generalize m t = o' at hresult hjournal hstate
  obtain ⟨result, s', journal⟩ := o
  obtain ⟨result', t', journal'⟩ := o'
  obtain rfl : result = result' := hresult
  obtain rfl : journal = journal' := hjournal
  match result with
  | .ok _ | .error (.crash _) => exact ⟨rfl, rfl, hstate⟩
  | .error (.failure e) =>
    obtain ⟨hresult, hjournal, hstate⟩ := hk e s' t' hstate
    exact ⟨hresult, congrArg (journal ++ ·) hjournal, hstate⟩

theorem respects_settle {m : Act ω σ α} (hm : Respects R m) : Respects R m.settle := by
  intro s t h
  obtain ⟨hresult, hjournal, hstate⟩ := hm s t h
  unfold settle
  generalize m s = o at hresult hjournal hstate
  generalize m t = o' at hresult hjournal hstate
  obtain ⟨result, s', journal⟩ := o
  obtain ⟨result', t', journal'⟩ := o'
  obtain rfl : result = result' := hresult
  match result with
  | .ok _ | .error (.crash _) | .error (.failure _) => exact ⟨rfl, hjournal, hstate⟩

theorem respects_telling {m : Act ω σ α} (g : ω → ω') (hm : Respects R m) :
    Respects R (m.telling g) := by
  intro s t h
  obtain ⟨hresult, hjournal, hstate⟩ := hm s t h
  exact ⟨hresult, congrArg (List.map g) hjournal, hstate⟩

/-- Work on a part respects what its part is to respect. -/
theorem respects_within {R' : τ → τ → Prop} {m : Act ω τ α} {look : σ → τ} {put : τ → σ → σ}
    (hm : Respects R' m) (hlook : ∀ s t, R s t → R' (look s) (look t))
    (hput : ∀ s t s' t', R s t → R' s' t' → R (put s' s) (put t' t)) :
    Respects R (m.within look put) := by
  intro s t h
  obtain ⟨hresult, hjournal, hstate⟩ := hm _ _ (hlook s t h)
  exact ⟨hresult, hjournal, hput s t _ _ h hstate⟩

/-- What comes after a piece of work that ended well goes on from its state. -/
theorem bind_of_result {m : Act ω σ α} {k : α → Act ω σ β} {s : σ} {x : α}
    (h : (m s).result = .ok x) : (m >>= k) s = (k x (m s).state).after (m s).journal := by
  rcases hs : m s with ⟨result, t, journal⟩
  rw [hs] at h
  obtain rfl : result = .ok x := h
  exact bind_ok hs

/-- Nothing comes after a piece of work that failed. -/
theorem bind_of_error {m : Act ω σ α} {k : α → Act ω σ β} {s : σ} {e : Fault}
    (h : (m s).result = .error e) : (m >>= k) s = ⟨.error e, (m s).state, (m s).journal⟩ := by
  rcases hs : m s with ⟨result, t, journal⟩
  rw [hs] at h
  obtain rfl : result = .error e := h
  exact bind_error hs

/-- What ends well goes well all along. -/
theorem exists_of_bind_ok {m : Act ω σ α} {k : α → Act ω σ β} {s : σ} {y : β}
    (h : ((m >>= k) s).result = .ok y) :
    ∃ x, (m s).result = .ok x ∧ (k x (m s).state).result = .ok y := by
  rcases hs : m s with ⟨result, t, journal⟩
  cases result with
  | ok x =>
    rw [bind_ok hs] at h
    exact ⟨x, rfl, h⟩
  | error e =>
    rw [bind_error hs] at h
    cases h

/-- What holds when an act is done, and goes on holding with what comes next,
holds when both are done. -/
theorem holds_bind (Q : σ → Prop) {m : Act ω σ α} {k : α → Act ω σ β} {s : σ} (hm : Q (m s).state)
    (hk : ∀ x, (m s).result = .ok x → Q (k x (m s).state).state) : Q ((m >>= k) s).state := by
  rcases hs : m s with ⟨result, t, journal⟩
  rw [hs] at hm hk
  cases result with
  | ok x =>
    rw [bind_ok hs]
    exact hk x rfl
  | error e =>
    rw [bind_error hs]
    exact hm

end Act

/-- Two clusters with these brokers, and whatever else they are to have in
common, are the same to a member in all it asks for at once. -/
structure Cluster.Alike (id : String) (S : Cluster → Cluster → Prop) : Prop where
  nextEvent : Act.Respects S (onBroker (·.nextEvent id))
  assign : ∀ l, Act.Respects S (onBroker (·.assign id l))
  unassign : Act.Respects S (onBroker (·.unassign id))
  commit : ∀ offsets asynchronous, Act.Respects S (onBroker (·.commit id offsets asynchronous))
  leave : Act.Respects S (onBroker (·.leave id))
  assignmentOf : Act.Respects S (askBroker (·.assignmentOf id))

/-! ## At the member's seat -/

namespace Seat

variable {id : String} {S : Cluster → Cluster → Prop}

/-- The same seat, of the member, in related clusters. -/
def Alike (id : String) (S : Cluster → Cluster → Prop) (s t : Seat × Cluster) : Prop :=
  s.1 = t.1 ∧ s.1.member = id ∧ S s.2 t.2

/-- What a member does at its seat is up to the broker's operation. -/
theorem respects_act {f : Broker → String → Broker.Effect α}
    (h : Act.Respects S (Cluster.onBroker fun b => f b id)) : Act.Respects (Alike id S) (act f) := by
  rintro ⟨seat, w⟩ ⟨_, v⟩ ⟨rfl, rfl, hS⟩
  obtain ⟨hresult, hjournal, hstate⟩ := h w v hS
  exact ⟨hresult, hjournal, rfl, rfl, hstate⟩

/-- What it asks is up to the broker's answer. -/
theorem respects_wonder {f : Broker → String → Except Failure α}
    (h : Act.Respects S (Cluster.askBroker fun b => f b id)) :
    Act.Respects (Alike id S) (wonder f) := by
  rintro ⟨seat, w⟩ ⟨_, v⟩ ⟨rfl, rfl, hS⟩
  obtain ⟨hresult, hjournal, hstate⟩ := h w v hS
  exact ⟨hresult, hjournal, rfl, rfl, hstate⟩

end Seat

namespace Coordinator

variable {id : String} {S : Cluster → Cluster → Prop}

/-- The same coordinator at the same seat. -/
def Alike (id : String) (S : Cluster → Cluster → Prop) (s t : Coordinator × Seat × Cluster) : Prop :=
  s.1 = t.1 ∧ Seat.Alike id S s.2 t.2

/-- A callback sees the notifications and nothing of the cluster. -/
theorem respects_call (n : Notification) (f : List Notification → Except String α) :
    Act.Respects (Alike id S) (call n f) := by
  rintro ⟨k, s⟩ ⟨_, t⟩ ⟨rfl, h⟩
  unfold call
  dsimp only
  cases f k.calls <;> exact ⟨rfl, rfl, rfl, h⟩

/-- To apply what was decided comes to the same if the request does. -/
theorem respects_applying {action : RebalanceAction} {a : Ask} {m : Act DiaryEntry (Seat × Cluster) α}
    (hm : Act.Respects (Seat.Alike id S) m) :
    Act.Respects (Alike id S) (applying action (Transport.ask a m)) := by
  unfold applying onTransport
  have hask : Act.Respects (Seat.Alike id S) ((Transport.ask a m).orElse fun e =>
      Act.fail (.rebalance action e)) := by
    refine Act.respects_orElse ?_ fun _ => Act.respects_throw _
    exact Act.respects_bind (Act.respects_note _) fun _ => Act.respects_telling _ hm
  exact Act.respects_within hask (fun _ _ h => h.2) fun _ _ _ _ h h' => ⟨h.1, h'⟩

theorem respects_memberId : Act.Respects (Alike id S) (memberId : Act Entry _ String) := by
  rintro ⟨k, seat, w⟩ ⟨_, _, v⟩ ⟨rfl, rfl, h⟩
  exact ⟨rfl, rfl, rfl, rfl, h⟩

theorem respects_prepared (delivered : PartitionList) :
    Act.Respects (Alike id S) (prepared delivered) := by
  refine Act.respects_get_bind ?_ ?_
  · rintro ⟨k, s⟩ ⟨_, t⟩ ⟨rfl, _⟩
    rfl
  · intro s
    dsimp only
    split
    · exact Act.respects_pure _
    · refine Act.respects_bind (Act.respects_note _) fun _ => Act.respects_bind (respects_call _ _) ?_
      intro left
      split
      · exact Act.respects_pure _
      · exact Act.respects_bind (Act.respects_note _) fun _ => Act.respects_throw _

theorem respects_announceRevoked (partitions : PartitionList) :
    Act.Respects (Alike id S) (announceRevoked partitions) := by
  refine Act.respects_get_bind ?_ ?_
  · rintro ⟨k, s⟩ ⟨_, t⟩ ⟨rfl, _⟩
    rfl
  · intro s
    dsimp only
    split
    · exact Act.respects_pure _
    · exact Act.respects_bind (Act.respects_note _) fun _ => respects_call _ _

end Coordinator

namespace Cluster.Alike

open Coordinator

variable {id : String} {S : Cluster → Cluster → Prop} (h : Cluster.Alike id S)
include h

/-- Taking a notification, a coordinator does not tell them apart. -/
theorem take (n : Notification) : Act.Respects (Coordinator.Alike id S) (Coordinator.take n) := by
  have hunassign : Act.Respects (Coordinator.Alike id S) (Coordinator.unassign : Act Entry _ Unit) :=
    respects_applying (Seat.respects_act h.unassign)
  cases n with
  | assign partitions =>
    refine Act.respects_bind respects_memberId fun _ => Act.respects_bind (Act.respects_note _) ?_
    intro _
    refine Act.respects_bind (respects_prepared _) fun left => ?_
    exact respects_applying (Seat.respects_act (h.assign left))
  | revoke partitions =>
    refine Act.respects_bind respects_memberId fun _ => Act.respects_bind (Act.respects_note _) ?_
    intro _
    refine Act.respects_bind (Act.respects_attempt (respects_announceRevoked _)) ?_
    intro r
    cases r with
    | ok _ => exact hunassign
    | error _ =>
      refine Act.respects_bind (Act.respects_orElse hunassign fun _ => Act.respects_note _) ?_
      intro _
      exact Act.respects_throw _
  | trouble code =>
    refine Act.respects_bind (Act.respects_note _) fun _ => Act.respects_get_bind ?_ ?_
    · rintro ⟨k, s⟩ ⟨_, t⟩ ⟨rfl, _⟩
      rfl
    · intro s
      dsimp only
      split
      · exact Act.respects_pure _
      · exact Act.respects_bind (Act.respects_note _) fun _ => respects_call _ _

end Cluster.Alike

/-! ## A consumer at the seat -/

namespace Consumer

variable {id : String} {S : Cluster → Cluster → Prop}

/-- The same consumer, at the seat of the member. -/
def Alike (id : String) (S : Cluster → Cluster → Prop) (s t : Consumer Seat × Cluster) : Prop :=
  s.1 = t.1 ∧ s.1.transport.member = id ∧ S s.2 t.2

/-- Work on the transport comes to the same for a consumer as it does for its
seat. -/
theorem respects_onTransport {m : Act Entry (Seat × Cluster) α}
    (hm : Act.Respects (Seat.Alike id S) m) : Act.Respects (Alike id S) (onTransport m) := by
  refine Act.respects_within hm ?_ ?_
  · rintro ⟨c, w⟩ ⟨_, v⟩ ⟨rfl, hid, hS⟩
    exact ⟨rfl, hid, hS⟩
  · rintro ⟨c, w⟩ ⟨_, v⟩ ⟨seat, w'⟩ ⟨_, v'⟩ ⟨rfl, _, _⟩ ⟨rfl, hid, hS⟩
    exact ⟨rfl, hid, hS⟩

theorem respects_ask {a : Ask} {m : Act DiaryEntry (Seat × Cluster) α}
    (hm : Act.Respects (Seat.Alike id S) m) :
    Act.Respects (Alike id S) (onTransport (Transport.ask a m)) :=
  respects_onTransport (Act.respects_bind (Act.respects_note _) fun _ => Act.respects_telling _ hm)

/-- And so does work of the coordinator. -/
theorem respects_onCoordinator {m : Act Entry (Coordinator × Seat × Cluster) α}
    (hm : Act.Respects (Coordinator.Alike id S) m) : Act.Respects (Alike id S) (onCoordinator m) := by
  refine Act.respects_within hm ?_ ?_
  · rintro ⟨c, w⟩ ⟨_, v⟩ ⟨rfl, hid, hS⟩
    exact ⟨rfl, rfl, hid, hS⟩
  · rintro ⟨c, w⟩ ⟨_, v⟩ ⟨k, seat, w'⟩ ⟨_, _, v'⟩ ⟨rfl, _, _⟩ ⟨rfl, rfl, hid, hS⟩
    exact ⟨rfl, hid, hS⟩

theorem respects_self : Act.Respects (Alike id S) (self : Act Entry (Consumer Seat × Cluster) _) := by
  rintro ⟨c, w⟩ ⟨_, v⟩ ⟨rfl, hid, hS⟩
  exact ⟨rfl, rfl, rfl, hid, hS⟩

theorem respects_closed : Act.Respects (Alike id S)
    (update fun c => { c with closed := true } : Act Entry (Consumer Seat × Cluster) Unit) := by
  refine Act.respects_modify ?_
  rintro ⟨c, w⟩ ⟨_, v⟩ ⟨rfl, hid, hS⟩
  exact ⟨rfl, hid, hS⟩

end Consumer

namespace Cluster.Alike

open Consumer

variable {id : String} {S : Cluster → Cluster → Prop} (h : Cluster.Alike id S)
include h

/-- A look comes to the same, whatever it finds. -/
theorem look : Act.Respects (Consumer.Alike id S) Consumer.look := by
  refine Act.respects_bind ?_ fun x => ?_
  · rintro ⟨c, w⟩ ⟨_, v⟩ ⟨rfl, rfl, hS⟩
    obtain ⟨hresult, _, hstate⟩ := h.nextEvent w v hS
    rw [askPoll_now, askPoll_now]
    exact ⟨hresult, rfl, rfl, rfl, hstate⟩
  · match x with
    | none | some (.message _) => exact Act.respects_pure _
    | some (.rebalance code partitions) =>
      exact Act.respects_bind (respects_onCoordinator (h.take _)) fun _ => Act.respects_pure _

theorem commitMessage (x : Message) (asynchronous : Bool) :
    Act.Respects (Consumer.Alike id S) (Consumer.commitMessage x asynchronous) := by
  unfold Consumer.commitMessage
  split
  · next offsets _ =>
    refine Act.respects_bind (Act.respects_note _) fun _ => ?_
    exact respects_ask (Seat.respects_act (h.commit offsets asynchronous))
  · exact Act.respects_throw _

/-- To give up what is held asks what that is, and then takes the revocation. -/
theorem revokeAll : Act.Respects (Consumer.Alike id S) Consumer.revokeAll := by
  refine Act.respects_bind (respects_ask (Seat.respects_wonder h.assignmentOf)) fun held => ?_
  split
  · exact Act.respects_pure _
  · exact respects_onCoordinator (h.take _)

theorem askClose : Act.Respects (Consumer.Alike id S) (onTransport Transport.askClose) :=
  respects_ask (Seat.respects_act h.leave)

/-- A consumer is closed in both, or it was already. -/
theorem close : Act.Respects (Consumer.Alike id S) Consumer.close := by
  refine Act.respects_bind respects_self fun c => ?_
  split
  · exact Act.respects_pure _
  refine Act.respects_bind respects_closed fun _ => ?_
  refine Act.respects_bind (Act.respects_settle h.revokeAll) fun revoked => ?_
  refine Act.respects_bind (Act.respects_settle h.askClose) fun left => ?_
  refine Act.respects_bind respects_self fun c => Act.respects_bind (Act.respects_note _) fun _ => ?_
  exact Act.respects_bind (Act.respects_ofExcept _) fun _ => Act.respects_ofExcept _

theorem releaseTransport : Act.Respects (Consumer.Alike id S) Consumer.releaseTransport :=
  respects_onTransport (Act.respects_telling _ (Seat.respects_act h.leave))

/-- And so it is when its owner lets go of it. -/
theorem release (unwinding : Bool) :
    Act.Respects (Consumer.Alike id S) (Consumer.release unwinding) := by
  refine Act.respects_bind respects_self fun c => ?_
  split
  · exact h.releaseTransport
  split
  · refine Act.respects_bind ?_ fun _ => h.releaseTransport
    refine Act.respects_bind respects_closed fun _ => ?_
    exact Act.respects_orElse h.askClose fun _ => Act.respects_note _
  · refine Act.respects_bind (Act.respects_attempt (Act.respects_orElse h.close
      fun _ => Act.respects_note _)) fun closed => Act.respects_bind h.releaseTransport fun _ => ?_
    cases closed with
    | ok _ => exact Act.respects_pure _
    | error fault => exact Act.respects_throw fault

/-- Whatever it does, a consumer does not tell them apart. -/
theorem deed (d : Deed) : Act.Respects (Consumer.Alike id S) d.act := by
  cases d with
  | look => exact h.look
  | commitMessage x asynchronous =>
    exact Act.respects_bind (h.commitMessage x asynchronous) fun _ => Act.respects_pure _
  | close => exact Act.respects_bind h.close fun _ => Act.respects_pure _
  | release unwinding => exact Act.respects_bind (h.release unwinding) fun _ => Act.respects_pure _

end Cluster.Alike

/-! ## The same broker -/

/-- Nobody who asks for something at once notices more of a cluster than
its broker. -/
theorem Cluster.alike_of_broker (id : String) :
    Cluster.Alike id fun w w' => w.broker = w'.broker := by
  have hact {α : Type} (f : Broker → Broker.Effect α) :
      Act.Respects (fun w w' : Cluster => w.broker = w'.broker) (onBroker f) := by
    intro w w' h
    unfold onBroker
    rw [h]
    exact ⟨rfl, rfl, rfl⟩
  refine ⟨hact _, fun _ => hact _, hact _, fun _ _ => hact _, hact _, ?_⟩
  intro w w' h
  unfold askBroker
  rw [h]
  exact ⟨rfl, rfl, h⟩

/-- What a look comes to in a cluster is what it comes to with the broker
alone. -/
theorem Consumer.look_congr (c : Consumer Seat) {w w' : Cluster} (hw : w.broker = w'.broker) :
    (look (c, w)).Alike (Consumer.Alike c.transport.member fun w w' => w.broker = w'.broker)
      (look (c, w')) := (Cluster.alike_of_broker _).look _ _ ⟨rfl, rfl, hw⟩

end ConsumerGroup
