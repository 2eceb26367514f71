import ConsumerGroup.Proofs.Consumer.Telling
import ConsumerGroup.Proofs.Group.Course

/-!
# One consumer in a run

A run knows the members of a broker and not their consumers: each deed of
it is some consumer's. A tenure follows one consumer through a run, from
when it is made to whatever it has come to, with all it told on the way.
Between its deeds anything may happen to the broker, and its owner may
give it other callbacks; the deeds themselves are one step each.

A crash does not end a tenure: its owner may catch it and go on, with the
consumer as the crash left it. A poll that waits is not one deed but many
looks, with whatever happens between them.

Everything proved of runs holds of a tenure, since its broker and what was
told are those of a run (`Tenure.chronicle_after`). What is new is the
consumer: its callbacks, its journal, and whether it was closed.
-/

namespace ConsumerGroup

/-- The coordinator with other callbacks, where one is given. -/
def Coordinator.equipped (k : Coordinator) (onAssign : Option AssignCallback)
    (onRevoke : Option RevokeCallback) (onTrouble : Option TroubleCallback) : Coordinator :=
  { k with
    onAssign := onAssign.or k.onAssign
    onRevoke := onRevoke.or k.onRevoke
    onTrouble := onTrouble.or k.onTrouble }

/-- What an act came to was a crash. -/
def Outcome.crashed {ω σ α : Type} (o : Outcome ω σ α) : Bool :=
  match o.result with
  | .error (.crash _) => true
  | _ => false

/-- A consumer in a run, with what it has told. -/
structure Tenure where
  consumer : Consumer Seat
  chronicle : Chronicle
  journal : List Entry := []
  /-- A callback has crashed while the consumer was being closed. -/
  interrupted : Bool := false

namespace Tenure

/-- A step of a tenure. -/
inductive Step where
  /-- Something happens in the run beside the consumer. -/
  | beside (e : Happening)
  /-- The consumer does something. -/
  | did (d : Deed)
  /-- The owner gives the consumer other callbacks. -/
  | equipped (onAssign : Option AssignCallback) (onRevoke : Option RevokeCallback)
      (onTrouble : Option TroubleCallback)

/-- The member whose consumer it is. -/
def id (t : Tenure) : String := t.consumer.transport.member

def broker (t : Tenure) : Broker := t.chronicle.broker

/-- What the consumer reads. -/
def held (t : Tenure) : List Partition := t.broker.heldBy t.id

/-- The consumer beside its cluster. -/
def world (t : Tenure) : Consumer Seat × Cluster := (t.consumer, { broker := t.broker })

/-- What a deed would come to. -/
def outcome (t : Tenure) (d : Deed) : Outcome Entry (Consumer Seat × Cluster) (Option Message) :=
  d.act t.world

/-- A deed is interrupted if it is to close and crashes. -/
def interrupts (t : Tenure) : Deed → Bool
  | .close => (t.outcome .close).crashed
  | _ => false

/-- The tenure after a step. -/
def after (t : Tenure) : Step → Tenure
  | .beside e => { t with chronicle := t.chronicle.after e }
  | .did d =>
    { consumer := (t.outcome d).state.1
      chronicle := t.chronicle.after (.did t.consumer d)
      journal := t.journal ++ (t.outcome d).journal
      interrupted := t.interrupted || t.interrupts d }
  | .equipped onAssign onRevoke onTrouble =>
    { t with consumer := { t.consumer with
        coordinator := t.consumer.coordinator.equipped onAssign onRevoke onTrouble } }

/-- The tenure of a consumer that has just been made. -/
def begun (s : Chronicle) (configuration : Configuration) (c : Consumer Seat) : Tenure where
  consumer := c
  chronicle := s.after (.asked (.connect configuration))

/-- All tenures in which only what is allowed happens. A consumer is made
at any time of any run. -/
inductive Reached (allowed : Tenure → Step → Prop) : Tenure → Prop
  | start {s : Chronicle} {configuration : Configuration} {c : Consumer Seat}
      (hs : Chronicle.Reached (fun _ _ => True) s)
      (hc : (Consumer.create configuration Seat.connect { broker := s.broker }).result = .ok c) :
      Reached allowed (begun s configuration c)
  | step {t : Tenure} {e : Step} (ht : Reached allowed t) (ha : allowed t e) :
      Reached allowed (t.after e)

/-! ## How a consumer begins -/

/-- To connect is to be given a seat under the id that was given, or to be
refused. -/
theorem connect_seat (configuration : Configuration) (w : Cluster) :
    Seat.connect configuration w =
      ⟨((w.broker.connect configuration).result.mapError .failure).map fun member =>
          ⟨member, (configuration.get? Configuration.groupKey).getD ""⟩,
        { w with broker := (w.broker.connect configuration).broker },
        (w.broker.connect configuration).diary⟩ := by
  have hconnect : Cluster.onBroker (·.connect configuration) w =
      ⟨(w.broker.connect configuration).result.mapError .failure,
        { w with broker := (w.broker.connect configuration).broker },
        (w.broker.connect configuration).diary⟩ := rfl
  unfold Seat.connect
  cases hr : (w.broker.connect configuration).result with
  | error f =>
    rw [hr] at hconnect
    rw [Act.bind_error hconnect]
    rfl
  | ok id =>
    rw [hr] at hconnect
    rw [Act.bind_ok hconnect]
    exact congrArg (Outcome.mk _ _) (List.append_nil _)

/-- Without a group to join, no consumer is made. -/
theorem create_of_none {configuration : Configuration} (h : configuration.group? = none) (w : Cluster) :
    Consumer.create configuration Seat.connect w =
      ⟨.error (.failure (.configuration .noGroup)), w, []⟩ := by
  unfold Consumer.create
  rw [h]
  rfl

/-- To make a consumer is to connect a member, whose seat it has. -/
theorem create_of_some {configuration : Configuration} {group : String}
    (h : configuration.group? = some group) (w : Cluster) :
    (Consumer.create configuration Seat.connect w).result =
        ((w.broker.connect configuration).result.mapError .failure).map (fun member =>
          { transport := ⟨member, (configuration.get? Configuration.groupKey).getD ""⟩ }) ∧
      (Consumer.create configuration Seat.connect w).state =
        { w with broker := (w.broker.connect configuration).broker } := by
  have hseat : (Seat.connect configuration).telling Entry.diary w = _ :=
    congrArg (fun o => Outcome.mk o.result o.state (o.journal.map Entry.diary))
      (connect_seat configuration w)
  unfold Consumer.create
  rw [h]
  dsimp only
  rw [Act.bind_ok (m := Act.note _) rfl]
  cases hr : (w.broker.connect configuration).result with
  | error f =>
    rw [hr] at hseat
    rw [Act.bind_error hseat]
    exact ⟨rfl, rfl⟩
  | ok id =>
    rw [hr] at hseat
    rw [Act.bind_ok hseat]
    exact ⟨rfl, rfl⟩

/-- To make a consumer is to connect a member, and it is that member's. -/
theorem created {configuration : Configuration} {b : Broker} {c : Consumer Seat}
    (h : (Consumer.create configuration Seat.connect { broker := b }).result = .ok c) :
    (Consumer.create configuration Seat.connect { broker := b }).state =
        { broker := (b.perform (.connect configuration)).broker } ∧
      c.closed = false ∧ (b.connect configuration).result = .ok c.transport.member := by
  cases hgroup : configuration.group? with
  | none =>
    rw [create_of_none hgroup] at h
    cases h
  | some group =>
    obtain ⟨hresult, hstate⟩ := create_of_some hgroup { broker := b }
    rw [h] at hresult
    dsimp only at hresult
    refine ⟨hstate, ?_⟩
    cases hr : (b.connect configuration).result with
    | error f =>
      rw [hr] at hresult
      cases hresult
    | ok id =>
      rw [hr] at hresult
      cases hresult
      exact ⟨rfl, rfl⟩

/-- Whoever has just been connected is there, reads nothing, and nothing
waits for it. -/
theorem member?_connected {b : Broker} (hs : b.Sound) {configuration : Configuration} {id : String}
    (h : (b.connect configuration).result = .ok id) :
    ∃ options : MemberOptions,
      (b.perform (.connect configuration)).broker.member? id = some { id, options } := by
  have hchanged := b.perform_changed (.connect configuration)
  have hp : (b.perform (.connect configuration)).broker.Present id := by
    show (b.connect configuration).broker.Present id
    unfold Broker.connect at h ⊢
    split at h
    · cases h
    · cases h
      simp [Broker.Present]
  have hn : ¬ b.Present id := by
    intro hpresent
    unfold Broker.connect at h
    split at h
    · cases h
    · next options _ =>
      cases h
      exact (hs.issued hpresent).ne_next options.client rfl
  obtain ⟨options, hm, _⟩ := hchanged.joined hn hp
  exact ⟨options, hm⟩

/-- A consumer that has just been made is not closed, and its member is
there with empty hands. -/
theorem member?_begun {s : Chronicle} (hs : s.broker.Sound) {configuration : Configuration}
    {c : Consumer Seat}
    (hc : (Consumer.create configuration Seat.connect { broker := s.broker }).result = .ok c) :
    (begun s configuration c).consumer.closed = false ∧ ∃ options : MemberOptions,
      (begun s configuration c).broker.member? (begun s configuration c).id =
        some { id := (begun s configuration c).id, options } := by
  obtain ⟨_, hclosed, hid⟩ := created hc
  exact ⟨hclosed, member?_connected hs hid⟩

/-! ## What holds in every tenure -/

variable {t : Tenure} {allowed : Tenure → Step → Prop}

@[simp] theorem id_after (t : Tenure) (e : Step) : (t.after e).id = t.id := by
  cases e with
  | beside | equipped => rfl
  | did d => exact congrArg Seat.member (d.transport_act t.consumer { broker := t.broker })

@[simp] theorem closed_did (t : Tenure) (d : Deed) :
    (t.after (.did d)).consumer.closed = (t.consumer.closed || d.ends) :=
  d.closed_act t.consumer { broker := t.broker }

/-! ## What becomes of the member -/

theorem broker_did (t : Tenure) (d : Deed) :
    (t.after (.did d)).broker = (t.outcome d).state.2.broker := rfl

/-- A look makes of the broker what `Broker.Looked` says. -/
theorem looked (t : Tenure) : t.broker.Looked t.id (t.outcome .look) (t.after (.did .look)).broker := by
  obtain ⟨b', hs, _, hl⟩ := Consumer.looked t.consumer { broker := t.broker }
  have hb : (t.after (.did .look)).broker = b' := congrArg Cluster.broker hs
  rw [hb]
  exact hl

/-- To commit is at most to ask the broker for that. -/
theorem committed (t : Tenure) (x : Message) (asynchronous : Bool) :
    (t.after (.did (.commitMessage x asynchronous))).broker = t.broker ∨
      ∃ l, (t.after (.did (.commitMessage x asynchronous))).broker =
        (t.broker.commit t.id l asynchronous).broker := by
  rw [broker_did, outcome, Deed.act_commitMessage]
  cases hl : Consumer.afterMessage? x with
  | none => exact .inl (congrArg Cluster.broker (Consumer.commitMessage_of_none _ _ hl asynchronous))
  | some l =>
    exact .inr ⟨l, congrArg Cluster.broker (Consumer.commitMessage_of_some _ _ hl asynchronous)⟩

/-- To commit deals to the member at most. -/
theorem dealt_committed (hs : t.broker.Sound) {m : Member} (hm : t.broker.member? t.id = some m)
    (x : Message) (asynchronous : Bool) :
    ∃ m', (t.after (.did (.commitMessage x asynchronous))).broker.member? t.id = some m' ∧
      m.Dealt (t.after (.did (.commitMessage x asynchronous))).broker.topics.partitions m' := by
  rcases t.committed x asynchronous with hb | ⟨l, hb⟩
  · rw [hb]
    exact ⟨m, hm, .refl⟩
  · rw [hb]
    exact hs.dealt_aside (r := .member t.id (.commit l asynchronous)) (fun h => h) hm

/-- A consumer that is closed again does nothing. -/
theorem closed_again (hc : t.consumer.closed = true) :
    t.outcome .close = ⟨.ok none, t.world, []⟩ := by
  rw [outcome, Deed.act_close, world, Consumer.close_of_closed _ _ hc]
  rfl

/-- The first `close` has the member leave, unless a callback crashes. -/
theorem closed_first (hc : t.consumer.closed = false) :
    ((t.outcome .close).crashed = false ∧
      (t.after (.did .close)).broker = (t.broker.leave t.id).broker) ∨
    ((t.outcome .close).crashed = true ∧
      (t.after (.did .close)).broker = (t.broker.unassign t.id).broker) := by
  obtain ⟨b', hs, _, hb⟩ := Consumer.close_cases t.consumer { broker := t.broker } hc
  rw [broker_did, outcome, Deed.act_close]
  change (Consumer.close t.world).state.2 = _ at hs
  dsimp only
  rw [hs]
  refine hb.imp (fun ⟨hb, hr⟩ => ⟨?_, hb⟩) fun ⟨hb, e, he⟩ => ⟨?_, hb⟩
  · change ∀ e, (Consumer.close t.world).result ≠ _ at hr
    unfold Outcome.crashed
    dsimp only
    generalize (Consumer.close t.world).result = result at hr
    match result with
    | .ok _ | .error (.failure _) => rfl
    | .error (.crash e) => exact absurd rfl (hr e)
  · change (Consumer.close t.world).result = _ at he
    unfold Outcome.crashed
    rw [he]
    rfl

/-- Whoever lets go of a consumer has its member leave. -/
theorem released (t : Tenure) (unwinding : Bool) :
    (t.after (.did (.release unwinding))).broker = (t.broker.leave t.id).broker := by
  rw [broker_did, outcome, Deed.act_release]
  dsimp only
  rw [world, Consumer.state_release]
  rfl

/-- What a step means to the run. -/
def Step.happening? (t : Tenure) : Step → Option Happening
  | .beside e => some e
  | .did d => some (.did t.consumer d)
  | .equipped .. => none

/-- Of what happens in a consumer's life, the run is told what concerns the
broker. -/
theorem chronicle_after (t : Tenure) (e : Step) :
    (t.after e).chronicle = (e.happening? t).elim t.chronicle t.chronicle.after := by
  cases e <;> rfl

/-- The run that a tenure is part of. -/
theorem Reached.chronicle (h : Reached allowed t) :
    Chronicle.Reached (fun _ _ => True) t.chronicle := by
  induction h with
  | start hs => exact .step hs trivial
  | @step t e _ _ ih =>
    rw [chronicle_after]
    cases e.happening? t with
    | none => exact ih
    | some h => exact .step ih trivial

/-- The broker is sound all the time. -/
theorem Reached.sound (h : Reached allowed t) : t.broker.Sound := h.chronicle.sound

/-- The consumer's id was given to its member and is not given to anybody
else. -/
theorem Reached.issued (h : Reached allowed t) : t.broker.Issued t.id := by
  induction h with
  | start hs hc =>
    obtain ⟨_, options, hm⟩ := member?_begun hs.sound hc
    exact (Chronicle.sound_after hs.sound _).issued (Broker.present_of_member? hm)
  | @step t e _ _ ih =>
    rw [id_after]
    unfold broker
    rw [chronicle_after]
    cases e.happening? t with
    | none => exact ih
    | some h => exact Chronicle.issued_after ih h

/-- Once its member is gone, it does not come back. -/
theorem member?_after_of_gone (hi : t.broker.Issued t.id) (hm : t.broker.member? t.id = none)
    (e : Step) : (t.after e).broker.member? t.id = none := by
  have hn := Broker.member?_eq_none_iff.mp hm
  refine Broker.member?_eq_none_iff.mpr ?_
  unfold broker
  rw [chronicle_after]
  cases e.happening? t with
  | none => exact hn
  | some e => exact Chronicle.absent_after hi hn e

/-- The consumer of the only member of a group; there is a topic of two
partitions. -/
def alone : Tenure :=
  begun (Chronicle.run [.asked (.createTopic "t" 2)]) (Configuration.ofPairs [("group.id", "g")])
    { transport := ⟨"kafka_group-1", "g"⟩ }

theorem create_alone :
    (Consumer.create (Configuration.ofPairs [("group.id", "g")]) Seat.connect
      { broker := (Chronicle.run [.asked (.createTopic "t" 2)]).broker }).result =
        .ok { transport := ⟨"kafka_group-1", "g"⟩ } := by
  have hgroup : (Configuration.ofPairs [("group.id", "g")]).group? = some "g" := by decide +kernel
  have hid : ((Chronicle.run [.asked (.createTopic "t" 2)]).broker.connect
      (Configuration.ofPairs [("group.id", "g")])).result = .ok "kafka_group-1" := by decide +kernel
  rw [(create_of_some hgroup _).1, hid]
  rfl

theorem reached_alone : Reached allowed alone := .start (.step (.start _) trivial) create_alone

end Tenure

end ConsumerGroup
