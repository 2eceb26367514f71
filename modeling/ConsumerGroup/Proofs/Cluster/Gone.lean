import ConsumerGroup.Proofs.Cluster.Refusal

/-!
# An empty seat

Whoever has left keeps a seat that nobody sits in. What can be asked of
its transport is answered once and for all (`Ask.answerToGone`), whatever
has become of the broker meanwhile, and nothing comes of it
(`Seat.askTransport_of_absent`).

Most answers are a refusal. What is checked before anybody looks who asks is
told first, such as a list that names a partition twice; to let go of an
empty seat goes well, and so does a commit that nobody waits for, whose
failure only the diary tells.
-/

namespace ConsumerGroup

/-- Why nobody who is gone can subscribe to topics: what is wrong with them
is told first. -/
def Subscription.refusalToGone (read : PatternReader) (topics : List String) : Failure :=
  if topics.isEmpty then .ofCode .invalidArgument
  else
    match ofTexts read topics with
    | .error f => f
    | .ok _ => .ofCode .destroyed

/-- Why nothing can be assigned to whoever is gone: what is wrong with the
list itself is told first. -/
def PartitionList.refusalToGone (l : PartitionList) : Failure :=
  if l.hasDuplicates then .ofCode .invalidArgument else .ofCode .destroyed

/-- What is answered to whoever is gone. -/
def Ask.answerToGone (read : PatternReader) : Ask → Except Failure Response
  | .close | .commit _ true => .ok .done
  | .subscribe topics => .error (Subscription.refusalToGone read topics)
  | .assign l => .error l.refusalToGone
  | _ => .error (.ofCode .destroyed)

namespace Broker

variable {b : Broker} {id : String}

/-- Topics are read before anybody looks who asks for them, so a bad pattern
is told also to one who is gone. -/
theorem subscribe_of_absent (h : ¬ b.Present id) (topics : List String) :
    b.subscribe id topics =
      b.answer (.error (Subscription.refusalToGone b.patterns topics)) := by
  unfold subscribe Subscription.refusalToGone
  rw [member?_eq_none_iff.mpr h]
  split
  · rfl
  · cases Subscription.ofTexts b.patterns topics <;> rfl

theorem unsubscribe_of_absent (h : ¬ b.Present id) :
    b.unsubscribe id = b.answer (.error (.ofCode .destroyed)) := by
  unfold unsubscribe
  rw [member?_eq_none_iff.mpr h]
  rfl

/-- And so is a list that names a partition twice. -/
theorem assign_of_absent (h : ¬ b.Present id) (l : PartitionList) :
    b.assign id l = b.answer (.error l.refusalToGone) := by
  unfold assign PartitionList.refusalToGone
  rw [member?_eq_none_iff.mpr h]
  split <;> rfl

theorem unassign_of_absent (h : ¬ b.Present id) :
    b.unassign id = b.answer (.error (.ofCode .destroyed)) := by
  unfold unassign
  rw [member?_eq_none_iff.mpr h]
  rfl

/-- A commit that is waited for fails; one that is not goes well, and only the
diary tells that it failed later. -/
theorem commit_of_absent (h : ¬ b.Present id) (l : PartitionList) (asynchronous : Bool) :
    b.commit id l asynchronous =
      if asynchronous then
        { result := .ok (), broker := b, diary := [.commitFailedLater id (.ofCode .destroyed)] }
      else b.answer (.error (.ofCode .destroyed)) := by
  have hnow : b.commitNow id l = b.answer (.error (.ofCode .destroyed)) := by
    unfold commitNow
    rw [member?_eq_none_iff.mpr h]
    rfl
  unfold commit
  rw [hnow]
  cases asynchronous <;> rfl

theorem member_of_absent (h : ¬ b.Present id) : b.member id = .error (.ofCode .destroyed) := by
  unfold member
  rw [member?_eq_none_iff.mpr h]

/-- To leave again does nothing, and goes well. -/
theorem leave_of_absent (h : ¬ b.Present id) : b.leave id = b.answer (.ok ()) := by
  unfold leave
  rw [member?_eq_none_iff.mpr h]

end Broker

namespace Seat

variable {α : Type} {seat : Seat} {w : Cluster}

/-- What an operation comes to at a seat, if it leaves the broker as it is. -/
theorem act_of_eq {f : Broker → String → Broker.Effect α} {e : Broker.Effect α}
    (h : f w.broker seat.member = e) (hb : e.broker = w.broker) :
    act f (seat, w) = ⟨e.result.mapError .failure, (seat, w), e.diary⟩ := by
  unfold act Cluster.onBroker
  dsimp only
  rw [h, hb]

/-- What a question comes to at a seat, if it is refused. -/
theorem wonder_of_error {f : Broker → String → Except Failure α} {e : Failure}
    (h : f w.broker seat.member = .error e) :
    wonder f (seat, w) = ⟨.error (.failure e), (seat, w), []⟩ := by
  show Outcome.mk ((f w.broker seat.member).mapError Fault.failure) (seat, w) [] = _
  rw [h]
  rfl

/-- Nobody waits at the seat of one who is gone. -/
theorem poll_of_absent (h : ¬ w.broker.Present seat.member) (timeout : Nat) :
    poll timeout (seat, w) = ⟨.error (.failure (.ofCode .destroyed)), (seat, w), []⟩ := by
  unfold poll
  dsimp only
  rw [Cluster.await_of_absent _ h]

/-- What changes nothing at a seat changes nothing when its transport is
asked for it. -/
theorem asked_of_eq {m : {H : Type} → [Transport H Cluster] → Act DiaryEntry (H × Cluster) α}
    {r : Except Fault α} {told : List DiaryEntry} (hm : m (seat, w) = ⟨r, (seat, w), told⟩) (a : Ask)
    (g : α → Response) :
    ∃ told, (do let x ← Transport.ask a (Link.act m); return g x :
        Act Entry (Link × Cluster) Response) (.seat seat, w) =
      ⟨r.map g, (.seat seat, w), .asked a :: told⟩ := by
  rw [asked_seat, hm]
  exact ⟨_, rfl⟩

/-- Whatever is asked of the transport of whoever is gone, it is answered,
and nothing else comes of it but what may be told of it. -/
theorem askTransport_of_absent (h : ¬ w.broker.Present seat.member) (a : Ask) :
    ∃ told, Session.askTransport a (.seat seat, w) =
      ⟨(a.answerToGone w.broker.patterns).mapError .failure, (.seat seat, w), .asked a :: told⟩ := by
  have hquestion {β : Type} (f : Member → Except Failure β) :
      w.broker.member seat.member >>= f = .error (.ofCode .destroyed) := by
    rw [Broker.member_of_absent h]
    rfl
  cases a with
  | poll timeout => exact asked_of_eq (m := Transport.poll timeout) (poll_of_absent h timeout) _ _
  | subscribe topics =>
    have hsubscribe := act_of_eq (f := (·.subscribe · topics))
      (Broker.subscribe_of_absent h topics) rfl
    exact asked_of_eq (m := Transport.subscribe topics) hsubscribe _ _
  | unsubscribe =>
    have hunsubscribe := act_of_eq (Broker.unsubscribe_of_absent h) rfl
    exact asked_of_eq (m := Transport.unsubscribe) hunsubscribe _ _
  | assign l =>
    have hassign := act_of_eq (f := (·.assign · l)) (Broker.assign_of_absent h l) rfl
    exact asked_of_eq (m := Transport.assign l) hassign _ _
  | unassign =>
    have hunassign := act_of_eq (Broker.unassign_of_absent h) rfl
    exact asked_of_eq (m := Transport.unassign) hunassign _ _
  | commit l asynchronous =>
    have hcommit := Broker.commit_of_absent h l asynchronous
    cases asynchronous with
    | true => exact asked_of_eq (m := Transport.commit l true) (act_of_eq hcommit rfl) _ _
    | false => exact asked_of_eq (m := Transport.commit l false) (act_of_eq hcommit rfl) _ _
  | watermarks p =>
    exact asked_of_eq (m := Transport.watermarks p) (wonder_of_error (hquestion _)) _ _
  | committed l =>
    exact asked_of_eq (m := Transport.committed l) (wonder_of_error (hquestion _)) _ _
  | positions l =>
    exact asked_of_eq (m := Transport.positions l) (wonder_of_error (hquestion _)) _ _
  | assignment =>
    exact asked_of_eq (m := Transport.assignment) (wonder_of_error (hquestion _)) _ _
  | subscription =>
    exact asked_of_eq (m := Transport.subscription) (wonder_of_error (hquestion _)) _ _
  | close =>
    have hleave := act_of_eq (Broker.leave_of_absent h) rfl
    exact asked_of_eq (m := Transport.close) hleave _ _

end Seat

end ConsumerGroup
