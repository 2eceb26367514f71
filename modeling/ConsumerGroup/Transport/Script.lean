import ConsumerGroup.Transport

/-!
# Scripted transports

A transport that does what a script says: what each poll brings and how
long it takes, and which requests are refused. For the rest it only
remembers what it was told. It is the transport to try a coordinator or a
consumer with.
-/

namespace ConsumerGroup

/-- What one poll of a scripted transport brings, and how long it takes. -/
structure ScriptedPoll where
  outcome : Except Failure (Option Event)
  delay : Nat := 0

/-- A transport that follows a script. -/
structure Script where
  /-- What the polls to come bring; afterwards nothing comes. -/
  polls : List ScriptedPoll := []
  /-- The requests that are refused. -/
  refusals : List (Method × StatusCode) := []
  assignment : PartitionList := []
  subscription : List String := []

namespace Script

/-- Which requests are refused from now on; those not mentioned stay as
they are. -/
def refuse (s : Script) : List (Method × Option StatusCode) → Script
  | [] => s
  | (m, code) :: rest =>
    let others := s.refusals.filter (·.1 ≠ m)
    refuse { s with refusals := (code.map (m, ·)).toList ++ others } rest

variable {W α : Type}

/-- What a script does with a request: it is refused if the script says
so. -/
def follow (m : Method) (f : Script → Act DiaryEntry (Script × W) α) :
    Act DiaryEntry (Script × W) α := fun (s, w) =>
  match s.refusals.lookup m with
  | some code => Act.refuse code (s, w)
  | none => f s (s, w)

def update (f : Script → Script) : Act DiaryEntry (Script × W) Unit :=
  Act.modify fun (s, w) => (f s, w)

/-- Does a poll of the script, and leaves the rest to come. -/
def bring [Timed W] (p : ScriptedPoll) (rest : List ScriptedPoll) :
    Act DiaryEntry (Script × W) (Option Event) := do
  update fun s => { s with polls := rest }
  Timed.passBeside p.delay
  Act.ofExcept p.outcome

/-- Does the next poll of the script. -/
def poll [Timed W] : Act DiaryEntry (Script × W) (Option Event) :=
  follow .poll fun s =>
    match s.polls with
    | [] => Act.pure none
    | p :: rest => bring p rest

instance [Timed W] : Transport Script W where
  poll _ := poll
  subscribe topics := follow .subscribe fun _ => update fun s => { s with subscription := topics }
  unsubscribe := follow .unsubscribe fun _ => update fun s => { s with subscription := [] }
  assign partitions := follow .assign fun _ => update fun s => { s with assignment := partitions }
  unassign := follow .unassign fun _ => update fun s => { s with assignment := [] }
  commit _ _ := follow .commit fun _ => Act.pure ()
  watermarks _ := follow .watermarks fun _ => Act.pure ⟨0, 10⟩
  committed partitions := follow .committed fun _ => Act.pure partitions
  positions partitions := follow .positions fun _ => Act.pure partitions
  assignment := follow .assignment fun s => Act.pure s.assignment
  subscription := follow .subscription fun s => Act.pure s.subscription
  close := follow .close fun _ => Act.pure ()
  release := Act.pure ()
  memberId _ := "scripted-1"

/-! ## A script runs dry -/

theorem polls_bring [Timed W] (p : ScriptedPoll) (rest : List ScriptedPoll) (s : Script × W) :
    (bring p rest s).state.1.polls = rest :=
  Act.view_bind (fun t : Script × W => t.1.polls) rfl fun _ _ ht =>
    Act.view_bind (fun t : Script × W => t.1.polls) ht fun _ _ hu => by
      rw [Act.state_ofExcept]; exact hu

/-- A poll that brings something has used up a line of the script. -/
theorem length_polls_poll [Timed W] {s : Script} {w : W} {event : Event}
    (h : (poll (s, w)).result = .ok (some event)) :
    (poll (s, w)).state.1.polls.length < s.polls.length := by
  unfold poll follow at h ⊢
  cases hr : s.refusals.lookup .poll with
  | some code => simp [hr, Act.refuse, Act.fail, Act.throw] at h
  | none =>
    simp only [hr] at h ⊢
    cases hp : s.polls with
    | nil => simp [hp, Act.pure] at h
    | cons p rest => simp [polls_bring]

instance [Timed W] : RunsDry Script W where
  backlog s := ⟨s.1.polls.length, 0⟩
  less_of_poll h := Backlog.less_of_ahead (length_polls_poll h)
  backlog_assign partitions s := by
    show Backlog.mk _ _ = Backlog.mk _ _
    simp only [Transport.assign, follow]
    split <;> rfl
  backlog_unassign s := by
    show Backlog.mk _ _ = Backlog.mk _ _
    simp only [Transport.unassign, follow]
    split <;> rfl

end Script

end ConsumerGroup
