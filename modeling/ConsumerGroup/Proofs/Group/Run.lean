import ConsumerGroup.Proofs.Broker.Frame
import ConsumerGroup.Proofs.Consumer.Deed
import ConsumerGroup.Proofs.Group.Standing

/-!
# Runs

A run begins with an empty broker. In each step somebody asks the broker
for something, or a consumer does a deed of its own: any request, any
consumer with any callbacks, in any order. What a run is for is said by
what is allowed in each step (`Chronicle.Reached`); nothing is fixed but
that.

A chronicle is a broker together with every message that a poll of one of
its members has brought so far.

How the broker reads patterns is fixed when a run begins and never changes
(`Chronicle.patterns_run`). Whatever is said of all runs is said of any way
to read them; an example that names none has the broker's own.
-/

namespace ConsumerGroup

/-- A message that a poll brought to a member of a group. -/
structure Told where
  group : String
  message : Message
  deriving DecidableEq

/-- A broker and what its members were told, latest first. -/
structure Chronicle where
  broker : Broker := {}
  told : List Told := []

/-- A step of a run. -/
inductive Happening where
  /-- Somebody asks the broker for something. -/
  | asked (r : Request)
  /-- A consumer does something. -/
  | did (c : Consumer Seat) (d : Deed)

namespace Happening

def outcome (b : Broker) (c : Consumer Seat) (d : Deed) :
    Outcome Entry (Consumer Seat × Cluster) (Option Message) := d.act (c, { broker := b })

/-- The broker afterwards. -/
def broker (b : Broker) : Happening → Broker
  | .asked r => (b.perform r).broker
  | .did c d => (outcome b c d).state.2.broker

/-- The message that a poll brings, and the member it is brought to. -/
def brings (b : Broker) : Happening → Option (String × Message)
  | .asked (.member id .next) =>
    match (b.nextEvent id).result with
    | .ok (some (.message x)) => some (id, x)
    | _ => none
  | .asked _ => none
  | .did c d =>
    match (outcome b c d).result with
    | .ok (some x) => some (c.transport.member, x)
    | _ => none

end Happening

namespace Chronicle

/-- What a poll brings, as a member was told. -/
def heard (b : Broker) : Option (String × Message) → List Told
  | some (id, x) => (b.member? id).toList.map fun m => ⟨m.group, x⟩
  | none => []

/-- The chronicle after a step. -/
def after (s : Chronicle) (h : Happening) : Chronicle where
  broker := h.broker s.broker
  told := heard s.broker (h.brings s.broker) ++ s.told

/-- The chronicle of a run. It begins with a broker that has nothing but
what reads the patterns of its members. -/
def run (hs : List Happening) (patterns : PatternReader := Pattern.reader) : Chronicle :=
  hs.foldl after { broker := { patterns } }

/-- The chronicles of all runs in which only what is allowed happens. -/
inductive Reached (allowed : Chronicle → Happening → Prop) : Chronicle → Prop
  | start (patterns : PatternReader) : Reached allowed { broker := { patterns } }
  | step {s : Chronicle} {h : Happening} (hs : Reached allowed s) (ha : allowed s h) :
      Reached allowed (s.after h)

/-- Two members of a group: the first has taken its share of three
partitions, and then the second has subscribed. -/
def joinedLater : List Happening :=
  let configuration := Configuration.ofPairs [("group.id", "g")]
  [.asked (.createTopic "t" 3),
    .asked (.connect configuration),
    .asked (.member "kafka_group-1" (.subscribe ["t"])),
    .did { transport := ⟨"kafka_group-1", "g"⟩ } .look,
    .asked (.connect configuration),
    .asked (.member "kafka_group-2" (.subscribe ["t"]))]

end Chronicle

namespace Broker

variable {b b' : Broker} {id : String} {d : Deed}
  {o : Outcome Entry (Consumer Seat × Cluster) (Option Message)}

/-- What a deed leaves sound. -/
theorem Sound.done (hs : b.Sound) (h : b.Done id o d b') : b'.Sound := by
  refine h.holds hs (fun m m' _ hm hl => ?_) fun r _ => hs.perform (.member id r)
  have hid := id_of_member? hm
  apply hs.modifyMember
  intro _ _
  rw [hl.frame]
  exact hid

/-- A deed leaves logs where they are, or further on. -/
theorem advances_done (h : b.Done id o d b') : b.topics.Advances b'.topics :=
  h.holds (P := fun b' => b.topics.Advances b'.topics) (.refl _) (fun _ _ _ _ _ => .refl _)
    fun r _ => b.advances_perform (.member id r)

/-- A deed leaves the partitions there are. -/
theorem partitions_done (h : b.Done id o d b') :
    b.topics.partitions.Sublist b'.topics.partitions :=
  h.holds (P := fun b' => b.topics.partitions.Sublist b'.topics.partitions) (.refl _)
    (fun _ _ _ _ _ => .refl _) fun r _ => (b.perform_grows (.member id r)).1

/-- No deed changes how patterns are read. -/
theorem patterns_done (h : b.Done id o d b') : b'.patterns = b.patterns :=
  h.holds (P := fun b' => b'.patterns = b.patterns) rfl (fun _ _ _ _ _ => rfl)
    fun r _ => (b.perform_changed (.member id r)).patterns_eq

variable {g : String} {R : List Partition → Member → List Partition → Prop}

/-- A deed leaves everybody in the group where they stand, if it leaves
the member there whose consumer does it. -/
theorem Each.done (hR : Upheld g R) (hs : b.Sound) (h : b.Each g R) (hd : b.Done id o d b')
    (hlook : ∀ m m', b.member? id = some m → m.group = g → m.Looked b o m' →
      ∀ ps, R b.topics.partitions m ps → R b.topics.partitions m' ps)
    (hgaveUp : ∀ m e, b.member? id = some m → m.group = g → o.result = .error e →
      e.ofCallback = true → ∀ ps, R b.topics.partitions m ps →
        R b.topics.partitions { m with assignment := [], cursor := 0 } ps) :
    b'.Each g R := by
  cases hd with
  | looked hl =>
    cases hl with
    | gone => exact h
    | changed hm hl =>
      refine h.modifyMember hs hm ?_ fun hg => hlook _ _ hm hg hl
      rw [hl.frame]
      rfl
  | committed => exact h.perform hR hs (r := .member id (.commit _ _)) (by simp [Meddles])
  | nothing => exact h
  | left => exact h.perform hR hs (r := .member id .leave) (by simp [Meddles])
  | gaveUp ho he =>
    cases hm : b.member? id with
    | none =>
      unfold unassign
      rw [hm]
      exact h
    | some m =>
      unfold unassign
      rw [hm]
      exact h.modifyMember (f := fun m => { m with assignment := [], cursor := 0 }) hs hm rfl
        fun hg => hgaveUp m _ hm hg ho he

end Broker

namespace Chronicle

variable {patterns : PatternReader} {allowed : Chronicle → Happening → Prop} {s : Chronicle}

theorem run_append_singleton (hs : List Happening) (h : Happening) :
    run (hs ++ [h]) patterns = (run hs patterns).after h := List.foldl_append

/-- What every step of a row leaves, read off with the broker it meets. -/
def gatherFrom {α : Type} (f : Broker → Happening → List α) : Chronicle → List Happening → List α
  | _, [] => []
  | s, h :: hs => f s.broker h ++ gatherFrom f (s.after h) hs

/-- What the steps of a run leave, in their order. -/
def gather {α : Type} (f : Broker → Happening → List α) (hs : List Happening)
    (patterns : PatternReader := Pattern.reader) : List α :=
  gatherFrom f { broker := { patterns } } hs

/-- One step more leaves one thing more to gather. -/
theorem gather_append_singleton {α : Type} (f : Broker → Happening → List α)
    (hs : List Happening) (h : Happening) :
    gather f (hs ++ [h]) patterns = gather f hs patterns ++ f (run hs patterns).broker h := by
  have hfrom (s : Chronicle) :
      gatherFrom f s (hs ++ [h]) = gatherFrom f s hs ++ f (hs.foldl after s).broker h := by
    induction hs generalizing s with
    | nil => exact List.append_nil _
    | cons e hs ih =>
      rw [List.cons_append, gatherFrom, ih, gatherFrom, List.append_assoc]
      rfl
  exact hfrom _

/-- Every row of steps is a run. -/
theorem reached_run (hs : List Happening) (patterns : PatternReader) :
    Reached (fun _ _ => True) (run hs patterns) := by
  induction hs using List.reverseRecOn with
  | nil => exact .start patterns
  | append_singleton hs h ih =>
    rw [run_append_singleton]
    exact .step ih trivial

/-- What a deed makes of the broker of a chronicle. -/
theorem done (s : Chronicle) (c : Consumer Seat) (d : Deed) :
    s.broker.Done c.transport.member (Happening.outcome s.broker c d) d
      (s.after (.did c d)).broker := by
  obtain ⟨b', hs, hd⟩ := d.done c { broker := s.broker }
  have hb : (s.after (.did c d)).broker = b' := congrArg Cluster.broker hs
  rw [hb]
  exact hd

/-- No step makes a log go back. -/
theorem advances_after (s : Chronicle) (h : Happening) :
    s.broker.topics.Advances (s.after h).broker.topics := by
  cases h with
  | asked r => exact s.broker.advances_perform r
  | did c d => exact Broker.advances_done (s.done c d)

/-- No step takes a partition away. -/
theorem partitions_after (s : Chronicle) (h : Happening) :
    s.broker.topics.partitions.Sublist (s.after h).broker.topics.partitions := by
  cases h with
  | asked r => exact (s.broker.perform_grows r).1
  | did c d => exact Broker.partitions_done (s.done c d)

theorem patterns_after (s : Chronicle) (h : Happening) :
    (s.after h).broker.patterns = s.broker.patterns := by
  cases h with
  | asked r => exact (s.broker.perform_changed r).patterns_eq
  | did c d => exact Broker.patterns_done (s.done c d)

/-- Patterns are read throughout a run as they were at its beginning. -/
theorem patterns_run (hs : List Happening) (patterns : PatternReader) :
    (run hs patterns).broker.patterns = patterns := by
  induction hs using List.reverseRecOn with
  | nil => rfl
  | append_singleton hs h ih => rw [run_append_singleton, patterns_after, ih]

/-- No step makes a sound broker unsound. -/
theorem sound_after (hs : s.broker.Sound) (h : Happening) : (s.after h).broker.Sound := by
  cases h with
  | asked r => exact hs.perform r
  | did c d => exact hs.done (s.done c d)

/-- The broker of every run is sound. -/
theorem Reached.sound (h : Reached allowed s) : s.broker.Sound := by
  induction h with
  | start => exact Broker.sound_empty _
  | step _ _ ih => exact sound_after ih _

end Chronicle

end ConsumerGroup
