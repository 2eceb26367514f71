import ConsumerGroup.Coordinator

/-!
# A coordinator brings nothing new

Whatever its callbacks do, a coordinator asks a transport for nothing but
to assign and to unassign. So what calls and these two requests leave
alone, taking a notification leaves alone (`Coordinator.Apart.take`), and
the backlog of the transport is left alone by them.
-/

namespace ConsumerGroup.Coordinator

variable {H W α γ : Type} [Transport H W]

/-- What no call of a callback changes, nor to assign or to unassign. -/
structure Apart (part : Coordinator × H × W → γ) : Prop where
  call : ∀ {α : Type} n (f : List Notification → Except String α),
    Act.Keeps part (call n f : Act Entry (Coordinator × H × W) α)
  assign : ∀ l, Act.Keeps part
    (applying .assign (Transport.askAssign l) : Act Entry (Coordinator × H × W) Unit)
  unassign : Act.Keeps part (unassign : Act Entry (Coordinator × H × W) Unit)

namespace Apart

variable {part : Coordinator × H × W → γ}

theorem keeps_memberId : Act.Keeps part (memberId : Act Entry (Coordinator × H × W) String) :=
  Act.keeps_bind Act.keeps_get fun _ => Act.keeps_pure _

theorem unassignAnyway (h : Apart part) :
    Act.Keeps part (unassignAnyway : Act Entry (Coordinator × H × W) Unit) :=
  Act.keeps_orElse h.unassign fun _ => Act.keeps_note _

theorem prepared (h : Apart part) (delivered : PartitionList) :
    Act.Keeps part (prepared delivered : Act Entry (Coordinator × H × W) PartitionList) := by
  refine Act.keeps_bind Act.keeps_get fun (k, _) => ?_
  dsimp only
  split
  · exact Act.keeps_pure _
  · refine Act.keeps_bind (Act.keeps_note _) fun _ => Act.keeps_bind (h.call _ _) fun left => ?_
    split
    · exact Act.keeps_pure _
    · exact Act.keeps_bind (Act.keeps_note _) fun _ => Act.keeps_fail _

theorem announceRevoked (h : Apart part) (partitions : PartitionList) :
    Act.Keeps part (announceRevoked partitions : Act Entry (Coordinator × H × W) Unit) := by
  refine Act.keeps_bind Act.keeps_get fun (k, _) => ?_
  dsimp only
  split
  · exact Act.keeps_pure _
  · exact Act.keeps_bind (Act.keeps_note _) fun _ => h.call _ _

/-- Taking a notification leaves it alone. -/
theorem take (h : Apart part) (n : Notification) :
    Act.Keeps part (take n : Act Entry (Coordinator × H × W) Unit) := by
  cases n with
  | assign partitions =>
    refine Act.keeps_bind keeps_memberId fun _ => Act.keeps_bind (Act.keeps_note _) fun _ => ?_
    exact Act.keeps_bind (h.prepared _) fun _ => h.assign _
  | revoke partitions =>
    refine Act.keeps_bind keeps_memberId fun _ => Act.keeps_bind (Act.keeps_note _) fun _ => ?_
    refine Act.keeps_bind (Act.keeps_attempt (h.announceRevoked _)) fun r => ?_
    cases r with
    | ok _ => exact h.unassign
    | error _ => exact Act.keeps_bind h.unassignAnyway fun _ => Act.keeps_throw _
  | trouble code =>
    refine Act.keeps_bind (Act.keeps_note _) fun _ => Act.keeps_bind Act.keeps_get fun (k, _) => ?_
    dsimp only
    split
    · exact Act.keeps_pure _
    · exact Act.keeps_bind (Act.keeps_note _) fun _ => h.call _ _

end Apart

variable [RunsDry H W]

/-- The backlog of the transport beside a coordinator. -/
def backlog (s : Coordinator × H × W) : Backlog := RunsDry.backlog s.2

theorem keeps_applying {action : RebalanceAction} {a : Ask} {m : Act DiaryEntry (H × W) α}
    (hm : Act.Keeps RunsDry.backlog m) :
    Act.Keeps backlog (applying action (Transport.ask a m)) := by
  refine Act.keeps_within ?_ (fun _ => rfl) fun _ _ => rfl
  refine Act.keeps_orElse ?_ fun _ => Act.keeps_fail _
  exact Act.keeps_bind (Act.keeps_note _) fun _ => Act.keeps_telling _ hm

theorem apart_backlog : Apart (backlog : Coordinator × H × W → Backlog) where
  call n f s := by
    unfold call
    dsimp only
    split <;> rfl
  assign l := keeps_applying (RunsDry.backlog_assign l)
  unassign := keeps_applying RunsDry.backlog_unassign

/-- Taking a notification leaves the backlog alone. -/
theorem keeps_take (n : Notification) :
    Act.Keeps backlog (take n : Act Entry (Coordinator × H × W) Unit) := apart_backlog.take n

end ConsumerGroup.Coordinator
