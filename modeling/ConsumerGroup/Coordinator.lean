import ConsumerGroup.Transport

/-!
# Coordinators

A coordinator stands between a group and a transport. It takes the
notifications that a poll brings, one at a time, calls the callback for
each and then has the transport do what the group decided.

An assignment callback may change the offsets of what is assigned but
not the partitions or their order; otherwise nothing is assigned. What is
revoked is given up in any case, also when the callback crashes.

A callback is a function of the list it is given and of the notifications
that callbacks of this coordinator were called for before, so it may
remember; whoever gives up ends the call.
-/

namespace ConsumerGroup

/-- What a callback for assignments does: the list it leaves, or the
words it gives up with. -/
abbrev AssignCallback := List Notification → PartitionList → Except String PartitionList

/-- What a callback for revocations does. -/
abbrev RevokeCallback := List Notification → PartitionList → Except String Unit

/-- What a callback for troubles of the group does. -/
abbrev TroubleCallback := List Notification → StatusCode → Except String Unit

/-- The callbacks that are set, and what callbacks have been called for,
latest first. -/
structure Coordinator where
  onAssign : Option AssignCallback := none
  onRevoke : Option RevokeCallback := none
  onTrouble : Option TroubleCallback := none
  calls : List Notification := []

namespace Coordinator

/-- The coordinator in words: which callbacks are set. -/
def describe (k : Coordinator) : String :=
  "RebalanceCoordinator \x7b assignment_callback: " ++ toString k.onAssign.isSome
    ++ ", revocation_callback: " ++ toString k.onRevoke.isSome
    ++ ", rebalance_error_callback: " ++ toString k.onTrouble.isSome ++ " \x7d"

variable {H W α : Type}

/-- Work on the transport beside a coordinator. -/
def onTransport (m : Act Entry (H × W) α) : Act Entry (Coordinator × H × W) α :=
  m.within (·.2) fun t s => (s.1, t)

def tell (e : DiaryEntry) : Act Entry (Coordinator × H × W) Unit := Act.note (.diary e)

/-- Calls a callback for a notification. One that gives up ends the
call. -/
def call (n : Notification) (f : List Notification → Except String α) :
    Act Entry (Coordinator × H × W) α := fun (k, t) =>
  let k' := { k with calls := n :: k.calls }
  match f k.calls with
  | .ok x => ⟨.ok x, (k', t), [.called n]⟩
  | .error text => ⟨.error (.crash (.callback text)), (k', t), [.called n]⟩

/-- A refusal of the transport is the notification's failure. -/
def applying (action : RebalanceAction) (m : Act Entry (H × W) α) :
    Act Entry (Coordinator × H × W) α :=
  onTransport (m.orElse fun f => Act.fail (.rebalance action f))

variable [Transport H W]

/-- The id of the member whose transport it is. -/
def memberId : Act Entry (Coordinator × H × W) String := do
  let (_, h, _) ← Act.get
  pure (Transport.memberId W h)

/-- What the assignment callback, if one is set, leaves of a list: the
same partitions in the same order, or nothing is to be assigned. -/
def prepared (delivered : PartitionList) : Act Entry (Coordinator × H × W) PartitionList := do
  let (k, _) ← Act.get
  match k.onAssign with
  | none => pure delivered
  | some f =>
    tell .assignmentCallback
    let left ← call (.assign delivered) (f · delivered)
    if left.SamePartitions delivered then pure left
    else
      tell (.assignmentRefused left)
      Act.fail (.partitionsChanged delivered left)

/-- Assigns what the group handed out. -/
def assign (partitions : PartitionList) : Act Entry (Coordinator × H × W) Unit := do
  tell (.partitionsAssigned (← memberId) partitions)
  let left ← prepared partitions
  applying .assign (Transport.askAssign left)

/-- Gives everything up. -/
def unassign : Act Entry (Coordinator × H × W) Unit :=
  applying .unassign Transport.askUnassign

/-- Gives everything up while a crash is being handled: a refusal is only
told. -/
def unassignAnyway : Act Entry (Coordinator × H × W) Unit :=
  unassign.orElse fun f => tell (.unassignFailed f)

/-- Calls the revocation callback, if one is set. -/
def announceRevoked (partitions : PartitionList) : Act Entry (Coordinator × H × W) Unit := do
  let (k, _) ← Act.get
  match k.onRevoke with
  | none => pure ()
  | some f =>
    tell .revocationCallback
    call (.revoke partitions) (f · partitions)

/-- Gives up what the group took away. -/
def revoke (partitions : PartitionList) : Act Entry (Coordinator × H × W) Unit := do
  tell (.partitionsRevoked (← memberId) partitions)
  match ← (announceRevoked partitions).attempt with
  | .ok () => unassign
  | .error fault =>
    unassignAnyway
    Act.throw fault

/-- Tells of a trouble of the group. -/
def trouble (code : StatusCode) : Act Entry (Coordinator × H × W) Unit := do
  tell (.rebalanceTrouble code)
  let (k, _) ← Act.get
  match k.onTrouble with
  | none => pure ()
  | some f =>
    tell .troubleCallback
    call (.trouble code) (f · code)

/-- Takes a notification. -/
def take (n : Notification) : Act Entry (Coordinator × H × W) Unit :=
  match n with
  | .assign partitions => assign partitions
  | .revoke partitions => revoke partitions
  | .trouble code => trouble code

end Coordinator

end ConsumerGroup
