import ConsumerGroup.Coordinator

/-!
# Callbacks that edit

A callback given as a list of edits: each changes the list of partitions
the callback was given, or gives up. Only an assignment callback leaves
its list behind; in the others the edits act on a list of their own.
-/

namespace ConsumerGroup

/-- One thing a callback does. -/
inductive Edit where
  /-- Changes the offset of the first entry for a partition. -/
  | setOffset (p : Partition) (o : Offset)
  | setAll (o : Offset)
  | add (p : Partition)
  | remove (p : Partition)
  | clear
  | reverse
  /-- Gives up, with these words. -/
  | giveUp (text : String)
  deriving Repr

namespace Edit

/-- What one edit makes of a list. -/
def apply : Edit → PartitionList → Except String PartitionList
  | .setOffset p o, l => .ok (l.setOffset p o)
  | .setAll o, l => .ok (l.setAll o)
  | .add p, l => .ok (l.push { partition := p })
  | .remove p, l => .ok (l.remove p)
  | .clear, _ => .ok []
  | .reverse, l => .ok l.reverse
  | .giveUp text, _ => .error text

/-- What edits make of a list, one after the other. -/
def applyAll : List Edit → PartitionList → Except String PartitionList
  | [], l => .ok l
  | e :: rest, l =>
    match e.apply l with
    | .ok l => applyAll rest l
    | .error text => .error text

/-- The edits as a callback for assignments. -/
def onAssign (edits : List Edit) : AssignCallback := fun _ l => applyAll edits l

/-- The edits as a callback for revocations. -/
def onRevoke (edits : List Edit) : RevokeCallback := fun _ l => (applyAll edits l).map fun _ => ()

/-- The edits as a callback for troubles. -/
def onTrouble (edits : List Edit) : TroubleCallback := fun _ _ =>
  (applyAll edits []).map fun _ => ()

end Edit

end ConsumerGroup
