import ConsumerGroup.Transport.Client
import ConsumerGroup.Transport.Script
import ConsumerGroup.Transport.Seat.Dry

/-!
# Links

A link is a transport of any of the kinds there are. It does what the
transport does that it holds.
-/

namespace ConsumerGroup

/-- A transport of some kind. -/
inductive Link where
  | seat (s : Seat)
  | script (s : Script)
  | client (c : Client)

namespace Link

/-- The transport written back into its link. -/
def onto {H α : Type} (wrap : H → Link) (o : Outcome DiaryEntry (H × Cluster) α) :
    Outcome DiaryEntry (Link × Cluster) α :=
  ⟨o.result, (wrap o.state.1, o.state.2), o.journal⟩

/-- Does what the transport of a link does. -/
def act {α : Type} (f : {H : Type} → [Transport H Cluster] → Act DiaryEntry (H × Cluster) α) :
    Act DiaryEntry (Link × Cluster) α
  | (.seat s, w) => onto .seat (f (s, w))
  | (.script s, w) => onto .script (f (s, w))
  | (.client c, w) => onto .client (f (c, w))

instance : Transport Link Cluster where
  poll timeout := act (Transport.poll timeout)
  subscribe topics := act (Transport.subscribe topics)
  unsubscribe := act Transport.unsubscribe
  assign partitions := act (Transport.assign partitions)
  unassign := act Transport.unassign
  commit offsets asynchronous := act (Transport.commit offsets asynchronous)
  watermarks p := act (Transport.watermarks p)
  committed partitions := act (Transport.committed partitions)
  positions partitions := act (Transport.positions partitions)
  assignment := act Transport.assignment
  subscription := act Transport.subscription
  close := act Transport.close
  release := act Transport.release
  memberId
    | .seat s => Transport.memberId Cluster s
    | .script s => Transport.memberId Cluster s
    | .client c => Transport.memberId Cluster c

instance : RunsDry Link Cluster where
  backlog
    | (.seat s, w) => RunsDry.backlog (s, w)
    | (.script s, w) => RunsDry.backlog (s, w)
    | (.client c, w) => RunsDry.backlog (c, w)
  less_of_poll {_ s _ _} h := by
    rcases s with ⟨_ | _ | _, w⟩
    · exact RunsDry.less_of_poll (H := Seat) h
    · exact RunsDry.less_of_poll (H := Script) h
    · exact RunsDry.less_of_poll (H := Client) h
  backlog_assign partitions s := by
    rcases s with ⟨s | s | s, w⟩
    · exact RunsDry.backlog_assign partitions (s, w)
    · exact RunsDry.backlog_assign partitions (s, w)
    · exact RunsDry.backlog_assign partitions (s, w)
  backlog_unassign s := by
    rcases s with ⟨s | s | s, w⟩
    · exact RunsDry.backlog_unassign (s, w)
    · exact RunsDry.backlog_unassign (s, w)
    · exact RunsDry.backlog_unassign (s, w)

end Link

end ConsumerGroup
