import ConsumerGroup.Proofs.Broker.Queueing
import ConsumerGroup.Proofs.Group.Course

/-!
# The ledger of a member

A ledger is kept for one id along a run: which notifications were queued
for the member with that id so far, and which its polls have taken. In
every run it balances (`Ledger.balanced_run`): as long as the member is
there, what it has taken and then what waits for it is what was ever
queued for it, and whoever has left has taken a front part of that.

A step balances by itself: what it takes, and then what waits afterwards, is
what waited before and then what it queues. The balance of a run is the sum
of those of its steps, and that is the induction.
-/

namespace ConsumerGroup

namespace Happening

/-- What a step queues for the member with an id. What a consumer does
queues nothing, unless its own member leaves by it. -/
def queues (b : Broker) (id : String) : Happening → List Queued
  | .asked r => b.queues id r
  | .did c d =>
    match (broker b (.did c d)).member? c.transport.member with
    | some _ => []
    | none => b.queues id (.member c.transport.member .leave)

/-- What a step takes of what waits for the member with an id. -/
def takes (b : Broker) (id : String) : Happening → List Queued
  | .asked r => b.takesBy id r
  | .did c .look => b.takesBy id (.member c.transport.member .next)
  | .did _ _ => []

end Happening

namespace Broker

variable {b b' : Broker} {id id' : String} {m m' : Member}

/-- Whoever is not there has nobody rebalance by leaving. -/
theorem queues_leave_of_absent (h : ¬ b.Present id') : b.queues id (.member id' .leave) = [] :=
  queues_of_none nofun (groupOf_of_absent h)

/-- A look takes what waits first, or nothing if nothing waits. -/
theorem queue_of_looked {σ : Type} {o : Outcome Entry σ (Option Message)} (h : m.Looked b o m') :
    m'.queue = m.queue.tail := by
  cases h with
  | fetched hq => rw [Member.queue_fetch, hq, List.tail_nil]
  | assigned hq | refused hq | undone hq | revoked hq | passed hq => rw [hq, List.tail_cons]

/-- A look takes what a poll would, and leaves the rest waiting. -/
theorem queueOf_of_looked {σ : Type} {o : Outcome Entry σ (Option Message)}
    (h : b.Looked id' o b') :
    b.takesBy id (.member id' .next) ++ b'.queueOf id = b.queueOf id := by
  cases h with
  | gone hm =>
    rw [takesBy_of_absent (member?_eq_none_iff.mp hm)]
    rfl
  | changed hm hl =>
    exact queueOf_popped hm (hl.id_eq.trans (id_of_member? hm)) (queue_of_looked hl) id

/-- A look makes nobody come or go. -/
theorem present_of_looked {σ : Type} {o : Outcome Entry σ (Option Message)}
    (h : b.Looked id' o b') : b'.Present id ↔ b.Present id := by
  cases h with
  | gone => exact Iff.rfl
  | changed hm hl => exact present_modifyMember fun _ _ => hl.id_eq.trans (id_of_member? hm)

end Broker

namespace Happening

variable {b : Broker} {id : String}

/-- A consumer whose member stays, or was not there, queues nothing. -/
theorem queues_of_stays {c : Consumer Seat} {d : Deed}
    (h : (broker b (.did c d)).Present c.transport.member ↔ b.Present c.transport.member) :
    queues b id (.did c d) = [] := by
  show (match (broker b (.did c d)).member? c.transport.member with
    | some _ => []
    | none => b.queues id (.member c.transport.member .leave)) = []
  cases hm : (broker b (.did c d)).member? c.transport.member with
  | some m => rfl
  | none => exact Broker.queues_leave_of_absent (mt h.mpr (Broker.member?_eq_none_iff.mp hm))

/-- A deed that makes its member leave queues what leaving does. -/
theorem queues_of_left {c : Consumer Seat} {d : Deed}
    (h : broker b (.did c d) = (b.leave c.transport.member).broker) :
    queues b id (.did c d) = b.queues id (.member c.transport.member .leave) := by
  show (match (broker b (.did c d)).member? c.transport.member with
    | some _ => []
    | none => b.queues id (.member c.transport.member .leave)) = _
  rw [h, Broker.member?_leave]

/-- To leave balances for everybody else, and for whoever is not there. -/
theorem balances_leave {id' : String} (hp : (b.leave id').broker.Present id ∨ ¬ b.Present id) :
    (b.leave id').broker.queueOf id = b.queueOf id ++ b.queues id (.member id' .leave) := by
  by_cases he : id' = id
  · subst he
    have hgone : ¬ (b.leave id').broker.Present id' :=
      Broker.member?_eq_none_iff.mp (b.member?_leave id')
    have hn : ¬ b.Present id' := hp.resolve_left hgone
    rw [Broker.queues_leave_of_absent hn, Broker.queueOf_of_absent hn,
      Broker.queueOf_of_absent hgone]
    rfl
  · refine Broker.queueOf_perform (r := .member id' .leave) ?_
    rintro ⟨⟩
    exact he rfl

/-- A look balances: what it takes is what does not wait any more. -/
theorem balances_look (b : Broker) (id : String) (c : Consumer Seat) :
    takes b id (.did c .look) ++ (broker b (.did c .look)).queueOf id =
      b.queueOf id ++ queues b id (.did c .look) := by
  obtain ⟨b', hs, _, hl⟩ := Consumer.looked c { broker := b }
  have hb : broker b (.did c .look) = b' := congrArg Cluster.broker hs
  rw [queues_of_stays (by rw [hb]; exact Broker.present_of_looked hl), hb, List.append_nil]
  exact Broker.queueOf_of_looked hl

/-- What a consumer does other than to look takes nothing, and queues only
if its member leaves. -/
theorem balances_deed {c : Consumer Seat} {d : Deed} (hlook : d ≠ .look)
    (hp : (broker b (.did c d)).Present id ∨ ¬ b.Present id) :
    (broker b (.did c d)).queueOf id = b.queueOf id ++ queues b id (.did c d) := by
  have hquiet {r : Request} (hb : broker b (.did c d) = (b.perform r).broker)
      (hq : r.isQuiet = true) (hc : ∀ configuration, r ≠ .connect configuration)
      (hl : r ≠ .member c.transport.member .leave) :
      (broker b (.did c d)).queueOf id = b.queueOf id ++ queues b id (.did c d) := by
    have hchanged := b.perform_changed r
    rw [queues_of_stays (by rw [hb]; exact hchanged.present_iff hc hl), hb, hchanged.queueOf hq,
      List.append_nil]
  have hd : b.Done c.transport.member (outcome b c d) d (broker b (.did c d)) :=
    Chronicle.done { broker := b } c d
  generalize hb : broker b (.did c d) = b' at hd hp
  cases hd with
  | looked => exact absurd rfl hlook
  | committed =>
    rw [← hb]
    exact hquiet (r := .member c.transport.member (.commit _ _)) hb rfl nofun nofun
  | nothing => rw [queues_of_stays (by rw [hb]), List.append_nil]
  | left =>
    rw [queues_of_left hb]
    exact balances_leave hp
  | gaveUp =>
    rw [← hb]
    exact hquiet (r := .member c.transport.member .unassign) hb rfl nofun nofun

/-- What a step takes is what waits first. -/
theorem takes_prefix (e : Happening) (b : Broker) (id : String) : e.takes b id <+: b.queueOf id := by
  have hnext (id' : String) : b.takesBy id (.member id' .next) <+: b.queueOf id := by
    show (if id' = id then b.takes id else []) <+: _
    split
    · exact b.takes_prefix id
    · exact List.nil_prefix
  cases e with
  | asked r =>
    show b.takesBy id r <+: _
    unfold Broker.takesBy
    split
    · exact hnext _
    · exact List.nil_prefix
  | did c d =>
    cases d with
    | look => exact hnext _
    | _ => exact List.nil_prefix

/-- What a step takes from a member, and then what waits for it, is what
waited before, and then what the step queues; except that whoever leaves
takes along what waits. -/
theorem balances (e : Happening) (hp : (e.broker b).Present id ∨ ¬ b.Present id) :
    e.takes b id ++ (e.broker b).queueOf id = b.queueOf id ++ e.queues b id := by
  cases e with
  | asked r =>
    by_cases hr : r = .member id .leave
    · subst hr
      exact balances_leave hp
    · exact Broker.queueOf_perform hr
  | did c d =>
    cases d with
    | look => exact balances_look b id c
    | _ => exact balances_deed nofun hp

/-- The same of a member that is there after the step, and so before it. -/
theorem balances_member? {m' : Member} (hi : b.Issued id) (e : Happening)
    (hm' : (e.broker b).member? id = some m') :
    ∃ m, b.member? id = some m ∧ e.takes b id ++ m'.queue = m.queue ++ e.queues b id := by
  have hp' := Broker.present_of_member? hm'
  have hp : b.Present id := Chronicle.present_before (s := { broker := b }) (e := e) hi hp'
  obtain ⟨m, hm⟩ := Broker.present_iff.mp hp
  have hbalance := e.balances (.inl hp')
  rw [Broker.queueOf_of_member? hm, Broker.queueOf_of_member? hm'] at hbalance
  exact ⟨m, hm, hbalance⟩

end Happening

/-- A broker, with what was queued for a member so far and what its polls
have taken. -/
structure Ledger where
  broker : Broker := {}
  queued : List Queued := []
  taken : List Queued := []

namespace Ledger

variable {patterns : PatternReader} {id : String} {l : Ledger}

/-- The ledger after a step. -/
def after (id : String) (l : Ledger) (e : Happening) : Ledger where
  broker := e.broker l.broker
  queued := l.queued ++ e.queues l.broker id
  taken := l.taken ++ e.takes l.broker id

def run (id : String) (hs : List Happening) (patterns : PatternReader := Pattern.reader) : Ledger :=
  hs.foldl (after id) { broker := { patterns } }

theorem run_append_singleton (id : String) (hs : List Happening) (e : Happening) :
    run id (hs ++ [e]) patterns = (run id hs patterns).after id e := List.foldl_append

/-- The ledger follows the run. -/
@[simp] theorem broker_run (id : String) (hs : List Happening) :
    (run id hs patterns).broker = (Chronicle.run hs patterns).broker := by
  induction hs using List.reverseRecOn with
  | nil => rfl
  | append_singleton hs e ih =>
    rw [run_append_singleton, Chronicle.run_append_singleton]
    exact congrArg e.broker ih

/-- What was queued is never taken back. -/
theorem queued_append (id : String) (hs es : List Happening) :
    ∃ arrived, (run id (hs ++ es) patterns).queued = (run id hs patterns).queued ++ arrived := by
  induction es using List.reverseRecOn with
  | nil => exact ⟨[], by rw [List.append_nil, List.append_nil]⟩
  | append_singleton es e ih =>
    obtain ⟨arrived, harrived⟩ := ih
    refine ⟨arrived ++ e.queues (run id (hs ++ es) patterns).broker id, ?_⟩
    rw [← List.append_assoc, run_append_singleton, ← List.append_assoc, ← harrived]
    rfl

/-- What was taken is a front part of what was queued, and unless the member
has left, the rest of it still waits. -/
structure Balanced (id : String) (l : Ledger) : Prop where
  front : l.taken <+: l.queued
  balance : (l.broker.Issued id → l.broker.Present id) → l.taken ++ l.broker.queueOf id = l.queued

theorem balanced_empty (id : String) (patterns : PatternReader) :
    ({ broker := { patterns } } : Ledger).Balanced id where
  front := List.prefix_refl []
  balance _ := rfl

/-- Every step keeps the ledger balanced, since each balances by itself. -/
theorem Balanced.after (hs : l.broker.Sound) (h : l.Balanced id) (e : Happening) :
    (l.after id e).Balanced id := by
  have hissued : l.broker.Issued id → (l.after id e).broker.Issued id := fun hi =>
    Chronicle.issued_after (s := { broker := l.broker }) hi e
  by_cases hthere : l.broker.Issued id → l.broker.Present id
  · have hbalance := h.balance hthere
    refine ⟨?_, fun hthere' => ?_⟩
    · show l.taken ++ e.takes l.broker id <+: l.queued ++ e.queues l.broker id
      rw [← hbalance, List.append_assoc, List.prefix_append_right_inj]
      exact (e.takes_prefix l.broker id).trans (List.prefix_append _ _)
    · have hp : (e.broker l.broker).Present id ∨ ¬ l.broker.Present id := by
        by_cases hp : l.broker.Present id
        · exact .inl (hthere' (hissued (hs.issued hp)))
        · exact .inr hp
      show l.taken ++ e.takes l.broker id ++ (e.broker l.broker).queueOf id =
        l.queued ++ e.queues l.broker id
      rw [List.append_assoc, e.balances hp, ← List.append_assoc, hbalance]
  · -- Whoever has left takes nothing any more, and does not come back.
    obtain ⟨hi, hn⟩ := Classical.not_imp.mp hthere
    refine ⟨?_, fun hthere' => ?_⟩
    · have hnothing : e.takes l.broker id = [] := by
        have hfront := e.takes_prefix l.broker id
        rwa [Broker.queueOf_of_absent hn, List.prefix_nil] at hfront
      show l.taken ++ e.takes l.broker id <+: l.queued ++ e.queues l.broker id
      rw [hnothing, List.append_nil]
      exact h.front.trans (List.prefix_append _ _)
    · have hgone := Chronicle.absent_after (s := { broker := l.broker }) hi hn e
      exact absurd (hthere' (hissued hi)) hgone

/-- As long as the member is there, what it has taken and what waits for it
is what was ever queued. -/
theorem Balanced.taken_append_queue (h : l.Balanced id) {m : Member}
    (hm : l.broker.member? id = some m) : l.taken ++ m.queue = l.queued := by
  rw [← h.balance fun _ => Broker.present_of_member? hm, Broker.queueOf_of_member? hm]

/-- The ledger of every run balances. -/
theorem balanced_run (id : String) (hs : List Happening) (patterns : PatternReader) :
    (run id hs patterns).Balanced id := by
  induction hs using List.reverseRecOn with
  | nil => exact balanced_empty id patterns
  | append_singleton hs e ih =>
    rw [run_append_singleton]
    refine ih.after ?_ e
    rw [broker_run]
    exact (Chronicle.reached_run hs patterns).sound

end Ledger

end ConsumerGroup
