import ConsumerGroup.Proofs.Consumer.Failing
import ConsumerGroup.Proofs.Group.Handover
import ConsumerGroup.Proofs.Group.Ledger

/-!
# What a group sends can be applied

As long as nobody sends notifications by hand, everything that waits was
queued by a rebalance, so it is a revocation, or a share of partitions
that are there, each once (`Broker.Plain`). Partitions stay once they are
there. So a share can be assigned however long it has waited, wherever in
their logs its partitions are to be read from
(`Chronicle.assign_of_polled`), and a consumer that fails when it looks has
its own callback to blame, or its member has left
(`Consumer.excused_of_look`).

Notifications by hand are the one thing that is left out: they can name what
is not there, and no poll can make sense of that. What a callback does to
offsets is not left out.
-/

namespace ConsumerGroup

/-- A notification is sent by hand. -/
def Request.byHand : Request → Bool
  | .notify .. => true
  | _ => false

/-- The step is that somebody sends a notification by hand. -/
def Happening.byHand : Happening → Bool
  | .asked r => r.byHand
  | .did .. => false

namespace Broker

variable {b b' : Broker} {id : String} {l : PartitionList}

/-- Whatever waits, for whichever member, waits as a rebalance queues it. -/
def Plain (b : Broker) : Prop := ∀ m ∈ b.members, ∀ q ∈ m.queue, q.Plain b.topics.partitions

theorem plain_empty (patterns : PatternReader) : ({ patterns } : Broker).Plain :=
  fun _ hm => absurd hm List.not_mem_nil

/-- Requests queue nothing but what rebalances do, unless it is by hand. -/
theorem Plain.perform (hs : b.Sound) (h : b.Plain) {r : Request} (hr : r.byHand = false) :
    (b.perform r).broker.Plain := by
  intro m' hm'
  rcases (b.perform_changed r).members hs hm' with ⟨m, hm, hasked⟩ | ⟨_, _, rfl⟩
  · have hplain : ∀ q ∈ m.queue, q.Plain (b.perform r).broker.topics.partitions := fun q hq =>
      (h m hm q hq).mono (b.perform_grows r).1
    cases hasked with
    | dealt hd => exact hd.plain hplain
    | notified => cases hr
    | assigned | unassigned => exact hplain
    | looked =>
      intro q hq
      rw [Member.queue_next] at hq
      exact hplain q (List.mem_of_mem_tail hq)
  · exact fun _ hq => absurd hq List.not_mem_nil

/-- Nor do consumers. -/
theorem Plain.done {o : Outcome Entry (Consumer Seat × Cluster) (Option Message)} {d : Deed}
    (hs : b.Sound) (h : b.Plain) (hd : b.Done id o d b') : b'.Plain := by
  refine hd.holds h (fun m m' _ hm hl => ?_) fun r _ => h.perform hs (r := .member id r) rfl
  intro m₁ hm₁ q hq
  obtain ⟨m₀, hm₀, rfl⟩ := List.mem_map.mp hm₁
  split at hq
  · rw [queue_of_looked hl] at hq
    exact h m (List.mem_of_find?_eq_some hm) q (List.mem_of_mem_tail hq)
  · exact h m₀ hm₀ q hq

/-- Whoever is there can be assigned what is there, each partition once and
wherever it is to be read from. -/
theorem assign_ok (hp : b.Present id) (hl : l.partitions.Sublist b.topics.partitions) :
    (b.assign id l).result = .ok () := by
  obtain ⟨m, hm⟩ := present_iff.mp hp
  obtain ⟨hnodup, slots, hslots⟩ := assignable m hl
  simp only [assign, if_neg hnodup, hm, hslots]

/-- Whoever is there can give up what it reads. -/
theorem unassign_ok (hp : b.Present id) : (b.unassign id).result = .ok () := by
  obtain ⟨m, hm⟩ := present_iff.mp hp
  simp only [unassign, hm]

end Broker

namespace Chronicle

variable {patterns : PatternReader} {s : Chronicle} {hs : List Happening}

/-- What waits stays plain as long as nobody notifies by hand. -/
theorem plain_after (hs : s.broker.Sound) (h : s.broker.Plain) {e : Happening}
    (he : e.byHand = false) : (s.after e).broker.Plain := by
  cases e with
  | asked r => exact h.perform hs he
  | did c d => exact h.done hs (s.done c d)

/-- So it is plain in every run without such notifications. -/
theorem plain_run (hn : ∀ e ∈ hs, e.byHand = false) : (run hs patterns).broker.Plain := by
  induction hs using List.reverseRecOn with
  | nil => exact Broker.plain_empty patterns
  | append_singleton hs e ih =>
    rw [run_append_singleton]
    have hbefore := ih fun e he => hn e (List.mem_append_left _ he)
    exact plain_after (reached_run hs patterns).sound hbefore
      (hn e (List.mem_append_right _ List.mem_cons_self))

/-- Partitions stay in a run once they are there. -/
theorem partitions_run_append (hs es : List Happening) :
    (run hs patterns).broker.topics.partitions.Sublist
      (run (hs ++ es) patterns).broker.topics.partitions := by
  induction es using List.reverseRecOn with
  | nil => rw [List.append_nil]
  | append_singleton es e ih =>
    rw [← List.append_assoc, run_append_singleton]
    exact ih.trans (partitions_after _ e)

/-- What is polled was queued by a rebalance. -/
theorem plain_of_polled (hn : ∀ e ∈ hs, e.byHand = false) {id : String} {code : StatusCode}
    {l : PartitionList}
    (h : ((run hs patterns).broker.nextEvent id).result = .ok (some (.rebalance code l))) :
    Queued.Plain (run hs patterns).broker.topics.partitions ⟨code, l⟩ := by
  obtain ⟨m, rest, hm, hq⟩ := Broker.queued_of_nextEvent h
  refine plain_run hn m (List.mem_of_find?_eq_some hm) _ ?_
  rw [hq]
  exact List.mem_cons_self

/-- A share that was polled can be assigned whatever has happened since, as
long as the member is there, and wherever its partitions are to be read
from. -/
theorem assign_of_polled (hn : ∀ e ∈ hs, e.byHand = false) {id : String} {l : PartitionList}
    (h : ((run hs patterns).broker.nextEvent id).result = .ok (some (.rebalance .assignPartitions l)))
    {es : List Happening} (hp : (run (hs ++ es) patterns).broker.Present id) {left : PartitionList}
    (hl : left.SamePartitions l) :
    ((run (hs ++ es) patterns).broker.assign id left).result = .ok () := by
  refine Broker.assign_ok hp ?_
  rcases plain_of_polled hn h with ⟨_, hshare⟩ | hc
  · rw [hl]
    exact hshare.trans (partitions_run_append hs es)
  · exact absurd hc.symm StatusCode.revokePartitions_ne_assignPartitions

end Chronicle

/-! ## Looks that fail -/

/-- Why a consumer may fail: its own callback has left other partitions than
it was given, or its member is not there any more. -/
inductive Consumer.Excused (c c' : Consumer Seat) (b : Broker) : Failure → Prop
  | changed {delivered left : PartitionList}
      (h : c.coordinator.Changed c'.coordinator delivered left) :
      Excused c c' b (.partitionsChanged delivered left)
  | gone (h : ¬ b.Present c.transport.member) : Excused c c' b (.ofCode .destroyed)

namespace Consumer

variable {c c₁ c₂ c' : Consumer Seat} {b b' : Broker} {w : Cluster} {f : Failure}

/-- An excuse is up to the seat and the callback for shares. -/
theorem Excused.congr (h : c₁.Excused c' b f) (ht : c₁.transport = c₂.transport)
    (hset : c₁.coordinator.onAssign = c₂.coordinator.onAssign) : c₂.Excused c' b f := by
  cases h with
  | changed h => exact .changed (h.congr hset)
  | gone h => exact .gone (ht ▸ h)

/-- What the group decided being refused is no excuse. -/
theorem Excused.ne_rebalance (h : c.Excused c' b f) (action : RebalanceAction) (source : Failure) :
    f ≠ .rebalance action source := by
  cases h <;> nofun

/-- While everything waits as a rebalance queues it, a look fails for no
other reason. -/
theorem excused_of_look (hp : w.broker.Plain)
    (h : (look (c, w)).result = .error (.failure f)) :
    c.Excused (look (c, w)).state.1 (look (c, w)).state.2.broker f := by
  cases hm : w.broker.member? c.transport.member with
  | none =>
    rw [look_of_gone c w hm] at h ⊢
    cases h
    exact .gone (Broker.member?_eq_none_iff.mp hm)
  | some m =>
    cases hq : m.queue with
    | nil =>
      rw [look_of_nil c w hm hq rfl] at h
      cases h
    | cons q rest =>
      have hplain : q.Plain w.broker.topics.partitions :=
        hp m (List.mem_of_find?_eq_some hm) q (hq ▸ List.mem_cons_self)
      have hmid : m.id = c.transport.member := Broker.id_of_member? hm
      have hid : ∀ m' : Member, m'.id = c.transport.member →
          ({ m with queue := rest } : Member).id = c.transport.member := fun _ _ => hmid
      have hpresent : (popped w c.transport.member m rest).broker.Present c.transport.member :=
        (Broker.present_modifyMember hid).mpr (Broker.present_of_member? hm)
      rw [look_of_cons c w hm hq rfl, handle_rebalance c _ rfl] at h ⊢
      cases Coordinator.fails_of_take (Except.eq_error_of_map h) with
      | changed _ hchanged => exact .changed hchanged
      | @assign _ left source hn hl hrefused =>
        obtain ⟨hc, rfl⟩ := Notification.ofCode_eq_assign_iff.mp hn
        have hshare := (hplain.resolve_right fun hr =>
          StatusCode.revokePartitions_ne_assignPartitions (hr.symm.trans hc)).2
        have hok := Broker.assign_ok hpresent (l := left) (hl ▸ hshare)
        cases (congrArg (Except.mapError Fault.failure) hok).symm.trans hrefused
      | unassign _ hrefused =>
        have hok := Broker.unassign_ok hpresent
        cases (congrArg (Except.mapError Fault.failure) hok).symm.trans hrefused

end Consumer

end ConsumerGroup
