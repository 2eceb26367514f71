import ConsumerGroup.Proofs.Consumer.Attending
import ConsumerGroup.Proofs.Group.Ledger
import ConsumerGroup.Proofs.Group.Waking
import ConsumerGroup.Proofs.Tenure.Poll

/-!
# Notifications are delivered once, in order, and before data

A poll of a consumer goes on the run it begins in: by looks of the
consumer, and by what others do meanwhile (`Happening.PollOf`). The ledger
of its member goes on with it, and at the end of a poll that goes well
everything that was ever queued has been taken, each notification once and
in its order, by this poll or before it
(`Chronicle.delivered_inOrder`).

Requests of others at the same seat would take what is queued away from the
consumer, and are left out. Everything else may happen while it polls, also
that it is notified by hand.
-/

namespace ConsumerGroup

/-- What a queued notification is to a coordinator. -/
def Queued.notification (q : Queued) : Notification := .ofCode q.code q.partitions

/-- What gives or takes away partitions is told as nothing else is. -/
theorem Queued.eq_of_notification {q q' : Queued} (h : q.notification = q'.notification)
    (hcode : q'.code = .assignPartitions ∨ q'.code = .revokePartitions) : q = q' := by
  obtain ⟨code, l⟩ := q
  obtain ⟨code', l'⟩ := q'
  rw [Queued.mk.injEq]
  rcases hcode with rfl | rfl
  · exact Notification.ofCode_eq_assign_iff.mp h
  · exact Notification.ofCode_eq_revoke_iff.mp h

/-- So a row of such can be read off what its owner is told. -/
theorem Queued.eq_of_map_notification {l l' : List Queued}
    (h : l.map notification = l'.map notification)
    (hcodes : ∀ q ∈ l', q.code = .assignPartitions ∨ q.code = .revokePartitions) : l = l' := by
  induction l' generalizing l with
  | nil => exact List.map_eq_nil_iff.mp h
  | cons q' l' ih =>
    obtain ⟨q, rest, rfl, hq, hrest⟩ := List.map_eq_cons_iff.mp h
    rw [List.forall_mem_cons] at hcodes
    rw [eq_of_notification hq hcodes.1, ih hrest hcodes.2]

namespace Happening

/-- What somebody asks for, if that is the step. -/
def asked? : Happening → Option Request
  | .asked r => some r
  | .did _ _ => none

/-- A row of steps that a poll at a seat comes to: looks, and in between
the appointments that others keep. -/
structure PollOf (seat : Seat) (kept : List Appointment) (es : List Happening) : Prop where
  asked : es.filterMap asked? = kept.map (·.request)
  did : ∀ c d, .did c d ∈ es → c.transport = seat ∧ d = .look

variable {seat : Seat} {kept : List Appointment} {es : List Happening}

theorem PollOf.nil (seat : Seat) : PollOf seat [] [] where
  asked := rfl
  did := nofun

/-- The consumer looks once more. -/
theorem PollOf.look (h : PollOf seat kept es) {c : Consumer Seat} (hc : c.transport = seat) :
    PollOf seat kept (es ++ [.did c .look]) where
  asked := by
    rw [List.filterMap_append, h.asked]
    exact List.append_nil _
  did c' d hmem := by
    rcases List.mem_append.mp hmem with hmem | hmem
    · exact h.did c' d hmem
    · cases List.mem_singleton.mp hmem
      exact ⟨hc, rfl⟩

/-- One appointment more is kept. -/
theorem PollOf.keep (h : PollOf seat kept es) (a : Appointment) :
    PollOf seat (kept ++ [a]) (es ++ [.asked a.request]) where
  asked := by
    rw [List.filterMap_append, h.asked, List.map_append]
    rfl
  did c d hmem := by
    rcases List.mem_append.mp hmem with hmem | hmem
    · exact h.did c d hmem
    · cases List.mem_singleton.mp hmem

end Happening

/-- A step brings a message only when no notification waits. -/
theorem Happening.attended_of_brings {b : Broker} {e : Happening} {id : String} {x : Message}
    (h : e.brings b = some (id, x)) : b.Attended id := by
  unfold brings at h
  split at h
  · split at h
    · next hx =>
      cases h
      exact (Broker.attended_of_nextEvent (x := some x) hx).1
    · cases h
  · cases h
  · split at h
    · next hx =>
      cases h
      cases Deed.eq_look_of_brings hx
      obtain ⟨m, hm, hq, _⟩ := Consumer.brought_of_look _ { broker := b } hx
      exact ⟨m, hm, hq⟩
    · cases h

namespace Consumer

/-- A look hands over what it takes. -/
theorem taken_look_eq (c : Consumer Seat) (w : Cluster) :
    taken (look (c, w)).journal = (w.broker.takes c.transport.member).map Queued.notification := by
  rw [(taken_look c w).1]
  unfold first?
  cases hm : w.broker.member? c.transport.member with
  | none =>
    rw [Broker.takes_of_absent (Broker.member?_eq_none_iff.mp hm)]
    rfl
  | some m =>
    rw [Broker.takes_of_member? hm]
    show (m.queue.head?.map Queued.notification).toList = _
    cases m.queue <;> rfl

/-- A look changes nothing about the coordinator but that it remembers what
callbacks have been called for. -/
theorem keeps_coordinator_look {β : Type} {view : Coordinator → β}
    (hview : ∀ k calls, view { k with calls } = view k) :
    Act.Keeps (view ·.1.coordinator) (look : Act Entry (Consumer Seat × Cluster) (Option Message)) := by
  have happart : Coordinator.Apart (fun s : Coordinator × Seat × Cluster => view s.1) := {
    call := fun n f s => by
      unfold Coordinator.call
      dsimp only
      split <;> exact hview _ _
    assign := fun _ _ => rfl
    unassign := fun _ => rfl }
  refine Act.keeps_bind (fun _ => rfl) fun x => ?_
  match x with
  | none | some (.message _) => exact Act.keeps_pure _
  | some (.rebalance code partitions) =>
    refine Act.keeps_bind ?_ fun _ => Act.keeps_pure _
    exact Act.keeps_within (happart.take _) (fun _ => rfl) fun _ _ => rfl

/-- Callbacks stay set. -/
theorem keeps_hears_look :
    Act.Keeps (·.1.coordinator.hears) (look : Act Entry (Consumer Seat × Cluster) (Option Message)) :=
  keeps_coordinator_look fun _ _ => rfl

end Consumer

namespace Tenure

variable {patterns : PatternReader} {t u : Tenure} {agenda later : List Appointment}

/-- What the looks of a poll take, the ledger of the member has as taken. -/
theorem Polls.ledger {hs : List Happening} (ht : t.chronicle = Chronicle.run hs patterns)
    (hp : Polls t agenda u later) (hnext : ∀ a ∈ agenda, a.request ≠ .member t.id .next) :
    ∃ kept es, agenda = kept ++ later ∧ Happening.PollOf t.consumer.transport kept es ∧
      u.chronicle = Chronicle.run (hs ++ es) patterns ∧
      ∃ news, (Ledger.run t.id (hs ++ es) patterns).taken =
          (Ledger.run t.id hs patterns).taken ++ news ∧
        taken u.journal = taken t.journal ++ news.map Queued.notification := by
  induction hp with
  | refl =>
    refine ⟨[], [], rfl, .nil _, ?_, [], ?_, ?_⟩
    · rw [List.append_nil, ht]
    · rw [List.append_nil, List.append_nil]
    · rw [List.map_nil, List.append_nil]
  | @looked u later hp ih =>
    obtain ⟨kept, es, hagenda, hes, hu, news, hledger, hjournal⟩ := ih
    have hbroker : (Ledger.run t.id (hs ++ es) patterns).broker = u.broker := by
      rw [Ledger.broker_run, ← hu]
      rfl
    have htakes : (Happening.did u.consumer .look).takes u.broker t.id = u.broker.takes u.id :=
      (if_pos (congrArg Seat.member hp.transport)).trans
        (congrArg u.broker.takes (congrArg Seat.member hp.transport.symm))
    refine ⟨kept, es ++ [.did u.consumer .look], hagenda, hes.look hp.transport, ?_,
      news ++ u.broker.takes u.id, ?_, ?_⟩
    · rw [← List.append_assoc, Chronicle.run_append_singleton, ← hu]
      rfl
    · rw [← List.append_assoc, Ledger.run_append_singleton, ← List.append_assoc, ← hledger, ← htakes,
        ← hbroker]
      rfl
    · show taken (u.journal ++ (Consumer.look u.world).journal) = _
      rw [taken_append, hjournal, world, Consumer.taken_look_eq, List.map_append, List.append_assoc]
      rfl
  | @kept u a later hp ih =>
    obtain ⟨kept, es, hagenda, hes, hu, news, hledger, hjournal⟩ := ih
    have hnothing (b : Broker) : b.takesBy t.id a.request = [] :=
      Broker.takesBy_of_ne (hnext a (hp.later_subset List.mem_cons_self))
    refine ⟨kept ++ [a], es ++ [.asked a.request], ?_, hes.keep a, ?_, news, ?_, hjournal⟩
    · rw [hagenda, List.append_assoc]
      rfl
    · rw [← List.append_assoc, Chronicle.run_append_singleton, ← hu]
      rfl
    · rw [← List.append_assoc, Ledger.run_append_singleton]
      show (Ledger.run t.id (hs ++ es) patterns).taken ++ Broker.takesBy _ t.id a.request = _
      rw [hnothing, List.append_nil, hledger]

/-- Callbacks are called for what the looks of a poll take, where they are
set. -/
theorem Polls.calls (hp : Polls t agenda u later) :
    u.consumer.coordinator.hears = t.consumer.coordinator.hears ∧
      (called t.journal = (taken t.journal).filter t.consumer.coordinator.hears →
        called u.journal = (taken u.journal).filter t.consumer.coordinator.hears) := by
  induction hp with
  | refl => exact ⟨rfl, fun h => h⟩
  | kept _ ih => exact ih
  | @looked u later _ ih =>
    obtain ⟨hhears, hcalls⟩ := ih
    refine ⟨(Consumer.keeps_hears_look u.world).trans hhears, fun h => ?_⟩
    show called (u.journal ++ (u.outcome .look).journal) =
      (taken (u.journal ++ (u.outcome .look).journal)).filter _
    have hlook := Deed.called_act u.consumer { broker := u.broker } .look
    rw [hhears] at hlook
    rw [called_append, taken_append, List.filter_append, hcalls h]
    exact congrArg _ hlook

end Tenure

/-- A poll calls callbacks for what it takes, where they are set. -/
theorem Consumer.called_pollUntil (deadline : Nat) (x : Consumer Seat × Cluster) :
    called (pollUntil deadline x).journal =
      (taken (pollUntil deadline x).journal).filter x.1.coordinator.hears := by
  let t : Tenure := { consumer := x.1, chronicle := { broker := x.2.broker } }
  obtain ⟨u, hu, _⟩ := Tenure.pollsTo_pollUntil deadline x t ⟨rfl, rfl⟩
  -- The tenure begins with the poll, so it tells of nothing else.
  have htaken : taken u.journal = taken (pollUntil deadline x).journal := hu.takes
  have hcalled : called u.journal = called (pollUntil deadline x).journal := hu.calls
  rw [← htaken, ← hcalled]
  exact hu.polls.calls.2 rfl

namespace Chronicle

variable {patterns : PatternReader}

/-- At the end of a poll that goes well everything that was ever queued has
been taken: what was taken before, and then what the poll tells of. -/
theorem delivered_polled (hs : List Happening) {c : Consumer Seat} {w : Cluster} {timeout : Nat}
    {x : Message} (hw : w.broker = (run hs patterns).broker)
    (hnext : ∀ a ∈ w.agenda, a.request ≠ .member c.transport.member .next)
    {o : Outcome Entry (Consumer Seat × Cluster) Message}
    (ho : Consumer.pollFor timeout (c, w) = o) (hx : o.result = .ok x) :
    o.state.2.broker.Attended c.transport.member ∧
      ∃ kept es, w.agenda = kept ++ o.state.2.agenda ∧ Happening.PollOf c.transport kept es ∧
        (run (hs ++ es) patterns).broker = o.state.2.broker ∧
        (Ledger.run c.transport.member (hs ++ es) patterns).taken =
          (Ledger.run c.transport.member (hs ++ es) patterns).queued ∧
        (Ledger.run c.transport.member hs patterns).taken.map Queued.notification ++
            taken o.journal =
          (Ledger.run c.transport.member (hs ++ es) patterns).queued.map Queued.notification ∧
        called o.journal = (taken o.journal).filter c.coordinator.hears := by
  subst ho
  have hreached := reached_run hs patterns
  let t : Tenure := { consumer := c, chronicle := run hs patterns }
  obtain ⟨u, hu, _⟩ := Tenure.pollsTo_pollUntil (w.now + timeout) (c, w) t ⟨rfl, hw.symm⟩
  change t.PollsTo w.agenda (Consumer.pollFor timeout (c, w)).state
    (Consumer.pollFor timeout (c, w)).journal u at hu
  have hattended : (Consumer.pollFor timeout (c, w)).state.2.broker.Attended c.transport.member :=
    Consumer.attended_pollUntil _ (c, w) (by rw [hw]; exact ⟨hreached.sound, hreached.grounded⟩) hx
  have hcalled : called (Consumer.pollFor timeout (c, w)).journal =
      (taken (Consumer.pollFor timeout (c, w)).journal).filter c.coordinator.hears :=
    Consumer.called_pollUntil _ (c, w)
  generalize Consumer.pollFor timeout (c, w) = o at hu hattended hcalled
  obtain ⟨kept, es, hagenda, hes, hrun, news, hledger, hnews⟩ := hu.polls.ledger rfl hnext
  change (Ledger.run c.transport.member (hs ++ es) patterns).taken =
    (Ledger.run c.transport.member hs patterns).taken ++ news at hledger
  have hbroker : (run (hs ++ es) patterns).broker = o.state.2.broker := by
    rw [← hrun]
    exact hu.stands.2
  have hall : (Ledger.run c.transport.member (hs ++ es) patterns).taken =
      (Ledger.run c.transport.member (hs ++ es) patterns).queued := by
    obtain ⟨m, hm, hq⟩ := hattended
    have hm' : (Ledger.run c.transport.member (hs ++ es) patterns).broker.member?
        c.transport.member = some m := by rwa [Ledger.broker_run, hbroker]
    rw [← (Ledger.balanced_run _ _ _).taken_append_queue hm', hq, List.append_nil]
  -- The tenure begins with the poll, so it tells of nothing else.
  have htaken : taken u.journal = taken o.journal := hu.takes
  refine ⟨hattended, kept, es, hagenda, hes, hbroker, hall, ?_, hcalled⟩
  rw [← hall, hledger, List.map_append, ← htaken]
  exact congrArg _ hnews

/-- Notifications are delivered exactly once, in their order, and before
data. In every run, what a member's polls have taken so far and then what
waits for it is what was ever queued for it, and whoever has left has taken
a front part of that. A message is brought to a member only when no
notification waits for it, by a step of the run or to somebody who waits.
And each poll of a consumer, whatever its timeout, that ends well ends when
nothing waits for its member: the run has gone on by looks of the consumer
and by the appointments that were kept meanwhile, and what was taken before
the poll and then what went through the coordinator in it is what was ever
queued, with callbacks called where they are set. (Nobody else uses the
transport that the consumer owns.) -/
theorem delivered_inOrder (hs : List Happening) (id : String) (patterns : PatternReader) :
    ((∀ m, (run hs patterns).broker.member? id = some m →
        (Ledger.run id hs patterns).taken ++ m.queue = (Ledger.run id hs patterns).queued) ∧
      (Ledger.run id hs patterns).taken <+: (Ledger.run id hs patterns).queued) ∧
    ((∀ e x, Happening.brings (run hs patterns).broker e = some (id, x) →
        (run hs patterns).broker.Attended id) ∧
      ∀ (w : Cluster) deadline x, w.broker = (run hs patterns).broker →
        (w.await id deadline).result = .ok (some (.message x)) →
          (w.await id deadline).state.broker.Attended id) ∧
    ∀ (c : Consumer Seat) (w : Cluster) timeout x, c.transport.member = id →
      w.broker = (run hs patterns).broker → (∀ a ∈ w.agenda, a.request ≠ .member id .next) →
      let o := Consumer.pollFor timeout (c, w)
      o.result = .ok x →
        o.state.2.broker.Attended id ∧
        ∃ kept es, w.agenda = kept ++ o.state.2.agenda ∧ Happening.PollOf c.transport kept es ∧
          (run (hs ++ es) patterns).broker = o.state.2.broker ∧
          (Ledger.run id (hs ++ es) patterns).taken = (Ledger.run id (hs ++ es) patterns).queued ∧
          (Ledger.run id hs patterns).taken.map Queued.notification ++ taken o.journal =
            (Ledger.run id (hs ++ es) patterns).queued.map Queued.notification ∧
          called o.journal = (taken o.journal).filter c.coordinator.hears := by
  have hbalanced := Ledger.balanced_run id hs patterns
  have hreached := reached_run hs patterns
  refine ⟨⟨fun m hm => hbalanced.taken_append_queue ?_, hbalanced.front⟩,
    ⟨fun _ _ => Happening.attended_of_brings, ?_⟩, ?_⟩
  · rwa [Ledger.broker_run]
  · intro w deadline x hw hx
    exact Cluster.attended_await (x := some x) (hw ▸ hreached.sound) (hw ▸ hreached.grounded) hx
  · rintro c w timeout x rfl hw hnext o hx
    exact delivered_polled hs hw hnext rfl hx

/-- The only member of a group, with its share not yet taken, is told of a
trouble while it polls; a record would come too late. -/
def troubledMeanwhile : Cluster where
  broker := (run (joinedLater.take 3)).broker
  agenda := [⟨3, .notify "kafka_group-1" .rebalanceInProgress []⟩, ⟨7, .produce ⟨"t", 0⟩ none []⟩]

/-- A poll that brings nothing has taken the share and the trouble. -/
theorem delivered_inOrder_troubledMeanwhile :
    let c : Consumer Seat := { transport := ⟨"kafka_group-1", "g"⟩ }
    let o := Consumer.pollFor 5 (c, troubledMeanwhile)
    o.result = .ok .empty ∧ o.state.2.broker.Attended "kafka_group-1" ∧
      ∃ kept es, troubledMeanwhile.agenda = kept ++ o.state.2.agenda ∧
        Happening.PollOf c.transport kept es ∧
        taken o.journal = (Ledger.run "kafka_group-1" (joinedLater.take 3 ++ es)).queued.map
          Queued.notification := by
  intro c o
  have hempty : o.result = .ok .empty := by
    show (Consumer.pollUntil 5 (c, troubledMeanwhile)).result = _
    rw [Consumer.pollUntil_of_took .assignPartitions
        [⟨⟨"t", 0⟩, .invalid⟩, ⟨⟨"t", 1⟩, .invalid⟩, ⟨⟨"t", 2⟩, .invalid⟩]
        (by decide +kernel) (by decide +kernel),
      Consumer.pollUntil_of_took .rebalanceInProgress [] (by decide +kernel) (by decide +kernel),
      Consumer.pollUntil_of_none (by decide +kernel)]
    rfl
  obtain ⟨_, _, hpolls⟩ := delivered_inOrder (joinedLater.take 3) "kafka_group-1" Pattern.reader
  obtain ⟨hattended, kept, es, hagenda, hes, _, _, htaken, _⟩ :=
    hpolls c troubledMeanwhile 5 .empty rfl rfl (by simp [troubledMeanwhile]) hempty
  refine ⟨hempty, hattended, kept, es, hagenda, hes, ?_⟩
  have hnone : (Ledger.run "kafka_group-1" (joinedLater.take 3)).taken = [] := by decide +kernel
  rwa [hnone] at htaken

end Chronicle

end ConsumerGroup
