import ConsumerGroup.Proofs.Consumer.Alike
import ConsumerGroup.Proofs.Tenure.Run
import ConsumerGroup.Transport.Seat.Dry

/-!
# A whole poll

A poll that waits until a deadline looks, sleeps while others keep their
appointments, looks again when it is woken, and takes what notifications
come, until there is a message or the time is over. Whatever it comes to,
single steps come to the same, and tell of the same notifications and
callbacks: the consumer's looks, in between the appointments of others in
their order (`Tenure.pollsTo_pollUntil`).

So what holds in every tenure of single steps, or in every run of them,
holds before and after every poll, and at every moment in between
(`Tenure.Reached.polled`, `Chronicle.Reached.polled`).

The row of steps is built along the poll, by its own induction. It is not
the only row that comes to the same; but it tells of the same notifications
in the same order, and keeps the same appointments.
-/

namespace ConsumerGroup

namespace Tenure

/-- While the consumer polls, it looks, and what is on the agenda is asked
for in its order. -/
inductive Polls (t : Tenure) (agenda : List Appointment) : Tenure → List Appointment → Prop
  | refl : Polls t agenda t agenda
  | looked {u : Tenure} {later : List Appointment} (h : Polls t agenda u later) :
      Polls t agenda (u.after (.did .look)) later
  | kept {u : Tenure} {a : Appointment} {later : List Appointment}
      (h : Polls t agenda u (a :: later)) :
      Polls t agenda (u.after (.beside (.asked a.request))) later

/-- The tenure is where a consumer and a cluster are. -/
def At (t : Tenure) (x : Consumer Seat × Cluster) : Prop :=
  t.consumer = x.1 ∧ t.broker = x.2.broker

/-- Polling leads from one tenure to another that is where a consumer and a
cluster are, and tells of the notifications and callbacks of a journal. -/
structure PollsTo (t : Tenure) (agenda : List Appointment) (x : Consumer Seat × Cluster)
    (journal : List Entry) (u : Tenure) : Prop where
  polls : Polls t agenda u x.2.agenda
  stands : u.At x
  takes : taken u.journal = taken t.journal ++ taken journal
  calls : called u.journal = called t.journal ++ called journal

variable {t u v : Tenure} {agenda later latest : List Appointment} {j k : List Entry}
  {x y : Consumer Seat × Cluster}

/-- A poll that goes on is one poll. -/
theorem Polls.trans (h : Polls t agenda u later) (h' : Polls u later v latest) :
    Polls t agenda v latest := by
  induction h' with
  | refl => exact h
  | looked _ ih => exact .looked ih
  | kept _ ih => exact .kept ih

/-- A poll makes no appointments. -/
theorem Polls.later_subset (h : Polls t agenda u later) : later ⊆ agenda := by
  induction h with
  | refl => exact List.Subset.refl _
  | looked _ ih => exact ih
  | kept _ ih => exact List.Subset.trans (List.subset_cons_self _ _) ih

/-- A tenure goes on through a poll as long as the looks and the
appointments are allowed in it. -/
theorem Reached.polls {allowed : Tenure → Step → Prop} (h : Reached allowed t)
    (hp : Polls t agenda u later) (hlook : ∀ t, Reached allowed t → allowed t (.did .look))
    (hkept : ∀ t, Reached allowed t → ∀ a ∈ agenda, allowed t (.beside (.asked a.request))) :
    Reached allowed u := by
  induction hp with
  | refl => exact h
  | looked _ ih => exact .step ih (hlook _ ih)
  | kept hp ih => exact .step ih (hkept _ ih _ (hp.later_subset List.mem_cons_self))

theorem PollsTo.refl (h : t.At x) : PollsTo t x.2.agenda x [] t where
  polls := .refl
  stands := h
  takes := (List.append_nil _).symm
  calls := (List.append_nil _).symm

/-- A poll that goes on has come where both have. -/
theorem PollsTo.trans (h : PollsTo t agenda x j u) (h' : PollsTo u x.2.agenda y k v) :
    PollsTo t agenda y (j ++ k) v where
  polls := h.polls.trans h'.polls
  stands := h'.stands
  takes := by rw [h'.takes, h.takes, taken_append, List.append_assoc]
  calls := by rw [h'.calls, h.calls, called_append, List.append_assoc]

/-- It does not matter what else was told. -/
theorem PollsTo.congr (h : PollsTo t agenda x j u) (htaken : taken k = taken j)
    (hcalled : called k = called j) : PollsTo t agenda x k u where
  polls := h.polls
  stands := h.stands
  takes := by rw [h.takes, htaken]
  calls := by rw [h.calls, hcalled]

/-- A look at what is there, as a step of a tenure. -/
theorem pollsTo_look {r : Except Fault (Option Message)} (hlook : Consumer.look x = ⟨r, y, j⟩)
    (h : t.At x) :
    PollsTo t x.2.agenda y j (t.after (.did .look)) ∧ (t.outcome .look).result = r := by
  obtain ⟨c, w⟩ := x
  obtain ⟨hc, hb⟩ := h
  dsimp only at hc hb
  subst hc
  obtain ⟨hresult, hjournal, hconsumer, _, hbroker⟩ :=
    Consumer.look_congr t.consumer (w := { broker := t.broker }) hb
  obtain ⟨b, hw, _⟩ := Consumer.looked t.consumer w
  rw [hlook] at hresult hjournal hconsumer hbroker hw
  refine ⟨⟨?_, ⟨hconsumer, hbroker⟩, ?_, ?_⟩, hresult⟩
  · dsimp only at hw
    rw [hw]
    exact .looked .refl
  · show taken (t.journal ++ (t.outcome .look).journal) = _
    rw [taken_append]
    exact congrArg (taken t.journal ++ taken ·) hjournal
  · show called (t.journal ++ (t.outcome .look).journal) = _
    rw [called_append]
    exact congrArg (called t.journal ++ called ·) hjournal

/-- Polling goes on with a look. -/
theorem PollsTo.look {r : Except Fault (Option Message)} (h : PollsTo t agenda x j u)
    (hlook : Consumer.look x = ⟨r, y, .asked (.poll 0) :: k⟩) :
    PollsTo t agenda y (j ++ k) (u.after (.did .look)) ∧ (u.outcome .look).result = r := by
  obtain ⟨hlast, hr⟩ := pollsTo_look hlook h.stands
  refine ⟨(h.trans hlast).congr ?_ ?_, hr⟩
  · rw [taken_append, taken_append]
    rfl
  · rw [called_append, called_append]
    rfl

/-- To sleep is to let others keep their appointments. -/
theorem pollsTo_sleepFrom (deadline : Nat) (agenda : List Appointment) (h : t.At x) :
    ∃ u, PollsTo t agenda (x.1, (x.2.sleepFrom deadline agenda).cluster)
      ((x.2.sleepFrom deadline agenda).diary.map .diary) u := by
  obtain ⟨c, w⟩ := x
  dsimp only
  induction agenda generalizing t w with
  | nil => exact ⟨t, .refl (x := (c, (w.sleepFrom deadline []).cluster)) h⟩
  | cons a later ih =>
    by_cases ht : a.time < deadline
    · have hkept : PollsTo t (a :: later) (c, (w.keep a later).cluster)
          ((w.keep a later).diary.map .diary) (t.after (.beside (.asked a.request))) := by
        refine ⟨.kept .refl, ⟨h.1, ?_⟩, ?_, ?_⟩
        · show (t.broker.perform a.request).broker = _
          rw [h.2]
          rfl
        · show taken t.journal = _ ++ taken ((w.broker.perform a.request).diary.map .diary)
          rw [Broker.taken_perform, List.append_nil]
        · rw [called_diary, List.append_nil]
          rfl
      cases hw : (w.keep a later).woken with
      | true =>
        rw [Cluster.sleepFrom_of_woken ht hw]
        exact ⟨_, hkept⟩
      | false =>
        rw [Cluster.sleepFrom_of_not_woken ht hw, List.map_append]
        obtain ⟨u, hu⟩ := ih _ hkept.stands
        exact ⟨u, hkept.trans hu⟩
    · rw [Cluster.sleepFrom, if_neg ht]
      exact ⟨t, .refl (x := (c, { w with now := max w.now deadline, agenda := a :: later })) h⟩

/-- Whoever has looked and found nothing goes to sleep. -/
theorem pollsTo_look_sleep (deadline : Nat) {c : Consumer Seat} {w : Cluster} (h : t.At (c, w))
    (hnone : (w.broker.nextEvent c.transport.member).result = .ok none) :
    let w' : Cluster := { w with broker := (w.broker.nextEvent c.transport.member).broker }
    ∃ u, PollsTo t w.agenda (c, (w'.sleep deadline).cluster) ((w'.sleep deadline).diary.map .diary)
      u := by
  intro w'
  have hlook : Consumer.look (c, w) = ⟨.ok none, (c, w'), [.asked (.poll 0)]⟩ :=
    Consumer.look_of_nextEvent c w hnone rfl
  have hfirst := ((PollsTo.refl h).look hlook).1
  obtain ⟨u, hu⟩ := pollsTo_sleepFrom deadline w.agenda hfirst.stands
  exact ⟨u, hfirst.trans hu⟩

/-- Whoever waits has come, by looks that found nothing, to where the next
look decides; or else the time was over while it slept. -/
theorem pollsTo_await (c : Consumer Seat) (deadline : Nat) (w : Cluster) :
    ∀ t : Tenure, t.At (c, w) → ∃ u w',
      PollsTo t w.agenda (c, w') ((w.await c.transport.member deadline).journal.map .diary) u ∧
      (((w.await c.transport.member deadline).result =
          (w'.broker.nextEvent c.transport.member).result.mapError .failure ∧
        (w.await c.transport.member deadline).state =
          { w' with broker := (w'.broker.nextEvent c.transport.member).broker }) ∨
      ((w.await c.transport.member deadline).result = .ok none ∧
        (w.await c.transport.member deadline).state = w')) := by
  fun_induction Cluster.await c.transport.member deadline w with
  | case1 w e w' f he | case2 w e w' event he =>
    intro t h
    refine ⟨t, w, .refl h, .inl ⟨?_, rfl⟩⟩
    show _ = e.result.mapError _
    rw [he]
    rfl
  | case3 w e w' he ht =>
    intro t h
    refine ⟨t, w, .refl h, .inl ⟨?_, rfl⟩⟩
    show _ = e.result.mapError _
    rw [he]
    rfl
  | case4 w e w' he ht sl hw ih =>
    intro t h
    obtain ⟨u, hu⟩ := pollsTo_look_sleep deadline h he
    obtain ⟨v, w₁, hv, hcase⟩ := ih u hu.stands
    refine ⟨v, w₁, ?_, hcase⟩
    rw [Outcome.journal_after, List.map_append]
    exact hu.trans hv
  | case5 w e w' he ht sl hw =>
    intro t h
    obtain ⟨u, hu⟩ := pollsTo_look_sleep deadline h he
    exact ⟨u, _, hu, .inr ⟨rfl, rfl⟩⟩

/-- What comes of waiting comes of a look, or of the time being over. -/
theorem pollsTo_awaitEvent {deadline : Nat} {r : Except Fault (Option Event)}
    (hcome : Consumer.awaitEvent deadline x = ⟨r, y, j⟩) (h : t.At x) :
    ∃ u w', PollsTo t x.2.agenda (x.1, w') j u ∧
      (Consumer.onTransport (Transport.askPoll 0) (x.1, w') = ⟨r, y, [.asked (.poll 0)]⟩ ∨
        r = .ok none ∧ y = (x.1, w')) := by
  obtain ⟨c, w⟩ := x
  have hawait : ∃ later span, Consumer.awaitEvent deadline (c, w) =
      ⟨(w.await c.transport.member later).result,
        (c, (w.await c.transport.member later).state),
        .asked (.poll span) :: (w.await c.transport.member later).journal.map .diary⟩ :=
    ⟨_, _, rfl⟩
  obtain ⟨later, span, hawait⟩ := hawait
  rw [hcome] at hawait
  cases hawait
  obtain ⟨u, w', hu, ⟨hr, hy⟩ | ⟨hr, hy⟩⟩ := pollsTo_await c later w t h
  · refine ⟨u, w', hu.congr rfl rfl, .inl ?_⟩
    rw [Consumer.askPoll_now, hr, hy]
  · refine ⟨u, w', hu.congr rfl rfl, .inr ⟨hr, ?_⟩⟩
    rw [hy]

/-- The last step of a poll, if its time is not over, is the look that it
comes to. -/
def Ends (t : Tenure) (agenda : List Appointment)
    (o : Outcome Entry (Consumer Seat × Cluster) Message) (u : Tenure) : Prop :=
  o.result = .ok .empty ∨ ∃ v later, Polls t agenda v later ∧ u = v.after (.did .look) ∧
    (v.outcome .look).result = o.result.map some

/-- A poll comes to what single steps of the tenure come to, and tells of
the same notifications and callbacks: the consumer's looks, the last of
which it ends with, and in between the appointments of others. -/
theorem pollsTo_pollUntil (deadline : Nat) (x : Consumer Seat × Cluster) :
    ∀ t : Tenure, t.At x → ∃ u,
      PollsTo t x.2.agenda (Consumer.pollUntil deadline x).state
        (Consumer.pollUntil deadline x).journal u ∧
      Ends t x.2.agenda (Consumer.pollUntil deadline x) u := by
  -- what is waited for is a fault, nothing, a message, or a notification
  -- that is taken: then the poll ends too, or it begins again
  fun_induction Consumer.pollUntil deadline x with
  | case1 x e y j hcome =>
    intro t h
    obtain ⟨u, w', hu, hpoll | ⟨hr, _⟩⟩ := pollsTo_awaitEvent hcome h
    · have hl : Consumer.look (x.1, w') = ⟨.error e, y, [.asked (.poll 0)]⟩ := Act.bind_error hpoll
      obtain ⟨hlast, hr⟩ := hu.look hl
      rw [List.append_nil] at hlast
      exact ⟨_, hlast, .inr ⟨u, _, hu.polls, rfl, hr⟩⟩
    · cases hr
  | case2 x y j hcome =>
    intro t h
    obtain ⟨u, w', hu, hpoll | ⟨_, rfl⟩⟩ := pollsTo_awaitEvent hcome h
    · have hl : Consumer.look (x.1, w') = ⟨.ok none, y, [.asked (.poll 0)]⟩ := Act.bind_ok hpoll
      obtain ⟨hlast, _⟩ := hu.look hl
      rw [List.append_nil] at hlast
      exact ⟨_, hlast, .inl rfl⟩
    · exact ⟨u, hu, .inl rfl⟩
  | case3 x m y j hcome =>
    intro t h
    obtain ⟨u, w', hu, hpoll | ⟨hr, _⟩⟩ := pollsTo_awaitEvent hcome h
    · have hl : Consumer.look (x.1, w') = ⟨.ok (some m), y, [.asked (.poll 0)]⟩ := Act.bind_ok hpoll
      obtain ⟨hlast, hr⟩ := hu.look hl
      rw [List.append_nil] at hlast
      exact ⟨_, hlast, .inr ⟨u, _, hu.polls, rfl, hr⟩⟩
    · cases hr
  | case4 x code partitions y j hcome e z k htaken =>
    intro t h
    obtain ⟨u, w', hu, hpoll | ⟨hr, _⟩⟩ := pollsTo_awaitEvent hcome h
    · have hhandle : Consumer.handle (some (.rebalance code partitions)) y = ⟨.error e, z, k⟩ :=
        Act.bind_error htaken
      have hl : Consumer.look (x.1, w') = _ := Act.bind_ok hpoll
      rw [hhandle] at hl
      obtain ⟨hlast, hr⟩ := hu.look hl
      exact ⟨_, hlast, .inr ⟨u, _, hu.polls, rfl, hr⟩⟩
    · cases hr
  | case5 x code partitions y j hcome z k htaken ih =>
    intro t h
    obtain ⟨u, w', hu, hpoll | ⟨hr, _⟩⟩ := pollsTo_awaitEvent hcome h
    · have hhandle : Consumer.handle (some (.rebalance code partitions)) y = ⟨.ok none, z, k ++ []⟩ :=
        Act.bind_ok htaken
      have hl : Consumer.look (x.1, w') = _ := Act.bind_ok hpoll
      rw [hhandle, List.append_nil] at hl
      obtain ⟨hsofar, _⟩ := hu.look hl
      obtain ⟨v, hv, hends⟩ := ih _ hsofar.stands
      refine ⟨v, hsofar.trans hv, ?_⟩
      rcases hends with hempty | ⟨v', later, hbefore, hlast, hr⟩
      · exact .inl hempty
      · exact .inr ⟨v', later, hsofar.polls.trans hbefore, hlast, hr⟩
    · cases hr

/-- A tenure goes on through a whole poll as long as the looks and the
appointments are allowed in it. -/
theorem Reached.polled {allowed : Tenure → Step → Prop} (h : Reached allowed t) (deadline : Nat)
    (hat : t.At x) (hlook : ∀ t, Reached allowed t → allowed t (.did .look))
    (hkept : ∀ t, Reached allowed t → ∀ a ∈ x.2.agenda, allowed t (.beside (.asked a.request))) :
    ∃ u, Reached allowed u ∧ u.At (Consumer.pollUntil deadline x).state ∧
      taken u.journal = taken t.journal ++ taken (Consumer.pollUntil deadline x).journal ∧
      called u.journal = called t.journal ++ called (Consumer.pollUntil deadline x).journal := by
  obtain ⟨u, hu, _⟩ := pollsTo_pollUntil deadline x t hat
  exact ⟨u, h.polls hu.polls hlook hkept, hu.stands, hu.takes, hu.calls⟩

/-- A consumer that polls keeps its seat. -/
theorem Polls.transport (h : Polls t agenda u later) :
    u.consumer.transport = t.consumer.transport := by
  induction h with
  | refl => rfl
  | @looked u _ _ ih => exact (Deed.transport_act .look u.consumer { broker := u.broker }).trans ih
  | kept _ ih => exact ih

end Tenure

/-! ## In a run -/

namespace Chronicle

variable {allowed : Chronicle → Happening → Prop} {s : Chronicle}

/-- The run that a tenure is part of goes on through a poll as long as the
looks and the appointments are allowed in it. -/
theorem Reached.polls {t u : Tenure} {agenda later : List Appointment}
    (h : Reached allowed t.chronicle) (hp : t.Polls agenda u later)
    (hlook : ∀ s c, Reached allowed s → c.transport = t.consumer.transport →
      allowed s (.did c .look))
    (hkept : ∀ s, Reached allowed s → ∀ a ∈ agenda, allowed s (.asked a.request)) :
    Reached allowed u.chronicle := by
  induction hp with
  | refl => exact h
  | looked hp ih => exact .step ih (hlook _ _ ih hp.transport)
  | kept hp ih => exact .step ih (hkept _ ih _ (hp.later_subset List.mem_cons_self))

/-- What any consumer's poll makes of a broker that a run has come to, a run
comes to, as long as the looks and the appointments are allowed in it. -/
theorem Reached.polled (h : Reached allowed s) (deadline : Nat) (x : Consumer Seat × Cluster)
    (hs : s.broker = x.2.broker)
    (hlook : ∀ s c, Reached allowed s → c.transport = x.1.transport → allowed s (.did c .look))
    (hkept : ∀ s, Reached allowed s → ∀ a ∈ x.2.agenda, allowed s (.asked a.request)) :
    ∃ s', Reached allowed s' ∧ s'.broker = (Consumer.pollUntil deadline x).state.2.broker := by
  let t : Tenure := { consumer := x.1, chronicle := s }
  obtain ⟨u, hu, _⟩ := Tenure.pollsTo_pollUntil deadline x t ⟨rfl, hs⟩
  exact ⟨u.chronicle, Reached.polls (t := t) h hu.polls hlook hkept, hu.stands.2⟩

end Chronicle

end ConsumerGroup
