import ConsumerGroup.Proofs.Consumer.Setback
import ConsumerGroup.Proofs.Tenure.Delivery

/-!
# What a failed poll leaves

A poll fails at the first notification that goes wrong. Up to there the
consumer has worked through what it found, while others kept their
appointments (`Consumer.WorksThrough`, `Consumer.worksThrough_pollUntil`),
and each of these steps is a step of the run (`Chronicle.Along`). So only
the notification that goes wrong is lost (`Chronicle.run_setBack`): those
before it have been dealt with in their order, those behind it still wait,
and no message was brought.

The case where a poll fails because its member is gone has nothing to lose
and is left out by assuming the member is there and nobody asks for anything
in its place. The ledger of the member, which balances, tells what has come
meanwhile.
-/

namespace ConsumerGroup

namespace Consumer

/-- A consumer looks, and each time finds nothing or takes what it finds, and
others keep their appointments: with what it has taken so far. -/
inductive WorksThrough (x : Consumer Seat × Cluster) : List Queued → Consumer Seat × Cluster → Prop
  | start : WorksThrough x [] x
  | looked {took : List Queued} {y : Consumer Seat × Cluster} (h : WorksThrough x took y)
      (hwell : (look y).result = .ok none) :
      WorksThrough x (took ++ y.2.broker.takes y.1.transport.member) (look y).state
  | kept {took : List Queued} {c : Consumer Seat} {w : Cluster} {a : Appointment}
      {rest : List Appointment} (h : WorksThrough x took (c, w)) (ha : w.agenda = a :: rest) :
      WorksThrough x took (c, (w.keep a rest).cluster)

variable {x y z : Consumer Seat × Cluster} {took more : List Queued} {deadline : Nat}

/-- Whoever works on has worked through all of it. -/
theorem WorksThrough.trans (h : WorksThrough x took y) (h' : WorksThrough y more z) :
    WorksThrough x (took ++ more) z := by
  induction h' with
  | start =>
    rw [List.append_nil]
    exact h
  | looked _ hwell ih =>
    rw [← List.append_assoc]
    exact .looked ih hwell
  | kept _ ha ih => exact .kept ih ha

/-- Whoever watches for an event, and is not left with nothing, comes to where
the next look brings it. -/
theorem worksThrough_watch (c : Consumer Seat) (w : Cluster)
    (hsome : (w.watch c.transport.member deadline).result ≠ .ok none) :
    ∃ w', WorksThrough (c, w) [] (c, w') ∧
      (w.watch c.transport.member deadline).result =
        (w'.broker.nextEvent c.transport.member).result.mapError .failure ∧
      (w.watch c.transport.member deadline).state =
        { w' with broker := (w'.broker.nextEvent c.transport.member).broker } := by
  fun_induction Cluster.watch c.transport.member deadline w with
  | case1 w e w' f he | case2 w e w' event he =>
    refine ⟨w, .start, ?_, rfl⟩
    show _ = e.result.mapError _
    rw [he]
    rfl
  | case3 | case4 | case6 => exact absurd rfl hsome
  | case5 w e w' he ht a rest hagenda ha ih =>
    have hlook : look (c, w) = ⟨.ok none, (c, w'), [.asked (.poll 0)]⟩ :=
      look_of_nextEvent c w he rfl
    have hnothing : w.broker.takes c.transport.member = [] := by
      unfold Broker.takes
      rw [he]
    have hidle : WorksThrough (c, w) [] (c, w') := by
      have h := WorksThrough.looked (.start (x := (c, w))) (by rw [hlook])
      rwa [hlook, hnothing] at h
    obtain ⟨w₁, hworks, hresult, hstate⟩ := ih hsome
    exact ⟨w₁, (hidle.kept hagenda).trans hworks, hresult, hstate⟩

/-- Nothing is taken by waiting. -/
theorem taken_watch (id : String) (deadline : Nat) (w : Cluster) :
    taken ((w.watch id deadline).journal.map .diary) = [] := by
  fun_induction Cluster.watch id deadline w with
  | case1 | case2 | case3 | case4 | case6 => rfl
  | case5 w e w' he ht a rest hagenda ha ih =>
    rw [Outcome.journal_after, List.map_append, taken_append, ih, List.append_nil]
    exact w'.broker.taken_perform a.request

/-- What comes of waiting, unless the time is over, comes of the next look. -/
theorem worksThrough_awaitEvent (hs : x.2.broker.Sound) (hg : x.2.broker.Grounded)
    {r : Except Fault (Option Event)} {j : List Entry} (hcome : awaitEvent deadline x = ⟨r, y, j⟩)
    (hsome : r ≠ .ok none) :
    ∃ w, WorksThrough x [] (x.1, w) ∧
      onTransport (Transport.askPoll 0) (x.1, w) = ⟨r, y, [.asked (.poll 0)]⟩ ∧ taken j = [] := by
  obtain ⟨c, w⟩ := x
  rw [awaitEvent_eq, Cluster.await_eq_watch hs hg] at hcome
  cases hcome
  obtain ⟨w', hworks, hresult, hstate⟩ := worksThrough_watch c w hsome
  refine ⟨w', hworks, ?_, ?_⟩
  · rw [askPoll_now, hresult, hstate]
  · exact taken_watch _ _ w

/-- A poll that fails has come to where a look fails, and has told of what it
took before. -/
theorem worksThrough_pollUntil (deadline : Nat) (x : Consumer Seat × Cluster)
    (hx : x.2.broker.Sound ∧ x.2.broker.Grounded) {e : Fault}
    (h : (pollUntil deadline x).result = .error e) :
    ∃ took y, WorksThrough x took y ∧ (look y).result = .error e ∧
      (pollUntil deadline x).state = (look y).state ∧
      taken (pollUntil deadline x).journal =
        took.map Queued.notification ++ taken (look y).journal := by
  fun_induction pollUntil deadline x with
  | case1 x e' y j hcome =>
    cases h
    obtain ⟨w, hworks, hpoll, htaken⟩ := worksThrough_awaitEvent hx.1 hx.2 hcome (by simp)
    have hlook : look (x.1, w) = ⟨.error e, y, [.asked (.poll 0)]⟩ := Act.bind_error hpoll
    refine ⟨[], _, hworks, by rw [hlook], by rw [hlook], ?_⟩
    rw [hlook]
    exact htaken
  | case2 | case3 => cases h
  | case4 x code l y j hcome e' z k htook =>
    cases h
    obtain ⟨w, hworks, hpoll, htaken⟩ := worksThrough_awaitEvent hx.1 hx.2 hcome (by simp)
    have hhandle : handle (some (.rebalance code l)) y = ⟨.error e, z, k⟩ := Act.bind_error htook
    have hlook : look (x.1, w) = _ := Act.bind_ok hpoll
    rw [hhandle] at hlook
    refine ⟨[], _, hworks, by rw [hlook]; rfl, by rw [hlook]; rfl, ?_⟩
    rw [hlook, taken_append, htaken]
    rfl
  | case5 x code l y j hcome z k htook ih =>
    obtain ⟨w, hworks, hpoll, htaken⟩ := worksThrough_awaitEvent hx.1 hx.2 hcome (by simp)
    have hhandle : handle (some (.rebalance code l)) y = ⟨.ok none, z, k ++ []⟩ :=
      Act.bind_ok htook
    have hlook : look (x.1, w) = _ := Act.bind_ok hpoll
    rw [hhandle, List.append_nil] at hlook
    have hlooked : WorksThrough x (w.broker.takes x.1.transport.member) z := by
      have h := hworks.looked (by rw [hlook]; rfl)
      rwa [hlook] at h
    have htold : taken (j ++ k) =
        (w.broker.takes x.1.transport.member).map Queued.notification := by
      rw [← taken_look_eq, hlook, taken_append, htaken]
      rfl
    have hupheld := Cluster.upheld_grounded x.1.transport.member
    have hz : z.2.broker.Sound ∧ z.2.broker.Grounded := by
      have hwaited := hupheld.await (x.2.now + (deadline - x.2.now)) hx
      have hy : (awaitEvent deadline x).state = y := congrArg Outcome.state hcome
      have h := (hupheld.taken (.ofCode code l) (x := (awaitEvent deadline x).state) rfl hwaited).2
      rwa [hy, htook] at h
    obtain ⟨took, y', hrest, herror, hstate, hjournal⟩ := ih hz h
    refine ⟨_, y', hlooked.trans hrest, herror, hstate, ?_⟩
    rw [Outcome.journal_after, taken_append, htold, hjournal, List.map_append, List.append_assoc]

/-- A look that finds nothing, or takes what it finds, leaves the member with
what that leaves it with. -/
theorem look_well {c : Consumer Seat} {w : Cluster} {m : Member}
    (hm : w.broker.member? c.transport.member = some m) (hwell : (look (c, w)).result = .ok none) :
    ∃ m' : Member, m'.id = m.id ∧ m'.held = heldAfter m.held (w.broker.takes c.transport.member) ∧
      (look (c, w)).state =
        ({ c with coordinator := c.coordinator.heardAll (w.broker.takes c.transport.member) },
          { w with broker := w.broker.modifyMember c.transport.member fun _ => m' }) := by
  rw [Broker.takes_of_member? hm]
  cases hq : m.queue with
  | nil =>
    rw [look_of_nil c w hm hq rfl]
    exact ⟨_, by rw [m.fetch_frame], m.held_fetch w.broker.topics, rfl⟩
  | cons q rest =>
    obtain ⟨m', hstate, htakes⟩ := look_of_waiting hm hq
    rw [hwell] at htakes
    rw [hstate]
    cases htakes with
    | @well assignment cursor hheld =>
      exact ⟨{ m with queue := rest, assignment, cursor }, rfl, hheld, rfl⟩

end Consumer

/-- Whoever is asked nothing of stays there and reads what it did. -/
theorem Broker.Sound.held_perform {b : Broker} {id : String} {m : Member} {r : Request}
    (hs : b.Sound) (hr : ∀ r', r ≠ .member id r') (hm : b.member? id = some m) :
    ∃ m', (b.perform r).broker.member? id = some m' ∧ m'.held = m.held := by
  by_cases ht : r.Touches id
  · cases r with
    | notify id' code l =>
      obtain rfl : id' = id := ht
      have hid : ∀ m : Member, m.id = id' →
          ({ m with queue := m.queue ++ [⟨code, l⟩] } : Member).id = id' := fun _ h => h
      refine ⟨{ m with queue := m.queue ++ [⟨code, l⟩] }, ?_, rfl⟩
      show (b.notify id' code l).broker.member? id' = _
      unfold notify
      rw [hm]
      dsimp only
      rw [member?_modifyMember hid, hm]
      rfl
    | member id' r' =>
      cases r' with
      | next | assign | unassign | leave =>
        obtain rfl : id' = id := ht
        exact absurd rfl (hr _)
      | _ => cases ht
    | _ => cases ht
  · obtain ⟨m', hm', hdealt⟩ := hs.dealt_aside ht hm
    exact ⟨m', hm', congrArg (List.map Slot.partition) hdealt.frame.2.2⟩

namespace Chronicle

open Happening (PollOf)

/-- The run has gone on as the consumer has: its member holds what the
notifications it has taken leave it with, and was brought no message. -/
structure Along (patterns : PatternReader) (hs : List Happening) (c : Consumer Seat)
    (w : Cluster) (m₀ : Member) (took : List Queued) (y : Consumer Seat × Cluster)
    (past : List Appointment) (es : List Happening) (m : Member) : Prop where
  agenda : w.agenda = past ++ y.2.agenda
  row : PollOf c.transport past es
  broker : (run (hs ++ es) patterns).broker = y.2.broker
  consumer : y.1 = { c with coordinator := c.coordinator.heardAll took }
  member : y.2.broker.member? c.transport.member = some m
  held : m.held = heldAfter m₀.held took
  ledger : (Ledger.run c.transport.member (hs ++ es) patterns).taken =
    (Ledger.run c.transport.member hs patterns).taken ++ took
  told : gather (Happening.tells · · c.transport.member) (hs ++ es) patterns =
    gather (Happening.tells · · c.transport.member) hs patterns

variable {patterns : PatternReader} {hs es : List Happening} {c : Consumer Seat} {w : Cluster}
  {m₀ m : Member} {took : List Queued} {y : Consumer Seat × Cluster} {past : List Appointment}

/-- Before it looks, a consumer has come nowhere. -/
theorem along_start (hw : w.broker = (run hs patterns).broker)
    (hm : w.broker.member? c.transport.member = some m₀) :
    Along patterns hs c w m₀ [] (c, w) [] [] m₀ where
  agenda := rfl
  row := .nil _
  broker := by rw [List.append_nil, hw]
  consumer := rfl
  member := hm
  held := rfl
  ledger := by rw [List.append_nil, List.append_nil]
  told := by rw [List.append_nil]

/-- A look that brings no message, as a step of the run. -/
theorem run_look (hb : (run hs patterns).broker = y.2.broker) (hseat : y.1.transport = c.transport)
    (hbrings : ∀ x, (Consumer.look y).result ≠ .ok (some x)) :
    (run (hs ++ [.did y.1 .look]) patterns).broker = (Consumer.look y).state.2.broker ∧
      (Ledger.run c.transport.member (hs ++ [.did y.1 .look]) patterns).taken =
        (Ledger.run c.transport.member hs patterns).taken ++ y.2.broker.takes c.transport.member ∧
      gather (Happening.tells · · c.transport.member) (hs ++ [.did y.1 .look]) patterns =
        gather (Happening.tells · · c.transport.member) hs patterns := by
  have halike := Consumer.look_congr y.1 (w := { broker := (run hs patterns).broker }) hb
  have htakes : (Happening.did y.1 .look).takes (run hs patterns).broker c.transport.member =
      y.2.broker.takes c.transport.member := by
    show (if y.1.transport.member = c.transport.member then _ else []) = _
    rw [hseat, if_pos rfl, hb]
  have hnothing : (Happening.did y.1 .look).brings (run hs patterns).broker = none :=
    Happening.brings_did fun x hx => hbrings x (halike.result.symm.trans hx)
  refine ⟨?_, ?_, ?_⟩
  · rw [run_append_singleton]
    exact halike.state.2.2
  · rw [Ledger.run_append_singleton, ← htakes, ← Ledger.broker_run c.transport.member]
    rfl
  · rw [gather_append_singleton, Happening.tells_of_ne (by rw [hnothing]; nofun), List.append_nil]

/-- With a look that finds nothing, or takes what it finds. -/
theorem Along.look (h : Along patterns hs c w m₀ took y past es m)
    (hwell : (Consumer.look y).result = .ok none) :
    ∃ m', Along patterns hs c w m₀ (took ++ y.2.broker.takes y.1.transport.member)
      (Consumer.look y).state past (es ++ [.did y.1 .look]) m' := by
  have hseat : y.1.transport = c.transport := by rw [h.consumer]
  have hmember : y.2.broker.member? y.1.transport.member = some m := by
    rw [hseat]
    exact h.member
  obtain ⟨m', hid, hheld, hstate⟩ := Consumer.look_well hmember hwell
  have hid' : m'.id = c.transport.member := hid.trans (Broker.id_of_member? h.member)
  obtain ⟨hbroker, hledger, htold⟩ := run_look h.broker hseat (by rw [hwell]; nofun)
  rw [List.append_assoc] at hbroker hledger htold
  refine ⟨m', ?_⟩
  rw [hseat] at hheld hstate ⊢
  constructor
  case agenda => rw [hstate]; exact h.agenda
  case row => exact h.row.look hseat
  case broker => exact hbroker
  case consumer => rw [hstate, Coordinator.heardAll_append, h.consumer]
  case member =>
    rw [hstate]
    exact Broker.member?_replaced h.member hid'
  case held => rw [hheld, h.held, heldAfter_append]
  case ledger => rw [hledger, h.ledger, List.append_assoc]
  case told => rw [htold, h.told]

/-- With an appointment of somebody else. -/
theorem Along.keep {w' : Cluster} {c' : Consumer Seat} {a : Appointment} {rest : List Appointment}
    (h : Along patterns hs c w m₀ took (c', w') past es m) (ha : w'.agenda = a :: rest)
    (hmine : ∀ a ∈ w.agenda, ∀ r, a.request ≠ .member c.transport.member r) :
    ∃ m', Along patterns hs c w m₀ took (c', (w'.keep a rest).cluster) (past ++ [a])
      (es ++ [.asked a.request]) m' := by
  have hagenda : w.agenda = past ++ [a] ++ rest := by
    rw [h.agenda, ha, List.append_assoc]
    rfl
  have hothers : ∀ r, a.request ≠ .member c.transport.member r := hmine a (by rw [hagenda]; simp)
  have hsound : w'.broker.Sound := h.broker ▸ (reached_run (hs ++ es) patterns).sound
  obtain ⟨m', hm', hheld⟩ := hsound.held_perform hothers h.member
  have hafter : (run (hs ++ (es ++ [.asked a.request])) patterns).broker =
      (w'.broker.perform a.request).broker := by
    rw [← List.append_assoc, run_append_singleton]
    show ((run (hs ++ es) patterns).broker.perform a.request).broker = _
    rw [h.broker]
  refine ⟨m', ?_⟩
  constructor
  case agenda => exact hagenda
  case row => exact h.row.keep a
  case broker => exact hafter
  case consumer => exact h.consumer
  case member => exact hm'
  case held => rw [hheld, h.held]
  case ledger =>
    rw [← List.append_assoc, Ledger.run_append_singleton]
    show (Ledger.run _ (hs ++ es) patterns).taken ++ Broker.takesBy _ _ a.request = _
    rw [Broker.takesBy_of_ne (hothers .next), List.append_nil, h.ledger]
  case told =>
    rw [← List.append_assoc, gather_append_singleton, Happening.tells_of_asked (hothers .next),
      List.append_nil]
    exact h.told

/-- As the consumer goes on, so does the run. -/
theorem along_of_worksThrough (hw : w.broker = (run hs patterns).broker)
    (hm : w.broker.member? c.transport.member = some m₀)
    (hmine : ∀ a ∈ w.agenda, ∀ r, a.request ≠ .member c.transport.member r)
    (h : Consumer.WorksThrough (c, w) took y) :
    ∃ past es m, Along patterns hs c w m₀ took y past es m := by
  induction h with
  | start => exact ⟨[], [], m₀, along_start hw hm⟩
  | looked _ hwell ih =>
    obtain ⟨past, es, m, h⟩ := ih
    obtain ⟨m', h'⟩ := h.look hwell
    exact ⟨_, _, m', h'⟩
  | kept _ ha ih =>
    obtain ⟨past, es, m, h⟩ := ih
    obtain ⟨m', h'⟩ := h.keep ha hmine
    exact ⟨_, _, m', h'⟩

/-- What a poll that fails with a fault has come to: the notifications before
the one that goes wrong, that one and those behind it, the steps by which
the run has gone on, and where the consumer and its member were before the
last of them. -/
structure SetBack (patterns : PatternReader) (hs : List Happening) (c : Consumer Seat)
    (w : Cluster) (m₀ : Member) (o : Outcome Entry (Consumer Seat × Cluster) Message) (e : Fault)
    (took : List Queued) (q : Queued) (rest : List Queued) (es : List Happening)
    (y : Consumer Seat × Cluster) (m : Member) : Prop where
  worksThrough : Consumer.WorksThrough (c, w) took y
  consumer : y.1 = { c with coordinator := c.coordinator.heardAll took }
  member : y.2.broker.member? c.transport.member = some m
  waiting : m.queue = q :: rest
  wrong : q.GoesWrong y.2.broker y.1.coordinator e
  /-- The coordinator was handed the notifications in their order. -/
  takes : taken o.journal = (took ++ [q]).map Queued.notification
  calls : called o.journal = (taken o.journal).filter c.coordinator.hears
  /-- They leave the member with this, unless the last takes it away. -/
  held : m.held = heldAfter m₀.held took
  state : o.state =
    ({ c with coordinator := c.coordinator.heardAll (took ++ [q]) },
      { y.2 with broker := y.2.broker.modifyMember c.transport.member fun _ => m.setBack q rest })
  agenda : ∃ past, w.agenda = past ++ o.state.2.agenda ∧ PollOf c.transport past es
  broker : (run (hs ++ es) patterns).broker = o.state.2.broker
  /-- What waited before, and what has come, was handed over or waits. -/
  queue : ∃ arrived, (Ledger.run c.transport.member (hs ++ es) patterns).queued =
      (Ledger.run c.transport.member hs patterns).queued ++ arrived ∧
    took ++ q :: rest = m₀.queue ++ arrived
  /-- The member was brought no message. -/
  told : gather (Happening.tells · · c.transport.member) (hs ++ es) patterns =
    gather (Happening.tells · · c.transport.member) hs patterns

/-- The notification is lost to the member, and those behind it wait. -/
theorem SetBack.member?_after {o : Outcome Entry (Consumer Seat × Cluster) Message} {e : Fault}
    {q : Queued} {rest : List Queued} (h : SetBack patterns hs c w m₀ o e took q rest es y m) :
    o.state.2.broker.member? c.transport.member = some (m.setBack q rest) := by
  rw [h.state]
  exact Broker.member?_replaced h.member
    ((m.id_setBack q rest).trans (Broker.id_of_member? h.member))

/-- Where a notification goes wrong, the run goes on with the look. -/
theorem Along.setBack (h : Along patterns hs c w m₀ took y past es m)
    (hworks : Consumer.WorksThrough (c, w) took y)
    (hm : (run hs patterns).broker.member? c.transport.member = some m₀) {e : Fault}
    (he : (Consumer.look y).result = .error e) {timeout : Nat}
    (hstate : (Consumer.pollFor timeout (c, w)).state = (Consumer.look y).state)
    (htaken : taken (Consumer.pollFor timeout (c, w)).journal =
      took.map Queued.notification ++ taken (Consumer.look y).journal) :
    ∃ q rest, SetBack patterns hs c w m₀ (Consumer.pollFor timeout (c, w)) e took q rest
      (es ++ [.did y.1 .look]) y m := by
  have hseat : y.1.transport = c.transport := by rw [h.consumer]
  have hmember : y.2.broker.member? y.1.transport.member = some m := by
    rw [hseat]
    exact h.member
  obtain ⟨q, rest, hq⟩ : ∃ q rest, m.queue = q :: rest := by
    cases hq : m.queue with
    | nil =>
      rw [Consumer.look_of_nil y.1 y.2 hmember hq rfl] at he
      cases he
    | cons q rest => exact ⟨q, rest, rfl⟩
  have htakes : y.2.broker.takes c.transport.member = [q] := by
    rw [Broker.takes_of_member? h.member, hq]
    rfl
  obtain ⟨hbroker, hledger, htold⟩ := run_look h.broker hseat (by rw [he]; nofun)
  rw [List.append_assoc] at hbroker hledger htold
  obtain ⟨m', hlooked, hwrong⟩ := Consumer.look_of_waiting hmember hq
  rw [he] at hwrong
  cases hwrong with
  | badly hwrong =>
    have hfound : (Consumer.look y).state.2.broker.member? c.transport.member =
        some (m.setBack q rest) := by
      rw [hlooked, hseat]
      exact Broker.member?_replaced h.member
        ((m.id_setBack q rest).trans (Broker.id_of_member? h.member))
    refine ⟨q, rest, ?_⟩
    constructor
    case worksThrough => exact hworks
    case consumer => exact h.consumer
    case member => exact h.member
    case waiting => exact hq
    case wrong => exact hwrong
    case takes =>
      rw [htaken, Consumer.taken_look_eq, hseat, htakes, List.map_append]
    case calls => exact Consumer.called_pollUntil (w.now + timeout) (c, w)
    case held => exact h.held
    case state =>
      rw [hstate, hlooked, hseat, Coordinator.heardAll_append, h.consumer]
      rfl
    case agenda =>
      refine ⟨past, ?_, h.row.look hseat⟩
      rw [hstate, hlooked]
      exact h.agenda
    case broker => rw [hbroker, hstate]
    case queue =>
      -- The ledger balances before the poll and after it.
      obtain ⟨arrived, harrived⟩ := Ledger.queued_append c.transport.member hs
        (es ++ [.did y.1 .look])
      have hbefore := (Ledger.balanced_run c.transport.member hs patterns).taken_append_queue
        (by rwa [Ledger.broker_run])
      have hafter := (Ledger.balanced_run c.transport.member
        (hs ++ (es ++ [.did y.1 .look])) patterns).taken_append_queue
          (by rwa [Ledger.broker_run, hbroker])
      refine ⟨arrived, harrived, ?_⟩
      rw [harrived, ← hbefore, hledger, h.ledger, htakes, m.queue_setBack] at hafter
      simpa only [List.append_assoc, List.append_cancel_left_eq, List.singleton_append] using hafter
    case told => rw [htold, h.told]

/-- A poll that fails, of a consumer whose member is there, loses nothing but
the notification that goes wrong. Those before it have been dealt with, and
it was handed over too, once each and in their order; those behind it still
wait, and what came meanwhile behind them. The member holds what those
before it leave it with, or nothing, if it is a revocation that goes wrong;
and no message was brought. (Nobody else uses the transport that the
consumer owns.) -/
theorem run_setBack (hs : List Happening) {c : Consumer Seat} {w : Cluster} {m₀ : Member}
    (hw : w.broker = (run hs patterns).broker) (hm : w.broker.member? c.transport.member = some m₀)
    (hmine : ∀ a ∈ w.agenda, ∀ r, a.request ≠ .member c.transport.member r) (timeout : Nat)
    {e : Fault} (he : (Consumer.pollFor timeout (c, w)).result = .error e) :
    ∃ took q rest es y m,
      SetBack patterns hs c w m₀ (Consumer.pollFor timeout (c, w)) e took q rest es y m := by
  have hreached := reached_run hs patterns
  have hx : w.broker.Sound ∧ w.broker.Grounded := by
    rw [hw]
    exact ⟨hreached.sound, hreached.grounded⟩
  obtain ⟨took, y, hworks, herror, hstate, htaken⟩ :=
    Consumer.worksThrough_pollUntil (w.now + timeout) (c, w) hx he
  obtain ⟨past, es, m, h⟩ := along_of_worksThrough hw hm hmine hworks
  obtain ⟨q, rest, hsetBack⟩ := h.setBack hworks (hw ▸ hm) herror hstate htaken
  exact ⟨took, q, rest, _, y, m, hsetBack⟩

/-- The only member of a group, with its share not yet taken, is told to give
everything up while it polls, and then to take it again. -/
def dealtAnew : Cluster where
  broker := (run (joinedLater.take 3)).broker
  agenda := [⟨3, .rebalance "g"⟩]

/-- The share of the only member. -/
def wholeShare : PartitionList :=
  [⟨⟨"t", 0⟩, .invalid⟩, ⟨⟨"t", 1⟩, .invalid⟩, ⟨⟨"t", 2⟩, .invalid⟩]

/-- The callback for revocations crashes, and the poll fails with that. The
share that waited before has been taken, the revocation is lost and what
was held is given up, and the share that was dealt anew still waits. -/
theorem run_setBack_dealtAnew :
    let c : Consumer Seat :=
      { transport := ⟨"kafka_group-1", "g"⟩
        coordinator := { onRevoke := some fun _ _ => .error "gone" } }
    let o := Consumer.pollFor 10 (c, dealtAnew)
    let dealt : Queued := ⟨.assignPartitions, wholeShare⟩
    o.result = .error (.crash (.callback "gone")) ∧
      ∃ m₀ es y m, dealtAnew.broker.member? "kafka_group-1" = some m₀ ∧ m₀.queue = [dealt] ∧
        SetBack Pattern.reader (joinedLater.take 3) c dealtAnew m₀ o (.crash (.callback "gone"))
          [dealt] ⟨.revokePartitions, wholeShare⟩ [dealt] es y m ∧
        es.filterMap Happening.asked? = [.rebalance "g"] ∧ m.held = wholeShare.partitions ∧
        (o.state.2.broker.member? "kafka_group-1").map Member.held = some [] := by
  intro c o dealt
  have hpoll : o.result = .error (.crash (.callback "gone")) ∧
      taken o.journal = [.assign wholeShare, .revoke wholeShare] ∧ o.state.2.agenda = [] ∧
      (o.state.2.broker.member? "kafka_group-1").map Member.queue = some [dealt] := by
    have hpoll : o = Consumer.pollUntil 10 (c, dealtAnew) := rfl
    rw [hpoll,
      Consumer.pollUntil_of_took .assignPartitions wholeShare (by decide +kernel) (by decide +kernel),
      Consumer.pollUntil_of_untaken (e := .crash (.callback "gone"))
        .revokePartitions wholeShare (by decide +kernel) (by decide +kernel)]
    exact ⟨rfl, by decide +kernel, by decide +kernel, by decide +kernel⟩
  obtain ⟨hcrashed, htaken, hagenda, hqueue⟩ := hpoll
  have hthere : (dealtAnew.broker.member? "kafka_group-1").map (fun m => (m.queue, m.held)) =
      some ([dealt], []) := by decide +kernel
  obtain ⟨m₀, hm, hread⟩ := Option.map_eq_some_iff.mp hthere
  obtain ⟨hwaiting, hheld⟩ := Prod.mk.inj hread
  obtain ⟨took, q, rest, es, y, m, h⟩ := run_setBack (joinedLater.take 3) (c := c) (w := dealtAnew)
    rfl hm (by simp [dealtAnew]) 10 hcrashed
  have hafter : o.state.2.broker.member? "kafka_group-1" = some (m.setBack q rest) := h.member?_after
  obtain rfl : rest = [dealt] := by
    rw [hafter] at hqueue
    exact (m.queue_setBack q rest).symm.trans (Option.some.inj hqueue)
  obtain ⟨rfl, hq⟩ : took = [dealt] ∧ [q] = [⟨.revokePartitions, wholeShare⟩] := by
    have hrow : took ++ [q] = [dealt] ++ [⟨.revokePartitions, wholeShare⟩] :=
      Queued.eq_of_map_notification (h.takes.symm.trans htaken) (by decide)
    exact List.append_inj' hrow rfl
  obtain rfl := List.singleton_inj.mp hq
  refine ⟨hcrashed, m₀, es, y, m, hm, hwaiting, h, ?_, ?_, ?_⟩
  · obtain ⟨past, hpast, hrow⟩ := h.agenda
    rw [hagenda, List.append_nil] at hpast
    rw [hrow.asked, ← hpast]
    rfl
  · rw [h.held, hheld]
    rfl
  · rw [hafter]
    rfl

end Chronicle

end ConsumerGroup
