import ConsumerGroup.Proofs.Cluster.Gone
import ConsumerGroup.Proofs.Group.Course

/-!
# Ids are given once

Members are told apart by their ids alone, and whoever asks for one is
given the first that has it. So it matters that no id is given twice,
whatever clients call themselves (`Chronicle.roster_run`). It also makes
the end of a member final: once its transport has been closed, nobody who
joins later sits in its seat, and whatever is asked at that seat comes to
nothing (`Chronicle.run_identities`).

The proof keeps a list of all ids given so far, with the numbers at their
ends (`Roster`): the next number is larger than all of them, and the number
can be read off an id whatever the client is called (`eq_of_numbered_eq`).
-/

namespace ConsumerGroup

namespace Happening

/-- The id that a step gives to whoever joins by it. -/
def joins (b : Broker) : Happening → List String
  | .asked (.connect c) =>
    match (b.connect c).result with
    | .ok id => [id]
    | .error _ => []
  | _ => []

/-- By the step a member's transport is closed: at somebody's request, with
a consumer that was not closed before, unless a callback crashes first, or
when a consumer is let go of. -/
def Closes (b : Broker) (id : String) : Happening → Prop
  | .asked r => r = .member id .leave
  | .did c .close => c.transport.member = id ∧ c.closed = false ∧
      ∀ x, (outcome b c .close).result ≠ .error (.crash x)
  | .did c (.release _) => c.transport.member = id
  | .did _ _ => False

end Happening

/-- Whoever connects joins with the next number, or is refused. -/
theorem Broker.connect_cases (b : Broker) (c : Configuration) :
    (∃ f, b.connect c = b.answer (.error f)) ∨
    ∃ options : MemberOptions,
      (b.connect c).result = .ok (options.client ++ "-" ++ toString (b.joined + 1)) ∧
      (b.connect c).broker = { b with
        members := b.members ++
          [{ id := options.client ++ "-" ++ toString (b.joined + 1), options }]
        joined := b.joined + 1 } := by
  unfold connect
  cases MemberOptions.read c with
  | error fault => exact .inl ⟨_, rfl⟩
  | ok options => exact .inr ⟨options, rfl, rfl⟩

namespace Chronicle

variable {patterns : PatternReader} {s : Chronicle} {e : Happening} {id : String}

/-- Whoever's transport was closed has left. -/
theorem absent_of_closes (h : e.Closes s.broker id) : ¬ (s.after e).broker.Present id := by
  apply Broker.member?_eq_none_iff.mp
  cases e with
  | asked r =>
    cases h
    exact s.broker.member?_leave id
  | did c d =>
    cases d with
    | look | commitMessage => exact h.elim
    | close =>
      obtain ⟨rfl, hclosed, hcrash⟩ := h
      obtain ⟨b', hs, _, ⟨rfl, _⟩ | ⟨_, x, hx⟩⟩ :=
        Consumer.close_cases c { broker := s.broker } hclosed
      · have hb : (s.after (.did c .close)).broker = (s.broker.leave c.transport.member).broker := by
          show ((Deed.close.act (c, { broker := s.broker })).state.2).broker = _
          rw [Deed.act_close, hs]
        rw [hb]
        exact s.broker.member?_leave _
      · refine absurd ?_ (hcrash x)
        show (Deed.close.act (c, { broker := s.broker })).result = _
        rw [Deed.act_close, hx]
        rfl
    | release unwinding =>
      cases h
      have hb : (s.after (.did c (.release unwinding))).broker =
          (s.broker.leave c.transport.member).broker := by
        show ((Deed.act (.release unwinding) (c, { broker := s.broker })).state.2).broker = _
        rw [Deed.act_release, Consumer.state_release]
      rw [hb]
      exact s.broker.member?_leave _

/-- Nobody comes to be there by a step but whom it gives an id, and that is
made with the next number. -/
theorem joins_cases (s : Chronicle) (e : Happening) :
    (e.joins s.broker = [] ∧ ∀ id, (s.after e).broker.Present id → s.broker.Present id) ∨
    ∃ client, e.joins s.broker = [client ++ "-" ++ toString (s.broker.joined + 1)] ∧
      (s.after e).broker.joined = s.broker.joined + 1 ∧
      ∀ id, (s.after e).broker.Present id →
        s.broker.Present id ∨ id = client ++ "-" ++ toString (s.broker.joined + 1) := by
  cases e with
  | did c d => exact .inl ⟨rfl, fun id hp => not_imp_not.mp (s.done c d).absent hp⟩
  | asked r =>
    cases r with
    | connect c =>
      show _ ∨ ∃ client, _ ∧ (s.broker.connect c).broker.joined = _ ∧
        ∀ id, (s.broker.connect c).broker.Present id → _
      rcases s.broker.connect_cases c with ⟨f, hc⟩ | ⟨options, hr, hb⟩
      · refine .inl ⟨by rw [Happening.joins, hc]; rfl, fun id hp => ?_⟩
        change (s.broker.connect c).broker.Present id at hp
        rwa [hc] at hp
      · refine .inr ⟨options.client, by rw [Happening.joins, hr], by rw [hb], fun id hp => ?_⟩
        rw [hb] at hp
        unfold Broker.Present at hp
        rw [List.map_append, List.mem_append, List.map_singleton, List.mem_singleton] at hp
        exact hp
    | _ =>
      refine .inl ⟨rfl, fun id hp => ?_⟩
      by_contra hn
      exact (s.broker.perform_changed _).absent (by nofun) hn hp

/-- The ids of all who ever joined in a run, in their order. -/
def joined (hs : List Happening) (patterns : PatternReader := Pattern.reader) : List String :=
  gather Happening.joins hs patterns

/-- The ids that were given: each once, all of them given for good, and
nobody is there without one. -/
structure Roster (ids : List String) (b : Broker) : Prop where
  nodup : ids.Nodup
  issued : ∀ id ∈ ids, b.Issued id
  covers : ∀ id, b.Present id → id ∈ ids

/-- A step that lets somebody join gives an id that nobody was given before. -/
theorem Roster.after {ids : List String} (h : Roster ids s.broker) (e : Happening) :
    Roster (ids ++ e.joins s.broker) (s.after e).broker := by
  rcases s.joins_cases e with ⟨hnone, hpresent⟩ | ⟨client, hid, hjoined, hpresent⟩
  · rw [hnone, List.append_nil]
    exact ⟨h.nodup, fun id hmem => issued_after (h.issued id hmem) e,
      fun id hp => h.covers id (hpresent id hp)⟩
  · rw [hid]
    refine ⟨?_, fun id hmem => ?_, fun id hp => ?_⟩
    · -- an id that was given before has a smaller number at its end
      refine List.nodup_append.mpr ⟨h.nodup, List.nodup_singleton _, fun id hmem id' hmem' => ?_⟩
      rw [List.mem_singleton.mp hmem']
      exact (h.issued id hmem).ne_next client
    · rcases List.mem_append.mp hmem with hmem | hmem
      · exact issued_after (h.issued id hmem) e
      · rw [List.mem_singleton.mp hmem]
        exact ⟨client, _, Nat.le_of_eq hjoined.symm, rfl⟩
    · rcases hpresent id hp with hp | rfl
      · exact List.mem_append_left _ (h.covers id hp)
      · exact List.mem_append_right _ (List.mem_singleton_self _)

/-- The ids given in a run account for everybody who is there. -/
theorem roster_run (hs : List Happening) (patterns : PatternReader) :
    Roster (joined hs patterns) (run hs patterns).broker := by
  induction hs using List.reverseRecOn with
  | nil => exact ⟨List.nodup_nil, nofun, nofun⟩
  | append_singleton hs e ih =>
    unfold joined
    rw [gather_append_singleton, run_append_singleton]
    exact ih.after e

/-- Whoever has left does not come back in any row of steps. -/
theorem absent_foldl (h : s.broker.Issued id) (hn : ¬ s.broker.Present id) (es : List Happening) :
    ¬ (es.foldl after s).broker.Present id := by
  induction es generalizing s with
  | nil => exact hn
  | cons e es ih => exact ih (issued_after h e) (absent_after h hn e)

/-- No id is given twice in a run, whatever clients call themselves, and
nobody is there but whoever was given one. Once the transport of somebody
who has joined is closed, it stays so for good, whoever joins later:
whatever is asked at its seat is answered as to one who is gone and changes
nothing, as does letting go of it, and only its id can still be told. -/
theorem run_identities (hs : List Happening) (patterns : PatternReader) :
    (joined hs patterns).Nodup ∧
    (∀ m ∈ (run hs patterns).broker.members, m.id ∈ joined hs patterns) ∧
    ∀ (e : Happening) (es : List Happening) (seat : Seat) (w : Cluster),
      seat.member ∈ joined hs patterns → e.Closes (run hs patterns).broker seat.member →
      w.broker = (run (hs ++ e :: es) patterns).broker →
        (∀ a, ∃ told, Session.askTransport a (.seat seat, w) =
          ⟨(a.answerToGone patterns).mapError .failure, (.seat seat, w), .asked a :: told⟩) ∧
        Transport.release (Link.seat seat, w) = ⟨.ok (), (.seat seat, w), []⟩ ∧
        Transport.memberId Cluster (Link.seat seat) = seat.member := by
  have hroster := roster_run hs patterns
  refine ⟨hroster.nodup, fun m hm => hroster.covers m.id (List.mem_map_of_mem hm), ?_⟩
  intro e es seat w hjoined hcloses hw
  have hissued := issued_after (hroster.issued _ hjoined) e
  have hgone : ¬ w.broker.Present seat.member := by
    rw [hw]
    show ¬ ((hs ++ e :: es).foldl after { broker := { patterns } }).broker.Present seat.member
    rw [List.foldl_append]
    exact absent_foldl hissued (absent_of_closes hcloses) es
  have hpatterns : w.broker.patterns = patterns := by rw [hw, patterns_run]
  refine ⟨fun a => hpatterns ▸ Seat.askTransport_of_absent hgone a, ?_, rfl⟩
  have hleave := Seat.act_of_eq (Broker.leave_of_absent hgone) rfl
  exact congrArg (Link.onto .seat) hleave

/-- Two clients of one group, the second with the name that the first was
given as its id. -/
def namesakes : List Happening :=
  let named (client : String) := Configuration.ofPairs [("client.id", client), ("group.id", "g")]
  [.asked (.createTopic "t" 1), .asked (.connect (named "a")),
    .asked (.member "a-1" (.subscribe ["t"])), .asked (.connect (named "a-1"))]

/-- The first of them is closed, and its seat stays empty when both clients
connect once more. -/
theorem run_identities_namesakes :
    let e : Happening := .did { transport := ⟨"a-1", "g"⟩ } .close
    let es := [namesakes[1], namesakes[3]]
    let w : Cluster := {
      broker := (run (namesakes ++ e :: es)).broker
      agenda := [⟨5, .produce ⟨"t", 0⟩ none []⟩] }
    joined (namesakes ++ e :: es) = ["a-1", "a-1-2", "a-3", "a-1-4"] ∧
      (joined (namesakes ++ e :: es)).Nodup ∧
      (∃ told, Session.askTransport (.poll 10) (.seat ⟨"a-1", "g"⟩, w) =
        ⟨.error (.failure (.ofCode .destroyed)), (.seat ⟨"a-1", "g"⟩, w),
          .asked (.poll 10) :: told⟩) ∧
      ∃ told, Session.askTransport (.commit [] true) (.seat ⟨"a-1", "g"⟩, w) =
        ⟨.ok .done, (.seat ⟨"a-1", "g"⟩, w), .asked (.commit [] true) :: told⟩ := by
  intro e es w
  have hjoined : joined (namesakes ++ e :: es) = ["a-1", "a-1-2", "a-3", "a-1-4"] := by
    decide +kernel
  have hmem : "a-1" ∈ joined namesakes := by decide +kernel
  have hcloses : e.Closes (run namesakes).broker "a-1" := by
    refine ⟨rfl, rfl, fun x hx => ?_⟩
    have hok : (Happening.outcome (run namesakes).broker
        { transport := ⟨"a-1", "g"⟩ } .close).result.toOption.isSome = true := by decide +kernel
    rw [hx] at hok
    cases hok
  obtain ⟨hnodup, _⟩ := run_identities (namesakes ++ e :: es) Pattern.reader
  obtain ⟨_, _, hdead⟩ := run_identities namesakes Pattern.reader
  obtain ⟨hasks, _⟩ := hdead e es ⟨"a-1", "g"⟩ w hmem hcloses rfl
  exact ⟨hjoined, hnodup, hasks (.poll 10), hasks (.commit [] true)⟩

end Chronicle

end ConsumerGroup
