import ConsumerGroup.Proofs.Broker.Queue
import ConsumerGroup.Proofs.Broker.Sparing
import ConsumerGroup.Proofs.Broker.Waking

/-!
# What is queued for a member, and what is taken

For each request, which notifications it queues for a member
(`Broker.queues`), told from the request and the state it is made in: one
that is sent by hand, and what each rebalance deals to the member. What
is taken is what a poll of the member brings (`Broker.takes`).

Nothing is lost, doubled or overtaken: what is taken, and then what still
waits, is what waited before, and then what is queued
(`Broker.queueOf_perform`). Only whoever leaves takes along what waits
for it.

It is said once for each request what it queues, and once for all of them
that nothing else is. A request that is refused queues nothing. One that
ends with rebalances queues what these deal (`Broker.rebalancing`), also
where a share comes out as it was.
-/

namespace ConsumerGroup

namespace Member

variable {m : Member} {q : Queued} {rest : List Queued}

/-- Whoever has no notification waiting looks for a message. -/
theorem next_of_nil (h : m.queue = []) (ts : Topics) :
    m.next ts = ((m.fetch ts).1.map .message, (m.fetch ts).2) := by
  unfold next
  rw [h]

/-- A notification that waits comes before any message. -/
theorem next_of_cons (h : m.queue = q :: rest) (ts : Topics) :
    m.next ts = (some (.rebalance q.code q.partitions), { m with queue := rest }) := by
  unfold next
  rw [h]

/-- To look for a message leaves what waits. -/
theorem queue_fetch (m : Member) (ts : Topics) : (m.fetch ts).2.queue = m.queue := by
  rw [fetch_frame]

/-- What waits is brought from its front. -/
theorem queue_next (m : Member) (ts : Topics) : (m.next ts).2.queue = m.queue.tail := by
  cases hq : m.queue with
  | nil => rw [next_of_nil hq, queue_fetch, hq, List.tail_nil]
  | cons q rest => rw [next_of_cons hq, List.tail_cons]

end Member

namespace Broker

variable {b b' : Broker} {id id' g : String} {m m' : Member}

/-- What waits for the member with an id; nothing, if it is not there. -/
def queueOf (b : Broker) (id : String) : List Queued := (b.member? id).elim [] Member.queue

theorem queueOf_of_member? (h : b.member? id = some m) : b.queueOf id = m.queue := by
  unfold queueOf
  rw [h]
  rfl

theorem queueOf_of_absent (h : ¬ b.Present id) : b.queueOf id = [] := by
  unfold queueOf
  rw [member?_eq_none_iff.mpr h]
  rfl

/-! ## What is queued -/

/-- What a rebalance of a group queues for the member with an id. -/
def dealsTo (b : Broker) (g id : String) : List Queued :=
  ((b.members.zip (b.shares g)).find? (·.1.id == id)).elim [] fun (m, share) =>
    if m.group = g then dealtNotices m share else []

/-- What the rebalances of several groups, one after the other, queue for
the member with an id. -/
def dealsAllTo (b : Broker) : List String → String → List Queued
  | [], _ => []
  | g :: groups, id => b.dealsTo g id ++ (b.rebalanced g).dealsAllTo groups id

/-- The group of the member with an id, if it is there. -/
def groupOf (b : Broker) (id : String) : List String := (b.member? id).toList.map Member.group

/-- What a request, if it is not refused, makes of the broker before any
group rebalances, and the groups that then do. -/
def rebalancing (b : Broker) : Request → Broker × List String
  | .createTopic name n =>
    let b' := { b with topics := b.topics.insert ⟨name, List.replicate n.toNat {}⟩ }
    (b', b'.groupsCovering name)
  | .rebalance g => (b, [g])
  | .member id (.subscribe topics) =>
    let subscription := (Subscription.ofTexts b.patterns topics).toOption.getD []
    (b.modifyMember id fun m => { m with subscription }, b.groupOf id)
  | .member id .unsubscribe =>
    (b.modifyMember id fun m => { m with subscription := [] }, b.groupOf id)
  | .member id .leave => ({ b with members := b.members.filter (·.id ≠ id) }, b.groupOf id)
  | _ => (b, [])

/-- What a request queues for the member with an id, by hand or by
rebalances. A request that is refused queues nothing. -/
def queues (b : Broker) (id : String) (r : Request) : List Queued :=
  match (b.perform r).result, r with
  | .error _, _ => []
  | .ok _, .notify id' code partitions => if id' = id then [⟨code, partitions⟩] else []
  | .ok _, r => (b.rebalancing r).1.dealsAllTo (b.rebalancing r).2 id

/-! ## What is taken -/

/-- The notification that a poll of the member brings, if it brings one. -/
def takes (b : Broker) (id : String) : List Queued :=
  match (b.nextEvent id).result with
  | .ok (some (.rebalance code partitions)) => [⟨code, partitions⟩]
  | _ => []

/-- The notification that a request takes from the member with an id. -/
def takesBy (b : Broker) (id : String) : Request → List Queued
  | .member id' .next => if id' = id then b.takes id else []
  | _ => []

/-- A request that is not a poll takes nothing. -/
theorem takesBy_of_ne {r : Request} (h : r ≠ .member id .next) : b.takesBy id r = [] := by
  unfold takesBy
  split
  · next id' =>
    refine if_neg ?_
    rintro rfl
    exact h rfl
  · rfl

/-- A poll takes the first notification that waits. -/
theorem takes_of_member? (h : b.member? id = some m) : b.takes id = m.queue.head?.toList := by
  unfold takes
  rw [nextEvent_of_member? h]
  cases hq : m.queue with
  | nil =>
    rw [Member.next_of_nil hq]
    cases (m.fetch b.topics).1 <;> rfl
  | cons q rest => rw [Member.next_of_cons hq]; rfl

/-- A poll of whoever is not there takes nothing. -/
theorem takes_of_absent (h : ¬ b.Present id) : b.takes id = [] := by
  unfold takes
  rw [nextEvent_of_absent h]
  rfl

/-- A poll takes what waits first. -/
theorem takes_prefix (b : Broker) (id : String) : b.takes id <+: b.queueOf id := by
  cases hm : b.member? id with
  | none =>
    rw [takes_of_absent (member?_eq_none_iff.mp hm)]
    exact List.nil_prefix
  | some m =>
    rw [takes_of_member? hm, queueOf_of_member? hm]
    cases m.queue with
    | nil => exact List.nil_prefix
    | cons q rest => exact ⟨rest, rfl⟩

/-! ## What waits afterwards -/

/-- What waits for whom is up to the members alone. -/
theorem queueOf_of_members (h : b'.members = b.members) : b'.queueOf id = b.queueOf id := by
  unfold queueOf member?
  rw [h]

/-- What is changed about members and not what waits for them. -/
theorem queueOf_modifyMember {f : Member → Member} (hid : ∀ m, m.id = id' → (f m).id = id')
    (hf : ∀ m, (f m).queue = m.queue) : (b.modifyMember id' f).queueOf id = b.queueOf id := by
  unfold queueOf
  by_cases he : id = id'
  · subst he
    rw [member?_modifyMember hid]
    cases b.member? id with
    | none => rfl
    | some m => exact hf m
  · rw [member?_modifyMember_of_ne he hid]

/-- Another member's queue is not touched. -/
theorem queueOf_modifyMember_of_ne {f : Member → Member} (hne : id ≠ id')
    (hid : ∀ m, m.id = id' → (f m).id = id') : (b.modifyMember id' f).queueOf id = b.queueOf id := by
  unfold queueOf
  rw [member?_modifyMember_of_ne hne hid]

/-- Who stays when another leaves. -/
theorem member?_left (hne : id ≠ id') :
    ({ b with members := b.members.filter (·.id ≠ id') } : Broker).member? id = b.member? id := by
  have hfind : (fun m : Member => decide (decide (m.id ≠ id') = true ∧ (m.id == id) = true)) =
      fun m => m.id == id := by
    funext m
    by_cases he : m.id = id
    · simp [he, hne]
    · simp [he]
  unfold member?
  rw [List.find?_filter, hfind]

/-- When one leaves, what waits for others stays. -/
theorem queueOf_left (hne : id ≠ id') :
    ({ b with members := b.members.filter (·.id ≠ id') } : Broker).queueOf id = b.queueOf id := by
  unfold queueOf
  rw [member?_left hne]

/-- A rebalance queues for each member what it deals to it. -/
theorem queueOf_rebalanced (b : Broker) (g id : String) :
    (b.rebalanced g).queueOf id = b.queueOf id ++ b.dealsTo g id := by
  have hlength : b.members.length = (b.shares g).length := (length_sharesFrom _ _ _).symm
  unfold queueOf member? dealsTo rebalanced
  dsimp only
  generalize b.shares g = shares at hlength
  generalize b.members = members at hlength
  induction members generalizing shares with
  | nil => rfl
  | cons m members ih =>
    cases shares with
    | nil => cases hlength
    | cons share shares =>
      rw [List.zipWith_cons_cons, List.zip_cons_cons, List.find?_cons, List.find?_cons,
        List.find?_cons, id_rebalanced]
      cases hid : m.id == id with
      | false => exact ih shares (Nat.succ.inj hlength)
      | true =>
        show (m.rebalanced g share).queue = m.queue ++ if m.group = g then dealtNotices m share else []
        by_cases hg : m.group = g
        · rw [Member.rebalanced_of_eq hg, if_pos hg]
        · rw [Member.rebalanced_of_ne hg, if_neg hg, List.append_nil]

/-- What is dealt to a row of groups comes behind what waits, in the order of
the groups. -/
theorem queueOf_rebalancedAll (b : Broker) (groups : List String) (id : String) :
    (b.rebalancedAll groups).queueOf id = b.queueOf id ++ b.dealsAllTo groups id := by
  unfold rebalancedAll
  induction groups generalizing b with
  | nil => exact (List.append_nil _).symm
  | cons g groups ih =>
    rw [List.foldl_cons, ih, queueOf_rebalanced, dealsAllTo, List.append_assoc]

/-! ## Request by request -/

/-- What a request that is not refused and sends nothing by hand queues. -/
theorem queues_of_ok {r : Request} {x : Response} (hr : (b.perform r).result = .ok x)
    (hn : ∀ id' code partitions, r ≠ .notify id' code partitions) :
    b.queues id r = (b.rebalancing r).1.dealsAllTo (b.rebalancing r).2 id := by
  unfold queues
  rw [hr]
  cases r with
  | notify id' code partitions => exact absurd rfl (hn id' code partitions)
  | _ => rfl

/-- A request that fails queues nothing. -/
theorem queues_of_error {r : Request} {f : Failure} (hr : (b.perform r).result = .error f) :
    b.queues id r = [] := by
  unfold queues
  rw [hr]

/-- Who has no group rebalance queues nothing. -/
theorem queues_of_none {r : Request} (hn : ∀ id' code partitions, r ≠ .notify id' code partitions)
    (hr : (b.rebalancing r).2 = []) : b.queues id r = [] := by
  cases hresult : (b.perform r).result with
  | error f => exact queues_of_error hresult
  | ok x =>
    rw [queues_of_ok hresult hn, hr]
    rfl

theorem groupOf_of_member? (h : b.member? id = some m) : b.groupOf id = [m.group] := by
  unfold groupOf
  rw [h]
  rfl

theorem groupOf_of_absent (h : ¬ b.Present id) : b.groupOf id = [] := by
  unfold groupOf
  rw [member?_eq_none_iff.mpr h]
  rfl

/-- A topic is there before anybody is dealt to, and then all groups that
cover it are. -/
theorem rebalancing_createTopic {name : String} {n : Int} {x : Unit}
    (hx : (b.createTopic name n).result = .ok x) : (b.createTopic name n).broker =
      (b.rebalancing (.createTopic name n)).1.rebalancedAll
        (b.rebalancing (.createTopic name n)).2 := by
  unfold createTopic at hx ⊢
  split at hx
  · cases hx
  · next hvalid =>
    rw [if_neg hvalid]
    split at hx
    · cases hx
    · next hnew =>
      rw [if_neg hnew]
      rfl

/-- Whoever subscribes does so before its group is dealt to. -/
theorem rebalancing_subscribe {topics : List String} {x : Unit}
    (hx : (b.subscribe id topics).result = .ok x) : (b.subscribe id topics).broker =
      (b.rebalancing (.member id (.subscribe topics))).1.rebalancedAll
        (b.rebalancing (.member id (.subscribe topics))).2 := by
  unfold subscribe at hx ⊢
  split at hx
  · cases hx
  · next hsome =>
    rw [if_neg hsome]
    cases hs : Subscription.ofTexts b.patterns topics with
    | error f =>
      rw [hs] at hx
      cases hx
    | ok subscription =>
      rw [hs] at hx
      cases hm : b.member? id with
      | none =>
        rw [hm] at hx
        cases hx
      | some m =>
        unfold rebalancing
        dsimp only
        rw [groupOf_of_member? hm, hs]
        show ((b.modifyMember m.id _).forceRebalance m.group).broker = _
        rw [id_of_member? hm]
        rfl

/-- Whoever ends its subscriptions does so before its group is dealt to. -/
theorem rebalancing_unsubscribe {x : Unit} (hx : (b.unsubscribe id).result = .ok x) :
    (b.unsubscribe id).broker = (b.rebalancing (.member id .unsubscribe)).1.rebalancedAll
      (b.rebalancing (.member id .unsubscribe)).2 := by
  unfold unsubscribe at hx ⊢
  cases hm : b.member? id with
  | none =>
    rw [hm] at hx
    cases hx
  | some m =>
    unfold rebalancing
    dsimp only
    rw [groupOf_of_member? hm]
    show ((b.modifyMember m.id _).forceRebalance m.group).broker = _
    rw [id_of_member? hm]
    rfl

/-- Whoever leaves is gone before its group is dealt to. -/
theorem rebalancing_leave (b : Broker) (id : String) : (b.leave id).broker =
    (b.rebalancing (.member id .leave)).1.rebalancedAll (b.rebalancing (.member id .leave)).2 := by
  unfold leave rebalancing
  cases hm : b.member? id with
  | none =>
    have hstay : b.members.filter (·.id ≠ id) = b.members := by
      refine List.filter_eq_self.mpr fun m hmem => ?_
      simpa using List.find?_eq_none.mp hm m hmem
    dsimp only
    rw [groupOf_of_absent (member?_eq_none_iff.mp hm), hstay]
    rfl
  | some m =>
    dsimp only
    rw [groupOf_of_member? hm]
    rfl

/-- What was queued before groups rebalance is still queued. -/
theorem queueOf_rebalancing {r : Request} (hr : r ≠ .member id .leave) :
    (b.rebalancing r).1.queueOf id = b.queueOf id := by
  unfold rebalancing
  split
  · exact queueOf_of_members rfl
  · rfl
  · exact queueOf_modifyMember (fun _ h => h) fun _ => rfl
  · exact queueOf_modifyMember (fun _ h => h) fun _ => rfl
  · next id' =>
    refine queueOf_left ?_
    rintro rfl
    exact hr rfl
  · rfl

/-- A request that is done by having groups rebalance queues for each member
what is dealt to it. -/
theorem queueOf_of_rebalancing {r : Request} (hr : r ≠ .member id .leave) {x : Response}
    (hx : (b.perform r).result = .ok x) (hn : ∀ id' code partitions, r ≠ .notify id' code partitions)
    (hb : (b.perform r).broker = (b.rebalancing r).1.rebalancedAll (b.rebalancing r).2) :
    (b.perform r).broker.queueOf id = b.queueOf id ++ b.queues id r := by
  rw [hb, queueOf_rebalancedAll, queueOf_rebalancing hr, queues_of_ok hx hn]

/-- A notification by hand comes behind what waits for its member. -/
theorem queueOf_notify {id' : String} {code : StatusCode} {partitions : PartitionList} {x : Unit}
    (hx : (b.notify id' code partitions).result = .ok x) :
    (b.notify id' code partitions).broker.queueOf id =
      b.queueOf id ++ if id' = id then [⟨code, partitions⟩] else [] := by
  unfold notify at hx ⊢
  cases hm : b.member? id' with
  | none =>
    rw [hm] at hx
    cases hx
  | some m =>
    dsimp only
    by_cases he : id' = id
    · subst he
      rw [if_pos rfl, queueOf_of_member? hm]
      have hid : ∀ m : Member, m.id = id' →
          ({ m with queue := m.queue ++ [⟨code, partitions⟩] } : Member).id = id' := fun _ h => h
      refine queueOf_of_member? (m := { m with queue := m.queue ++ [⟨code, partitions⟩] }) ?_
      rw [member?_modifyMember hid, hm]
      rfl
    · rw [if_neg he, List.append_nil]
      exact queueOf_modifyMember_of_ne (Ne.symm he) fun _ h => h

/-- When somebody polls that is not there, nobody takes anything. -/
theorem takesBy_of_absent (h : ¬ b.Present id') (id : String) :
    b.takesBy id (.member id' .next) = [] := by
  show (if id' = id then b.takes id else []) = []
  split
  · next he => rw [← he, takes_of_absent h]
  · rfl

/-- What a poll takes and what it leaves is what waited. -/
theorem queueOf_popped (hm : b.member? id' = some m) (hid : m'.id = id')
    (hq : m'.queue = m.queue.tail) (id : String) :
    b.takesBy id (.member id' .next) ++ (b.modifyMember id' fun _ => m').queueOf id =
      b.queueOf id := by
  show (if id' = id then b.takes id else []) ++ _ = _
  by_cases he : id' = id
  · subst he
    have hm' : (b.modifyMember id' fun _ => m').member? id' = some m' := by
      rw [member?_modifyMember fun _ _ => hid, hm]
      rfl
    rw [if_pos rfl, takes_of_member? hm, queueOf_of_member? hm, queueOf_of_member? hm', hq]
    cases m.queue <;> rfl
  · rw [if_neg he, queueOf_modifyMember_of_ne (Ne.symm he) fun _ _ => hid]
    rfl

/-- What a poll takes and what still waits is what waited before. -/
theorem queueOf_nextEvent (b : Broker) (id id' : String) :
    b.takesBy id (.member id' .next) ++ (b.nextEvent id').broker.queueOf id = b.queueOf id := by
  cases hm : b.member? id' with
  | none =>
    have hn : ¬ b.Present id' := member?_eq_none_iff.mp hm
    rw [takesBy_of_absent hn, nextEvent_of_absent hn]
    rfl
  | some m =>
    rw [nextEvent_of_member? hm]
    exact queueOf_popped hm ((id_next m _).trans (id_of_member? hm)) (m.queue_next _) id

end Broker

/-- The request queues nothing for anybody and takes nothing. -/
def Request.isQuiet : Request → Bool
  | .createTopic .. | .rebalance _ | .notify .. => false
  | .member _ .next | .member _ (.subscribe _) | .member _ .unsubscribe | .member _ .leave => false
  | _ => true

namespace Broker

variable {b b' : Broker} {id : String} {r : Request}

/-- A quiet request leaves everything waiting that waits. -/
theorem Changed.queueOf (h : b.Changed r b') (hq : r.isQuiet = true) :
    b'.queueOf id = b.queueOf id := by
  cases h with
  | topicCreated | rebalanced | notified | looked | left => cases hq
  | resubscribed hr => rcases hr with rfl | ⟨_, rfl⟩ <;> cases hq
  | nothing => rfl
  | appended | dropped => exact queueOf_of_members rfl
  | connected =>
    -- Nothing waits for whoever has just joined.
    unfold Broker.queueOf member?
    rw [List.find?_append, List.find?_singleton]
    cases b.members.find? (·.id == id) with
    | some m => rfl
    | none => split <;> rfl
  | assigned | unassigned => exact queueOf_modifyMember (fun _ h => h) fun _ => rfl
  | committed => exact queueOf_of_members (b.putAllCommitted_frame _ _).2.1

/-- A quiet request neither takes nor queues anything. -/
theorem quiet (hq : r.isQuiet = true) : b.takesBy id r = [] ∧ b.queues id r = [] := by
  cases r with
  | createTopic | rebalance | notify => cases hq
  | member id' r =>
    cases r with
    | next | subscribe | unsubscribe | leave => cases hq
    | _ => exact ⟨rfl, queues_of_none nofun rfl⟩
  | _ => exact ⟨rfl, queues_of_none nofun rfl⟩

/-- A request that is done and takes nothing adds what it queues to what
waits. -/
theorem queueOf_perform_of_ok (hq : r.isQuiet = false) (hr : r ≠ .member id .leave)
    (hn : ∀ id', r ≠ .member id' .next) {x : Response} (hx : (b.perform r).result = .ok x) :
    (b.perform r).broker.queueOf id = b.queueOf id ++ b.queues id r := by
  -- the answer does not matter, only that there is one
  have hdone {α : Type} {e : Effect α} {f : α → Response} (h : (e.map f).result = .ok x) :
      ∃ y, e.result = .ok y := by
    change e.result.map f = _ at h
    cases he : e.result with
    | ok y => exact ⟨y, rfl⟩
    | error failure =>
      rw [he] at h
      cases h
  cases r with
  | createTopic name n =>
    obtain ⟨_, hdone⟩ := hdone hx
    exact queueOf_of_rebalancing hr hx nofun (rebalancing_createTopic hdone)
  | rebalance g => exact queueOf_of_rebalancing hr hx nofun rfl
  | notify id' code partitions =>
    obtain ⟨_, hdone⟩ := hdone hx
    unfold queues
    rw [hx]
    exact queueOf_notify hdone
  | member id' r =>
    cases r with
    | next => exact absurd rfl (hn id')
    | subscribe topics =>
      obtain ⟨_, hdone⟩ := hdone hx
      exact queueOf_of_rebalancing hr hx nofun (rebalancing_subscribe hdone)
    | unsubscribe =>
      obtain ⟨_, hdone⟩ := hdone hx
      exact queueOf_of_rebalancing hr hx nofun (rebalancing_unsubscribe hdone)
    | leave => exact queueOf_of_rebalancing hr hx nofun (b.rebalancing_leave id')
    | _ => cases hq
  | _ => cases hq

/-- What a request takes from a member, and then what waits for it, is what
waited before, and then what the request queues. -/
theorem queueOf_perform (hr : r ≠ .member id .leave) :
    b.takesBy id r ++ (b.perform r).broker.queueOf id = b.queueOf id ++ b.queues id r := by
  by_cases hq : r.isQuiet = true
  · rw [(quiet hq).1, (quiet hq).2, (b.perform_changed r).queueOf hq, List.append_nil]
    rfl
  by_cases hn : ∃ id', r = .member id' .next
  · obtain ⟨id', rfl⟩ := hn
    rw [queues_of_none (r := .member id' .next) nofun rfl, List.append_nil]
    exact b.queueOf_nextEvent id id'
  rw [takesBy_of_ne fun he => hn ⟨id, he⟩, List.nil_append]
  cases hx : (b.perform r).result with
  | error f =>
    rw [b.sparing_perform r f hx, queues_of_error hx, List.append_nil]
    rfl
  | ok x => exact queueOf_perform_of_ok (Bool.eq_false_iff.mpr hq) hr (not_exists.mp hn) hx

end Broker

end ConsumerGroup
