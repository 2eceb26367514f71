import ConsumerGroup.Broker.Operation
import ConsumerGroup.Proofs.Broker.Topics

/-!
# What a request changes

`Broker.Changed` lists, request by request, everything a broker can be
changed into by what is asked of it, with what has been checked before.
`perform_changed` says that the list is complete. Whatever has to hold
after every request is proved from the list and never from the
operations themselves, so that an operation whose checks are reordered,
or which tells other things in the diary, concerns this module alone.

The constructors carry what was checked on the way: that the member is
there, that a list names no partition twice, that every entry can be
committed. What an operation answers, whom it wakes and what it tells are
not in the list.
-/

namespace ConsumerGroup

namespace Broker

/-- What a broker is changed into by a request: nothing, or what the
request is for. -/
inductive Changed (b : Broker) : Request → Broker → Prop
  | nothing {r : Request} : Changed b r b
  | topicCreated {name : String} {n : Int} (b' : Broker) (hname : name ∉ b.topics.names)
      (hb : b' = { b with topics := b.topics.insert ⟨name, List.replicate n.toNat {}⟩ }) :
      Changed b (.createTopic name n) (b'.rebalancedAll (b'.groupsCovering name))
  | appended {p : Partition} {key : Option (List UInt8)} {payload : List UInt8} {l : Log}
      (hl : b.log? p = some l) :
      Changed b (.produce p key payload)
        { b with topics := b.topics.modifyLog p (·.append ⟨key, some payload⟩) }
  | dropped {p : Partition} {before : Int} {l : Log} (hl : b.log? p = some l) :
      Changed b (.deleteRecords p before)
        { b with topics := b.topics.modifyLog p (·.dropBelow before) }
  | connected {c : Configuration} {options : MemberOptions} (ho : MemberOptions.read c = .ok options) :
      Changed b (.connect c)
        { b with
          members := b.members ++
            [{ id := options.client ++ "-" ++ toString (b.joined + 1), options }]
          joined := b.joined + 1 }
  | rebalanced {g : String} : Changed b (.rebalance g) (b.rebalanced g)
  | notified {id : String} {code : StatusCode} {partitions : PartitionList} {m : Member}
      (hm : b.member? id = some m) :
      Changed b (.notify id code partitions)
        (b.modifyMember id fun m => { m with queue := m.queue ++ [⟨code, partitions⟩] })
  | resubscribed {id : String} {r : MemberRequest} {m : Member} {subscription : List Subscription}
      (hr : r = .unsubscribe ∨ ∃ topics, r = .subscribe topics) (hm : b.member? id = some m) :
      Changed b (.member id r)
        ((b.modifyMember id fun m => { m with subscription }).rebalanced m.group)
  | assigned {id : String} {partitions : PartitionList} {m : Member} {assignment : List Slot}
      (hd : ¬ partitions.hasDuplicates = true) (hm : b.member? id = some m)
      (hs : b.slots m partitions = .ok assignment) :
      Changed b (.member id (.assign partitions))
        (b.modifyMember id fun m => { m with assignment, cursor := 0 })
  | unassigned {id : String} {m : Member} (hm : b.member? id = some m) :
      Changed b (.member id .unassign)
        (b.modifyMember id fun m => { m with assignment := [], cursor := 0 })
  | looked {id : String} {m : Member} (hm : b.member? id = some m) :
      Changed b (.member id .next) (b.modifyMember id fun _ => (m.next b.topics).2)
  | committed {id : String} {m : Member} {offsets : PartitionList} {asynchronous : Bool}
      (hm : b.member? id = some m) (hf : b.commitFault? offsets = none) :
      Changed b (.member id (.commit offsets asynchronous)) (b.putAllCommitted m.group offsets)
  | left {id : String} {m : Member} (hm : b.member? id = some m) :
      Changed b (.member id .leave)
        ({ b with members := b.members.filter (·.id ≠ id) }.rebalanced m.group)

@[simp] theorem broker_map {α β : Type} (f : α → β) (e : Effect α) : (e.map f).broker = e.broker := rfl

/-- A topic is added and every group that covers it is dealt to, or nothing is
changed. -/
theorem changed_createTopic (b : Broker) (name : String) (n : Int) :
    b.Changed (.createTopic name n) (b.createTopic name n).broker := by
  unfold createTopic
  split
  · exact .nothing
  · split
    · exact .nothing
    · next hname =>
      refine .topicCreated _ ?_ rfl
      exact Topics.find?_eq_none_iff.mp (Option.not_isSome_iff_eq_none.mp hname)

theorem changed_produce (b : Broker) (p : Partition) (key : Option (List UInt8))
    (payload : List UInt8) : b.Changed (.produce p key payload) (b.produce p key payload).broker := by
  unfold produce
  split
  · exact .nothing
  · next hl => exact .appended hl

theorem changed_deleteRecords (b : Broker) (p : Partition) (before : Int) :
    b.Changed (.deleteRecords p before) (b.deleteRecords p before).broker := by
  unfold deleteRecords
  split
  · exact .nothing
  · next hl => exact .dropped hl

theorem changed_connect (b : Broker) (c : Configuration) :
    b.Changed (.connect c) (b.connect c).broker := by
  unfold connect
  split
  · exact .nothing
  · next ho => exact .connected ho

theorem changed_notify (b : Broker) (id : String) (code : StatusCode) (partitions : PartitionList) :
    b.Changed (.notify id code partitions) (b.notify id code partitions).broker := by
  unfold notify
  split
  · exact .nothing
  · next hm => exact .notified hm

/-- Whoever subscribes, or no longer does, has its group dealt to. -/
theorem changed_resubscribe {b : Broker} {id : String} {r : MemberRequest} {m : Member}
    (hr : r = .unsubscribe ∨ ∃ topics, r = .subscribe topics) (hm : b.member? id = some m)
    (subscription : List Subscription) :
    b.Changed (.member id r) (b.resubscribe m subscription).broker := by
  have hid : m.id = id := id_of_member? hm
  unfold resubscribe forceRebalance
  rw [hid]
  exact .resubscribed hr hm

theorem changed_subscribe (b : Broker) (id : String) (topics : List String) :
    b.Changed (.member id (.subscribe topics)) (b.subscribe id topics).broker := by
  unfold subscribe
  split
  · exact .nothing
  · split
    · exact .nothing
    · split
      · exact .nothing
      · next hm => exact changed_resubscribe (.inr ⟨topics, rfl⟩) hm _

theorem changed_unsubscribe (b : Broker) (id : String) :
    b.Changed (.member id .unsubscribe) (b.unsubscribe id).broker := by
  unfold unsubscribe
  split
  · exact .nothing
  · next hm => exact changed_resubscribe (.inl rfl) hm []

theorem changed_assign (b : Broker) (id : String) (partitions : PartitionList) :
    b.Changed (.member id (.assign partitions)) (b.assign id partitions).broker := by
  unfold assign
  split
  · exact .nothing
  · next hd =>
    split
    · exact .nothing
    · next hm =>
      split
      · exact .nothing
      · next hs => exact .assigned hd hm hs

theorem changed_unassign (b : Broker) (id : String) :
    b.Changed (.member id .unassign) (b.unassign id).broker := by
  unfold unassign
  split
  · exact .nothing
  · next hm => exact .unassigned hm

theorem changed_nextEvent (b : Broker) (id : String) :
    b.Changed (.member id .next) (b.nextEvent id).broker := by
  unfold nextEvent
  split
  · exact .nothing
  · next hm => exact .looked hm

/-- Whether a commit is waited for makes no difference to the broker. -/
theorem broker_commit (b : Broker) (id : String) (offsets : PartitionList) (asynchronous : Bool) :
    (b.commit id offsets asynchronous).broker = (b.commitNow id offsets).broker := by
  unfold commit
  dsimp only
  split <;> rfl

theorem changed_commit (b : Broker) (id : String) (offsets : PartitionList) (asynchronous : Bool) :
    b.Changed (.member id (.commit offsets asynchronous))
      (b.commit id offsets asynchronous).broker := by
  rw [broker_commit]
  unfold commitNow
  split
  · exact .nothing
  · next hm =>
    split
    · exact .nothing
    · split
      · exact .nothing
      · next hf => exact .committed hm hf

theorem changed_leave (b : Broker) (id : String) :
    b.Changed (.member id .leave) (b.leave id).broker := by
  unfold leave
  split
  · exact .nothing
  · next hm => exact .left hm

/-- A request changes a broker in no other way than the one it is for. -/
theorem perform_changed (b : Broker) (r : Request) : b.Changed r (b.perform r).broker := by
  cases r with
  | createTopic name n => exact b.changed_createTopic name n
  | produce p key payload => exact b.changed_produce p key payload
  | deleteRecords p before => exact b.changed_deleteRecords p before
  | connect c => exact b.changed_connect c
  | rebalance g => exact .rebalanced
  | notify id code partitions => exact b.changed_notify id code partitions
  | watermarks | committed | members | describe => exact .nothing
  | member id r =>
    cases r with
    | next => exact b.changed_nextEvent id
    | subscribe topics => exact b.changed_subscribe id topics
    | unsubscribe => exact b.changed_unsubscribe id
    | assign partitions => exact b.changed_assign id partitions
    | unassign => exact b.changed_unassign id
    | commit offsets asynchronous => exact b.changed_commit id offsets asynchronous
    | leave => exact b.changed_leave id
    | watermarks | committed | positions | assignment | subscription => exact .nothing

end Broker

end ConsumerGroup
