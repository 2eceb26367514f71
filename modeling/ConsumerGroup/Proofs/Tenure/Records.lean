import ConsumerGroup.Proofs.Broker.Records
import ConsumerGroup.Proofs.Tenure.Rows

/-!
# Records throughout a run

The history of a partition is what was written to it in a run, with the
numbers that were answered (`Chronicle.produced`), and where its log was
cut (`Chronicle.cuts`). At any time the log is what these two make it
(`Chronicle.madeBy_run`). So numbers are given without gaps and never
again, both ends of the log can be told from the history, and whoever is
brought a record is brought what was given to be written when its number
was answered (`Chronicle.run_records`).

A record is told apart from others by its number alone: two that have the
same key and payload are two. What happens to a record between the fetch and
whoever asked for it is nothing: it is brought as it was found.
-/

namespace ConsumerGroup

namespace Happening

/-- What a step writes to a partition. -/
def produced (p : Partition) (b : Broker) : Happening → List Produced
  | .asked r => r.produced b p
  | .did _ _ => []

/-- Where a step cuts the log of a partition. -/
def cuts (p : Partition) (b : Broker) : Happening → List Int
  | .asked r => r.cuts b p
  | .did _ _ => []

end Happening

namespace Broker

/-- Whatever a consumer does, the topics stay as they are. -/
theorem Done.topics_eq {b b' : Broker} {id : String} {d : Deed}
    {o : Outcome Entry (Consumer Seat × Cluster) (Option Message)} (h : b.Done id o d b') :
    b'.topics = b.topics :=
  h.holds (P := fun b' => b'.topics = b.topics) rfl (fun _ _ _ _ _ => rfl)
    fun r _ => (b.perform_changed (.member id r)).topics_eq rfl

end Broker

/-- The log of a partition, if there is one, is what a history makes it;
without one there is no history. -/
def Log.MadeAll (written : List Produced) (cuts : List Int) : Option Log → Prop
  | some l => l.MadeBy written cuts
  | none => written = [] ∧ cuts = []

/-- A history goes on with whatever is made of the log. -/
theorem Log.MadeAll.step {log log' : Option Log} {written news : List Produced}
    {cuts more : List Int} (h : MadeAll written cuts log) (hr : Remade log news more log') :
    MadeAll (written ++ news) (cuts ++ more) log' := by
  cases hr with
  | kept => simpa only [List.append_nil] using h
  | created =>
    obtain ⟨rfl, rfl⟩ := h
    exact madeBy_empty
  | appended =>
    rw [List.append_nil]
    exact MadeBy.append h _ _
  | dropped =>
    rw [List.append_nil]
    exact MadeBy.dropBelow h _

namespace Chronicle

variable {patterns : PatternReader} {hs : List Happening} {p : Partition}

/-- What was written to a partition in a run, in the order of the
requests. -/
def produced (p : Partition) (hs : List Happening) (patterns : PatternReader := Pattern.reader) :
    List Produced :=
  gather (Happening.produced p) hs patterns

/-- Where the log of a partition was cut in a run. -/
def cuts (p : Partition) (hs : List Happening) (patterns : PatternReader := Pattern.reader) :
    List Int :=
  gather (Happening.cuts p) hs patterns

/-- A step remakes the log of a partition as what it writes there and where it
cuts say. -/
theorem remade_after (s : Chronicle) (e : Happening) (p : Partition) :
    Log.Remade (s.broker.log? p) (e.produced p s.broker) (e.cuts p s.broker)
      ((s.after e).broker.log? p) := by
  cases e with
  | asked r => exact s.broker.remade_perform r p
  | did c d =>
    have hlog : (s.after (.did c d)).broker.log? p = s.broker.log? p :=
      congrArg (Topics.log? · p) (s.done c d).topics_eq
    rw [hlog]
    exact .kept

/-- After any run the log of a partition is what its history makes it. -/
theorem madeBy_run (hs : List Happening) (p : Partition) (patterns : PatternReader) :
    Log.MadeAll (produced p hs patterns) (cuts p hs patterns)
      ((run hs patterns).broker.log? p) := by
  induction hs using List.reverseRecOn with
  | nil => exact ⟨rfl, rfl⟩
  | append_singleton hs e ih =>
    unfold produced cuts
    rw [run_append_singleton, gather_append_singleton, gather_append_singleton]
    exact ih.step (remade_after (run hs patterns) e p)

/-- After a run the log of a partition holds a record: somebody gave it to
be written and was answered its number, and it has not been dropped. -/
def Holds (patterns : PatternReader) (hs : List Happening) (p : Partition) (o : Int)
    (key payload : Option (List UInt8)) : Prop :=
  ∃ given ∈ produced p hs patterns,
    given.number = o ∧ given.key = key ∧ some given.payload = payload ∧
    ∃ w, (run hs patterns).broker.watermarks p = .ok w ∧ w.low ≤ o

/-- A record comes only from the log of its partition. -/
theorem exists_log_of_fetch {m : Member} {ts : Topics} {o : Int} {key payload : Option (List UInt8)}
    (h : (m.fetch ts).1 = some (.record p o key payload)) :
    ∃ (l : Log) (n : Nat), ts.log? p = some l ∧ o = n ∧ l.get? n = some ⟨key, payload⟩ := by
  obtain ⟨slot, _, hx⟩ := Member.exists_slot_of_fetch h
  have hp : slot.partition = p := (Option.some.inj (Slot.partition_of_look hx)).symm
  unfold Slot.look at hx
  rw [hp] at hx
  cases hl : ts.log? p with
  | none =>
    rw [hl] at hx
    cases hx
  | some l =>
    rw [hl] at hx
    dsimp only at hx
    have ht := (slot.moved m.options.reset l).told_cases m.options.announcesEnd l
    generalize (slot.moved m.options.reset l).told m.options.announcesEnd l = t at hx ht
    cases ht <;> cases hx
    next n r hn hr => exact ⟨l, n, rfl, rfl, hr⟩

/-- Whatever record a step brings, the log holds it when it is fetched. -/
theorem holds_of_brings {e : Happening} {id : String} {o : Int} {key payload : Option (List UInt8)}
    (h : e.brings (run hs patterns).broker = some (id, .record p o key payload)) :
    Holds patterns hs p o key payload := by
  obtain ⟨m, _, hf, _⟩ := fetched_of_brings h
  obtain ⟨l, n, hl, rfl, hr⟩ := exists_log_of_fetch hf
  have hmade := madeBy_run hs p patterns
  rw [show (run hs patterns).broker.log? p = some l from hl] at hmade
  obtain ⟨given, hmem, hnumber, hrecord⟩ := Log.MadeBy.of_get? hmade hr
  obtain ⟨hkey, hpayload⟩ := StoredRecord.mk.inj hrecord
  refine ⟨given, hmem, hnumber, hkey, hpayload, _, Broker.watermarks_of_log? hl, ?_⟩
  exact Int.ofNat_le.mpr (Log.lt_high_of_get? hr).1

/-- As a run goes on no log goes back. -/
theorem advances_run (hs es : List Happening) (patterns : PatternReader) :
    (run hs patterns).broker.topics.Advances (run (hs ++ es) patterns).broker.topics := by
  induction es using List.reverseRecOn with
  | nil =>
    rw [List.append_nil]
    exact .refl _
  | append_singleton es e ih =>
    rw [← List.append_assoc, run_append_singleton]
    exact ih.trans (advances_after _ e)

/-- Both ends of a log can be told from its history. -/
theorem watermarks_run (hs : List Happening) (p : Partition) :
    match (run hs patterns).broker.watermarks p with
    | .ok w => w = ⟨furthest (cuts p hs patterns), (produced p hs patterns).length⟩
    | .error f =>
      f = .ofCode .unknownTopicOrPartition ∧ produced p hs patterns = [] ∧
        cuts p hs patterns = [] := by
  have hmade := madeBy_run hs p patterns
  cases hl : (run hs patterns).broker.log? p with
  | none =>
    rw [hl] at hmade
    rw [Broker.watermarks_of_none hl]
    exact ⟨rfl, hmade⟩
  | some l =>
    rw [hl] at hmade
    have hmade : l.MadeBy (produced p hs patterns) (cuts p hs patterns) := hmade
    rw [Broker.watermarks_of_log? hl]
    dsimp only
    rw [← hmade.low, ← hmade.high]
    rfl

/-- Records are numbered from zero on and without gaps. -/
theorem numbers_run (hs : List Happening) (p : Partition) :
    (produced p hs patterns).map (·.number) =
      (List.range (produced p hs patterns).length).map Int.ofNat := by
  have hmade := madeBy_run hs p patterns
  cases hl : (run hs patterns).broker.log? p with
  | none =>
    rw [hl] at hmade
    rw [hmade.1]
    rfl
  | some l =>
    rw [hl] at hmade
    exact Log.MadeBy.numbers hmade

/-- What is answered when a log is cut is where it begins then. -/
theorem watermarks_deleteRecords {before n : Int}
    (h : ((run hs patterns).broker.deleteRecords p before).result = .ok n) :
    ∃ w, (run (hs ++ [.asked (.deleteRecords p before)]) patterns).broker.watermarks p = .ok w ∧
      w.low = n := by
  rw [run_append_singleton]
  show ∃ w, ((run hs patterns).broker.deleteRecords p before).broker.watermarks p = .ok w ∧ _
  unfold Broker.deleteRecords at h ⊢
  cases hl : (run hs patterns).broker.log? p with
  | none =>
    rw [hl] at h
    cases h
  | some l =>
    rw [hl] at h
    cases h
    exact ⟨_, Broker.watermarks_of_log? (Broker.log?_modifyLog_self hl _), rfl⟩

/-- The log of a partition keeps its integrity, whatever happens in a run.
The records written to it are numbered from nothing on and without gaps,
wherever it is cut. It begins at the furthest of the places where it was
cut, which is what was answered to the cut, and ends where the next record
will be; and neither end ever goes back. Every record that any step brings,
or any poll that waits, be it of a bare transport or of a consumer, is one
that was given to be written, with this key and payload, to whoever was
answered this number, and the log begins nowhere behind it when it is
fetched. -/
theorem run_records (hs : List Happening) (p : Partition) (patterns : PatternReader) :
    (produced p hs patterns).map (·.number) =
      (List.range (produced p hs patterns).length).map Int.ofNat ∧
    (match (run hs patterns).broker.watermarks p with
      | .ok w => w = ⟨furthest (cuts p hs patterns), (produced p hs patterns).length⟩
      | .error f =>
        f = .ofCode .unknownTopicOrPartition ∧ produced p hs patterns = [] ∧
          cuts p hs patterns = []) ∧
    (∀ before n, ((run hs patterns).broker.deleteRecords p before).result = .ok n →
      ∃ w, (run (hs ++ [.asked (.deleteRecords p before)]) patterns).broker.watermarks p = .ok w ∧
        w.low = n) ∧
    (∀ es w, (run hs patterns).broker.watermarks p = .ok w →
      ∃ w', (run (hs ++ es) patterns).broker.watermarks p = .ok w' ∧
        w.low ≤ w'.low ∧ w.high ≤ w'.high) ∧
    (∀ (e : Happening) id o key payload,
      e.brings (run hs patterns).broker = some (id, .record p o key payload) →
      Holds patterns hs p o key payload) ∧
    (∀ (seat : Seat) timeout (w : Cluster) o key payload, w.broker = (run hs patterns).broker →
      (Seat.poll timeout (seat, w)).result = .ok (some (.message (.record p o key payload))) →
      ∃ hs', PollsOn seat w.agenda hs hs' ∧ Holds patterns hs' p o key payload) ∧
    ∀ (c : Consumer Seat) timeout (w : Cluster) o key payload, w.broker = (run hs patterns).broker →
      (Consumer.pollFor timeout (c, w)).result = .ok (.record p o key payload) →
      ∃ hs', PollsOn c.transport w.agenda hs hs' ∧ Holds patterns hs' p o key payload := by
  refine ⟨numbers_run hs p, watermarks_run hs p, fun before n => watermarks_deleteRecords,
    fun es w hw => ?_, fun e id o key payload => holds_of_brings,
    fun seat timeout w o key payload hb hresult => ?_,
    fun c timeout w o key payload hb hresult => ?_⟩
  · obtain ⟨l, hl, rfl⟩ := Broker.exists_log_of_watermarks hw
    obtain ⟨l', hl', hlow, hhigh⟩ := advances_run hs es patterns p l hl
    exact ⟨_, Broker.watermarks_of_log? hl', Int.ofNat_le.mpr hlow, Int.ofNat_le.mpr hhigh⟩
  · obtain ⟨hs', hpolls, hnext, _⟩ := awaited seat timeout hb (by rw [hresult]; exact nofun)
    have hbrings : (Happening.asked (.member seat.member .next)).brings (run hs' patterns).broker =
        some (seat.member, .record p o key payload) := by
      have hevent := Except.eq_ok_of_mapError (hnext.symm.trans hresult)
      unfold Happening.brings
      simp only [hevent]
    exact ⟨hs', hpolls, holds_of_brings hbrings⟩
  · obtain ⟨hs', last, hpolls, _, _, hlook, _⟩ := polled timeout c hb (by rw [hresult]; exact nofun)
    have hbrings : (Happening.did last .look).brings (run hs' patterns).broker =
        some (last.transport.member, .record p o key payload) := by
      rw [hresult] at hlook
      unfold Happening.brings
      simp only [hlook]
      rfl
    exact ⟨hs', hpolls, holds_of_brings hbrings⟩

/-- Two records are written and one is dropped, after a cut that drops
nothing; one more is written, and a member reads what is left. -/
def readAll : List Happening :=
  [.asked (.createTopic "t" 2),
    .asked (.produce ⟨"t", 1⟩ (some [7]) [1]),
    .asked (.produce ⟨"t", 1⟩ none [2]),
    .asked (.deleteRecords ⟨"t", 1⟩ (-5)),
    .asked (.deleteRecords ⟨"t", 1⟩ 1),
    .asked (.produce ⟨"t", 1⟩ none [3]),
    .asked (.connect (Configuration.ofPairs [("group.id", "g")])),
    .asked (.member "kafka_group-1" (.assign [⟨⟨"t", 1⟩, .beginning⟩])),
    .asked (.member "kafka_group-1" .next),
    .asked (.member "kafka_group-1" .next)]

/-- The record behind the one that was dropped is the first that the member
has read. While it waits for another, all there are are dropped, and the
one it is brought then goes on with the numbers. -/
theorem run_records_readAll :
    let w : Cluster := {
      broker := (run readAll).broker
      agenda := [⟨3, .deleteRecords ⟨"t", 1⟩ 9⟩, ⟨5, .produce ⟨"t", 1⟩ (some []) [4]⟩] }
    (run readAll).broker.watermarks ⟨"t", 1⟩ = .ok ⟨1, 3⟩ ∧
      (⟨1, 3⟩ : Watermarks) = ⟨furthest (cuts ⟨"t", 1⟩ readAll), (produced ⟨"t", 1⟩ readAll).length⟩ ∧
      Holds Pattern.reader (readAll.take 8) ⟨"t", 1⟩ 1 none (some [2]) ∧
      (Seat.poll 10 (⟨"kafka_group-1", "g"⟩, w)).result =
        .ok (some (.message (.record ⟨"t", 1⟩ 3 (some []) (some [4])))) ∧
      ∃ hs', PollsOn ⟨"kafka_group-1", "g"⟩ w.agenda readAll hs' ∧
        Holds Pattern.reader hs' ⟨"t", 1⟩ 3 (some []) (some [4]) := by
  intro w
  have hw : (run readAll).broker.watermarks ⟨"t", 1⟩ = .ok ⟨1, 3⟩ := by decide +kernel
  have hbrings : (Happening.asked (.member "kafka_group-1" .next)).brings
      (run (readAll.take 8)).broker =
        some ("kafka_group-1", .record ⟨"t", 1⟩ 1 none (some [2])) := by decide +kernel
  have hpoll : (Seat.poll 10 (⟨"kafka_group-1", "g"⟩, w)).result =
      .ok (some (.message (.record ⟨"t", 1⟩ 3 (some []) (some [4])))) := by decide +kernel
  obtain ⟨_, hends, _, _, _, hwaits, _⟩ := run_records readAll ⟨"t", 1⟩ Pattern.reader
  obtain ⟨_, _, _, _, hfetched, _, _⟩ := run_records (readAll.take 8) ⟨"t", 1⟩ Pattern.reader
  rw [hw] at hends
  exact ⟨hw, hends, hfetched _ _ _ _ _ hbrings, hpoll, hwaits _ _ _ _ _ _ rfl hpoll⟩

end Chronicle

end ConsumerGroup
