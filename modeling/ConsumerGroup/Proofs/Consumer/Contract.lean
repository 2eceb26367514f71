import ConsumerGroup.Proofs.Consumer.Taking
import ConsumerGroup.Transport.Link

/-!
# The contract of a coordinator

What a coordinator, whatever callbacks it has, does on a transport,
whatever that answers, for a notification with any code and any list
(`Coordinator.take_contract`). Of what is told only the exchanges count
here: the calls of callbacks and the requests to the transport, in their
order (`Outcome.exchanges`).

An assignment is asked for once, as the callback leaves it, if that names
the partitions that were delivered, and else nothing is asked
(`Coordinator.HandsOver`). What is taken away is given up once, after the
callback and also when that crashes (`Coordinator.GivesUp`). With any
other code nothing is asked (`Coordinator.OnlyTells`).

Each case is an equation for the whole outcome, in terms of what the
transport answers, and nothing is assumed of the transport. The contract
follows by looking at the journal of each.
-/

namespace ConsumerGroup

/-- The entry is the call of a callback, or a request to a transport. -/
def Entry.isExchange : Entry → Bool
  | .asked _ | .called _ => true
  | .diary _ | .connecting _ => false

/-- The calls and the requests that were made, in their order. -/
def Outcome.exchanges {σ α : Type} (o : Outcome Entry σ α) : List Entry :=
  o.journal.filter Entry.isExchange

/-- The diary is no exchange with the transport. -/
theorem filter_isExchange_diary (entries : List DiaryEntry) :
    (entries.map Entry.diary).filter Entry.isExchange = [] :=
  List.filter_eq_nil_iff.mpr fun e he => by
    obtain ⟨d, _, rfl⟩ := List.mem_map.mp he
    exact Bool.false_ne_true

/-- A list after edits, one after the other, each of which changes offsets
only: that of the first entry for a partition, that of the entry at some
place, or all of them. -/
inductive PartitionList.OffsetsEdited (l : PartitionList) : PartitionList → Prop
  | unchanged : OffsetsEdited l l
  | first {k : PartitionList} (h : OffsetsEdited l k) (p : Partition) (o : Offset) :
      OffsetsEdited l (k.setOffset p o)
  | place {k : PartitionList} (h : OffsetsEdited l k) (i : Nat) (o : Offset) :
      OffsetsEdited l (k.modify i fun e => { e with offset := o })
  | all {k : PartitionList} (h : OffsetsEdited l k) (o : Offset) : OffsetsEdited l (k.setAll o)

/-- To edit offsets leaves the partitions alone. -/
theorem PartitionList.OffsetsEdited.samePartitions {l left : PartitionList}
    (h : l.OffsetsEdited left) : left.SamePartitions l := by
  induction h with
  | unchanged => rfl
  | first _ p o ih => exact (partitions_setOffset p o _).trans ih
  | @place k _ i o ih =>
    refine Eq.trans ?_ ih
    refine List.ext_getElem? fun j => ?_
    simp only [partitions, List.getElem?_map, List.getElem?_modify]
    cases k[j]? with
    | none => rfl
    | some e => simp only [Option.map_eq_map, Option.map_some]; split <;> rfl
  | all _ o ih => exact (partitions_setAll o _).trans ih

namespace Coordinator

/-- The coordinator once the callback for a notification, if one is set,
has been called. -/
def heard (k : Coordinator) (n : Notification) : Coordinator :=
  if k.hears n then { k with calls := n :: k.calls } else k

/-- The call that is made for a notification: one, if a callback is set. -/
def callOf (k : Coordinator) (n : Notification) : List Entry :=
  if k.hears n then [.called n] else []

/-- What the assignment callback leaves of the list it is called with, or
the words it crashes with. -/
def leaves (k : Coordinator) (l : PartitionList) : Except String PartitionList :=
  match k.onAssign with
  | none => .ok l
  | some f => f k.calls l

/-- Whether the revocation callback returns, or the words it crashes
with. -/
def hearsRevoked (k : Coordinator) (l : PartitionList) : Except String Unit :=
  match k.onRevoke with
  | none => .ok ()
  | some f => f k.calls l

/-- Whether the callback for troubles returns, or the words it crashes
with. -/
def hearsTrouble (k : Coordinator) (code : StatusCode) : Except String Unit :=
  match k.onTrouble with
  | none => .ok ()
  | some f => f k.calls code

/-- What the transport answers is how it ends; a refusal is the
notification's, with the action that was refused and the code of the
refusal. -/
structure PassesOn (action : RebalanceAction) (answer result : Except Fault Unit) : Prop where
  done : answer = .ok () → result = .ok ()
  refused : ∀ source, answer = .error (.failure source) →
    result = .error (.failure (.rebalance action source)) ∧
      (Failure.rebalance action source).code? = source.code?
  crashed : ∀ c, answer = .error (.crash c) → result = .error (.crash c)

/-- An answer is passed on with what was being done. -/
theorem passesOn_whileRebalancing (action : RebalanceAction) (answer : Except Fault Unit) :
    PassesOn action answer (answer.mapError (.whileRebalancing action)) where
  done h := by rw [h]; rfl
  refused source h := by rw [h]; exact ⟨rfl, rfl⟩
  crashed c h := by rw [h]; rfl

/-- Of what a call tells, only the call itself is an exchange. -/
theorem filter_calling (k : Coordinator) (n : Notification) :
    (k.calling n).filter Entry.isExchange = k.callOf n := by
  unfold calling callOf
  split
  · cases n <;> rfl
  · rfl

section Contract

variable {H W : Type}

/-- What a coordinator makes of an assignment. -/
structure HandsOver [Transport H W] (l : PartitionList) (s : Coordinator × H × W)
    (o : Outcome Entry (Coordinator × H × W) Unit) : Prop where
  coordinator : o.state.1 = s.1.heard (.assign l)
  /-- The list the callback left is assigned, as it left it. -/
  assigned : ∀ left, s.1.leaves l = .ok left → left.SamePartitions l →
    o.exchanges = s.1.callOf (.assign l) ++ [.asked (.assign left)] ∧
      o.state.2 = (Transport.assign left s.2).state ∧
      PassesOn .assign (Transport.assign left s.2).result o.result
  /-- A list of other partitions, or in another order, is not. -/
  changed : ∀ left, s.1.leaves l = .ok left → ¬ left.SamePartitions l →
    o.exchanges = s.1.callOf (.assign l) ∧ o.state.2 = s.2 ∧
      o.result = .error (.failure (.partitionsChanged l left))
  crashed : ∀ text, s.1.leaves l = .error text →
    o.exchanges = s.1.callOf (.assign l) ∧ o.state.2 = s.2 ∧
      o.result = .error (.crash (.callback text))
  /-- Whatever offsets the callback changes, the list is assigned. -/
  accepted : ∀ left, s.1.leaves l = .ok left → l.OffsetsEdited left →
    o.exchanges = s.1.callOf (.assign l) ++ [.asked (.assign left)]

/-- What a coordinator makes of a revocation. -/
structure GivesUp [Transport H W] (l : PartitionList) (s : Coordinator × H × W)
    (o : Outcome Entry (Coordinator × H × W) Unit) : Prop where
  coordinator : o.state.1 = s.1.heard (.revoke l)
  /-- Everything is given up once, after the callback, crash or not. -/
  exchanges : o.exchanges = s.1.callOf (.revoke l) ++ [.asked .unassign]
  transport : o.state.2 = (Transport.unassign s.2).state
  returned : s.1.hearsRevoked l = .ok () →
    PassesOn .unassign (Transport.unassign s.2).result o.result
  /-- The crash goes on, whatever the transport answers. -/
  crashed : ∀ text, s.1.hearsRevoked l = .error text →
    (∀ c, (Transport.unassign s.2).result ≠ .error (.crash c)) →
      o.result = .error (.crash (.callback text))

/-- What a coordinator makes of any other code. -/
structure OnlyTells (code : StatusCode) (s : Coordinator × H × W)
    (o : Outcome Entry (Coordinator × H × W) Unit) : Prop where
  coordinator : o.state.1 = s.1.heard (.trouble code)
  exchanges : o.exchanges = s.1.callOf (.trouble code)
  transport : o.state.2 = s.2
  result : o.result = (s.1.hearsTrouble code).mapError (.crash ∘ .callback)

/-! ## Assignments -/

theorem heard_of_hears {k : Coordinator} {n : Notification} (h : k.hears n = true) :
    k.heard n = { k with calls := n :: k.calls } := if_pos h

theorem heard_of_not_hears {k : Coordinator} {n : Notification} (h : k.hears n = false) :
    k.heard n = k := if_neg (Bool.eq_false_iff.mp h)

/-- What becomes of a list is decided by what the callback leaves of it. -/
theorem prepared_eq (l : PartitionList) (s : Coordinator × H × W) :
    prepared l s =
      match s.1.leaves l with
      | .error text =>
        ⟨.error (.crash (.callback text)), (s.1.heard (.assign l), s.2), s.1.calling (.assign l)⟩
      | .ok left =>
        if left.SamePartitions l then
          ⟨.ok left, (s.1.heard (.assign l), s.2), s.1.calling (.assign l)⟩
        else
          ⟨.error (.failure (.partitionsChanged l left)), (s.1.heard (.assign l), s.2),
            s.1.calling (.assign l) ++ [.diary (.assignmentRefused left)]⟩ := by
  cases hset : s.1.onAssign with
  | none =>
    have hdeaf : s.1.hears (.assign l) = false := by simp [hears, hset]
    have hleft : s.1.leaves l = .ok l := by simp [leaves, hset]
    have hsame : l.SamePartitions l := rfl
    rw [prepared_of_none hset, hleft, heard_of_not_hears hdeaf, calling, hdeaf]
    exact (if_pos hsame).symm
  | some f =>
    have hhears : s.1.hears (.assign l) = true := by simp [hears, hset]
    have hleft : s.1.leaves l = f s.1.calls l := by simp [leaves, hset]
    rw [prepared_of_some hset, hleft, heard_of_hears hhears, calling, hhears]
    cases f s.1.calls l <;> rfl

/-- Of what is told of a notification, the call and what comes after it
are exchanges. -/
theorem exchanges_mk (result : Except Fault Unit) (s : Coordinator × H × W) (d : DiaryEntry)
    (k : Coordinator) (n : Notification) (rest : List Entry) :
    (⟨result, s, .diary d :: (k.calling n ++ rest)⟩ : Outcome Entry _ Unit).exchanges =
      k.callOf n ++ rest.filter Entry.isExchange := by
  show List.filter _ (_ :: _) = _
  rw [List.filter_cons_of_neg (by exact Bool.false_ne_true), List.filter_append, filter_calling]

/-- What becomes of the announcement is what the callback makes of it. -/
theorem announceRevoked_eq (l : PartitionList) (s : Coordinator × H × W) :
    announceRevoked l s = ⟨(s.1.hearsRevoked l).mapError (.crash ∘ .callback),
      (s.1.heard (.revoke l), s.2), s.1.calling (.revoke l)⟩ := by
  obtain ⟨⟨onAssign, onRevoke, onTrouble, calls⟩, t⟩ := s
  cases onRevoke with
  | none => rfl
  | some f =>
    have hcall : announceRevoked l (⟨onAssign, some f, onTrouble, calls⟩, t) =
        (call (.revoke l) (f · l) (⟨onAssign, some f, onTrouble, calls⟩, t)).after
          [.diary .revocationCallback] := rfl
    rw [hcall]
    simp only [call, hearsRevoked, heard, calling, hears]
    cases f calls l <;> rfl

variable [Transport H W] {l left : PartitionList} {s : Coordinator × H × W}

/-- To take a share is to prepare it and then to have it applied. -/
theorem take_assign_eq (l : PartitionList) (s : Coordinator × H × W) :
    take (.assign l) s =
      ((prepared l >>= fun left => applying .assign (Transport.askAssign left) :
        Act Entry (Coordinator × H × W) Unit) s).after
          [.diary (.partitionsAssigned (Transport.memberId W s.2.1) l)] := by
  show assign l s = _
  unfold assign
  rw [Act.bind_ok (m := memberId) (t := s) rfl, Act.bind_ok (m := tell _) (t := s) rfl]
  rfl

/-- If the callback leaves the same partitions, these are assigned, as it left
them. -/
theorem take_assign_of_same (h : s.1.leaves l = .ok left) (hsame : left.SamePartitions l) :
    take (.assign l) s =
      ⟨(Transport.assign left s.2).result.mapError (.whileRebalancing .assign),
        (s.1.heard (.assign l), (Transport.assign left s.2).state),
        .diary (.partitionsAssigned (Transport.memberId W s.2.1) l) :: (s.1.calling (.assign l) ++
          .asked (.assign left) :: (Transport.assign left s.2).journal.map .diary)⟩ := by
  have hprepared := prepared_eq l s
  rw [h] at hprepared
  rw [take_assign_eq, Act.bind_ok (hprepared.trans (if_pos hsame)), Transport.askAssign,
    applying_ask]
  rfl

/-- If it leaves others, nothing is assigned and the share has failed. -/
theorem take_assign_of_changed (h : s.1.leaves l = .ok left) (hchanged : ¬ left.SamePartitions l) :
    take (.assign l) s =
      ⟨.error (.failure (.partitionsChanged l left)), (s.1.heard (.assign l), s.2),
        .diary (.partitionsAssigned (Transport.memberId W s.2.1) l) :: (s.1.calling (.assign l) ++
          [.diary (.assignmentRefused left)])⟩ := by
  have hprepared := prepared_eq l s
  rw [h] at hprepared
  rw [take_assign_eq, Act.bind_error (hprepared.trans (if_neg hchanged))]
  rfl

/-- If it crashes, nothing is assigned, and the crash goes on. -/
theorem take_assign_of_crash {text : String} (h : s.1.leaves l = .error text) :
    take (.assign l) s =
      ⟨.error (.crash (.callback text)), (s.1.heard (.assign l), s.2),
        .diary (.partitionsAssigned (Transport.memberId W s.2.1) l) :: (s.1.calling (.assign l) ++
          [])⟩ := by
  have hprepared := prepared_eq l s
  rw [h] at hprepared
  rw [take_assign_eq, Act.bind_error hprepared, List.append_nil]
  rfl

/-- So a share is handed over in one of these ways. -/
theorem handsOver_take (l : PartitionList) (s : Coordinator × H × W) :
    HandsOver l s (take (.assign l) s) := by
  have hasked {left : PartitionList} (h : s.1.leaves l = .ok left) (hsame : left.SamePartitions l) :
      (take (.assign l) s).exchanges = s.1.callOf (.assign l) ++ [.asked (.assign left)] := by
    rw [take_assign_of_same h hsame, exchanges_mk, List.filter_cons_of_pos rfl,
      filter_isExchange_diary]
  constructor
  case coordinator =>
    cases h : s.1.leaves l with
    | error text => rw [take_assign_of_crash h]
    | ok left =>
      by_cases hsame : left.SamePartitions l
      · rw [take_assign_of_same h hsame]
      · rw [take_assign_of_changed h hsame]
  case assigned =>
    intro left h hsame
    refine ⟨hasked h hsame, ?_⟩
    rw [take_assign_of_same h hsame]
    exact ⟨rfl, passesOn_whileRebalancing _ _⟩
  case changed =>
    intro left h hchanged
    rw [take_assign_of_changed h hchanged]
    exact ⟨(exchanges_mk ..).trans (List.append_nil _), rfl, rfl⟩
  case crashed =>
    intro text h
    rw [take_assign_of_crash h]
    exact ⟨(exchanges_mk ..).trans (List.append_nil _), rfl, rfl⟩
  case accepted =>
    intro left h hedited
    exact hasked h hedited.samePartitions

/-! ## Revocations and troubles -/

theorem unassign_eq (s : Coordinator × H × W) :
    unassign s = ⟨(Transport.unassign s.2).result.mapError (.whileRebalancing .unassign),
      (s.1, (Transport.unassign s.2).state),
      .asked .unassign :: (Transport.unassign s.2).journal.map .diary⟩ := applying_ask ..

/-- To give everything up anyway ends with a crash of the transport, or
well. -/
theorem unassignAnyway_result (s : Coordinator × H × W) :
    (unassignAnyway s).state.1 = s.1 ∧
      ((∀ c, (Transport.unassign s.2).result ≠ .error (.crash c)) →
        (unassignAnyway s).result = .ok ()) := by
  unfold unassignAnyway Act.orElse
  rw [unassign_eq]
  cases (Transport.unassign s.2).result with
  | ok _ => exact ⟨rfl, fun _ => rfl⟩
  | error e =>
    cases e with
    | failure f => exact ⟨rfl, fun _ => rfl⟩
    | crash c => exact ⟨rfl, fun h => absurd rfl (h c)⟩

/-- To take a revocation is to tell of it and then to give everything up, also
if the callback crashes. -/
theorem take_revoke_eq (l : PartitionList) (s : Coordinator × H × W) :
    take (.revoke l) s =
      ((match s.1.hearsRevoked l with
        | .ok () => unassign
        | .error text => do
          unassignAnyway
          Act.throw (.crash (.callback text)) :
        Act Entry (Coordinator × H × W) Unit) (s.1.heard (.revoke l), s.2)).after
          (.diary (.partitionsRevoked (Transport.memberId W s.2.1) l) ::
            s.1.calling (.revoke l)) := by
  have hannounced : (announceRevoked l).attempt s = ⟨.ok ((s.1.hearsRevoked l).mapError
      (.crash ∘ .callback)), (s.1.heard (.revoke l), s.2), s.1.calling (.revoke l)⟩ := by
    unfold Act.attempt
    rw [announceRevoked_eq]
  show revoke l s = _
  unfold revoke
  rw [Act.bind_ok (m := memberId) (t := s) rfl, Act.bind_ok (m := tell _) (t := s) rfl,
    Act.bind_ok hannounced]
  cases s.1.hearsRevoked l <;> rfl

/-- So everything is given up in any case, once the callback has been called. -/
theorem givesUp_take (l : PartitionList) (s : Coordinator × H × W) :
    GivesUp l s (take (.revoke l) s) := by
  obtain ⟨htransport, refused, hjournal⟩ := take_revoke l s
  obtain ⟨hkept, hanyway⟩ := unassignAnyway_result (s.1.heard (.revoke l), s.2)
  constructor
  case coordinator =>
    rw [take_revoke_eq]
    cases s.1.hearsRevoked l with
    | ok _ =>
      have hgiven := unassign_eq (s.1.heard (.revoke l), s.2)
      exact congrArg (·.state.1) hgiven
    | error text => exact Act.view_bind Prod.fst hkept fun _ _ h => h
  case exchanges =>
    show List.filter _ _ = _
    rw [hjournal]
    refine (exchanges_mk (.ok ()) s _ _ _ _).trans ?_
    rw [List.filter_cons_of_pos rfl, filter_isExchange_diary]
  case transport => exact htransport
  case returned =>
    intro h
    rw [take_revoke_eq, h]
    dsimp only
    rw [unassign_eq]
    exact passesOn_whileRebalancing _ _
  case crashed =>
    intro text h hne
    rw [take_revoke_eq, h, Outcome.result_after]
    dsimp only
    cases hu : unassignAnyway (s.1.heard (.revoke l), s.2) with
    | mk result s₁ journal =>
      have hok := hanyway hne
      rw [hu] at hok
      dsimp only at hok
      subst hok
      rw [Act.bind_ok hu]
      rfl

/-- Of a trouble a member is only told. -/
theorem onlyTells_take (code : StatusCode) (s : Coordinator × H × W) :
    OnlyTells code s (take (.trouble code) s) := by
  obtain ⟨htransport, hjournal⟩ := take_trouble code s
  have hexchanges : (take (.trouble code) s).exchanges = s.1.callOf (.trouble code) := by
    show List.filter _ _ = _
    rw [hjournal, List.filter_cons_of_neg (by exact Bool.false_ne_true), filter_calling]
  obtain ⟨⟨onAssign, onRevoke, onTrouble, calls⟩, t⟩ := s
  cases onTrouble with
  | none => exact ⟨rfl, hexchanges, htransport, rfl⟩
  | some f =>
    have htake : take (.trouble code) (⟨onAssign, onRevoke, some f, calls⟩, t) =
        (call (.trouble code) (f · code) (⟨onAssign, onRevoke, some f, calls⟩, t)).after
          [.diary (.rebalanceTrouble code), .diary .troubleCallback] := rfl
    refine ⟨?_, hexchanges, htransport, ?_⟩ <;> rw [htake] <;>
      simp only [call, hearsTrouble, heard, hears] <;> cases f calls code <;> rfl

/-- What a coordinator does on any transport, with any callbacks, for a
notification with any code and any list. -/
theorem take_contract (code : StatusCode) (l : PartitionList) (s : Coordinator × H × W) :
    (code = .assignPartitions → HandsOver l s (take (.ofCode code l) s)) ∧
      (code = .revokePartitions → GivesUp l s (take (.ofCode code l) s)) ∧
      (code ≠ .assignPartitions → code ≠ .revokePartitions →
        OnlyTells code s (take (.ofCode code l) s)) := by
  refine ⟨?_, ?_, ?_⟩
  · rintro rfl
    exact handsOver_take l s
  · rintro rfl
    exact givesUp_take l s
  · intro hassign hrevoke
    rw [Notification.ofCode_of_neither hassign hrevoke]
    exact onlyTells_take code s

end Contract

/-- The transport refuses to give up, and the callback crashes: it is asked
all the same, once, and the crash is what is told. -/
theorem take_contract_crashed :
    let k : Coordinator := { onRevoke := some fun _ _ => .error "gone" }
    let t : Script × Cluster := ({ refusals := [(.unassign, .illegalGeneration)] }, {})
    let l : PartitionList := [⟨⟨"t", 0⟩, .invalid⟩]
    (take (.ofCode .revokePartitions l) (k, t)).exchanges =
        [.called (.revoke l), .asked .unassign] ∧
      (take (.ofCode .revokePartitions l) (k, t)).result = .error (.crash (.callback "gone")) := by
  intro k t l
  have h := (take_contract .revokePartitions l (k, t)).2.1 rfl
  exact ⟨h.exchanges, h.crashed "gone" rfl fun _ => nofun⟩

end Coordinator

end ConsumerGroup
