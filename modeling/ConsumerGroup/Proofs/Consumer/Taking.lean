import ConsumerGroup.Coordinator

/-!
# What taking a notification does to a transport

A coordinator asks of a transport one thing at most for a notification.
What it is to give up it has given up however its callbacks behave
(`take_revoke`). What it is to read it asks for as the callback leaves
it, with the same partitions in the same order, or else nothing is asked
and it is the callback that is to blame (`take_assign`).

The journal has it all in its order: the notification, the call of the
callback that is set for it, and then what the transport is asked.

These are frames: they say what part of the state a step can change,
whatever it comes to. What it comes to is said in the contract, which is
proved with them.
-/

namespace ConsumerGroup

/-- The fault is a callback's: it gave up, or it changed which partitions
are assigned. -/
def Fault.ofCallback : Fault → Bool
  | .crash _ => true
  | .failure (.partitionsChanged ..) => true
  | .failure _ => false

/-- A failure to apply what the group decided. -/
def Fault.whileRebalancing (action : RebalanceAction) : Fault → Fault
  | .failure f => .failure (.rebalance action f)
  | .crash c => .crash c

/-- The notification that a coordinator takes, if that is told. -/
def Entry.taken? : Entry → Option Notification
  | .diary (.partitionsAssigned _ l) => some (.assign l)
  | .diary (.partitionsRevoked _ l) => some (.revoke l)
  | .diary (.rebalanceTrouble code) => some (.trouble code)
  | _ => none

/-- The notification that a callback is called for, if that is told. -/
def Entry.called? : Entry → Option Notification
  | .called n => some n
  | _ => none

namespace Coordinator

/-- Whether a callback for the notification is set. -/
def hears (k : Coordinator) : Notification → Bool
  | .assign _ => k.onAssign.isSome
  | .revoke _ => k.onRevoke.isSome
  | .trouble _ => k.onTrouble.isSome

/-- What is told of the call of a callback, if one is set. -/
def calling (k : Coordinator) (n : Notification) : List Entry :=
  if k.hears n then
    match n with
    | .assign _ => [.diary .assignmentCallback, .called n]
    | .revoke _ => [.diary .revocationCallback, .called n]
    | .trouble _ => [.diary .troubleCallback, .called n]
  else []

@[simp] theorem asked_not_mem_calling (k : Coordinator) (n : Notification) (a : Ask) :
    .asked a ∉ k.calling n := by
  unfold calling
  split
  · cases n <;> simp
  · exact List.not_mem_nil

section Frames

variable {H W α : Type}

/-- A request that is applied is told of and made, and its refusal is the
notification's. -/
theorem applying_ask (action : RebalanceAction) (a : Ask) (m : Act DiaryEntry (H × W) α)
    (s : Coordinator × H × W) :
    applying action (Transport.ask a m) s =
      ⟨(m s.2).result.mapError (.whileRebalancing action), (s.1, (m s.2).state),
        .asked a :: (m s.2).journal.map .diary⟩ := by
  obtain ⟨k, t⟩ := s
  unfold applying onTransport Act.orElse Act.within Transport.ask
  dsimp only
  rw [Act.bind_ok (m := Act.note _) (t := t) rfl]
  cases hm : m t with
  | mk result t' journal =>
    have htold : m.telling Entry.diary t = ⟨result, t', journal.map .diary⟩ := by
      simp only [Act.telling, hm]
    rw [htold]
    cases result with
    | ok x => rfl
    | error e =>
      cases e with
      | failure f =>
        show Outcome.mk _ _ (([Entry.asked a] ++ journal.map Entry.diary) ++ []) = _
        rw [List.append_nil]
        rfl
      | crash c => rfl

/-- A call leaves everything but the coordinator alone. -/
theorem call_frame (n : Notification) (f : List Notification → Except String α)
    (s : Coordinator × H × W) :
    (call n f s).state.2 = s.2 ∧ (call n f s).journal = [.called n] := by
  unfold call
  dsimp only
  split <;> exact ⟨rfl, rfl⟩

/-- And so does to tell of a revocation. -/
theorem announceRevoked_frame (l : PartitionList) (s : Coordinator × H × W) :
    (announceRevoked l s).state.2 = s.2 ∧
      (announceRevoked l s).journal = s.1.calling (.revoke l) := by
  obtain ⟨⟨onAssign, onRevoke, onTrouble, calls⟩, t⟩ := s
  cases onRevoke with
  | none => exact ⟨rfl, rfl⟩
  | some f =>
    obtain ⟨hstate, hjournal⟩ := call_frame (.revoke l) (f · l)
      (⟨onAssign, some f, onTrouble, calls⟩, t)
    exact ⟨hstate, congrArg (Entry.diary .revocationCallback :: ·) hjournal⟩

/-- A share that nobody is called for is applied as it was dealt. -/
theorem prepared_of_none {s : Coordinator × H × W} (h : s.1.onAssign = none) (l : PartitionList) :
    prepared l s = ⟨.ok l, s, []⟩ := by
  obtain ⟨⟨_, onRevoke, onTrouble, calls⟩, t⟩ := s
  cases h
  rfl

/-- What becomes of a list decides what the callback makes of it. -/
theorem prepared_of_some {s : Coordinator × H × W} {f : AssignCallback} (h : s.1.onAssign = some f)
    (l : PartitionList) : prepared l s =
      let called := ({ s.1 with calls := .assign l :: s.1.calls }, s.2)
      let calling : List Entry := [.diary .assignmentCallback, .called (.assign l)]
      match f s.1.calls l with
      | .error text => ⟨.error (.crash (.callback text)), called, calling⟩
      | .ok left =>
        if left.SamePartitions l then ⟨.ok left, called, calling⟩
        else ⟨.error (.failure (.partitionsChanged l left)), called,
          calling ++ [.diary (.assignmentRefused left)]⟩ := by
  obtain ⟨⟨_, onRevoke, onTrouble, calls⟩, t⟩ := s
  cases h
  let k : Coordinator := ⟨some f, onRevoke, onTrouble, calls⟩
  unfold prepared
  rw [Act.bind_ok (m := Act.get) (t := (k, t)) rfl]
  dsimp only [k]
  rw [Act.bind_ok (m := tell _) (t := (k, t)) rfl]
  cases hf : f calls l with
  | error text =>
    have hcall : call (.assign l) (f · l) (k, t) =
        ⟨.error (.crash (.callback text)), ({ k with calls := .assign l :: calls }, t),
          [.called (.assign l)]⟩ := by
      simp only [call, k, hf]
    rw [Act.bind_error hcall]
    rfl
  | ok left =>
    have hcall : call (.assign l) (f · l) (k, t) =
        ⟨.ok left, ({ k with calls := .assign l :: calls }, t), [.called (.assign l)]⟩ := by
      simp only [call, k, hf]
    rw [Act.bind_ok hcall]
    by_cases hsame : left.SamePartitions l
    · rw [if_pos hsame]
      dsimp only
      rw [if_pos hsame]
      rfl
    · rw [if_neg hsame]
      dsimp only
      rw [if_neg hsame]
      rfl

/-- What the callback leaves of a list names the same partitions, or the
callback is to blame that nothing is left. -/
theorem prepared_cases (l : PartitionList) (s : Coordinator × H × W) :
    (prepared l s).state.2 = s.2 ∧
      ((∃ left, (prepared l s).result = .ok left ∧ left.SamePartitions l ∧
          (prepared l s).journal = s.1.calling (.assign l)) ∨
        ∃ (e : Fault) (refused : List PartitionList), (prepared l s).result = .error e ∧
          e.ofCallback = true ∧ (prepared l s).journal =
            s.1.calling (.assign l) ++ (refused.map .assignmentRefused).map .diary) := by
  cases hset : s.1.onAssign with
  | none =>
    have hquiet : s.1.calling (.assign l) = [] := by simp [calling, hears, hset]
    rw [prepared_of_none hset, hquiet]
    exact ⟨rfl, .inl ⟨l, rfl, rfl, rfl⟩⟩
  | some f =>
    have hcalling : s.1.calling (.assign l) =
        [.diary .assignmentCallback, .called (.assign l)] := by simp [calling, hears, hset]
    rw [prepared_of_some hset, hcalling]
    dsimp only
    cases f s.1.calls l with
    | error text => exact ⟨rfl, .inr ⟨_, [], rfl, rfl, rfl⟩⟩
    | ok left =>
      dsimp only
      by_cases hsame : left.SamePartitions l
      · rw [if_pos hsame]
        exact ⟨rfl, .inl ⟨left, rfl, hsame, rfl⟩⟩
      · rw [if_neg hsame]
        exact ⟨rfl, .inr ⟨_, [left], rfl, rfl, rfl⟩⟩

end Frames

variable {H W : Type} [Transport H W]

/-- To give everything up changes what the transport makes of it. -/
theorem unassign_frame (s : Coordinator × H × W) :
    (unassign s).state.2 = (Transport.unassign s.2).state ∧
      (unassign s).journal = .asked .unassign :: (Transport.unassign s.2).journal.map .diary := by
  unfold unassign Transport.askUnassign
  rw [applying_ask]
  exact ⟨rfl, rfl⟩

/-- And so it does after a crash, when a refusal is only told. -/
theorem unassignAnyway_frame (s : Coordinator × H × W) :
    (unassignAnyway s).state.2 = (Transport.unassign s.2).state ∧
      ∃ refused : List Failure, (unassignAnyway s).journal = .asked .unassign ::
        ((Transport.unassign s.2).journal ++ refused.map DiaryEntry.unassignFailed).map .diary := by
  obtain ⟨hstate, hjournal⟩ := unassign_frame s
  unfold unassignAnyway Act.orElse
  split
  · next f t journal h =>
    rw [h] at hstate hjournal
    refine ⟨hstate, [f], ?_⟩
    rw [List.map_append]
    exact congrArg (· ++ _) hjournal
  · refine ⟨hstate, [], ?_⟩
    rw [List.map_nil, List.append_nil]
    exact hjournal

/-- What was taken away is given up, also when the callback gives up. -/
theorem take_revoke (l : PartitionList) (s : Coordinator × H × W) :
    (take (.revoke l) s).state.2 = (Transport.unassign s.2).state ∧
      ∃ refused : List Failure, (take (.revoke l) s).journal =
        .diary (.partitionsRevoked (Transport.memberId W s.2.1) l) :: (s.1.calling (.revoke l) ++
          .asked .unassign ::
            ((Transport.unassign s.2).journal ++ refused.map DiaryEntry.unassignFailed).map .diary) := by
  obtain ⟨hframe, hcalling⟩ := announceRevoked_frame l s
  show (revoke l s).state.2 = _ ∧ ∃ refused : List Failure, (revoke l s).journal = _
  unfold revoke
  rw [Act.bind_ok (m := memberId) (t := s) rfl, Act.bind_ok (m := tell _) (t := s) rfl,
    Act.bind_ok (m := Act.attempt _) rfl]
  simp only [Outcome.state_after, Outcome.journal_after, hcalling, ← hframe]
  generalize (announceRevoked l s).state = s₁
  cases (announceRevoked l s).result with
  | ok _ =>
    obtain ⟨hstate, hjournal⟩ := unassign_frame s₁
    refine ⟨hstate, [], ?_⟩
    rw [List.map_nil, List.append_nil, ← hjournal]
    rfl
  | error fault =>
    obtain ⟨hstate, refused, hjournal⟩ := unassignAnyway_frame s₁
    refine ⟨Act.view_bind Prod.snd hstate fun _ t h => h, refused, ?_⟩
    rw [← hjournal]
    exact congrArg (.diary _ :: s.1.calling _ ++ ·) (Act.journal_bind s₁ fun _ _ => rfl)

/-- What is handed out is asked for as the callback leaves it, or the
callback is to blame that nothing is. -/
theorem take_assign (l : PartitionList) (s : Coordinator × H × W) :
    (∃ left, left.SamePartitions l ∧
      (take (.assign l) s).state.2 = (Transport.assign left s.2).state ∧
      (take (.assign l) s).journal =
        .diary (.partitionsAssigned (Transport.memberId W s.2.1) l) :: (s.1.calling (.assign l) ++
          .asked (.assign left) :: (Transport.assign left s.2).journal.map .diary) ∧
      ((Transport.assign left s.2).result = .ok () ↔ (take (.assign l) s).result = .ok ())) ∨
    ((take (.assign l) s).state.2 = s.2 ∧
      ∃ (e : Fault) (refused : List PartitionList), (take (.assign l) s).result = .error e ∧
        e.ofCallback = true ∧ (take (.assign l) s).journal =
          .diary (.partitionsAssigned (Transport.memberId W s.2.1) l) ::
            (s.1.calling (.assign l) ++ (refused.map .assignmentRefused).map .diary)) := by
  show (∃ left, _ ∧ (assign l s).state.2 = _ ∧ (assign l s).journal = _ ∧
    (_ ↔ (assign l s).result = _)) ∨
      ((assign l s).state.2 = _ ∧ ∃ (e : Fault) (refused : List PartitionList),
        (assign l s).result = _ ∧ _ ∧ (assign l s).journal = _)
  obtain ⟨hframe, hcases⟩ := prepared_cases l s
  unfold assign
  rw [Act.bind_ok (m := memberId) (t := s) rfl, Act.bind_ok (m := tell _) (t := s) rfl]
  cases hp : prepared l s with
  | mk result s₁ journal =>
    rw [hp] at hframe hcases
    rcases hcases with ⟨left, hresult, hleft, hcalling⟩ | ⟨e, refused, hresult, he, hcalling⟩
    · dsimp only at hresult hcalling hframe
      subst hresult hcalling
      rw [Act.bind_ok hp, Transport.askAssign, applying_ask, hframe]
      refine .inl ⟨left, hleft, rfl, rfl, ?_⟩
      show _ ↔ (Transport.assign left s.2).result.mapError _ = _
      cases (Transport.assign left s.2).result with
      | ok x => exact Iff.rfl
      | error f => constructor <;> rintro ⟨⟩
    · dsimp only at hresult hcalling hframe
      subst hresult hcalling
      rw [Act.bind_error hp]
      exact .inr ⟨hframe, e, refused, rfl, he, rfl⟩

/-- A trouble is only told of. -/
theorem take_trouble (code : StatusCode) (s : Coordinator × H × W) :
    (take (.trouble code) s).state.2 = s.2 ∧ (take (.trouble code) s).journal =
      .diary (.rebalanceTrouble code) :: s.1.calling (.trouble code) := by
  obtain ⟨⟨onAssign, onRevoke, onTrouble, calls⟩, t⟩ := s
  cases onTrouble with
  | none => exact ⟨rfl, rfl⟩
  | some f =>
    obtain ⟨hstate, hjournal⟩ := call_frame (.trouble code) (f · code)
      (⟨onAssign, onRevoke, some f, calls⟩, t)
    exact ⟨hstate, congrArg ([.diary (.rebalanceTrouble code), Entry.diary .troubleCallback] ++ ·) hjournal⟩

/-- Whenever a list is asked to be assigned, a share was taken that names
the same partitions, and what comes of the request is what comes of it
all. -/
theorem asked_assign_of_take {n : Notification} {left : PartitionList} {s : Coordinator × H × W}
    (h : .asked (.assign left) ∈ (take n s).journal) :
    ∃ l, n = .assign l ∧ left.SamePartitions l ∧
      (take n s).state.2 = (Transport.assign left s.2).state ∧
      ((Transport.assign left s.2).result = .ok () ↔ (take n s).result = .ok ()) := by
  cases n with
  | assign l =>
    rcases take_assign l s with ⟨left', hl, hs, hj, hr⟩ | ⟨_, e, refused, _, _, hj⟩
    · have hleft : left = left' := by simpa [hj] using h
      subst hleft
      exact ⟨l, rfl, hl, hs, hr⟩
    · simp [hj] at h
  | revoke l =>
    obtain ⟨_, refused, hj⟩ := take_revoke l s
    simp [hj] at h
  | trouble code => simp [(take_trouble code s).2] at h

end Coordinator

end ConsumerGroup
