import ConsumerGroup.Proofs.Consumer.Taking

/-!
# What taking a notification fails with

To take a notification fails in one of three ways (`Coordinator.Fails`):
the coordinator's own callback changed which partitions are assigned, or
the transport refused to assign what the callback left, or it refused to
give up what was taken away. There is no other way
(`Coordinator.fails_of_take`): a callback that gives up is a crash and no
failure, and a trouble is only told of.

A crash is not a failure here: it is told apart by its type, and what a
crash leaves is said elsewhere (`Coordinator.GivesUp`).
-/

namespace ConsumerGroup

/-- A failure while rebalancing has a source, and names what was being done. -/
theorem Fault.failure_of_whileRebalancing {α : Type} {action : RebalanceAction}
    {x : Except Fault α} {f : Failure}
    (h : x.mapError (whileRebalancing action) = .error (Fault.failure f)) :
    ∃ source, x = .error (.failure source) ∧ f = .rebalance action source := by
  cases x with
  | ok _ => cases h
  | error e =>
    cases e with
    | failure source =>
      cases h
      exact ⟨source, rfl, rfl⟩
    | crash c => cases h

namespace Coordinator

variable {H W α : Type}

/-- The callback of a coordinator for assignments was the last to be called,
and of the list it was given it left one that names other partitions, or
names them in another order. -/
def Changed (k k' : Coordinator) (delivered left : PartitionList) : Prop :=
  ∃ callback calls, k.onAssign = some callback ∧ k'.calls = .assign delivered :: calls ∧
    callback calls delivered = .ok left ∧ ¬ left.SamePartitions delivered

/-- What the callback for shares has changed is up to that callback. -/
theorem Changed.congr {k₁ k₂ k' : Coordinator} {delivered left : PartitionList}
    (h : k₁.Changed k' delivered left) (hset : k₁.onAssign = k₂.onAssign) :
    k₂.Changed k' delivered left := by
  unfold Changed at h ⊢
  rwa [← hset]

/-- How taking a notification fails. -/
inductive Fails [Transport H W] (n : Notification) (s : Coordinator × H × W) : Failure → Prop
  | changed {delivered left : PartitionList} (hn : n = .assign delivered)
      (h : s.1.Changed (take n s).state.1 delivered left) :
      Fails n s (.partitionsChanged delivered left)
  | assign {delivered left : PartitionList} {source : Failure} (hn : n = .assign delivered)
      (hl : left.SamePartitions delivered)
      (h : (Transport.assign left s.2).result = .error (.failure source)) :
      Fails n s (.rebalance .assign source)
  | unassign {revoked : PartitionList} {source : Failure} (hn : n = .revoke revoked)
      (h : (Transport.unassign s.2).result = .error (.failure source)) :
      Fails n s (.rebalance .unassign source)

/-- A callback that is called either returns or gives up. -/
theorem call_ne_failure (n : Notification) (f : List Notification → Except String α)
    (s : Coordinator × H × W) (e : Failure) : (call n f s).result ≠ .error (.failure e) := by
  unfold call
  dsimp only
  split <;> nofun

/-- A share fails before it is applied only if the callback has left other
partitions. -/
theorem changed_of_prepared {l : PartitionList} {s : Coordinator × H × W} {f : Failure}
    (h : (prepared l s).result = .error (.failure f)) :
    ∃ left, f = .partitionsChanged l left ∧ s.1.Changed (prepared l s).state.1 l left := by
  cases hset : s.1.onAssign with
  | none =>
    rw [prepared_of_none hset] at h
    cases h
  | some callback =>
    rw [prepared_of_some hset] at h ⊢
    dsimp only at h ⊢
    cases hleft : callback s.1.calls l with
    | error text =>
      rw [hleft] at h
      cases h
    | ok left =>
      rw [hleft] at h
      dsimp only at h ⊢
      by_cases hsame : left.SamePartitions l
      · rw [if_pos hsame] at h
        cases h
      · rw [if_neg hsame] at h ⊢
        cases h
        exact ⟨left, rfl, callback, s.1.calls, hset, rfl, hleft, hsame⟩

variable [Transport H W] {l : PartitionList} {s : Coordinator × H × W} {f : Failure}

/-- A share fails by its callback, or because the transport refuses it. -/
theorem fails_of_assign (h : (take (.assign l) s).result = .error (.failure f)) :
    Fails (.assign l) s f := by
  have htake : take (.assign l) s =
      ((prepared l >>= fun left => applying .assign (Transport.askAssign left) :
        Act Entry (Coordinator × H × W) Unit) s).after
          [.diary (.partitionsAssigned (Transport.memberId W s.2.1) l)] := by
    show assign l s = _
    unfold assign
    rw [Act.bind_ok (m := memberId) (t := s) rfl, Act.bind_ok (m := tell _) (t := s) rfl]
    rfl
  obtain ⟨hframe, hcases⟩ := prepared_cases l s
  rw [htake, Outcome.result_after] at h
  cases hp : prepared l s with
  | mk result s₁ journal =>
    rw [hp] at hframe hcases
    cases result with
    | error e =>
      rw [Act.bind_error hp] at h
      cases h
      obtain ⟨left, rfl, hchanged⟩ := changed_of_prepared (congrArg Outcome.result hp)
      refine .changed rfl ?_
      rw [htake, Act.bind_error hp]
      rwa [hp] at hchanged
    | ok left =>
      rw [Act.bind_ok hp, Transport.askAssign, applying_ask, hframe] at h
      obtain ⟨source, hsource, rfl⟩ := Fault.failure_of_whileRebalancing h
      obtain ⟨_, hleft, hsame, _⟩ | ⟨_, _, herror, _⟩ := hcases
      · cases hleft
        exact .assign rfl hsame hsource
      · cases herror

/-- To give everything up fails only because the transport refuses. -/
theorem fails_of_unassign (h : (unassign s).result = .error (.failure f)) :
    ∃ source, (Transport.unassign s.2).result = .error (.failure source) ∧
      f = .rebalance .unassign source := by
  rw [unassign, Transport.askUnassign, applying_ask] at h
  exact Fault.failure_of_whileRebalancing h

/-- Whoever gives everything up anyway is not told of a failure. -/
theorem unassignAnyway_ne_failure : (unassignAnyway s).result ≠ .error (.failure f) := by
  unfold unassignAnyway Act.orElse
  split
  · nofun
  · next hne =>
    intro h
    cases hu : unassign s with
    | mk result s₁ journal =>
      rw [hu] at h
      cases h
      exact hne _ _ _ hu

/-- And so does a revocation. -/
theorem fails_of_revoke (h : (take (.revoke l) s).result = .error (.failure f)) :
    Fails (.revoke l) s f := by
  have hframe := (announceRevoked_frame l s).1
  change (revoke l s).result = _ at h
  unfold revoke at h
  rw [Act.bind_ok (m := memberId) (t := s) rfl, Act.bind_ok (m := tell _) (t := s) rfl,
    Act.bind_ok (m := Act.attempt _) rfl] at h
  simp only [Outcome.result_after] at h
  have hcalled : ∀ e, (announceRevoked l s).result ≠ .error (.failure e) := by
    obtain ⟨⟨onAssign, onRevoke, onTrouble, calls⟩, t⟩ := s
    cases onRevoke with
    | none => nofun
    | some callback => exact call_ne_failure (.revoke l) (callback · l) _
  generalize (announceRevoked l s).state = s₁ at h hframe
  generalize (announceRevoked l s).result = announced at h hcalled
  cases announced with
  | ok _ =>
    obtain ⟨source, hsource, rfl⟩ := fails_of_unassign h
    rw [hframe] at hsource
    exact .unassign rfl hsource
  | error fault =>
    -- The callback has crashed, and that crash is what is told in the end.
    change ((unassignAnyway >>= fun _ => Act.throw fault :
      Act Entry (Coordinator × H × W) Unit) s₁).result = _ at h
    cases hu : unassignAnyway s₁ with
    | mk result s₂ journal =>
      cases result with
      | ok _ =>
        rw [Act.bind_ok hu] at h
        cases h
        exact absurd rfl (hcalled f)
      | error e =>
        rw [Act.bind_error hu] at h
        cases h
        exact absurd (congrArg Outcome.result hu) unassignAnyway_ne_failure

/-- To take a notification fails in no other way. -/
theorem fails_of_take {n : Notification} (h : (take n s).result = .error (.failure f)) :
    Fails n s f := by
  cases n with
  | assign l => exact fails_of_assign h
  | revoke l => exact fails_of_revoke h
  | trouble code =>
    obtain ⟨⟨onAssign, onRevoke, onTrouble, calls⟩, t⟩ := s
    cases onTrouble with
    | none => cases h
    | some callback => exact absurd h (call_ne_failure (.trouble code) (callback · code) _ f)

end Coordinator

end ConsumerGroup
