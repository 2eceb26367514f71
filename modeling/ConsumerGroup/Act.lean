import ConsumerGroup.Failure

/-!
# Acts

An act is a piece of work on a state. It ends with a result or with a
fault, and leaves a state and a journal behind in either case: what was
done before a fault stays done and stays told.

Acts are composed in the order of their work. A fault ends the
composition; `attempt` turns it into a value, `settle` and `orElse` deal
with failures and let crashes pass.
-/

namespace ConsumerGroup

/-- What an act comes to. -/
structure Outcome (ω σ α : Type) where
  result : Except Fault α
  state : σ
  journal : List ω

/-- A piece of work on a state `σ`, with a journal of `ω`. -/
def Act (ω σ α : Type) : Type := σ → Outcome ω σ α

namespace Outcome

variable {ω σ α β : Type}

/-- What was told before comes first. -/
def after (journal : List ω) (o : Outcome ω σ α) : Outcome ω σ α :=
  { o with journal := journal ++ o.journal }

@[simp] theorem result_after (journal : List ω) (o : Outcome ω σ α) :
    (o.after journal).result = o.result := rfl

@[simp] theorem state_after (journal : List ω) (o : Outcome ω σ α) :
    (o.after journal).state = o.state := rfl

@[simp] theorem journal_after (journal : List ω) (o : Outcome ω σ α) :
    (o.after journal).journal = journal ++ o.journal := rfl

end Outcome

namespace Act

variable {ω ω' σ τ α β : Type}

/-- Nothing is done. -/
protected def pure (x : α) : Act ω σ α := fun s => ⟨.ok x, s, []⟩

/-- One act, and then another that may depend on its result. -/
protected def bind (m : Act ω σ α) (f : α → Act ω σ β) : Act ω σ β := fun s =>
  match m s with
  | ⟨.ok x, s, journal⟩ => (f x s).after journal
  | ⟨.error e, s, journal⟩ => ⟨.error e, s, journal⟩

instance : Monad (Act ω σ) where
  pure := Act.pure
  bind := Act.bind

/-- Writes into the journal. -/
def note (w : ω) : Act ω σ Unit := fun s => ⟨.ok (), s, [w]⟩

def get : Act ω σ σ := fun s => ⟨.ok s, s, []⟩

def modify (f : σ → σ) : Act ω σ Unit := fun s => ⟨.ok (), f s, []⟩

/-- Ends with a fault. -/
def throw (e : Fault) : Act ω σ α := fun s => ⟨.error e, s, []⟩

/-- Ends with a failure. -/
def fail (f : Failure) : Act ω σ α := throw (.failure f)

/-- Ends with a refusal in the standard words of its code. -/
def refuse (code : StatusCode) : Act ω σ α := fail (.ofCode code)

/-- Answers what is already known. -/
def ofExcept : Except Failure α → Act ω σ α
  | .ok x => Act.pure x
  | .error f => fail f

/-- A fault becomes a value. -/
def attempt (m : Act ω σ α) : Act ω σ (Except Fault α) := fun s =>
  let o := m s
  ⟨.ok o.result, o.state, o.journal⟩

/-- A failure becomes a value; a crash ends the composition all the
same. -/
def settle (m : Act ω σ α) : Act ω σ (Except Failure α) := fun s =>
  match m s with
  | ⟨.ok x, s, journal⟩ => ⟨.ok (.ok x), s, journal⟩
  | ⟨.error (.failure f), s, journal⟩ => ⟨.ok (.error f), s, journal⟩
  | ⟨.error (.crash c), s, journal⟩ => ⟨.error (.crash c), s, journal⟩

/-- A failure is handled; a crash passes. -/
def orElse (m : Act ω σ α) (f : Failure → Act ω σ α) : Act ω σ α := fun s =>
  match m s with
  | ⟨.error (.failure e), s, journal⟩ => (f e s).after journal
  | o => o

/-- Work on a part of a state. -/
def within (part : σ → τ) (put : τ → σ → σ) (m : Act ω τ α) : Act ω σ α := fun s =>
  let o := m (part s)
  ⟨o.result, put o.state s, o.journal⟩

/-- What is told, in other words. -/
def telling (f : ω → ω') (m : Act ω σ α) : Act ω' σ α := fun s =>
  let o := m s
  ⟨o.result, o.state, o.journal.map f⟩

/-! ## How acts compose -/

theorem bind_ok {m : Act ω σ α} {f : α → Act ω σ β} {s t : σ} {x : α} {j : List ω}
    (h : m s = ⟨.ok x, t, j⟩) : (m >>= f) s = (f x t).after j := by
  show Act.bind m f s = _
  simp only [Act.bind, h]

theorem bind_error {m : Act ω σ α} {f : α → Act ω σ β} {s t : σ} {e : Fault} {j : List ω}
    (h : m s = ⟨.error e, t, j⟩) : (m >>= f) s = ⟨.error e, t, j⟩ := by
  show Act.bind m f s = _
  simp only [Act.bind, h]

/-- Only a crash is not settled. -/
theorem settle_cases {m : Act ω σ α} {s t : σ} {result : Except Fault α} {journal : List ω}
    (h : m s = ⟨result, t, journal⟩) :
    (∃ settled, m.settle s = ⟨.ok settled, t, journal⟩) ∨
      ∃ c, result = .error (.crash c) ∧ m.settle s = ⟨.error (.crash c), t, journal⟩ := by
  unfold settle
  rw [h]
  cases result with
  | ok x => exact .inl ⟨_, rfl⟩
  | error e =>
    cases e with
    | failure f => exact .inl ⟨_, rfl⟩
    | crash c => exact .inr ⟨c, rfl, rfl⟩

/-- What an act makes of a part of the state, and what comes next leaves
alone, is what the whole makes of it. -/
theorem view_bind {γ : Type} (part : σ → γ) {m : Act ω σ α} {f : α → Act ω σ β} {s : σ} {x : γ}
    (hm : part (m s).state = x) (hf : ∀ a t, part t = x → part (f a t).state = x) :
    part ((m >>= f) s).state = x := by
  cases h : m s with
  | mk result t journal =>
    rw [h] at hm
    cases result with
    | ok a => rw [bind_ok h]; exact hf a t hm
    | error e => rw [bind_error h]; exact hm

/-- What comes next and tells nothing leaves the journal as it is. -/
theorem journal_bind {m : Act ω σ α} {f : α → Act ω σ β} (s : σ)
    (hf : ∀ x t, (f x t).journal = []) : ((m >>= f) s).journal = (m s).journal := by
  cases h : m s with
  | mk result t journal =>
    cases result with
    | ok x =>
      rw [bind_ok h, Outcome.journal_after, hf]
      exact List.append_nil journal
    | error e => rw [bind_error h]

theorem state_ofExcept (x : Except Failure α) (s : σ) :
    ((ofExcept x : Act ω σ α) s).state = s := by
  cases x <;> rfl

/-! ## What acts leave alone -/

/-- An act leaves a part of the state as it is. -/
def Keeps {γ : Type} (part : σ → γ) (m : Act ω σ α) : Prop := ∀ s, part (m s).state = part s

section Keeps

variable {γ : Type} {part : σ → γ}

theorem keeps_pure (x : α) : Keeps part (pure x : Act ω σ α) := fun _ => rfl

theorem keeps_note (w : ω) : Keeps part (note w) := fun _ => rfl

theorem keeps_throw (e : Fault) : Keeps part (throw e : Act ω σ α) := fun _ => rfl

theorem keeps_fail (f : Failure) : Keeps part (fail f : Act ω σ α) := fun _ => rfl

theorem keeps_get : Keeps part (get : Act ω σ σ) := fun _ => rfl

theorem keeps_bind {m : Act ω σ α} {f : α → Act ω σ β} (hm : Keeps part m)
    (hf : ∀ x, Keeps part (f x)) : Keeps part (m >>= f) := fun s =>
  view_bind part (hm s) fun x t ht => (hf x t).trans ht

theorem keeps_attempt {m : Act ω σ α} (hm : Keeps part m) : Keeps part m.attempt := hm

theorem keeps_settle {m : Act ω σ α} (hm : Keeps part m) : Keeps part m.settle := fun s => by
  cases h : m s with
  | mk result t journal =>
    have hs := hm s
    rw [h] at hs
    rcases settle_cases h with ⟨_, hsettled⟩ | ⟨_, _, hsettled⟩ <;> rwa [hsettled]

theorem keeps_orElse {m : Act ω σ α} {f : Failure → Act ω σ α} (hm : Keeps part m)
    (hf : ∀ e, Keeps part (f e)) : Keeps part (m.orElse f) := fun s => by
  have hs := hm s
  unfold orElse
  split
  · next h => rw [h] at hs; exact (hf _ _).trans hs
  · exact hs

theorem keeps_telling {m : Act ω σ α} (g : ω → ω') (hm : Keeps part m) :
    Keeps part (m.telling g) := hm

theorem keeps_within {m : Act ω τ α} {look : σ → τ} {put : τ → σ → σ} {view : τ → γ}
    (hm : Keeps view m) (hpart : ∀ s, part s = view (look s))
    (hput : ∀ t s, look (put t s) = t) : Keeps part (m.within look put) := fun s => by
  rw [hpart, hpart]
  show view (look (put (m (look s)).state s)) = _
  rw [hput]
  exact hm _

end Keeps

end Act

end ConsumerGroup
