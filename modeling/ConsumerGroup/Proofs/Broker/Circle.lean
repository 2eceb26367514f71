import ConsumerGroup.Proofs.Broker.Bounds
import Mathlib.Data.List.Rotate

/-!
# The circle of a member

A member goes round the partitions it reads in a circle, which begins at
the cursor (`Member.circle`). Whoever has something to tell and is first in
the circle tells it, and is last in the circle afterwards; those before it
have been looked at and keep their order, and those behind it come first
(`Member.circle_fetch`). If nobody has anything to tell the circle stays as
it is, looked at (`Member.Served.nothing`).

So who is served next can be told from the order of the circle alone, and
neither the assignment nor the cursor has to be looked at any more. That the
cursor points into the assignment is assumed here, and holds of every member
(`Member.InBounds`).
-/

namespace ConsumerGroup

namespace Member

variable {m : Member} {ts : Topics}

/-- The slots in the order in which the next fetch looks at them. -/
def circle (m : Member) : List Slot := m.assignment.rotate m.cursor

theorem mem_circle {s : Slot} : s ∈ m.circle ↔ s ∈ m.assignment := List.mem_rotate

/-- In bounds the cursor is at most as far as there are slots. -/
theorem InBounds.cursor_le (h : m.InBounds ts) : m.cursor ≤ m.assignment.length := by
  rcases h.cursor with hlt | ⟨_, hzero⟩
  · exact Nat.le_of_lt hlt
  · exact hzero ▸ Nat.zero_le _

/-- A circle begins at the cursor and ends before it. -/
theorem circle_eq (h : m.cursor ≤ m.assignment.length) :
    m.circle = m.assignment.drop m.cursor ++ m.assignment.take m.cursor :=
  List.rotate_eq_drop_append_take h

/-- The circle that begins behind a slot ends with that slot. -/
theorem rotate_behind {before behind : List Slot} {s : Slot} {k n : Nat}
    (hk : k = before.length) (hn : n = (before ++ s :: behind).length) :
    (before ++ s :: behind).rotate ((k + 1) % n) = behind ++ before ++ [s] := by
  have hlength : k + 1 = (before ++ [s]).length := by simp [hk]
  rw [hn, List.rotate_mod, hlength, List.append_cons, List.rotate_append_length_eq,
    List.append_assoc]

/-- What a fetch makes of a circle. -/
inductive Served (o : MemberOptions) (ts : Topics) (circle : List Slot) :
    Option Message → List Slot → Prop
  /-- The first slot that has something to tell is last afterwards. -/
  | told {before behind : List Slot} {s : Slot} {x : Message}
      (hc : circle = before ++ s :: behind) (hq : ∀ q ∈ before, (q.look o ts).1 = none)
      (hx : (s.look o ts).1 = some x) :
      Served o ts circle (some x)
        (behind ++ before.map (fun q => (q.look o ts).2) ++ [(s.look o ts).2])
  | nothing (hq : ∀ q ∈ circle, (q.look o ts).1 = none) :
      Served o ts circle none (circle.map fun q => (q.look o ts).2)

/-- A fetch serves the first slot in the circle that has something to
tell. -/
theorem circle_fetch (h : m.cursor ≤ m.assignment.length) (ts : Topics) :
    Served m.options ts m.circle (m.fetch ts).1 (m.fetch ts).2.circle := by
  have hparts := List.take_append_drop m.cursor m.assignment
  have hfront : (m.assignment.take m.cursor).length = m.cursor := List.length_take_of_le h
  have hlength := congrArg List.length hparts
  rw [circle_eq h]
  unfold fetch
  dsimp only
  generalize m.assignment.take m.cursor = front at hparts hfront hlength ⊢
  generalize m.assignment.drop m.cursor = back at hparts hlength ⊢
  rcases firstTold_cases m.options ts back with
    ⟨before, s, behind, x, rfl, hquiet, hx, hfound⟩ | ⟨hback, hfound⟩
  · rw [hfound]
    have hcircle : (front ++ (before.map (·.look m.options ts |>.2) ++
        (s.look m.options ts).2 :: behind)).rotate
          ((m.cursor + before.length + 1) % m.assignment.length) =
        (behind ++ front) ++ before.map (·.look m.options ts |>.2) ++ [(s.look m.options ts).2] := by
      rw [← List.append_assoc front, rotate_behind (by simp [hfront]) (by simp [← hlength])]
      simp only [List.append_assoc]
    have hsplit : before ++ s :: behind ++ front = before ++ s :: (behind ++ front) := by simp
    dsimp only [circle]
    rw [hcircle, hsplit]
    exact .told rfl hquiet hx
  · rw [hfound]
    dsimp only
    rcases firstTold_cases m.options ts front with
      ⟨before, s, behind, x, rfl, hquiet, hx, hfound'⟩ | ⟨hfront', hfound'⟩
    · rw [hfound']
      have hcircle : (before.map (·.look m.options ts |>.2) ++ (s.look m.options ts).2 :: behind ++
          back.map (·.look m.options ts |>.2)).rotate ((before.length + 1) % m.assignment.length) =
          behind ++ (back ++ before).map (·.look m.options ts |>.2) ++ [(s.look m.options ts).2] := by
        rw [List.append_assoc, List.cons_append,
          rotate_behind (by simp) (by simp [← hlength]), List.map_append]
        simp only [List.append_assoc]
      dsimp only [circle]
      rw [hcircle, ← List.append_assoc]
      exact .told rfl (List.forall_mem_append.mpr ⟨hback, hquiet⟩) hx
    · rw [hfound']
      have hcircle : (front.map (·.look m.options ts |>.2) ++
          back.map (·.look m.options ts |>.2)).rotate m.cursor =
          (back ++ front).map (·.look m.options ts |>.2) := by
        rw [← List.map_append, ← List.map_rotate, ← hfront, List.rotate_append_length_eq]
      dsimp only [circle]
      rw [hcircle]
      exact .nothing (List.forall_mem_append.mpr ⟨hback, hfront'⟩)

end Member

end ConsumerGroup
