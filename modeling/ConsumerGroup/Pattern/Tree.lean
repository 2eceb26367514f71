/-!
# Pattern trees

What a pattern means: which stretches of a text it matches. From places
in the text a tree comes to other places; `Tree.ends` gives all of them.
A pattern accepts a text when it comes anywhere from all the places there
are.

A text is finite, so only so many places can be come to, and a repetition
without an upper bound is exhausted once a round brings no new place.
-/

namespace ConsumerGroup.Pattern

/-! ## Looking around -/

/-- What stands between two characters with regard to words. -/
inductive Boundary where
  /-- A word begins or ends. -/
  | edge
  /-- Neither. -/
  | noEdge
  | wordStart
  | wordEnd
  /-- No word reaches up to here. -/
  | notAfterWord
  /-- No word goes on from here. -/
  | notBeforeWord
  deriving DecidableEq, Repr

/-- A condition on a place in a text. -/
inductive Look where
  | textStart
  | textEnd
  | lineStart
  | lineEnd
  /-- The start of a line, where carriage returns end lines too. -/
  | returnLineStart
  | returnLineEnd
  | boundary (isWord : Char → Bool) (b : Boundary)

/-- Whether there are words before and behind. -/
def Boundary.holds : Boundary → (before behind : Bool) → Bool
  | .edge, before, behind => before != behind
  | .noEdge, before, behind => before == behind
  | .wordStart, before, behind => !before && behind
  | .wordEnd, before, behind => before && !behind
  | .notAfterWord, before, _ => !before
  | .notBeforeWord, _, behind => !behind

/-- Whether a condition holds between two characters; at the two ends of
the text there is only one, or none. -/
def Look.holds (before behind : Option Char) : Look → Bool
  | .textStart => before.isNone
  | .textEnd => behind.isNone
  | .lineStart => before.isNone || before == some '\n'
  | .lineEnd => behind.isNone || behind == some '\n'
  | .returnLineStart =>
    before.isNone || before == some '\n' || (before == some '\r' && behind != some '\n')
  | .returnLineEnd =>
    behind.isNone || behind == some '\r' || (behind == some '\n' && before != some '\r')
  | .boundary isWord b => b.holds (before.any isWord) (behind.any isWord)

/-! ## Trees -/

/-- What a pattern means. -/
inductive Tree where
  | empty
  /-- One character. -/
  | one (accepts : Char → Bool)
  | look (l : Look)
  | both (first second : Tree)
  | either (left right : Tree)
  /-- Again and again, at least and at most so often. -/
  | again (t : Tree) (least : Nat) (most : Option Nat)

namespace Tree

/-- The places of two lists, each in rising order and so is the whole. -/
def union : List Nat → List Nat → List Nat
  | [], qs => qs
  | ps, [] => ps
  | p :: ps, q :: qs =>
    if p < q then p :: union ps (q :: qs)
    else if q < p then q :: union (p :: ps) qs
    else p :: union ps qs
termination_by ps qs => ps.length + qs.length

/-- The places come to in so many steps. Once the places stay the same
more steps change nothing. -/
def after (step : List Nat → List Nat) : Nat → List Nat → List Nat
  | 0, places => places
  | n + 1, places =>
    let next := step places
    if next = places then places else after step n next

/-- The places come to in so many steps or fewer: those seen, and what
the latest of them lead to. -/
def within (step : List Nat → List Nat) : Nat → (latest seen : List Nat) → List Nat
  | 0, _, seen => seen
  | n + 1, latest, seen =>
    let new := (step latest).filter (!seen.contains ·)
    if new.isEmpty then seen else within step n new (union seen new)

/-- Whether a condition holds at a place of a text. -/
def holdsAt (text : Array Char) (l : Look) (p : Nat) : Bool :=
  l.holds (if p = 0 then none else text[p - 1]?) text[p]?

/-- The places where a match can end that begins at one of the places
given, in rising order like these. -/
def ends (text : Array Char) : Tree → List Nat → List Nat
  | .empty => fun places => places
  | .one accepts => fun places => (places.filter fun p => text[p]?.any accepts).map (· + 1)
  | .look l => fun places => places.filter (holdsAt text l)
  | .both first second => fun places => ends text second (ends text first places)
  | .either left right => fun places => union (ends text left places) (ends text right places)
  | .again t least most => fun places =>
    let begun := after (ends text t) least places
    let rounds := match most with
      | none => text.size + 1
      | some n => min (n - least) (text.size + 1)
    within (ends text t) rounds begun begun

/-- Whether the tree matches a stretch of a text. -/
def accepts (t : Tree) (s : String) : Bool :=
  let text := s.toList.toArray
  !(t.ends text (List.range (text.size + 1))).isEmpty

end Tree

end ConsumerGroup.Pattern
