import ConsumerGroup.Json.Fault

/-!
# Reading JSON

The reader goes over bytes. A step takes something off the front and
answers it together with what is left; the type `Rest` says that this is
less than before, which is why reading ends.

A fault remembers how many bytes were left when it was noticed
(`Stop.left`). Most faults are about the byte that would come next and
count it as taken (`Stop.next`); the others count only what was taken
(`Stop.here`).
-/

namespace ConsumerGroup.Json

/-- What a step leaves of `s`: less than it found. -/
abbrev Rest (s : List UInt8) := { r : List UInt8 // r.length < s.length }

/-- What is left of a text, which may be all of it. -/
abbrev AtMost (s : List UInt8) := { r : List UInt8 // r.length ≤ s.length }

/-- What is left of a later part of a text is left of the text. -/
def Rest.within {s r : List UInt8} (t : Rest r) (h : r.length < s.length) : Rest s :=
  ⟨t.val, Nat.lt_trans t.property h⟩

@[inherit_doc Rest.within]
def AtMost.within {s r : List UInt8} (t : AtMost r) (h : r.length < s.length) : Rest s :=
  ⟨t.val, Nat.lt_of_le_of_lt t.property h⟩

/-- A fault, and how many bytes were left. -/
structure Stop where
  fault : Fault
  left : Nat

namespace Stop

/-- A fault noticed with `s` still to come. -/
def here (fault : Fault) (s : List UInt8) : Stop := ⟨fault, s.length⟩

/-- A fault of the next byte of `s`, or of the end if there is none. -/
def next (fault : Fault) (s : List UInt8) : Stop := ⟨fault, s.length - 1⟩

end Stop

abbrev ascii (c : Char) : UInt8 := c.toUInt8

/-- The four bytes that may stand between the parts of a text. -/
def isBlankByte (b : UInt8) : Bool :=
  b == ascii ' ' || b == ascii '\n' || b == ascii '\t' || b == ascii '\r'

/-- The text from its first byte that is not blank. -/
def skipBlank (s : List UInt8) : List UInt8 := s.dropWhile isBlankByte

theorem length_skipBlank_le (s : List UInt8) : (skipBlank s).length ≤ s.length :=
  (List.dropWhile_sublist _).length_le

/-- What `skipBlank` leaves, when something is left and its first byte is
taken, is less than before. -/
theorem length_lt_of_skipBlank {s r : List UInt8} {b : UInt8} (h : skipBlank s = b :: r) :
    r.length < s.length := by
  have := length_skipBlank_le s
  rw [h] at this
  exact this

/-- The rest of a word whose first letter has been taken. -/
def word : List UInt8 → (s : List UInt8) → Except Stop (AtMost s)
  | [], s => .ok ⟨s, Nat.le_refl _⟩
  | _ :: _, [] => .error ⟨.unfinishedValue, 0⟩
  | c :: cs, b :: r =>
    if b = c then
      match word cs r with
      | .ok ⟨r', h⟩ => .ok ⟨r', Nat.le_succ_of_le h⟩
      | .error e => .error e
    else .error (.here .noWord r)

/-- The letters after the first one of `null`, `true` and `false`. -/
def wordTail (s : String) : List UInt8 := s.toUTF8.toList.drop 1

/-! ## Numbers -/

/-- The value of a decimal digit. -/
def digit? (b : UInt8) : Option Nat :=
  if ascii '0' ≤ b ∧ b ≤ ascii '9' then some (b.toNat - 48) else none

def isDigit (b : UInt8) : Bool := (digit? b).isSome

/-- The digits a text begins with. -/
def digits (s : List UInt8) : List Nat := (s.takeWhile isDigit).filterMap digit?

/-- What follows the digits a text begins with. -/
def afterDigits (s : List UInt8) : List UInt8 := s.dropWhile isDigit

theorem length_afterDigits_le (s : List UInt8) : (afterDigits s).length ≤ s.length :=
  (List.dropWhile_sublist _).length_le

/-- Appends digits to a number up to the last one with which it stays
below the limit; also tells how many digits were left out. -/
def absorb (limit : Nat) : Nat → List Nat → Nat × Nat
  | n, [] => (n, 0)
  | n, d :: ds =>
    if n * 10 + d < limit then absorb limit (n * 10 + d) ds else (n, (d :: ds).length)

/-- A power of ten as a double, up to the largest there is. -/
def powerOfTen (k : Nat) : Float := Float.ofScientific 1 false k

/-- A significand times a power of ten, as a double: one product or
quotient, except that a power below the smallest is reached in steps.
Nothing if it is too large. -/
def scaled? (fuel : Nat) (x : Float) (power : Int) : Option Float :=
  if power.natAbs ≤ 308 then
    if 0 ≤ power then
      let y := x * powerOfTen power.toNat
      if y.isInf then none else some y
    else some (x / powerOfTen power.natAbs)
  else if x == 0.0 then some x
  else if 0 ≤ power then none
  else match fuel with
    | 0 => some (x / powerOfTen 308)
    | fuel + 1 => scaled? fuel (x / powerOfTen 308) (power + 308)

/-- The parts of a number: the sign, the digits taken into the
significand and the power of ten they stand for. -/
structure Decimals where
  negative : Bool
  significand : Nat
  power : Int

/-- The double a number stands for. The significand has at most
twenty digits, so a few steps bring any power into range or the value to
zero. -/
def Decimals.value? (d : Decimals) : Option Float :=
  (scaled? 4 d.significand.toUInt64.toFloat d.power).map fun x => if d.negative then -x else x

/-- Reads the exponent of a number, after its letter. -/
def exponent (d : Decimals) (s : List UInt8) :
    Except Stop (Number × AtMost s) :=
  let (minus, t) : Bool × AtMost s :=
    match s with
    | [] => (false, ⟨[], by simp⟩)
    | b :: r =>
      if b = ascii '+' then (false, ⟨r, by simp⟩)
      else if b = ascii '-' then (true, ⟨r, by simp⟩)
      else (false, ⟨b :: r, Nat.le_refl _⟩)
  match t with
  | ⟨[], _⟩ => .error ⟨.unfinishedValue, 0⟩
  | ⟨b :: r, h⟩ =>
    if isDigit b then
      let after := afterDigits r
      have hr : after.length ≤ s.length := by
        have hd : after.length ≤ r.length := length_afterDigits_le r
        simp only [List.length_cons] at h
        omega
      let (e, omitted) := absorb (1 <<< 31) 0 (digits (b :: r))
      if omitted ≠ 0 ∧ d.significand ≠ 0 ∧ !minus then
        .error ⟨.numberTooLarge, after.length + (omitted - 1)⟩
      else if omitted ≠ 0 then
        .ok (.fraction (if d.negative then -0.0 else 0.0), ⟨after, hr⟩)
      else
        match ({ d with power := if minus then d.power - e else d.power + e }).value? with
        | some x => .ok (.fraction x, ⟨after, hr⟩)
        | none => .error (.here .numberTooLarge after)
    else .error (.here .badNumber r)

/-- Reads the digits after a point. -/
def fraction (d : Decimals) (s : List UInt8) :
    Except Stop (Number × AtMost s) :=
  let ds := digits s
  let after := afterDigits s
  have hr : after.length ≤ s.length := length_afterDigits_le s
  if ds.isEmpty then .error (.next (if s.isEmpty then .unfinishedValue else .badNumber) s)
  else
    let (n, omitted) := absorb UInt64.size d.significand ds
    let d := { d with significand := n, power := d.power - (ds.length - omitted : Nat) }
    match after, hr with
    | b :: r, hr =>
      if b = ascii 'e' ∨ b = ascii 'E' then
        match exponent d r with
        | .ok (x, ⟨r', h⟩) => .ok (x, ⟨r', by simp only [List.length_cons] at hr; omega⟩)
        | .error e => .error e
      else match d.value? with
        | some x => .ok (.fraction x, ⟨b :: r, hr⟩)
        | none => .error (.here .numberTooLarge (b :: r))
    | [], hr => match d.value? with
      | some x => .ok (.fraction x, ⟨[], hr⟩)
      | none => .error (.here .numberTooLarge [])

/-- The number that whole digits alone stand for: an integer as far as
64 bits reach, otherwise a double. A minus sign before zero makes it a
double, since no integer is minus zero. -/
def whole (d : Decimals) (s : List UInt8) : Except Stop Number :=
  let asDouble : Except Stop Number :=
    match d.value? with
    | some x => .ok (.fraction x)
    | none => .error (.here .numberTooLarge s)
  if d.power ≠ 0 then asDouble
  else if !d.negative then .ok (.integer d.significand)
  else if d.significand ≠ 0 ∧ d.significand ≤ 1 <<< 63 then .ok (.integer (-d.significand))
  else asDouble

/-- Reads a number whose sign has been taken. -/
def number (negative : Bool) (s : List UInt8) : Except Stop (Number × Rest s) :=
  match s with
  | [] => .error ⟨.unfinishedValue, 0⟩
  | b :: r =>
    if !isDigit b then .error (.here .badNumber r)
    else if b = ascii '0' ∧ (r.head?.any isDigit) then .error (.next .badNumber r)
    else
      let (n, omitted) := absorb UInt64.size 0 (digits (b :: r))
      let d : Decimals := { negative, significand := n, power := omitted }
      let after := afterDigits r
      have hr : after.length < (b :: r).length := Nat.lt_succ_of_le (length_afterDigits_le r)
      match after, hr with
      | [], hr => match whole d [] with
        | .ok x => .ok (x, ⟨[], hr⟩)
        | .error e => .error e
      | c :: t, hr =>
        have ht : t.length < (b :: r).length := Nat.lt_of_succ_lt hr
        if c = ascii '.' then
          match fraction d t with
          | .ok (x, u) => .ok (x, u.within ht)
          | .error e => .error e
        else if c = ascii 'e' ∨ c = ascii 'E' then
          match exponent d t with
          | .ok (x, u) => .ok (x, u.within ht)
          | .error e => .error e
        else match whole d (c :: t) with
          | .ok x => .ok (x, ⟨c :: t, hr⟩)
          | .error e => .error e

/-! ## Texts -/

/-- Four hexadecimal digits. -/
def hexUnit (s : List UInt8) : Except Stop (Nat × Rest s) :=
  match s with
  | a :: b :: c :: d :: r =>
    match [a, b, c, d].mapM fun x => CodeRanges.hexDigit? (Char.ofNat x.toNat) with
    | some ds => .ok (ds.foldl (fun n x => n * 16 + x) 0,
        ⟨r, by simp only [List.length_cons]; omega⟩)
    | none => .error (.here .badEscape r)
  | _ => .error ⟨.unfinishedText, 0⟩

/-- The bytes of a code point. -/
def codePointBytes (n : Nat) : List UInt8 := (Char.ofNat n).toString.toUTF8.toList

/-- The second half of a character written as two units, after the first
half. -/
def secondUnit (first : Nat) (s : List UInt8) : Except Stop (List UInt8 × Rest s) :=
  match s with
  | [] => .error ⟨.unfinishedText, 0⟩
  | b :: r =>
    if b ≠ ascii '\\' then .error (.here .unfinishedPair r)
    else match r with
      | [] => .error ⟨.unfinishedText, 0⟩
      | c :: t =>
        if c ≠ ascii 'u' then .error (.here .unfinishedPair t)
        else match hexUnit t with
          | .error e => .error e
          | .ok (second, ⟨r', h⟩) =>
            if 0xDC00 ≤ second ∧ second ≤ 0xDFFF then
              .ok (codePointBytes (0x10000 + (first - 0xD800) * 0x400 + (second - 0xDC00)),
                ⟨r', by simp only [List.length_cons]; omega⟩)
            else .error (.here .loneSurrogate r')

/-- A character written by number, after `\u`. -/
def unitEscape (s : List UInt8) : Except Stop (List UInt8 × Rest s) :=
  match hexUnit s with
  | .error e => .error e
  | .ok (n, ⟨r, h⟩) =>
    if 0xDC00 ≤ n ∧ n ≤ 0xDFFF then .error (.here .loneSurrogate r)
    else if 0xD800 ≤ n ∧ n ≤ 0xDBFF then
      match secondUnit n r with
      | .error e => .error e
      | .ok (bytes, t) => .ok (bytes, t.within h)
    else .ok (codePointBytes n, ⟨r, h⟩)

/-- What a letter after a backslash stands for, if it is not a number. -/
def letterEscape? (b : UInt8) : Option UInt8 :=
  if b = ascii '"' ∨ b = ascii '\\' ∨ b = ascii '/' then some b
  else if b = ascii 'b' then some 8
  else if b = ascii 'f' then some 12
  else if b = ascii 'n' then some 10
  else if b = ascii 'r' then some 13
  else if b = ascii 't' then some 9
  else none

/-- What follows a backslash. -/
def escape (s : List UInt8) : Except Stop (List UInt8 × Rest s) :=
  match s with
  | [] => .error ⟨.unfinishedText, 0⟩
  | b :: r =>
    if b = ascii 'u' then
      match unitEscape r with
      | .error e => .error e
      | .ok (bytes, ⟨r', h⟩) => .ok (bytes, ⟨r', Nat.lt_succ_of_lt h⟩)
    else match letterEscape? b with
      | some c => .ok ([c], ⟨r, Nat.lt_succ_self _⟩)
      | none => .error (.here .badEscape r)

/-- Reads a text whose opening quote has been taken; `taken` holds the
bytes read so far, latest first. -/
def textFrom (taken : List UInt8) (s : List UInt8) : Except Stop (String × Rest s) :=
  match s with
  | [] => .error ⟨.unfinishedText, 0⟩
  | b :: r =>
    if b = ascii '"' then
      match String.fromUTF8? ⟨taken.reverse.toArray⟩ with
      | some t => .ok (t, ⟨r, Nat.lt_succ_self _⟩)
      | none => .error (.here .notUnicode (b :: r))
    else if b = ascii '\\' then
      match escape r with
      | .error e => .error e
      | .ok (bytes, ⟨r', h⟩) =>
        match textFrom (bytes.reverse ++ taken) r' with
        | .error e => .error e
        | .ok (t, ⟨r'', h'⟩) => .ok (t, ⟨r'', by simp only [List.length_cons]; omega⟩)
    else if b < 0x20 then .error (.here .controlCharacter r)
    else
      match textFrom (b :: taken) r with
      | .error e => .error e
      | .ok (t, ⟨r', h⟩) => .ok (t, ⟨r', Nat.lt_succ_of_lt h⟩)
termination_by s.length
decreasing_by all_goals (simp only [List.length_cons]; omega)

/-- Reads a text whose opening quote has been taken. -/
def text (s : List UInt8) : Except Stop (String × Rest s) := textFrom [] s

/-- Passes over a text whose opening quote has been taken: its escapes
are looked at, the characters they stand for are not. -/
def skipText (s : List UInt8) : Except Stop (Rest s) :=
  match s with
  | [] => .error ⟨.unfinishedText, 0⟩
  | b :: r =>
    if b = ascii '"' then .ok ⟨r, Nat.lt_succ_self _⟩
    else if b = ascii '\\' then
      match r with
      | [] => .error ⟨.unfinishedText, 0⟩
      | c :: t =>
        if c = ascii 'u' then
          match hexUnit t with
          | .error e => .error e
          | .ok (_, ⟨r', h⟩) =>
            match skipText r' with
            | .error e => .error e
            | .ok ⟨r'', h'⟩ => .ok ⟨r'', by simp only [List.length_cons]; omega⟩
        else if (letterEscape? c).isSome then
          match skipText t with
          | .error e => .error e
          | .ok ⟨r', h⟩ => .ok ⟨r', by simp only [List.length_cons]; omega⟩
        else .error (.here .badEscape t)
    else if b < 0x20 then .error (.here .controlCharacter (b :: r))
    else
      match skipText r with
      | .error e => .error e
      | .ok ⟨r', h⟩ => .ok ⟨r', Nat.lt_succ_of_lt h⟩
termination_by s.length
decreasing_by all_goals (simp only [List.length_cons]; omega)

end ConsumerGroup.Json
