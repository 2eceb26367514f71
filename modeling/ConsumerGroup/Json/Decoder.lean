import ConsumerGroup.Json.Reader

/-!
# Decoding JSON

A `Decoder` reads one value of a given shape off the front of a text. The
shapes here are all that a caller can ask for: any value, a text, an
integer in a range, something that may be null, an object of texts, and a
record of two fields.

`decode` reads a whole text: one value, and nothing but blanks around it.
Containers nest at most 127 deep; what a record passes over may nest as
deep as it likes.
-/

namespace ConsumerGroup.Json

/-- Reads one value off the front; the number is how many levels of
containers may still be opened, and one more. -/
abbrev Decoder (α : Type) := (depth : Nat) → (s : List UInt8) → Except Stop (α × Rest s)

/-- Answers a value and what is left of a text that is shorter than `s`. -/
def keep {α : Type} {s r : List UInt8} (h : r.length ≤ s.length) :
    Except Stop (α × Rest r) → Except Stop (α × Rest s)
  | .ok (x, ⟨r', h'⟩) => .ok (x, ⟨r', Nat.lt_of_lt_of_le h' h⟩)
  | .error e => .error e

/-- Reads a word whose first letter has been taken, and answers `x` for
it. -/
def afterWord {α : Type} (x : α) (w : String) {s r : List UInt8} (h : r.length < s.length) :
    Except Stop (α × Rest s) :=
  match word (wordTail w) r with
  | .ok t => .ok (x, t.within h)
  | .error e => .error e

/-- Reads a scalar that begins with `b`, and answers what it is. Nothing
for a byte that begins no scalar. -/
def scalar? (b : UInt8) {s r : List UInt8} (hs : r.length < s.length) (whole : b :: r = skipBlank s) :
    Option (Except Stop (Found × Rest s)) :=
  have hw : (b :: r).length ≤ s.length := whole ▸ length_skipBlank_le s
  if b = ascii 'n' then some (afterWord .null "null" hs)
  else if b = ascii 't' then some (afterWord (.bool true) "true" hs)
  else if b = ascii 'f' then some (afterWord (.bool false) "false" hs)
  else if b = ascii '-' then
    some <| match number true r with
      | .ok (n, t) => .ok (.number n, t.within hs)
      | .error e => .error e
  else if isDigit b then
    some <| match number false (b :: r) with
      | .ok (n, ⟨r', h⟩) => .ok (.number n, ⟨r', Nat.lt_of_lt_of_le h hw⟩)
      | .error e => .error e
  else if b = ascii '"' then
    some <| match text r with
      | .ok (x, t) => .ok (.text x, t.within hs)
      | .error e => .error e
  else none

/-- The fault of a value of another kind than expected. A scalar is read
to tell what it is; a container is only looked at. -/
def wrongKind (expected : String) (b : UInt8) {s r : List UInt8}
    (hs : r.length < s.length) (whole : b :: r = skipBlank s) : Stop :=
  match scalar? b hs whole with
  | some (.ok (found, ⟨r', _⟩)) => .here (.wrongKind found expected) r'
  | some (.error e) => e
  | none =>
    if b = ascii '[' then .here (.wrongKind .list expected) (b :: r)
    else if b = ascii '\x7b' then .here (.wrongKind .object expected) (b :: r)
    else .next .noValue (b :: r)

/-! ## Scalars -/

/-- A text. -/
def aText (expected : String) : Decoder String := fun _ s =>
  match h : skipBlank s with
  | [] => .error (.next .unfinishedValue [])
  | b :: r =>
    have hs := length_lt_of_skipBlank h
    if b = ascii '"' then keep (Nat.le_of_lt hs) (text r)
    else .error (wrongKind expected b hs h.symm)

/-- An integer in a range, whose name stands in the message. -/
def anInteger (least greatest : Int) (name : String) : Decoder Int := fun _ s =>
  match h : skipBlank s with
  | [] => .error (.next .unfinishedValue [])
  | b :: r =>
    have hs := length_lt_of_skipBlank h
    if b = ascii '-' ∨ isDigit b then
      match scalar? b hs h.symm with
      | some (.ok (.number (.integer n), ⟨r', hr⟩)) =>
        if least ≤ n ∧ n ≤ greatest then .ok (n, ⟨r', hr⟩)
        else .error (.here (.outOfRange n name) r')
      | some (.ok (found, ⟨r', _⟩)) => .error (.here (.wrongKind found name) r')
      | some (.error e) => .error e
      | none => .error (.next .noValue (b :: r))
    else .error (wrongKind name b hs h.symm)

/-- `null`, or what the decoder reads. -/
def optional {α : Type} (d : Decoder α) : Decoder (Option α) := fun depth s =>
  match h : skipBlank s with
  | [] => .error (.next .unfinishedValue [])
  | b :: r =>
    if b = ascii 'n' then afterWord none "null" (length_lt_of_skipBlank h)
    else
      keep (h ▸ length_skipBlank_le s) <| match d depth (b :: r) with
        | .ok (x, rest) => .ok (some x, rest)
        | .error e => .error e

/-! ## Containers -/

/-- Where the reader stands in a container. -/
inductive Next (s : List UInt8) where
  /-- At its end, which has been taken. -/
  | done (rest : Rest s)
  /-- Before another entry. -/
  | entry (rest : { r : List UInt8 // r.length ≤ s.length })

/-- Goes on to the next item of a list. -/
def nextItem (first : Bool) (s : List UInt8) : Except Stop (Next s) :=
  match h : skipBlank s with
  | [] => .error (.next .unfinishedList [])
  | b :: r =>
    have hs := length_lt_of_skipBlank h
    if b = ascii ']' then .ok (.done ⟨r, hs⟩)
    else if first then .ok (.entry ⟨b :: r, h ▸ length_skipBlank_le s⟩)
    else if b = ascii ',' then
      match h' : skipBlank r with
      | [] => .error (.next .unfinishedValue [])
      | c :: t =>
        if c = ascii ']' then .error (.next .trailingComma (c :: t))
        else .ok (.entry ⟨c :: t, by have := h' ▸ length_skipBlank_le r; omega⟩)
    else .error (.next .noCommaInList (b :: r))

/-- Goes on to the next key of an object. -/
def nextKey (first : Bool) (s : List UInt8) : Except Stop (Next s) :=
  match h : skipBlank s with
  | [] => .error (.next .unfinishedObject [])
  | b :: r =>
    have hs := length_lt_of_skipBlank h
    if b = ascii '\x7d' then .ok (.done ⟨r, hs⟩)
    else if first then
      if b = ascii '"' then .ok (.entry ⟨b :: r, h ▸ length_skipBlank_le s⟩)
      else .error (.next .keyNotText (b :: r))
    else if b = ascii ',' then
      match h' : skipBlank r with
      | [] => .error (.next .unfinishedValue [])
      | c :: t =>
        if c = ascii '"' then .ok (.entry ⟨c :: t, by have := h' ▸ length_skipBlank_le r; omega⟩)
        else if c = ascii '\x7d' then .error (.next .trailingComma (c :: t))
        else .error (.next .keyNotText (c :: t))
    else .error (.next .noCommaInObject (b :: r))

/-- Reads a key, quotes included. -/
def key (s : List UInt8) : Except Stop (String × Rest s) :=
  match s with
  | [] => .error (.next .unfinishedObject [])
  | _ :: r => keep (Nat.le_of_lt (Nat.lt_succ_self _)) (text r)

/-- Takes the colon after a key. -/
def colon (s : List UInt8) : Except Stop (Rest s) :=
  match h : skipBlank s with
  | [] => .error (.next .unfinishedObject [])
  | b :: r =>
    if b = ascii ':' then .ok ⟨r, length_lt_of_skipBlank h⟩
    else .error (.next .noColon (b :: r))

/-- Reads the members of an object whose brace has been taken, to its
end. -/
def members {α : Type} (d : Decoder α) (depth : Nat) (first : Bool) (s : List UInt8) :
    Except Stop (List (String × α) × Rest s) :=
  match nextKey first s with
  | .error e => .error e
  | .ok (.done rest) => .ok ([], rest)
  | .ok (.entry ⟨r, h⟩) =>
    match key r with
    | .error e => .error e
    | .ok (k, ⟨r₁, h₁⟩) =>
      match colon r₁ with
      | .error e => .error e
      | .ok ⟨r₂, h₂⟩ =>
        match d depth r₂ with
        | .error e => .error e
        | .ok (v, ⟨r₃, h₃⟩) =>
          match members d depth false r₃ with
          | .error e => .error e
          | .ok (rest, ⟨r₄, h₄⟩) => .ok ((k, v) :: rest, ⟨r₄, by omega⟩)
termination_by s.length
decreasing_by omega

/-- Opens a container: one level less is left, and none may be used up. -/
def opened {α : Type} (depth : Nat) (s : List UInt8) (inside : Nat → Except Stop α) :
    Except Stop α :=
  if depth ≤ 1 then .error (.next .tooDeep s) else inside (depth - 1)

/-- An object whose values are all read alike, in key order; of members
with one key the last counts. -/
def anObject {α : Type} (d : Decoder α) (expected : String) : Decoder (List (String × α)) :=
  fun depth s =>
    match h : skipBlank s with
    | [] => .error (.next .unfinishedValue [])
    | b :: r =>
      have hs := length_lt_of_skipBlank h
      if b = ascii '\x7b' then
        opened depth (b :: r) fun depth =>
          keep (Nat.le_of_lt hs) <| match members d depth true r with
            | .ok (ms, rest) => .ok (orderMembers ms, rest)
            | .error e => .error e
      else .error (wrongKind expected b hs h.symm)

/-- What a scalar is as a value. -/
def Found.toValue : Found → Value
  | .null => .null
  | .bool b => .bool b
  | .number n => .number n
  | .text s => .text s
  | .list => .list []
  | .object => .object []

mutual

/-- Any value. -/
def aValue (depth : Nat) (s : List UInt8) : Except Stop (Value × Rest s) :=
  match h : skipBlank s with
  | [] => .error (.next .unfinishedValue [])
  | b :: r =>
    have hs := length_lt_of_skipBlank h
    match scalar? b hs h.symm with
    | some (.ok (found, rest)) => .ok (found.toValue, rest)
    | some (.error e) => .error e
    | none =>
      if b = ascii '[' then
        opened depth (b :: r) fun depth =>
          match items depth true r with
          | .ok (vs, t) => .ok (.list vs, t.within hs)
          | .error e => .error e
      else if b = ascii '\x7b' then
        opened depth (b :: r) fun depth =>
          match fields depth true r with
          | .ok (ms, t) => .ok (.object (orderMembers ms), t.within hs)
          | .error e => .error e
      else .error (.next .noValue (b :: r))
termination_by 2 * s.length

/-- The items of a list whose bracket has been taken, to its end. -/
def items (depth : Nat) (first : Bool) (s : List UInt8) :
    Except Stop (List Value × Rest s) :=
  match nextItem first s with
  | .error e => .error e
  | .ok (.done rest) => .ok ([], rest)
  | .ok (.entry ⟨r, h⟩) =>
    match aValue depth r with
    | .error e => .error e
    | .ok (v, ⟨r₁, h₁⟩) =>
      match items depth false r₁ with
      | .error e => .error e
      | .ok (vs, ⟨r₂, h₂⟩) => .ok (v :: vs, ⟨r₂, by omega⟩)
termination_by 2 * s.length + 1

/-- The members of an object whose brace has been taken, to its end. -/
def fields (depth : Nat) (first : Bool) (s : List UInt8) :
    Except Stop (List (String × Value) × Rest s) :=
  match nextKey first s with
  | .error e => .error e
  | .ok (.done rest) => .ok ([], rest)
  | .ok (.entry ⟨r, h⟩) =>
    match key r with
    | .error e => .error e
    | .ok (k, ⟨r₁, h₁⟩) =>
      match colon r₁ with
      | .error e => .error e
      | .ok ⟨r₂, h₂⟩ =>
        match aValue depth r₂ with
        | .error e => .error e
        | .ok (v, ⟨r₃, h₃⟩) =>
          match fields depth false r₃ with
          | .error e => .error e
          | .ok (ms, ⟨r₄, h₄⟩) => .ok ((k, v) :: ms, ⟨r₄, by omega⟩)
termination_by 2 * s.length + 1

end

/-! ## Passing over a value -/

/-- Passes over the digits of a number after its sign, looking only at
its form. -/
def skipNumber (s : List UInt8) : Except Stop (Rest s) :=
  let tail (r : List UInt8) : Except Stop (AtMost r) :=
    match r with
    | [] => .error (.here .badNumber [])
    | b :: t =>
      let sign := b = ascii '+' ∨ b = ascii '-'
      match (if sign then t else b :: t) with
      | [] => .error (.here .badNumber [])
      | c :: u =>
        if isDigit c then
          .ok ⟨(afterDigits t), by
            have := length_afterDigits_le t
            simp only [List.length_cons]; omega⟩
        else .error (.here .badNumber u)
  match s with
  | [] => .error (.here .badNumber [])
  | b :: r =>
    if !isDigit b then .error (.here .badNumber r)
    else if b = ascii '0' ∧ (r.head?.any isDigit) then .error (.next .badNumber r)
    else
      match hr : afterDigits r with
      | [] => .ok ⟨[], Nat.succ_pos _⟩
      | c :: t =>
        have ht : t.length < (b :: r).length := by
          have := hr ▸ length_afterDigits_le r
          simp only [List.length_cons] at this ⊢
          omega
        if c = ascii '.' then
          if (digits t).isEmpty then .error (.next .badNumber t)
          else
            match h' : afterDigits t with
            | [] => .ok ⟨[], Nat.succ_pos _⟩
            | e :: u =>
              have hu : u.length < (b :: r).length := by
                have := h' ▸ length_afterDigits_le t
                simp only [List.length_cons] at this ⊢
                simp only [List.length_cons] at ht
                omega
              if e = ascii 'e' ∨ e = ascii 'E' then
                match tail u with
                | .ok v => .ok (v.within hu)
                | .error e => .error e
              else .ok ⟨e :: u, by
                have := h' ▸ length_afterDigits_le t
                omega⟩
        else if c = ascii 'e' ∨ c = ascii 'E' then
          match tail t with
          | .ok v => .ok (v.within ht)
          | .error e => .error e
        else .ok ⟨c :: t, by
          have := hr ▸ length_afterDigits_le r
          simp only [List.length_cons] at this ⊢
          omega⟩

/-- Where an entry of a container begins: at the byte found, or after the
comma it was. -/
def entryStart (first : Bool) {s r : List UInt8} {b : UInt8} (h : skipBlank s = b :: r) :
    AtMost s :=
  if first then ⟨b :: r, h ▸ length_skipBlank_le s⟩
  else ⟨r, Nat.le_of_lt (length_lt_of_skipBlank h)⟩

mutual

/-- Passes over a value of any kind, as deep as it goes. -/
def skipValue (s : List UInt8) : Except Stop (Rest s) :=
  match h : skipBlank s with
  | [] => .error (.next .unfinishedValue [])
  | b :: r =>
    have hs := length_lt_of_skipBlank h
    have hw : (b :: r).length ≤ s.length := h ▸ length_skipBlank_le s
    let shorter (x : Except Stop (Rest r)) : Except Stop (Rest s) :=
      match x with
      | .ok t => .ok (t.within hs)
      | .error e => .error e
    let word (w : String) : Except Stop (Rest s) :=
      match word (wordTail w) r with
      | .ok t => .ok (t.within hs)
      | .error e => .error e
    if b = ascii 'n' then word "null"
    else if b = ascii 't' then word "true"
    else if b = ascii 'f' then word "false"
    else if b = ascii '-' then shorter (skipNumber r)
    else if isDigit b then
      match skipNumber (b :: r) with
      | .ok ⟨r', hr⟩ => .ok ⟨r', Nat.lt_of_lt_of_le hr hw⟩
      | .error e => .error e
    else if b = ascii '"' then shorter (skipText r)
    else if b = ascii '[' then shorter (skipItems true r)
    else if b = ascii '\x7b' then shorter (skipFields true r)
    else .error (.next .noValue (b :: r))
termination_by 2 * s.length

/-- Passes over the items of a list to its end. After a comma a value has
to follow. -/
def skipItems (first : Bool) (s : List UInt8) : Except Stop (Rest s) :=
  match h : skipBlank s with
  | [] => .error (.next .unfinishedList [])
  | b :: r =>
    if b = ascii ']' then .ok ⟨r, length_lt_of_skipBlank h⟩
    else if !first ∧ b ≠ ascii ',' then .error (.next .noCommaInList (b :: r))
    else
      have hr := (entryStart first h).property
      match skipValue (entryStart first h).val with
      | .error e => .error e
      | .ok ⟨r₁, h₁⟩ =>
        match skipItems false r₁ with
        | .error e => .error e
        | .ok ⟨r₂, h₂⟩ => .ok ⟨r₂, by omega⟩
termination_by 2 * s.length + 1

/-- Passes over the members of an object to its end. After a comma a key
has to follow. -/
def skipFields (first : Bool) (s : List UInt8) : Except Stop (Rest s) :=
  match h : skipBlank s with
  | [] => .error (.next .unfinishedObject [])
  | b :: r =>
    if b = ascii '\x7d' then .ok ⟨r, length_lt_of_skipBlank h⟩
    else if !first ∧ b ≠ ascii ',' then .error (.next .noCommaInObject (b :: r))
    else
      match h' : skipBlank (entryStart first h).val with
      | [] => .error (.next .unfinishedObject [])
      | c :: t =>
        have ht : t.length < s.length :=
          Nat.lt_of_lt_of_le (length_lt_of_skipBlank h') (entryStart first h).property
        if c ≠ ascii '"' then .error (.next .keyNotText (c :: t))
        else match skipText t with
          | .error e => .error e
          | .ok ⟨r₁, h₁⟩ =>
            match colon r₁ with
            | .error e => .error e
            | .ok ⟨r₂, h₂⟩ =>
              match skipValue r₂ with
              | .error e => .error e
              | .ok ⟨r₃, h₃⟩ =>
                match skipFields false r₃ with
                | .error e => .error e
                | .ok ⟨r₄, h₄⟩ => .ok ⟨r₄, by omega⟩
termination_by 2 * s.length + 1

end

/-! ## Records -/

/-- A field of a record: its name and how its value is read. -/
structure Field (α : Type) where
  name : String
  value : Decoder α

/-- How many bytes are left once the end of a container has been taken,
if it is the next thing at all. -/
def leftAfterEnd (close : Char) (s : List UInt8) : Nat :=
  match skipBlank s with
  | [] => 0
  | b :: r => if b = ascii close then r.length else r.length + 1

/-- Reads the members of a record of two fields to its end. Other members
are passed over. -/
def recordMembers {α β : Type} (f : Field α) (g : Field β) (depth : Nat) (first : Bool)
    (x : Option α) (y : Option β) (s : List UInt8) : Except Stop ((α × β) × Rest s) :=
  match nextKey first s with
  | .error e => .error e
  | .ok (.done rest) =>
    match x, y with
    | some x, some y => .ok ((x, y), rest)
    | none, _ => .error (.here (.missingField f.name) rest.val)
    | _, none => .error (.here (.missingField g.name) rest.val)
  | .ok (.entry ⟨r, h⟩) =>
    match key r with
    | .error e => .error e
    | .ok (k, ⟨r₁, h₁⟩) =>
      if (k = f.name ∧ x.isSome) ∨ (k = g.name ∧ y.isSome) then
        .error ⟨.repeatedField k, leftAfterEnd '\x7d' r₁⟩
      else
        match colon r₁ with
        | .error e => .error e
        | .ok ⟨r₂, h₂⟩ =>
          if k = f.name then
            match f.value depth r₂ with
            | .error e => .error e
            | .ok (x, ⟨r₃, h₃⟩) => keep (by omega) (recordMembers f g depth false (some x) y r₃)
          else if k = g.name then
            match g.value depth r₂ with
            | .error e => .error e
            | .ok (y, ⟨r₃, h₃⟩) => keep (by omega) (recordMembers f g depth false x (some y) r₃)
          else
            match skipValue r₂ with
            | .error e => .error e
            | .ok ⟨r₃, h₃⟩ => keep (by omega) (recordMembers f g depth false x y r₃)
termination_by s.length
decreasing_by all_goals omega

/-- Takes the end of a list that holds no more items than wanted. -/
def listEnd (s : List UInt8) : Except Stop (Rest s) :=
  match h : skipBlank s with
  | [] => .error (.next .unfinishedList [])
  | b :: r =>
    if b = ascii ']' then .ok ⟨r, length_lt_of_skipBlank h⟩
    else if b = ascii ',' then
      match skipBlank r with
      | [] => .error (.next .trailingCharacters [])
      | c :: t =>
        .error (.next (if c = ascii ']' then .trailingComma else .trailingCharacters) (c :: t))
    else .error (.next .trailingCharacters (b :: r))

/-- Reads a record of two fields written as a list. -/
def recordItems {α β : Type} (expected : String) (f : Field α) (g : Field β) (depth : Nat)
    (s : List UInt8) : Except Stop ((α × β) × Rest s) :=
  match nextItem true s with
  | .error e => .error e
  | .ok (.done rest) => .error (.here (.wrongLength 0 expected) rest.val)
  | .ok (.entry ⟨r, h⟩) =>
    match f.value depth r with
    | .error e => .error e
    | .ok (x, ⟨r₁, h₁⟩) =>
      match nextItem false r₁ with
      | .error e => .error e
      | .ok (.done rest) => .error (.here (.wrongLength 1 expected) rest.val)
      | .ok (.entry ⟨r₂, h₂⟩) =>
        match g.value depth r₂ with
        | .error e => .error e
        | .ok (y, ⟨r₃, h₃⟩) =>
          match listEnd r₃ with
          | .error e => .error e
          | .ok ⟨r₄, h₄⟩ => .ok ((x, y), ⟨r₄, by omega⟩)

/-- A record of two fields, written as an object or as a list. -/
def aRecord {α β : Type} (name : String) (f : Field α) (g : Field β) : Decoder (α × β) :=
  fun depth s =>
    match h : skipBlank s with
    | [] => .error (.next .unfinishedValue [])
    | b :: r =>
      have hs := length_lt_of_skipBlank h
      if b = ascii '[' then
        opened depth (b :: r) fun depth =>
          keep (Nat.le_of_lt hs) (recordItems ("struct " ++ name ++ " with 2 elements") f g depth r)
      else if b = ascii '\x7b' then
        opened depth (b :: r) fun depth =>
          keep (Nat.le_of_lt hs) (recordMembers f g depth true none none r)
      else .error (wrongKind ("struct " ++ name) b hs h.symm)

/-! ## Whole texts -/

/-- How deep the containers of a text may nest, and one more. -/
def depthLimit : Nat := 128

/-- Reads a whole text. -/
def decode {α : Type} (d : Decoder α) (bytes : List UInt8) : Except Misread α :=
  let misread (e : Stop) : Misread :=
    Misread.after (bytes.take (bytes.length - e.left)) e.fault
  match d depthLimit bytes with
  | .error e => .error (misread e)
  | .ok (x, ⟨r, _⟩) =>
    match skipBlank r with
    | [] => .ok x
    | b :: t => .error (misread (.next .trailingCharacters (b :: t)))

end ConsumerGroup.Json
