import ClusterLog.Text.Class

/-!
# Text patterns

Patterns over characters with captured parts, and the search for their first match.  Choices are
tried in order, a run takes as many or as few characters as it can and gives way where the rest of
the pattern does not match, so a pattern determines one match, and with it what it captures.
-/

namespace ClusterLog

open Text

/-- A class of characters. -/
inductive CharClass where
  | any
  | digit
  | word
  | blank
  | between (first last : Char)
  | either (left right : CharClass)
  | outside (excluded : CharClass)
deriving DecidableEq

namespace CharClass

/-- Whether a class holds a character. -/
def holds : CharClass → Char → Bool
  | any, _ => true
  | digit, c => isDigit c
  | word, c => isWord c
  | blank, c => isBlank c
  | between first last, c => first ≤ c && c ≤ last
  | either left right, c => left.holds c || right.holds c
  | outside excluded, c => !excluded.holds c

/-- The class of one character. -/
def single (c : Char) : CharClass :=
  between c c

@[simp]
theorem holds_single (c d : Char) : (single c).holds d = decide (d = c) := by
  rw [Bool.eq_iff_iff, decide_eq_true_eq, single, holds, Bool.and_eq_true, decide_eq_true_eq,
    decide_eq_true_eq]
  constructor
  · rintro ⟨lower, upper⟩
    exact Char.le_antisymm upper lower
  · rintro rfl
    exact ⟨Char.le_refl d, Char.le_refl d⟩

end CharClass

/-- A pattern. -/
inductive Pattern where
  /-- No character. -/
  | empty
  /-- One character of a class. -/
  | one (member : CharClass)
  /-- One pattern after the other. -/
  | seq (first second : Pattern)
  /-- The second pattern where the first leads to no match. -/
  | either (first second : Pattern)
  /-- A number of characters of one class, as many as possible or as few as possible. -/
  | run (greedy : Bool) (least : Nat) (most : Option Nat) (member : CharClass)
  /-- A number of repetitions, as many as possible or as few as possible. -/
  | loop (greedy : Bool) (least : Nat) (most : Option Nat) (body : Pattern)
  /-- A part whose text is kept under an ordinal. -/
  | capture (ordinal : Nat) (body : Pattern)
  /-- The beginning of the text. -/
  | textStart
  /-- The end of the text. -/
  | textEnd
  /-- The end of the text or of its last line. -/
  | lastLineEnd
deriving DecidableEq

/-- The captured texts with their ordinals, the latest first. -/
abbrev Captures := List (Nat × List Char)

namespace Pattern

/-- What is left of a text after each leading run of a class of at most `most` characters, the
longest run first, in front of `shorter`. -/
def runsDown (member : Char → Bool) : Option Nat → List Char → List (List Char) → List (List Char)
  | some 0, text, shorter => text :: shorter
  | _, [], shorter => [] :: shorter
  | most, c :: text, shorter =>
    if member c then runsDown member (most.map (· - 1)) text ((c :: text) :: shorter)
    else (c :: text) :: shorter

/-- Try to go on after each leading run of a class of at most `most` characters, the shortest run
first. -/
def runsUp {α : Type} (member : Char → Bool) (next : List Char → Option α) :
    Option Nat → List Char → Option α
  | some 0, text => next text
  | _, [] => next []
  | most, c :: text =>
    match next (c :: text) with
    | some found => some found
    | none => if member c then runsUp member next (most.map (· - 1)) text else none

/-- What is left of a text after exactly `count` characters of a class. -/
def dropExactly? (member : Char → Bool) : Nat → List Char → Option (List Char)
  | 0, text => some text
  | _ + 1, [] => none
  | count + 1, c :: text => if member c then dropExactly? member count text else none

/-- Repeat a step.  A repetition beyond the least number has to read something. -/
def iterate {α : Type}
    (step : List Char → Captures → (List Char → Captures → Option α) → Option α) (greedy : Bool)
    (next : List Char → Captures → Option α) :
    Nat → Nat → Option Nat → List Char → Captures → Option α
  | 0, _, _, _, _ => none
  | fuel + 1, least, most, text, captures =>
    let stop (_ : Unit) := if least == 0 then next text captures else none
    let more (_ : Unit) :=
      if most == some 0 then none
      else step text captures fun rest kept =>
        if least == 0 && rest.length == text.length then none
        else iterate step greedy next fuel (least - 1) (most.map (· - 1)) rest kept
    if greedy then
      match more () with
      | some found => some found
      | none => stop ()
    else
      match stop () with
      | some found => some found
      | none => more ()

/-- Match a pattern at the beginning of `text`, the rest of a text of `total` characters, and go on
with what is left.  The first way to match with which `next` succeeds counts. -/
def match? {α : Type} (total : Nat) :
    Pattern → List Char → Captures → (List Char → Captures → Option α) → Option α
  | empty, text, captures, next => next text captures
  | one _, [], _, _ => none
  | one member, c :: text, captures, next =>
    if member.holds c then next text captures else none
  | seq first second, text, captures, next =>
    first.match? total text captures fun rest kept => second.match? total rest kept next
  | either first second, text, captures, next =>
    match first.match? total text captures next with
    | some found => some found
    | none => second.match? total text captures next
  | run greedy least most member, text, captures, next =>
    (dropExactly? member.holds least text).bind fun rest =>
      if greedy then
        (runsDown member.holds (most.map (· - least)) rest []).findSome? fun left =>
          next left captures
      else
        runsUp member.holds (fun left => next left captures) (most.map (· - least)) rest
  | loop greedy least most body, text, captures, next =>
    iterate (body.match? total) greedy next (text.length + least + 1) least most text captures
  | capture ordinal body, text, captures, next =>
    body.match? total text captures fun rest kept =>
      next rest ((ordinal, text.take (text.length - rest.length)) :: kept)
  | textStart, text, captures, next =>
    if text.length == total then next text captures else none
  | textEnd, text, captures, next =>
    if text.isEmpty then next text captures else none
  | lastLineEnd, text, captures, next =>
    if text.isEmpty || text == ['\n'] then next text captures else none

/-- The captures of the first match of a pattern with a whole text. -/
def matchWhole? (pattern : Pattern) (text : List Char) : Option Captures :=
  pattern.match? text.length text [] fun rest captures =>
    if rest.isEmpty then some captures else none

/-- Patterns one after the other. -/
def sequence (patterns : List Pattern) : Pattern :=
  patterns.foldr .seq .empty

theorem match?_sequence_cons {α : Type} (total : Nat) (pattern : Pattern)
    (patterns : List Pattern) (text : List Char) (captures : Captures)
    (next : List Char → Captures → Option α) :
    (sequence (pattern :: patterns)).match? total text captures next =
      pattern.match? total text captures fun rest kept =>
        (sequence patterns).match? total rest kept next :=
  rfl

theorem match?_sequence_nil {α : Type} (total : Nat) (text : List Char) (captures : Captures)
    (next : List Char → Captures → Option α) :
    (sequence []).match? total text captures next = next text captures :=
  rfl

/-- One given character. -/
def char (c : Char) : Pattern :=
  .one (.single c)

theorem match?_char {α : Type} (total : Nat) (c : Char) (rest : List Char) (captures : Captures)
    (next : List Char → Captures → Option α) :
    (char c).match? total (c :: rest) captures next = next rest captures := by
  simp [char, match?]

theorem match?_char_of_ne {α : Type} (total : Nat) {c d : Char} (other : d ≠ c) (rest : List Char)
    (captures : Captures) (next : List Char → Captures → Option α) :
    (char c).match? total (d :: rest) captures next = none := by
  simp [char, match?, other]

/-- A given text. -/
def literal (text : List Char) : Pattern :=
  sequence (text.map char)

/-- As many characters of a class as possible, possibly none. -/
def many (member : CharClass) : Pattern :=
  .run true 0 none member

/-- As many characters of a class as possible, at least one. -/
def atLeastOne (member : CharClass) : Pattern :=
  .run true 1 none member

/-- As few characters of a class as possible, possibly none. -/
def few (member : CharClass) : Pattern :=
  .run false 0 none member

end Pattern

end ClusterLog
