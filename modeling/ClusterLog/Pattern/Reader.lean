import ClusterLog.Pattern.Basic
import ClusterLog.Text.Integer

/-!
# Written patterns

The text of a pattern: literal characters, `.`, bracketed classes, the escapes `\d`, `\w`, `\s`,
their complements and the control characters, groups, alternatives, the repetitions `*`, `+`, `?`
and `{m,n}` with their reluctant forms, and the anchors `^`, `$`, `\A` and `\Z`.  Text outside this
language is no pattern.

Every rule of the grammar goes down with `depth`, which starts above the length of the text.
-/

namespace ClusterLog.Pattern

open Text

/-- The class behind a backslash. -/
def escapedClass? : Char → Option CharClass
  | 'd' => some .digit
  | 'D' => some (.outside .digit)
  | 'w' => some .word
  | 'W' => some (.outside .word)
  | 's' => some .blank
  | 'S' => some (.outside .blank)
  | _ => none

/-- The character behind a backslash: a control character, or any character that is neither a
letter nor a digit of ASCII. -/
def escapedChar? (c : Char) : Option Char :=
  match c with
  | 'n' => some '\n'
  | 't' => some '\t'
  | 'r' => some '\r'
  | 'f' => some '\x0c'
  | 'v' => some '\x0b'
  | 'a' => some '\x07'
  | c => if isAsciiLetter c || isAsciiDigit c then none else some c

/-- One end of a class item: a character, or a class that stands on its own. -/
def readClassAtom? : List Char → Option ((CharClass ⊕ Char) × List Char)
  | '\\' :: 'b' :: rest => some (.inr '\x08', rest)
  | '\\' :: c :: rest =>
    match escapedClass? c with
    | some member => some (.inl member, rest)
    | none => (escapedChar? c).map fun escaped => (.inr escaped, rest)
  | ['\\'] => none
  | c :: rest => some (.inr c, rest)
  | [] => none

/-- The items of a bracketed class up to its closing bracket. -/
def readClassItems? : Nat → Bool → List Char → Option (List CharClass × List Char)
  | 0, _, _ => none
  | _ + 1, false, ']' :: rest => some ([], rest)
  | depth + 1, _, text => do
    let (low, rest) ← readClassAtom? text
    match low, rest with
    | .inr low, '-' :: ']' :: rest => do
      let (items, rest) ← readClassItems? depth false (']' :: rest)
      return (.single low :: .single '-' :: items, rest)
    | .inr low, '-' :: rest => do
      let (high, rest) ← readClassAtom? rest
      match high with
      | .inr high =>
        if low ≤ high then
          let (items, rest) ← readClassItems? depth false rest
          return (.between low high :: items, rest)
        else
          none
      | .inl _ => none
    | .inr low, rest => do
      let (items, rest) ← readClassItems? depth false rest
      return (.single low :: items, rest)
    | .inl member, '-' :: ']' :: rest => do
      let (items, rest) ← readClassItems? depth false (']' :: rest)
      return (member :: .single '-' :: items, rest)
    | .inl _, '-' :: _ => none
    | .inl member, rest => do
      let (items, rest) ← readClassItems? depth false rest
      return (member :: items, rest)

/-- The class of one item or the other. -/
def anyOf : List CharClass → CharClass
  | [] => .outside .any
  | [member] => member
  | member :: members => .either member (anyOf members)

/-- A bracketed class after its opening bracket. -/
def readClass? (text : List Char) : Option (CharClass × List Char) :=
  match text with
  | '^' :: rest =>
    (readClassItems? (rest.length + 1) true rest).map fun (items, rest) =>
      (.outside (anyOf items), rest)
  | rest =>
    (readClassItems? (rest.length + 1) true rest).map fun (items, rest) => (anyOf items, rest)

/-- A repetition: whether it is greedy, and its bounds. -/
structure Repetition where
  greedy : Bool
  least : Nat
  most : Option Nat

/-- The number that a run of digits writes; no digits write none. -/
def boundOf? (digits : List Char) : Option Nat :=
  if digits.isEmpty then none else readNatural? digits

/-- The bounds of a repetition at the beginning of a text.  Braces that hold no bounds are literal
characters. -/
def readBounds? : List Char → Option ((Nat × Option Nat) × List Char)
  | '*' :: rest => some ((0, none), rest)
  | '+' :: rest => some ((1, none), rest)
  | '?' :: rest => some ((0, some 1), rest)
  | '{' :: rest =>
    let (low, afterLow) := rest.span isAsciiDigit
    match afterLow with
    | '}' :: rest => (boundOf? low).map fun count => ((count, some count), rest)
    | ',' :: afterComma =>
      let (high, afterHigh) := afterComma.span isAsciiDigit
      match afterHigh with
      | '}' :: rest => some (((boundOf? low).getD 0, boundOf? high), rest)
      | _ => none
    | _ => none
  | _ => none

/-- The repetition at the beginning of a text, if there is one. -/
def readRepetition? (text : List Char) : Option (Repetition × List Char) :=
  (readBounds? text).map fun ((least, most), rest) =>
    match rest with
    | '?' :: rest => (⟨false, least, most⟩, rest)
    | rest => (⟨true, least, most⟩, rest)

/-- Whether a repetition can follow a pattern: anchors are not repeated. -/
def isRepeatable : Pattern → Bool
  | .textStart | .textEnd | .lastLineEnd => false
  | _ => true

/-- Repeat a pattern.  Repeated single characters are a run. -/
def repeated (repetition : Repetition) : Pattern → Pattern
  | .one member => .run repetition.greedy repetition.least repetition.most member
  | body => .loop repetition.greedy repetition.least repetition.most body

/-- Put a repetition that follows onto a pattern.  A second repetition after it is refused. -/
def readSuffix? (pattern : Pattern) (text : List Char) : Option (Pattern × List Char) :=
  match readRepetition? text with
  | none => some (pattern, text)
  | some (repetition, rest) =>
    let ordered := match repetition.most with
      | some most => repetition.least ≤ most
      | none => true
    if isRepeatable pattern && ordered && (readRepetition? rest).isNone then
      some (repeated repetition pattern, rest)
    else
      none

/-- The pattern behind a backslash outside brackets. -/
def escapedPattern? (c : Char) : Option Pattern :=
  match c with
  | 'A' => some .textStart
  | 'Z' => some .textEnd
  | c =>
    match escapedClass? c with
    | some member => some (.one member)
    | none => (escapedChar? c).map char

mutual

/-- Alternatives up to a closing parenthesis or the end.  `dot` is the class of `.`, `groups` the
number of groups opened before. -/
def readAlternatives? (dot : CharClass) :
    Nat → Nat → List Char → Option (Pattern × Nat × List Char)
  | 0, _, _ => none
  | depth + 1, groups, text => do
    let (items, groups, rest) ← readItems? dot depth groups text
    match rest with
    | '|' :: rest => do
      let (other, groups, rest) ← readAlternatives? dot depth groups rest
      return (.either (sequence items) other, groups, rest)
    | rest => return (sequence items, groups, rest)

/-- The items of one alternative. -/
def readItems? (dot : CharClass) :
    Nat → Nat → List Char → Option (List Pattern × Nat × List Char)
  | 0, _, _ => none
  | _ + 1, groups, [] => some ([], groups, [])
  | _ + 1, groups, '|' :: rest => some ([], groups, '|' :: rest)
  | _ + 1, groups, ')' :: rest => some ([], groups, ')' :: rest)
  | depth + 1, groups, text => do
    let (atom, groups, rest) ← readAtom? dot depth groups text
    let (item, rest) ← readSuffix? atom rest
    let (items, groups, rest) ← readItems? dot depth groups rest
    return (item :: items, groups, rest)

/-- One item without its repetition. -/
def readAtom? (dot : CharClass) : Nat → Nat → List Char → Option (Pattern × Nat × List Char)
  | 0, _, _ => none
  | depth + 1, groups, '(' :: '?' :: ':' :: rest => do
    let (body, groups, rest) ← readAlternatives? dot depth groups rest
    match rest with
    | ')' :: rest => return (body, groups, rest)
    | _ => none
  | _ + 1, _, '(' :: '?' :: _ => none
  | depth + 1, groups, '(' :: rest => do
    let (body, inner, rest) ← readAlternatives? dot depth (groups + 1) rest
    match rest with
    | ')' :: rest => return (.capture (groups + 1) body, inner, rest)
    | _ => none
  | _ + 1, groups, '[' :: rest =>
    (readClass? rest).map fun (member, rest) => (.one member, groups, rest)
  | _ + 1, groups, '\\' :: c :: rest =>
    (escapedPattern? c).map fun pattern => (pattern, groups, rest)
  | _ + 1, _, ['\\'] => none
  | _ + 1, groups, '.' :: rest => some (.one dot, groups, rest)
  | _ + 1, groups, '^' :: rest => some (.textStart, groups, rest)
  | _ + 1, groups, '$' :: rest => some (.lastLineEnd, groups, rest)
  | _ + 1, groups, c :: rest =>
    if (readRepetition? (c :: rest)).isSome then none else some (char c, groups, rest)
  | _ + 1, _, [] => none

end

/-- The pattern that a text writes, and the number of its groups.  `dot` is the class of `.`. -/
def read? (dot : CharClass) (text : List Char) : Option (Pattern × Nat) := do
  let (pattern, groups, rest) ← readAlternatives? dot (3 * text.length + 3) 0 text
  if rest.isEmpty then some (pattern, groups) else none

end ClusterLog.Pattern
