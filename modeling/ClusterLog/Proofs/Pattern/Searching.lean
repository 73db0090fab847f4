import ClusterLog.Proofs.Pattern.Matching
import ClusterLog.Proofs.Text.Runs

/-!
# Searches for patterns

A search finds the first place at which a pattern matches.  A greedy run does not
give way where what follows it in the pattern never begins with a character of the
run, and then the pattern is matched by the readers of literal texts and runs.
-/

namespace ClusterLog

open Text

namespace Pattern

/-- The captures of the first match in a text, wherever it begins. -/
def search? (pattern : Pattern) (text : List Char) : Option Captures :=
  firstReading? (fun _ rest =>
    pattern.match? text.length rest [] fun _ kept => some kept) text

/-- A run of a class, as long as possible, that is kept. -/
def keptRun (ordinal least : Nat) (member : CharClass) : Pattern :=
  .capture ordinal (.sequence [.run true least none member])

/-! ## Runs that do not give way -/

theorem dropExactly?_eq_none {member : Char → Bool} {count : Nat}
    {run rest : List Char} (few : run.length < count)
    (stops : ∀ c ∈ rest.head?, member c = false) :
    dropExactly? member count (run ++ rest) = none := by
  induction run generalizing count with
  | nil =>
      obtain ⟨count, rfl⟩ := Nat.exists_eq_add_of_lt few
      cases rest with
      | nil => rfl
      | cons c rest => simp [dropExactly?, stops c (by simp)]
  | cons c run ih =>
      cases count with
      | zero => simp at few
      | succ count =>
          have others := ih (Nat.lt_of_succ_lt_succ few)
          simp [dropExactly?, others]

/-- Where nothing goes on inside a run, the only candidate is what stands behind
the whole run. -/
theorem findSome?_reverse_tails {Found : Type} {find : List Char → Option Found}
    {run rest : List Char}
    (fails : ∀ c ∈ run, ∀ left, find (c :: left) = none) :
    ((run.tails.map (· ++ rest)).reverse).findSome? find = find rest := by
  induction run with
  | nil => simp
  | cons c run ih =>
      have here : find (c :: (run ++ rest)) = none := fails c (by simp) _
      have others := ih fun d inside => fails d (by simp [inside])
      rw [List.tails_cons, List.map_cons, List.reverse_cons,
        List.findSome?_append, others, List.cons_append,
        List.findSome?_singleton, here, Option.or_none]

section Run

variable {α : Type} {total least : Nat} {member : CharClass}
variable {captures : Captures} {next : List Char → Captures → Option α}

/-- A greedy run that does not give way. -/
theorem match?_run
    (fails : ∀ c rest, member.holds c = true → next (c :: rest) captures = none)
    (text : List Char) :
    (Pattern.run true least none member).match? total text captures next =
      if least ≤ (text.takeWhile member.holds).length then
        next (text.dropWhile member.holds) captures
      else none := by
  rcases exists_leadingRun member.holds text with ⟨run, rest, rfl, holds, stops⟩
  rw [takeWhile_run holds stops, dropWhile_run holds stops, match?]
  by_cases enough : least ≤ run.length
  · have remaining : ∀ c ∈ run.drop least, member.holds c = true :=
      fun c inside => holds c (List.mem_of_mem_drop inside)
    rw [dropExactly?_append holds enough, Option.bind_some, if_pos rfl,
      if_pos enough, Option.map_none, runsDown_eq remaining stops,
      List.append_nil]
    exact findSome?_reverse_tails
      fun c inside left => fails c left (remaining c inside)
  · rw [dropExactly?_eq_none (Nat.lt_of_not_le enough) stops, if_neg enough,
      Option.bind_none]

/-- A kept run that does not give way. -/
theorem match?_keptRun {ordinal : Nat}
    (fails : ∀ c rest kept, member.holds c = true → next (c :: rest) kept = none)
    (text : List Char) :
    (keptRun ordinal least member).match? total text captures next =
      if least ≤ (text.takeWhile member.holds).length then
        next (text.dropWhile member.holds)
          ((ordinal, text.takeWhile member.holds) :: captures)
      else none := by
  rcases exists_leadingRun member.holds text with ⟨run, rest, rfl, holds, stops⟩
  have front : (run ++ rest).take ((run ++ rest).length - rest.length) = run := by
    rw [List.length_append, Nat.add_sub_cancel, List.take_left]
  rw [keptRun, match?, match?_sequence_cons, match?_run]
  · rw [match?_sequence_nil, takeWhile_run holds stops, dropWhile_run holds stops,
      front]
  · intro c rest holds
    exact fails c rest _ holds

end Run

/-! ## Literal texts in sequences -/

section Sequences

variable {α : Type} (total : Nat) (captures : Captures)
variable (next : List Char → Captures → Option α)

theorem match?_sequence_literal (written : List Char) (others : List Pattern)
    (text : List Char) :
    (sequence (written.map char ++ others)).match? total text captures next =
      (dropLiteral? written text).bind fun rest =>
        (sequence others).match? total rest captures next := by
  rw [match?_sequence_append, match?]
  exact match?_literal total captures _ written text

/-- Of two literal texts, neither of which begins the other, one is dropped. -/
theorem match?_sequence_either {first second : List Char}
    (apart : ¬ first <+: second ∧ ¬ second <+: first)
    (others : List Pattern) (text : List Char) :
    (sequence (.either (literal first) (literal second) :: others)).match? total
        text captures next =
      ((dropLiteral? first text).or (dropLiteral? second text)).bind fun rest =>
        (sequence others).match? total rest captures next := by
  rw [match?_sequence_cons, match?, match?_literal, match?_literal]
  cases begins : dropLiteral? first text with
  | none => rfl
  | some rest =>
      have foreign : dropLiteral? second text = none := by
        rw [dropLiteral?_eq_none_iff]
        intro begun
        have front : first <+: text :=
          ⟨rest, (dropLiteral?_eq_some_iff.mp begins).symm⟩
        rcases List.prefix_or_prefix_of_prefix front begun with shorter | longer
        · exact apart.1 shorter
        · exact apart.2 longer
      rw [foreign, Option.bind_none, Option.bind_some, Option.or_none,
        Option.bind_some]
      cases (sequence others).match? total rest captures next <;> rfl

/-- A kept run in front of a literal text. -/
theorem match?_sequence_keptRun {ordinal : Nat} {member : CharClass}
    {written : List Char}
    (foreign : written.head?.any (!member.holds ·) = true)
    (others : List Pattern) (text : List Char) :
    (sequence (keptRun ordinal 1 member :: (written.map char ++ others))).match?
        total text captures next =
      (readRun? member.holds text).bind fun found =>
        (sequence (written.map char ++ others)).match? total found.2
          ((ordinal, found.1) :: captures) next := by
  rw [match?_sequence_cons, match?_keptRun]
  · rw [readRun?, List.span_eq_takeWhile_dropWhile]
    cases text.takeWhile member.holds <;> simp
  · intro c rest kept holds
    rw [match?_sequence_literal, dropLiteral?_cons_eq_none foreign holds,
      Option.bind_none]

end Sequences

/-! ## Patterns and readers side by side

What is made of a match of the rest of a pattern is what is made of the result of
the rest of a reader, and so it is in front of both. -/

section Readers

variable {α Found Made : Type} {total : Nat} {captures : Captures}
variable {next : List Char → Captures → Option α}
variable {others : List Pattern} {make : α → Made} {keep : Found → Made}

theorem map_bind_eq {Between : Type} {read : Option Between}
    {goOn : Between → Option α} {after : Between → Option Found}
    (goesOn : ∀ found, (goOn found).map make = (after found).map keep) :
    (read.bind goOn).map make = (read.bind after).map keep := by
  cases read with
  | none => rfl
  | some found => exact goesOn found

theorem map_sequence_literal {written : List Char}
    {after : List Char → Option Found}
    (goesOn : ∀ rest, ((sequence others).match? total rest captures next).map
      make = (after rest).map keep)
    (text : List Char) :
    ((sequence (written.map char ++ others)).match? total text captures
        next).map make =
      ((dropLiteral? written text).bind after).map keep := by
  rw [match?_sequence_literal]
  exact map_bind_eq goesOn

theorem map_sequence_either {first second : List Char}
    {after : List Char → Option Found}
    (apart : ¬ first <+: second ∧ ¬ second <+: first)
    (goesOn : ∀ rest, ((sequence others).match? total rest captures next).map
      make = (after rest).map keep)
    (text : List Char) :
    ((sequence (.either (literal first) (literal second) :: others)).match?
        total text captures next).map make =
      (((dropLiteral? first text).or (dropLiteral? second text)).bind
        after).map keep := by
  rw [match?_sequence_either total captures next apart]
  exact map_bind_eq goesOn

theorem map_sequence_keptRun {ordinal : Nat} {member : CharClass}
    {written : List Char} {after : List Char × List Char → Option Found}
    (foreign : written.head?.any (!member.holds ·) = true)
    (goesOn : ∀ run rest,
      ((sequence (written.map char ++ others)).match? total rest
        ((ordinal, run) :: captures) next).map make =
        (after (run, rest)).map keep)
    (text : List Char) :
    ((sequence (keptRun ordinal 1 member ::
        (written.map char ++ others))).match? total text captures next).map
        make =
      ((readRun? member.holds text).bind after).map keep := by
  rw [match?_sequence_keptRun total captures next foreign]
  exact map_bind_eq fun found => goesOn found.1 found.2

end Readers

/-! ## First matches -/

theorem map_search? {Made : Type} (make : Captures → Made) (pattern : Pattern)
    (text : List Char) :
    (pattern.search? text).map make =
      firstReading? (fun _ rest =>
        (pattern.match? text.length rest [] fun _ kept => some kept).map make)
        text :=
  (findReading?_map make).symm

section KeptRun

variable {Found : Type} {least : Nat} {member : CharClass}
variable {written : List Char} {others : List Pattern}
variable {make : Captures → List Char × Found} {next : List Char → Option Found}

/-- Where a pattern goes on with a literal text behind a run that it keeps, its
first match is what a reader finds that first reads what stands behind the run,
and then looks back. -/
theorem map_search?_keptRun (atMost : least ≤ 1)
    (foreign : written.head?.any (!member.holds ·) = true)
    (goesOn : ∀ total run text,
      ((sequence (written.map char ++ others)).match? total text [(1, run)]
        fun _ kept => some kept).map make = (next text).map (run, ·))
    (text : List Char) :
    ((sequence (keptRun 1 least member ::
        (written.map char ++ others))).search? text).map make =
      firstReading? (readLookingBack? least member.holds next) text := by
  have refused (total : Nat) (c : Char) (rest : List Char) (kept : Captures)
      (holds : member.holds c = true) :
      ((sequence (written.map char ++ others)).match? total (c :: rest) kept
        fun _ kept => some kept) = none := by
    rw [match?_sequence_literal, dropLiteral?_cons_eq_none foreign holds,
      Option.bind_none]
  have blocked (c : Char) (rest : List Char) (holds : member.holds c = true) :
      next (c :: rest) = none := by
    have nothing := goesOn 0 [] (c :: rest)
    rw [refused 0 c rest _ holds] at nothing
    exact Option.map_eq_none_iff.mp nothing.symm
  have matched (rest : List Char) :
      ((sequence (keptRun 1 least member ::
          (written.map char ++ others))).match? text.length rest []
        fun _ kept => some kept).map make =
      readBehind? least member.holds next rest := by
    rw [match?_sequence_cons, match?_keptRun (refused text.length), readBehind?]
    split_ifs
    · exact goesOn ..
    · rfl
  calc ((sequence (keptRun 1 least member ::
          (written.map char ++ others))).search? text).map make
      = firstReading? (fun _ => readBehind? least member.holds next) text := by
        rw [map_search?]
        exact congrArg (firstReading? · text)
          (funext fun _ => funext fun rest => matched rest)
    _ = firstReading? (readLookingBack? least member.holds next) text :=
        findReading?_readBehind?_eq blocked atMost text [] (by simp)

end KeptRun

end Pattern

end ClusterLog
