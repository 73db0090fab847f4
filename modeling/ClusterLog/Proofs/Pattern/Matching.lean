import ClusterLog.Pattern.Basic
import ClusterLog.Text.Find
import Mathlib.Data.List.Infix

/-!
# First matches of runs

A greedy run first tries to take a whole run of its class, and a lazy one
first tries to take nothing.  The statements below say which text is left
over by the first try that leads on, so that the match of a longer pattern is
computed from left to right.
-/

namespace ClusterLog

open Text

namespace Pattern

theorem dropExactly?_append {member : Char → Bool}
    {count : Nat} {run : List Char}
    (holds : ∀ c ∈ run, member c = true)
    (enough : count ≤ run.length)
    (rest : List Char) :
    dropExactly? member count (run ++ rest) =
      some (run.drop count ++ rest) := by
  induction count generalizing run with
  | zero => simp [dropExactly?]
  | succ count ih =>
      cases run with
      | nil => simp at enough
      | cons c run =>
          have belongs : member c = true := holds c (by simp)
          have others : ∀ d ∈ run, member d = true :=
            fun d inside => holds d (by simp [inside])
          have shorter : count ≤ run.length := by
            simpa using enough
          simp [dropExactly?, belongs, ih others shorter]

/-- Every run of a class is tried, the longest one first. -/
theorem runsDown_eq {member : Char → Bool} {run rest : List Char}
    (holds : ∀ c ∈ run, member c = true)
    (stops : ∀ c ∈ rest.head?, member c = false)
    (shorter : List (List Char)) :
    runsDown member none (run ++ rest) shorter =
      (run.tails.map (· ++ rest)).reverse ++ shorter := by
  induction run generalizing shorter with
  | nil =>
      cases rest with
      | nil => simp [runsDown]
      | cons c rest =>
          have outside : member c = false := stops c (by simp)
          simp [runsDown, outside]
  | cons c run ih =>
      have belongs : member c = true := holds c (by simp)
      have others : ∀ d ∈ run, member d = true :=
        fun d inside => holds d (by simp [inside])
      simp [runsDown, belongs, ih others]

/-- The longest run of a class is the first one that is tried. -/
theorem runsDown_append {member : Char → Bool}
    {run rest : List Char}
    (holds : ∀ c ∈ run, member c = true)
    (stops : ∀ c ∈ rest.head?, member c = false)
    (shorter : List (List Char)) :
    ∃ others,
      runsDown member none (run ++ rest) shorter = rest :: others := by
  obtain ⟨longer, last⟩ : ∃ longer, run.tails = longer ++ [[]] := by
    induction run with
    | nil => exact ⟨[], rfl⟩
    | cons c run ih =>
        rcases ih fun d inside => holds d (by simp [inside]) with ⟨longer, last⟩
        exact ⟨(c :: run) :: longer, by simp [last]⟩
  rw [runsDown_eq holds stops, last]
  exact ⟨(longer.map (· ++ rest)).reverse ++ shorter, by simp⟩

/-- A greedy run takes the whole run of its class if what follows the run
matches there. -/
theorem match?_greedyRun {α : Type} {total least : Nat}
    {member : CharClass} {run rest : List Char}
    {captures : Captures}
    {next : List Char → Captures → Option α} {found : α}
    (holds : ∀ c ∈ run, member.holds c = true)
    (enough : least ≤ run.length)
    (stops : ∀ c ∈ rest.head?, member.holds c = false)
    (goesOn : next rest captures = some found) :
    (Pattern.run true least none member).match? total
      (run ++ rest) captures next = some found := by
  have remaining : ∀ c ∈ run.drop least, member.holds c = true :=
    fun c inside => holds c (List.mem_of_mem_drop inside)
  rcases runsDown_append remaining stops [] with ⟨others, equation⟩
  simp [match?, dropExactly?_append holds enough, equation, goesOn]

/-- A lazy run grows until what follows it matches for the first time. -/
theorem runsUp_append {α : Type} {member : Char → Bool}
    {next : List Char → Option α}
    {run rest : List Char} {found : α}
    (holds : ∀ c ∈ run, member c = true)
    (fails : ∀ before after, run = before ++ after → after ≠ [] →
      next (after ++ rest) = none)
    (goesOn : next rest = some found) :
    runsUp member next none (run ++ rest) = some found := by
  induction run with
  | nil => cases rest <;> simp [runsUp, goesOn]
  | cons c run ih =>
      have belongs : member c = true := holds c (by simp)
      have others : ∀ d ∈ run, member d = true :=
        fun d inside => holds d (by simp [inside])
      have first : next (c :: (run ++ rest)) = none :=
        fails [] (c :: run) rfl (by simp)
      have later : ∀ before after, run = before ++ after → after ≠ [] →
          next (after ++ rest) = none := by
        intro before after split nonempty
        exact fails (c :: before) after (by simp [split]) nonempty
      simpa [runsUp, first, belongs] using ih others later

theorem match?_lazyRun {α : Type} {total : Nat}
    {member : CharClass} {run rest : List Char}
    {captures : Captures}
    {next : List Char → Captures → Option α} {found : α}
    (holds : ∀ c ∈ run, member.holds c = true)
    (fails : ∀ before after, run = before ++ after → after ≠ [] →
      next (after ++ rest) captures = none)
    (goesOn : next rest captures = some found) :
    (few member).match? total (run ++ rest) captures next = some found := by
  have first : runsUp member.holds (fun left => next left captures) none
      (run ++ rest) = some found := runsUp_append holds fails goesOn
  simpa [few, match?, dropExactly?] using first

/-! ## Sequences -/

theorem match?_sequence_append {α : Type} (total : Nat)
    (patterns others : List Pattern) (text : List Char) (captures : Captures)
    (next : List Char → Captures → Option α) :
    (sequence (patterns ++ others)).match? total text captures next =
      (Pattern.seq (sequence patterns) (sequence others)).match? total text
        captures next := by
  rw [match?]
  induction patterns generalizing text captures with
  | nil => rfl
  | cons pattern patterns ih =>
      rw [List.cons_append, match?_sequence_cons, match?_sequence_cons]
      exact congrArg _ (funext fun rest => funext fun kept => ih rest kept)

/-- A captured greedy run keeps the whole run. -/
theorem match?_captureRun {α : Type} {total ordinal least : Nat}
    {member : CharClass} {run rest : List Char}
    {captures : Captures}
    {next : List Char → Captures → Option α} {found : α}
    (holds : ∀ c ∈ run, member.holds c = true)
    (enough : least ≤ run.length)
    (stops : ∀ c ∈ rest.head?, member.holds c = false)
    (goesOn : next rest ((ordinal, run) :: captures) = some found) :
    (capture ordinal (sequence [.run true least none member])).match? total
      (run ++ rest) captures next = some found := by
  rw [match?, match?_sequence_cons]
  apply match?_greedyRun holds enough stops
  simpa [match?_sequence_nil] using goesOn

/-! ## Literal texts -/

/-- One of several texts, the first one that leads on. -/
def oneOf (first : List Char) : List (List Char) → Pattern
  | [] => literal first
  | second :: others => .either (literal first) (oneOf second others)

section Literals

variable {α : Type} (total : Nat) (captures : Captures)
variable (next : List Char → Captures → Option α)

theorem match?_literal (written text : List Char) :
    (literal written).match? total text captures next =
      (dropLiteral? written text).bind fun rest => next rest captures := by
  induction written generalizing text with
  | nil => rfl
  | cons c written ih =>
      cases text with
      | nil => rfl
      | cons d text =>
          have one : (literal (c :: written)).match? total (d :: text) captures
              next =
            if d = c then (literal written).match? total text captures next
            else none := by
            simp [literal, match?_sequence_cons, char, match?]
          rw [one, dropLiteral?, ih]
          by_cases same : c = d
          · simp [same]
          · simp [same, Ne.symm same]

theorem match?_oneOf (first text : List Char) (others : List (List Char)) :
    (oneOf first others).match? total text captures next =
      (first :: others).findSome? fun written =>
        (dropLiteral? written text).bind fun rest => next rest captures := by
  induction others generalizing first with
  | nil => simp [oneOf, match?_literal, List.findSome?_singleton]
  | cons second others ih =>
      rw [oneOf, match?, match?_literal, ih]
      rfl

end Literals

end Pattern

end ClusterLog
