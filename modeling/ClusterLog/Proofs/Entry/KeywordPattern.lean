import ClusterLog.Pattern.Reader
import ClusterLog.Proofs.Entry.KeywordEntry
import ClusterLog.Proofs.Pattern.Matching

/-!
# The pattern of severity names

Cutting a text at a severity name is the first match of a pattern: a run without
commas that is as long as possible, as little other text as possible, a severity
name, and the rest.  Where the text behind the run has no name, the run is given
up character by character, until a name begins behind it.
-/

namespace ClusterLog

open Text

namespace Entry

open Severity Pattern

/-- A severity name. -/
def namePattern : Pattern :=
  oneOf Severity.warn.name.toList
    ([Severity.info, .debug, .error, .fatal, .trace].map (·.name.toList))

/-- What is kept of a name and the text behind it. -/
def nameAndRest : Pattern :=
  .sequence [.capture 2 namePattern, .capture 3 (.sequence [many .any])]

/-- The pattern of a record that no layout recognises. -/
def keywordPattern : Pattern :=
  .sequence [.textStart,
    .capture 1 (.sequence [many (CharClass.single ',').outside]), few .any,
    .capture 2 namePattern, .capture 3 (.sequence [many .any])]

theorem read?_keywordPattern :
    Pattern.read? .any
        "^([^,]*).*?(WARN|INFO|DEBUG|ERROR|FATAL|TRACE)(.*)".toList =
      some (keywordPattern, 3) := by
  decide +kernel

/-- All texts end a match that has been read to the end. -/
def atEnd (rest : List Char) (kept : Captures) : Option Captures :=
  if rest.isEmpty then some kept else none

variable {text head tail : List Char} (total : Nat) (captures : Captures)

theorem match?_namePattern {α : Type} (text : List Char)
    (next : List Char → Captures → Option α) :
    namePattern.match? total text captures next =
      (keywordAt? text).bind fun found => next found.2 captures := by
  rw [namePattern, match?_oneOf]
  cases found : keywordAt? text with
  | none =>
      have foreign (severity : Severity) :
          dropLiteral? severity.name.toList text = none :=
        dropLiteral?_eq_none_iff.mpr (keywordAt?_eq_none_iff.mp found severity)
      simp [foreign]
  | some place =>
      rcases place with ⟨severity, rest⟩
      obtain rfl := keywordAt?_eq_some found
      cases goesOn : next rest captures <;> cases severity <;>
        simp [dropLiteral?, name, goesOn]

/-- The rest of a text is kept as it is. -/
theorem match?_rest (rest : List Char) :
    (Pattern.capture 3 (.sequence [many .any])).match? total rest captures
        atEnd = some ((3, rest) :: captures) := by
  have taken := @match?_captureRun _ total 3 0 .any rest [] captures atEnd
    ((3, rest) :: captures) (fun _ _ => rfl) (Nat.zero_le _) (by simp) rfl
  rwa [List.append_nil] at taken

/-- The name at the beginning and the text behind it. -/
theorem match?_nameAndRest (text : List Char) :
    nameAndRest.match? total text captures atEnd =
      (keywordAt? text).map fun found =>
        (3, found.2) :: (2, found.1.name.toList) :: captures := by
  have parts : nameAndRest.match? total text captures atEnd =
      namePattern.match? total text captures fun rest kept =>
        (Pattern.capture 3 (.sequence [many .any])).match? total rest
          ((2, text.take (text.length - rest.length)) :: kept) atEnd := rfl
  rw [parts, match?_namePattern, Option.map_eq_bind]
  refine Option.bind_congr fun found here => ?_
  rcases found with ⟨severity, rest⟩
  obtain rfl := keywordAt?_eq_some here
  simp [match?_rest]

/-- The leftmost name. -/
theorem match?_few (text : List Char) :
    (few .any).match? total text captures
        (fun rest kept => nameAndRest.match? total rest kept atEnd) =
      (firstKeyword? text).map fun found =>
        (3, found.2.2) :: (2, found.2.1.name.toList) :: captures := by
  have up : (few .any).match? total text captures
        (fun rest kept => nameAndRest.match? total rest kept atEnd) =
      runsUp CharClass.any.holds
        (fun left => nameAndRest.match? total left captures atEnd) none text := by
    simp [few, match?, dropExactly?]
  rw [up]
  clear up
  induction text with
  | nil =>
      rw [runsUp, match?_nameAndRest]
      · rfl
      · simp
  | cons c text ih =>
      rw [runsUp, match?_nameAndRest, firstKeyword?]
      · cases keywordAt? (c :: text) with
        | some found => rfl
        | none => simpa [CharClass.holds, Function.comp_def] using ih
      · simp

/-! ## Runs that are given up -/

/-- In front of a comma, and with no name behind it, the names of a text are found
from right to left. -/
theorem findSome?_tails {Made : Type} {find : List Char → Option Made}
    (make : List Char → Severity → List Char → Made)
    (comma : ∀ c ∈ tail.head?, c = ',')
    (nowhere : firstKeyword? tail = none) (front : List Char)
    (finds : ∀ before left, before ++ left = front ++ (head ++ tail) →
      find left = (firstKeyword? left).map fun found =>
        make before found.2.1 found.2.2) :
    ((head.tails.map (· ++ tail)).reverse).findSome? find =
      (lastKeyword? head).map fun found =>
        make (front ++ found.1) found.2.1 (found.2.2 ++ tail) := by
  induction head generalizing front with
  | nil =>
      have none := finds front tail rfl
      rw [nowhere] at none
      simp [none, lastKeyword?]
  | cons c head ih =>
      have others := ih (front ++ [c]) fun before left split =>
        finds before left (by simpa using split)
      have here := finds front (c :: head ++ tail) rfl
      rw [List.tails_cons, List.map_cons, List.reverse_cons,
        List.findSome?_append, others, lastKeyword?]
      cases later : lastKeyword? head with
      | some found => simp
      | none =>
          have outside : ∀ c ∈ tail.head?, isAsciiLetter c = false :=
            fun d first => comma d first ▸ rfl
          have behind : firstKeyword? (head ++ tail) = none :=
            firstKeyword?_eq_none_iff.mpr (IsBorder.not_isInfix (Or.inr outside)
              (lastKeyword?_eq_none_iff.mp later)
              (firstKeyword?_eq_none_iff.mp nowhere))
          have begins : keywordAt? (c :: (head ++ tail)) = _ :=
            @keywordAt?_append (c :: head) tail outside
          rw [List.cons_append, firstKeyword?, behind, begins] at here
          simp only [List.cons_append, List.findSome?_singleton, here]
          cases keywordAt? (c :: head) <;> simp

/-- How a cut text is kept. -/
def keptCut (date : List Char) (severity : Severity) (message : List Char) :
    Captures :=
  [(3, message), (2, severity.name.toList), (1, date)]

/-- A text is cut at the name that the pattern finds. -/
theorem matchWhole?_keywordPattern (text : List Char) :
    keywordPattern.matchWhole? text =
      (cutAtKeyword? text).map fun found =>
        keptCut found.1 found.2.1 found.2.2 := by
  rcases exists_isCutAtComma text with ⟨head, tail, cut⟩
  have matched : keywordPattern.matchWhole? text =
      (runsDown (CharClass.single ',').outside.holds none text []).findSome?
        fun left => (few .any).match? text.length left
          [(1, text.take (text.length - left.length))]
          fun rest kept => nameAndRest.match? text.length rest kept atEnd := by
    simp [keywordPattern, matchWhole?, match?_sequence_cons, match?, many,
      dropExactly?, nameAndRest, atEnd, match?_sequence_nil]
  have holds : ∀ c ∈ head, (CharClass.single ',').outside.holds c = true := by
    intro c inside
    simpa [CharClass.holds] using ne_of_mem_of_not_mem inside cut.noComma
  have stops : ∀ c ∈ tail.head?,
      (CharClass.single ',').outside.holds c = false := by
    intro c first
    simp [CharClass.holds, cut.comma c first]
  have finds {before left : List Char} (split : before ++ left = text) :
      ((few .any).match? text.length left
          [(1, text.take (text.length - left.length))]
          fun rest kept => nameAndRest.match? text.length rest kept atEnd) =
        (firstKeyword? left).map fun found =>
          keptCut before found.2.1 found.2.2 := by
    rw [match?_few, ← split]
    simp [keptCut]
  rw [matched, cut.cutAtKeyword?_eq]
  cases nowhere : firstKeyword? tail with
  | some found =>
      rcases runsDown_append holds stops [] with ⟨others, first⟩
      rw [← cut.whole] at first
      rw [first, List.findSome?_cons, finds cut.whole.symm, nowhere]
      rfl
  | none =>
      have runs := runsDown_eq holds stops []
      rw [← cut.whole, List.append_nil] at runs
      rw [runs, findSome?_tails keptCut cut.comma nowhere []]
      · simp [Function.comp_def]
      · intro before left split
        exact finds (split.trans cut.whole.symm)

end Entry

end ClusterLog
