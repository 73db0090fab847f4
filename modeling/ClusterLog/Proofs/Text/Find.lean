import ClusterLog.Text.Find
import Mathlib.Data.List.TakeDrop
import Mathlib.Data.List.TakeWhile

/-!
# Laws of finding text in text

Literal beginnings are dropped from the texts that have them, and a text occurs
in another one exactly if it is an infix of it.  What a reader finds first, it
finds at a place that cuts the text in two, and it finds nothing at the places
in front of it.
-/

namespace ClusterLog.Text

@[simp]
theorem dropLiteral?_append (literal rest : List Char) :
    dropLiteral? literal (literal ++ rest) = some rest := by
  induction literal with
  | nil => rfl
  | cons c literal ih => simpa [dropLiteral?] using ih

/-- A literal beginning is dropped exactly from the texts that have it. -/
theorem dropLiteral?_eq_some_iff {literal text rest : List Char} :
    dropLiteral? literal text = some rest ↔ text = literal ++ rest := by
  constructor
  · intro dropped
    induction literal generalizing text with
    | nil =>
        simpa [dropLiteral?] using dropped
    | cons c literal ih =>
        cases text with
        | nil => simp [dropLiteral?] at dropped
        | cons d text =>
            by_cases same : c = d
            · subst d
              have tail : dropLiteral? literal text = some rest := by
                simpa [dropLiteral?] using dropped
              rw [ih tail, List.cons_append]
            · simp [dropLiteral?, same] at dropped
  · rintro rfl
    exact dropLiteral?_append literal rest

theorem dropLiteral?_eq_none_iff {literal text : List Char} :
    dropLiteral? literal text = none ↔ ¬ literal <+: text := by
  rw [Option.eq_none_iff_forall_ne_some]
  constructor
  · rintro never ⟨rest, split⟩
    exact never rest (dropLiteral?_eq_some_iff.mpr split.symm)
  · intro foreign rest dropped
    exact foreign ⟨rest, (dropLiteral?_eq_some_iff.mp dropped).symm⟩

/-- A literal text does not begin with a class that its first character is not
in. -/
theorem dropLiteral?_cons_eq_none {member : Char → Bool} {written : List Char}
    (foreign : written.head?.any (!member ·) = true) {c : Char}
    (holds : member c = true) (rest : List Char) :
    dropLiteral? written (c :: rest) = none := by
  cases written with
  | nil => simp at foreign
  | cons d written =>
      have other : member d = false := by simpa using foreign
      have different : d ≠ c := by
        rintro rfl
        rw [holds] at other
        cases other
      simp [dropLiteral?, different]

/-- Whether a text occurs in another one does not depend on what stands in
front. -/
theorem isSome_findReading?_dropLiteral? {part before text : List Char} :
    (findReading? (fun _ rest => dropLiteral? part rest) before text).isSome =
        true ↔
      part <:+: text := by
  have found : ∀ rest, (dropLiteral? part rest).isSome = true ↔ part <+: rest := by
    intro rest
    rw [Option.isSome_iff_ne_none, ne_eq, dropLiteral?_eq_none_iff,
      Classical.not_not]
  induction text generalizing before with
  | nil => rw [findReading?, found, List.prefix_nil, List.infix_nil]
  | cons c text ih =>
      rw [findReading?, List.infix_cons_iff, ← found]
      cases dropLiteral? part (c :: text) with
      | some rest => simp
      | none => simpa using ih

theorem occursIn_iff {part text : List Char} :
    occursIn part text = true ↔ part <:+: text :=
  isSome_findReading?_dropLiteral?

/-! ## Places of first readings -/

variable {Found : Type} {read : List Char → List Char → Option Found}
variable {before text : List Char} {found : Found}

/-- A reader that also returns the text in front of its place, the last
character first. -/
def withFront (read : List Char → List Char → Option Found)
    (before rest : List Char) : Option (List Char × Found) :=
  (read before rest).map (before, ·)

/-- What is found first stands behind a front, which is the one that a reader
of fronts finds. -/
theorem exists_of_findReading?
    (finds : findReading? read before text = some found) :
    ∃ passed rest,
      text = passed ++ rest ∧
      findReading? (withFront read) before text =
        some (passed.reverse ++ before, found) ∧
      read (passed.reverse ++ before) rest = some found := by
  induction text generalizing before with
  | nil =>
      rw [findReading?] at finds
      exact ⟨[], [], rfl, by simp [findReading?, withFront, finds], finds⟩
  | cons c text ih =>
      rw [findReading?] at finds
      cases here : read before (c :: text) with
      | some other =>
          rw [here] at finds
          obtain rfl : other = found := Option.some.inj finds
          exact ⟨[], c :: text, rfl, by simp [findReading?, withFront, here],
            here⟩
      | none =>
          rw [here] at finds
          rcases ih finds with ⟨passed, rest, split, fronts, reads⟩
          refine ⟨c :: passed, rest, by rw [split, List.cons_append], ?_, ?_⟩
          · simpa [findReading?, withFront, here] using fronts
          · simpa using reads

theorem exists_of_firstReading? (finds : firstReading? read text = some found) :
    ∃ front rest,
      text = front ++ rest ∧
      firstReading? (withFront read) text = some (front.reverse, found) ∧
      read front.reverse rest = some found := by
  simpa [firstReading?] using exists_of_findReading? finds

/-- Places at which a reader fails are passed. -/
theorem findReading?_append {front rest : List Char}
    (fails : ∀ passed left, front = passed ++ left → left ≠ [] →
      read (passed.reverse ++ before) (left ++ rest) = none) :
    findReading? read before (front ++ rest) =
      findReading? read (front.reverse ++ before) rest := by
  induction front generalizing before with
  | nil => rfl
  | cons c front ih =>
      have here : read before (c :: (front ++ rest)) = none :=
        fails [] (c :: front) rfl (List.cons_ne_nil c front)
      have others := @ih (c :: before) fun passed left split nonempty => by
        simpa using fails (c :: passed) left (congrArg (c :: ·) split) nonempty
      rw [List.cons_append, findReading?, here, others]
      simp

theorem findReading?_of_read (reads : read before text = some found) :
    findReading? read before text = some found := by
  cases text with
  | nil => rw [findReading?, reads]
  | cons c text => rw [findReading?, reads]

theorem findReading?_map {Made : Type} (make : Found → Made) :
    findReading? (fun before rest => (read before rest).map make) before text =
      (findReading? read before text).map make := by
  induction text generalizing before with
  | nil => rfl
  | cons c text ih =>
      rw [findReading?, findReading?]
      cases read before (c :: text) with
      | some found => rfl
      | none => exact ih

/-! ## Runs -/

/-- What is left after dropping begins with nothing to drop. -/
theorem head_dropWhile (drop : Char → Bool) (text : List Char) :
    ∀ c ∈ (text.dropWhile drop).head?, drop c = false := by
  intro c first
  have kept := List.head?_dropWhile_not drop text
  rwa [first] at kept

theorem readRun?_eq_some {member : Char → Bool} {text run rest : List Char}
    (found : readRun? member text = some (run, rest)) :
    text = run ++ rest ∧ run ≠ [] ∧ ∀ c ∈ run, member c = true := by
  rw [readRun?, List.span_eq_takeWhile_dropWhile] at found
  cases first : text.takeWhile member with
  | nil => simp [first] at found
  | cons c others =>
      simp only [first, Option.some.injEq, Prod.mk.injEq] at found
      rcases found with ⟨rfl, rfl⟩
      rw [← first]
      refine ⟨List.takeWhile_append_dropWhile.symm, ?_,
        fun d inside => List.mem_takeWhile_imp inside⟩
      rw [first]
      exact List.cons_ne_nil _ _

section Run

variable {member : Char → Bool} {run rest : List Char}

/-- A run of a class ends in front of the first character of another one. -/
theorem takeWhile_run (all : ∀ c ∈ run, member c = true)
    (stops : ∀ c ∈ rest.head?, member c = false) :
    (run ++ rest).takeWhile member = run := by
  rw [List.takeWhile_append_of_pos all]
  cases rest with
  | nil => simp
  | cons c rest => simp [stops c (by simp)]

/-- Two runs of a class, each as long as possible, are the same. -/
theorem run_unique {other behind : List Char}
    (all : ∀ c ∈ run, member c = true) (allOther : ∀ c ∈ other, member c = true)
    (stops : ∀ c ∈ rest.head?, member c = false)
    (stopsToo : ∀ c ∈ behind.head?, member c = false)
    (same : run ++ rest = other ++ behind) :
    run = other ∧ rest = behind := by
  have front : run = other := by
    rw [← takeWhile_run all stops, same, takeWhile_run allOther stopsToo]
  subst front
  exact ⟨rfl, List.append_cancel_left same⟩

theorem dropWhile_run (all : ∀ c ∈ run, member c = true)
    (stops : ∀ c ∈ rest.head?, member c = false) :
    (run ++ rest).dropWhile member = rest := by
  have whole := List.takeWhile_append_dropWhile (p := member) (l := run ++ rest)
  rw [takeWhile_run all stops] at whole
  exact List.append_cancel_left whole

theorem readRun?_append (nonempty : run ≠ [])
    (all : ∀ c ∈ run, member c = true)
    (stops : ∀ c ∈ rest.head?, member c = false) :
    readRun? member (run ++ rest) = some (run, rest) := by
  rw [readRun?, List.span_eq_takeWhile_dropWhile, takeWhile_run all stops,
    dropWhile_run all stops]
  cases run with
  | nil => exact absurd rfl nonempty
  | cons c run => rfl

end Run

end ClusterLog.Text
