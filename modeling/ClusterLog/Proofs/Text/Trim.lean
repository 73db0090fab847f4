import ClusterLog.Text.Trim
import Mathlib.Data.List.DropRight
import Mathlib.Data.List.TakeWhile

/-!
# Laws of trimming

Trimming does not see blanks at the ends of a text, and it leaves a text alone
that neither begins nor ends with a blank.
-/

namespace ClusterLog.Text

theorem dropEndWhile_append_singleton
    {drop : Char → Bool} {c : Char} (dropped : drop c = true)
    (text : List Char) :
    dropEndWhile drop (text ++ [c]) = dropEndWhile drop text := by
  simp [dropEndWhile, dropped]

theorem dropEndWhile_of_last {drop : Char → Bool} {text : List Char}
    (kept : ∀ c ∈ text.getLast?, drop c = false) :
    dropEndWhile drop text = text := by
  cases split : text.reverse with
  | nil => simp_all [dropEndWhile]
  | cons c rest =>
      have last : text.getLast? = some c := by
        rw [List.getLast?_eq_head?_reverse, split, List.head?_cons]
      have keeps : drop c = false := kept c (by simp [last])
      rw [dropEndWhile, split, List.dropWhile_cons, keeps]
      rw [← split]
      simp

theorem dropEndWhile_append_of_all
    {drop : Char → Bool} {text ending : List Char}
    (dropped : ∀ c ∈ ending, drop c = true)
    (kept : ∀ c ∈ text.getLast?, drop c = false) :
    dropEndWhile drop (text ++ ending) = text := by
  have reversed : ∀ c ∈ ending.reverse, drop c = true :=
    fun c inside => dropped c (by simpa using inside)
  rw [dropEndWhile, List.reverse_append,
    List.dropWhile_append_of_pos reversed]
  exact dropEndWhile_of_last kept

/-- A blank in front does not count. -/
theorem trim_cons {c : Char} (blank : isBlank c = true)
    (text : List Char) :
    trim (c :: text) = trim text := by
  simp [trim, blank]

/-- A blank behind does not count. -/
theorem trim_append_singleton {c : Char} (blank : isBlank c = true)
    (text : List Char) :
    trim (text ++ [c]) = trim text := by
  by_cases allBlank : ∀ d ∈ text, isBlank d = true
  · have whole : ∀ d ∈ text ++ [c], isBlank d = true := by
      intro d inside
      rcases List.mem_append.mp inside with before | last
      · exact allBlank d before
      · rw [List.mem_singleton.mp last]
        exact blank
    rw [trim, trim, List.dropWhile_eq_nil_iff.mpr whole,
      List.dropWhile_eq_nil_iff.mpr allBlank]
  · have nonempty : (text.dropWhile isBlank).isEmpty = false := by
      rw [List.isEmpty_eq_false_iff]
      intro nothing
      exact allBlank (List.dropWhile_eq_nil_iff.mp nothing)
    rw [trim, List.dropWhile_append, nonempty]
    exact dropEndWhile_append_singleton blank _

/-- A text with no blank at either end stays as it is. -/
theorem trim_eq_self {text : List Char}
    (first : ∀ c ∈ text.head?, isBlank c = false)
    (last : ∀ c ∈ text.getLast?, isBlank c = false) :
    trim text = text := by
  have kept : text.dropWhile isBlank = text := by
    cases text with
    | nil => rfl
    | cons c rest =>
        have nonblank : isBlank c = false := first c (by simp)
        simp [nonblank]
  rw [trim, kept]
  exact dropEndWhile_of_last last

@[simp]
theorem trim_dropWhile (text : List Char) :
    trim (text.dropWhile isBlank) = trim text := by
  simp [trim, List.dropWhile_idempotent]

/-- A character that is kept stays behind what is dropped in front of it. -/
theorem dropWhile_append_cons {drop : Char → Bool} {c : Char}
    (kept : drop c = false) (front rest : List Char) :
    (front ++ c :: rest).dropWhile drop =
      front.dropWhile drop ++ c :: rest := by
  induction front with
  | nil => simp [kept]
  | cons d front ih =>
      by_cases dropped : drop d = true
      · simp [dropped, ih]
      · simp [dropped]

/-- What is dropped is not counted. -/
theorem countP_dropWhile {drop counted : Char → Bool}
    (apart : ∀ c, drop c = true → counted c = false) (text : List Char) :
    (text.dropWhile drop).countP counted = text.countP counted := by
  induction text with
  | nil => rfl
  | cons c text ih =>
      by_cases dropped : drop c = true
      · simp [dropped, apart c dropped, ih]
      · simp [dropped]

/-- Trimming drops blanks only. -/
theorem countP_trim {counted : Char → Bool}
    (apart : ∀ c, isBlank c = true → counted c = false) (text : List Char) :
    (trim text).countP counted = text.countP counted := by
  rw [trim, dropEndWhile, List.countP_reverse, countP_dropWhile apart,
    List.countP_reverse, countP_dropWhile apart]

/-- A text that ends with no blank does so when it is trimmed. -/
theorem getLast?_trim {c : Char} (nonblank : isBlank c = false)
    {text : List Char} (last : text.getLast? = some c) :
    (trim text).getLast? = some c := by
  rcases List.getLast?_eq_some_iff.mp last with ⟨front, rfl⟩
  have ends : (front ++ [c]).dropWhile isBlank = front.dropWhile isBlank ++ [c] :=
    dropWhile_append_cons nonblank front []
  rw [trim, ends, dropEndWhile_of_last (by simpa using nonblank)]
  simp

theorem mem_dropWhile {drop : Char → Bool} {c : Char} (kept : drop c = false)
    {text : List Char} (inside : c ∈ text) : c ∈ text.dropWhile drop := by
  rcases List.append_of_mem inside with ⟨front, rest, rfl⟩
  rw [dropWhile_append_cons kept]
  simp

theorem mem_trim {c : Char} (nonblank : isBlank c = false) {text : List Char}
    (inside : c ∈ text) : c ∈ trim text := by
  have front := mem_dropWhile nonblank inside
  rw [trim, dropEndWhile, List.mem_reverse]
  exact mem_dropWhile nonblank (List.mem_reverse.mpr front)

theorem trim_isInfix (text : List Char) : trim text <:+: text := by
  have shorter : trim text <+: text.dropWhile isBlank := by
    rw [trim, dropEndWhile, ← List.reverse_suffix, List.reverse_reverse]
    exact List.dropWhile_suffix _
  exact shorter.isInfix.trans (List.dropWhile_suffix _).isInfix

end ClusterLog.Text
