import ClusterLog.Ingest.Node
import ClusterLog.Proofs.Computation
import ClusterLog.Proofs.Text.Lines
import Mathlib.Algebra.Ring.Nat

/-!
# Fingerprints

What the fingerprint of a file covers, its first lines, a null character and its
last lines, determines these lines, although neither their number nor the place
of the null character is marked: where the first lines are complete they end
with the line feed of the last one of them, and a file with fewer lines is its
own first and last lines.  The bytes of a text determine the text, and the
digits of a digest the digest.
-/

namespace ClusterLog

open Text

/-! ## First and last lines -/

namespace FileTree

/-- The last lines of a file. -/
def lastLines (count : Nat) (lines : List (List Char)) : List (List Char) :=
  lines.drop (lines.length - count)

theorem areLines_lastLines (count : Nat) {lines : List (List Char)}
    (are : AreLines lines) :
    AreLines (lastLines count lines) :=
  are.drop _

theorem fingerprintText_eq (count : Nat) (lines : List (List Char)) :
    fingerprintText count lines =
      (lines.take count).flatten ++ Char.ofNat 0 ::
        (lastLines count lines).flatten := by
  rw [fingerprintText, List.append_assoc]
  rfl

/-- There are as many line feeds in the first lines as lines were asked for. -/
def HasCompleteHead (count : Nat) (lines : List (List Char)) : Prop :=
  (lines.take count).flatten.count '\n' = count

theorem count_fingerprintText (count : Nat) (lines : List (List Char)) :
    (fingerprintText count lines).count '\n' =
      (lines.take count).flatten.count '\n' +
        (lastLines count lines).flatten.count '\n' := by
  rw [fingerprintText_eq, List.count_append, List.count_cons_of_ne (by decide)]

variable {count : Nat} {lines others : List (List Char)}

theorem fingerprintText_of_short (short : lines.length ≤ count) :
    fingerprintText count lines =
      lines.flatten ++ Char.ofNat 0 :: lines.flatten := by
  rw [fingerprintText_eq, lastLines, List.take_of_length_le short,
    Nat.sub_eq_zero_of_le short, List.drop_zero]

/-- The lines of a file with fewer lines than asked for are not complete, and
all of them are first and last lines. -/
theorem length_le_of_not_hasCompleteHead (are : AreLines lines)
    (incomplete : ¬ HasCompleteHead count lines) :
    lines.length ≤ count :=
  Nat.le_of_not_lt fun fewer => incomplete (are.count_take fewer)

theorem HasCompleteHead.le_length (complete : HasCompleteHead count lines)
    (are : AreLines lines) :
    count ≤ lines.length := by
  apply Nat.le_of_not_lt
  intro fewer
  have feeds := are.count_le.1
  rw [HasCompleteHead, List.take_of_length_le (Nat.le_of_lt fewer)] at complete
  omega

/-- With complete first lines, at most one line feed is missing. -/
theorem HasCompleteHead.le_count (complete : HasCompleteHead count lines)
    (are : AreLines lines) :
    2 * count ≤ (fingerprintText count lines).count '\n' + 1 := by
  have enough := complete.le_length are
  have feeds := (areLines_lastLines count are).count_le.2
  have length : (lastLines count lines).length = count := by
    rw [lastLines, List.length_drop]
    omega
  rw [count_fingerprintText, complete]
  omega

/-- Without complete first lines, a line feed is missing on both sides. -/
theorem count_of_not_hasCompleteHead (are : AreLines lines)
    (incomplete : ¬ HasCompleteHead count lines) :
    (fingerprintText count lines).count '\n' + 2 ≤ 2 * count := by
  have short := length_le_of_not_hasCompleteHead are incomplete
  have feeds := are.count_le.1
  rw [HasCompleteHead, List.take_of_length_le short] at incomplete
  rw [fingerprintText_of_short short, List.count_append,
    List.count_cons_of_ne (by decide)]
  omega

/-- Complete first lines are cut off by their number, and the last lines are what
follows the null character. -/
theorem fingerprintText_inj_of_complete (are : AreLines lines)
    (areToo : AreLines others) (complete : HasCompleteHead count lines)
    (completeToo : HasCompleteHead count others)
    (same : fingerprintText count lines = fingerprintText count others) :
    lines.take count = others.take count ∧
      lastLines count lines = lastLines count others := by
  have cut := congrArg cutAfterLineFeeds same
  rw [fingerprintText_eq, fingerprintText_eq,
    are.cutAfterLineFeeds_take complete,
    areToo.cutAfterLineFeeds_take completeToo] at cut
  have lengths : (lines.take count).length = (others.take count).length := by
    rw [List.length_take_of_le (complete.le_length are),
      List.length_take_of_le (completeToo.le_length areToo)]
  have heads := (List.append_inj cut lengths).1
  rw [fingerprintText_eq, fingerprintText_eq, heads] at same
  have tails := (List.cons.inj (List.append_cancel_left same)).2
  have ends := areLines_lastLines count are
  have endsToo := areLines_lastLines count areToo
  refine ⟨heads, ?_⟩
  rw [← ends.cutAfterLineFeeds_flatten, tails,
    endsToo.cutAfterLineFeeds_flatten]

/-- A short file stands on both sides of the null character, which is then in
the middle. -/
theorem fingerprintText_inj_of_short (are : AreLines lines)
    (areToo : AreLines others) (short : lines.length ≤ count)
    (shortToo : others.length ≤ count)
    (same : fingerprintText count lines = fingerprintText count others) :
    lines = others := by
  rw [fingerprintText_of_short short, fingerprintText_of_short shortToo] at same
  have length := congrArg List.length same
  simp only [List.length_append, List.length_cons] at length
  have texts := (List.append_inj same (by omega)).1
  rw [← are.cutAfterLineFeeds_flatten, texts, areToo.cutAfterLineFeeds_flatten]

/-- What a fingerprint covers determines the first and the last lines. -/
theorem fingerprintText_inj (are : AreLines lines) (areToo : AreLines others)
    (same : fingerprintText count lines = fingerprintText count others) :
    lines.take count = others.take count ∧
      lastLines count lines = lastLines count others := by
  -- The number of line feeds tells whether the first lines are complete.
  by_cases complete : HasCompleteHead count lines
  · by_cases completeToo : HasCompleteHead count others
    · exact fingerprintText_inj_of_complete are areToo complete completeToo same
    · have many := complete.le_count are
      have few := count_of_not_hasCompleteHead areToo completeToo
      rw [same] at many
      omega
  · by_cases completeToo : HasCompleteHead count others
    · have few := count_of_not_hasCompleteHead are complete
      have many := completeToo.le_count areToo
      rw [same] at few
      omega
    · have short := length_le_of_not_hasCompleteHead are complete
      have shortToo := length_le_of_not_hasCompleteHead areToo completeToo
      rw [fingerprintText_inj_of_short are areToo short shortToo same]
      exact ⟨rfl, rfl⟩

/-! ## Whole files -/

/-- Of a file with few lines each line is one of the first or the last ones. -/
theorem mem_take_or_lastLines (few : lines.length ≤ 2 * count)
    {line : List Char} (member : line ∈ lines) :
    line ∈ lines.take count ∨ line ∈ lastLines count lines := by
  rw [← List.take_append_drop count lines, List.mem_append] at member
  refine member.imp_right fun behind => ?_
  have split : lines.drop count = (lastLines count lines).drop
      (count - (lines.length - count)) := by
    rw [lastLines, List.drop_drop]
    congr 1
    omega
  rw [split] at behind
  exact List.mem_of_mem_drop behind

/-- The first lines of a file that has fewer are all of it. -/
theorem eq_of_take_eq (heads : lines.take count = others.take count)
    (short : lines.length < count) :
    lines = others := by
  have length := congrArg List.length heads
  rw [List.length_take, List.length_take] at length
  rwa [List.take_of_length_le (by omega), List.take_of_length_le (by omega)]
    at heads

/-- The first and last lines of a file that has few are all of it, if it is known
how many there are. -/
theorem eq_of_lastLines_eq (heads : lines.take count = others.take count)
    (tails : lastLines count lines = lastLines count others)
    (length : lines.length = others.length)
    (few : lines.length ≤ 2 * count) :
    lines = others := by
  have behind (whole : List (List Char)) (same : whole.length = lines.length) :
      whole.drop count = (lastLines count whole).drop
        (count - (lines.length - count)) := by
    rw [lastLines, List.drop_drop, same]
    congr 1
    omega
  rw [← List.take_append_drop count lines, heads, behind lines rfl, tails,
    ← behind others length.symm, List.take_append_drop]

end FileTree

/-! ## Digests -/

theorem hexDigit_inj {value other : Nat}
    (same : hexDigit value = hexDigit other) :
    value % 16 = other % 16 := by
  have digits : ∀ first < 16, ∀ second < 16,
      (("0123456789abcdef".toList)[first]?).getD '0' =
        (("0123456789abcdef".toList)[second]?).getD '0' → first = second := by
    decide
  exact digits _ (Nat.mod_lt _ (by decide)) _ (Nat.mod_lt _ (by decide)) same

theorem length_hexDigits (width value : Nat) :
    (hexDigits width value).length = width := by
  induction width generalizing value with
  | zero => rfl
  | succ width ih => rw [hexDigits, List.length_append, ih]; rfl

/-- A number that fits is known by its digits. -/
theorem hexDigits_inj {width value other : Nat} (fits : value < 16 ^ width)
    (fitsToo : other < 16 ^ width)
    (same : hexDigits width value = hexDigits width other) :
    value = other := by
  induction width generalizing value other with
  | zero =>
      rw [Nat.pow_zero] at fits fitsToo
      omega
  | succ width ih =>
      rw [hexDigits, hexDigits] at same
      rcases List.append_inj same (by rw [length_hexDigits, length_hexDigits])
        with ⟨front, last⟩
      rw [Nat.pow_succ] at fits fitsToo
      have high := ih (by omega) (by omega) front
      have low := hexDigit_inj (List.cons.inj last).1
      omega

/-- Words are known by their digits. -/
theorem flatMap_hexDigits_inj {words others : List UInt32}
    (same : words.flatMap (fun word => hexDigits 8 word.toNat) =
      others.flatMap fun word => hexDigits 8 word.toNat) :
    words = others := by
  induction words generalizing others with
  | nil =>
      cases others with
      | nil => rfl
      | cons other others =>
          have length := congrArg List.length same
          rw [List.flatMap_cons, List.length_append, length_hexDigits] at length
          simp at length
          omega
  | cons word words ih =>
      cases others with
      | nil =>
          have length := congrArg List.length same
          rw [List.flatMap_cons, List.length_append, length_hexDigits] at length
          simp at length
      | cons other others =>
          rw [List.flatMap_cons, List.flatMap_cons] at same
          rcases List.append_inj same
            (by rw [length_hexDigits, length_hexDigits]) with ⟨first, behind⟩
          have number := hexDigits_inj word.toNat_lt other.toNat_lt first
          rw [UInt32.toNat_inj.mp number, ih behind]

theorem Digest.State.hex_inj {state other : Digest.State}
    (same : state.hex = other.hex) :
    state = other := by
  have words := flatMap_hexDigits_inj (String.ofList_injective same)
  cases state
  cases other
  simp only [List.cons.injEq, and_true] at words
  rcases words with ⟨rfl, rfl, rfl, rfl, rfl, rfl, rfl, rfl⟩
  rfl

/-- A text is known by its bytes. -/
theorem encodeUtf8_inj {text other : List Char}
    (same : encodeUtf8 text = encodeUtf8 other) :
    text = other := by
  apply String.ofList_injective
  apply String.toByteArray_inj.mp
  rw [String.toByteArray_ofList, String.toByteArray_ofList]
  exact congrArg List.toByteArray same

end ClusterLog
