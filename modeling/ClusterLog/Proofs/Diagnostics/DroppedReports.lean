import ClusterLog.Diagnostics.DroppedMessages
import ClusterLog.Proofs.Term.Separators
import ClusterLog.Proofs.Text.Find

/-!
# Reports of dropped messages and their phrases

A report of dropped messages has its type in front of a fixed text.  Where the
type stands at the beginning of the message or behind a blank, its first term is
not part of a longer one, and the message has the terms of the type and of the
fixed text next to each other.
-/

namespace ClusterLog.DroppedReport

open Text

/-- What a report says whose type ends in front of a place. -/
def partsAt? (before rest : List Char) :
    Option (List Char × List Char × List Char) := do
  let type := (before.takeWhile isTypeChar).reverse
  if type.isEmpty then none
  else
    let (internal, crossNode) ← drops? rest
    return (type, internal, crossNode)

theorem parts?_eq (text : List Char) :
    parts? text = firstReading? partsAt? text :=
  rfl

/-- The characters of types are upper case letters and the underscore. -/
theorem toNat_of_isTypeChar {c : Char} (typeChar : isTypeChar c = true) :
    65 ≤ c.toNat ∧ c.toNat ≤ 122 := by
  rcases (Bool.or_eq_true ..).mp typeChar with upper | underscore
  · exact toNat_of_asciiLetter (by rw [isAsciiLetter, upper, Bool.true_or])
  · obtain rfl := beq_iff_eq.mp underscore
    decide

/-- Whether the type of the first report in a text, if there is one, stands at
the beginning or behind a blank. -/
def isSetOff (text : List Char) : Bool :=
  (firstReading? (withFront partsAt?) text).all fun (before, _) =>
    (before.dropWhile isTypeChar).head?.all isBlank

/-- The text that all reports go on with behind their type. -/
def reportPhrase (type : List Char) : List Char :=
  type ++ " messages were dropped".toList

variable {text before rest type internal crossNode : List Char}

theorem exists_of_drops? {counts : List Char × List Char}
    (reads : drops? rest = some counts) :
    ∃ others, rest = " messages were dropped in ".toList ++ others := by
  unfold drops? at reads
  rcases Option.bind_eq_some_iff.mp reads with ⟨others, literal, -⟩
  exact ⟨others, dropLiteral?_eq_some_iff.mp literal⟩

theorem partsAt?_eq_some
    (reads : partsAt? before rest = some (type, internal, crossNode)) :
    type = (before.takeWhile isTypeChar).reverse ∧
    ∃ others, rest = " messages were dropped in ".toList ++ others := by
  simp only [partsAt?] at reads
  split at reads
  · cases reads
  · rcases Option.bind_eq_some_iff.mp reads with ⟨counts, drops, same⟩
    obtain ⟨rfl, -⟩ := Prod.mk.inj (Option.some.inj same)
    exact ⟨rfl, exists_of_drops? drops⟩

/-- A text with a report has the phrase of the report, and a blank behind it. -/
theorem exists_of_parts?
    (reads : parts? text = some (type, internal, crossNode)) :
    ∃ front others,
      text = front ++ (reportPhrase type ++ ' ' :: others) ∧
      (isSetOff text = true → front.getLast?.all isBlank = true) := by
  rw [parts?_eq] at reads
  rcases exists_of_firstReading? reads with
    ⟨passed, rest, split, fronts, reads⟩
  rcases partsAt?_eq_some reads with ⟨run, others, literal⟩
  let front := (passed.reverse.dropWhile isTypeChar).reverse
  have ends : front ++ type = passed := by
    rw [run, ← List.reverse_append, List.takeWhile_append_dropWhile,
      List.reverse_reverse]
  have split := calc
    text = passed ++ rest := split
    _ = front ++ type ++ (" messages were dropped in ".toList ++ others) := by
      rw [ends, literal]
    _ = front ++ (reportPhrase type ++ ' ' :: ("in ".toList ++ others)) := by
      simp [reportPhrase]
  refine ⟨front, "in ".toList ++ others, split, ?_⟩
  intro setOff
  rw [isSetOff, fronts] at setOff
  simpa [front] using setOff

/-- A phrase behind a blank and in front of one gives its terms to the text. -/
theorem terms_infix_of_split {front phrase others : List Char} {c : Char}
    (blankBefore : front.getLast?.all isBlank = true)
    (blankBehind : isBlank c = true) :
    Term.terms phrase <:+:
      Term.terms (front ++ (phrase ++ c :: others)) := by
  have inside : Term.terms (phrase ++ c :: others) =
      Term.terms phrase ++ Term.terms others :=
    Term.terms_behind_blank blankBehind phrase others
  rcases List.eq_nil_or_concat front with rfl | ⟨start, last, rfl⟩
  · rw [List.nil_append, inside]
    exact ⟨[], Term.terms others, rfl⟩
  · have blank : isBlank last = true := by simpa using blankBefore
    rw [List.concat_eq_append, List.append_assoc, List.singleton_append,
      Term.terms_behind_blank blank, inside]
    exact ⟨Term.terms start, Term.terms others, List.append_assoc ..⟩

/-- A text whose report is set off has the terms of the report's phrase. -/
theorem terms_reportPhrase
    (reads : parts? text = some (type, internal, crossNode))
    (setOff : isSetOff text = true) :
    Term.terms (reportPhrase type) <:+: Term.terms text := by
  rcases exists_of_parts? reads with ⟨front, others, split, blank⟩
  rw [split]
  exact terms_infix_of_split (blank setOff) (by decide)

theorem terms_reportPhrase_ne_nil (type : List Char) :
    Term.terms (reportPhrase type) ≠ [] := by
  have blank : Text.isBlank ' ' = true := by decide
  have words : Term.terms "messages were dropped".toList ≠ [] := by
    decide +kernel
  have split : reportPhrase type =
      type ++ ' ' :: "messages were dropped".toList :=
    rfl
  rw [split, Term.terms_behind_blank blank]
  exact List.append_ne_nil_of_right_ne_nil _ words

end ClusterLog.DroppedReport
