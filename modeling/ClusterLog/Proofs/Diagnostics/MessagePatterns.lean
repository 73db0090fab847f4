import ClusterLog.Diagnostics.GcPause
import ClusterLog.Pattern.Reader
import ClusterLog.Proofs.Diagnostics.DroppedReports
import ClusterLog.Proofs.Pattern.Searching

/-!
# The patterns of diagnostic messages

The readers of diagnostic messages find what the written patterns find.  A pattern
begins with the run that the reader only looks back at when it has read what stands
behind.
-/

namespace ClusterLog

open Text Pattern

/-- What a match keeps under an ordinal. -/
def Captures.part (captures : Captures) (ordinal : Nat) : List Char :=
  (captures.lookup ordinal).getD []

namespace DroppedReport

/-- The class of the characters of types. -/
def typeClass : CharClass :=
  .either (.between 'A' 'Z') (.single '_')

/-- The pattern of reports behind the first words after their type. -/
def dropsPattern : List Pattern :=
  .either (literal "last".toList) (literal "the last".toList) ::
  ([' '].map char ++ keptRun 2 1 .digit ::
  ([' '].map char ++ .either (literal "ms".toList) (literal "s".toList) ::
  (": ".toList.map char ++ keptRun 3 1 .digit ::
  (" internal and ".toList.map char ++ keptRun 4 1 .digit ::
  (" cross node. Mean internal dropped latency: ".toList.map char ++
  keptRun 5 1 .digit ::
  (" ms and Mean cross-node dropped latency: ".toList.map char ++
  keptRun 6 1 .digit ::
  (" ms".toList.map char ++ [])))))))

/-- The pattern of reports. -/
def reportPattern : Pattern :=
  .sequence (keptRun 1 1 typeClass ::
    (" messages were dropped in ".toList.map char ++ dropsPattern))

theorem read?_reportPattern :
    Pattern.read? .any
        ("([A-Z_]+) messages were dropped in (?:last|the last) " ++
          "(\\d+) (?:ms|s): (\\d+) internal and (\\d+) cross node\\. " ++
          "Mean internal dropped latency: (\\d+) ms and " ++
          "Mean cross-node dropped latency: (\\d+) ms").toList =
      some (reportPattern, 6) := by
  decide +kernel

theorem holds_typeClass (c : Char) : typeClass.holds c = isTypeChar c := by
  rw [typeClass, CharClass.holds, CharClass.holds_single, CharClass.holds]
  rfl

/-- The type and the drops that a match keeps. -/
def keptParts (captures : Captures) : List Char × List Char × List Char :=
  (captures.part 1, captures.part 3, captures.part 4)

theorem match?_dropsPattern (total : Nat) (type text : List Char) :
    ((sequence (" messages were dropped in ".toList.map char ++
        dropsPattern)).match? total text [(1, type)]
        fun _ kept => some kept).map keptParts =
      (drops? text).map (type, ·) := by
  have last : ¬ "last".toList <+: "the last".toList ∧
      ¬ "the last".toList <+: "last".toList := by decide
  have unit : ¬ "ms".toList <+: "s".toList ∧ ¬ "s".toList <+: "ms".toList := by
    decide
  unfold dropsPattern drops?
  refine map_sequence_literal (fun text => ?_) text
  refine map_sequence_either last (fun text => ?_) text
  refine map_sequence_literal (fun text => ?_) text
  refine map_sequence_keptRun (by decide) (fun _ text => ?_) text
  refine map_sequence_literal (fun text => ?_) text
  refine map_sequence_either unit (fun text => ?_) text
  refine map_sequence_literal (fun text => ?_) text
  refine map_sequence_keptRun (by decide) (fun internal text => ?_) text
  refine map_sequence_literal (fun text => ?_) text
  refine map_sequence_keptRun (by decide) (fun crossNode text => ?_) text
  refine map_sequence_literal (fun text => ?_) text
  refine map_sequence_keptRun (by decide) (fun _ text => ?_) text
  refine map_sequence_literal (fun text => ?_) text
  refine map_sequence_keptRun (by decide) (fun _ text => ?_) text
  refine map_sequence_literal (fun _ => ?_) text
  rfl

theorem partsAt?_eq :
    partsAt? = readLookingBack? 1 typeClass.holds drops? := by
  have sameClass : typeClass.holds = isTypeChar := funext holds_typeClass
  funext before rest
  rw [partsAt?, readLookingBack?, sameClass]
  cases before.takeWhile isTypeChar with
  | nil => rfl
  | cons c type => cases drops? rest <;> simp

/-- The parts of the first report are what the first match of the pattern
keeps. -/
theorem parts?_eq_search? (text : List Char) :
    parts? text = (reportPattern.search? text).map keptParts := by
  rw [parts?_eq, partsAt?_eq]
  exact (map_search?_keptRun le_rfl (by decide) match?_dropsPattern text).symm

end DroppedReport

namespace GcPause

/-! ## Digits between two texts -/

/-- The digits behind one text and in front of another one. -/
def digitsFrom? (before after : List Char) (member : Char → Bool)
    (text : List Char) : Option (List Char) := do
  let rest ← dropLiteral? before text
  let (digits, rest) ← readRun? member rest
  let _ ← dropLiteral? after rest
  return digits

theorem digitsBetween?_eq (before after : List Char) (member : Char → Bool)
    (text : List Char) :
    Diagnostics.digitsBetween? before after member text =
      firstReading? (fun _ => digitsFrom? before after member) text :=
  rfl

/-- The pattern of digits between two texts. -/
def digitsPattern (before : List Char) (ordinal : Nat) (member : CharClass)
    (after : List Char) : List Pattern :=
  before.map char ++ keptRun ordinal 1 member :: (after.map char ++ [])

theorem map_digitsPattern {Made : Type} {before after : List Char}
    {total ordinal : Nat} {member : CharClass} {captures : Captures}
    {make : Captures → Made} {keep : List Char → Made}
    (foreign : after.head?.any (!member.holds ·) = true)
    (same : ∀ digits, make ((ordinal, digits) :: captures) = keep digits)
    (text : List Char) :
    ((sequence (digitsPattern before ordinal member after)).match? total text
        captures fun _ kept => some kept).map make =
      (digitsFrom? before after member.holds text).map keep := by
  unfold digitsPattern digitsFrom?
  refine map_sequence_literal (fun text => ?_) text
  refine map_sequence_keptRun foreign (fun digits text => ?_) text
  refine map_sequence_literal (fun _ => ?_) text
  exact congrArg some (same digits)

/-! ## Pauses -/

/-- The pattern of pauses. -/
def pausePattern : Pattern :=
  .sequence (keptRun 1 0 .word ::
    digitsPattern " GC in ".toList 2 (.between '0' '9') "ms".toList)

theorem read?_pausePattern :
    Pattern.read? .any "(\\w*) GC in ([0-9]+)ms".toList =
      some (pausePattern, 2) := by
  decide +kernel

/-- The collector and the digits of the first pause are what the first match of
the pattern keeps. -/
theorem currentForm?_eq_search? (text : List Char) :
    currentForm? text =
      (pausePattern.search? text).map fun kept => (kept.part 1, kept.part 2) := by
  have foreign : " GC in ".toList.head?.any (!CharClass.word.holds ·) = true := by
    decide
  have looksBack : currentForm? text =
      firstReading? (readLookingBack? 0 isWord
        (digitsFrom? " GC in ".toList "ms".toList isAsciiDigit)) text := by
    refine congrArg (firstReading? · text) (funext fun _ => funext fun rest => ?_)
    rw [readLookingBack?, if_pos (Nat.zero_le _)]
    simp only [digitsFrom?, Option.bind_eq_bind, Option.map_bind,
      Function.comp_def]
    rfl
  have goesOn (total : Nat) (word text : List Char) :
      ((sequence (digitsPattern " GC in ".toList 2 (.between '0' '9')
          "ms".toList)).match? total text [(1, word)]
        fun _ kept => some kept).map (fun kept => (kept.part 1, kept.part 2)) =
      (digitsFrom? " GC in ".toList "ms".toList isAsciiDigit text).map (word, ·) :=
    map_digitsPattern (by decide) (fun _ => rfl) text
  rw [looksBack]
  exact (map_search?_keptRun (Nat.zero_le 1) foreign goesOn text).symm

/-- The pattern of older pauses, with the text in front of the milliseconds. -/
def olderPattern (before : List Char) : Pattern :=
  .sequence (digitsPattern before 1 .digit " ms".toList)

theorem read?_olderPattern :
    ∀ form ∈ olderForms,
      Pattern.read? .any (form.2.1 ++ "(\\d+) ms").toList =
        some (olderPattern form.2.1.toList, 1) := by
  decide +kernel

/-- The digits between two texts are those of the first match. -/
theorem digitsBetween?_eq_search? (before text : List Char) :
    Diagnostics.digitsBetween? before " ms".toList isDigit text =
      ((olderPattern before).search? text).map (Captures.part · 1) := by
  rw [digitsBetween?_eq, map_search?]
  refine congrArg (firstReading? · text) (funext fun _ => funext fun rest => ?_)
  have same := @map_digitsPattern _ before " ms".toList text.length 1 .digit []
    (Captures.part · 1) id (by decide) (fun _ => rfl) rest
  rw [Option.map_id, id] at same
  exact same.symm

/-- A pause message is read by the current pattern, and where it finds nothing, by
the older pattern of the first mark that the message has. -/
theorem parts?_eq_search? (text : List Char) :
    parts? text =
      match pausePattern.search? text with
      | some kept => some (Collector.ofWord (kept.part 1), kept.part 2)
      | none => do
        let (_, before, collector) ←
          olderForms.find? fun form => occursIn form.1.toList text
        let kept ← (olderPattern before.toList).search? text
        return (collector, kept.part 1) := by
  rw [parts?, currentForm?_eq_search?]
  cases pausePattern.search? text with
  | some kept => rfl
  | none =>
      refine Option.bind_congr fun ⟨mark, before, collector⟩ _ => ?_
      dsimp only
      rw [digitsBetween?_eq_search?]
      cases (olderPattern before.toList).search? text <;> rfl

end GcPause

end ClusterLog
