import ClusterLog.Proofs.Diagnostics.DroppedReports
import ClusterLog.Proofs.Text.Decimal

/-!
# Written summaries of dropped messages

A summary of dropped messages that stands anywhere in a message is read back.
The type in front of its fixed words is the longest run of type characters
there, and no place before its end is taken for the end of a type: the fixed
words would have to begin in the text in front of the summary and either end
there too or run into the type, none of whose characters they have.
-/

namespace ClusterLog

open Text Calendar

/-- A summary of the dropped messages of one type. -/
structure SummaryLine where
  type : String
  /-- Whether the window is called `the last`, and not just `last`. -/
  isTheLast : Bool
  window : Nat
  /-- Whether the window is counted in seconds, and not in milliseconds. -/
  isInSeconds : Bool
  internalDrops : Nat
  crossNodeDrops : Nat
  internalLatency : Nat
  crossNodeLatency : Nat

namespace SummaryLine

/-- The text of a summary behind its type. -/
def rest (line : SummaryLine) : List Char :=
  " messages were dropped in ".toList ++
    (if line.isTheLast then "the last" else "last").toList ++ [' '] ++
    decimal line.window ++ [' '] ++
    (if line.isInSeconds then "s" else "ms").toList ++ ": ".toList ++
    decimal line.internalDrops ++ " internal and ".toList ++
    decimal line.crossNodeDrops ++
    " cross node. Mean internal dropped latency: ".toList ++
    decimal line.internalLatency ++
    " ms and Mean cross-node dropped latency: ".toList ++
    decimal line.crossNodeLatency ++ " ms".toList

/-- The text of a summary. -/
def text (line : SummaryLine) : List Char :=
  line.type.toList ++ line.rest

/-- The type is a word of type characters, and the numbers of drops are short
enough to be read. -/
structure IsReadable (line : SummaryLine) : Prop where
  named : line.type ≠ ""
  type : ∀ c ∈ line.type.toList, DroppedReport.isTypeChar c = true
  internalDrops : (decimal line.internalDrops).length ≤ maxDigits
  crossNodeDrops : (decimal line.crossNodeDrops).length ≤ maxDigits

theorem rest_append (line : SummaryLine) (behind : List Char) :
    line.rest ++ behind =
      " messages were dropped in ".toList ++
      ((if line.isTheLast then "the last" else "last").toList ++ ([' '] ++
      (decimal line.window ++ ([' '] ++
      ((if line.isInSeconds then "s" else "ms").toList ++ (": ".toList ++
      (decimal line.internalDrops ++ (" internal and ".toList ++
      (decimal line.crossNodeDrops ++
      (" cross node. Mean internal dropped latency: ".toList ++
      (decimal line.internalLatency ++
      (" ms and Mean cross-node dropped latency: ".toList ++
      (decimal line.crossNodeLatency ++ (" ms".toList ++ behind)))))))))))))) := by
  unfold rest
  simp only [List.append_assoc]

end SummaryLine

namespace DroppedReport

/-! ## Numbers and wordings -/

/-- A decimal number is read up to what is no digit. -/
theorem readRun?_decimal {value : Nat} {rest : List Char}
    (stops : ∀ c ∈ rest.head?, isDigit c = false) :
    readRun? isDigit (decimal value ++ rest) = some (decimal value, rest) := by
  have nonempty : decimal value ≠ [] := by simp [decimal]
  exact readRun?_append nonempty
    (fun c inside => isDigit_of_asciiDigit (isAsciiDigit_of_mem_decimal inside))
    stops

/-- One of two wordings is dropped, if the one that is tried first does not
begin the other. -/
theorem dropEither?_wording {first second : String}
    (foreign : ∀ rest, dropLiteral? first.toList (second.toList ++ rest) = none)
    (isSecond : Bool) (rest : List Char) :
    dropEither? first second
        ((if isSecond then second else first).toList ++ rest) =
      some rest := by
  cases isSecond with
  | false => simp [dropEither?]
  | true => simp [dropEither?, foreign]

/-- The drops of a summary are read, whatever stands behind it. -/
theorem drops?_rest (line : SummaryLine) (behind : List Char) :
    drops? (line.rest ++ behind) =
      some (decimal line.internalDrops, decimal line.crossNodeDrops) := by
  have last := @dropEither?_wording "last" "the last" (by simp [dropLiteral?])
  have unit := @dropEither?_wording "ms" "s" (by simp [dropLiteral?])
  have digits {literal others : List Char} (value : Nat)
      (begins : literal.head? = some ' ') :
      readRun? isDigit (decimal value ++ (literal ++ others)) =
        some (decimal value, literal ++ others) := by
    apply readRun?_decimal
    cases literal with
    | nil => cases begins
    | cons c literal =>
        obtain rfl : c = ' ' := Option.some.inj begins
        have blank : isDigit ' ' = false := by decide
        simpa using blank
  have step {Middle Result : Type} {read : Option Middle}
      {next : Middle → Option Result} {middle : Middle} {result : Result}
      (reads : read = some middle) (goesOn : next middle = some result) :
      read >>= next = some result :=
    Option.bind_eq_some_iff.mpr ⟨middle, reads, goesOn⟩
  rw [line.rest_append]
  unfold drops?
  refine step (dropLiteral?_append _ _) ?_
  refine step (last _ _) ?_
  refine step (dropLiteral?_append _ _) ?_
  refine step (digits line.window (by simp)) ?_
  refine step (dropLiteral?_append _ _) ?_
  refine step (unit _ _) ?_
  refine step (dropLiteral?_append _ _) ?_
  refine step (digits line.internalDrops (by simp)) ?_
  refine step (dropLiteral?_append _ _) ?_
  refine step (digits line.crossNodeDrops (by simp)) ?_
  refine step (dropLiteral?_append _ _) ?_
  refine step (digits line.internalLatency (by simp)) ?_
  refine step (dropLiteral?_append _ _) ?_
  refine step (digits line.crossNodeLatency (by simp)) ?_
  exact step (dropLiteral?_append _ _) rfl

/-! ## Places in front of a summary -/

variable {line : SummaryLine} {front behind : List Char}

/-- None of the fixed words behind a type has a type character. -/
theorem isTypeChar_of_mem_words :
    ∀ c ∈ " messages were dropped in ".toList, isTypeChar c = false := by
  decide

/-- The fixed words are not found in front of the end of a type. -/
theorem ne_words_append {left others : List Char} {type : List Char}
    (named : type ≠ []) (typeChars : ∀ c ∈ type, isTypeChar c = true)
    (silent : ¬ " messages were dropped in ".toList <:+: left) :
    left ++ (type ++ behind) ≠ " messages were dropped in ".toList ++ others := by
  rcases List.exists_cons_of_ne_nil named with ⟨c, type, rfl⟩
  have typeChar := typeChars c List.mem_cons_self
  intro same
  rcases List.append_eq_append_iff.mp same with
    ⟨further, words, behindWords⟩ | ⟨further, split, -⟩
  · cases further with
    | nil =>
        rw [List.append_nil] at words
        exact silent (words ▸ List.infix_rfl)
    | cons d further =>
        obtain rfl : c = d := (List.cons.inj behindWords).1
        have plain := isTypeChar_of_mem_words c (words ▸ by simp)
        rw [typeChar] at plain
        cases plain
  · exact silent (split ▸ List.infix_append' [] _ _)

/-- At every place in front of the end of its type, a summary is not read yet. -/
theorem partsAt?_front (readable : line.IsReadable)
    (silent : ¬ " messages were dropped in ".toList <:+: front)
    {before passed left : List Char}
    (split : front ++ line.type.toList = passed ++ left) (nonempty : left ≠ []) :
    partsAt? before (left ++ (line.rest ++ behind)) = none := by
  rw [Option.eq_none_iff_forall_ne_some]
  rintro ⟨type, internal, crossNode⟩ reads
  rcases partsAt?_eq_some reads with ⟨-, others, begins⟩
  rcases List.append_eq_append_iff.mp split with
    ⟨start, -, same⟩ | ⟨left, same, rfl⟩
  · -- The place is inside of the type.
    have typeChars : ∀ c ∈ left, isTypeChar c = true :=
      fun c inside => readable.type c (same ▸ List.mem_append_right _ inside)
    have silentHere : ¬ " messages were dropped in ".toList <:+: [] := by
      decide
    exact ne_words_append nonempty typeChars silentHere begins
  · have named : line.type.toList ≠ [] := by simpa using readable.named
    have silentHere : ¬ " messages were dropped in ".toList <:+: left :=
      fun inside => silent (same ▸ inside.trans (List.suffix_append _ _).isInfix)
    rw [List.append_assoc] at begins
    exact ne_words_append named readable.type silentHere begins

/-- A summary is read as the first report of its text. -/
theorem parts?_summary (readable : line.IsReadable)
    (ends : ∀ c ∈ front.getLast?, isTypeChar c = false)
    (silent : ¬ " messages were dropped in ".toList <:+: front) :
    parts? (front ++ line.text ++ behind) =
      some (line.type.toList, decimal line.internalDrops,
        decimal line.crossNodeDrops) := by
  have whole : front ++ line.text ++ behind =
      (front ++ line.type.toList) ++ (line.rest ++ behind) := by
    simp only [SummaryLine.text, List.append_assoc]
  have named : line.type.toList ≠ [] := by simpa using readable.named
  have run : (line.type.toList.reverse ++ front.reverse).takeWhile isTypeChar =
      line.type.toList.reverse := by
    apply takeWhile_run
    · simpa using readable.type
    · simpa using ends
  have here : partsAt? ((front ++ line.type.toList).reverse ++ [])
      (line.rest ++ behind) =
      some (line.type.toList, decimal line.internalDrops,
        decimal line.crossNodeDrops) := by
    rw [List.append_nil, List.reverse_append, partsAt?, run,
      List.reverse_reverse, drops?_rest]
    simp [named]
  rw [parts?_eq, whole, firstReading?, findReading?_append]
  · exact findReading?_of_read here
  · intro passed left split nonempty
    exact partsAt?_front readable silent split nonempty

theorem number_decimal {value : Nat}
    (short : (decimal value).length ≤ maxDigits) :
    Diagnostics.number (decimal value) = .ok (value : Int) := by
  rw [Diagnostics.number, readNatural?_decimal short]

theorem hostOf_eq (entry : Entry) :
    Diagnostics.hostOf entry =
      (entry.host.filter (· ≠ "")).getD "unknown node" := by
  cases named : entry.host with
  | none => simp [Diagnostics.hostOf, named]
  | some host =>
      by_cases empty : host = "" <;>
        simp [Diagnostics.hostOf, named, empty, Option.filter]

/--
A summary of dropped messages is read back from a message in which the text in
front of it does not end with a type character and does not have the fixed words
that follow a type: its type, its drops, and the date and the host of the entry,
whose host is an unknown node if it is missing or empty.
-/
theorem ofEntry_summary {line : SummaryLine} {front behind : List Char}
    {entry : Entry} {date : DateTime} (readable : line.IsReadable)
    (ends : ∀ c ∈ front.getLast?, isTypeChar c = false)
    (silent : ¬ " messages were dropped in ".toList <:+: front)
    (message : entry.message = some (String.ofList (front ++ line.text ++ behind)))
    (dated : entry.date? = some date) :
    ofEntry entry = .ok (some {
      messageType := line.type
      internalDrops := line.internalDrops
      crossNodeDrops := line.crossNodeDrops
      date
      host := (entry.host.filter (· ≠ "")).getD "unknown node" }) := by
  have parts : parts? entry.messageText.toList =
      some (line.type.toList, decimal line.internalDrops,
        decimal line.crossNodeDrops) := by
    rw [Entry.messageText, message, Option.getD_some, String.toList_ofList]
    exact parts?_summary readable ends silent
  have dates : Diagnostics.dateOf entry = .ok date := by
    rw [Diagnostics.dateOf, dated]
  rw [ofEntry, parts]
  simp only [number_decimal readable.internalDrops,
    number_decimal readable.crossNodeDrops, dates, hostOf_eq, String.ofList_toList]
  rfl

/-- A summary of a type that begins with an underscore. -/
def traceLine : SummaryLine where
  type := "_TRACE"
  isTheLast := true
  window := 5
  isInSeconds := true
  internalDrops := 0
  crossNodeDrops := 45
  internalLatency := 2874
  crossNodeLatency := 2395

/-- The first of two summaries is read, behind a line that begins like one. -/
theorem ofEntry_summary_betweenLines :
    let date : DateTime := ⟨⟨2020, 1, 31, by decide⟩, 9, 30, 0, by decide⟩
    let front := "7 READ messages were dropped\nA 1 ".toList
    let behind := "\nREAD".toList ++ traceLine.rest
    ofEntry {
        level := "INFO"
        message := some (String.ofList (front ++ traceLine.text ++ behind))
        timestamp := "20200131093000"
        host := some "" } =
      .ok (some {
        messageType := "_TRACE"
        internalDrops := 0
        crossNodeDrops := 45
        date
        host := "unknown node" }) := by
  intro date front behind
  have readable : traceLine.IsReadable := by
    constructor <;> decide
  have ends : ∀ c ∈ front.getLast?, isTypeChar c = false := by
    simp [front, isTypeChar, isAsciiUpper]
  have silent : ¬ " messages were dropped in ".toList <:+: front := by
    decide +kernel
  have dated : ofStamp? "20200131093000" = some date := by
    decide +kernel
  exact @ofEntry_summary traceLine front behind _ date readable ends silent rfl dated

end DroppedReport

end ClusterLog
