import ClusterLog.Diagnostics.GcPause
import ClusterLog.Proofs.Calendar.Days
import ClusterLog.Proofs.Calendar.Stamp
import ClusterLog.Proofs.Diagnostics.Tally

/-!
# Pauses per day

The summary of pauses has one line for each day with a pause, and it counts the
pauses of that day and no others.  Days are found and sorted by their texts,
which for years of four digits is the same as by the calendar.  The order of the
pauses does not matter.
-/

namespace ClusterLog

open Text Calendar Diagnostics

variable {pauses others : List GcPause}

/-! ## One day -/

/-- The pauses of a day: those of more than 100 and at most 1000 milliseconds are
medium, longer ones are long. -/
def GcDay.ofDate (pauses : List GcPause) (date : Date) : GcDay where
  day := date.text
  pauses := pauses.countP (·.date.date == date)
  mediumPauses := pauses.countP fun pause =>
    pause.date.date == date &&
      (100 < pause.milliseconds && pause.milliseconds ≤ 1000)
  longPauses := pauses.countP fun pause =>
    pause.date.date == date && 1000 < pause.milliseconds

namespace GcPause

theorem isLong_eq (pause : GcPause) :
    pause.isLong = decide (1000 < pause.milliseconds) :=
  rfl

/-- A pause is medium. -/
def isMedium (pause : GcPause) : Bool :=
  100 < pause.milliseconds && pause.milliseconds ≤ 1000

/-- What exceeds the medium bound and is not long is medium. -/
theorem isMedium_eq (pause : GcPause) :
    pause.isMedium = (!pause.isLong && pause.exceedsMedium) := by
  rw [isMedium, isLong_eq, Bool.and_comm, ← decide_not]
  exact congrArg (· && _) (decide_eq_decide.mpr Int.not_lt.symm)

end GcPause

namespace GcCounts

/-- One more pause raises the number of pauses, and that of its kind. -/
theorem add_eq (counts : GcCounts) (pause : GcPause) :
    counts.add pause = {
      pauses := counts.pauses + 1
      mediumPauses := counts.mediumPauses + if pause.isMedium then 1 else 0
      longPauses := counts.longPauses + if pause.isLong then 1 else 0 } := by
  rw [add, GcPause.isMedium_eq]
  cases pause.isLong <;> cases pause.exceedsMedium <;> rfl

/-- Counting pauses one after the other counts each kind. -/
theorem foldl_add (counts : GcCounts) (pauses : List GcPause) :
    pauses.foldl add counts = {
      pauses := counts.pauses + pauses.length
      mediumPauses := counts.mediumPauses + pauses.countP (·.isMedium)
      longPauses := counts.longPauses + pauses.countP (·.isLong) } := by
  induction pauses generalizing counts with
  | nil => rfl
  | cons pause pauses ih =>
      simp only [List.foldl_cons, ih, add_eq, List.length_cons,
        List.countP_cons, mk.injEq]
      omega

end GcCounts

namespace GcDay

/-- The counts of the pauses with one text of a day. -/
def ofText (pauses : List GcPause) (day : String) : GcDay :=
  let ofDay := pauses.filter (·.date.dayText == day)
  { day
    pauses := ofDay.length
    mediumPauses := ofDay.countP (·.isMedium)
    longPauses := ofDay.countP (·.isLong) }

/-- In years of four digits the pauses with the text of a day are those of the
day. -/
theorem ofText_text (modern : ∀ pause ∈ pauses, pause.date.IsModern)
    (date : Date) :
    ofText pauses date.text = ofDate pauses date := by
  have sameDay (pause : GcPause) (member : pause ∈ pauses) :
      (pause.date.dayText == date.text) = (pause.date.date == date) := by
    rw [DateTime.dayText_eq (modern pause member), Bool.eq_iff_iff, beq_iff_eq,
      beq_iff_eq, Date.text_injective.eq_iff]
  rw [ofText, List.filter_congr sameDay]
  simp only [ofDate, List.countP_filter, ← List.countP_eq_length_filter,
    GcPause.isMedium, GcPause.isLong_eq, Bool.and_comm]

theorem ofDate_perm (same : pauses.Perm others) (date : Date) :
    ofDate pauses date = ofDate others date := by
  simp only [ofDate, same.countP_eq]

/-- A pause of a day is short, medium or long. -/
theorem pauses_ofDate (pauses : List GcPause) (date : Date) :
    (ofDate pauses date).pauses =
      pauses.countP (fun pause =>
        pause.date.date == date && pause.milliseconds ≤ 100) +
      (ofDate pauses date).mediumPauses + (ofDate pauses date).longPauses := by
  simp only [ofDate]
  -- Each pause raises the count of its day and one of the three others.
  induction pauses with
  | nil => rfl
  | cons pause pauses ih =>
      simp only [List.countP_cons, ih]
      by_cases sameDay : pause.date.date = date
      · simp only [sameDay, beq_self_eq_true, Bool.true_and, Bool.and_eq_true,
          decide_eq_true_eq]
        split_ifs <;> omega
      · simp [sameDay]

end GcDay

/-! ## All days -/

/-- The counters of a day have counted the pauses of the day and no others. -/
theorem countsByDay_eq (pauses : List GcPause) :
    countsByDay pauses = (pauses.map (·.date.dayText)).eraseDups.map fun day =>
      (day, (pauses.filter (·.date.dayText == day)).foldl GcCounts.add {}) :=
  Tally.ofItems_eq_groups ..

theorem gcDays_eq_map_ofText (pauses : List GcPause) :
    gcDays pauses =
      (((pauses.map (·.date.dayText)).eraseDups).mergeSort
        fun first second => precedes first.toList second.toList).map
          (GcDay.ofText pauses) := by
  -- Counts go with their days, by which alone the lines are sorted.
  have sorted (days : List String) (countsOf : String → GcCounts) :
      (days.mergeSort fun first second =>
          precedes first.toList second.toList).map
            (fun day => (day, countsOf day)) =
        (days.map fun day => (day, countsOf day)).mergeSort
          fun first second => precedes first.1.toList second.1.toList :=
    List.map_mergeSort fun _ _ _ _ => rfl
  rw [gcDays, countsByDay_eq, ← sorted, List.map_map]
  apply List.map_congr_left
  intro day _
  simp only [Function.comp_apply, GcCounts.foldl_add, Nat.zero_add]
  rfl

/-- The days with a pause in chronological order. -/
def gcDates (pauses : List GcPause) : List Date :=
  ((pauses.map (·.date.date)).eraseDups).mergeSort fun first second =>
    first.number ≤ second.number

theorem gcDates_perm_eraseDups (pauses : List GcPause) :
    (gcDates pauses).Perm (pauses.map (·.date.date)).eraseDups :=
  List.mergeSort_perm _ _

theorem mem_gcDates {date : Date} :
    date ∈ gcDates pauses ↔ ∃ pause ∈ pauses, pause.date.date = date := by
  rw [(gcDates_perm_eraseDups pauses).mem_iff, List.mem_eraseDups, List.mem_map]

theorem nodup_gcDates (pauses : List GcPause) : (gcDates pauses).Nodup :=
  (gcDates_perm_eraseDups pauses).nodup_iff.mpr (nodup_eraseDups _)

theorem pairwise_gcDates (pauses : List GcPause) :
    (gcDates pauses).Pairwise (·.number < ·.number) := by
  have sorted : (gcDates pauses).Pairwise (·.number ≤ ·.number) :=
    List.pairwise_mergeSort' (Order.Preimage Date.number (· ≤ ·)) _
  apply (sorted.and (nodup_gcDates pauses)).imp
  rintro first second ⟨atMost, distinct⟩
  exact Nat.lt_of_le_of_ne atMost fun same => distinct (Date.eq_of_number_eq same)

theorem count_gcDates {pause : GcPause} (member : pause ∈ pauses) :
    (gcDates pauses).count pause.date.date = 1 := by
  have listed : pause.date.date ∈ gcDates pauses :=
    mem_gcDates.mpr ⟨pause, member, rfl⟩
  exact List.count_eq_one_of_mem (nodup_gcDates pauses) listed

theorem gcDates_eq_of_perm (same : pauses.Perm others) :
    gcDates pauses = gcDates others := by
  apply Date.eq_of_increasing (pairwise_gcDates pauses) (pairwise_gcDates others)
  intro date
  simp only [mem_gcDates, same.mem_iff]

/-- In years of four digits the summary has the days in chronological order. -/
theorem gcDays_eq (modern : ∀ pause ∈ pauses, pause.date.IsModern) :
    gcDays pauses = (gcDates pauses).map (GcDay.ofDate pauses) := by
  have texts : pauses.map (·.date.dayText) =
      (pauses.map (·.date.date)).map Date.text := by
    rw [List.map_map]
    exact List.map_congr_left fun pause member =>
      DateTime.dayText_eq (modern pause member)
  -- Neither erasing repetitions nor sorting tells a day from its text.
  have sorted : (gcDates pauses).map Date.text =
      ((pauses.map (·.date.dayText)).eraseDups).mergeSort fun first second =>
        precedes first.toList second.toList := by
    rw [texts, eraseDups_map Date.text_injective, gcDates]
    apply List.map_mergeSort
    intro first _ second _
    rw [Date.text, Date.text, String.toList_ofList, String.toList_ofList,
      Bool.eq_iff_iff, decide_eq_true_eq, Date.precedes_textChars]
  rw [gcDays_eq_map_ofText, ← sorted, List.map_map]
  exact List.map_congr_left fun date _ => GcDay.ofText_text modern date

theorem gcDays_eq_of_perm (modern : ∀ pause ∈ pauses, pause.date.IsModern)
    (same : pauses.Perm others) :
    gcDays pauses = gcDays others := by
  have modernToo : ∀ pause ∈ others, pause.date.IsModern :=
    fun pause member => modern pause (same.mem_iff.mpr member)
  have lines : GcDay.ofDate pauses = GcDay.ofDate others :=
    funext (GcDay.ofDate_perm same)
  rw [gcDays_eq modern, gcDays_eq modernToo, gcDates_eq_of_perm same, lines]

/-! ## Totals -/

/-- What all days count is what the pauses count. -/
theorem sum_gcDays (ofDay : GcDay → Nat) (counts : GcPause → Bool)
    (counted : ∀ day, ofDay (GcDay.ofText pauses day) =
      (pauses.filter (·.date.dayText == day)).countP counts) :
    ((gcDays pauses).map ofDay).sum = pauses.countP counts := by
  have days := (List.mergeSort_perm ((pauses.map (·.date.dayText)).eraseDups)
    fun first second => precedes first.toList second.toList).map
      (ofDay ∘ GcDay.ofText pauses)
  rw [gcDays_eq_map_ofText, List.map_map, days.sum_eq,
    ← countP_groups (·.date.dayText) pauses counts]
  exact congrArg List.sum (List.map_congr_left fun day _ => counted day)

theorem sum_pauses_gcDays (pauses : List GcPause) :
    ((gcDays pauses).map (·.pauses)).sum = pauses.length := by
  have every (items : List GcPause) :
      items.countP (fun _ => true) = items.length :=
    List.countP_eq_length.mpr fun _ _ => rfl
  rw [sum_gcDays (·.pauses) (fun _ => true) fun day => (every _).symm, every]

theorem sum_mediumPauses_gcDays (pauses : List GcPause) :
    ((gcDays pauses).map (·.mediumPauses)).sum = pauses.countP (·.isMedium) :=
  sum_gcDays (·.mediumPauses) (·.isMedium) fun _ => rfl

theorem sum_longPauses_gcDays (pauses : List GcPause) :
    ((gcDays pauses).map (·.longPauses)).sum = pauses.countP (·.isLong) :=
  sum_gcDays (·.longPauses) (·.isLong) fun _ => rfl

end ClusterLog
