import ClusterLog.Proofs.Calendar.Order
import ClusterLog.Proofs.Computation
import ClusterLog.Window

/-!
# Report windows of hosts

The window of a host is computed from the host's own range.  It starts the
asked number of days before the last entry exactly if the log goes back that
far; else it starts with the log.
-/

namespace ClusterLog

open Calendar

/-! ## Association lists -/

section Lookup

variable {Given Made : Type}
variable {step : String × Given → Except Failure (String × Made)}
variable {compute : Given → Except Failure Made}
variable {items : List (String × Given)} {results : List (String × Made)}
variable {key : String}

/-- A value that is computed for each key is found where its key is. -/
theorem lookup_mapM
    (steps : ∀ key given, step (key, given) = do
      return (key, ← compute given))
    (succeeds : items.mapM step = .ok results) :
    (items.lookup key).map compute = (results.lookup key).map Except.ok := by
  induction items generalizing results with
  | nil =>
      cases succeeds
      rfl
  | cons item items ih =>
      rcases item with ⟨known, given⟩
      rw [List.mapM_cons, steps] at succeeds
      simp only [bind_eq_ok, pure_eq_ok] at succeeds
      rcases succeeds with ⟨_, ⟨made, computes, rfl⟩, others, rest, rfl⟩
      rw [List.lookup_cons, List.lookup_cons]
      cases same : key == known with
      | true => exact congrArg some computes
      | false => exact ih rest

theorem lookup_mapM_eq_some_iff
    (steps : ∀ key given, step (key, given) = do
      return (key, ← compute given))
    (succeeds : items.mapM step = .ok results) {made : Made} :
    results.lookup key = some made ↔
      ∃ given, items.lookup key = some given ∧ compute given = .ok made := by
  have found : results.lookup key = some made ↔
      (results.lookup key).map (Except.ok : Made → Except Failure Made) =
        some (.ok made) := by
    cases results.lookup key <;> simp
  rw [found, ← lookup_mapM steps succeeds, Option.map_eq_some_iff]

/-- A value is found for the keys for which one was given. -/
theorem isSome_lookup_mapM
    (steps : ∀ key given, step (key, given) = do
      return (key, ← compute given))
    (succeeds : items.mapM step = .ok results) :
    (results.lookup key).isSome = (items.lookup key).isSome := by
  have same := congrArg Option.isSome (@lookup_mapM _ _ _ _ _ _ key steps succeeds)
  rw [Option.isSome_map, Option.isSome_map] at same
  exact same.symm

end Lookup

/-! ## Windows -/

theorem DateTime.later_eq_left_iff {first second : DateTime} :
    DateTime.later first second = first ↔ ¬ first < second := by
  unfold DateTime.later
  split
  · rename_i less
    simp only [less, not_true_eq_false, iff_false]
    rintro rfl
    exact Nat.lt_irrefl _ less
  · rename_i noLess
    simp only [noLess, not_false_eq_true]

theorem DateTime.le_later (first second : DateTime) :
    second ≤ DateTime.later first second := by
  unfold DateTime.later
  split
  · exact Nat.le_refl _
  · rename_i noLess
    exact Nat.le_of_not_lt noLess

theorem DateTime.later_mono {first second : DateTime}
    (atMost : first ≤ second) (bound : DateTime) :
    DateTime.later first bound ≤ DateTime.later second bound := by
  rw [DateTime.later]
  split
  · exact DateTime.le_later second bound
  · rw [DateTime.later]
    split
    · rename_i less
      exact Nat.le_trans atMost (Nat.le_of_lt less)
    · exact atMost

namespace DateRange

variable {range : DateRange} {days : Int}

theorem lookback_eq_ok_iff {start : DateTime} :
    range.lookback days = .ok start ↔
      range.last.minusDays? days = some start := by
  unfold lookback
  cases range.last.minusDays? days <;> simp

theorem windowStart_eq_ok_iff {cutoff : DateTime} :
    range.windowStart days = .ok cutoff ↔
      ∃ start, range.last.minusDays? days = some start ∧
        DateTime.later start range.first = cutoff := by
  simp only [windowStart, bind_eq_ok, pure_eq_ok, lookback_eq_ok_iff]

theorem isTruncated_eq_ok_iff {truncated : Bool} :
    range.isTruncated days = .ok truncated ↔
      ∃ start, range.last.minusDays? days = some start ∧
        (!decide (start < range.first)) = truncated := by
  simp only [isTruncated, bind_eq_ok, pure_eq_ok, lookback_eq_ok_iff]

end DateRange

variable {ranges : LogRanges} {days : Int} {host : String}

/-- The start of a host's window. -/
theorem lookup_reportWindow {window : ReportWindow}
    (covers : reportWindow ranges days = .ok window) {cutoff : DateTime} :
    window.lookup host = some cutoff ↔
      ∃ range start,
        ranges.lookup host = some range ∧
        range.last.minusDays? days = some start ∧
        DateTime.later start range.first = cutoff := by
  unfold reportWindow at covers
  split at covers
  · cases covers
  · rw [lookup_mapM_eq_some_iff (fun _ _ => rfl) covers]
    simp only [DateRange.windowStart_eq_ok_iff, exists_and_left]

/-- A host has a window exactly if it has a range. -/
theorem isSome_lookup_reportWindow {window : ReportWindow}
    (covers : reportWindow ranges days = .ok window) :
    (window.lookup host).isSome = (ranges.lookup host).isSome := by
  unfold reportWindow at covers
  split at covers
  · cases covers
  · exact isSome_lookup_mapM (fun _ _ => rfl) covers

/-- A window that goes back further: the same hosts have a start in it, and none
of the starts is later. -/
structure ReportWindow.IsWider (wider window : ReportWindow) : Prop where
  hosts : ∀ host, (wider.lookup host).isSome = (window.lookup host).isSome
  starts : ∀ {host earlier start},
    wider.lookup host = some earlier → window.lookup host = some start →
      earlier ≤ start

/-- The windows of more days go back further, also those of a log whose first
entry is later than its last one. -/
theorem reportWindow_isWider {more : Int} {window wider : ReportWindow}
    (atMost : days ≤ more)
    (covers : reportWindow ranges days = .ok window)
    (coversMore : reportWindow ranges more = .ok wider) :
    wider.IsWider window where
  hosts host := by
    rw [isSome_lookup_reportWindow covers,
      isSome_lookup_reportWindow coversMore]
  starts {host earlier start} there here := by
    rcases (lookup_reportWindow covers).mp here with
      ⟨range, back, known, goesBack, rfl⟩
    rcases (lookup_reportWindow coversMore).mp there with
      ⟨same, further, knownToo, goesFurther, rfl⟩
    obtain rfl : range = same := Option.some.inj (known.symm.trans knownToo)
    exact DateTime.later_mono
      (DateTime.minusDays?_antitone atMost goesBack goesFurther) range.first

/-- Whether the log of a host is cut. -/
theorem lookup_truncatedHosts {truncated : List (String × Bool)}
    (covers : truncatedHosts ranges days = .ok truncated) {cut : Bool} :
    truncated.lookup host = some cut ↔
      ∃ range start,
        ranges.lookup host = some range ∧
        range.last.minusDays? days = some start ∧
        (!decide (start < range.first)) = cut := by
  unfold truncatedHosts at covers
  rw [lookup_mapM_eq_some_iff (fun _ _ => rfl) covers]
  simp only [DateRange.isTruncated_eq_ok_iff, exists_and_left]

/-- The log of a host is cut exactly if its window starts the asked number of
days before its last entry. -/
theorem isTruncated_iff {window : ReportWindow}
    {truncated : List (String × Bool)}
    (covers : reportWindow ranges days = .ok window)
    (cuts : truncatedHosts ranges days = .ok truncated) :
    (truncated.lookup host).getD false = true ↔
      ∃ range cutoff,
        ranges.lookup host = some range ∧
        range.last.minusDays? days = some cutoff ∧
        window.lookup host = some cutoff := by
  have cut : (truncated.lookup host).getD false = true ↔
      truncated.lookup host = some true := by
    cases truncated.lookup host <;> simp
  rw [cut, lookup_truncatedHosts cuts]
  -- The window starts at the later one of the two dates: at the cutoff exactly
  -- if the first entry is not later.
  constructor
  · rintro ⟨range, start, known, back, noLess⟩
    refine ⟨range, start, known, back, (lookup_reportWindow covers).mpr
      ⟨range, start, known, back, DateTime.later_eq_left_iff.mpr ?_⟩⟩
    simpa using noLess
  · rintro ⟨range, cutoff, known, back, starts⟩
    rcases (lookup_reportWindow covers).mp starts with
      ⟨same, start, known', back', latest⟩
    obtain rfl : range = same := Option.some.inj (known.symm.trans known')
    obtain rfl : cutoff = start := Option.some.inj (back.symm.trans back')
    refine ⟨range, cutoff, known, back, ?_⟩
    simpa using DateTime.later_eq_left_iff.mp latest

end ClusterLog
