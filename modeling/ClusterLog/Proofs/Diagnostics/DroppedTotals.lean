import ClusterLog.Diagnostics.DroppedMessages
import ClusterLog.Proofs.Diagnostics.Tally
import ClusterLog.Proofs.StableOrder
import Mathlib.Algebra.Ring.Int.Defs
import Mathlib.Data.Finset.Card
import Mathlib.Data.Finset.Image

/-!
# Totals of dropped messages

The totals of dropped messages have one line for each host, which adds up the
reports of that host and no others.  Most drops come first, and among hosts with
equally many drops the one with the earlier first report.  No report is lost or
counted twice, and the order of the reports matters for the order of the lines
only.
-/

namespace ClusterLog

open Calendar Diagnostics

variable {reports others : List DroppedReport}

/-! ## Hours -/

/-- The hours of points in time are as many as the days and hours that they are
on. -/
theorem length_hourStarts (times : List DateTime) :
    ((times.map (·.hourStart)).eraseDups).length =
      (times.map fun time => (time.date, time.hour)).toFinset.card := by
  let starts := (times.map (·.hourStart)).toFinset
  let hourOf (time : DateTime) : Date × Nat := (time.date, time.hour)
  -- A beginning of an hour has no other parts than its day and its hour.
  have unique : Set.InjOn hourOf starts := by
    intro start member other memberToo same
    rcases List.mem_map.mp (List.mem_toFinset.mp member) with ⟨time, -, rfl⟩
    rcases List.mem_map.mp (List.mem_toFinset.mp memberToo) with
      ⟨otherTime, -, rfl⟩
    obtain ⟨date, hour⟩ := Prod.mk.inj same
    simp only [DateTime.hourStart] at date hour ⊢
    simp only [date, hour]
  calc
    ((times.map (·.hourStart)).eraseDups).length =
        ((times.map (·.hourStart)).eraseDups).toFinset.card :=
      (List.toFinset_card_of_nodup (nodup_eraseDups _)).symm
    _ = starts.card := by
      congr 1
      ext start
      simp [starts, List.mem_eraseDups]
    _ = (starts.image hourOf).card :=
      (Finset.card_image_of_injOn unique).symm
    _ = (times.map hourOf).toFinset.card := by
      congr 1
      ext hour
      simp [starts, hourOf, DateTime.hourStart]

/-! ## One host -/

namespace DroppedTotals

/-- The totals say what the reports of their host add up to. -/
structure AddUp (reports : List DroppedReport) (totals : DroppedTotals) :
    Prop where
  messages : totals.messages = reports.countP (·.host == totals.host)
  internalDrops : totals.internalDrops =
    ((reports.filter (·.host == totals.host)).map (·.internalDrops)).sum
  crossNodeDrops : totals.crossNodeDrops =
    ((reports.filter (·.host == totals.host)).map (·.crossNodeDrops)).sum
  hours : totals.hoursWithDrops =
    ((reports.filter (·.host == totals.host)).map fun report =>
      (report.date.date, report.date.hour)).toFinset.card

/-- The totals of the reports of one host among those of all hosts. -/
def ofHost (reports : List DroppedReport) (host : String) : DroppedTotals :=
  ofReports host (reports.filter (·.host == host))

/-- Amounts that are added one after the other. -/
theorem foldl_amount (amount : DroppedReport → Int)
    (reports : List DroppedReport) :
    reports.foldl (fun sum report => sum + amount report) 0 =
      (reports.map amount).sum := by
  rw [List.sum_eq_foldl, List.foldl_map]

theorem ofHost_addUp (reports : List DroppedReport) (host : String) :
    (ofHost reports host).AddUp reports where
  messages := List.countP_eq_length_filter.symm
  internalDrops := foldl_amount (·.internalDrops) _
  crossNodeDrops := foldl_amount (·.crossNodeDrops) _
  hours := by
    have hours := length_hourStarts
      ((reports.filter (·.host == host)).map (·.date))
    rw [List.map_map, List.map_map] at hours
    exact hours

theorem ofHost_perm (same : reports.Perm others) (host : String) :
    ofHost reports host = ofHost others host := by
  have group := same.filter (·.host == host)
  simp only [ofHost, ofReports, foldl_amount, group.length_eq, mk.injEq, true_and]
  exact ⟨(group.map _).sum_eq, (group.map _).sum_eq,
    (eraseDups_perm (group.map _)).length_eq⟩

end DroppedTotals

/-! ## All hosts -/

/-- The totals of all hosts, in the order of their first reports. -/
def hostTotals (reports : List DroppedReport) : List DroppedTotals :=
  ((reports.map (·.host)).eraseDups).map (DroppedTotals.ofHost reports)

/-- Reports that are put behind the others of their host one after the other make
the groups of the hosts. -/
theorem reportsByHost_eq (reports : List DroppedReport) :
    reportsByHost reports =
      ((reports.map (·.host)).eraseDups).map fun host =>
        (host, reports.filter (·.host == host)) := by
  have appended (ofHost : List DroppedReport) :
      ofHost.foldl (fun before report => before ++ [report]) [] = ofHost := by
    rw [List.foldl_append_eq_append, List.nil_append, ← List.flatMap_def,
      List.flatMap_singleton']
  rw [reportsByHost, Tally.ofItems_eq_groups, Tally.groups]
  simp only [Tally.valueOf, appended]

theorem map_reportsByHost (reports : List DroppedReport) :
    (reportsByHost reports).map
        (fun (host, ofHost) => DroppedTotals.ofReports host ofHost) =
      hostTotals reports := by
  rw [reportsByHost_eq, List.map_map]
  rfl

theorem droppedTotals_perm_hostTotals (reports : List DroppedReport) :
    (droppedTotals reports).Perm (hostTotals reports) := by
  rw [droppedTotals, map_reportsByHost]
  exact List.mergeSort_perm _ _

theorem map_host_hostTotals (reports : List DroppedReport) :
    (hostTotals reports).map (·.host) = (reports.map (·.host)).eraseDups := by
  rw [hostTotals, List.map_map]
  exact List.map_id _

/-- The place of a host's first report. -/
def firstReport (reports : List DroppedReport) (host : String) : Nat :=
  reports.findIdx (·.host == host)

theorem pairwise_hostTotals (reports : List DroppedReport) :
    (hostTotals reports).Pairwise fun first second =>
      firstReport reports first.host < firstReport reports second.host := by
  have places := pairwise_eraseDups (reports.map (·.host))
  rw [← map_host_hostTotals, List.pairwise_map] at places
  apply places.imp
  intro first second before
  simpa [firstReport, List.idxOf, List.findIdx_map, Function.comp_def] using before

theorem hostTotals_perm (same : reports.Perm others) :
    (hostTotals reports).Perm (hostTotals others) := by
  have totals : DroppedTotals.ofHost reports = DroppedTotals.ofHost others :=
    funext (DroppedTotals.ofHost_perm same)
  rw [hostTotals, hostTotals, totals]
  exact (eraseDups_perm (same.map _)).map _

/-- Of two lines the first one has more drops, or as many and the earlier first
report. -/
theorem pairwise_droppedTotals (reports : List DroppedReport) :
    (droppedTotals reports).Pairwise fun first second =>
      second.totalDrops < first.totalDrops ∨
        second.totalDrops = first.totalDrops ∧
          firstReport reports first.host < firstReport reports second.host := by
  have once : (hostTotals reports).Nodup := by
    apply List.Nodup.of_map (·.host)
    rw [map_host_hostTotals]
    exact nodup_eraseDups _
  have sorted := pairwise_mergeSort_of_tie
    (greaterKey_trans DroppedTotals.totalDrops)
    (greaterKey_total DroppedTotals.totalDrops) once
    (pairwise_hostTotals reports)
  rw [droppedTotals, map_reportsByHost]
  apply sorted.imp
  intro first second
  simp only [decide_eq_true_eq]
  rintro ⟨atMost, tie⟩
  rcases Int.lt_or_eq_of_le atMost with fewer | same
  · exact Or.inl fewer
  · exact Or.inr ⟨same, tie (Int.le_of_eq same.symm)⟩

/-- Sums over the lines of all hosts. -/
theorem sum_droppedTotals {Amount : Type} [AddCommMonoid Amount]
    (ofTotals : DroppedTotals → Amount) :
    ((droppedTotals reports).map ofTotals).sum =
      ((reports.map (·.host)).eraseDups.map fun host =>
        ofTotals (DroppedTotals.ofHost reports host)).sum := by
  rw [((droppedTotals_perm_hostTotals reports).map ofTotals).sum_eq, hostTotals,
    List.map_map]
  rfl

/--
The totals of dropped messages have one line for each host of a report, and it
adds up the host's reports.  Most drops come first, and lines with equally many
drops are in the order of their hosts' first reports.  Over all hosts the totals
are those of all reports, and reports in another order give the same lines.
-/
theorem droppedTotals_conserve (reports : List DroppedReport) :
    ((droppedTotals reports).map (·.host)).Nodup ∧
    (∀ host, host ∈ (droppedTotals reports).map (·.host) ↔
      ∃ report ∈ reports, report.host = host) ∧
    (∀ totals ∈ droppedTotals reports, totals.AddUp reports) ∧
    ((droppedTotals reports).Pairwise fun first second =>
      second.totalDrops < first.totalDrops ∨
        second.totalDrops = first.totalDrops ∧
          firstReport reports first.host < firstReport reports second.host) ∧
    ((droppedTotals reports).map (·.messages)).sum = reports.length ∧
    ((droppedTotals reports).map (·.internalDrops)).sum =
      (reports.map (·.internalDrops)).sum ∧
    ((droppedTotals reports).map (·.crossNodeDrops)).sum =
      (reports.map (·.crossNodeDrops)).sum ∧
    ∀ others, reports.Perm others →
      (droppedTotals reports).Perm (droppedTotals others) := by
  have lines := droppedTotals_perm_hostTotals reports
  have hosts := lines.map (·.host)
  rw [map_host_hostTotals] at hosts
  refine ⟨hosts.nodup_iff.mpr (nodup_eraseDups _), ?_, ?_,
    pairwise_droppedTotals reports, ?_, ?_, ?_, ?_⟩
  · intro host
    rw [hosts.mem_iff, List.mem_eraseDups, List.mem_map]
  · intro totals member
    rcases List.mem_map.mp (lines.mem_iff.mp member) with ⟨host, -, rfl⟩
    exact DroppedTotals.ofHost_addUp reports host
  · rw [sum_droppedTotals]
    simpa [DroppedTotals.ofHost, DroppedTotals.ofReports] using
      countP_groups (·.host) reports fun _ => true
  · rw [sum_droppedTotals]
    simpa only [DroppedTotals.ofHost, DroppedTotals.ofReports,
      DroppedTotals.foldl_amount] using
      sum_groups (·.host) reports (·.internalDrops)
  · rw [sum_droppedTotals]
    simpa only [DroppedTotals.ofHost, DroppedTotals.ofReports,
      DroppedTotals.foldl_amount] using
      sum_groups (·.host) reports (·.crossNodeDrops)
  · intro others same
    exact (lines.trans (hostTotals_perm same)).trans
      (droppedTotals_perm_hostTotals others).symm

/-- Reports of two hosts that take turns. -/
def turns : List DroppedReport :=
  let date : Date := ⟨2019, 11, 5, by decide⟩
  [⟨"READ", 1, 0, ⟨date, 7, 15, 40, by decide⟩, "b"⟩,
    ⟨"READ", 2, 3, ⟨date, 7, 25, 40, by decide⟩, "a"⟩,
    ⟨"READ", 3, 1, ⟨date, 7, 35, 40, by decide⟩, "b"⟩]

theorem droppedTotals_conserve_turns :
    (∃ totals ∈ droppedTotals turns,
      totals.host = "b" ∧ totals.messages = 2 ∧ totals.internalDrops = 4 ∧
        totals.crossNodeDrops = 1 ∧ totals.hoursWithDrops = 1) ∧
    (droppedTotals turns).Perm (droppedTotals turns.reverse) := by
  obtain ⟨-, hosts, addUp, -, -, -, -, perm⟩ := droppedTotals_conserve turns
  constructor
  · have present : "b" ∈ (droppedTotals turns).map (·.host) :=
      (hosts "b").mpr ⟨_, List.mem_cons_self, rfl⟩
    rcases List.mem_map.mp present with ⟨totals, member, host⟩
    have sums := addUp totals member
    refine ⟨totals, member, host, ?_, ?_, ?_, ?_⟩
    · rw [sums.messages, host]
      decide
    · rw [sums.internalDrops, host]
      decide
    · rw [sums.crossNodeDrops, host]
      decide
    · rw [sums.hours, host]
      decide
  · exact perm _ (List.reverse_perm turns).symm

end ClusterLog
