import ClusterLog.Proofs.Calendar.Order
import ClusterLog.Proofs.Ingest.Accounting
import ClusterLog.Proofs.Ingest.SavedRanges
import ClusterLog.Proofs.Window

/-!
# Ranges of chronological logs

The range of a host begins with the first dated entry of any of its files and
ends with the last document of any of them.  Where the dated entries of each
file stand in the order of their dates, the range therefore brackets all
documents of the host, and its end is the date of the latest one, which lies
inside every report window of a day or more.
-/

namespace ClusterLog

open Calendar

/-! ## Extreme dates -/

theorem DateTime.le_later_left (first second : DateTime) :
    first ≤ DateTime.later first second := by
  rw [DateTime.later]
  split
  · rename_i less
    exact Nat.le_of_lt less
  · exact Nat.le_refl _

theorem DateTime.earlier_le_left (first second : DateTime) :
    DateTime.earlier first second ≤ first := by
  rw [DateTime.earlier]
  split
  · rename_i less
    exact Nat.le_of_lt less
  · exact Nat.le_refl _

theorem DateTime.earlier_le (first second : DateTime) :
    DateTime.earlier first second ≤ second := by
  rw [DateTime.earlier]
  split
  · exact Nat.le_refl _
  · rename_i noLess
    exact Nat.le_of_not_lt noLess

/-- An extreme date is on the same side of all dates as each choice is of the
dates it is made between. -/
theorem extremeDate_bounds {choose : DateTime → DateTime → DateTime}
    {bounds : DateTime → DateTime → Prop}
    (refl : ∀ date, bounds date date)
    (trans : ∀ {first second third},
      bounds first second → bounds second third → bounds first third)
    (left : ∀ first second, bounds (choose first second) first)
    (right : ∀ first second, bounds (choose first second) second)
    {dates : List DateTime} {extreme : DateTime}
    (found : extremeDate choose dates = some extreme) :
    ∀ date ∈ dates, bounds extreme date := by
  have fold : ∀ (others : List DateTime) (first : DateTime),
      ∀ date ∈ first :: others, bounds (others.foldl choose first) date := by
    intro others
    induction others with
    | nil =>
        intro first date member
        rw [List.mem_singleton.mp member]
        exact refl first
    | cons second others ih =>
        intro first date member
        have chosen := ih (choose first second) _ List.mem_cons_self
        rcases List.mem_cons.mp member with rfl | inside
        · exact trans chosen (left date second)
        · rcases List.mem_cons.mp inside with rfl | behind
          · exact trans chosen (right first date)
          · exact ih _ date (List.mem_cons_of_mem _ behind)
  cases dates with
  | nil => cases found
  | cons first others =>
      cases found
      exact fold others first

theorem le_of_extremeDate_earlier {dates : List DateTime} {extreme : DateTime}
    (found : extremeDate DateTime.earlier dates = some extreme) :
    ∀ date ∈ dates, extreme ≤ date :=
  @extremeDate_bounds _ (· ≤ ·) (fun _ => Nat.le_refl _) Nat.le_trans
    DateTime.earlier_le_left DateTime.earlier_le dates extreme found

theorem le_of_extremeDate_later {dates : List DateTime} {extreme : DateTime}
    (found : extremeDate DateTime.later dates = some extreme) :
    ∀ date ∈ dates, date ≤ extreme :=
  @extremeDate_bounds _ (fun upper lower => lower ≤ upper)
    (fun _ => Nat.le_refl _) (fun upper lower => Nat.le_trans lower upper)
    DateTime.le_later_left DateTime.le_later dates extreme found

/-! ## Files -/

/-- The entries with a readable date stand in the order of their dates. -/
def FileReading.IsChronological (file : FileReading) : Prop :=
  (file.entries.filterMap Entry.date?).Pairwise (· ≤ ·)

instance (file : FileReading) : Decidable file.IsChronological :=
  inferInstanceAs (Decidable ((file.entries.filterMap Entry.date?).Pairwise
    (· ≤ ·)))

/-- Whatever dates two documents have, the first one is not later. -/
def Document.PrecedesInTime (document other : Document) : Prop :=
  ∀ date, document.entry.date? = some date →
    ∀ otherDate, other.entry.date? = some otherDate → date ≤ otherDate

namespace FileReading.IsChronological

variable {file : FileReading} {config : IndexConfig} {host : String}

theorem pairwise (chronological : file.IsChronological) :
    file.entries.Pairwise fun entry other =>
      ∀ date, entry.date? = some date →
        ∀ otherDate, other.date? = some otherDate → date ≤ otherDate :=
  List.pairwise_filterMap.mp chronological

/-- No document is earlier than the first dated entry of its file. -/
theorem first_le (chronological : file.IsChronological) {first : DateTime}
    (begins : (file.entries.find? Entry.isDated).bind Entry.date? = some first)
    {document : Document}
    (member : document ∈ config.documentsOf host file.entries)
    {date : DateTime} (dated : document.entry.date? = some date) :
    first ≤ date := by
  rcases Option.bind_eq_some_iff.mp begins with ⟨opening, finds, opens⟩
  rcases List.find?_eq_some_iff_append.mp finds with
    ⟨-, undated, others, split, allUndated⟩
  rcases IndexConfig.exists_entry_of_mem_documentsOf member with
    ⟨entry, inside, isDated, rfl⟩
  have pairs := chronological.pairwise
  rw [split] at inside pairs
  have behind := (List.pairwise_append.mp pairs).2.1
  rcases List.mem_append.mp inside with before | later
  · have contrary := allUndated entry before
    rw [isDated] at contrary
    cases contrary
  · rcases List.mem_cons.mp later with rfl | after
    · have same : entry.date? = some date := dated
      rw [opens] at same
      cases same
      exact Nat.le_refl _
    · exact List.rel_of_pairwise_cons behind after first opens date dated

/-- The documents of a file stand in the order of their dates. -/
theorem documentsOf_pairwise (chronological : file.IsChronological) :
    (config.documentsOf host file.entries).Pairwise
      Document.PrecedesInTime := by
  rw [IndexConfig.documentsOf]
  refine List.Pairwise.filterMap _ ?_ chronological.pairwise
  intro entry other inOrder document stands otherDocument standsOther
  have here := config.classify_spec host entry
  have there := config.classify_spec host other
  cases kind : config.classify host entry <;>
    cases otherKind : config.classify host other <;>
    simp only [kind, otherKind, EntryClass.document?, reduceCtorEq,
      Option.some.injEq] at here there stands standsOther
  rcases here with ⟨-, rfl⟩
  rcases there with ⟨-, rfl⟩
  cases stands
  cases standsOther
  exact inOrder

/-- No document is later than the last one of its file. -/
theorem le_last (chronological : file.IsChronological) {last : DateTime}
    (ends : (config.documentsOf host file.entries).getLast?.bind
      (·.entry.date?) = some last)
    {document : Document}
    (member : document ∈ config.documentsOf host file.entries)
    {date : DateTime} (dated : document.entry.date? = some date) :
    date ≤ last := by
  rcases Option.bind_eq_some_iff.mp ends with ⟨final, isLast, ends⟩
  rcases List.getLast?_eq_some_iff.mp isLast with ⟨front, split⟩
  have pairs : (config.documentsOf host file.entries).Pairwise
      Document.PrecedesInTime :=
    chronological.documentsOf_pairwise
  rw [split] at member pairs
  rcases List.mem_append.mp member with before | here
  · exact (List.pairwise_append.mp pairs).2.2 document before final
      List.mem_cons_self date dated last ends
  · rw [List.mem_singleton.mp here, ends] at dated
    cases dated
    exact Nat.le_refl _

end FileReading.IsChronological

/-! ## Nodes -/

/-- The dates of documents lie in a range, and one of them is its end. -/
structure DateRange.Brackets (range : DateRange) (documents : List Document) :
    Prop where
  covers : ∀ document ∈ documents, ∃ date,
    document.entry.date? = some date ∧ range.first ≤ date ∧ date ≤ range.last
  attains : ∃ document ∈ documents, document.entry.date? = some range.last

namespace NodeReading

variable {config : IndexConfig} {reading : NodeReading} {range : DateRange}

/-- The range of a node with chronological logs brackets its documents. -/
theorem range?_brackets
    (chronological : ∀ file ∈ reading.files, file.IsChronological)
    (found : reading.range? config = some range) :
    range.Brackets (reading.documents config) := by
  rw [range?] at found
  split at found
  · rename_i first last begins ends
    cases found
    constructor
    · intro document member
      rcases List.mem_flatMap.mp member with ⟨file, inside, written⟩
      rcases IndexConfig.exists_date_of_mem_documentsOf written with
        ⟨date, dated, -⟩
      have nonempty := List.ne_nil_of_mem written
      have hasFirst := IndexConfig.firstDate_isSome_of_documents nonempty
      have hasLast := IndexConfig.lastDate_isSome_iff.mpr nonempty
      rcases Option.isSome_iff_exists.mp hasFirst with ⟨opening, opens⟩
      rcases Option.isSome_iff_exists.mp hasLast with ⟨final, closes⟩
      refine ⟨date, dated, ?_, ?_⟩
      · have earliest := le_of_extremeDate_earlier begins opening
          (List.mem_filterMap.mpr ⟨file, inside, opens⟩)
        exact Nat.le_trans earliest
          ((chronological file inside).first_le opens written dated)
      · have latest := le_of_extremeDate_later ends final
          (List.mem_filterMap.mpr ⟨file, inside, closes⟩)
        exact Nat.le_trans
          ((chronological file inside).le_last closes written dated) latest
    · have member := mem_of_extremeDate DateTime.later_eq_or ends
      rcases List.mem_filterMap.mp member with ⟨file, inside, closes⟩
      rcases Option.bind_eq_some_iff.mp closes with ⟨final, isLast, dated⟩
      exact ⟨final, List.mem_flatMap.mpr
        ⟨file, inside, List.mem_of_getLast? isLast⟩, dated⟩
  · cases found

end NodeReading

/-! ## Clusters -/

/-- The documents of a host. -/
def ofHost (documents : List Document) (host : String) : List Document :=
  documents.filter (·.host == host)

theorem mem_ofHost {documents : List Document} {host : String}
    {document : Document} :
    document ∈ ofHost documents host ↔
      document ∈ documents ∧ document.host = host := by
  simp [ofHost]

/-- The range that covers two brackets is one. -/
theorem DateRange.Brackets.cover {left right : DateRange}
    {documents others : List Document} (brackets : left.Brackets documents)
    (bracketsOthers : right.Brackets others) :
    (left.cover right).Brackets (documents ++ others) where
  covers := by
    intro document member
    rcases List.mem_append.mp member with inside | inside
    · rcases brackets.covers document inside with ⟨date, dated, lower, upper⟩
      exact ⟨date, dated,
        Nat.le_trans (DateTime.earlier_le_left _ _) lower,
        Nat.le_trans upper (DateTime.le_later_left _ _)⟩
    · rcases bracketsOthers.covers document inside with
        ⟨date, dated, lower, upper⟩
      exact ⟨date, dated,
        Nat.le_trans (DateTime.earlier_le _ _) lower,
        Nat.le_trans upper (DateTime.le_later _ _)⟩
  attains := by
    rcases DateTime.later_eq_or left.last right.last with same | same
    · rcases brackets.attains with ⟨document, member, dated⟩
      refine ⟨document, List.mem_append_left _ member, ?_⟩
      rw [dated, DateRange.cover, same]
    · rcases bracketsOthers.attains with ⟨document, member, dated⟩
      refine ⟨document, List.mem_append_right _ member, ?_⟩
      rw [dated, DateRange.cover, same]

/-- The order of documents does not matter. -/
theorem DateRange.Brackets.congr {range : DateRange}
    {documents others : List Document} (brackets : range.Brackets documents)
    (same : ∀ document, document ∈ others ↔ document ∈ documents) :
    range.Brackets others where
  covers document member := brackets.covers document ((same document).mp member)
  attains := by
    rcases brackets.attains with ⟨document, member, dated⟩
    exact ⟨document, (same document).mpr member, dated⟩

namespace LogRanges

/-- Each range brackets the documents of its host, and a host without a range
has none. -/
def Bracket (ranges : LogRanges) (documents : List Document) : Prop :=
  ∀ host, match ranges.lookup host with
    | some range => range.Brackets (ofHost documents host)
    | none => ofHost documents host = []

theorem lookup_map {ranges : LogRanges} {change : String → DateRange → DateRange}
    {host : String} :
    (ranges.map fun one => (one.1, change one.1 one.2)).lookup host =
      (ranges.lookup host).map (change host) := by
  induction ranges with
  | nil => rfl
  | cons one ranges ih =>
      rcases one with ⟨known, range⟩
      rw [List.map_cons, List.lookup_cons, List.lookup_cons]
      by_cases same : host = known
      · subst same
        simp
      · have apart : (host == known) = false := by simpa using same
        simp only [apart]
        exact ih

/-- The range of a host after another range of it. -/
theorem lookup_extend {ranges : LogRanges} {host other : String}
    {range : DateRange} :
    (LogRanges.extend ranges host range).lookup other =
      if other = host then
        some (((ranges.lookup host).map range.cover).getD range)
      else ranges.lookup other := by
  rw [extend]
  split
  · rename_i known
    have changed := @lookup_map ranges
      (fun known before => if known == host then range.cover before else before)
      other
    rw [changed]
    by_cases same : other = host
    · subst same
      rcases List.any_eq_true.mp known with ⟨one, member, found⟩
      have there : ranges.lookup other ≠ none := by
        intro absent
        have apart := List.lookup_eq_none_iff.mp absent one member
        rw [beq_iff_eq.mp found] at apart
        simp at apart
      rcases Option.ne_none_iff_exists'.mp there with ⟨before, has⟩
      simp [has]
    · simp [same]
  · rename_i unknown
    rw [List.lookup_append]
    by_cases same : other = host
    · subst same
      have absent : ranges.lookup other = none := by
        rw [List.lookup_eq_none_iff]
        intro one member
        have apart := List.any_eq_false.mp (Bool.eq_false_iff.mpr unknown) one
          member
        have different : one.1 ≠ other := by simpa using apart
        simpa using different.symm
      simp [absent]
    · have apart : (other == host) = false := by simpa using same
      simp [same, apart, List.lookup_cons]

end LogRanges

namespace NodeReading

variable {config : IndexConfig} {reading : NodeReading} {ranges : LogRanges}
variable {documents : List Document}

/-- All documents of a node are those of its host. -/
theorem ofHost_documents (host : String) :
    ofHost (reading.documents config) host =
      if host = reading.summary.host then reading.documents config else [] := by
  split
  · rename_i same
    apply List.filter_eq_self.mpr
    intro document member
    rw [host_of_mem_documents member]
    simpa using same.symm
  · rename_i apart
    apply List.filter_eq_nil_iff.mpr
    intro document member
    rw [host_of_mem_documents member]
    simpa using Ne.symm apart

/-- One more node with chronological logs keeps the brackets. -/
theorem extendRanges_bracket
    (brackets : ranges.Bracket documents)
    (chronological : ∀ file ∈ reading.files, file.IsChronological) :
    LogRanges.Bracket (extendRanges config ranges reading)
      (documents ++ reading.documents config) := by
  intro host
  rw [extendRanges]
  have earlier := brackets host
  cases found : reading.range? config with
  | none =>
      have nothing : reading.documents config = [] := by
        by_contra nonempty
        have ranged := range?_isSome_iff.mpr nonempty
        rw [found] at ranged
        cases ranged
      rw [nothing, List.append_nil]
      exact earlier
  | some range =>
      have here := range?_brackets chronological found
      have split : ofHost (documents ++ reading.documents config) host =
          ofHost documents host ++ ofHost (reading.documents config) host :=
        List.filter_append _ _
      dsimp only
      rw [LogRanges.lookup_extend, split, ofHost_documents]
      by_cases same : host = reading.summary.host
      · subst same
        rw [if_pos rfl, if_pos rfl]
        cases before : ranges.lookup reading.summary.host with
        | none =>
            rw [before] at earlier
            rw [earlier]
            exact here
        | some old =>
            rw [before] at earlier
            refine (here.cover earlier).congr fun document => ?_
            rw [List.mem_append, List.mem_append, or_comm]
      · rw [if_neg same, if_neg same, List.append_nil]
        exact earlier

/-- The ranges of nodes with chronological logs bracket their documents. -/
theorem foldl_bracket {readings : List NodeReading}
    (brackets : ranges.Bracket documents)
    (chronological : ∀ reading ∈ readings, ∀ file ∈ reading.files,
      file.IsChronological) :
    LogRanges.Bracket (readings.foldl (extendRanges config) ranges)
      (documents ++ readings.flatMap (NodeReading.documents config)) := by
  -- The ranges so far bracket the documents so far, of which each node adds its own.
  induction readings generalizing ranges documents with
  | nil =>
      rw [List.flatMap_nil, List.append_nil]
      exact brackets
  | cons reading readings ih =>
      rw [List.flatMap_cons, ← List.append_assoc]
      refine ih (extendRanges_bracket brackets ?_) ?_
      · exact chronological reading List.mem_cons_self
      · intro other member
        exact chronological other (List.mem_cons_of_mem _ member)

end NodeReading

/-! ## Latest documents -/

/-- A document of a host than which none of the host is later. -/
structure Document.IsLatest (document : Document) (documents : List Document)
    (host : String) : Prop where
  member : document ∈ ofHost documents host
  latest : ∀ other ∈ ofHost documents host, other.PrecedesInTime document

/-- The end of a bracket is the date of the latest document. -/
theorem DateRange.Brackets.date_of_isLatest {range : DateRange}
    {documents : List Document} {host : String}
    (brackets : range.Brackets (ofHost documents host))
    {document : Document} (latest : document.IsLatest documents host) :
    ∃ date, document.entry.date? = some date ∧ range.last ≤ date := by
  rcases brackets.covers document latest.member with ⟨date, dated, -⟩
  rcases brackets.attains with ⟨final, member, ends⟩
  exact ⟨date, dated, latest.latest final member _ ends date dated⟩

/-- A latest document is inside the window of its host, unless all documents of
the host are equally late. -/
theorem isInWindow_of_isLatest {ranges : LogRanges}
    {documents : List Document} {host : String} {range : DateRange}
    (brackets : range.Brackets (ofHost documents host))
    (known : ranges.lookup host = some range) (proper : range.first < range.last)
    {days : Int} {window : ReportWindow} (positive : 1 ≤ days)
    (covers : reportWindow ranges days = .ok window)
    {document : Document} (latest : document.IsLatest documents host) :
    isInWindow window document = .ok true := by
  rw [isInWindow, (mem_ofHost.mp latest.member).2]
  cases opens : window.lookup host with
  | none => rfl
  | some cutoff =>
      rcases (lookup_reportWindow covers).mp opens with
        ⟨same, start, found, back, later⟩
      obtain rfl := Option.some.inj (known.symm.trans found)
      rcases brackets.date_of_isLatest latest with ⟨date, dated, upper⟩
      -- The window opens a number of days before the end, but not before the begin.
      have early : cutoff < range.last := by
        rcases DateTime.later_eq_or start range.first with starts | starts
        · rw [← later, starts]
          exact DateTime.lt_of_minusDays? positive back
        · rw [← later, starts]
          exact proper
      have inside : cutoff < date := Nat.lt_of_lt_of_le early upper
      simp [dated, inside]

/--
After an ingestion of chronological logs the date range of each host brackets
its documents, and its latest documents are inside its window of any number of
days.
-/
theorem FileTree.ranges_bracket_documents {tree after : FileTree}
    {index root : Path} {config : IndexConfig} {summaries : List NodeSummary}
    (returns : tree.ingestCluster index config root = (.ok summaries, after))
    (chronological : ∀ logs ∈ (tree.clusterLogs index root).items,
      ∀ file ∈ logs.files, file.IsChronological) :
    ∃ ranges,
      logRanges summaries = .ok ranges ∧
      ranges.Bracket (after.documentsAt index) ∧
      ∀ host range, ranges.lookup host = some range →
        range.first < range.last →
        ∀ days window, 1 ≤ days → reportWindow ranges days = .ok window →
          ∀ document : Document,
            document.IsLatest (after.documentsAt index) host →
            isInWindow window document = .ok true := by
  rcases ingestCluster_returns returns with
    ⟨started, readings, empties, rfl, sound, logs, rfl⟩
  rcases emptied_eq_ok empties with
    ⟨ready, location, makes, place, noDirectory, rfl⟩
  rw [putStore_putStore place noDirectory,
    documentsAt_of_find? (find?_putStore place noDirectory _), ← logs]
  have documents : Store.documentList {
        documents := some ((readings.map NodeReading.logs).flatMap
          (NodeLogs.documents config)) } =
      readings.flatMap (NodeReading.documents config) := by
    rw [Store.documentList, List.flatMap_map]
    rfl
  rw [documents]
  have inOrder : ∀ reading ∈ readings, ∀ file ∈ reading.files,
      file.IsChronological := by
    intro reading member
    have inside : reading.logs ∈ (tree.clusterLogs index root).items := by
      rw [← logs]
      exact List.mem_map_of_mem member
    exact chronological reading.logs inside
  have none : LogRanges.Bracket [] [] := fun _ => rfl
  have brackets : LogRanges.Bracket
      (readings.foldl (NodeReading.extendRanges config) [])
      (readings.flatMap (NodeReading.documents config)) :=
    NodeReading.foldl_bracket none inOrder
  refine ⟨_, NodeReading.logRangesFrom_eq sound [], brackets, ?_⟩
  intro host range known proper days window positive covers document latest
  have here := brackets host
  rw [known] at here
  exact isInWindow_of_isLatest here known proper positive covers latest

/-! ## Logs of two days -/

namespace TwoDays

/-- Records of two days in the stock layout. -/
def lines : String :=
  "INFO  [main] 2020-01-31 09:30:00,123  A.java:1 - hello\n" ++
  "INFO  [main] 2020-02-01 07:00:00,456  A.java:1 - hello again\n"

/-- A node with one log file. -/
def tree : FileTree where
  nodes := [
    (["cluster"], .directory), (["cluster", "n1"], .directory),
    (["cluster", "n1", "logs"], .directory),
    (["cluster", "n1", "logs", "system.log"],
      .file (lines.toList.map fun c => UInt8.ofNat c.toNat))]

/-- The files when the index is emptied. -/
def emptied : FileTree :=
  tree.set ["logs.db"] (.index { documents := some [] })

theorem tree_emptied : tree.emptied OneNode.index = .ok emptied :=
  rfl

theorem directoriesIn_root :
    emptied.directoriesIn OneNode.root = [OneNode.node] := by
  have place : emptied.locate OneNode.root = some ["cluster"] := rfl
  rw [FileTree.directoriesIn,
    FileTree.below_of_pairwise place (by decide +kernel)]
  decide +kernel

def first : Document :=
  ⟨"n1", "INFO", "A.java:1 - hello", "20200131093000"⟩

def second : Document :=
  ⟨"n1", "INFO", "A.java:1 - hello again", "20200201070000"⟩

/-- The date of the second record. -/
def time : DateTime :=
  ⟨⟨2020, 2, 1, by decide⟩, 7, 0, 0, by decide⟩

theorem date_first : first.entry.date? = some OneNode.time := by
  decide +kernel

theorem date_second : second.entry.date? = some time := by
  decide +kernel

theorem ofHost_both : ofHost [first, second] "n1" = [first, second] := by
  decide

theorem isLatest_second : second.IsLatest [first, second] "n1" where
  member := by decide
  latest := by
    intro other member date dated otherDate otherDated
    rw [date_second] at otherDated
    cases otherDated
    rw [ofHost_both] at member
    rcases List.mem_pair.mp member with rfl | rfl
    · rw [date_first] at dated
      cases dated
      decide
    · rw [date_second] at dated
      cases dated
      decide

theorem clusterLogs_tree :
    let logs := tree.clusterLogs OneNode.index OneNode.root
    logs.failure = none ∧
      logs.items.flatMap (NodeLogs.documents {}) = [first, second] ∧
      ∀ node ∈ logs.items, ∀ file ∈ node.files, file.IsChronological := by
  rw [FileTree.clusterLogs, tree_emptied]
  dsimp only
  rw [directoriesIn_root]
  decide +kernel

theorem returns :
    ∃ summaries after,
      tree.ingestCluster OneNode.index {} OneNode.root =
        (.ok summaries, after) ∧
      after.documentsAt OneNode.index = [first, second] := by
  rcases clusterLogs_tree with ⟨complete, documents, -⟩
  have there : tree.isDirectory OneNode.root = true := rfl
  rcases FileTree.ingestCluster_eq {} there tree_emptied with
    ⟨outcome, runs, ends⟩
  rw [complete] at ends
  rw [documents] at runs
  cases ends with
  | returns found => exact ⟨_, _, runs, rfl⟩

end TwoDays

theorem ranges_bracket_documents_twoDays :
    ∃ summaries after ranges range,
      TwoDays.tree.ingestCluster OneNode.index {} OneNode.root =
        (.ok summaries, after) ∧
      after.documentsAt OneNode.index = [TwoDays.first, TwoDays.second] ∧
      logRanges summaries = .ok ranges ∧
      ranges.lookup "n1" = some range ∧
      range.Brackets [TwoDays.first, TwoDays.second] ∧
      ∀ window, reportWindow ranges 1 = .ok window →
        isInWindow window TwoDays.second = .ok true := by
  rcases TwoDays.returns with ⟨summaries, after, returns, documents⟩
  rcases FileTree.ranges_bracket_documents returns
    TwoDays.clusterLogs_tree.2.2 with ⟨ranges, defined, brackets, inside⟩
  rw [documents] at brackets inside
  have here := brackets "n1"
  rw [TwoDays.ofHost_both] at here
  cases known : ranges.lookup "n1" with
  | none =>
      rw [known] at here
      cases here
  | some range =>
      rw [known] at here
      refine ⟨summaries, after, ranges, range, returns, documents, defined,
        known, here, ?_⟩
      rcases here.covers TwoDays.first (by simp) with ⟨date, dated, lower, -⟩
      rcases here.covers TwoDays.second (by simp) with
        ⟨otherDate, otherDated, -, upper⟩
      rw [TwoDays.date_first] at dated
      rw [TwoDays.date_second] at otherDated
      cases dated
      cases otherDated
      have between : OneNode.time < TwoDays.time := by decide
      have proper : range.first < range.last :=
        Nat.lt_of_le_of_lt lower (Nat.lt_of_lt_of_le between upper)
      intro window covers
      exact inside "n1" range known proper 1 window (by decide) covers
        TwoDays.second TwoDays.isLatest_second

end ClusterLog
