import ClusterLog.Proofs.Computation
import ClusterLog.Proofs.Tools.Search

/-!
# Reports of dropped messages

The tool for dropped messages searches an index for a phrase and counts the
reports of one type among what the search shows.  Whether its answer says that
it may be incomplete depends on which of the documents that the search takes
are inside their hosts' report windows.
-/

namespace ClusterLog

open Query

/-- Whether a document reports dropped messages of a type. -/
def Document.reports (type : String) (document : Document) : Bool :=
  match DroppedReport.ofEntry document.entry with
  | .ok (some report) => report.messageType == type
  | _ => false

/-- Whether a document belongs to the answer for a type: it is inside its host's
report window and reports dropped messages of the type. -/
def Document.belongs (window : ReportWindow) (type : String)
    (document : Document) : Bool :=
  isShown window document && document.reports type

namespace DroppedReport

/-- Reading entries one after the other keeps the reports of a type. -/
theorem length_reports {type : String} (documents : List Document)
    {found : List (Option DroppedReport)}
    (succeeds : (documents.map (·.entry)).mapM ofEntry = .ok found) :
    ((found.filterMap id).filter (·.messageType == type)).length =
      documents.countP (·.reports type) := by
  induction documents generalizing found with
  | nil =>
      cases succeeds
      rfl
  | cons document documents ih =>
      rw [List.map_cons, List.mapM_cons] at succeeds
      cases here : ofEntry document.entry with
      | error failure => simp [here, bind, Except.bind] at succeeds
      | ok reading =>
          cases there : (documents.map (·.entry)).mapM ofEntry with
          | error failure => simp [here, there, bind, Except.bind] at succeeds
          | ok others =>
              rw [here, there] at succeeds
              cases succeeds
              rw [List.countP_cons, ← ih there]
              cases reading with
              | none => simp [Document.reports, here]
              | some report =>
                  cases same : report.messageType == type <;>
                    simp [Document.reports, here, same]

end DroppedReport

namespace Work

variable {before after : Workspace} {index messageType : String}
variable {limit daysAsked : Option Int} {summary : DroppedSummary}

/-- What an answer about dropped messages is about. -/
theorem run_droppedMessages_eq_ok
    (returns :
      (droppedMessages index messageType limit daysAsked).run before =
        (.ok summary, after)) :
    ∃ store window request bound,
      before.Shows index daysAsked store window ∧
      messageTypeOf messageType = .ok summary.messageType ∧
      resolveLimit limit hardLimit = .ok bound ∧
      requestOf (droppedQuery summary.messageType) = .ok request ∧
      0 < bound ∧
      let taken := (store.hits request none).take bound.toNat
      summary.count = taken.countP (·.belongs window summary.messageType) ∧
      summary.hitLimit =
        decide ((taken.countP (isShown window) : Int) = bound) := by
  unfold droppedMessages at returns
  rcases run_bind_eq_ok_of_unchanging (run_lift _) returns with
    ⟨type, named, returns⟩
  rcases run_bind_eq_ok_of_unchanging (run_lift _) returns with
    ⟨bound, bounded, returns⟩
  rcases run_bind_eq_ok.mp returns with ⟨entries, between, searched, returns⟩
  rcases run_searchEntries_eq_ok searched with
    ⟨-, store, window, showing, shown⟩
  rcases Store.search_eq_ok shown with ⟨positive, request, asked, same⟩
  rcases run_bind_eq_ok_of_unchanging (run_lift _) returns with
    ⟨found, reading, returns⟩
  cases returns
  rw [same] at reading
  refine ⟨store, window, request, bound, showing, named, bounded, asked,
    positive, ?_, ?_⟩
  · simp only
    rw [DroppedReport.length_reports _ reading, List.countP_filter]
    apply List.countP_congr
    intro document _
    simp [Document.belongs, and_comm]
  · simp only
    rw [same, List.length_map, ← List.countP_eq_length_filter]
    rfl

/-- An answer about dropped messages. -/
theorem run_droppedMessages {store : Store} {window : ReportWindow}
    {type : String} {bound : Int} {entries : List Entry}
    {found : List (Option DroppedReport)}
    (showing : before.Shows index daysAsked store window)
    (named : messageTypeOf messageType = .ok type)
    (bounded : resolveLimit limit hardLimit = .ok bound)
    (finds :
      store.search window { query := droppedQuery type, limit := bound } =
        .ok entries)
    (reading : entries.mapM DroppedReport.ofEntry = .ok found) :
    (droppedMessages index messageType limit daysAsked).run before =
      (.ok {
        messageType := type
        count := ((found.filterMap id).filter (·.messageType == type)).length
        hitLimit := decide ((entries.length : Int) = bound)
        hosts := droppedTotals
          ((found.filterMap id).filter (·.messageType == type)) }, before) := by
  unfold droppedMessages
  rw [run_bind_of_unchanging (run_lift _) named,
    run_bind_of_unchanging (run_lift _) bounded,
    run_bind_of_ok (run_searchEntries showing finds),
    run_bind_of_unchanging (run_lift _) reading]
  rfl

/-- A report that cannot be read ends the tool. -/
theorem run_droppedMessages_of_failure {store : Store} {window : ReportWindow}
    {type : String} {bound : Int} {entries : List Entry} {failure : Failure}
    (showing : before.Shows index daysAsked store window)
    (named : messageTypeOf messageType = .ok type)
    (bounded : resolveLimit limit hardLimit = .ok bound)
    (finds :
      store.search window { query := droppedQuery type, limit := bound } =
        .ok entries)
    (reading : entries.mapM DroppedReport.ofEntry = .error failure) :
    (droppedMessages index messageType limit daysAsked).run before =
      (.error failure, before) := by
  unfold droppedMessages
  rw [run_bind_of_unchanging (run_lift _) named,
    run_bind_of_unchanging (run_lift _) bounded,
    run_bind_of_ok (run_searchEntries showing finds), run_bind, run_lift,
    reading]

end Work

/-! ## Answers that may be incomplete -/

/-- The documents of an index that belong to the answer for a type. -/
def Store.relevant (store : Store) (request : Request) (window : ReportWindow)
    (type : String) : List Document :=
  store.documentList.filter fun document =>
    request.finds document && document.belongs window type

theorem Store.length_relevant (store : Store) (request : Request)
    (window : ReportWindow) (type : String) :
    (store.relevant request window type).length =
      (store.hits request none).countP (·.belongs window type) := by
  rw [(store.hits_perm request none).countP_eq, List.countP_filter,
    Store.relevant, ← List.countP_eq_length_filter]
  apply List.countP_congr
  intro document _
  simp [and_comm]

/-- Where taking elements leaves some out, as many are taken as may be. -/
theorem length_take_of_countP_lt {Element : Type} {elements : List Element}
    {count : Nat} {counts : Element → Bool}
    (missing : (elements.take count).countP counts < elements.countP counts) :
    (elements.take count).length = count := by
  have short : count ≤ elements.length := by
    apply Nat.le_of_not_lt
    intro long
    rw [List.take_of_length_le (by omega)] at missing
    exact Nat.lt_irrefl _ missing
  rw [List.length_take, Nat.min_eq_left short]

/--
An answer that leaves out a document which belongs to it says so exactly if all
documents that the search takes are inside their hosts' report windows.
-/
theorem droppedMessages_hitLimit_iff
    {before after : Workspace}
    {index messageType : String}
    {limit daysAsked : Option Int}
    {summary : DroppedSummary}
    (returns :
      (Work.droppedMessages index messageType limit daysAsked).run before =
        (.ok summary, after)) :
    ∃ store window request bound,
      before.Shows index daysAsked store window ∧
      messageTypeOf messageType = .ok summary.messageType ∧
      resolveLimit limit hardLimit = .ok bound ∧
      requestOf (droppedQuery summary.messageType) = .ok request ∧
      let relevant := store.relevant request window summary.messageType
      summary.count ≤ relevant.length ∧
      (summary.count < relevant.length →
        (summary.hitLimit = true ↔
          ∀ document ∈ (store.hits request none).take bound.toNat,
            isInWindow window document = .ok true)) := by
  obtain ⟨store, window, request, bound, showing, named, bounded, asked,
    positive, count, hitLimit⟩ := Work.run_droppedMessages_eq_ok returns
  refine ⟨store, window, request, bound, showing, named, bounded, asked, ?_⟩
  simp only [store.length_relevant, count, hitLimit, decide_eq_true_eq]
  constructor
  · exact (List.take_sublist _ _).countP_le
  intro missing
  -- Something is left out, so the search took as many hits as it may.
  have full := length_take_of_countP_lt missing
  have all : ∀ number : Nat, (number : Int) = bound ↔ number = bound.toNat := by
    intro number
    omega
  have every :
      ((store.hits request none).take bound.toNat).countP (isShown window) =
          ((store.hits request none).take bound.toNat).length ↔ _ :=
    List.countP_eq_length
  rw [full] at every
  rw [all, every]
  simp only [isShown_iff]

/-! ## A host whose last drop is old -/

namespace LateHost

open Calendar

/-- A report of dropped messages. -/
def report : String :=
  "MUTATION messages were dropped in last 5000 ms: 1 internal and 2 cross " ++
    "node. Mean internal dropped latency: 3 ms and Mean cross-node dropped " ++
      "latency: 4 ms"

theorem parts_report :
    DroppedReport.parts? report.toList =
      some ("MUTATION".toList, ['1'], ['2']) := by
  decide +kernel

/-- The report of a document is read if its date is. -/
theorem exists_ofEntry {document : Document}
    (message : document.message = report)
    (dated : document.entry.date?.isSome = true) :
    ∃ read,
      DroppedReport.ofEntry document.entry = .ok (some read) ∧
      read.messageType = "MUTATION" := by
  rcases Option.isSome_iff_exists.mp dated with ⟨date, parses⟩
  have parts : DroppedReport.parts? document.entry.messageText.toList =
      some ("MUTATION".toList, ['1'], ['2']) := by
    rw [← parts_report, ← message]
    rfl
  have dates : Diagnostics.dateOf document.entry = .ok date := by
    rw [Diagnostics.dateOf, parses]
  refine ⟨⟨"MUTATION", 1, 2, date, Diagnostics.hostOf document.entry⟩, ?_, rfl⟩
  simp only [DroppedReport.ofEntry, parts, dates]
  rfl

theorem reports_of_report {document : Document}
    (message : document.message = report)
    (dated : document.entry.date?.isSome = true) :
    document.reports "MUTATION" = true := by
  rcases exists_ofEntry message dated with ⟨read, reads, type⟩
  rw [Document.reports, reads]
  exact beq_iff_eq.mpr type

/-- A report outside of its host's window. -/
def outside : Document :=
  ⟨"a", "INFO", report, "20200110000000"⟩

/-- An older report inside of its host's window. -/
def inside : Document :=
  ⟨"b", "INFO", report, "20200105000000"⟩

/-- Midnight of a day in January 2020. -/
def midnight (day : Nat) (valid : IsDate 2020 1 day) : DateTime :=
  ⟨⟨2020, 1, day, valid⟩, 0, 0, 0, DateTime.midnight_valid⟩

def store : Store where
  documents := some [outside, inside]
  ranges := some [
    ⟨"a", "20200101000000", "20200120000000"⟩,
    ⟨"b", "20200101000000", "20200105000000"⟩]

/-- The windows of one day. -/
def window : ReportWindow :=
  [("a", midnight 19 (by decide)), ("b", midnight 4 (by decide))]

def workspace : Workspace where
  tree := { nodes := [(["logs.db"], .index store)] }

theorem shows : workspace.Shows "logs.db" (some 1) store window where
  found := ⟨⟨.root, ["logs.db"]⟩, eq_ok_of_toOption (by decide +kernel), rfl⟩
  settings := ⟨{}, rfl⟩
  covers := by
    refine ⟨[("a", ⟨midnight 1 (by decide), midnight 20 (by decide)⟩),
      ("b", ⟨midnight 1 (by decide), midnight 5 (by decide)⟩)], 1, ?_, rfl, ?_⟩
    · exact eq_ok_of_toOption (by decide +kernel)
    · exact eq_ok_of_toOption (by decide +kernel)

theorem exists_request :
    ∃ request,
      requestOf (droppedQuery "MUTATION") = .ok request ∧
      request.finds outside = true ∧
      request.finds inside = true := by
  have found :
      ((requestOf (droppedQuery "MUTATION")).toOption.map fun request =>
        (request.finds outside, request.finds inside)) = some (true, true) := by
    decide +kernel
  rcases exists_ok_of_map_toOption found with ⟨request, asked, same⟩
  rcases Prod.mk.inj same with ⟨first, second⟩
  exact ⟨request, asked, first, second⟩

/-- The hits come in the order of the index, since the later drop is first. -/
theorem hits_eq {request : Request} (findsOutside : request.finds outside = true)
    (findsInside : request.finds inside = true) :
    store.hits request none = [outside, inside] := by
  have found :
      (store.documentList.filter fun document =>
        request.finds document &&
          (none : Option String).all (· == document.level)) =
        [outside, inside] := by
    simp [store, Store.documentList, findsOutside, findsInside]
  have sorted : [outside, inside].Pairwise (isNoEarlier · ·) := by
    decide +kernel
  rw [Store.hits_of_pairwise, found]
  rw [found]
  exact sorted

/-- A search for one document takes the drop that it then does not show. -/
theorem search_eq {query : String} {request : Request}
    (nonempty :
      (scopeChars defaultColumn.toList query.toList).isEmpty = false)
    (asked : requestOf query = .ok request)
    (findsOutside : request.finds outside = true)
    (findsInside : request.finds inside = true) :
    store.search window { query := query, limit := 1 } = .ok [] := by
  have small : (1 : Int) ≤ maxLimit := by
    decide +kernel
  have taken :
      store.fetch { query := query, limit := 1 } =
        .ok ((store.hits request none).take 1) :=
    Store.fetch_of_request Int.one_pos small nonempty rfl asked
  rw [hits_eq findsOutside findsInside] at taken
  have shown : insideWindow window [outside] = .ok [] :=
    eq_ok_of_toOption (by decide +kernel)
  exact Store.search_of_fetch taken shown

theorem returns :
    (Work.droppedMessages "logs.db" "MUTATION" (some 1) (some 1)).run
        workspace =
      (.ok {
        messageType := "MUTATION"
        count := 0
        hitLimit := false
        hosts := [] }, workspace) := by
  have named : messageTypeOf "MUTATION" = .ok "MUTATION" :=
    eq_ok_of_toOption (by decide +kernel)
  have nonempty :
      (scopeChars defaultColumn.toList
        (droppedQuery "MUTATION").toList).isEmpty = false := by
    decide +kernel
  rcases exists_request with ⟨request, asked, findsOutside, findsInside⟩
  have silent := search_eq nonempty asked findsOutside findsInside
  have nothing : ([] : List Entry).mapM DroppedReport.ofEntry = .ok [] := rfl
  rw [Work.run_droppedMessages shows named rfl silent nothing]
  have none : droppedTotals [] = [] := by
    simp [droppedTotals, reportsByHost, Diagnostics.Tally.ofItems]
  simp [none]

theorem dated : ∀ document ∈ store.documentList,
    document.entry.date?.isSome = true := by
  decide +kernel

theorem inside_belongs : inside.belongs window "MUTATION" = true := by
  have shown : isShown window inside = true := by
    decide +kernel
  have stored : inside ∈ store.documentList := by
    simp [store, Store.documentList]
  rw [Document.belongs, shown, reports_of_report rfl (dated inside stored)]
  rfl

theorem missing {request : Request}
    (asked : requestOf (droppedQuery "MUTATION") = .ok request) :
    0 < (store.relevant request window "MUTATION").length := by
  rcases exists_request with ⟨same, asked', -, findsInside⟩
  obtain rfl : same = request := Except.ok.inj (asked'.symm.trans asked)
  have member : inside ∈ store.relevant same window "MUTATION" := by
    simp [Store.relevant, store, Store.documentList, findsInside,
      inside_belongs]
  exact List.length_pos_of_mem member

end LateHost

theorem droppedMessages_hitLimit_iff_lateHost :
    (Work.droppedMessages "logs.db" "MUTATION" (some 1) (some 1)).run
        LateHost.workspace =
      (.ok {
        messageType := "MUTATION"
        count := 0
        hitLimit := false
        hosts := [] }, LateHost.workspace) ∧
    ∃ request,
      requestOf (droppedQuery "MUTATION") = .ok request ∧
      0 < (LateHost.store.relevant request LateHost.window "MUTATION").length ∧
      ¬ ∀ document ∈ (LateHost.store.hits request none).take 1,
        isInWindow LateHost.window document = .ok true := by
  obtain ⟨store, window, request, bound, showing, -, bounded, asked, -,
    incomplete⟩ := droppedMessages_hitLimit_iff LateHost.returns
  rcases showing.unique LateHost.shows with ⟨rfl, rfl⟩
  obtain rfl : 1 = bound := Except.ok.inj bounded
  have left := LateHost.missing asked
  refine ⟨LateHost.returns, request, asked, left, ?_⟩
  intro all
  exact absurd ((incomplete left).mpr all) (by simp)

/-- The tool leaves out a document that belongs to its answer and does not say
that the answer may be incomplete. -/
theorem exists_silent_incomplete_answer :
    ∃ workspace index messageType limit daysAsked summary store window request,
      (Work.droppedMessages index messageType limit daysAsked).run workspace =
        (.ok summary, workspace) ∧
      workspace.Shows index daysAsked store window ∧
      requestOf (droppedQuery summary.messageType) = .ok request ∧
      summary.count <
        (store.relevant request window summary.messageType).length ∧
      summary.hitLimit = false := by
  rcases LateHost.exists_request with ⟨request, asked, -, -⟩
  exact ⟨LateHost.workspace, "logs.db", "MUTATION", some 1, some 1, _,
    LateHost.store, LateHost.window, request, LateHost.returns, LateHost.shows,
    asked, LateHost.missing asked, rfl⟩

end ClusterLog
