import ClusterLog.Proofs.Diagnostics.DroppedReports
import ClusterLog.Proofs.Index.ExactHits
import ClusterLog.Proofs.Query.QuotedText
import ClusterLog.Proofs.Text.Decimal
import ClusterLog.Proofs.Tools.DroppedMessages

/-!
# Complete answers about dropped messages

The phrase that the tool for dropped messages searches for stands in every
message whose report is read, as long as the type of the report is set off from
what is in front of it.  Where all reports are set off, the window tells of each
document that is found whether it is inside, and the limit is not reached, the
answer counts every report, unless one of the documents that are shown has a
report that cannot be read.
-/

namespace ClusterLog

open Query Text

/-! ## The phrase of a type -/

theorem isTypeChar_of_messageTypeOf {text type : String}
    (named : messageTypeOf text = .ok type) :
    ∀ c ∈ type.toList, DroppedReport.isTypeChar c = true := by
  simp only [messageTypeOf] at named
  split at named
  · cases named
  · rename_i accepted
    cases named
    simp only [Bool.or_eq_true, Bool.not_eq_true', not_or,
      Bool.not_eq_false] at accepted
    simpa using accepted.2

/-- No type has a quote or a null character, and neither has the text that its
reports go on with. -/
theorem reportPhrase_plain {text type : String}
    (named : messageTypeOf text = .ok type) :
    ∀ c ∈ DroppedReport.reportPhrase type.toList, c ≠ '"' ∧ c.toNat ≠ 0 := by
  intro c member
  rcases List.mem_append.mp member with inType | behind
  · have bounds := DroppedReport.toNat_of_isTypeChar
      (isTypeChar_of_messageTypeOf named c inType)
    refine ⟨?_, by omega⟩
    rintro rfl
    exact absurd bounds.1 (by decide)
  · have plain : ∀ c ∈ " messages were dropped".toList,
        c ≠ '"' ∧ c.toNat ≠ 0 := by
      decide
    exact plain c behind

theorem droppedQuery_eq_inQuotes {text type : String}
    (named : messageTypeOf text = .ok type) :
    droppedQuery type =
      String.ofList (inQuotes (DroppedReport.reportPhrase type.toList)) := by
  have same : doubled (DroppedReport.reportPhrase type.toList) =
      DroppedReport.reportPhrase type.toList :=
    doubled_of_noQuote fun c member => (reportPhrase_plain named c member).1
  rw [← String.toList_inj, inQuotes, same]
  simp [droppedQuery, DroppedReport.reportPhrase]

theorem requestOf_droppedQuery {text type : String}
    (named : messageTypeOf text = .ok type) :
    requestOf (droppedQuery type) =
      .ok (quotedRequest (DroppedReport.reportPhrase type.toList)) := by
  rw [droppedQuery_eq_inQuotes named]
  exact requestOf_inQuotes fun c member => (reportPhrase_plain named c member).2

/-! ## Reports that are set off -/

/-- Whether the report in a document, if there is one, has its type at the
beginning of the message or behind a blank. -/
def Document.isSetOff (document : Document) : Bool :=
  DroppedReport.isSetOff document.message.toList

theorem Document.parts?_of_reports {document : Document} {type : String}
    (reports : document.reports type = true) :
    ∃ internal crossNode,
      DroppedReport.parts? document.message.toList =
        some (type.toList, internal, crossNode) := by
  unfold Document.reports at reports
  split at reports
  · rename_i report reads
    obtain rfl := beq_iff_eq.mp reports
    unfold DroppedReport.ofEntry at reads
    split at reads
    · cases reads
    · rename_i type internal crossNode parts
      simp only [bind_eq_ok, pure_eq_ok, Option.some.injEq] at reads
      rcases reads with ⟨-, -, -, -, -, -, rfl⟩
      exact ⟨internal, crossNode, by rwa [String.toList_ofList]⟩
  · cases reports

/-- The query for a type finds the documents whose report is set off. -/
theorem exists_request_of_messageType {text type : String}
    (named : messageTypeOf text = .ok type) :
    ∃ request,
      requestOf (droppedQuery type) = .ok request ∧
      ∀ document : Document,
        document.reports type = true → document.isSetOff = true →
        request.finds document = true := by
  refine ⟨_, requestOf_droppedQuery named, ?_⟩
  intro document reports setOff
  rcases Document.parts?_of_reports reports with ⟨internal, crossNode, parts⟩
  exact (finds_quotedRequest document).mpr
    ⟨DroppedReport.terms_reportPhrase_ne_nil _,
      DroppedReport.terms_reportPhrase parts setOff⟩

/-! ## Searches that show every report -/

/-- A search for the reports of a type leaves none of them out: all of them are
set off, the window tells of everything that is found whether it is inside, and
less is found than the limit allows. -/
structure Store.Exposes (store : Store) (request : Request)
    (window : ReportWindow) (type : String) (bound : Int) : Prop where
  present : store.documents.isNone = false
  setOff : ∀ document ∈ store.documentList,
    document.reports type = true → document.isSetOff = true
  told : ∀ document ∈ store.documentList, request.finds document = true →
    ∃ inside, isInWindow window document = .ok inside
  room : (store.documentList.countP request.finds : Int) < bound

section Searches

variable {store : Store} {request : Request} {window : ReportWindow}
variable {type query : String} {bound : Int}

/-- The limits of the tools can be represented by the index. -/
theorem resolveLimit_le {limit : Option Int}
    (resolves : resolveLimit limit hardLimit = .ok bound) :
    bound ≤ maxLimit := by
  have small : hardLimit ≤ maxLimit := by decide
  unfold resolveLimit at resolves
  split at resolves
  · cases resolves
    exact small
  · split at resolves
    · cases resolves
    · cases resolves
      omega

theorem Store.length_hits (store : Store) (request : Request) :
    (store.hits request none).length =
      store.documentList.countP request.finds := by
  rw [(store.hits_perm request none).length_eq, List.countP_eq_length_filter]
  simp

theorem Store.mem_hits_iff {document : Document} :
    document ∈ store.hits request none ↔
      document ∈ store.documentList ∧ request.finds document = true := by
  rw [(store.hits_perm request none).mem_iff, List.mem_filter]
  simp

/-- Such a search shows all hits inside the window. -/
theorem Store.Exposes.search (exposes : store.Exposes request window type bound)
    (small : bound ≤ maxLimit) (asked : requestOf query = .ok request) :
    store.search window { query := query, limit := bound } =
      .ok (((store.hits request none).filter (isShown window)).map
        (·.entry)) := by
  have room := exposes.room
  have length := store.length_hits request
  have positive : 0 < bound := by omega
  have takes := @Store.fetch_of_request store request
    { query := query, limit := bound } positive small
    (scopeChars_ne_nil asked) exposes.present asked
  have all : (store.hits request none).take bound.toNat =
      store.hits request none :=
    List.take_of_length_le (by omega)
  simp only [Option.map_none, all] at takes
  apply Store.search_of_fetch takes
  apply insideWindow_of_forall
  intro document member
  rcases Store.mem_hits_iff.mp member with ⟨stored, found⟩
  exact exposes.told document stored found

/-- Counting the reports that are shown counts all that belong to the answer. -/
theorem Store.countP_shown
    (finds : ∀ document ∈ store.documentList,
      document.reports type = true → request.finds document = true) :
    ((store.hits request none).filter (isShown window)).countP
        (·.reports type) =
      store.documentList.countP (·.belongs window type) := by
  rw [List.countP_filter, (store.hits_perm request none).countP_eq,
    List.countP_filter]
  apply List.countP_congr
  intro document stored
  have found := finds document stored
  simp only [Document.belongs, Option.all_none, Bool.and_true,
    Bool.and_eq_true]
  constructor
  · rintro ⟨⟨reports, shown⟩, -⟩
    exact ⟨shown, reports⟩
  · rintro ⟨shown, reports⟩
    exact ⟨⟨reports, shown⟩, found reports⟩

end Searches

/--
The tool for dropped messages searches for a phrase that every report of its
type has whose type is set off.  Where the search leaves no report out, the answer
counts every report inside its host's window and does not say that it may be
incomplete; or one of the documents that are shown has a report that cannot be
read, and the tool fails as its reading does.
-/
theorem droppedMessages_complete {messageType type : String}
    (named : messageTypeOf messageType = .ok type) :
    ∃ request,
      requestOf (droppedQuery type) = .ok request ∧
      (∀ document : Document,
        document.reports type = true → document.isSetOff = true →
        request.finds document = true) ∧
      ∀ {before : Workspace} {index : String} {limit daysAsked : Option Int}
        {store : Store} {window : ReportWindow} {bound : Int},
        before.Shows index daysAsked store window →
        resolveLimit limit hardLimit = .ok bound →
        store.Exposes request window type bound →
        (∃ summary,
          (Work.droppedMessages index messageType limit daysAsked).run before =
            (.ok summary, before) ∧
          summary.messageType = type ∧
          summary.count =
            store.documentList.countP (·.belongs window type) ∧
          summary.hitLimit = false) ∨
        ∃ document ∈ store.documentList,
          request.finds document = true ∧
          isInWindow window document = .ok true ∧
          ∃ failure,
            DroppedReport.ofEntry document.entry = .error failure ∧
            (Work.droppedMessages index messageType limit daysAsked).run
              before = (.error failure, before) := by
  rcases exists_request_of_messageType named with ⟨request, asked, finds⟩
  refine ⟨request, asked, finds, ?_⟩
  intro before index limit daysAsked store window bound showing bounded exposes
  have shows := exposes.search (resolveLimit_le bounded) asked
  rcases mapM_cases DroppedReport.ofEntry
    (((store.hits request none).filter (isShown window)).map (·.entry)) with
    ⟨found, reading⟩ | ⟨entry, member, failure, fails, reading⟩
  · left
    refine ⟨_, Work.run_droppedMessages showing named bounded shows reading,
      rfl, ?_, ?_⟩
    · rw [DroppedReport.length_reports _ reading]
      apply Store.countP_shown
      intro document stored reports
      exact finds document reports (exposes.setOff document stored reports)
    · have shown := List.length_filter_le (isShown window)
        (store.hits request none)
      have hits := store.length_hits request
      have room := exposes.room
      rw [decide_eq_false_iff_not, List.length_map]
      omega
  · right
    rcases List.mem_map.mp member with ⟨document, shown, rfl⟩
    rcases List.mem_filter.mp shown with ⟨hit, inside⟩
    rcases Store.mem_hits_iff.mp hit with ⟨stored, found⟩
    exact ⟨document, stored, found, isShown_iff.mp inside, failure, fails,
      Work.run_droppedMessages_of_failure showing named bounded shows reading⟩

/-! ## A search without a limit of its own -/

namespace LateHost

theorem message_eq : ∀ document ∈ store.documentList,
    document.message = report := by
  simp [store, Store.documentList, outside, inside]

theorem isSetOff_report : DroppedReport.isSetOff report.toList = true := by
  decide +kernel

theorem exposes {request : Request} (findsOutside : request.finds outside = true)
    (findsInside : request.finds inside = true) :
    store.Exposes request window "MUTATION" hardLimit where
  present := rfl
  setOff := by
    intro document stored _
    rw [Document.isSetOff, message_eq document stored, isSetOff_report]
  told := by
    intro document stored _
    exact exists_isInWindow window (dated document stored)
  room := by
    have two : store.documentList.countP request.finds = 2 := by
      simp [store, Store.documentList, findsOutside, findsInside]
    rw [two]
    decide

theorem count_belongs :
    store.documentList.countP (·.belongs window "MUTATION") = 1 := by
  have hidden : isShown window outside = false := by
    decide +kernel
  have excluded : outside.belongs window "MUTATION" = false := by
    rw [Document.belongs, hidden, Bool.false_and]
  simp [store, Store.documentList, excluded, inside_belongs]

end LateHost

theorem droppedMessages_complete_lateHost :
    messageTypeOf " mutation" = .ok "MUTATION" ∧
    ∃ summary,
      (Work.droppedMessages "logs.db" " mutation" none (some 1)).run
        LateHost.workspace = (.ok summary, LateHost.workspace) ∧
      summary.count = 1 ∧
      summary.hitLimit = false := by
  have named : messageTypeOf " mutation" = .ok "MUTATION" :=
    eq_ok_of_toOption (by decide +kernel)
  rcases LateHost.exists_request with
    ⟨asked, reads, findsOutside, findsInside⟩
  rcases droppedMessages_complete named with ⟨request, reads', -, answers⟩
  obtain rfl : asked = request := Except.ok.inj (reads.symm.trans reads')
  have bounded : resolveLimit none hardLimit = .ok hardLimit := rfl
  rcases answers LateHost.shows bounded
    (LateHost.exposes findsOutside findsInside) with
    ⟨summary, returns, -, count, hitLimit⟩ |
      ⟨document, stored, -, -, failure, fails, -⟩
  · exact ⟨named, summary, returns, count.trans LateHost.count_belongs,
      hitLimit⟩
  · rcases LateHost.exists_ofEntry (LateHost.message_eq document stored)
      (LateHost.dated document stored) with ⟨report, reads, -⟩
    rw [fails] at reads
    cases reads

/-! ## A report with a number that is too long -/

namespace LongNumber

/-- What stands behind the phrase of a report with too many digits. -/
def counts : List Char :=
  "in last 5000 ms: ".toList ++ List.replicate 4301 '1' ++
    (" internal and 2 cross node. Mean internal dropped latency: 3 ms and " ++
      "Mean cross-node dropped latency: 4 ms").toList

/-- A report that cannot be read. -/
def unreadable : Document :=
  ⟨"b", "INFO", String.ofList
    (DroppedReport.reportPhrase "MUTATION".toList ++ ' ' :: counts),
    "20200110000000"⟩

/-- An older report that can be read. -/
def readable : Document :=
  ⟨"a", "INFO", LateHost.report, "20200105000000"⟩

def store : Store where
  documents := some [unreadable, readable]

def workspace : Workspace where
  tree := { nodes := [(["logs.db"], .index store)] }

/-- What the tool asks for. -/
def request : Request :=
  quotedRequest (DroppedReport.reportPhrase "MUTATION".toList)

theorem shows : workspace.Shows "logs.db" none store [] where
  found := ⟨⟨.root, ["logs.db"]⟩, eq_ok_of_toOption (by decide +kernel), rfl⟩
  settings := ⟨{}, rfl⟩
  covers := ⟨[], defaultReportDays, rfl, rfl, rfl⟩

theorem named : messageTypeOf "MUTATION" = .ok "MUTATION" :=
  eq_ok_of_toOption (by decide +kernel)

theorem number_counts :
    Diagnostics.number (List.replicate 4301 '1') =
      .error (.numberTooLong 4301) := by
  have digits : ∀ c ∈ List.replicate 4301 '1', isAsciiDigit c = true := by
    intro c inside
    rw [List.eq_of_mem_replicate inside]
    rfl
  have long : ¬ (List.replicate 4301 '1').length ≤ maxDigits := by
    rw [List.length_replicate]
    decide
  have nonempty : List.replicate 4301 '1' ≠ [] := by
    intro none
    simp [none] at long
  rw [Diagnostics.number, readNatural?_of_asciiDigits nonempty digits,
    if_neg long, List.length_replicate]

set_option maxRecDepth 20000 in
theorem parts_unreadable :
    (DroppedReport.parts? unreadable.message.toList).map (·.2.1) =
      some (List.replicate 4301 '1') := by
  rw [unreadable, String.toList_ofList]
  decide +kernel

theorem ofEntry_unreadable :
    DroppedReport.ofEntry unreadable.entry = .error (.numberTooLong 4301) := by
  rcases Option.map_eq_some_iff.mp parts_unreadable with
    ⟨⟨type, internal, crossNode⟩, parts, digits⟩
  have parts : DroppedReport.parts? unreadable.entry.messageText.toList =
      some (type, internal, crossNode) :=
    parts
  have fails : Diagnostics.number internal = .error (.numberTooLong 4301) := by
    rw [← number_counts, ← digits]
  rw [DroppedReport.ofEntry, parts]
  simp only [fails]
  rfl

theorem reports_unreadable : unreadable.reports "MUTATION" = false := by
  rw [Document.reports, ofEntry_unreadable]

theorem finds_unreadable : request.finds unreadable = true := by
  apply (finds_quotedRequest unreadable).mpr
  refine ⟨DroppedReport.terms_reportPhrase_ne_nil _, ?_⟩
  have inside := @DroppedReport.terms_infix_of_split []
    (DroppedReport.reportPhrase "MUTATION".toList) counts ' ' rfl (by decide)
  simpa [Document.HasPhrase, Document.terms, Document.text, unreadable] using
    inside

theorem exposes : store.Exposes request [] "MUTATION" hardLimit where
  present := rfl
  setOff := by
    intro document stored reports
    simp only [store, Store.documentList, Option.getD_some, List.mem_cons,
      List.not_mem_nil, or_false] at stored
    rcases stored with rfl | rfl
    · rw [reports_unreadable] at reports
      cases reports
    · exact LateHost.isSetOff_report
  told := fun _ _ _ => ⟨true, rfl⟩
  room := by
    have most := List.countP_le_length (p := request.finds)
      (l := store.documentList)
    have two : store.documentList.length = 2 := rfl
    have small : (2 : Int) < hardLimit := by decide
    omega

theorem count_eq :
    store.documentList.countP (·.belongs [] "MUTATION") = 1 := by
  have reported : readable.reports "MUTATION" = true :=
    LateHost.reports_of_report rfl (by decide +kernel)
  have counted : readable.belongs [] "MUTATION" = true := by
    rw [Document.belongs, reported, Bool.and_true]
    rfl
  have uncounted : unreadable.belongs [] "MUTATION" = false := by
    rw [Document.belongs, reports_unreadable, Bool.and_false]
  simp [store, Store.documentList, counted, uncounted]

/-- The report that cannot be read is the first hit. -/
theorem hits_eq :
    ∃ others, store.hits request none = unreadable :: others := by
  have found :
      (store.documentList.filter fun document =>
        request.finds document &&
          (none : Option String).all (· == document.level)) =
        unreadable :: [readable].filter fun document =>
          request.finds document := by
    simp [store, Store.documentList, finds_unreadable, List.filter_cons]
  have sorted : [unreadable, readable].Pairwise (isNoEarlier · ·) := by
    decide +kernel
  rw [Store.hits_of_pairwise, found]
  · exact ⟨_, rfl⟩
  · rw [found]
    exact sorted.sublist (List.Sublist.cons_cons _ List.filter_sublist)

end LongNumber

open LongNumber in
/-- The tool gives no answer where one of the reports has a number that is too
long to be read. -/
theorem exists_unanswered_report :
    ∃ messageType type workspace index limit daysAsked store window request
        bound failure,
      messageTypeOf messageType = .ok type ∧
      requestOf (droppedQuery type) = .ok request ∧
      workspace.Shows index daysAsked store window ∧
      resolveLimit limit hardLimit = .ok bound ∧
      store.Exposes request window type bound ∧
      store.documentList.countP (·.belongs window type) = 1 ∧
      (Work.droppedMessages index messageType limit daysAsked).run workspace =
        (.error failure, workspace) := by
  refine ⟨"MUTATION", "MUTATION", workspace, "logs.db", none, none, store, [],
    request, hardLimit, .numberTooLong 4301, named, requestOf_droppedQuery named,
    shows, rfl, exposes, count_eq, ?_⟩
  have finds := exposes.search (by decide) (requestOf_droppedQuery named)
  apply Work.run_droppedMessages_of_failure shows named rfl finds
  rcases hits_eq with ⟨others, hits⟩
  have shown : isShown [] unreadable = true := rfl
  rw [hits, List.filter_cons_of_pos shown, List.map_cons, List.mapM_cons,
    ofEntry_unreadable]
  rfl

end ClusterLog
