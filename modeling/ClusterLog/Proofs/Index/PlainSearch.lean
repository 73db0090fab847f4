import ClusterLog.Proofs.Index.Places
import ClusterLog.Proofs.Query.PlainScope

/-!
# Searches with plain queries

A search without a level and without report windows sees only the message and
the timestamp of documents if its query has no colon and no single quote in
braces: on stores that agree on both it fails alike, or shows the documents at
the same places.
-/

namespace ClusterLog

open Query Text

/-! ## What a search sees -/

/-- What stores agree on for plain queries. -/
def Document.seen (document : Document) : String × String :=
  (document.message, document.timestamp)

/-- A document with a message and a timestamp, and nothing else. -/
def Document.ofSeen (seen : String × String) : Document :=
  ⟨"", "", seen.1, seen.2⟩

/-- Position by position the documents have the same message and the same
timestamp; their hosts and levels may differ. -/
structure Store.AgreesWith (store other : Store) : Prop where
  present : store.documents.isNone = other.documents.isNone
  seen : store.documentList.map Document.seen =
    other.documentList.map Document.seen

theorem finds_ofSeen {request : Request} (looks : request.LooksAt .message)
    (document : Document) :
    request.finds document = request.finds (Document.ofSeen document.seen) :=
  Request.finds_congr looks rfl

namespace Store

variable {store other : Store} {request : Request}

/-- What is seen of the found documents, with their places. -/
theorem map_seen_foundPlaces (looks : request.LooksAt .message)
    (store : Store) :
    (store.foundPlaces request none).map (Prod.map Document.seen id) =
      (store.documentList.map Document.seen).zipIdx.filter fun placed =>
        request.finds (Document.ofSeen placed.1) := by
  have found : ∀ placed : Placed,
      isHit request none placed.1 =
        request.finds (Document.ofSeen (Prod.map Document.seen id placed).1) := by
    intro placed
    rw [isHit, finds_ofSeen looks]
    exact Bool.and_true _
  rw [foundPlaces, ← List.map_zipIdx, List.filter_map]
  congr 1
  apply List.filter_congr
  intro placed _
  exact found placed

theorem AgreesWith.places (agree : store.AgreesWith other)
    (looks : request.LooksAt .message) :
    (store.placedHits request none).map Prod.snd =
      (other.placedHits request none).map Prod.snd := by
  have sorted (store : Store) :
      (store.placedHits request none).map (Prod.map Document.seen id) =
        ((store.foundPlaces request none).map
          (Prod.map Document.seen id)).mergeSort fun placed other =>
            precedes other.1.2.toList placed.1.2.toList :=
    List.map_mergeSort fun _ _ _ _ => rfl
  have same : (store.placedHits request none).map (Prod.map Document.seen id) =
      (other.placedHits request none).map (Prod.map Document.seen id) := by
    rw [sorted, sorted, map_seen_foundPlaces looks, map_seen_foundPlaces looks,
      agree.seen]
  have places := congrArg (List.map Prod.snd) same
  rw [List.map_map, List.map_map] at places
  exact places

/-- The entries at some places. -/
def entriesAt (store : Store) (places : List Nat) : List Entry :=
  places.filterMap fun place =>
    store.documentList[place]?.map Document.entry

theorem entriesAt_map_snd {placed : List Placed}
    (inside : ∀ one ∈ placed, store.documentList[one.2]? = some one.1) :
    store.entriesAt (placed.map Prod.snd) = placed.map (·.1.entry) := by
  induction placed with
  | nil => rfl
  | cons one placed ih =>
      have here := inside one (by simp)
      have others := ih fun other member => inside other (by simp [member])
      rw [entriesAt] at others ⊢
      simp [here, others]

/-! ## Searches without windows -/

theorem insideWindow_nil (documents : List Document) :
    insideWindow [] documents = .ok documents := by
  induction documents with
  | nil => rfl
  | cons document documents ih =>
      rw [insideWindow, ih]
      rfl

theorem search_without_window (store : Store) (search : Search) :
    store.search [] search =
      (store.fetch search).map (·.map Document.entry) := by
  rw [Store.search]
  cases store.fetch search with
  | error failure => rfl
  | ok documents =>
      simp only [bind, Except.bind, insideWindow_nil, Except.map, pure,
        Except.pure]

/-- What is asked of a store, if a search is not refused.  Of the store this
depends on whether it has no place for documents. -/
def requestFor (absent : Bool) (search : Search) : Except Failure Request := do
  if search.limit ≤ 0 then
    throw .limitNotPositive
  if (scopeChars defaultColumn.toList search.query.toList).isEmpty then
    throw .emptyQuery
  if absent then
    throw (.indexFailure "no such table: log_search")
  if maxLimit < search.limit then
    throw .limitTooLarge
  requestOf search.query

theorem fetch_eq_map (store : Store) (search : Search) :
    store.fetch search =
      (requestFor store.documents.isNone search).map fun request =>
        (store.hits request (search.level.map fun level =>
          String.ofList (upper level.toList))).take search.limit.toNat := by
  simp only [fetch, requestFor, bind, Except.bind, throw, throwThe,
    MonadExceptOf.throw, pure, Except.pure]
  split
  · rfl
  · split
    · rfl
    · split
      · rfl
      · split
        · rfl
        · cases requestOf search.query <;> rfl

theorem requestOf_of_requestFor {absent : Bool} {search : Search}
    (asked : requestFor absent search = .ok request) :
    requestOf search.query = .ok request := by
  simp only [requestFor, check_eq_ok] at asked
  rcases asked with ⟨-, -, -, -, asked⟩
  exact asked

/-- A search without a level and without windows shows the first placed hits. -/
theorem search_eq_map (store : Store) {search : Search}
    (anyLevel : search.level = none) :
    store.search [] search =
      (requestFor store.documents.isNone search).map fun request =>
        store.entriesAt (((store.placedHits request none).map Prod.snd).take
          search.limit.toNat) := by
  rw [search_without_window, fetch_eq_map, anyLevel]
  cases requestFor store.documents.isNone search with
  | error failure => rfl
  | ok request =>
      have inside : ∀ placed ∈
          (store.placedHits request none).take search.limit.toNat,
          store.documentList[placed.2]? = some placed.1 := by
        intro placed member
        have found := (store.placedHits_perm request none).mem_iff.mp
          (List.mem_of_mem_take member)
        exact ((store.mem_foundPlaces request none).mp found).1
      have shown := entriesAt_map_snd inside
      rw [List.map_take] at shown
      simp only [Except.map, Option.map_none]
      rw [shown, ← map_fst_placedHits, ← List.map_take, List.map_map]
      rfl

theorem lt_count_of_mem_placedHits {level : Option String} {place : Nat}
    (member : place ∈ (store.placedHits request level).map Prod.snd) :
    place < store.count := by
  rcases List.mem_map.mp member with ⟨placed, hit, rfl⟩
  have found := (store.placedHits_perm request level).mem_iff.mp hit
  rcases (store.mem_foundPlaces request level).mp found with ⟨here, -⟩
  exact (List.getElem?_eq_some_iff.mp here).1

end Store

/--
Plain queries look at the message only.  What they find does not depend on the
host and the level of a document, and on stores that agree on messages and
timestamps a search fails alike or shows the documents at the same places.
-/
theorem search_plain {search : Search}
    (noColon : ':' ∉ search.query.toList)
    (paired : HasPairedBraces search.query.toList)
    (anyLevel : search.level = none)
    {store other : Store} (agree : store.AgreesWith other) :
    (∀ request, requestOf search.query = .ok request →
      ∀ document other : Document, document.message = other.message →
        request.finds document = request.finds other) ∧
    ((∃ failure, store.search [] search = .error failure ∧
        other.search [] search = .error failure) ∨
      ∃ places : List Nat,
        (∀ place ∈ places, place < store.count ∧ place < other.count) ∧
        store.search [] search = .ok (store.entriesAt places) ∧
        other.search [] search = .ok (other.entriesAt places)) := by
  have looks : ∀ request, requestOf search.query = .ok request →
      request.LooksAt .message := by
    intro request asked
    rw [requestOf] at asked
    split at asked
    · rename_i asks
      cases asked
      have message : defaultColumn = Column.message.name := rfl
      rw [message] at asks
      exact looksAt_of_plain noColon paired asks
    · cases asked
  constructor
  · intro request asked document other same
    exact Request.finds_congr (looks request asked) same
  · rw [store.search_eq_map anyLevel, other.search_eq_map anyLevel,
      agree.present]
    cases asked : Store.requestFor other.documents.isNone search with
    | error failure =>
        left
        exact ⟨failure, rfl, rfl⟩
    | ok request =>
        right
        have same := agree.places
          (looks request (Store.requestOf_of_requestFor asked))
        refine ⟨((store.placedHits request none).map Prod.snd).take
          search.limit.toNat, ?_, rfl, ?_⟩
        · intro place member
          have hit := List.mem_of_mem_take member
          constructor
          · exact Store.lt_count_of_mem_placedHits hit
          · rw [same] at hit
            exact Store.lt_count_of_mem_placedHits hit
        · rw [same]
          rfl

/-! ## Braces -/

namespace BracedHost

/-- A document of a host. -/
def document (host : String) : Document :=
  ⟨host, "INFO", "hello", "20200101000000"⟩

def store (host : String) : Store where
  documents := some [document host]

/-- Braces around a word of the message, and the name of a host. -/
def query : String := "\x7bhello\x7d OR host1"

theorem hasPairedBraces_query : HasPairedBraces query.toList := by
  intro written member
  have cut : tokens query.toList =
      [.braced "\x7bhello\x7d".toList, .word "OR".toList,
        .word "host1".toList] := by
    decide
  rw [cut] at member
  obtain rfl : written = "\x7bhello\x7d".toList := by
    simpa using member
  exact ⟨"\x7bhello\x7d".toList, by decide⟩

end BracedHost

theorem search_plain_bracedHost :
    ∃ places : List Nat,
      (BracedHost.store "host1").search [] { query := BracedHost.query } =
        .ok ((BracedHost.store "host1").entriesAt places) ∧
      (BracedHost.store "other").search [] { query := BracedHost.query } =
        .ok ((BracedHost.store "other").entriesAt places) := by
  have noColon : ':' ∉ BracedHost.query.toList := by
    decide
  have agree : (BracedHost.store "host1").AgreesWith (BracedHost.store "other") :=
    ⟨rfl, rfl⟩
  have alike := @search_plain { query := BracedHost.query } noColon
    BracedHost.hasPairedBraces_query rfl _ _ agree
  rcases alike.2 with ⟨failure, fails, -⟩ | ⟨places, -, shows, showsOther⟩
  · have succeeds :
        (BracedHost.store "host1").search [] { query := BracedHost.query } =
          .ok [(BracedHost.document "host1").entry] :=
      eq_ok_of_toOption (by decide +kernel)
    rw [succeeds] at fails
    cases fails
  · exact ⟨places, shows, showsOther⟩

/-- Of two stores that agree, a query without a colon finds the document of one
by its host: a single quote ends the text that goes out for its braces. -/
theorem exists_plain_query_for_host :
    ∃ (search : Search) (store other : Store) (entry : Entry),
      ':' ∉ search.query.toList ∧ search.level = none ∧
      store.AgreesWith other ∧
      store.search [] search = .ok [entry] ∧
      other.search [] search = .ok [] := by
  refine ⟨{ query := "\x7b\"host1\"\x7d" }, BracedHost.store "host1",
    BracedHost.store "other", (BracedHost.document "host1").entry,
    by decide, rfl, ⟨rfl, rfl⟩, ?_, ?_⟩
  · exact eq_ok_of_toOption (by decide +kernel)
  · exact eq_ok_of_toOption (by decide +kernel)

end ClusterLog
