import ClusterLog.Proofs.Index.ExactHits
import ClusterLog.Proofs.Index.PlainSearch
import ClusterLog.Proofs.Query.QuotedText

/-!
# Documents and their own messages

A search for the whole message of a document, in quotes, is accepted whatever
the message holds.  It finds the document, and shows it under every limit that
leaves room for all documents and that the index can represent.
-/

namespace ClusterLog

open Query Text

/-- The message of a document in quotes. -/
def Document.quotedMessage (document : Document) : String :=
  String.ofList (inQuotes document.message.toList)

/-- A message with terms has its own phrase. -/
theorem Document.finds_own_message {document : Document}
    (nonempty : Term.terms document.message.toList ≠ []) :
    (quotedRequest document.message.toList).finds document = true :=
  (finds_quotedRequest document).mpr ⟨nonempty, List.infix_rfl⟩

namespace Store

variable {store : Store} {request : Request} {search : Search}

/-- A search without a window shows what it takes. -/
theorem search_of_request (asked : requestOf search.query = .ok request)
    (present : store.documents.isNone = false)
    (positive : 0 < search.limit) (small : search.limit ≤ maxLimit) :
    store.search [] search =
      .ok (((store.hits request search.requestedLevel).take
        search.limit.toNat).map (·.entry)) := by
  rw [search_without_window, fetch_of_request positive small
    (scopeChars_ne_nil asked) present asked]
  rfl

/-- A limit that the index cannot represent is refused. -/
theorem search_of_large_limit (asked : requestOf search.query = .ok request)
    (present : store.documents.isNone = false)
    (large : maxLimit < search.limit) :
    store.search [] search = .error .limitTooLarge := by
  have nonnegative : 0 ≤ maxLimit := by decide
  have positive : ¬ search.limit ≤ 0 := by omega
  rw [Store.search, fetch, if_neg positive, scopeChars_ne_nil asked, present,
    if_pos large]
  rfl

/-- A document is among the hits of a request that it answers. -/
theorem mem_hits {document : Document} (stored : document ∈ store.documentList)
    (found : request.finds document = true) :
    document ∈ store.hits request none := by
  rw [(store.hits_perm request none).mem_iff, List.mem_filter, found]
  exact ⟨stored, rfl⟩

theorem length_hits_le (store : Store) (request : Request)
    (level : Option String) :
    (store.hits request level).length ≤ store.count := by
  rw [(store.hits_perm request level).length_eq]
  exact List.length_filter_le _ _

/-- A limit with room for all documents cuts no hits off. -/
theorem take_hits {level : Option String} {limit : Int}
    (room : (store.count : Int) ≤ limit) :
    (store.hits request level).take limit.toNat = store.hits request level := by
  have length := store.length_hits_le request level
  exact List.take_of_length_le (by omega)

theorem isNone_of_mem {document : Document}
    (stored : document ∈ store.documentList) :
    store.documents.isNone = false := by
  cases present : store.documents with
  | none => simp [documentList, present] at stored
  | some documents => rfl

end Store

/--
A search for the message of a stored document in quotes is accepted.  If it has
no window, it shows the document under every limit that leaves room for all
documents, except that the index refuses limits that it cannot represent.
-/
theorem search_own_message {store : Store} {document : Document}
    (stored : document ∈ store.documentList)
    (noNull : ∀ c ∈ document.message.toList, c.toNat ≠ 0)
    (nonempty : Term.terms document.message.toList ≠ [])
    {search : Search} (quotes : search.query = document.quotedMessage) :
    (∃ request,
      requestOf search.query = .ok request ∧
      (∀ other : Document, request.finds other = true ↔
        other.HasPhrase .message document.message.toList) ∧
      (0 < search.limit → search.limit ≤ maxLimit →
        store.search [] search =
          .ok (((store.hits request search.requestedLevel).take
            search.limit.toNat).map (·.entry)))) ∧
    (search.level = none → (store.count : Int) ≤ search.limit →
      search.limit ≤ maxLimit →
      ∃ entries,
        store.search [] search = .ok entries ∧
        document.entry ∈ entries) ∧
    (maxLimit < search.limit →
      store.search [] search = .error .limitTooLarge) := by
  have asked : requestOf search.query =
      .ok (quotedRequest document.message.toList) := by
    rw [quotes]
    exact requestOf_inQuotes noNull
  have present := Store.isNone_of_mem stored
  refine ⟨⟨_, asked, ?_, Store.search_of_request asked present⟩, ?_,
    Store.search_of_large_limit asked present⟩
  · intro other
    rw [finds_quotedRequest]
    exact and_iff_right nonempty
  · intro anyLevel room small
    have some : 0 < store.count := List.length_pos_of_mem stored
    have positive : 0 < search.limit := by omega
    have shows := Store.search_of_request asked present positive small
    have noLevel : search.requestedLevel = none := by
      rw [Search.requestedLevel, anyLevel]
      rfl
    rw [noLevel, Store.take_hits room] at shows
    have hit := Store.mem_hits stored (Document.finds_own_message nonempty)
    exact ⟨_, shows, List.mem_map_of_mem hit⟩

/-! ## A message with marks -/

namespace MarkedMessage

/-- A document whose message looks like a query with filters and quotes. -/
def document : Document :=
  ⟨"n1", "INFO", "level:\"x +y\" (\x7ba\x7d OR\n+b", "20200101000000"⟩

def store : Store where
  documents := some [⟨"n1", "INFO", "x y", "20200102000000"⟩, document]

end MarkedMessage

open MarkedMessage in
theorem search_own_message_marked :
    document ∈ store.documentList ∧
    document.quotedMessage =
      "\"level:\"\"x +y\"\" (\x7ba\x7d OR\n+b\"" ∧
    ∃ entries,
      store.search [] { query := document.quotedMessage, limit := 2 } =
        .ok entries ∧
      document.entry ∈ entries := by
  have stored : document ∈ store.documentList := by
    simp [store, Store.documentList]
  have noNull : ∀ c ∈ document.message.toList, c.toNat ≠ 0 := by decide
  have nonempty : Term.terms document.message.toList ≠ [] := by decide +kernel
  have shows := @search_own_message store document stored noNull nonempty
    { query := document.quotedMessage, limit := 2 } rfl
  exact ⟨stored, by decide +kernel, shows.2.1 rfl (by decide) (by decide)⟩

/-- Under a limit that the index cannot represent, no message is found by its
own text. -/
theorem exists_own_message_refused :
    ∃ (store : Store) (document : Document) (search : Search),
      document ∈ store.documentList ∧
      (∀ c ∈ document.message.toList, c.toNat ≠ 0) ∧
      Term.terms document.message.toList ≠ [] ∧
      search.query = document.quotedMessage ∧
      search.level = none ∧
      (store.count : Int) ≤ search.limit ∧
      store.search [] search = .error .limitTooLarge := by
  let document : Document := ⟨"n1", "INFO", "hello", "20200101000000"⟩
  let store : Store := { documents := some [document] }
  have noNull : ∀ c ∈ document.message.toList, c.toNat ≠ 0 := by decide
  have asked : requestOf document.quotedMessage =
      .ok (quotedRequest document.message.toList) :=
    requestOf_inQuotes noNull
  refine ⟨store, document,
    { query := document.quotedMessage, limit := maxLimit + 1 },
    List.mem_singleton_self document, noNull, by decide +kernel, rfl, rfl,
    by decide, ?_⟩
  exact Store.search_of_large_limit asked rfl (by decide)

end ClusterLog
