import ClusterLog.Index.Search

/-!
# Hits of searches

A search that succeeds takes the first of its hits, as many as its limit says,
and shows those inside their hosts' report windows.
-/

namespace ClusterLog

open Query Text

/-- Whether a search shows a document that it takes. -/
def isShown (window : ReportWindow) (document : Document) : Bool :=
  match isInWindow window document with
  | .ok inside => inside
  | .error _ => false

theorem isShown_iff {window : ReportWindow} {document : Document} :
    isShown window document = true ↔ isInWindow window document = .ok true := by
  unfold isShown
  cases isInWindow window document <;> simp

/-- Of the documents that a search takes it shows those inside the window. -/
theorem insideWindow_eq_ok {window : ReportWindow}
    {documents kept : List Document}
    (succeeds : insideWindow window documents = .ok kept) :
    kept = documents.filter (isShown window) := by
  induction documents generalizing kept with
  | nil =>
      cases succeeds
      rfl
  | cons document documents ih =>
      rw [insideWindow] at succeeds
      cases here : isInWindow window document with
      | error failure => simp [here, bind, Except.bind] at succeeds
      | ok inside =>
          cases there : insideWindow window documents with
          | error failure => simp [here, there, bind, Except.bind] at succeeds
          | ok others =>
              rw [here, there] at succeeds
              cases succeeds
              have shown : isShown window document = inside := by
                simp [isShown, here]
              rw [List.filter_cons, shown, ← ih there]

/-- Where it can be told of every document whether it is inside the window,
those that are inside are shown. -/
theorem insideWindow_of_forall {window : ReportWindow}
    {documents : List Document}
    (told : ∀ document ∈ documents,
      ∃ inside, isInWindow window document = .ok inside) :
    insideWindow window documents =
      .ok (documents.filter (isShown window)) := by
  induction documents with
  | nil => rfl
  | cons document documents ih =>
      have others := ih fun other member => told other (by simp [member])
      rcases told document (by simp) with ⟨inside, here⟩
      have shown : isShown window document = inside := by
        simp [isShown, here]
      rw [insideWindow, here, others, List.filter_cons, shown]
      cases inside <;> rfl

/-- Of a document with a readable date it can be told whether it is inside. -/
theorem exists_isInWindow (window : ReportWindow) {document : Document}
    (dated : document.entry.date?.isSome = true) :
    ∃ inside, isInWindow window document = .ok inside := by
  rcases Option.isSome_iff_exists.mp dated with ⟨date, read⟩
  rw [isInWindow, read]
  cases window.lookup document.host with
  | none => exact ⟨true, rfl⟩
  | some start => exact ⟨_, rfl⟩

/-- The window of documents with readable dates can always be looked at. -/
theorem insideWindow_of_dates (window : ReportWindow)
    {documents : List Document}
    (dated : ∀ document ∈ documents, document.entry.date?.isSome = true) :
    insideWindow window documents =
      .ok (documents.filter (isShown window)) :=
  insideWindow_of_forall fun document member =>
    exists_isInWindow window (dated document member)

namespace Store

variable {store : Store} {request : Request} {level : Option String}

/-- The hits are the documents that answer the request, in another order. -/
theorem hits_perm (store : Store) (request : Request) (level : Option String) :
    (store.hits request level).Perm
      (store.documentList.filter fun document =>
        request.finds document && level.all (· == document.level)) :=
  List.mergeSort_perm _ _

/-- Documents that answer a request in the order of hits are the hits. -/
theorem hits_of_pairwise
    (sorted :
      (store.documentList.filter fun document =>
        request.finds document && level.all (· == document.level)).Pairwise
          (isNoEarlier · ·)) :
    store.hits request level =
      store.documentList.filter fun document =>
        request.finds document && level.all (· == document.level) :=
  List.mergeSort_of_pairwise sorted

/-- A search takes documents under a limit that is positive and not too large,
for a query that is not blank, from a store with a place for them. -/
theorem fetch_of_request {search : Search}
    (positive : 0 < search.limit) (small : search.limit ≤ maxLimit)
    (nonempty :
      (scopeChars defaultColumn.toList search.query.toList).isEmpty = false)
    (present : store.documents.isNone = false)
    (asked : requestOf search.query = .ok request) :
    store.fetch search =
      .ok ((store.hits request (search.level.map fun level =>
        String.ofList (upper level.toList))).take search.limit.toNat) := by
  have notLow : ¬ search.limit ≤ 0 := by omega
  have notHigh : ¬ maxLimit < search.limit := by omega
  rw [fetch, if_neg notLow, nonempty, present, if_neg notHigh, asked]
  rfl

/-- What a search shows of the documents that it takes. -/
theorem search_of_fetch {window : ReportWindow} {search : Search}
    {taken kept : List Document} (takes : store.fetch search = .ok taken)
    (shows : insideWindow window taken = .ok kept) :
    store.search window search = .ok (kept.map (·.entry)) := by
  rw [Store.search, takes]
  simp only [bind, Except.bind, shows, pure, Except.pure]

/-- What a search takes if it succeeds. -/
theorem fetch_eq_ok {search : Search} {documents : List Document}
    (succeeds : store.fetch search = .ok documents) :
    0 < search.limit ∧
    ∃ request,
      requestOf search.query = .ok request ∧
      documents =
        (store.hits request (search.level.map fun level =>
          String.ofList (upper level.toList))).take search.limit.toNat := by
  simp only [fetch, bind, Except.bind, throw, throwThe, MonadExceptOf.throw,
    pure, Except.pure] at succeeds
  split at succeeds
  · cases succeeds
  · rename_i positive
    split at succeeds
    · cases succeeds
    · split at succeeds
      · cases succeeds
      · split at succeeds
        · cases succeeds
        · split at succeeds
          · cases succeeds
          · rename_i request asked
            cases succeeds
            exact ⟨by omega, request, asked, rfl⟩

/-- The documents that a search takes are stored. -/
theorem mem_of_fetch {search : Search} {taken : List Document}
    (succeeds : store.fetch search = .ok taken) {document : Document}
    (member : document ∈ taken) :
    document ∈ store.documentList := by
  rcases fetch_eq_ok succeeds with ⟨-, request, -, rfl⟩
  have hit := (store.hits_perm request _).mem_iff.mp (List.mem_of_mem_take member)
  exact (List.mem_filter.mp hit).1

/-- What a search shows if it succeeds. -/
theorem search_eq_ok {window : ReportWindow} {search : Search}
    {entries : List Entry}
    (succeeds : store.search window search = .ok entries) :
    0 < search.limit ∧
    ∃ request,
      requestOf search.query = .ok request ∧
      entries =
        (((store.hits request (search.level.map fun level =>
          String.ofList (upper level.toList))).take
            search.limit.toNat).filter (isShown window)).map (·.entry) := by
  rw [Store.search] at succeeds
  cases taken : store.fetch search with
  | error failure => simp [taken, bind, Except.bind] at succeeds
  | ok documents =>
      cases shown : insideWindow window documents with
      | error failure => simp [taken, shown, bind, Except.bind] at succeeds
      | ok kept =>
          simp only [taken, bind, Except.bind, shown] at succeeds
          cases succeeds
          rcases fetch_eq_ok taken with ⟨positive, request, asked, same⟩
          rw [insideWindow_eq_ok shown, same]
          exact ⟨positive, request, asked, rfl⟩

end Store

end ClusterLog
