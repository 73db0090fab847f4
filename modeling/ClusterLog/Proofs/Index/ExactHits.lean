import ClusterLog.Proofs.Calendar.Order
import ClusterLog.Proofs.Computation
import ClusterLog.Proofs.Index.Places

/-!
# Exact answers

Where all timestamps are dates, a search shows exactly the documents that
answer its request, have its level and are inside their hosts' windows, apart
from those that have too many other hits in front of them.  The hits outside the
windows count among these.
-/

namespace ClusterLog

open Calendar Query Text

/-! ## The first members of a strict order -/

section Order

variable {α : Type} {items : List α} {before : α → α → Bool}

/-- A member of a list in strict order is among the first ones if less of them
are before it. -/
theorem mem_take_iff_countP_lt
    (asymm : ∀ a b, before a b = true → before b a = false)
    (ordered : items.Pairwise (before · · = true))
    {item : α} (member : item ∈ items) (count : Nat) :
    item ∈ items.take count ↔ items.countP (before · item) < count := by
  have irrefl (a : α) : before a a = false := by
    cases self : before a a with
    | false => rfl
    | true => exact self.symm.trans (asymm a a self)
  -- The first item is before all others, so it counts for each of them.
  induction items generalizing count with
  | nil => cases member
  | cons first others ih =>
      rcases List.pairwise_cons.mp ordered with ⟨firstBefore, orderedOthers⟩
      cases count with
      | zero => simp
      | succ count =>
          rw [List.take_succ_cons, List.countP_cons]
          rcases List.mem_cons.mp member with rfl | inside
          · have none : others.countP (before · item) = 0 := by
              rw [List.countP_eq_zero]
              intro other behind
              simp [asymm item other (firstBefore other behind)]
            simp [none, irrefl]
          · have front : before first item = true := firstBefore item inside
            have distinct : item ≠ first := by
              rintro rfl
              rw [irrefl] at front
              cases front
            have behind : item ∈ others.take count ↔
                others.countP (before · item) < count :=
              ih orderedOthers inside count
            rw [if_pos front, List.mem_cons, or_iff_right distinct, behind]
            omega

end Order

/-! ## Dated documents -/

/-- The timestamp of a document is fourteen digits that name a date. -/
def Document.IsDated (document : Document) : Prop :=
  ∃ time : DateTime, document.timestamp.toList = time.fourteenDigits

theorem Document.IsDated.exists_date {document : Document}
    (dated : document.IsDated) :
    ∃ time, document.entry.date? = some time ∧
      document.timestamp.toList = time.fourteenDigits := by
  rcases dated with ⟨time, written⟩
  exact ⟨time, DateTime.ofStamp?_fourteenDigits written, written⟩

/-- Whether a placed document comes before another one: it is later, or equally
late and added first. -/
def Placed.comesBefore (placed other : Placed) : Bool :=
  match placed.1.entry.date?, other.1.entry.date? with
  | some time, some otherTime =>
    decide (otherTime < time ∨ time = otherTime ∧ placed.2 < other.2)
  | _, _ => false

theorem Placed.comesBefore_iff {placed other : Placed} {time otherTime : DateTime}
    (date : placed.1.entry.date? = some time)
    (otherDate : other.1.entry.date? = some otherTime) :
    placed.comesBefore other = true ↔
      otherTime < time ∨ time = otherTime ∧ placed.2 < other.2 := by
  rw [comesBefore, date, otherDate]
  exact decide_eq_true_iff

theorem Placed.comesBefore_asymm (placed other : Placed)
    (before : placed.comesBefore other = true) :
    other.comesBefore placed = false := by
  cases date : placed.1.entry.date? with
  | none => simp [comesBefore, date] at before
  | some time =>
      cases otherDate : other.1.entry.date? with
      | none => simp [comesBefore, date, otherDate] at before
      | some otherTime =>
          rw [comesBefore_iff date otherDate] at before
          rw [Bool.eq_false_iff]
          intro behind
          rw [comesBefore_iff otherDate date] at behind
          rw [DateTime.lt_iff] at before behind
          rcases before with later | ⟨rfl, first⟩
          · rcases behind with earlier | ⟨rfl, -⟩ <;> omega
          · omega

/-- Of dated documents the order of hits is the order of their dates. -/
theorem isNoEarlier_iff {document other : Document} {time otherTime : DateTime}
    (written : document.timestamp.toList = time.fourteenDigits)
    (otherWritten : other.timestamp.toList = otherTime.fourteenDigits) :
    isNoEarlier document other = true ↔ otherTime ≤ time := by
  rw [isNoEarlier, written, otherWritten]
  exact DateTime.precedes_fourteenDigits otherTime time

theorem comesBefore_of_isNoEarlier {placed other : Placed}
    (dated : placed.1.IsDated) (otherDated : other.1.IsDated)
    (noEarlier : placed.isNoEarlier other = true)
    (tie : other.isNoEarlier placed = true → placed.2 < other.2) :
    placed.comesBefore other = true := by
  rcases dated.exists_date with ⟨time, date, written⟩
  rcases otherDated.exists_date with ⟨otherTime, otherDate, otherWritten⟩
  rw [Placed.comesBefore_iff date otherDate]
  have atMost : otherTime ≤ time :=
    (isNoEarlier_iff written otherWritten).mp noEarlier
  rcases Nat.lt_or_eq_of_le atMost with less | same
  · exact Or.inl less
  · have equal : otherTime = time := DateTime.eq_of_seconds_eq same
    have back : other.isNoEarlier placed = true :=
      (isNoEarlier_iff otherWritten written).mpr (Nat.le_of_eq same.symm)
    exact Or.inr ⟨equal.symm, tie back⟩

/-- The window of dated documents can always be looked at. -/
theorem insideWindow_of_dated (window : ReportWindow)
    {documents : List Document}
    (dated : ∀ document ∈ documents, document.IsDated) :
    insideWindow window documents =
      .ok (documents.filter (isShown window)) := by
  apply insideWindow_of_dates window
  intro document member
  rcases (dated document member).exists_date with ⟨time, date, -⟩
  rw [date]
  rfl

/-! ## Answers -/

/-- The level that a search asks for. -/
def Search.requestedLevel (search : Search) : Option String :=
  search.level.map fun level => String.ofList (upper level.toList)

/-- A stored document that answers a request, has the level of a search and is
later than the start of its host's window. -/
structure Store.Answers (store : Store) (window : ReportWindow)
    (request : Request) (search : Search) (placed : Placed) : Prop where
  stored : store.documentList[placed.2]? = some placed.1
  found : request.finds placed.1 = true
  hasLevel : ∀ level, search.requestedLevel = some level →
    placed.1.level = level
  inWindow : ∀ start, window.lookup placed.1.host = some start →
    ∃ date, placed.1.entry.date? = some date ∧ start < date

theorem isHit_iff {request : Request} {level : Option String}
    {document : Document} :
    isHit request level document = true ↔
      request.finds document = true ∧
        ∀ wanted, level = some wanted → document.level = wanted := by
  rw [isHit, Bool.and_eq_true]
  cases level with
  | none => simp
  | some wanted =>
      have same : (wanted == document.level) = true ↔
          ∀ other, some wanted = some other → document.level = other := by
        rw [beq_iff_eq]
        constructor
        · rintro rfl other equal
          exact Option.some.inj equal
        · intro every
          exact (every wanted rfl).symm
      rw [← same]
      rfl

theorem isShown_iff_start_lt {window : ReportWindow} {document : Document} :
    isShown window document = true ↔
      ∀ start, window.lookup document.host = some start →
        ∃ date, document.entry.date? = some date ∧ start < date := by
  rw [isShown_iff, isInWindow]
  cases window.lookup document.host with
  | none => simp
  | some start =>
      cases document.entry.date? with
      | none => simp
      | some date => simp

theorem Store.answers_iff {store : Store} {window : ReportWindow}
    {request : Request} {search : Search} {placed : Placed} :
    store.Answers window request search placed ↔
      placed ∈ store.foundPlaces request search.requestedLevel ∧
        isShown window placed.1 = true := by
  rw [Store.mem_foundPlaces, isHit_iff, isShown_iff_start_lt]
  constructor
  · rintro ⟨stored, found, hasLevel, inWindow⟩
    exact ⟨⟨stored, found, hasLevel⟩, inWindow⟩
  · rintro ⟨⟨stored, found, hasLevel⟩, inWindow⟩
    exact ⟨stored, found, hasLevel, inWindow⟩

/-- What is asked of an index is never written with nothing. -/
theorem scopeChars_ne_nil {query : String} {request : Request}
    (asked : requestOf query = .ok request) :
    (scopeChars defaultColumn.toList query.toList).isEmpty = false := by
  rw [Bool.eq_false_iff]
  intro empty
  rw [List.isEmpty_iff] at empty
  have nothing : (Request.ofExpression {} []).toOption.isNone = true := by
    decide +kernel
  rw [requestOf, empty] at asked
  split at asked
  · rename_i other asks
    rw [asks] at nothing
    cases nothing
  · cases asked

section Dated

variable {store : Store}
variable (dated : ∀ document ∈ store.documentList, document.IsDated)
include dated

theorem Store.isDated_of_hit {request : Request} {level : Option String}
    {placed : Placed} (hit : placed ∈ store.placedHits request level) :
    placed.1.IsDated := by
  have found := (store.placedHits_perm request level).mem_iff.mp hit
  rcases (store.mem_foundPlaces request level).mp found with ⟨stored, -⟩
  exact dated placed.1 (List.mem_of_getElem? stored)

/-- The hits come in the order of their dates. -/
theorem Store.placedHits_ordered (request : Request) (level : Option String) :
    (store.placedHits request level).Pairwise (·.comesBefore · = true) := by
  have sorted := store.placedHits_pairwise request level
  apply List.Pairwise.imp_of_mem _ sorted
  intro placed other hit otherHit before
  exact comesBefore_of_isNoEarlier (Store.isDated_of_hit dated hit)
    (Store.isDated_of_hit dated otherHit) before.1 before.2

/-- The search itself: the first hits, without those outside the windows. -/
theorem Store.search_eq_shown {search : Search} {request : Request}
    (present : store.documents.isSome)
    (asked : requestOf search.query = .ok request)
    (positive : 0 < search.limit) (small : search.limit ≤ maxLimit)
    (window : ReportWindow) :
    store.search window search =
      .ok ((((store.placedHits request search.requestedLevel).take
        search.limit.toNat).filter
          (isShown window ·.1)).map (·.1.entry)) := by
  have place : store.documents.isNone = false := by
    rw [← Option.not_isSome, present]
    rfl
  have takes : store.fetch search =
      .ok ((store.hits request search.requestedLevel).take
        search.limit.toNat) :=
    Store.fetch_of_request positive small (scopeChars_ne_nil asked) place asked
  have hits : store.hits request search.requestedLevel =
      (store.placedHits request search.requestedLevel).map Prod.fst :=
    (store.map_fst_placedHits request search.requestedLevel).symm
  have datedHits : ∀ document ∈
      (store.hits request search.requestedLevel).take search.limit.toNat,
      document.IsDated := by
    intro document member
    rw [hits, ← List.map_take] at member
    rcases List.mem_map.mp member with ⟨placed, taken, rfl⟩
    exact Store.isDated_of_hit dated (List.mem_of_mem_take taken)
  have shows := Store.search_of_fetch takes (insideWindow_of_dated window datedHits)
  rw [shows, hits, ← List.map_take, List.filter_map, List.map_map]
  rfl

/--
A search over dated documents shows exactly the answers to its request that
have less than its limit of hits in front of them, in the order of their dates.
The hits in front count whether they are inside their hosts' windows or not.
-/
theorem search_exact {search : Search} {request : Request}
    (present : store.documents.isSome)
    (asked : requestOf search.query = .ok request)
    (positive : 0 < search.limit) (small : search.limit ≤ maxLimit)
    (window : ReportWindow) :
    ∃ shown : List Placed,
      store.search window search = .ok (shown.map (·.1.entry)) ∧
      (∀ placed ∈ shown, store.Answers window request search placed) ∧
      (shown.map Prod.snd).Nodup ∧
      shown.Pairwise (·.comesBefore · = true) ∧
      ∀ placed, store.Answers window request search placed →
        (placed ∉ shown ↔
          search.limit ≤
            (store.foundPlaces request search.requestedLevel).countP
              (·.comesBefore placed)) := by
  refine ⟨_, store.search_eq_shown dated present asked positive small window,
    ?_, ?_, ?_, ?_⟩
  · intro placed member
    rcases List.mem_filter.mp member with ⟨taken, inside⟩
    have found := (store.placedHits_perm request search.requestedLevel).mem_iff.mp
      (List.mem_of_mem_take taken)
    exact Store.answers_iff.mpr ⟨found, inside⟩
  · have nodup : ((store.placedHits request search.requestedLevel).map
        Prod.snd).Nodup := by
      have places := (store.placedHits_perm request
        search.requestedLevel).map Prod.snd
      have ascend := store.foundPlaces_ascend request search.requestedLevel
      rw [places.nodup_iff]
      exact (List.pairwise_map.mpr ascend).imp Nat.ne_of_lt
    exact nodup.sublist
      ((List.filter_sublist.trans (List.take_sublist _ _)).map Prod.snd)
  · exact ((store.placedHits_ordered dated request _).sublist
      (List.take_sublist _ _)).sublist List.filter_sublist
  · intro placed answers
    rcases Store.answers_iff.mp answers with ⟨found, inside⟩
    -- The hits are the found places in another order, so as many of these are
    -- in front.
    have perm := store.placedHits_perm request search.requestedLevel
    have hit := perm.mem_iff.mpr found
    have ordered := store.placedHits_ordered dated request search.requestedLevel
    have first := mem_take_iff_countP_lt Placed.comesBefore_asymm ordered hit
      search.limit.toNat
    rw [perm.countP_eq] at first
    rw [List.mem_filter, first, and_iff_left inside, Nat.not_lt]
    omega

end Dated

/-! ## A hit outside its window -/

namespace HiddenHit

/-- Midnight of a day in January 2020. -/
def midnight (day : Nat) (valid : IsDate 2020 1 day) : DateTime :=
  ⟨⟨2020, 1, day, valid⟩, 0, 0, 0, DateTime.midnight_valid⟩

def hidden : Document :=
  ⟨"a", "INFO", "hello", "20200110000000"⟩

def older : Document :=
  ⟨"b", "INFO", "hello", "20200105000000"⟩

def store : Store where
  documents := some [hidden, older]

/-- The report on the first host starts after its last document. -/
def window : ReportWindow :=
  [("a", midnight 15 (by decide))]

theorem dated : ∀ document ∈ store.documentList, document.IsDated := by
  intro document member
  have either : document = hidden ∨ document = older := by
    simpa [store, Store.documentList] using member
  rcases either with rfl | rfl
  · exact ⟨midnight 10 (by decide), by decide +kernel⟩
  · exact ⟨midnight 5 (by decide), by decide +kernel⟩

theorem exists_request :
    ∃ request,
      requestOf "hello" = .ok request ∧
      request.finds hidden = true ∧
      request.finds older = true := by
  have found :
      ((requestOf "hello").toOption.map fun request =>
        (request.finds hidden, request.finds older)) = some (true, true) := by
    decide +kernel
  rcases exists_ok_of_map_toOption found with ⟨request, asked, same⟩
  rcases Prod.mk.inj same with ⟨first, second⟩
  exact ⟨request, asked, first, second⟩

end HiddenHit

/-- The older document is inside its window, and the limit goes to a hit that is
not shown. -/
theorem search_exact_hiddenHit :
    ∃ request,
      requestOf "hello" = .ok request ∧
      HiddenHit.store.Answers HiddenHit.window request
        { query := "hello", limit := 1 } (HiddenHit.older, 1) ∧
      ∃ shown : List Placed,
        HiddenHit.store.search HiddenHit.window
          { query := "hello", limit := 1 } = .ok (shown.map (·.1.entry)) ∧
        (HiddenHit.older, 1) ∉ shown := by
  rcases HiddenHit.exists_request with ⟨request, asked, findsHidden, findsOlder⟩
  have answers : HiddenHit.store.Answers HiddenHit.window request
      { query := "hello", limit := 1 } (HiddenHit.older, 1) :=
    ⟨rfl, findsOlder, nofun, nofun⟩
  have small : (1 : Int) ≤ maxLimit := by decide +kernel
  obtain ⟨shown, shows, -, -, -, absent⟩ := @search_exact HiddenHit.store
    HiddenHit.dated { query := "hello", limit := 1 } request rfl asked
    Int.one_pos small HiddenHit.window
  refine ⟨request, asked, answers, shown, shows, (absent _ answers).mpr ?_⟩
  have found : (HiddenHit.hidden, 0) ∈
      HiddenHit.store.foundPlaces request none := by
    rw [Store.mem_foundPlaces, isHit_iff]
    exact ⟨rfl, findsHidden, nofun⟩
  have front : Placed.comesBefore (HiddenHit.hidden, 0) (HiddenHit.older, 1) =
      true := by
    decide +kernel
  have some : 0 < (HiddenHit.store.foundPlaces request none).countP
      (Placed.comesBefore · (HiddenHit.older, 1)) :=
    List.countP_pos_iff.mpr ⟨_, found, front⟩
  exact Int.ofNat_le.mpr some

end ClusterLog
