import ClusterLog.Proofs.Index.Hits
import ClusterLog.Proofs.StableOrder
import ClusterLog.Proofs.Text.Order

/-!
# Places of hits

The hits of a search stand at places among the documents of its store.  With
their places the hits are distinct, and their order is strict: of two equally
late documents the one that was added first comes first.
-/

namespace ClusterLog

open Query Text

theorem isNoEarlier_trans (first second third : Document)
    (before : isNoEarlier first second = true)
    (behind : isNoEarlier second third = true) :
    isNoEarlier first third = true :=
  precedes_trans behind before

theorem isNoEarlier_total (document other : Document) :
    (isNoEarlier document other || isNoEarlier other document) = true :=
  precedes_total _ _

/-! ## Placed hits -/

/-- A document with its place among the documents of a store. -/
abbrev Placed := Document × Nat

/-- Whether a document answers a request and has a level. -/
def isHit (request : Request) (level : Option String) (document : Document) :
    Bool :=
  request.finds document && level.all (· == document.level)

/-- Whether a placed document comes before another one in the order of hits, or
is as late. -/
def Placed.isNoEarlier (placed other : Placed) : Bool :=
  ClusterLog.isNoEarlier placed.1 other.1

namespace Store

variable (store : Store) (request : Request) (level : Option String)

/-- The documents that answer a request and have a level, with their places. -/
def foundPlaces : List Placed :=
  store.documentList.zipIdx.filter fun placed => isHit request level placed.1

/-- The hits with their places. -/
def placedHits : List Placed :=
  (store.foundPlaces request level).mergeSort Placed.isNoEarlier

theorem mem_foundPlaces {placed : Placed} :
    placed ∈ store.foundPlaces request level ↔
      store.documentList[placed.2]? = some placed.1 ∧
        isHit request level placed.1 = true := by
  rw [foundPlaces, List.mem_filter, List.mem_zipIdx_iff_getElem?]

theorem map_fst_placedHits :
    (store.placedHits request level).map Prod.fst =
      store.hits request level := by
  have same : ∀ placed ∈ store.foundPlaces request level,
      ∀ other ∈ store.foundPlaces request level,
        placed.isNoEarlier other = isNoEarlier placed.1 other.1 :=
    fun _ _ _ _ => rfl
  have found : (store.foundPlaces request level).map Prod.fst =
      store.documentList.filter (isHit request level) := by
    have all := List.zipIdx_map_fst 0 store.documentList
    conv_rhs => rw [← all, List.filter_map]
    rfl
  rw [placedHits, List.map_mergeSort same, found]
  rfl

theorem placedHits_perm :
    (store.placedHits request level).Perm (store.foundPlaces request level) :=
  List.mergeSort_perm _ _

theorem foundPlaces_ascend :
    (store.foundPlaces request level).Pairwise (·.2 < ·.2) := by
  apply List.Pairwise.filter
  apply List.pairwise_map.mp
  rw [List.zipIdx_map_snd]
  exact List.pairwise_lt_range'

theorem nodup_foundPlaces : (store.foundPlaces request level).Nodup := by
  apply (store.foundPlaces_ascend request level).imp
  rintro placed other less rfl
  exact Nat.lt_irrefl _ less

/-- The hits stand in a strict order. -/
theorem placedHits_pairwise :
    (store.placedHits request level).Pairwise fun placed other =>
      placed.isNoEarlier other = true ∧
        (other.isNoEarlier placed = true → placed.2 < other.2) :=
  pairwise_mergeSort_of_tie (fun _ _ _ => isNoEarlier_trans _ _ _)
    (fun _ _ => isNoEarlier_total _ _)
    (store.nodup_foundPlaces request level)
    (store.foundPlaces_ascend request level)

end Store

end ClusterLog
