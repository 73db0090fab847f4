import ClusterLog.Files.Path
import ClusterLog.Proofs.Text.Split

/-!
# Walks along written paths

A written path says how to walk from a directory: its names are followed one
after the other.  A resolved path is where the walk ends.  No name of it is `.`
or `..`, and its own text leads there again.
-/

namespace ClusterLog.Path

open Text

/-- A file or a directory can have a name. -/
structure IsName (name : String) : Prop where
  nonempty : name ≠ ""
  noStay : name ≠ "."
  noBack : name ≠ ".."
  noSlash : '/' ∉ name.toList
  noNull : '\x00' ∉ name.toList

instance (name : String) : Decidable (IsName name) :=
  decidable_of_iff
    (name ≠ "" ∧ name ≠ "." ∧ name ≠ ".." ∧ '/' ∉ name.toList ∧
      '\x00' ∉ name.toList)
    ⟨fun ⟨nonempty, noStay, noBack, noSlash, noNull⟩ =>
        ⟨nonempty, noStay, noBack, noSlash, noNull⟩,
      fun ⟨nonempty, noStay, noBack, noSlash, noNull⟩ =>
        ⟨nonempty, noStay, noBack, noSlash, noNull⟩⟩

/-- The names between the slashes of a written path. -/
def writtenNames (text : String) : List String :=
  (text.toList.splitOn '/').map String.ofList

/--
The walk from a place along written names to a goal.  No name between two
slashes and the name `.` stay where they are, `..` goes back to the directory
above, and every other name goes on to what has this name.  Above the root is
the root.
-/
inductive Walks : List String → List String → List String → Prop
  | arrived (place : List String) : Walks place [] place
  | stay {place names goal : List String} {name : String}
      (stays : name = "" ∨ name = ".") (others : Walks place names goal) :
      Walks place (name :: names) goal
  | back {place names goal : List String}
      (others : Walks place.dropLast names goal) :
      Walks place (".." :: names) goal
  | enter {place names goal : List String} {name : String}
      (nonempty : name ≠ "") (noStay : name ≠ ".") (noBack : name ≠ "..")
      (others : Walks (place ++ [name]) names goal) :
      Walks place (name :: names) goal

/-- Where the walk along a written path begins. -/
def startOf (place : List String) (text : String) : List String :=
  if text.toList.head? = some '/' then [] else place

/-! ## Ends of walks -/

/-- Whether a written name counts. -/
def counts (name : String) : Bool :=
  name != "" && name != "."

/-- Where one name that counts leads. -/
def step (place : List String) (name : String) : List String :=
  if name = ".." then place.dropLast else place ++ [name]

theorem collapse_append (names others : List String) :
    collapse (names ++ others) = others.foldl step (collapse names) :=
  List.foldl_append

/-- Names without a way back are followed as they are. -/
theorem foldl_step_of_noBack {names : List String}
    (forward : ∀ name ∈ names, name ≠ "..") (place : List String) :
    names.foldl step place = place ++ names := by
  induction names generalizing place with
  | nil => exact (List.append_nil place).symm
  | cons name names ih =>
      rcases List.forall_mem_cons.mp forward with ⟨noBack, others⟩
      rw [List.foldl_cons, step, if_neg noBack, ih others, List.append_assoc]
      rfl

theorem collapse_of_noBack {names : List String}
    (forward : ∀ name ∈ names, name ≠ "..") : collapse names = names :=
  foldl_step_of_noBack forward []

/-- Each walk has one end. -/
theorem walks_iff {place names goal : List String} :
    Walks place names goal ↔ goal = (names.filter counts).foldl step place := by
  constructor
  · intro walks
    induction walks with
    | arrived => rfl
    | stay stays _ ih =>
        rcases stays with rfl | rfl <;> exact ih
    | back _ ih => exact ih
    | @enter place names goal name nonempty noStay noBack _ ih =>
        have counted : counts name = true := by simp [counts, nonempty, noStay]
        rw [List.filter_cons_of_pos counted, List.foldl_cons, step,
          if_neg noBack]
        exact ih
  · rintro rfl
    induction names generalizing place with
    | nil => exact .arrived place
    | cons name names ih =>
        by_cases stays : name = "" ∨ name = "."
        · have passed : ¬ counts name = true := by
            rcases stays with rfl | rfl <;> decide
          rw [List.filter_cons_of_neg passed]
          exact .stay stays ih
        · rw [not_or] at stays
          have counted : counts name = true := by
            simp [counts, stays.1, stays.2]
          rw [List.filter_cons_of_pos counted, List.foldl_cons, step]
          split
          · rename_i same
            subst same
            exact .back ih
          · rename_i noBack
            exact .enter stays.1 stays.2 noBack ih

/-- The names of the end are the names of the beginning and names that were
entered. -/
theorem Walks.isName_of_mem {place names goal : List String} {name : String}
    (walks : Walks place names goal)
    (proper : ∀ name ∈ place, IsName name)
    (noSlash : ∀ name ∈ names, '/' ∉ name.toList)
    (noNull : ∀ name ∈ names, '\x00' ∉ name.toList)
    (member : name ∈ goal) : IsName name := by
  induction walks with
  | arrived => exact proper name member
  | stay _ _ ih =>
      exact ih proper (List.forall_mem_cons.mp noSlash).2
        (List.forall_mem_cons.mp noNull).2 member
  | back _ ih =>
      exact ih (fun other above => proper other (List.dropLast_subset _ above))
        (List.forall_mem_cons.mp noSlash).2
        (List.forall_mem_cons.mp noNull).2 member
  | enter nonempty noStay noBack _ ih =>
      rcases List.forall_mem_cons.mp noSlash with ⟨slash, slashes⟩
      rcases List.forall_mem_cons.mp noNull with ⟨null, nulls⟩
      refine ih (fun other passed => ?_) slashes nulls member
      rcases List.mem_append.mp passed with before | entered
      · exact proper other before
      · obtain rfl := List.mem_singleton.mp entered
        exact ⟨nonempty, noStay, noBack, slash, null⟩

variable {text : String}

theorem isName_of_mem_startOf {place : List String}
    (proper : ∀ name ∈ place, IsName name) :
    ∀ name ∈ startOf place text, IsName name := by
  unfold startOf
  split
  · nofun
  · exact proper

/-! ## Written names -/

theorem noSlash_of_mem_writtenNames {name : String}
    (member : name ∈ writtenNames text) : '/' ∉ name.toList := by
  rcases List.mem_map.mp member with ⟨part, inside, rfl⟩
  rw [← splitAt_eq_splitOn] at inside
  rw [String.toList_ofList]
  exact (of_mem_splitAt inside).1

theorem noNull_of_mem_writtenNames (whole : '\x00' ∉ text.toList)
    {name : String} (member : name ∈ writtenNames text) :
    '\x00' ∉ name.toList := by
  rcases List.mem_map.mp member with ⟨part, inside, rfl⟩
  rw [← splitAt_eq_splitOn] at inside
  rw [String.toList_ofList]
  exact fun null => whole ((of_mem_splitAt inside).2 _ null)

/-- A path that is read has the written names that count. -/
theorem names_ofText (text : String) :
    (ofText text).names = (writtenNames text).filter counts := by
  have same : (fun part : List Char => !part.isEmpty && part != ['.']) =
      counts ∘ String.ofList := by
    funext part
    rw [Bool.eq_iff_iff]
    simp [counts, ← String.toList_inj]
  rw [writtenNames, ← splitAt_eq_splitOn, List.filter_map, ← same]
  rfl

theorem isAbsolute_ofText (text : String) :
    (ofText text).isAbsolute = decide (text.toList.head? = some '/') := by
  rw [isAbsolute, ofText, anchorOf]
  cases text.toList with
  | nil => rfl
  | cons c rest =>
      by_cases slash : c = '/'
      · subst slash
        rw [List.takeWhile_cons_of_pos rfl]
        generalize rest.takeWhile (· == '/') = others
        match others with
        | [] | [_] | _ :: _ :: _ => rfl
      · simp [slash]

/-- A path that is read and resolved is where its walk ends. -/
theorem walks_resolve {current : List String}
    (forward : ∀ name ∈ current, name ≠ "..") (text : String)
    {goal : List String} :
    Walks (startOf current text) (writtenNames text) goal ↔
      goal = ((ofText text).resolve current).names := by
  rw [walks_iff, ← names_ofText, startOf, resolve, isAbsolute_ofText]
  by_cases absolute : text.toList.head? = some '/'
  · simp only [absolute, decide_true, if_true]
    rfl
  · simp only [absolute, decide_false, if_false, Bool.false_eq_true]
    rw [collapse_append, collapse_of_noBack forward]

/-- A path that starts where another one ends is resolved from there. -/
theorem resolve_join {base : Path} (rooted : base.isAbsolute = true)
    (path : Path) (current : List String) :
    (base.join path).resolve current = path.resolve base.names := by
  rw [join, resolve, resolve]
  cases absolute : path.isAbsolute with
  | true => simp [absolute]
  | false =>
      have stays : Path.isAbsolute
          { base with names := base.names ++ path.names } = true := rooted
      simp [stays]

/-! ## Texts of resolved paths -/

theorem toList_text_root (names : List String) :
    (Path.text ⟨.root, names⟩).toList =
      '/' :: ['/'].intercalate (names.map (·.toList)) := by
  simp [Path.text, anchorText, String.toList_intercalate]

theorem noNull_text_root {names : List String}
    (proper : ∀ name ∈ names, IsName name) :
    '\x00' ∉ (Path.text ⟨.root, names⟩).toList := by
  rw [toList_text_root, List.mem_cons]
  rintro (slash | inside)
  · cases slash
  · rcases of_mem_intercalate inside with slash | ⟨part, member, here⟩
    · cases slash
    · rcases List.mem_map.mp member with ⟨name, among, rfl⟩
      exact (proper name among).noNull here

section Roots

variable {first : String} {others : List String}

/-- No name begins with a slash, so that one slash is the root. -/
theorem anchorOf_text_root (proper : IsName first) :
    anchorOf (Path.text ⟨.root, first :: others⟩).toList = .root := by
  have filled : first.toList ≠ [] :=
    mt String.toList_eq_nil_iff.mp proper.nonempty
  rcases List.exists_cons_of_ne_nil filled with ⟨c, rest, spelled⟩
  have noSlash : c ≠ '/' := by
    rintro rfl
    exact proper.noSlash (by simp [spelled])
  rw [toList_text_root, anchorOf]
  cases others <;> simp [spelled, noSlash, List.intercalate_cons_cons]

/-- Nothing stands in front of the first slash. -/
theorem writtenNames_text_root
    (proper : ∀ name ∈ first :: others, IsName name) :
    writtenNames (Path.text ⟨.root, first :: others⟩) =
      "" :: first :: others := by
  have free : ∀ part ∈ (first :: others).map (·.toList), '/' ∉ part := by
    intro part member
    rcases List.mem_map.mp member with ⟨name, inside, rfl⟩
    exact (proper name inside).noSlash
  have parts := List.splitOn_intercalate '/' free (by simp)
  rw [writtenNames, toList_text_root, ← splitAt_eq_splitOn, splitAt,
    if_pos (beq_self_eq_true _), splitAt_eq_splitOn, parts, List.map_cons,
    List.map_map]
  simp [Function.comp_def]

end Roots

/-- The text of a path from the root is read as this path. -/
theorem ofText_text_root {names : List String}
    (proper : ∀ name ∈ names, IsName name) :
    ofText (Path.text ⟨.root, names⟩) = ⟨.root, names⟩ := by
  cases names with
  | nil => decide
  | cons first others =>
      have counted : ∀ name ∈ first :: others, counts name = true := by
        intro name member
        simp [counts, (proper name member).nonempty, (proper name member).noStay]
      have anchored : anchorOf (Path.text ⟨.root, first :: others⟩).toList =
          .root := anchorOf_text_root (proper first List.mem_cons_self)
      have read := names_ofText (Path.text ⟨.root, first :: others⟩)
      rw [writtenNames_text_root proper, List.filter_cons_of_neg (by decide),
        List.filter_eq_self.mpr counted] at read
      calc ofText (Path.text ⟨.root, first :: others⟩)
        _ = ⟨anchorOf (Path.text ⟨.root, first :: others⟩).toList,
              (ofText (Path.text ⟨.root, first :: others⟩)).names⟩ := rfl
        _ = ⟨.root, first :: others⟩ := by rw [anchored, read]

end ClusterLog.Path
