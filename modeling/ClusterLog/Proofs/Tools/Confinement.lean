import ClusterLog.Proofs.Files.Walks
import ClusterLog.Tools.Confinement

/-!
# Confined paths

A tool walks along the path that it is given from the base directory.  Where the
walk ends in the base directory or below it, the tool gets the end, and every
other end is refused.  Only a path that starts in a home directory goes
elsewhere.
-/

namespace ClusterLog

namespace Path

/-- A written path starts in a home directory: it is relative, and its first
name that counts begins with a tilde. -/
def StartsAtHome (text : String) : Prop :=
  text.toList.head? ≠ some '/' ∧
    ∃ name ∈ (writtenNames text).find? counts, name.toList.head? = some '~'

instance (text : String) : Decidable (StartsAtHome text) :=
  inferInstanceAs (Decidable (_ ∧ ∃ name ∈ (_ : Option String), _))

/-- Only a path that starts in a home directory names its user. -/
theorem homeUser?_ofText {text : String} (elsewhere : ¬ StartsAtHome text) :
    (ofText text).homeUser? = none := by
  rw [homeUser?, isAbsolute_ofText, names_ofText, List.head?_filter]
  split
  · rfl
  · rename_i relative
    split
    · rename_i user spelled
      rcases Option.map_eq_some_iff.mp spelled with ⟨name, first, same⟩
      refine absurd ⟨by simpa using relative, name, first, ?_⟩ elsewhere
      rw [same]
      rfl
    · rfl

theorem expandHome_ofText {text : String} (elsewhere : ¬ StartsAtHome text)
    (home? : String → Option String) :
    (ofText text).expandHome home? = .ok (ofText text) := by
  rw [expandHome, homeUser?_ofText elsewhere]

theorem hasNull_eq_false {path : Path}
    (whole : ∀ name ∈ path.names, '\x00' ∉ name.toList) :
    path.hasNull = false := by
  rw [hasNull, List.any_eq_false]
  intro name member inside
  rcases List.any_eq_true.mp inside with ⟨c, here, zero⟩
  obtain rfl : c = '\x00' := Char.toNat_inj.mp (by simpa using zero)
  exact whole name member here

end Path

open ClusterLog.Path

section Confinement

/-- The base directory, as the environment writes it. -/
def baseText (environment : Environment) : String :=
  (environment.lookup baseDirectoryVariable).getD ""

/-- Tools run in a directory, and no variable of theirs has a null character. -/
structure AreSurroundings (environment : Environment) (current : List String) :
    Prop where
  current : ∀ name ∈ current, IsName name
  base : '\x00' ∉ (baseText environment).toList

variable {environment : Environment} {current : List String} {text : String}

section Surroundings

variable (surroundings : AreSurroundings environment current)
include surroundings

theorem AreSurroundings.walks_base {place : List String} :
    Walks (startOf current (baseText environment))
        (writtenNames (baseText environment)) place ↔
      place = (baseDirectory environment current).names :=
  walks_resolve (fun name member => (surroundings.current name member).noBack) _

theorem AreSurroundings.isName_base :
    ∀ name ∈ (baseDirectory environment current).names, IsName name := by
  intro name member
  have walks := surroundings.walks_base.mpr rfl
  exact walks.isName_of_mem (isName_of_mem_startOf surroundings.current)
    (fun other => noSlash_of_mem_writtenNames)
    (fun other => noNull_of_mem_writtenNames surroundings.base) member

theorem AreSurroundings.walks_iff (text : String) {place : List String} :
    Walks (startOf (baseDirectory environment current).names text)
        (writtenNames text) place ↔
      place =
        ((ofText text).resolve (baseDirectory environment current).names).names :=
  walks_resolve (fun name member => (surroundings.isName_base name member).noBack)
    text

/-- Nothing that a tool walks along has a null character. -/
theorem AreSurroundings.hasNull_join (whole : '\x00' ∉ text.toList) :
    ((baseDirectory environment current).join (ofText text)).hasNull =
      false := by
  have wholeText : ∀ name ∈ (ofText text).names, '\x00' ∉ name.toList := by
    intro name member
    rw [names_ofText] at member
    exact noNull_of_mem_writtenNames whole (List.mem_filter.mp member).1
  apply hasNull_eq_false
  intro name member
  unfold join at member
  split at member
  · exact wholeText name member
  · rcases List.mem_append.mp member with above | written
    · exact (surroundings.isName_base name above).noNull
    · exact wholeText name written

/-- A tool gets the end of the walk, if that is not outside. -/
theorem AreSurroundings.confine_eq (whole : '\x00' ∉ text.toList)
    (elsewhere : ¬ StartsAtHome text) (accounts : Accounts) {goal : List String}
    (walks : Walks (startOf (baseDirectory environment current).names text)
      (writtenNames text) goal) :
    confine environment accounts current text =
      if (baseDirectory environment current).names <+: goal then
        .ok ⟨.root, goal⟩
      else .error (.pathEscapes (baseDirectory environment current).text) := by
  have rooted : (baseDirectory environment current).isAbsolute = true := rfl
  obtain rfl := (surroundings.walks_iff text).mp walks
  simp only [confine, expandHome_ofText elsewhere, bind, Except.bind,
    surroundings.hasNull_join whole, resolve_join rooted, isWithin,
    List.isPrefixOf_iff_prefix, Bool.false_eq_true, if_false]
  rfl

/-- The end of a walk is given again for its own text. -/
theorem AreSurroundings.confine_text {goal : List String}
    (proper : ∀ name ∈ goal, IsName name)
    (inside : (baseDirectory environment current).names <+: goal)
    (accounts : Accounts) :
    confine environment accounts current (Path.text ⟨.root, goal⟩) =
      .ok ⟨.root, goal⟩ := by
  have slash : (Path.text ⟨.root, goal⟩).toList.head? = some '/' := by
    rw [toList_text_root, List.head?_cons]
  have returns : Walks
      (startOf (baseDirectory environment current).names
        (Path.text ⟨.root, goal⟩))
      (writtenNames (Path.text ⟨.root, goal⟩)) goal := by
    rw [surroundings.walks_iff, ofText_text_root proper]
    exact (collapse_of_noBack fun name member =>
      (proper name member).noBack).symm
  rw [surroundings.confine_eq (noNull_text_root proper)
    (fun atHome => atHome.1 slash) accounts returns, if_pos inside]

end Surroundings

/-- What only begins with the name of a directory does not lie below it. -/
theorem not_prefix_of_sibling {above below : List String} {name extra : String}
    (longer : extra ≠ "") :
    ¬ above ++ [name] <+: above ++ (name ++ extra) :: below := by
  rw [List.prefix_append_right_inj, List.cons_prefix_cons]
  rintro ⟨same, -⟩
  exact longer (String.append_eq_left_iff.mp same.symm)

/--
The path that a tool is given says how to walk from the base directory, and the
base directory is where the walk along its own text ends.  If the given path
ends in the base directory or below it, the tool gets the end, whose names are
names of files, and gets it again for its text.  Every other end is refused, and
so is one in or below a directory with a name that goes on where the name of the
base directory ends.
-/
theorem confine_outcome (surroundings : AreSurroundings environment current)
    (whole : '\x00' ∉ text.toList) (elsewhere : ¬ StartsAtHome text)
    (accounts : Accounts) :
    ∃ base goal : List String,
      (∀ place,
        Walks (startOf current (baseText environment))
            (writtenNames (baseText environment)) place ↔
          place = base) ∧
      (∀ place,
        Walks (startOf base text) (writtenNames text) place ↔ place = goal) ∧
      (∀ name ∈ goal, IsName name) ∧
      (base <+: goal →
        confine environment accounts current text = .ok ⟨.root, goal⟩ ∧
        confine environment accounts current (Path.text ⟨.root, goal⟩) =
          .ok ⟨.root, goal⟩) ∧
      (¬ base <+: goal →
        confine environment accounts current text =
          .error (.pathEscapes (Path.text ⟨.root, base⟩))) ∧
      ∀ above name extra below,
        base = above ++ [name] → extra ≠ "" →
        goal = above ++ (name ++ extra) :: below →
        confine environment accounts current text =
          .error (.pathEscapes (Path.text ⟨.root, base⟩)) := by
  obtain ⟨base, based⟩ : ∃ base,
      base = (baseDirectory environment current).names := ⟨_, rfl⟩
  obtain ⟨goal, ends⟩ : ∃ goal, ∀ place,
      Walks (startOf base text) (writtenNames text) place ↔ place = goal :=
    ⟨_, fun _ => based ▸ surroundings.walks_iff text⟩
  have walks := (ends goal).mpr rfl
  have properBase : ∀ name ∈ base, IsName name :=
    based ▸ surroundings.isName_base
  have proper : ∀ name ∈ goal, IsName name := fun name member =>
    walks.isName_of_mem (isName_of_mem_startOf properBase)
      (fun _ => noSlash_of_mem_writtenNames)
      (fun _ => noNull_of_mem_writtenNames whole) member
  have confines :
      confine environment accounts current text =
        if base <+: goal then .ok ⟨.root, goal⟩
        else .error (.pathEscapes (Path.text ⟨.root, base⟩)) := by
    subst based
    exact surroundings.confine_eq whole elsewhere accounts walks
  refine ⟨base, goal, fun place => ?_, ends, proper, fun inside => ?_,
    fun outside => by rw [confines, if_neg outside], ?_⟩
  · subst based
    exact surroundings.walks_base
  · refine ⟨by rw [confines, if_pos inside], ?_⟩
    exact surroundings.confine_text proper (based ▸ inside) accounts
  · rintro above name extra below same longer rfl
    rw [confines, if_neg (same ▸ not_prefix_of_sibling longer)]

end Confinement

/-! ## A base directory -/

namespace SharedBase

/-- Tools are confined to a directory. -/
def environment : Environment :=
  [(baseDirectoryVariable, "/srv//logs/.")]

/-- The user's home directory is elsewhere. -/
def accounts : Accounts :=
  [("", "/root")]

theorem surroundings : AreSurroundings environment ["work"] :=
  ⟨by decide, by decide⟩

theorem walks_base {place : List String} :
    Walks (startOf ["work"] (baseText environment))
        (writtenNames (baseText environment)) place ↔
      place = ["srv", "logs"] := by
  have ends : ((writtenNames (baseText environment)).filter counts).foldl step
      (startOf ["work"] (baseText environment)) = ["srv", "logs"] := by
    decide
  rw [Path.walks_iff, ends]

end SharedBase

/-- A path that leaves the base directory and comes back, and one to a directory
beside it with a longer name. -/
theorem confine_outcome_sibling :
    AreSurroundings SharedBase.environment ["work"] ∧
    '\x00' ∉ "day/..//./../../srv/logs/n1".toList ∧
    ¬ StartsAtHome "day/..//./../../srv/logs/n1" ∧
    confine SharedBase.environment SharedBase.accounts ["work"]
        "day/..//./../../srv/logs/n1" =
      .ok ⟨.root, ["srv", "logs", "n1"]⟩ ∧
    '\x00' ∉ "../logs2/n1".toList ∧
    ¬ StartsAtHome "../logs2/n1" ∧
    confine SharedBase.environment SharedBase.accounts ["work"]
        "../logs2/n1" =
      .error (.pathEscapes "/srv/logs") := by
  have whole : '\x00' ∉ "day/..//./../../srv/logs/n1".toList := by decide
  have elsewhere : ¬ StartsAtHome "day/..//./../../srv/logs/n1" := by decide
  have wholeBeside : '\x00' ∉ "../logs2/n1".toList := by decide
  have elsewhereBeside : ¬ StartsAtHome "../logs2/n1" := by decide
  refine ⟨SharedBase.surroundings, whole, elsewhere, ?_, wholeBeside,
    elsewhereBeside, ?_⟩
  · rcases confine_outcome SharedBase.surroundings whole elsewhere
        SharedBase.accounts with
      ⟨base, goal, based, ends, -, inside, -, -⟩
    obtain rfl := (based _).mp (SharedBase.walks_base.mpr rfl)
    have comes : ["srv", "logs", "n1"] = goal :=
      (ends _).mp (Path.walks_iff.mpr (by decide))
    subst comes
    exact (inside (by decide)).1
  · rcases confine_outcome SharedBase.surroundings wholeBeside elsewhereBeside
        SharedBase.accounts with ⟨base, goal, based, ends, -, -, -, beside⟩
    obtain rfl := (based _).mp (SharedBase.walks_base.mpr rfl)
    have leaves : ["srv", "logs2", "n1"] = goal :=
      (ends _).mp (Path.walks_iff.mpr (by decide))
    exact beside ["srv"] "logs" "2" ["n1"] rfl (by decide) leaves.symm

/-- A path that does not begin with a tilde, and walks to a place below the base
directory.  It is refused for the home directory that its first name stands for. -/
theorem exists_refused_below_base :
    '\x00' ∉ "./~".toList ∧
    "./~".toList.head? ≠ some '~' ∧
    Walks ["srv", "logs"] (writtenNames "./~") ["srv", "logs", "~"] ∧
    confine SharedBase.environment SharedBase.accounts ["work"] "./~" =
      .error (.pathEscapes "/srv/logs") := by
  exact ⟨by decide, by decide, Path.walks_iff.mpr (by decide), rfl⟩

end ClusterLog
