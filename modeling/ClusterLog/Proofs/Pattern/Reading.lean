import ClusterLog.Pattern.Basic
import Mathlib.Data.List.Infix

/-!
# What a match reads

The ways to read the beginning of a text with a pattern, whichever of them is
tried first.  A match is one of them: what follows it is a rest of the text, and
what it captures stands in the text.
-/

namespace ClusterLog

namespace Pattern

/--
A pattern reads the beginning of a text up to a rest, and adds what it captures
to what is captured already.  The text is the end of one with `total` characters.
-/
inductive Reads (total : Nat) :
    Pattern → List Char → Captures → List Char → Captures → Prop
  | empty {text : List Char} {captures : Captures} :
      Reads total .empty text captures text captures
  | one {member : CharClass} {c : Char} {rest : List Char} {captures : Captures}
      (holds : member.holds c = true) :
      Reads total (.one member) (c :: rest) captures rest captures
  | seq {first second : Pattern} {text between rest : List Char}
      {captures more kept : Captures}
      (begins : Reads total first text captures between more)
      (ends : Reads total second between more rest kept) :
      Reads total (.seq first second) text captures rest kept
  | left {first second : Pattern} {text rest : List Char}
      {captures kept : Captures}
      (reads : Reads total first text captures rest kept) :
      Reads total (.either first second) text captures rest kept
  | right {first second : Pattern} {text rest : List Char}
      {captures kept : Captures}
      (reads : Reads total second text captures rest kept) :
      Reads total (.either first second) text captures rest kept
  | run {greedy : Bool} {least : Nat} {most : Option Nat} {member : CharClass}
      {run rest : List Char} {captures : Captures}
      (holds : ∀ c ∈ run, member.holds c = true)
      (enough : least ≤ run.length)
      (bounded : ∀ bound ∈ most, run.length - least ≤ bound - least) :
      Reads total (.run greedy least most member) (run ++ rest) captures rest
        captures
  | stop {greedy : Bool} {most : Option Nat} {body : Pattern}
      {text : List Char} {captures : Captures} :
      Reads total (.loop greedy 0 most body) text captures text captures
  | again {greedy : Bool} {least : Nat} {most : Option Nat} {body : Pattern}
      {text between rest : List Char} {captures more kept : Captures}
      (allowed : most ≠ some 0)
      (once : Reads total body text captures between more)
      (others : Reads total (.loop greedy (least - 1) (most.map (· - 1)) body)
        between more rest kept) :
      Reads total (.loop greedy least most body) text captures rest kept
  | capture {ordinal : Nat} {body : Pattern} {read rest : List Char}
      {captures kept : Captures}
      (reads : Reads total body (read ++ rest) captures rest kept) :
      Reads total (.capture ordinal body) (read ++ rest) captures rest
        ((ordinal, read) :: kept)
  | textStart {text : List Char} {captures : Captures}
      (first : text.length = total) :
      Reads total .textStart text captures text captures
  | textEnd {captures : Captures} :
      Reads total .textEnd [] captures [] captures
  | lastLineEnd {text : List Char} {captures : Captures}
      (last : text = [] ∨ text = ['\n']) :
      Reads total .lastLineEnd text captures text captures

namespace Reads

variable {total : Nat} {pattern : Pattern} {text rest : List Char}
variable {captures kept : Captures}

/-- What is left is the end of the text. -/
theorem isSuffix (reads : pattern.Reads total text captures rest kept) :
    rest <:+ text := by
  induction reads with
  | empty | stop | textStart | textEnd | lastLineEnd => exact List.suffix_rfl
  | one => exact List.suffix_cons _ _
  | seq _ _ first second => exact second.trans first
  | left _ ih | right _ ih => exact ih
  | run => exact List.suffix_append _ _
  | again _ _ _ first others => exact others.trans first
  | capture => exact List.suffix_append _ _

/-- What is captured stands in the text. -/
theorem isInfix_of_mem (reads : pattern.Reads total text captures rest kept)
    {ordinal : Nat} {part : List Char} (member : (ordinal, part) ∈ kept) :
    (ordinal, part) ∈ captures ∨ part <:+: text := by
  induction reads with
  | empty | one | run | stop | textStart | textEnd | lastLineEnd =>
      exact Or.inl member
  | seq begins _ first second | again _ begins _ first second =>
      rcases second member with before | inside
      · exact first before
      · exact Or.inr (inside.trans begins.isSuffix.isInfix)
  | left _ ih | right _ ih => exact ih member
  | capture _ ih =>
      rcases List.mem_cons.mp member with same | before
      · cases same
        exact Or.inr (List.prefix_append _ _).isInfix
      · exact ih before

end Reads

/-! ## Runs -/

section Runs

variable {member : Char → Bool}

theorem dropExactly?_eq_some {count : Nat} {text rest : List Char}
    (drops : dropExactly? member count text = some rest) :
    ∃ run, text = run ++ rest ∧ run.length = count ∧
      ∀ c ∈ run, member c = true := by
  induction count generalizing text with
  | zero =>
      cases drops
      exact ⟨[], rfl, rfl, nofun⟩
  | succ count ih =>
      cases text with
      | nil => cases drops
      | cons c text =>
          rw [dropExactly?] at drops
          split at drops
          · rename_i holds
            rcases ih drops with ⟨run, rfl, length, all⟩
            exact ⟨c :: run, rfl, congrArg _ length,
              List.forall_mem_cons.mpr ⟨holds, all⟩⟩
          · cases drops

theorem length_cons_le {most : Option Nat} {c : Char} {run : List Char}
    (positive : most ≠ some 0)
    (bounded : ∀ bound ∈ most.map (· - 1), run.length ≤ bound) :
    ∀ bound ∈ most, (c :: run).length ≤ bound := by
  rintro bound rfl
  have fewer := bounded (bound - 1) rfl
  have nonzero : bound ≠ 0 := fun zero => positive (congrArg some zero)
  rw [List.length_cons]
  omega

/-- What is left is tried after a run of the class, or is one of the shorter
tries. -/
theorem mem_runsDown {most : Option Nat} {text left : List Char}
    {shorter : List (List Char)}
    (tried : left ∈ runsDown member most text shorter) :
    (∃ run, text = run ++ left ∧ (∀ c ∈ run, member c = true) ∧
      ∀ bound ∈ most, run.length ≤ bound) ∨ left ∈ shorter := by
  have whole {text : List Char} {shorter : List (List Char)}
      {most : Option Nat} (here : left = text ∨ left ∈ shorter) :
      (∃ run, text = run ++ left ∧ (∀ c ∈ run, member c = true) ∧
        ∀ bound ∈ most, run.length ≤ bound) ∨ left ∈ shorter :=
    here.imp_left fun same => ⟨[], same.symm, nofun, by simp⟩
  fun_induction runsDown member most text shorter with
  | case1 => exact whole (List.mem_cons.mp tried)
  | case2 => exact whole (List.mem_cons.mp tried)
  | case3 most c rest shorter positive holds ih =>
      rcases ih tried with ⟨run, rfl, all, bounded⟩ | other
      · refine Or.inl ⟨c :: run, rfl, List.forall_mem_cons.mpr ⟨holds, all⟩, ?_⟩
        exact length_cons_le positive bounded
      · exact whole (List.mem_cons.mp other)
  | case4 => exact whole (List.mem_cons.mp tried)

/-- What is left when the rest of the pattern matches comes after a run of the
class. -/
theorem runsUp_eq_some {α : Type} {next : List Char → Option α}
    {most : Option Nat} {text : List Char} {found : α}
    (finds : runsUp member next most text = some found) :
    ∃ run left, text = run ++ left ∧ (∀ c ∈ run, member c = true) ∧
      (∀ bound ∈ most, run.length ≤ bound) ∧ next left = some found := by
  fun_induction runsUp member next most text with
  | case1 text => exact ⟨[], text, rfl, nofun, by simp, finds⟩
  | case2 => exact ⟨[], [], rfl, nofun, by simp, finds⟩
  | case3 most c text positive other here =>
      exact ⟨[], c :: text, rfl, nofun, by simp, here.trans finds⟩
  | case4 most c text positive fails holds ih =>
      rcases ih finds with ⟨run, left, rfl, all, bounded, goesOn⟩
      exact ⟨c :: run, left, rfl, List.forall_mem_cons.mpr ⟨holds, all⟩,
        length_cons_le positive bounded, goesOn⟩
  | case5 => cases finds

end Runs

/-! ## Matches -/

variable {α : Type} {total : Nat} {found : α}

/-- A run of a class as long as it must be, and more of the class behind it. -/
theorem Reads.run_append {greedy : Bool} {least : Nat} {most : Option Nat}
    {member : CharClass} {front more left : List Char} {captures : Captures}
    (length : front.length = least)
    (allFront : ∀ c ∈ front, member.holds c = true)
    (all : ∀ c ∈ more, member.holds c = true)
    (bounded : ∀ bound ∈ most.map (· - least), more.length ≤ bound) :
    (Pattern.run greedy least most member).Reads total
      (front ++ (more ++ left)) captures left captures := by
  rw [← List.append_assoc]
  refine .run (fun c inside => ?_) ?_ ?_
  · exact (List.mem_append.mp inside).elim (allFront c) (all c)
  · rw [List.length_append]
    omega
  · rintro bound rfl
    have fewer := bounded (bound - least) rfl
    rw [List.length_append]
    omega

/-- What a repeated class reads, as few or as many characters as it tries. -/
theorem run_eq_some {greedy : Bool} {least : Nat} {most : Option Nat}
    {member : CharClass} {text : List Char} {captures : Captures}
    {next : List Char → Captures → Option α}
    (matched : (Pattern.run greedy least most member).match? total text captures
      next = some found) :
    ∃ rest kept,
      (Pattern.run greedy least most member).Reads total text captures rest
        kept ∧
      next rest kept = some found := by
  rcases Option.bind_eq_some_iff.mp matched with ⟨behind, drops, tries⟩
  rcases dropExactly?_eq_some drops with ⟨front, rfl, length, allFront⟩
  split at tries
  · rcases List.exists_of_findSome?_eq_some tries with ⟨left, tried, goesOn⟩
    rcases mem_runsDown tried with ⟨more, rfl, all, bounded⟩ | none
    · exact ⟨left, captures, .run_append length allFront all bounded, goesOn⟩
    · cases none
  · rcases runsUp_eq_some tries with ⟨more, left, rfl, all, bounded, goesOn⟩
    exact ⟨left, captures, .run_append length allFront all bounded, goesOn⟩

/-- What repeated steps read, if each step reads what a body does. -/
theorem iterate_eq_some {body : Pattern} {greedy : Bool}
    {next : List Char → Captures → Option α}
    {step : List Char → Captures → (List Char → Captures → Option α) → Option α}
    (reads : ∀ {text captures goesOn},
      step text captures goesOn = some found →
      ∃ rest kept, body.Reads total text captures rest kept ∧
        goesOn rest kept = some found)
    {fuel least : Nat} {most : Option Nat} {text : List Char}
    {captures : Captures}
    (finds : iterate step greedy next fuel least most text captures =
      some found) :
    ∃ rest kept,
      (loop greedy least most body).Reads total text captures rest kept ∧
      next rest kept = some found := by
  induction fuel generalizing least most text captures with
  | zero => cases finds
  | succ fuel ih =>
      have stops : (if least == 0 then next text captures else none) =
          some found →
          ∃ rest kept,
            (loop greedy least most body).Reads total text captures rest kept ∧
            next rest kept = some found := by
        intro here
        split at here
        · rename_i zero
          rw [beq_iff_eq.mp zero]
          exact ⟨text, captures, .stop, here⟩
        · cases here
      have goesOn : (if most == some 0 then none
          else step text captures fun rest kept =>
            if least == 0 && rest.length == text.length then none
            else iterate step greedy next fuel (least - 1) (most.map (· - 1))
              rest kept) = some found →
          ∃ rest kept,
            (loop greedy least most body).Reads total text captures rest kept ∧
            next rest kept = some found := by
        intro here
        split at here
        · cases here
        · rename_i allowed
          rcases reads here with ⟨between, more, once, behind⟩
          split at behind
          · cases behind
          · rcases ih behind with ⟨rest, kept, others, finds⟩
            exact ⟨rest, kept,
              .again (fun zero => allowed (beq_iff_eq.mpr zero)) once others,
              finds⟩
      simp only [iterate] at finds
      split at finds
      · split at finds
        · rename_i other here
          exact goesOn (here.trans finds)
        · exact stops finds
      · split at finds
        · rename_i other here
          exact stops (here.trans finds)
        · exact goesOn finds

/-- A match is a way to read the text. -/
theorem match?_eq_some {pattern : Pattern} {text : List Char}
    {captures : Captures} {next : List Char → Captures → Option α}
    (matched : pattern.match? total text captures next = some found) :
    ∃ rest kept, pattern.Reads total text captures rest kept ∧
      next rest kept = some found := by
  induction pattern generalizing text captures next with
  | empty => exact ⟨text, captures, .empty, matched⟩
  | one member =>
      cases text with
      | nil => cases matched
      | cons c text =>
          rw [match?] at matched
          split at matched
          · rename_i holds
            exact ⟨text, captures, .one holds, matched⟩
          · cases matched
  | seq first second ihFirst ihSecond =>
      rcases ihFirst matched with ⟨between, more, begins, behind⟩
      rcases ihSecond behind with ⟨rest, kept, ends, goesOn⟩
      exact ⟨rest, kept, .seq begins ends, goesOn⟩
  | either first second ihFirst ihSecond =>
      rw [match?] at matched
      split at matched
      · rename_i other here
        rcases ihFirst (here.trans matched) with ⟨rest, kept, reads, goesOn⟩
        exact ⟨rest, kept, .left reads, goesOn⟩
      · rcases ihSecond matched with ⟨rest, kept, reads, goesOn⟩
        exact ⟨rest, kept, .right reads, goesOn⟩
  | run greedy least most member => exact run_eq_some matched
  | loop greedy least most body ih => exact iterate_eq_some ih matched
  | capture ordinal body ih =>
      rcases ih matched with ⟨rest, kept, reads, goesOn⟩
      rcases reads.isSuffix with ⟨read, rfl⟩
      rw [List.length_append, Nat.add_sub_cancel, List.take_left] at goesOn
      exact ⟨rest, _, .capture reads, goesOn⟩
  | textStart =>
      rw [match?] at matched
      split at matched
      · rename_i first
        exact ⟨text, captures, .textStart (beq_iff_eq.mp first), matched⟩
      · cases matched
  | textEnd =>
      rw [match?] at matched
      split at matched
      · rename_i last
        obtain rfl := List.isEmpty_iff.mp last
        exact ⟨[], captures, .textEnd, matched⟩
      · cases matched
  | lastLineEnd =>
      rw [match?] at matched
      split at matched
      · rename_i last
        exact ⟨text, captures, .lastLineEnd (by simpa using last), matched⟩
      · cases matched

/-- What a match with a whole text captures stands in the text. -/
theorem isInfix_of_matchWhole? {pattern : Pattern} {text : List Char}
    {captures : Captures} (matched : pattern.matchWhole? text = some captures)
    {ordinal : Nat} {part : List Char} (member : (ordinal, part) ∈ captures) :
    part <:+: text := by
  rcases match?_eq_some matched with ⟨rest, kept, reads, ends⟩
  split at ends
  · cases ends
    rcases reads.isInfix_of_mem member with before | inside
    · cases before
    · exact inside
  · cases ends

end Pattern

end ClusterLog
