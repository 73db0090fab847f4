import ClusterLog.Proofs.Text.Find

/-!
# Runs in front of what is found

Two readers find the same first run of a class with something behind it.  One
reads from the beginning of the run, the other from its end and looks back.  They
agree because what stands behind the run does not begin with its class, so that
no place inside a run counts.
-/

namespace ClusterLog.Text

variable {Found : Type}

/-- Read a run of a class at the beginning of a text, as long as possible, and
what stands behind it. -/
def readBehind? (least : Nat) (member : Char → Bool)
    (next : List Char → Option Found) (text : List Char) :
    Option (List Char × Found) :=
  if least ≤ (text.takeWhile member).length then
    (next (text.dropWhile member)).map (text.takeWhile member, ·)
  else none

/-- Read something, and look back at the run of a class in front of it. -/
def readLookingBack? (least : Nat) (member : Char → Bool)
    (next : List Char → Option Found) (before rest : List Char) :
    Option (List Char × Found) :=
  if least ≤ (before.takeWhile member).length then
    (next rest).map ((before.takeWhile member).reverse, ·)
  else none

variable {least : Nat} {member : Char → Bool} {next : List Char → Option Found}
variable {before run rest : List Char}

/-- A text begins with a run of a class, as long as possible. -/
theorem exists_leadingRun (member : Char → Bool) (text : List Char) :
    ∃ run rest, text = run ++ rest ∧ (∀ c ∈ run, member c = true) ∧
      ∀ c ∈ rest.head?, member c = false :=
  ⟨text.takeWhile member, text.dropWhile member,
    List.takeWhile_append_dropWhile.symm,
    fun _ inside => List.mem_takeWhile_imp inside, head_dropWhile member text⟩

theorem readBehind?_append (all : ∀ c ∈ run, member c = true)
    (stops : ∀ c ∈ rest.head?, member c = false) :
    readBehind? least member next (run ++ rest) =
      if least ≤ run.length then (next rest).map (run, ·) else none := by
  rw [readBehind?, takeWhile_run all stops, dropWhile_run all stops]

theorem readLookingBack?_append (all : ∀ c ∈ run, member c = true)
    (fresh : ∀ c ∈ before.head?, member c = false) :
    readLookingBack? least member next (run.reverse ++ before) rest =
      if least ≤ run.length then (next rest).map (run, ·) else none := by
  have front : (run.reverse ++ before).takeWhile member = run.reverse :=
    takeWhile_run (fun c inside => all c (List.mem_reverse.mp inside)) fresh
  rw [readLookingBack?, front, List.length_reverse, List.reverse_reverse]

/-- Where nothing is read behind a run and behind its ends, no place inside the
run counts for a reader of runs. -/
theorem findReading?_readBehind? (all : ∀ c ∈ run, member c = true)
    (stops : ∀ c ∈ rest.head?, member c = false)
    (fails : run = [] ∨ next rest = none) :
    findReading? (fun _ => readBehind? least member next) before (run ++ rest) =
      findReading? (fun _ => readBehind? least member next)
        (run.reverse ++ before) rest := by
  rcases fails with rfl | fails
  · rfl
  · apply findReading?_append
    intro passed left split nonempty
    have holds : ∀ c ∈ left, member c = true :=
      fun c inside => all c (by simp [split, inside])
    rw [readBehind?_append holds stops, fails, Option.map_none, ite_self]

section Blocked

variable (blocked : ∀ c rest, member c = true → next (c :: rest) = none)
include blocked

/-- No place inside a run counts for a reader that looks back. -/
theorem findReading?_readLookingBack? (all : ∀ c ∈ run, member c = true) :
    findReading? (readLookingBack? least member next) before (run ++ rest) =
      findReading? (readLookingBack? least member next) (run.reverse ++ before)
        rest := by
  apply findReading?_append
  intro passed left split nonempty
  rcases List.exists_cons_of_ne_nil nonempty with ⟨c, left, rfl⟩
  have holds : member c = true := all c (by simp [split])
  rw [List.cons_append, readLookingBack?, blocked c _ holds, Option.map_none,
    ite_self]

/-- A run of a class with something behind it is found from its beginning as well
as from its end. -/
theorem findReading?_readBehind?_eq (atMost : least ≤ 1) (text before : List Char)
    (fresh : ∀ c ∈ before.head?, member c = false) :
    findReading? (fun _ => readBehind? least member next) before text =
      findReading? (readLookingBack? least member next) before text := by
  -- The induction goes from the end of one run to the end of the next.
  induction size : text.length using Nat.strongRecOn generalizing text before with
  | _ bound shorter =>
      rcases exists_leadingRun member text with ⟨run, rest, rfl, all, stops⟩
      have start := @readBehind?_append _ least member next run rest all stops
      have behind := @readBehind?_append _ least member next [] rest nofun stops
      have back :=
        @readLookingBack?_append _ least member next before run rest all fresh
      rw [findReading?_readLookingBack? blocked all]
      -- Behind the run both readers go on with the character that ends it.
      have goesOn (fails : run = [] ∨ next rest = none)
          (here : readBehind? least member next rest = none)
          (there : readLookingBack? least member next (run.reverse ++ before)
            rest = none) :
          findReading? (fun _ => readBehind? least member next) before
              (run ++ rest) =
            findReading? (readLookingBack? least member next)
              (run.reverse ++ before) rest := by
        rw [findReading?_readBehind? all stops fails]
        cases rest with
        | nil => rw [findReading?, findReading?, here, there]
        | cons c rest =>
            have less : rest.length < bound := by
              rw [← size, List.length_append, List.length_cons]
              omega
            rw [findReading?, findReading?, here, there]
            exact shorter rest.length less rest _ stops rfl
      cases found : next rest with
      | none =>
          rw [found, Option.map_none, ite_self] at behind back
          exact goesOn (Or.inr found) behind back
      | some result =>
          rw [found, Option.map_some] at start behind back
          by_cases enough : least ≤ run.length
          · rw [if_pos enough] at start back
            rw [findReading?_of_read start, findReading?_of_read back]
          · obtain rfl : run = [] := List.eq_nil_of_length_eq_zero (by omega)
            rw [if_neg enough] at behind back
            exact goesOn (Or.inl rfl) behind back

end Blocked

end ClusterLog.Text
