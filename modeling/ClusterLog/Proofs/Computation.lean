/-!
# Computations that may fail

What is known of the steps of a computation that succeeds.  With a state, a
step that succeeds passes its result and the state that it leaves behind on to
the next one, and a failure ends the computation and keeps the state as it is
then.
-/

namespace ClusterLog

variable {Fault Middle Value : Type}

/-- A computation that succeeds consists of steps that do. -/
theorem bind_eq_ok {first : Except Fault Middle}
    {next : Middle → Except Fault Value} {value : Value} :
    first >>= next = .ok value ↔
      ∃ middle, first = .ok middle ∧ next middle = .ok value := by
  cases first with
  | error fault => simp [bind, Except.bind]
  | ok middle => simp [bind, Except.bind]

theorem pure_eq_ok {value other : Value} :
    (pure value : Except Fault Value) = .ok other ↔ value = other := by
  simp [pure, Except.pure]

/-- A check is passed by a computation that succeeds. -/
theorem check_eq_ok {refused : Prop} [Decidable refused] {fault : Fault}
    {next : Middle → Except Fault Value} {rest : Except Fault Value}
    {value : Value} :
    (if refused then throw fault >>= next else rest) = .ok value ↔
      ¬ refused ∧ rest = .ok value := by
  by_cases refuses : refused
  · simp [refuses, throw, throwThe, MonadExceptOf.throw, bind, Except.bind]
  · simp [refuses]

theorem eq_ok_of_toOption {computation : Except Fault Value} {value : Value}
    (found : computation.toOption = some value) :
    computation = .ok value := by
  cases computation with
  | error fault => cases found
  | ok other => exact congrArg _ (Option.some.inj found)

/-- A computation of whose value something is known succeeds. -/
theorem exists_ok_of_map_toOption {Seen : Type}
    {computation : Except Fault Value} {look : Value → Seen} {seen : Seen}
    (found : computation.toOption.map look = some seen) :
    ∃ value, computation = .ok value ∧ look value = seen := by
  rcases Option.map_eq_some_iff.mp found with ⟨value, reached, same⟩
  exact ⟨value, eq_ok_of_toOption reached, same⟩

theorem exists_error_of_toOption {computation : Except Fault Value}
    (missing : computation.toOption = none) :
    ∃ fault, computation = .error fault := by
  cases computation with
  | error fault => exact ⟨fault, rfl⟩
  | ok value => cases missing

/-- A computation ends with the failure that there is, or else returns a value
with a property. -/
inductive Ends (returned : Value → Prop) :
    Option Fault → Except Fault Value → Prop
  | fails (fault : Fault) : Ends returned (some fault) (.error fault)
  | returns {value : Value} (holds : returned value) :
      Ends returned none (.ok value)

/-! ## Results and failures together -/

/-- A computation returns a value with one property or fails with another. -/
def Satisfies (returned : Value → Prop) (failed : Fault → Prop) :
    Except Fault Value → Prop
  | .ok value => returned value
  | .error fault => failed fault

theorem Satisfies.bind {between : Middle → Prop} {returned : Value → Prop}
    {failed : Fault → Prop} {first : Except Fault Middle}
    {next : Middle → Except Fault Value}
    (begins : Satisfies between failed first)
    (goesOn : ∀ middle, between middle →
      Satisfies returned failed (next middle)) :
    Satisfies returned failed (first >>= next) := by
  cases first with
  | error fault => exact begins
  | ok middle => exact goesOn middle begins

theorem Satisfies.mono {returned wider : Value → Prop}
    {failed more : Fault → Prop} {computation : Except Fault Value}
    (satisfies : Satisfies returned failed computation)
    (results : ∀ value, returned value → wider value)
    (failures : ∀ fault, failed fault → more fault) :
    Satisfies wider more computation := by
  cases computation with
  | error fault => exact failures fault satisfies
  | ok value => exact results value satisfies

/-! ## Lists of computations -/

theorem mapM_eq_ok_of_forall {Item : Type} {compute : Item → Except Fault Value}
    {result : Item → Value} {items : List Item}
    (succeeds : ∀ item ∈ items, compute item = .ok (result item)) :
    items.mapM compute = .ok (items.map result) := by
  induction items with
  | nil => rfl
  | cons item items ih =>
      have others := ih fun other member => succeeds other (by simp [member])
      rw [List.mapM_cons, succeeds item (by simp), others]
      rfl

/-- Computing for a list succeeds, or ends with the failure of an item. -/
theorem mapM_cases {Item : Type} (compute : Item → Except Fault Value)
    (items : List Item) :
    (∃ values, items.mapM compute = .ok values) ∨
    ∃ item ∈ items, ∃ fault,
      compute item = .error fault ∧ items.mapM compute = .error fault := by
  induction items with
  | nil => exact Or.inl ⟨[], rfl⟩
  | cons item items ih =>
      rw [List.mapM_cons]
      cases here : compute item with
      | error fault => exact Or.inr ⟨item, by simp, fault, here, rfl⟩
      | ok value =>
          rcases ih with ⟨values, succeeds⟩ | ⟨other, member, fault, fails, ends⟩
          · exact Or.inl ⟨value :: values, by rw [succeeds]; rfl⟩
          · exact Or.inr ⟨other, by simp [member], fault, fails,
              by rw [ends]; rfl⟩

theorem satisfies_mapM {Item : Type} {failed : Fault → Prop}
    {compute : Item → Except Fault Value} {items : List Item}
    (each : ∀ item ∈ items, Satisfies (fun _ => True) failed (compute item)) :
    Satisfies (fun _ => True) failed (items.mapM compute) := by
  rcases mapM_cases compute items with
    ⟨values, succeeds⟩ | ⟨item, member, fault, fails, ends⟩
  · rw [succeeds]
    trivial
  · have allowed := each item member
    rw [fails] at allowed
    rw [ends]
    exact allowed

/-- Where each item is computed or ends with one and the same failure, so does
the list. -/
theorem mapM_outcome {Item : Type} {compute : Item → Except Fault Value}
    {defined : Item → Prop} {fault : Fault}
    (succeeds : ∀ item, defined item → ∃ value, compute item = .ok value)
    (fails : ∀ item, ¬ defined item → compute item = .error fault)
    (items : List Item) :
    ((∀ item ∈ items, defined item) → ∃ values, items.mapM compute = .ok values) ∧
    ((¬ ∀ item ∈ items, defined item) → items.mapM compute = .error fault) := by
  induction items with
  | nil => exact ⟨fun _ => ⟨[], rfl⟩, fun missing => absurd nofun missing⟩
  | cons item items ih =>
      rw [List.mapM_cons, List.forall_mem_cons]
      by_cases here : defined item
      · rcases succeeds item here with ⟨value, computes⟩
        rw [computes]
        constructor
        · rintro ⟨-, others⟩
          rcases ih.1 others with ⟨values, computesOthers⟩
          exact ⟨value :: values, by rw [computesOthers]; rfl⟩
        · intro missing
          rw [ih.2 fun others => missing ⟨here, others⟩]
          rfl
      · rw [fails item here]
        exact ⟨fun all => absurd all.1 here, fun _ => rfl⟩

/-! ## Computations with a state -/

section State

variable {State : Type} {before after : State}

theorem run_bind (first : ExceptT Fault (StateM State) Middle)
    (next : Middle → ExceptT Fault (StateM State) Value) :
    (first >>= next).run before =
      match first.run before with
      | (.ok middle, between) => (next middle).run between
      | (.error fault, between) => (.error fault, between) := by
  change (ExceptT.bind first next).run before = _
  simp only [ExceptT.bind, ExceptT.run, ExceptT.mk]
  change (match first before with
    | (result, between) => ExceptT.bindCont next result between) = _
  rcases first before with ⟨fault | middle, between⟩ <;> rfl

variable {first : ExceptT Fault (StateM State) Middle}
variable {next : Middle → ExceptT Fault (StateM State) Value}

theorem run_bind_of_ok {middle : Middle}
    (succeeds : first.run before = (.ok middle, after)) :
    (first >>= next).run before = (next middle).run after := by
  rw [run_bind, succeeds]

theorem run_bind_of_error {fault : Fault}
    (fails : first.run before = (.error fault, after)) :
    (first >>= next).run before = (.error fault, after) := by
  rw [run_bind, fails]

/-- A computation that succeeds consists of steps that do, the later one in the
state that the earlier one leaves behind. -/
theorem run_bind_eq_ok {value : Value} :
    (first >>= next).run before = (.ok value, after) ↔
      ∃ middle between,
        first.run before = (.ok middle, between) ∧
        (next middle).run between = (.ok value, after) := by
  rw [run_bind]
  rcases first.run before with ⟨fault | middle, between⟩
  · constructor
    · nofun
    · rintro ⟨middle, other, stops, -⟩
      cases stops
  · constructor
    · intro succeeds
      exact ⟨middle, between, rfl, succeeds⟩
    · rintro ⟨other, others, same, succeeds⟩
      cases same
      exact succeeds

/-- A computation fails with its first step, or with what comes behind it. -/
theorem run_bind_eq_error {fault : Fault} :
    (first >>= next).run before = (.error fault, after) ↔
      first.run before = (.error fault, after) ∨
      ∃ middle between,
        first.run before = (.ok middle, between) ∧
        (next middle).run between = (.error fault, after) := by
  rw [run_bind]
  rcases first.run before with ⟨other | middle, between⟩
  · constructor
    · intro fails
      cases fails
      exact Or.inl rfl
    · rintro (same | ⟨middle, others, goesOn, -⟩)
      · cases same
        rfl
      · cases goesOn
  · constructor
    · intro fails
      exact Or.inr ⟨middle, between, rfl, fails⟩
    · rintro (same | ⟨other, others, same, fails⟩)
      · cases same
      · cases same
        exact fails

theorem run_lift (computation : Except Fault Value) :
    (computation : ExceptT Fault (StateM State) Value).run before =
      (computation, before) := by
  cases computation <;> rfl

theorem run_lift_eq_ok {computation : Except Fault Value} {value : Value} :
    (computation : ExceptT Fault (StateM State) Value).run before =
        (.ok value, after) ↔
      computation = .ok value ∧ after = before := by
  rw [run_lift, Prod.mk.injEq, eq_comm (a := before)]

@[simp]
theorem run_pure (value : Value) :
    (pure value : ExceptT Fault (StateM State) Value).run before =
      (.ok value, before) :=
  rfl

/-- What comes behind a step of which it is known how it ends. -/
theorem Ends.run_bind {returned : Middle → Prop} {failure : Option Fault}
    {outcome : Except Fault Middle} (ends : Ends returned failure outcome)
    (runs : first.run before = (outcome, after)) :
    (∃ fault, failure = some fault ∧
        (first >>= next).run before = (.error fault, after)) ∨
      failure = none ∧ ∃ value, returned value ∧
        (first >>= next).run before = (next value).run after := by
  rw [ClusterLog.run_bind, runs]
  cases ends with
  | fails fault => exact Or.inl ⟨fault, rfl, rfl⟩
  | returns holds => exact Or.inr ⟨rfl, _, holds, rfl⟩

/-! ### Steps that change nothing -/

variable {computation : Except Fault Middle}

/-- What comes behind a step that succeeds and changes nothing. -/
theorem run_bind_of_unchanging {middle : Middle}
    (unchanging : first.run before = (computation, before))
    (succeeds : computation = .ok middle) :
    (first >>= next).run before = (next middle).run before := by
  rw [run_bind, unchanging, succeeds]

/-- What succeeds goes on where a step that changes nothing began. -/
theorem run_bind_eq_ok_of_unchanging {value : Value}
    (unchanging : first.run before = (computation, before))
    (succeeds : (first >>= next).run before = (.ok value, after)) :
    ∃ middle,
      computation = .ok middle ∧
      (next middle).run before = (.ok value, after) := by
  rcases run_bind_eq_ok.mp succeeds with ⟨middle, between, here, goesOn⟩
  rw [unchanging] at here
  cases here
  exact ⟨middle, rfl, goesOn⟩

/-- What fails began with a step that changes nothing and fails, or goes on where
it began. -/
theorem run_bind_eq_error_of_unchanging {fault : Fault}
    (unchanging : first.run before = (computation, before))
    (fails : (first >>= next).run before = (.error fault, after)) :
    (computation = .error fault ∧ after = before) ∨
    ∃ middle,
      computation = .ok middle ∧
      (next middle).run before = (.error fault, after) := by
  rcases run_bind_eq_error.mp fails with stops | ⟨middle, between, here, goesOn⟩
  · rw [unchanging] at stops
    cases stops
    exact Or.inl ⟨rfl, rfl⟩
  · rw [unchanging] at here
    cases here
    exact Or.inr ⟨middle, rfl, goesOn⟩

end State

end ClusterLog
