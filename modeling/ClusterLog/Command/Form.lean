import ClusterLog.Command.Arguments

/-!
# Forms

A form says what a command can be given and how its settings take the values.  Reading arguments
with a form fills in the settings, in the order in which the arguments are distributed, and then
asks whether everything required was given.
-/

namespace ClusterLog.Command

/-- What a command can be given, and how its settings take it. -/
structure Form (Settings : Type) where
  /-- The name of the command; the program itself has none. -/
  command : Option String
  parameters : List Parameter
  assign : Settings → Parameter → List String → Except Refusal Settings

/-- What reading arguments has led to so far. -/
structure Reading (Settings : Type) where
  settings : Settings
  given : List Parameter := []
  /-- The arguments that belong to no parameter. -/
  extras : List String := []

namespace Form

variable {Settings : Type}

/-- The option that every command has. -/
def helpFlag : Parameter := .flag ["-h", "--help"]

/-- A fault in the arguments of a form. -/
def refuse {α : Type} (form : Form Settings) (fault : Fault) : Except Refusal α :=
  .error (.fault form.command fault)

/-- Follow one step of the distribution. -/
def follow (form : Form Settings) (reading : Reading Settings) (step : Step) :
    Except Refusal (Reading Settings) :=
  match step with
  | .fail fault => form.refuse fault
  | .extra written => .ok { reading with extras := reading.extras ++ [written] }
  | .assign parameter values =>
    if parameter = helpFlag then
      .error (.help form.command)
    else do
      let settings ← form.assign reading.settings parameter values
      return { reading with settings, given := parameter :: reading.given }

/-- Fill in settings from arguments; also the arguments that belong to no parameter. -/
def read (form : Form Settings) (start : Settings) (arguments : List String) :
    Except Refusal (Reading Settings) := do
  match items form.parameters arguments with
  | .error fault => form.refuse fault
  | .ok items =>
    let places := form.parameters.filter (·.isPositional)
    let steps := readItems form.parameters (items.length + 1) places items
    let reading ← steps.foldlM form.follow { settings := start }
    let missing := form.parameters.filter fun parameter =>
      parameter.isRequired && !reading.given.contains parameter
    if missing.isEmpty then return reading else form.refuse (.missing missing)

end Form

end ClusterLog.Command
