import ClusterLog.Text.Quoted

/-!
# Parameters of commands

What a command can be given, and what can be wrong with its arguments.
-/

namespace ClusterLog.Command

open Text

/-- Something that a command can be given. -/
inductive Parameter where
  /-- An option without a value. -/
  | flag (names : List String)
  /-- An option with a value. -/
  | option (names : List String) (isRequired : Bool)
  /-- A value without a name. -/
  | positional (name : String)
  /-- The name of a command, and all arguments after it. -/
  | command (name : String)
deriving DecidableEq

namespace Parameter

/-- The names of an option. -/
def optionNames : Parameter → List String
  | flag names | option names _ => names
  | positional _ | command _ => []

/-- Whether a parameter is given by its place. -/
def isPositional : Parameter → Bool
  | positional _ | command _ => true
  | flag _ | option _ _ => false

/-- Whether a parameter has to be given. -/
def isRequired : Parameter → Bool
  | flag _ => false
  | option _ isRequired => isRequired
  | positional _ | command _ => true

/-- How messages call a parameter. -/
def label : Parameter → String
  | flag names | option names _ => "/".intercalate names
  | positional name | command name => name

end Parameter

/-- What can be wrong with arguments. -/
inductive Fault where
  /-- An abbreviation of several options. -/
  | ambiguous (written : String) (candidates : List String)
  | valueMissing (parameter : Parameter)
  /-- A value for an option that takes none. -/
  | valueIgnored (parameter : Parameter) (value : String)
  /-- A value that cannot be read. -/
  | valueUnreadable (parameter : Parameter) (kind value : String)
  /-- A value that is read but not allowed. -/
  | valueRefused (parameter : Parameter) (reason : String)
  | unknownChoice (parameter : Parameter) (value : String) (choices : List String)
  | missing (parameters : List Parameter)
  | unrecognized (arguments : List String)

namespace Fault

/-- A message about one parameter. -/
def about (parameter : Parameter) (message : String) : String :=
  "argument " ++ parameter.label ++ ": " ++ message

/-- The wording of a fault. -/
def message : Fault → String
  | ambiguous written candidates =>
    "ambiguous option: " ++ written ++ " could match " ++ ", ".intercalate candidates
  | valueMissing parameter => about parameter "expected one argument"
  | valueIgnored parameter value => about parameter ("ignored explicit argument " ++ quoted value)
  | valueUnreadable parameter kind value =>
    about parameter ("invalid " ++ kind ++ " value: " ++ quoted value)
  | valueRefused parameter reason => about parameter reason
  | unknownChoice parameter value choices =>
    about parameter ("invalid choice: " ++ quoted value ++ " (choose from " ++
      ", ".intercalate (choices.map quoted) ++ ")")
  | missing parameters =>
    "the following arguments are required: " ++ ", ".intercalate (parameters.map (·.label))
  | unrecognized arguments => "unrecognized arguments: " ++ " ".intercalate arguments

end Fault

/-- Why arguments lead to no command. -/
inductive Refusal where
  /-- A fault in the arguments of a command, or of the program itself. -/
  | fault (command : Option String) (fault : Fault)
  /-- Help was asked for, on a command or on the program itself. -/
  | help (command : Option String)

end ClusterLog.Command
