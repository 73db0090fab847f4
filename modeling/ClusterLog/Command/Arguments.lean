import ClusterLog.Command.Parameter
import ClusterLog.Text.Class
import ClusterLog.Text.Find

/-!
# Reading arguments

Arguments are options, values of options, values that are given by their place, and one separator
`--` after which nothing is an option.  Options may be abbreviated, and their values may be attached
to them.  `items` says what each argument looks like, `readItems` then distributes the arguments
over the parameters from left to right.
-/

namespace ClusterLog.Command

open Text

/-- What is attached to an option. -/
inductive Attachment where
  | nothing
  /-- A text after an equals sign. -/
  | equals (text : List Char)
  /-- A text right behind a short option. -/
  | joined (text : List Char)

/-- An option that an argument names. -/
structure NamedOption where
  parameter : Parameter
  /-- The full name that the argument stands for. -/
  name : List Char
  attachment : Attachment

/-- What an argument looks like. -/
inductive Shape where
  | value
  | separator
  /-- An option, if it is a known one. -/
  | option (named : Option NamedOption)

/-- An argument and what it looks like. -/
structure Item where
  written : String
  shape : Shape

namespace Item

/-- Whether an argument looks like an option. -/
def isOption (item : Item) : Bool :=
  match item.shape with
  | .option _ => true
  | _ => false

/-- Whether an argument is the separator. -/
def isSeparator (item : Item) : Bool :=
  match item.shape with
  | .separator => true
  | _ => false

/-- Whether an argument looks like a value. -/
def isValue (item : Item) : Bool :=
  match item.shape with
  | .value => true
  | _ => false

end Item

/-- The names of options with their parameters, in the order of the parameters. -/
def namedParameters (parameters : List Parameter) : List (List Char × Parameter) :=
  parameters.flatMap fun parameter => parameter.optionNames.map fun name => (name.toList, parameter)

/-- Split a text at its first equals sign. -/
def splitAtEquals (text : List Char) : List Char × Attachment :=
  match text.span (· != '=') with
  | (name, '=' :: value) => (name, .equals value)
  | (name, _) => (name, .nothing)

/-- The options that an argument abbreviates, or a short option with a text behind it. -/
def candidates (parameters : List Parameter) (text : List Char) : List NamedOption :=
  match text with
  | '-' :: '-' :: _ =>
    let (beginning, attachment) := splitAtEquals text
    (namedParameters parameters).filterMap fun (name, parameter) =>
      if beginning.isPrefixOf name then some ⟨parameter, name, attachment⟩ else none
  | _ =>
    (namedParameters parameters).filterMap fun (name, parameter) =>
      if name == text.take 2 then some ⟨parameter, name, .joined (text.drop 2)⟩
      else if text.isPrefixOf name then some ⟨parameter, name, .nothing⟩
      else none

/-- Whether a text is a negative number: a minus sign and digits with or without a decimal point in
front of or between them. -/
def isNegativeNumber (text : List Char) : Bool :=
  let body := if text.getLast? == some '\n' then text.dropLast else text
  match body with
  | '-' :: number =>
    match number.span isDigit with
    | (whole, []) => !whole.isEmpty
    | (_, '.' :: decimals) => !decimals.isEmpty && decimals.all isDigit
    | _ => false
  | _ => false

/-- What an argument in front of the separator looks like. -/
def shapeOf (parameters : List Parameter) (written : String) : Except Fault Shape :=
  let text := written.toList
  let named := namedParameters parameters
  if text.head? != some '-' then
    .ok .value
  else
    match named.lookup text with
    | some parameter => .ok (.option (some ⟨parameter, text, .nothing⟩))
    | none =>
      if text.length == 1 then
        .ok .value
      else
        match splitAtEquals text with
        | (name, .equals value) =>
          match named.lookup name with
          | some parameter => .ok (.option (some ⟨parameter, name, .equals value⟩))
          | none => choose text
        | _ => choose text
where
  /-- Choose among the options that an argument may abbreviate. -/
  choose (text : List Char) : Except Fault Shape :=
    match candidates parameters text with
    | [found] => .ok (.option (some found))
    | [] => .ok (if isNegativeNumber text || text.contains ' ' then .value else .option none)
    | found => .error (.ambiguous written (found.map fun named => String.ofList named.name))

/-- What arguments look like. -/
def items (parameters : List Parameter) : List String → Except Fault (List Item)
  | [] => .ok []
  | "--" :: others =>
    .ok (⟨"--", .separator⟩ :: others.map fun written => ⟨written, .value⟩)
  | written :: others => do
    let shape ← shapeOf parameters written
    let rest ← items parameters others
    return ⟨written, shape⟩ :: rest

/-- One step of the distribution of arguments. -/
inductive Step where
  /-- A parameter is given values. -/
  | assign (parameter : Parameter) (values : List String)
  /-- An argument belongs to no parameter. -/
  | extra (written : String)
  | fail (fault : Fault)

/-- Take the separator at the beginning of arguments, if it is there. -/
def dropSeparator : List Item → List Item
  | ⟨_, .separator⟩ :: rest => rest
  | rest => rest

/-- Give as many parameters as possible a value by its place; the separator may stand on both sides
of a value, and a value `--` with no separator in front of it is taken for one.  Also the parameters
and the arguments that are left. -/
def takePositionals : List Parameter → List Item → List Step × List Parameter × List Item
  | [], items => ([], [], items)
  | .command name :: parameters, items =>
    if ((dropSeparator items).head?.map (·.isValue)).getD false then
      let (steps, left, rest) := takePositionals parameters []
      (.assign (.command name) (items.map (·.written)) :: steps, left, rest)
    else
      ([], .command name :: parameters, items)
  | parameter :: parameters, items =>
    match dropSeparator items with
    | ⟨written, .value⟩ :: rest =>
      let isDropped := written == "--" && !(items.head?.map (·.isSeparator)).getD false
      let values := if isDropped then [] else [written]
      let (steps, left, rest) := takePositionals parameters (dropSeparator rest)
      (.assign parameter values :: steps, left, rest)
    | _ => ([], parameter :: parameters, items)

/-- The flags in one argument of short options, the first of which is known.  A text that is no flag
is left over. -/
def readFlags (parameters : List Parameter) (parameter : Parameter) :
    List Char → List Step
  | [] => [.assign parameter []]
  | c :: rest =>
    if c == '-' then
      [.fail (.valueIgnored parameter (String.ofList (c :: rest)))]
    else
      match (namedParameters parameters).lookup ['-', c], rest with
      | some next, '=' :: value => [.fail (.valueIgnored next (String.ofList value))]
      | some next, rest => .assign parameter [] :: readFlags parameters next rest
      | none, _ => [.assign parameter [], .extra (String.ofList ('-' :: c :: rest))]

/-- An option with what is attached to it, in front of other arguments; the arguments that are
left. -/
def readOption (parameters : List Parameter) (named : NamedOption) (rest : List Item) :
    List Step × List Item :=
  match named.parameter, named.attachment, rest with
  | .option _ _, .nothing, ⟨written, .value⟩ :: others =>
    ([.assign named.parameter [written]], others)
  | .option _ _, .nothing, rest => ([.fail (.valueMissing named.parameter)], rest)
  | .option _ _, .equals text, rest | .option _ _, .joined text, rest =>
    ([.assign named.parameter [String.ofList text]], rest)
  | _, .nothing, rest => ([.assign named.parameter []], rest)
  | _, .equals text, rest => ([.fail (.valueIgnored named.parameter (String.ofList text))], rest)
  | _, .joined text, rest => (readFlags parameters named.parameter text, rest)

/-- Distribute arguments over parameters.  `places` are the parameters that are given by their place
and have no value yet.  Every round takes at least one argument. -/
def readItems (parameters : List Parameter) : Nat → List Parameter → List Item → List Step
  | 0, _, _ => []
  | rounds + 1, places, items =>
    if items.any (·.isOption) then
      match items with
      | ⟨written, .option none⟩ :: rest =>
        .extra written :: readItems parameters rounds places rest
      | ⟨_, .option (some named)⟩ :: rest =>
        let (steps, rest) := readOption parameters named rest
        steps ++ readItems parameters rounds places rest
      | items =>
        match takePositionals places items with
        | ([], _, _) =>
          let (extras, rest) := items.span fun item => !item.isOption
          extras.map (fun item => .extra item.written) ++ readItems parameters rounds places rest
        | (steps, places, rest) => steps ++ readItems parameters rounds places rest
    else
      let (steps, _, rest) := takePositionals places items
      steps ++ rest.map fun item => .extra item.written

end ClusterLog.Command
