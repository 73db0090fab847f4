import ClusterLog.Appender.Basic
import ClusterLog.Tools.Confinement

/-!
# Resources

The texts and tables that describe the tools: help on queries, the stock layout with its grammar,
and the shape of the answers of a search.
-/

namespace ClusterLog

/-- A structured value: texts, numbers, lists and records. -/
inductive Value where
  | text (content : String)
  | number (content : Nat)
  | list (items : List Value)
  | record (fields : List (String × Value))

/-- A resource that describes the tools. -/
inductive Resource where
  | help
  | defaultLayout
  | searchResponseSchema
deriving DecidableEq

namespace Resource

/-- All resources. -/
def all : List Resource := [.help, .defaultLayout, .searchResponseSchema]

/-- The name of a resource. -/
def name : Resource → String
  | .help => "help"
  | .defaultLayout => "layout/default"
  | .searchResponseSchema => "schemas/search-response"

/-- The resource with a name. -/
def ofName? (text : String) : Option Resource :=
  all.find? (·.name == text)

/-- The address of a resource. -/
def address (resource : Resource) : String :=
  "app://cluster-log-search/" ++ resource.name

/-- The queries that the help explains, with their explanations. -/
def queryExamples : List (String × String) := [
  ("repair", "term in the message"),
  ("host:node1 AND level:WARN", "column filters for host and level"),
  ("GCInspector.java", "punctuated words are searched as phrases"),
  ("message:\"large partition\"", "phrase"),
  ("gossip AND NOT level:DEBUG", "boolean operators")]

/-- The width of the queries in the help. -/
def exampleWidth : Nat := 31

/-- A list item with an example and its explanation. -/
def exampleLine (query explanation : String) : String :=
  let gap := String.ofList (List.replicate (exampleWidth - query.length) ' ')
  "- " ++ query ++ gap ++ explanation ++ "\n"

/-- The help on resources and queries. -/
def helpText (base : Path) : String :=
  "Resources:\n" ++
  String.join (all.map fun resource => "- " ++ resource.address ++ "\n") ++
  "\nQuery syntax (SQLite FTS5):\n" ++
  String.join (queryExamples.map fun (query, explanation) => exampleLine query explanation) ++
  "The level argument of search_logs is an exact match, not a minimum.\n" ++
  "\nBase directory (" ++ baseDirectoryVariable ++ "): " ++ base.text ++ "\n"

/-- The stock layout, its grammar, and the appender that stands in where none qualifies. -/
def layoutTable : Value :=
  let grammar := Layout.stockGrammar
  let appender := Appender.fallback
  let positions := Layout.Field.all.filterMap fun field =>
    (grammar.position? field).map fun position => (field.name, Value.number position)
  .record [
    ("layout", .text Layout.stock),
    ("pattern", .text (String.ofList grammar.source)),
    ("field_positions", .record positions),
    ("fallback_appender", .record [
      ("name", .text appender.name),
      ("file_patterns", .list (appender.files.map .text)),
      ("threshold", .text appender.threshold.name)]),
    ("well_known_files", .text (String.ofList Appender.wellKnown.source))]

/-! ## The shape of answers -/

/-- What a field of an answer holds. -/
inductive FieldKind where
  | text
  | optionalText
  | integer
  /-- A list of records of a named kind, which may be left out. -/
  | recordList (record : String)

/-- A field of an answer. -/
structure AnswerField where
  name : String
  kind : FieldKind
  description : Option String := none

/-- The fields of a hit. -/
def hitFields : List AnswerField := [
  ⟨"host", .optionalText, some "Node the entry was collected from."⟩,
  ⟨"level", .text, some "Severity as written in the log."⟩,
  ⟨"timestamp", .text, some "Entry time as yyyyMMddHHmmss."⟩,
  ⟨"message", .optionalText, some "Free-text message, including continuation lines."⟩]

/-- The name of the records that describe hits. -/
def hitRecord : String := "SearchHit"

/-- The fields of the answer of a search. -/
def responseFields : List AnswerField := [
  ⟨"count", .integer, none⟩,
  ⟨"entries", .recordList hitRecord, none⟩]

/-- The title of a field: its name with a capital letter. -/
def titleOf (name : String) : String :=
  match name.toList with
  | [] => ""
  | c :: rest => String.ofList (c.toUpper :: rest)

/-- The constraint on what a field holds. -/
def constraintOf : FieldKind → List (String × Value)
  | .text => [("type", .text "string")]
  | .optionalText => [("anyOf", .list [
      .record [("type", .text "string")], .record [("type", .text "null")]])]
  | .integer => [("type", .text "integer")]
  | .recordList record => [("items", .record [("$ref", .text ("#/$defs/" ++ record))]),
      ("type", .text "array")]

/-- Whether a field may be left out. -/
def isOptional : FieldKind → Bool
  | .recordList _ => true
  | _ => false

/-- The schema of one field. -/
def fieldSchema (field : AnswerField) : String × Value :=
  let description := field.description.map fun text => ("description", Value.text text)
  (field.name, .record (("title", .text (titleOf field.name)) :: constraintOf field.kind ++
    description.toList))

/-- The schema of a record. -/
def recordSchema (title : String) (fields : List AnswerField) : List (String × Value) := [
  ("properties", .record (fields.map fieldSchema)),
  ("required", .list ((fields.filter fun field => !isOptional field.kind).map fun field =>
    .text field.name)),
  ("title", .text title),
  ("type", .text "object")]

/-- The schema of the answers of a search. -/
def responseSchema : Value :=
  .record (("$defs", .record [(hitRecord, .record (recordSchema hitRecord hitFields))]) ::
    recordSchema "SearchResponse" responseFields)

/-- The contents of a resource. -/
def content (base : Path) : Resource → Value
  | .help => .text (helpText base)
  | .defaultLayout => layoutTable
  | .searchResponseSchema => responseSchema

end Resource

end ClusterLog
