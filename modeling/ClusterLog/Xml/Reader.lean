import ClusterLog.Text.Lines
import ClusterLog.Xml.DocumentType

/-!
# Reading XML documents

A well-formed document with namespaces becomes its root element; anything else is refused.  Comments
and processing instructions leave no trace, entities are replaced by what they stand for, and
attribute values are normalised.

`fuel` bounds the work on one text together with the replacement texts inside it; since an entity
cannot contain itself, twice the length of the document is enough.
-/

namespace ClusterLog.Xml

open Text

/-- What the reading of a part of a document depends on. -/
structure Context extends Expansion where
  /-- The namespaces in scope, by prefix. -/
  namespaces : List (List Char × List Char)

/-- The context inside an entity. -/
def Context.inside (context : Context) (name : List Char) : Context :=
  { context with expanding := name :: context.expanding }

/-- The namespace of names that begin with `xml`. -/
def xmlSpace : List Char := "http://www.w3.org/XML/1998/namespace".toList

/-- The namespace of namespace declarations, which no name may claim. -/
def declarationSpace : List Char := "http://www.w3.org/2000/xmlns/".toList

/-- An attribute as it stands in a tag. -/
structure WrittenAttribute where
  name : WrittenName
  value : List Char

/-- The attributes of a tag; what follows them is the rest. -/
def readWrittenAttributes? :
    Nat → List Char → Option (List WrittenAttribute × List Char)
  | 0, _ => none
  | fuel + 1, text =>
    match skipSpace text with
    | '>' :: rest => some ([], '>' :: rest)
    | '/' :: rest => some ([], '/' :: rest)
    | _ => do
      let rest ← needSpace? text
      let (name, rest) ← readName? rest
      let rest ← dropLiteral? ['='] (skipSpace rest)
      let (value, rest) ← readLiteral? (skipSpace rest)
      let (others, rest) ← readWrittenAttributes? fuel rest
      return (⟨name, value⟩ :: others, rest)

/-- Whether no two of a list are equal. -/
def allDifferent {α : Type} [BEq α] : List α → Bool
  | [] => true
  | first :: others => !others.contains first && allDifferent others

/-- The values of the attributes of an element, with the defaults that it leaves out. -/
def attributeValues? (fuel : Nat) (context : Context) (element : WrittenName)
    (written : List WrittenAttribute) : Option (List (WrittenName × List Char)) := do
  let declared := context.declarations.attributes.filter (·.elementName == element)
  let given ← written.mapM fun found => do
    let isText := (declared.find? (·.attributeName == found.name)).elim true (·.isText)
    return (found.name, ← normalised? fuel context.toExpansion isText found.value)
  let missing := declared.filter fun declaration =>
    !written.any (·.name == declaration.attributeName)
  let defaults := missing.filterMap fun declaration =>
    declaration.default.map fun value => (declaration.attributeName, value)
  if allDifferent (written.map (·.name)) then some (given ++ defaults) else none

/-! ## Namespaces -/

/-- Whether an attribute declares a namespace: the prefix that it binds. -/
def boundPrefix? (name : WrittenName) : Option (List Char) :=
  if name.qualifier.isEmpty && name.localPart == "xmlns".toList then some []
  else if name.qualifier == "xmlns".toList then some name.localPart
  else none

/-- Whether a prefix may be bound to a namespace. -/
def mayBind (bound space : List Char) : Bool :=
  bound != "xmlns".toList && space != declarationSpace && !space.contains '}' &&
    (bound == "xml".toList) == (space == xmlSpace) && (bound.isEmpty || !space.isEmpty)

/-- The name that a written name stands for.  `default` is the namespace of names without prefix. -/
def expandName? (namespaces : List (List Char × List Char)) (default : List Char)
    (name : WrittenName) : Option Name :=
  let localPart := String.ofList name.localPart
  if name.qualifier.isEmpty then
    some ⟨String.ofList default, localPart⟩
  else
    (namespaces.lookup name.qualifier).map fun space => ⟨String.ofList space, localPart⟩

/-- The name and the attributes of an element, and the namespaces inside it. -/
def expandNames? (context : Context) (name : WrittenName)
    (attributes : List (WrittenName × List Char)) :
    Option (Name × List (Name × List Char) × Context) := do
  let bindings := attributes.filterMap fun (name, value) =>
    (boundPrefix? name).map fun bound => (bound, value)
  if bindings.all fun (bound, space) => mayBind bound space then
    let namespaces := bindings ++ context.namespaces
    let name ← expandName? namespaces ((namespaces.lookup []).getD []) name
    let plain := attributes.filter fun (name, _) => (boundPrefix? name).isNone
    let attributes ← plain.mapM fun (name, value) => do
      return (← expandName? namespaces [] name, value)
    if allDifferent (attributes.map (·.1)) then
      some (name, attributes, { context with namespaces })
    else
      none
  else
    none

/-! ## Content -/

/-- Put characters in front of the parts of an element. -/
def addChars (chars : List Char) : List Node → List Node
  | .text later :: nodes => .text (chars ++ later) :: nodes
  | nodes => if chars.isEmpty then nodes else .text chars :: nodes

mutual

/-- The content of an element or of a replacement text, up to an end tag or the end. -/
def readContent? : Nat → Context → List Char → Option (List Node × List Char)
  | 0, _, _ => none
  | _, _, [] => some ([], [])
  | _ + 1, _, '<' :: '/' :: rest => some ([], '<' :: '/' :: rest)
  | fuel + 1, context, '<' :: '?' :: rest => do
    readContent? fuel context (← skipInstruction? rest)
  | fuel + 1, context, '<' :: '!' :: rest =>
    match dropLiteral? "--".toList rest with
    | some rest => do readContent? fuel context (← skipComment? rest)
    | none => do
      let rest ← dropLiteral? "[CDATA[".toList rest
      let (chars, rest) ← readUntil? "]]>".toList rest
      let (nodes, rest) ← readContent? fuel context rest
      return (addChars chars nodes, rest)
  | fuel + 1, context, '<' :: rest => do
    let (node, rest) ← readElement? fuel context rest
    let (nodes, rest) ← readContent? fuel context rest
    return (node :: nodes, rest)
  | fuel + 1, context, '&' :: rest => do
    let (reference, rest) ← readReference? rest
    let (nodes, rest) ← readContent? fuel context rest
    match reference with
    | .char c => return (addChars [c] nodes, rest)
    | .entity name =>
      match predefined? name with
      | some c => return (addChars [c] nodes, rest)
      | none => do
        let replacement ← context.replacement? name
        let (inner, left) ← readContent? fuel (context.inside name) replacement
        if left.isEmpty then return (inner ++ nodes, rest) else none
  | fuel + 1, context, c :: rest =>
    if isXmlChar c && (dropLiteral? "]]>".toList (c :: rest)).isNone then do
      let (nodes, rest) ← readContent? fuel context rest
      return (addChars [c] nodes, rest)
    else
      none

/-- An element after the opening of its tag. -/
def readElement? : Nat → Context → List Char → Option (Node × List Char)
  | 0, _, _ => none
  | fuel + 1, context, text => do
    let (written, rest) ← readName? text
    let (attributes, rest) ← readWrittenAttributes? (rest.length + 1) rest
    let values ← attributeValues? fuel context written attributes
    let (name, attributes, inner) ← expandNames? context written values
    match rest with
    | '/' :: '>' :: rest => return (.element name attributes [], rest)
    | '>' :: rest => do
      let (children, rest) ← readContent? fuel inner rest
      let rest ← dropLiteral? "</".toList rest
      let (closing, rest) ← readName? rest
      let rest ← dropLiteral? ['>'] (skipSpace rest)
      if closing == written then return (.element name attributes children, rest) else none
    | _ => none

end

/-! ## Documents -/

/-- One setting of the declaration at the beginning of a document, after its blanks. -/
def readPseudo? (name : String) (text : List Char) : Option (List Char × List Char) := do
  let rest ← dropLiteral? name.toList text
  let rest ← dropLiteral? ['='] (skipSpace rest)
  let (value, rest) ← readLiteral? (skipSpace rest)
  let isValueChar (c : Char) : Bool :=
    isAsciiLetter c || isAsciiDigit c || c == '.' || c == '-' || c == '_'
  if value.all isValueChar then some (value, rest) else none

/-- An optional setting: its value, and the text after it. -/
def readOptional? (name : String) (text : List Char) : Option (List Char) × List Char :=
  match (needSpace? text).bind (readPseudo? name) with
  | some (value, rest) => (some value, rest)
  | none => (none, text)

/-- The declaration at the beginning of a document, after `<?xml`: whether the document stands
alone. -/
def readXmlDeclaration? (text : List Char) : Option (Bool × List Char) := do
  let (_, rest) ← readPseudo? "version" (← needSpace? text)
  let (encoding, rest) := readOptional? "encoding" rest
  let (standalone, rest) := readOptional? "standalone" rest
  let rest ← dropLiteral? "?>".toList (skipSpace rest)
  let encodingOk := match encoding with
    | some (c :: _) => isAsciiLetter c
    | some [] => false
    | none => true
  let alone ← match standalone with
    | some value =>
      if value == "yes".toList then some true
      else if value == "no".toList then some false
      else none
    | none => some false
  if encodingOk then some (alone, rest) else none

/-- Blanks, comments and processing instructions between the other parts of a document. -/
def skipMisc? : Nat → List Char → Option (List Char)
  | 0, _ => none
  | fuel + 1, text =>
    match skipSpace text with
    | '<' :: '?' :: rest => do skipMisc? fuel (← skipInstruction? rest)
    | '<' :: '!' :: '-' :: '-' :: rest => do skipMisc? fuel (← skipComment? rest)
    | rest => some rest

/-- The root element of a document. -/
def readDocument? (document : List Char) : Option Element := do
  let text := unifyLineEnds document
  let text := if text.head? == some (Char.ofNat 0xFEFF) then text.tail else text
  let fuel := 2 * text.length + 2
  let (standalone, rest) ← match dropLiteral? "<?xml".toList text with
    | some rest =>
      if (rest.head?.map isSpace) == some true then readXmlDeclaration? rest else some (false, text)
    | none => some (false, text)
  let rest ← skipMisc? fuel rest
  let start : Declarations := { standalone := standalone }
  let (declarations, rest) ← match dropLiteral? "<!DOCTYPE".toList rest with
    | some rest => do
      let (declarations, rest) ← readDoctype? start rest
      let rest ← skipMisc? fuel rest
      pure (declarations, rest)
    | none => some (start, rest)
  let context : Context := {
    declarations, namespaces := [("xml".toList, xmlSpace)], expanding := [] }
  let (root, rest) ← readElement? fuel context (← dropLiteral? ['<'] rest)
  let rest ← skipMisc? fuel rest
  match rest, root with
  | [], .element name attributes children => return ⟨name, attributes, children⟩
  | _, _ => none

end ClusterLog.Xml
