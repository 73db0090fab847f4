import ClusterLog.Text.Find
import ClusterLog.Xml.ContentModel
import ClusterLog.Xml.Value

/-!
# Document types

The document type declaration at the beginning of a document, with the declarations between its
brackets.  `fuel` starts above the length of the text, and each declaration costs less than its own
length, so what is left is enough for the default values inside a declaration.
-/

namespace ClusterLog.Xml

open Text

/-- The system identifier of something stored elsewhere, or a public and a system identifier. -/
def skipExternalId? (text : List Char) : Option (List Char) :=
  match dropLiteral? "SYSTEM".toList text with
  | some rest => do
    let rest ← needSpace? rest
    let (_, rest) ← readLiteral? rest
    return rest
  | none => do
    let rest ← dropLiteral? "PUBLIC".toList text
    let rest ← needSpace? rest
    let (identifier, rest) ← readLiteral? rest
    if identifier.all isPublicIdChar then
      let rest ← needSpace? rest
      let (_, rest) ← readLiteral? rest
      return rest
    else
      none

/-- The replacement text of a written entity value: character references are replaced, references
to entities stay. -/
def entityValue? : Nat → List Char → Option (List Char)
  | 0, _ => none
  | _, [] => some []
  | _ + 1, '%' :: _ => none
  | fuel + 1, '&' :: text => do
    let (reference, rest) ← readReference? text
    let value ← entityValue? fuel rest
    match reference with
    | .char c => return c :: value
    | .entity name => return '&' :: name ++ ';' :: value
  | fuel + 1, c :: text => (entityValue? fuel text).map (c :: ·)

/-- The replacement text of a declared entity.  Where declarations no longer count, the written
value is not looked at. -/
def replacementText? (declarations : Declarations) (written : List Char) : Option (List Char) :=
  if declarations.counting then entityValue? (written.length + 1) written else some []

/-- The end of a declaration. -/
def endDeclaration? (text : List Char) : Option (List Char) :=
  dropLiteral? ['>'] (skipSpace text)

/-- An entity declaration after its keyword. -/
def readEntity? (declarations : Declarations) (text : List Char) :
    Option (Declarations × List Char) := do
  let rest ← needSpace? text
  match rest with
  | '%' :: rest => do
    let rest ← needSpace? rest
    let (_, rest) ← readSimpleName? rest
    let rest ← needSpace? rest
    match readLiteral? rest with
    | some (value, rest) => do
      let _ ← replacementText? declarations value
      return (declarations, ← endDeclaration? rest)
    | none => return (declarations, ← endDeclaration? (← skipExternalId? rest))
  | rest => do
    let (name, rest) ← readSimpleName? rest
    let rest ← needSpace? rest
    match readLiteral? rest with
    | some (value, rest) => do
      let replacement ← replacementText? declarations value
      return (declarations.addEntity name (.inside replacement), ← endDeclaration? rest)
    | none => do
      let rest ← skipExternalId? rest
      match dropLiteral? "NDATA".toList (skipSpace rest) with
      | some after => do
        let _ ← needSpace? rest
        let (_, after) ← readSimpleName? (← needSpace? after)
        return (declarations.addEntity name .outside, ← endDeclaration? after)
      | none => return (declarations.addEntity name .outside, ← endDeclaration? rest)

/-- The choices of an enumerated attribute type, after the opening parenthesis. -/
def skipChoices? (text : List Char) : Option (List Char) := do
  let (inside, rest) ← readUntil? [')'] text
  let isChoice (choice : List Char) : Bool :=
    let word := (skipSpace (skipSpace choice).reverse).reverse
    !word.isEmpty && word.all fun c => isNameChar c || c == ':'
  if (splitAt '|' inside).all isChoice then some rest else none

/-- The type of an attribute: whether it is any text. -/
def readAttributeType? (text : List Char) : Option (Bool × List Char) :=
  match text with
  | '(' :: rest => (skipChoices? rest).map fun rest => (false, rest)
  | text => do
    let (word, rest) ← readSimpleName? text
    if word == "CDATA".toList then
      return (true, rest)
    else if word == "NOTATION".toList then
      let rest ← needSpace? rest
      let rest ← dropLiteral? ['('] rest
      return (false, ← skipChoices? rest)
    else if ["ID", "IDREF", "IDREFS", "ENTITY", "ENTITIES", "NMTOKEN", "NMTOKENS"].any
        (·.toList == word) then
      return (false, rest)
    else
      none

/-- The written default of an attribute, if it has one. -/
def readDefault? (text : List Char) : Option (Option (List Char) × List Char) :=
  match dropLiteral? "#REQUIRED".toList text, dropLiteral? "#IMPLIED".toList text,
      dropLiteral? "#FIXED".toList text with
  | some rest, _, _ => some (none, rest)
  | _, some rest, _ => some (none, rest)
  | _, _, some rest => do
    let (value, rest) ← readLiteral? (← needSpace? rest)
    return (some value, rest)
  | none, none, none => do
    let (value, rest) ← readLiteral? text
    return (some value, rest)

/-- Add an attribute with its written default, whose references are replaced here and now.  Where
declarations no longer count, the default is not looked at. -/
def addWritten? (fuel : Nat) (declarations : Declarations) (elementName attributeName : WrittenName)
    (isText : Bool) (default : Option (List Char)) : Option Declarations :=
  if declarations.counting then
    match default with
    | none => some (declarations.addAttribute ⟨elementName, attributeName, isText, none⟩)
    | some written => do
      let value ← normalised? fuel { declarations := declarations } isText written
      return declarations.addAttribute ⟨elementName, attributeName, isText, some value⟩
  else
    some declarations

/-- The attributes of an attribute-list declaration. -/
def readAttributes? (elementName : WrittenName) :
    Nat → Declarations → List Char → Option (Declarations × List Char)
  | 0, _, _ => none
  | fuel + 1, declarations, text =>
    match endDeclaration? text with
    | some rest => some (declarations, rest)
    | none => do
      let rest ← needSpace? text
      let (attributeName, rest) ← readName? rest
      let (isText, rest) ← readAttributeType? (← needSpace? rest)
      let (default, rest) ← readDefault? (← needSpace? rest)
      readAttributes? elementName fuel
        (← addWritten? fuel declarations elementName attributeName isText default) rest

/-- One declaration after `<!`. -/
def readDeclaration? (fuel : Nat) (declarations : Declarations) (text : List Char) :
    Option (Declarations × List Char) :=
  match dropLiteral? "--".toList text, dropLiteral? "ENTITY".toList text,
      dropLiteral? "ATTLIST".toList text, dropLiteral? "ELEMENT".toList text,
      dropLiteral? "NOTATION".toList text with
  | some rest, _, _, _, _ => (skipComment? rest).map fun rest => (declarations, rest)
  | _, some rest, _, _, _ => readEntity? declarations rest
  | _, _, some rest, _, _ => do
    let (elementName, rest) ← readName? (← needSpace? rest)
    readAttributes? elementName fuel declarations rest
  | _, _, _, some rest, _ => do
    let (_, rest) ← readName? (← needSpace? rest)
    let rest ← skipContentModel? (← needSpace? rest)
    return (declarations, ← endDeclaration? rest)
  | _, _, _, _, some rest => do
    let (_, rest) ← readSimpleName? (← needSpace? rest)
    let rest ← needSpace? rest
    match skipExternalId? rest with
    | some rest => return (declarations, ← endDeclaration? rest)
    | none => do
      let rest ← needSpace? (← dropLiteral? "PUBLIC".toList rest)
      let (_, rest) ← readLiteral? rest
      return (declarations, ← endDeclaration? rest)
  | _, _, _, _, _ => none

/-- The declarations between the brackets of a document type. -/
def readSubset? : Nat → Declarations → List Char → Option (Declarations × List Char)
  | 0, _, _ => none
  | fuel + 1, declarations, text =>
    match skipSpace text with
    | ']' :: rest => some (declarations, rest)
    | '%' :: rest => do
      let (_, rest) ← readSimpleName? rest
      readSubset? fuel declarations.skipParameterEntity (← dropLiteral? [';'] rest)
    | '<' :: '?' :: rest => do readSubset? fuel declarations (← skipInstruction? rest)
    | '<' :: '!' :: rest => do
      let (declarations, rest) ← readDeclaration? fuel declarations rest
      readSubset? fuel declarations rest
    | _ => none

/-- A document type declaration after its keyword. -/
def readDoctype? (declarations : Declarations) (text : List Char) :
    Option (Declarations × List Char) := do
  let (_, rest) ← readName? (← needSpace? text)
  let (declarations, rest) ← match skipSpace rest with
    | '[' :: _ | '>' :: _ => some (declarations, skipSpace rest)
    | _ => do
      let after ← skipExternalId? (← needSpace? rest)
      pure ({ declarations with incomplete := true }, skipSpace after)
  match rest with
  | '[' :: rest => do
    let (declarations, rest) ← readSubset? (rest.length + 1) declarations rest
    return (declarations, ← endDeclaration? rest)
  | rest => return (declarations, ← dropLiteral? ['>'] rest)

end ClusterLog.Xml
