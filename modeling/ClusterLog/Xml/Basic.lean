import ClusterLog.Text.Class
import ClusterLog.Text.Find
import ClusterLog.Xml.NameTable

/-!
# XML documents

Elements, attributes and text, and what a settings reader asks of them: the first child of a name,
all children of a name, an attribute, and the text before the first child.
-/

namespace ClusterLog.Xml

open Text

/-- A name with the namespace it stands in; the empty namespace is none. -/
structure Name where
  space : String
  localPart : String
deriving DecidableEq

/-- A name in no namespace. -/
def Name.plain (localPart : String) : Name :=
  ⟨"", localPart⟩

/-- A part of an element. -/
inductive Node where
  | text (chars : List Char)
  | element (name : Name) (attributes : List (Name × List Char)) (children : List Node)

/-- An element. -/
structure Element where
  name : Name
  attributes : List (Name × List Char)
  children : List Node

namespace Element

/-- The elements directly inside an element that have a plain name. -/
def childrenNamed (element : Element) (name : String) : List Element :=
  element.children.filterMap fun
    | .element found attributes children =>
      if found == .plain name then some ⟨found, attributes, children⟩ else none
    | .text _ => none

/-- The first element directly inside an element that has a plain name. -/
def child? (element : Element) (name : String) : Option Element :=
  (element.childrenNamed name).head?

/-- The element along a path of plain names, the first one at each step. -/
def descend? (element : Element) : List String → Option Element
  | [] => some element
  | name :: names => do (← element.child? name).descend? names

/-- The value of an attribute with a plain name. -/
def attribute? (element : Element) (name : String) : Option String :=
  (element.attributes.lookup (.plain name)).map String.ofList

/-- The characters before the first child element. -/
def leadingChars : List Node → List Char
  | .text chars :: nodes => chars ++ leadingChars nodes
  | _ => []

/-- The text before the first child element, if there is any. -/
def text? (element : Element) : Option String :=
  match leadingChars element.children with
  | [] => none
  | chars => some (String.ofList chars)

end Element

/-! ## Characters -/

/-- The characters that a document may hold. -/
def isXmlChar (c : Char) : Bool :=
  let code := c.toNat
  code == 9 || code == 10 || code == 13 || (32 ≤ code && code ≤ 0xD7FF) ||
    (0xE000 ≤ code && code ≤ 0xFFFD) || 0x10000 ≤ code

/-- The blanks of markup. -/
def isSpace (c : Char) : Bool :=
  c == ' ' || c == '\t' || c == '\n' || c == '\r'

/-- The characters that may begin a name; the colon is not among them. -/
def isNameStart (c : Char) : Bool :=
  let code := c.toNat
  if code < 128 then isAsciiLetter c || c == '_' else inRanges nameStartRanges code

/-- The characters that may continue a name; the colon is not among them. -/
def isNameChar (c : Char) : Bool :=
  let code := c.toNat
  if code < 128 then
    isAsciiLetter c || isAsciiDigit c || c == '_' || c == '-' || c == '.'
  else
    inRanges nameStartRanges code || inRanges nameFurtherRanges code

/-- The characters of public identifiers. -/
def isPublicIdChar (c : Char) : Bool :=
  isAsciiLetter c || isAsciiDigit c || " \r\n-'()+,./:=?;!*#@$_%".toList.contains c

end ClusterLog.Xml
