import ClusterLog.Xml.Scan

/-!
# Declarations

What the declarations inside a document provide: entities and default attribute values.  Entities
outside the document are known but cannot be used.  Once a parameter entity is referred to,
declarations no longer count, and an undeclared entity is no longer an error in an attribute, since
the declarations are incomplete.
-/

namespace ClusterLog.Xml

open Text

/-- A general entity. -/
inductive Entity where
  /-- An entity with its replacement text. -/
  | inside (replacement : List Char)
  /-- An entity that is stored elsewhere. -/
  | outside
deriving DecidableEq

/-- A declared attribute of an element. -/
structure AttributeDeclaration where
  elementName : WrittenName
  attributeName : WrittenName
  /-- Whether the value is any text, rather than names. -/
  isText : Bool
  /-- The value that an element takes where it leaves the attribute out. -/
  default : Option (List Char)

/-- The declarations of a document. -/
structure Declarations where
  entities : List (List Char × Entity) := []
  attributes : List AttributeDeclaration := []
  /-- Whether there are declarations that are not read. -/
  incomplete : Bool := false
  /-- Whether declarations still count. -/
  counting : Bool := true
  /-- Whether the document says that it stands alone. -/
  standalone : Bool := false

namespace Declarations

/-- Add an entity; the first declaration of a name counts. -/
def addEntity (declarations : Declarations) (name : List Char) (entity : Entity) : Declarations :=
  if declarations.counting && (declarations.entities.lookup name).isNone then
    { declarations with entities := (name, entity) :: declarations.entities }
  else
    declarations

/-- Add an attribute; the first declaration of an attribute counts. -/
def addAttribute (declarations : Declarations) (added : AttributeDeclaration) : Declarations :=
  let known := declarations.attributes.any fun declared =>
    declared.elementName == added.elementName && declared.attributeName == added.attributeName
  if declarations.counting && !known then
    { declarations with attributes := declarations.attributes ++ [added] }
  else
    declarations

/-- Note a parameter entity that is not read. -/
def skipParameterEntity (declarations : Declarations) : Declarations :=
  { declarations with incomplete := true, counting := declarations.standalone }

end Declarations

end ClusterLog.Xml
