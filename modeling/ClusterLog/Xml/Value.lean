import ClusterLog.Text.Find
import ClusterLog.Xml.Declarations

/-!
# Attribute values

A written attribute value becomes the value that a document provides: blanks become spaces, and
references are replaced by what they stand for, also inside the replacement texts of entities.

`fuel` bounds the work on one text together with the replacement texts inside it.  An entity cannot
contain itself, so the length of the text and of the declarations is enough.
-/

namespace ClusterLog.Xml

open Text

/-- What the replacement of entities depends on. -/
structure Expansion where
  declarations : Declarations
  /-- The entities whose replacement text is being read. -/
  expanding : List (List Char) := []

namespace Expansion

/-- The replacement text of an entity that is declared inside and not being read already. -/
def replacement? (expansion : Expansion) (name : List Char) : Option (List Char) :=
  if expansion.expanding.contains name then
    none
  else
    match expansion.declarations.entities.lookup name with
    | some (.inside replacement) => some replacement
    | _ => none

/-- The expansion inside an entity. -/
def inside (expansion : Expansion) (name : List Char) : Expansion :=
  { expansion with expanding := name :: expansion.expanding }

/-- Whether an undeclared entity in an attribute is left out. -/
def leavesOut (expansion : Expansion) (name : List Char) : Bool :=
  expansion.declarations.incomplete && !expansion.declarations.standalone &&
    (expansion.declarations.entities.lookup name).isNone

end Expansion

/-- The value of a written attribute: blanks become spaces, references are replaced. -/
def attributeValue? : Nat → Expansion → List Char → Option (List Char)
  | 0, _, _ => none
  | _, _, [] => some []
  | _ + 1, _, '<' :: _ => none
  | fuel + 1, expansion, '&' :: text => do
    let (reference, rest) ← readReference? text
    let value ← attributeValue? fuel expansion rest
    match reference with
    | .char c => return c :: value
    | .entity name =>
      match predefined? name with
      | some c => return c :: value
      | none =>
        if expansion.leavesOut name then
          return value
        else do
          let replacement ← expansion.replacement? name
          return (← attributeValue? fuel (expansion.inside name) replacement) ++ value
  | fuel + 1, expansion, c :: text => do
    let value ← attributeValue? fuel expansion text
    if isSpace c then return ' ' :: value
    else if isXmlChar c then return c :: value
    else none

/-- Names and tokens in an attribute value: without spaces at the ends, and one space between. -/
def tokenised (value : List Char) : List Char :=
  [' '].intercalate ((splitAt ' ' value).filter (!·.isEmpty))

/-- The value of a written attribute that is either any text or else names. -/
def normalised? (fuel : Nat) (expansion : Expansion) (isText : Bool) (written : List Char) :
    Option (List Char) :=
  (attributeValue? fuel expansion written).map fun value =>
    if isText then value else tokenised value

end ClusterLog.Xml
