import ClusterLog.Xml.Scan

/-!
# Content models

What an element declaration says about the content of an element: nothing, anything, text mixed with
elements, or a group of particles.  Content is not checked against its model, so that a model only
has to be well formed.  Every particle goes down with `fuel`, which starts above the length of the
text.
-/

namespace ClusterLog.Xml

open Text

/-- The text after the sign that says how often a particle occurs, if there is one. -/
def skipOccurrence : List Char → List Char
  | '?' :: rest => rest
  | '*' :: rest => rest
  | '+' :: rest => rest
  | rest => rest

/-- The text after a model of mixed content, from behind its keyword on.  `named` says that an
element has been named; then a star has to follow. -/
def skipMixed? : Nat → Bool → List Char → Option (List Char)
  | 0, _, _ => none
  | fuel + 1, named, text =>
    match skipSpace text with
    | ')' :: '*' :: rest => some rest
    | ')' :: rest => if named then none else some rest
    | '|' :: rest => do
      let (_, rest) ← readName? (skipSpace rest)
      skipMixed? fuel true rest
    | _ => none

mutual

/-- The text after a particle: a name or a group, and how often it occurs. -/
def skipParticle? : Nat → List Char → Option (List Char)
  | 0, _ => none
  | fuel + 1, '(' :: rest => do
    skipParticles? fuel none (← skipParticle? fuel (skipSpace rest))
  | _ + 1, text => do
    let (_, rest) ← readName? text
    return skipOccurrence rest

/-- The text after the further particles of a group.  All of them are joined by one connector. -/
def skipParticles? : Nat → Option Char → List Char → Option (List Char)
  | 0, _, _ => none
  | fuel + 1, connector, text =>
    match skipSpace text with
    | ')' :: rest => some (skipOccurrence rest)
    | c :: rest =>
      if (c == ',' || c == '|') && connector.getD c == c then do
        skipParticles? fuel (some c) (← skipParticle? fuel (skipSpace rest))
      else
        none
    | [] => none

end

/-- The text after a content model. -/
def skipContentModel? (text : List Char) : Option (List Char) :=
  match dropLiteral? "EMPTY".toList text, dropLiteral? "ANY".toList text, text with
  | some rest, _, _ => some rest
  | _, some rest, _ => some rest
  | _, _, '(' :: inside =>
    match dropLiteral? "#PCDATA".toList (skipSpace inside) with
    | some rest => skipMixed? (rest.length + 1) false rest
    | none => skipParticle? (text.length + 1) text
  | _, _, _ => none

end ClusterLog.Xml
