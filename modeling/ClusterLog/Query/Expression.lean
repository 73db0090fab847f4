import ClusterLog.Index.Document

/-!
# Query expressions

What a query asks for: phrases and groups of near phrases in some columns, combined by operators.
`Expression.holds` says which documents meet it.
-/

namespace ClusterLog.Query

open Text

/-- A term of a phrase. -/
structure PhraseTerm where
  term : Term
  /-- Every term that begins like this one counts. -/
  isOpen : Bool := false
deriving DecidableEq

/-- Whether a term of a document counts as the term of a phrase. -/
def PhraseTerm.accepts (wanted : PhraseTerm) (found : Term) : Bool :=
  if wanted.isOpen then wanted.term.isPrefixOf found else wanted.term == found

/-- Terms that follow each other. -/
structure Phrase where
  terms : List PhraseTerm := []
  /-- The phrase has to stand at the beginning of its column. -/
  isFirst : Bool := false
deriving DecidableEq

namespace Phrase

/-- A phrase without terms. -/
def isVoid (phrase : Phrase) : Bool :=
  phrase.terms.isEmpty

/-- Whether terms follow each other at the beginning of a text. -/
def beginsWith : List PhraseTerm → List Term → Bool
  | [], _ => true
  | _ :: _, [] => false
  | wanted :: others, found :: rest => wanted.accepts found && beginsWith others rest

/-- The positions from `position` on at which a list of terms is found. -/
def positionsFrom (wanted : List PhraseTerm) (position : Nat) : List Term → List Nat
  | [] => []
  | found :: rest =>
    if beginsWith wanted (found :: rest) then position :: positionsFrom wanted (position + 1) rest
    else positionsFrom wanted (position + 1) rest

/-- The positions at which a phrase stands in a column with given terms. -/
def positions (phrase : Phrase) (found : List Term) : List Nat :=
  let all := if phrase.isVoid then [] else positionsFrom phrase.terms 0 found
  if phrase.isFirst then all.filter (· == 0) else all

/-- Add the terms of a written text to a phrase.  The star behind the text opens the last term. -/
def extend (phrase : Phrase) (text : List Char) (star : Bool) : Phrase :=
  let all := phrase.terms ++ (Term.terms text).map fun term => { term := term }
  match all.getLast? with
  | some last => { phrase with terms := all.dropLast ++ [{ last with isOpen := star }] }
  | none => phrase

end Phrase

/-- A phrase, or several phrases near each other. -/
structure Group where
  /-- The columns that are searched; `none` stands for all. -/
  filter : Option (List Column) := none
  phrases : List Phrase
  /-- How many terms may lie between two phrases. -/
  distance : Int := 10
deriving DecidableEq

/-- Whether a column is among those that a filter allows. -/
def allows (filter : Option (List Column)) (column : Column) : Bool :=
  match filter with
  | none => true
  | some columns => columns.contains column

namespace Group

/-- The phrases of a group that have terms. -/
def realPhrases (group : Group) : List Phrase :=
  group.phrases.filter fun phrase => !phrase.isVoid

/-- Whether no phrase of a group has terms. -/
def isVoid (group : Group) : Bool :=
  group.realPhrases.isEmpty

/-- Whether a phrase that stands at `position` is near enough to another one that stands at `last`,
no earlier than it. -/
def isNear (group : Group) (phrase : Phrase) (last position : Nat) : Bool :=
  (last : Int) - phrase.terms.length - group.distance ≤ position && position ≤ last

/-- Whether the phrases of a group stand near each other in a column with given terms.  All of them
end at most the distance before the start of the last one. -/
def holdsIn (group : Group) (found : List Term) : Bool :=
  let places := group.realPhrases.map fun phrase => (phrase, phrase.positions found)
  match places with
  | [] => false
  | [(_, positions)] => !positions.isEmpty
  | places => (places.flatMap (·.2)).any fun last =>
      places.all fun (phrase, positions) => positions.any (group.isNear phrase last)

/-- Whether a group is found in one of the columns that its filter and `visible` allow. -/
def holds (group : Group) (visible : Column → Bool) (found : Column → List Term) : Bool :=
  Column.all.any fun column =>
    visible column && allows group.filter column && group.holdsIn (found column)

end Group

/-- The operators that combine expressions, from the weakest to the strongest. -/
inductive Operator where
  | or
  | and
  | not
deriving DecidableEq

namespace Operator

/-- The strength of an operator. -/
def strength : Operator → Nat
  | or => 0
  | and => 1
  | not => 2

/-- What an operator makes of two answers. -/
def combine : Operator → Bool → Bool → Bool
  | or, left, right => left || right
  | and, left, right => left && right
  | not, left, right => left && !right

end Operator

/-- A query expression. -/
inductive Expression where
  /-- Groups one after the other, all of which have to be found.  Void ones among them do not
  count. -/
  | groups (groups : List Group)
  /-- An expression that looks at some columns only. -/
  | within (columns : List Column) (body : Expression)
  | combined (operator : Operator) (left right : Expression)

namespace Expression

/-- The groups of a list that count: those with terms. -/
def realGroups (groups : List Group) : List Group :=
  groups.filter fun group => !group.isVoid

/-- Whether an expression holds for the terms of a document's columns, of which it may look at the
visible ones. -/
def holdsFor (found : Column → List Term) : (visible : Column → Bool) → Expression → Bool
  | visible, groups items =>
    !(realGroups items).isEmpty && (realGroups items).all (·.holds visible found)
  | visible, within columns body =>
    holdsFor found (fun column => visible column && columns.contains column) body
  | visible, combined operator left right =>
    operator.combine (holdsFor found visible left) (holdsFor found visible right)

/-- Whether a document meets an expression. -/
def holds (expression : Expression) (document : Document) : Bool :=
  holdsFor document.terms (fun _ => true) expression

/-- The operator at the root of an expression; several groups stand for a conjunction. -/
def root? : Expression → Option Operator
  | groups items => if 2 ≤ (realGroups items).length then some .and else none
  | within _ body => body.root?
  | combined operator _ _ => some operator

/-- How much an operand adds to the height of an expression: conjunctions of conjunctions and
disjunctions of disjunctions are flat. -/
def levelsOver (operator : Operator) (operand : Expression) : Nat :=
  if operator ≠ .not ∧ operand.root? = some operator then 0 else 1

/-- The number of nested operators in an expression. -/
def height : Expression → Nat
  | groups items => if 2 ≤ (realGroups items).length then 1 else 0
  | within _ body => body.height
  | combined operator left right =>
    max (left.height + levelsOver operator left) (right.height + levelsOver operator right)

end Expression

end ClusterLog.Query
