/-!
# Tallies

A tally has one value for each key, in the order in which the keys came first.  Items are counted
one after the other: an item changes the value of its key, which begins with a start value.
-/

namespace ClusterLog.Diagnostics

/-- Values by keys. -/
abbrev Tally (Key Value : Type) := List (Key × Value)

namespace Tally

variable {Item Key Value : Type} [BEq Key]

/-- Change the value of a key.  A key without a value comes last. -/
def change (key : Key) (start : Value) (next : Value → Value) : Tally Key Value → Tally Key Value
  | [] => [(key, next start)]
  | (known, value) :: others =>
    if known == key then (known, next value) :: others
    else (known, value) :: change key start next others

/-- Count items. -/
def ofItems (key : Item → Key) (start : Value) (count : Value → Item → Value)
    (items : List Item) : Tally Key Value :=
  items.foldl (fun tally item => tally.change (key item) start (count · item)) []

end Tally

end ClusterLog.Diagnostics
