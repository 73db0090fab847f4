/-!
# The order of texts

Texts are ordered by their first difference, by code point, and a text comes before its
continuations.
-/

namespace ClusterLog.Text

/-- Whether a text comes before another one or equals it. -/
def precedes : List Char → List Char → Bool
  | [], _ => true
  | _ :: _, [] => false
  | c :: left, d :: right =>
    if c.toNat < d.toNat then true
    else if d.toNat < c.toNat then false
    else precedes left right

end ClusterLog.Text
