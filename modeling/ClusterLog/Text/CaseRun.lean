/-!
# Runs of a case mapping

Case mappings of a script are mostly runs of code points that move by one distance, every code
point or every second one.  A table of such runs replaces a table of all its letters.
-/

namespace ClusterLog.Text

/-- The code points `first`, `first + step`, … up to `last` all move by `shift`. -/
structure CaseRun where
  first : Nat
  last : Nat
  step : Nat
  shift : Int

/-- The code point that a run sends `code` to, if the run covers it. -/
def CaseRun.image? (run : CaseRun) (code : Nat) : Option Nat :=
  if run.first ≤ code && code ≤ run.last && (code - run.first) % run.step == 0 then
    some (code + run.shift).toNat
  else
    none

/-- Where the first run that covers `code` sends it; a code point that no run covers stays. -/
def CaseRun.image (runs : List CaseRun) (code : Nat) : Nat :=
  (runs.findSome? (·.image? code)).getD code

end ClusterLog.Text
