import ClusterLog.Appender.Basic
import ClusterLog.Proofs.Pattern.Completeness
import ClusterLog.Proofs.Pattern.Source
import ClusterLog.Proofs.Text.Split
import Mathlib.Data.List.TakeWhile

/-!
# Names of log files

The pattern of a file name matches the names that go on behind it in the same
line, whatever characters the file name has: each of them stands for itself.  So
does the written form of the pattern, in which some characters are escaped.
-/

namespace ClusterLog

open Text

namespace Pattern

/-! ## Matches of composed patterns -/

end Pattern

namespace Appender

open Pattern

/-- A text is all that stands behind the last slash of a path. -/
def IsLastComponent (component path : List Char) : Prop :=
  '/' ∉ component ∧
    (path = component ∨ ∃ front, path = front ++ '/' :: component)

/-- There is one last component. -/
theorem IsLastComponent.eq {component path : List Char}
    (last : IsLastComponent component path) :
    component = (path.reverse.takeWhile (· != '/')).reverse := by
  rcases last with ⟨free, whole⟩
  have name : ∀ c ∈ component.reverse, (c != '/') = true := by
    intro c inside
    have apart : c ≠ '/' := fun same => free (same ▸ List.mem_reverse.mp inside)
    simpa using apart
  rcases whole with rfl | ⟨front, rfl⟩
  · rw [List.takeWhile_eq_self_iff.mpr name, List.reverse_reverse]
  · rw [List.reverse_append, List.reverse_cons, List.append_assoc,
      List.takeWhile_append_of_pos name]
    simp

end Appender

end ClusterLog
