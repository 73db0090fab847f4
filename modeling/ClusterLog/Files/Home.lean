import ClusterLog.Configuration
import ClusterLog.Files.Path

/-!
# Home directories

A relative path whose first name begins with a tilde starts from the home directory of a user.  The
rest of the name names the user; without one it is the user that the program runs for, whose home
directory the environment may name.
-/

namespace ClusterLog

/-- The home directories of users by their names.  The user that the program runs for has the empty
name too. -/
abbrev Accounts := List (String × String)

/-- The variable that names the user's own home directory. -/
def homeVariable : String := "HOME"

/-- The home directory of a user, as it is recorded. -/
def homeText? (environment : Environment) (accounts : Accounts) (user : String) : Option String :=
  (if user.isEmpty then environment.lookup homeVariable else none).or (accounts.lookup user)

namespace Path

/-- The path of a recorded home directory.  One that is empty but for slashes is the root. -/
def ofHome (text : String) : Path :=
  if text.toList.all (· == '/') then ⟨.root, []⟩ else ofText text

/-- The user in whose home directory a path starts, if it starts in one. -/
def homeUser? (path : Path) : Option (List Char) :=
  if path.isAbsolute then none
  else match path.names.head?.map (·.toList) with
    | some ('~' :: user) => some user
    | _ => none

/-- A path with the home directory in place of the name that stands for it.  A home directory that
has a tilde itself is unknown. -/
def expandHome (home? : String → Option String) (path : Path) : Except Failure Path :=
  match path.homeUser? with
  | none => .ok path
  | some user =>
    if user.any (·.toNat == 0) then .error .pathWithNull
    else match home? (String.ofList user) with
      | none => .error .homeUnknown
      | some text =>
        if text.toList.head? == some '~' then .error .homeUnknown
        else
          let home := ofHome text
          .ok { home with names := home.names ++ path.names.tail }

end Path

end ClusterLog
