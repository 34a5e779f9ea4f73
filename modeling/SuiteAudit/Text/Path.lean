import SuiteAudit.Text.Case

/-!
# File paths

A path is cut at its slashes. Empty components and single dots say nothing and are dropped; leading
slashes are a component of their own, one or, for exactly two, both of them.
-/

namespace SuiteAudit.Text

/-- The slashes that root the path, as a component. -/
def pathRoot (path : Text) : List Text :=
  match path.points with
  | .char '/' :: .char '/' :: .char '/' :: _ => ["/"]
  | .char '/' :: .char '/' :: _ => ["//"]
  | .char '/' :: _ => ["/"]
  | _ => []

/-- The components below the root. -/
def pathNames (path : Text) : List Text :=
  (splitAt '/' path).filter fun name => name != "" && name != "."

/-- **The components of a path**, its root first. -/
def pathParts (path : Text) : List Text :=
  pathRoot path ++ pathNames path

/-- **The suffix of the last component**, from its last dot on. A name that starts with its only
dot or ends in one has no suffix. -/
def pathSuffix (path : Text) : Text :=
  let name := ((pathNames path).getLast?.getD "").points
  let extension := Chars.afterLast '.' name
  let stem := name.length - extension.length
  if extension.isEmpty || stem ≤ 1 then "" else ⟨'.' :: extension⟩

/-- **The last component as written**, after the last slash of either kind. -/
def fileName (path : Text) : Text :=
  afterLast '/' (replaceChar '\\' '/' path)

/-- **The stem of a file name**: up to its first dot, in lower case. -/
def fileStem (path : Text) : Text :=
  lower (beforeFirst '.' (fileName path))

end SuiteAudit.Text
