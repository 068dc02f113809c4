import Billing.Text.Lines

/-!
# File paths

Paths as they are shown: without doubled slashes and without parts that stay in place
(`normalizePath`).
-/

namespace Billing.Text

/-- The slashes at the root of a path: two are kept, any other number counts as one. -/
def pathRoot (s : List Char) : List Char :=
  match (s.takeWhile (· == '/')).length with
  | 0 => []
  | 2 => ['/', '/']
  | _ => ['/']

/-- The parts of a path that lead on. -/
def pathParts (s : List Char) : List (List Char) :=
  (splitOn '/' s).filter fun part => part ≠ [] ∧ part ≠ ['.']

/-- A path without doubled slashes and parts that stay in place. -/
def normalizePath (s : String) : String :=
  let path := pathRoot s.toList ++ joinWith '/' (pathParts s.toList)
  if path = [] then "." else String.ofList path

/-- A path below another one. A path that starts at the root stays as it is. -/
def joinPath (base path : String) : String :=
  if path.toList.head? = some '/' then normalizePath path
  else normalizePath (base ++ "/" ++ path)

end Billing.Text
