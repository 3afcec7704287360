import RoleDaemon.Text.Blank

/-!
# File Paths

A path is a text whose parts are separated by slashes.  Empty parts, and single dots behind the first
part, add nothing to it.

Main definitions:
- `Path.join`: a path continued by a name
- `Path.parts`, `Path.steps`: the parts of a path, and those that a walk along it takes
- `Path.lastName?`, `Path.parent`: the name at the end of a path, and what is before it
-/

namespace RoleDaemon.Path

open Text

/-- The path of `name` inside the directory at `path`. -/
def join (path name : String) : String :=
  if path.isEmpty || path.toList.getLast? = some '/' then path ++ name else path ++ "/" ++ name

/-- The path starts at the root. -/
def isAbsolute (path : String) : Bool :=
  path.toList.head? = some '/'

/-- The path ends with a slash, which asks for a directory. -/
def asksForDirectory (path : String) : Bool :=
  path.toList.getLast? = some '/'

/-- The parts of a path that are not empty, in order. -/
def parts (path : String) : List String :=
  ((pieces '/' path.toList).filter (!·.isEmpty)).map String.ofList

/-- The parts that a walk along the path takes.  A slash at the end asks for a directory, as a single dot
    does. -/
def steps (path : String) : List String :=
  parts path ++ if asksForDirectory path then ["."] else []

/-- The parts without the single dots at their end. -/
def dropDots (ps : List String) : List String :=
  (ps.reverse.dropWhile (· = ".")).reverse

/-- The name at the end of a path; none for the root, for a single dot, and for a path that ends with
    the step to a parent. -/
def lastName? (path : String) : Option String :=
  (dropDots (parts path)).getLast?.filter (· ≠ "..")

/-- A piece that adds nothing to a path behind whose first piece it stands. -/
def isIdle (piece : List Char) : Bool :=
  piece.isEmpty || piece = ['.']

/-- The pieces without the idle ones at their end. -/
def dropIdle (ps : List (List Char)) : List (List Char) :=
  (ps.reverse.dropWhile isIdle).reverse

/-- What is before the name at the end of a path, without the idle pieces between the two; empty where
    nothing is. -/
def parent (path : String) : String :=
  match pieces '/' path.toList with
  | [] => ""
  | first :: behind =>
    if dropIdle behind = [] then ""
    else
      let between := dropIdle (dropIdle behind).dropLast
      if first = [] ∧ between = [] then "/"
      else String.ofList (['/'].intercalate (first :: between))

end RoleDaemon.Path
