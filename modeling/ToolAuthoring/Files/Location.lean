/-!
# Locations of files

A path is a text; a `Location` is where it leads, step by step from the working folder or, if the
path begins with a slash, from the root. Paths with empty steps or detours lead to the same
location as their plain form.
-/

namespace ToolAuthoring

/-- The steps to a file or folder. A location below the root begins with a slash, one outside the
working folder with two dots. -/
abbrev Location := List String

namespace Location

/-- The folder from which relative paths start. -/
def working : Location := []

/-- The folder from which absolute paths start. -/
def root : Location := ["/"]

/-- The folder around a location. Nothing lies around the root. -/
def leave (here : Location) : Location :=
  match here.getLast? with
  | none | some ".." => here ++ [".."]
  | some "/" => here
  | some _ => here.dropLast

/-- The longest name of a file or folder, in bytes. -/
def nameLimit : Nat := 255

/-- The longest path, in bytes. -/
def pathLimit : Nat := 4095

/-- Follow one step of a path. -/
def enter (here : Location) (step : String) : Location :=
  if step = "" ∨ step = "." then here
  else if step = ".." then here.leave
  else here ++ [step]

/-- The steps of a path, which slashes separate. -/
def steps (path : String) : List String :=
  (path.toList.splitOn '/').map String.ofList

/-- Where the first step of a path is taken. -/
def start (path : String) : Location :=
  if path.toList.head? = some '/' then root else working

/-- Where a path leads. -/
def ofPath (path : String) : Location :=
  (steps path).foldl enter (start path)

/-- The plain path to a location. -/
def path : Location → String
  | "/" :: steps => "/" ++ String.intercalate "/" steps
  | steps => String.intercalate "/" steps

/-- A path and all paths in front of its slashes, the shortest first. -/
def leading (path : String) : List String :=
  let steps := steps path
  (List.range steps.length).map fun n => String.intercalate "/" (steps.take (n + 1))

end Location

/-- The characters of a path up to its last slash, and those behind it. -/
def splitFolder (path : List Char) : List Char × List Char :=
  ((path.reverse.dropWhile (· ≠ '/')).reverse, (path.reverse.takeWhile (· ≠ '/')).reverse)

/-- A file name without its extension, which begins with the last dot. A dot in front of the name
begins no extension. -/
def stem (name : List Char) : List Char :=
  match (name.reverse.dropWhile (· ≠ '.')).tail.reverse with
  | [] => name
  | cs => cs

/-- The path beside another one with `extension` in place of its own. Without its extension, a name
that begins with two dots may be left with these alone; they lead to the folder around, which takes
no extension. -/
def replaceExtension (path extension : String) : String :=
  let (folder, name) := splitFolder path.toList
  match stem name with
  | ['.'] => String.ofList (folder ++ ['.', '.'])
  | stem => String.ofList (folder ++ stem) ++ "." ++ extension

end ToolAuthoring
