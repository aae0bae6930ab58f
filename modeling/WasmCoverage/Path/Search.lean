import WasmCoverage.Text.Split

/-!
# Search paths

A program may be called by its bare name.  It is then looked for in the directories of a search
path, in order; a name with a slash stands for itself.
-/

namespace WasmCoverage.SearchPath

open WasmCoverage.Text

/-- The variable with the search path. -/
def variableName : String := "PATH"

/-- The directories that a search path lists. -/
def directories (searchPath : String) : List String :=
  splitText ':' searchPath

/-- The place of a name in a directory. -/
def place (directory name : String) : String :=
  if directory = "" || directory.toList.getLast? = some '/' then directory ++ name
  else directory ++ "/" ++ name

/-- Is the name a path of its own? -/
def isPath (name : String) : Bool :=
  name.toList.contains '/'

/-- The places where a program may stand. -/
def places (directories : List String) (name : String) : List String :=
  if isPath name then [name] else directories.map fun directory => place directory name

end WasmCoverage.SearchPath
