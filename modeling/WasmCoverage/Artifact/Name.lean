import WasmCoverage.Path.Basic
import WasmCoverage.Text.Blank
import WasmCoverage.Text.Quoted
import WasmCoverage.Text.Trim

/-!
# Names of artifacts

A module, its object, its samples and its report are kept together by one logical name, the stem
of the module's file.  Two rules act on it.

* `logicalKey` compares names up to dashes and underscores: the build tool is free to write one
  for the other.
* `directoryName?` makes a name fit for a directory of its own.

Main statement: `logicalKey_idem`, a key is its own key.
-/

namespace WasmCoverage.Artifact

open WasmCoverage.Text

/-! ## Keys -/

/-- The key of a name: dashes read as underscores. -/
def logicalKey (name : String) : String :=
  String.ofList (name.toList.map fun c => if c = '-' then '_' else c)

/-- **A key is its own key.** -/
theorem logicalKey_idem (name : String) : logicalKey (logicalKey name) = logicalKey name := by
  simp only [logicalKey, String.toList_ofList, List.map_map]
  congr 1
  apply List.map_congr_left
  intro c _
  by_cases h : c = '-' <;> simp [h]

/-! ## Directory names -/

/-- May the character stand in a directory name? -/
def isKept (c : Char) : Bool :=
  c.isAlphanum || c = '.' || c = '_' || c = '-'

/-- The text with runs of underscores made single. -/
def squeeze : List Char → List Char
  | [] => []
  | [c] => [c]
  | c :: d :: rest => if c = '_' ∧ d = '_' then squeeze (d :: rest) else c :: squeeze (d :: rest)

/-- The text without dots at either end. -/
def trimDots (text : List Char) : List Char :=
  trimWhile (· = '.') text

/-- The words of a name after its separators of paths became underscores, joined by
underscores. -/
def joinWords (name : List Char) : List Char :=
  joinWith '_' (words ((trimChars name).map fun c => if c = '/' ∨ c = '\\' then '_' else c))

/-- The directory name made of a logical name; it may be empty. -/
def cleaned (name : List Char) : List Char :=
  trimDots (squeeze ((joinWords name).map fun c => if isKept c then c else '_'))

/-- A name of which no directory name can be made. -/
structure BadName where
  name : String
  deriving DecidableEq, Repr

/-- The wording of a bad name. -/
def BadName.message (bad : BadName) : String :=
  "Invalid binary name: " ++ quote bad.name

/-- The directory name made of a logical name. -/
def directoryName (name : String) : Except BadName String :=
  match cleaned name.toList with
  | [] => .error ⟨name⟩
  | chars => .ok (String.ofList chars)

end WasmCoverage.Artifact
