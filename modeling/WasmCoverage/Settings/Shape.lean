import WasmCoverage.Json.Display
import WasmCoverage.Number.Numeral
import WasmCoverage.Template.Syntax

/-!
# Shapes of settings

Beside the settings of a run there is a section about the composition itself, and its settings
have shapes: texts, whole numbers, truth values, lists of texts, and records whose fields are
fixed.  A value that still has to be given and a text with references have every shape.

Main statement: `fits_any`, every value has the shape `any`.
-/

namespace WasmCoverage.Composition

open Template

/-- What a setting can be. -/
inductive Shape where
  | any
  | text (optional : Bool)
  | whole (optional : Bool)
  /-- A truth value or nothing. -/
  | flag
  /-- One of the ways to run, by name or number, or nothing. -/
  | mode
  | texts
  /-- Fields with shapes of their own, and perhaps other entries of one shape.  It can be replaced
  by a value without parts if it is `free`. -/
  | record (fields : List (String × Shape)) (others : Option Shape) (free : Bool)
  deriving Repr

/-- Whether a value has a shape. -/
inductive Fit where
  | fits
  | misfits
  /-- It is a number that no whole number is equal to. -/
  | infinite
  deriving DecidableEq, Repr

/-- A fit or not. -/
def Fit.of (b : Bool) : Fit :=
  if b then .fits else .misfits

/-- The words that stand for truth values. -/
def truthWords : List String :=
  ["yes", "y", "on", "true", "1", "no", "n", "off", "false", "0"]

/-- The names of the ways to run. -/
def modeNames : List String :=
  ["RUN", "MULTIRUN", "RunMode.RUN", "RunMode.MULTIRUN"]

/-- Can the value stand where a value of any shape is expected: is it still to be given, or does
it refer to others? -/
def isOpen (value : Json) : Bool :=
  match value with
  | .text s => isMissing (.text s) || mentions s.chars
  | _ => false

/-- Is the value a text, or shown as one? -/
def isTextual : Json → Bool
  | .text _ | .integer _ | .real _ | .bool _ => true
  | _ => false

/-- Does a value without entries have a shape? -/
def fits (shape : Shape) (value : Json) : Fit :=
  if isOpen value then .fits
  else match shape, value with
    | .any, _ => .fits
    | .text optional, .null | .whole optional, .null => .of optional
    | .text _, value => .of (isTextual value)
    | .whole _, .integer _ => .fits
    | .whole _, .real (.finite _ _ _) => .fits
    | .whole _, .real (.infinite _) => .infinite
    | .whole _, .text s => .of (Numeral.readLoose s).toOption.isSome
    | .flag, .null | .flag, .bool _ | .flag, .integer _ => .fits
    | .flag, .text s => .of (truthWords.contains s.lossy.toLower)
    | .mode, .null => .fits
    | .mode, .integer n => .of (n = 1 || n = 2)
    | .mode, .text s => .of (modeNames.contains s.lossy)
    | .texts, .list items => .of (items.all fun item => isOpen item || isTextual item)
    | .record _ _ free, value => .of (free && !(value matches .list _))
    | _, _ => .misfits

/-- **Every value has the shape `any`.** -/
theorem fits_any (value : Json) : fits .any value = .fits := by
  simp [fits]

/-- The shape of an entry, if there can be one under the key. -/
def Shape.entry? (shape : Shape) (key : Key) : Option Shape :=
  match shape with
  | record fields others _ =>
    let named := match key with
      | .text s => (fields.find? fun field => s = (field.1 : LooseText)).map (·.2)
      | _ => none
    let other := match key with
      | .text _ => others
      | _ => none
    named <|> other
  | any => if key = .null then none else some any
  | _ => none

/-- The shape of the items of a list. -/
def Shape.item : Shape → Shape
  | texts => .text false
  | _ => .any

/-- Are the fields fixed?  Then none can be removed. -/
def Shape.isFixed : Shape → Bool
  | record _ none _ => true
  | _ => false

/-! ## The section about the composition -/

/-- Fixed fields. -/
def fixed (fields : List (String × Shape)) : Shape :=
  .record fields none false

/-- Entries of one shape. -/
def table (entry : Shape) : Shape :=
  .record [] (some entry) false

/-- A text that must not be nothing. -/
def name : Shape := .text false

/-- The shape of the section about the composition. -/
def ownShape : Shape := fixed
  [("mode", .mode), ("searchpath", .texts),
   ("run", fixed [("dir", name)]),
   ("sweep", fixed [("dir", name), ("subdir", name)]),
   ("hydra_logging", table .any), ("job_logging", table .any),
   ("sweeper", .record
     [("_target_", name), ("max_batch_size", .whole true),
      ("params", .record [] (some name) true)] none true),
   ("launcher", .record [("_target_", name)] none true),
   ("callbacks", table .any),
   ("help", fixed [("app_name", name), ("header", name), ("footer", name), ("template", name)]),
   ("hydra_help", fixed [("hydra_help", name), ("template", name)]),
   ("output_subdir", .text true),
   ("overrides", fixed [("hydra", .texts), ("task", .texts)]),
   ("job", fixed
     [("name", name), ("chdir", .flag), ("override_dirname", name), ("id", name),
      ("num", .whole false), ("config_name", .text true), ("env_set", table name),
      ("env_copy", .texts),
      ("config", fixed
        [("override_dirname", fixed
          [("kv_sep", name), ("item_sep", name), ("exclude_keys", .texts)])])]),
   ("runtime", fixed
     [("version", name), ("version_base", name), ("cwd", name), ("config_sources", .any),
      ("output_dir", name), ("choices", table .any)]),
   ("verbose", .any)]

/-- The name of the section about the composition. -/
def ownName : String := "hydra"

/-- The shape of everything: sections of any shape beside the one about the composition. -/
def rootShape : Shape :=
  .record [(ownName, ownShape)] (some .any) false

end WasmCoverage.Composition
