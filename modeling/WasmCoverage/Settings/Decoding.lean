import WasmCoverage.Payload.Pairs
import WasmCoverage.Payload.Reading
import WasmCoverage.Settings.Basic
import WasmCoverage.Text.UpperCase

/-!
# Settings out of payloads

Settings are read section by section, and whatever a payload leaves out has its default.  Unlike
in summaries a key that no field has is a flaw, told after those of the fields.  Texts take any
value in its display form, flags any value by whether it counts as true; the level of the log is
read in either case; the marker must not be empty.
-/

namespace WasmCoverage

open WasmCoverage.Payload WasmCoverage.Text

namespace Payload

/-- The keys of a record that no field has, in order. -/
def unknownKeys (names : List String) (entries : List (Key × Json)) : List String :=
  let isUnknown (key : Key) : Bool := names.all fun name => key ≠ (name : Key)
  (((entries.map (·.1)).filter isUnknown).map Json.keyText).mergeSort Tool.textBefore

/-- Are there no keys but those of the fields? -/
def noUnknownKeys (names : List String) (entries : List (Key × Json)) : Reading Unit :=
  match unknownKeys names entries with
  | [] => .ok ()
  | keys => .flaw (.extraKeys keys)

/-- A section: a record without unknown keys. -/
def readSection {α : Type} (names : List String) (read : Source → Reading α) (value : Json) :
    Reading α :=
  match value with
  | .record entries =>
    Reading.seq (Reading.map (fun section_ _ => section_) (read (.record entries)))
      (noUnknownKeys names entries)
  | .text _ | .list _ => .flaw .noKeys
  | _ => .flaw .wrongType

/-- A value turned into another, unless a rule is broken. -/
def Reading.refine {α β : Type} (f : α → Except Flaw β) : Reading α → Reading β
  | .ok value =>
    match f value with
    | .ok result => .ok result
    | .error broken => .flaw broken
  | .flawed leaves => .flawed leaves

/-- A flag: does the value count as true? -/
def readFlag (value : Json) : Reading Bool :=
  .ok value.isTruthy

end Payload

namespace ToolchainSettings

/-- The fields of the section. -/
def names : List String :=
  ["llvm_version", "clang", "llvm_profdata", "llvm_cov", "check_wasm_target", "wasm_target"]

/-- The choice of tools. -/
def read : Json → Reading ToolchainSettings :=
  readSection names fun source =>
    ToolchainSettings.mk <$> source.optional "llvm_version" none readString?
      <*> source.optional "clang" none readString?
      <*> source.optional "llvm_profdata" none readString?
      <*> source.optional "llvm_cov" none readString?
      <*> source.optional "check_wasm_target" true readFlag
      <*> source.optional "wasm_target" ({} : ToolchainSettings).wasmTarget readString

end ToolchainSettings

namespace BuildSettings

/-- The fields of the section. -/
def names : List String := ["marker", "target_triple", "rustflags"]

/-- The message about an empty marker. -/
def emptyMarkerMessage : String := "build.marker must be a non-empty string"

/-- The rule of the section: there is a marker. -/
def rules (settings : BuildSettings) : List (Option Flaw) :=
  [if settings.marker = "" then some (.rule emptyMarkerMessage) else none]

/-- The settings of the build. -/
def read (value : Json) : Reading BuildSettings :=
  Reading.check rules <| value |> readSection names fun source =>
    BuildSettings.mk <$> source.optional "marker" defaultMarker readString
      <*> source.optional "target_triple" Tool.defaultTriple readString
      <*> source.optional "rustflags" defaultFlags (readList readString)

end BuildSettings

namespace LoggingSettings

/-- The fields of the section. -/
def names : List String := ["level", "file"]

/-- The message about a level that there is not. -/
def badLevelMessage (level : String) : String :=
  "'level' must be in (" ++
    joinText ", " (LogLevel.all.map fun level => quote level.name) ++
    ") (got " ++ quote level ++ ")"

/-- The settings with a level and a file, if there is such a level. -/
def ofFields (fields : String × Option String) : Except Flaw LoggingSettings :=
  match LogLevel.ofName? fields.1 with
  | some level => .ok ⟨level, fields.2⟩
  | none => .error (.rule (badLevelMessage fields.1))

/-- The name of a level in any case. -/
def readLevel (value : Json) : Reading String :=
  .ok (upper value.string)

/-- The settings of the log. -/
def read (value : Json) : Reading LoggingSettings :=
  Reading.refine ofFields <| value |> readSection names fun source =>
    Prod.mk <$> source.optional "level" ({} : LoggingSettings).level.name readLevel
      <*> source.optional "file" ({} : LoggingSettings).file readString?

end LoggingSettings

namespace Settings

/-- The names of the sections. -/
def sections : List String := ["workspace", "toolchain", "build", "merge", "report", "logging"]

/-- The settings of the workspace. -/
def readWorkspace : Json → Reading (Option String) :=
  readSection ["root"] fun source => source.optional "root" none readString?

/-- A section of arguments that are added to command lines. -/
def readArguments : Json → Reading (List String) :=
  readSection ["extra_args"] fun source => source.optional "extra_args" [] (readList readString)

/-- Settings. -/
def read : Json → Reading Settings :=
  readSection sections fun source =>
    Settings.mk <$> source.optional "workspace" none readWorkspace
      <*> source.optional "toolchain" {} ToolchainSettings.read
      <*> source.optional "build" {} BuildSettings.read
      <*> source.optional "merge" [] readArguments
      <*> source.optional "report" [] readArguments
      <*> source.optional "logging" {} LoggingSettings.read

/-! ## Mappings -/

/-- Why a mapping holds no settings. -/
inductive MappingFault where
  /-- It is not written as one. -/
  | pairs (fault : PairsFault)
  | flawed (leaves : List Leaf)

/-- The settings in a mapping. -/
def ofMapping (mapping : Json) : Except MappingFault Settings :=
  match ofPairs mapping with
  | .error fault => .error (.pairs fault)
  | .ok payload =>
    match read payload with
    | .ok settings => .ok settings
    | .flawed leaves => .error (.flawed leaves)

/-- **The settings in a mapping are read like any**, so that they are what settings that are read
are. -/
theorem exists_read_of_ofMapping {mapping : Json} {settings : Settings}
    (h : ofMapping mapping = .ok settings) : ∃ payload, read payload = .ok settings := by
  simp only [ofMapping] at h
  split at h
  · cases h
  · next payload _ =>
    split at h
    · next found => exact ⟨payload, Except.ok.inj h ▸ found⟩
    · cases h

end Settings

end WasmCoverage
