import WasmCoverage.Settings.Basic
import WasmCoverage.Settings.Tree
import WasmCoverage.Text.Split

/-!
# Groups of settings

Some sections of settings come out of groups: of each one a choice is made, and what was chosen is
merged into the tree.  All groups but the first two belong to the section about the composition.

Main statements: `groups_distinct`, no two groups share a name, and `choice?_usual`, what a group
usually chooses is there.
-/

namespace WasmCoverage.Composition

open WasmCoverage.Text WasmCoverage.Template

/-- A group of settings. -/
structure Group where
  /-- The names on the way to it, with slashes between them. -/
  name : String
  /-- The choice that is made unless another is. -/
  usual : String
  choices : List (String × Json)
  /-- Where the choice goes, if not to the place that the group is named after. -/
  home : Option String := none

/-- The way that a group is named after. -/
def Group.place (group : Group) : String :=
  joinText "." (splitText '/' group.name)

/-- The ending that the name of a choice may have. -/
def choiceEnding : List Char := ".yaml".toList

/-- A name without the ending that it may have. -/
def withoutEnding (name : String) : String :=
  let chars := name.toList
  if choiceEnding.isSuffixOf chars then String.ofList (chars.take (chars.length - 5)) else name

/-- The content of a choice. -/
def Group.choice? (group : Group) (name : String) : Option Json :=
  Table.get? (withoutEnding name) group.choices

/-! ## Contents -/

/-- A text that is a reference. -/
def reference (way : String) : String :=
  "$\x7b" ++ way ++ "\x7d"

/-- How a log is written: entries are formatted and go to the console, and the most detailed
level is given.  `more` are other places that entries go to. -/
def logging (format level : String) (more others : List (Key × Json)) : Json :=
  let names : List String := "console" :: more.map fun entry => Json.keyText entry.1
  let console : Json := .record
    [("class", .text "logging.StreamHandler"), ("formatter", .text "simple"),
     ("stream", .text "ext://sys.stdout")]
  let before : List (Key × Json) :=
    [("version", .integer 1),
     ("formatters", .record [("simple", .record [("format", .text format)])]),
     ("handlers", .record (("console", console) :: more)),
     ("root", .record [("level", .text level), ("handlers", .ofTexts names)])]
  let last : Key × Json := ("disable_existing_loggers", .bool false)
  .record (before ++ others ++ [last])

/-- A log with the entry about its root given. -/
def quiet (root : Json) (silent : Bool) : Json :=
  .record [("version", .integer 1), ("root", root), ("disable_existing_loggers", .bool silent)]

/-- A log that is switched off. -/
def switchedOff : Json := quiet (.record [("level", .text "ERROR")]) true

/-- A log that is left as it is. -/
def leftAlone : Json := quiet .null false

/-- How the entries of a job are written. -/
def jobFormat : String := "[%(asctime)s][%(name)s][%(levelname)s] - %(message)s"

/-- How the entries about the composition are written. -/
def ownFormat : String := "[%(asctime)s][HYDRA] %(message)s"

/-- The file of the log of a job. -/
def jobFile : List (Key × Json) :=
  [("file", .record
    [("class", .text "logging.FileHandler"), ("formatter", .text "simple"),
     ("filename", .text (reference "hydra.runtime.output_dir" ++ "/" ++
       reference "hydra.job.name" ++ ".log"))])]

/-- A logger with a level of its own. -/
def exampleLogger : List (Key × Json) :=
  [("loggers", .record [("logging_example", .record [("level", .text "DEBUG")])])]

/-- The help about the program. -/
def helpTexts : Json := .record
  [("app_name", .text (reference "hydra.job.name")),
   ("header", .text (reference "hydra.help.app_name")),
   ("footer", .text ""),
   ("template", .text (reference "hydra.help.header" ++ reference "hydra.help.footer"))]

/-- The help about overrides. -/
def ownHelpTexts : Json := .record
  [("template", .text (reference "hydra.runtime.version")), ("hydra_help", .text missingMark)]

/-- The directories of single and repeated runs. -/
def directories : Json :=
  let dated (name : String) : String := name ++ "/" ++ reference "now:%Y-%m-%d" ++ "/" ++
    reference "now:%H-%M-%S"
  .record
    [("run", .record [("dir", .text (dated "outputs"))]),
     ("sweep", .record
       [("dir", .text (dated "multirun")), ("subdir", .text (reference "hydra.job.num"))])]

/-- How a single job is started. -/
def launcher : Json := .record
  [("_target_", .text "hydra._internal.core_plugins.basic_launcher.BasicLauncher")]

/-- How repeated jobs are started. -/
def sweeper : Json := .record
  [("_target_", .text "hydra._internal.core_plugins.basic_sweeper.BasicSweeper"),
   ("max_batch_size", .null), ("params", .null)]

/-! ## The groups -/

/-- The groups of the section about the composition, in the order in which they are merged. -/
def ownGroups : List Group :=
  let log (name : String) (choices : List (String × Json)) : Group :=
    ⟨name, "default", choices, none⟩
  [⟨"hydra/output", "default", [("default", directories)], some ownName⟩,
   ⟨"hydra/launcher", "basic", [("basic", launcher)], none⟩,
   ⟨"hydra/sweeper", "basic", [("basic", sweeper)], none⟩,
   ⟨"hydra/help", "default", [("default", helpTexts)], none⟩,
   ⟨"hydra/hydra_help", "default", [("default", ownHelpTexts)], none⟩,
   log "hydra/hydra_logging"
     [("default", logging ownFormat "INFO" [] exampleLogger), ("disabled", switchedOff),
      ("hydra_debug", logging jobFormat "DEBUG" [] []), ("none", leftAlone)],
   log "hydra/job_logging"
     [("default", logging jobFormat "INFO" jobFile []), ("disabled", switchedOff),
      ("none", leftAlone), ("stdout", logging jobFormat "INFO" [] [])],
   ⟨"hydra/env", "default", [("default", .record [])], some ""⟩]

/-- What the groups of the section about the composition usually choose, by their last names. -/
def usualSection : Json :=
  .record (ownGroups.filterMap fun group =>
    (group.choice? group.usual).map fun content =>
      ((((splitText '/' group.name).getLastD "" : String) : Key), content))

/-- All settings, and all of the section about the composition, are groups with one choice, which
is made already. -/
def wholeGroups : List Group :=
  [⟨"", "config", [("config", ({} : Settings).toJson)], none⟩,
   ⟨ownName, "config", [("config", usualSection)], none⟩]

/-- All groups. -/
def groups : List Group := wholeGroups ++ ownGroups

/-- The group of a name. -/
def group? (name : String) : Option Group :=
  groups.find? fun group => group.name = name

/-- **No two groups share a name.** -/
theorem groups_distinct : (groups.map (·.name)).Nodup := by decide

/-- **What a group usually chooses is there.** -/
theorem choice?_usual : ∀ group ∈ groups, (group.choice? group.usual).isSome = true := by
  decide +kernel

/-! ## The tree before anything is chosen -/

/-- A setting that must be given. -/
def ungiven : Tree := .leaf (.text missingMark)

/-- A record of settings that must be given. -/
def ungivenRecord : Tree := .hollow true (.text missingMark)

/-- The section about the composition before anything is chosen. -/
def ownSection : Tree :=
  let texts : Tree := .list []
  .record
    [("mode", .leaf .null), ("searchpath", texts),
     ("run", .record [("dir", ungiven)]),
     ("sweep", .record [("dir", ungiven), ("subdir", ungiven)]),
     ("hydra_logging", ungivenRecord), ("job_logging", ungivenRecord),
     ("sweeper", ungiven), ("launcher", ungiven), ("callbacks", .record []),
     ("help", .record
       [("app_name", ungiven), ("header", ungiven), ("footer", ungiven), ("template", ungiven)]),
     ("hydra_help", .record [("template", ungiven), ("hydra_help", ungiven)]),
     ("output_subdir", .leaf (.text ".hydra")),
     ("overrides", .record [("hydra", texts), ("task", texts)]),
     ("job", .record
       [("name", ungiven), ("chdir", .leaf .null), ("override_dirname", ungiven), ("id", ungiven),
        ("num", ungiven), ("config_name", ungiven), ("env_set", .record []), ("env_copy", texts),
        ("config", .record
          [("override_dirname", .record
            [("kv_sep", .leaf (.text "=")), ("item_sep", .leaf (.text ",")),
             ("exclude_keys", texts)])])]),
     ("runtime", .record
       [("version", ungiven), ("version_base", ungiven), ("cwd", ungiven),
        ("config_sources", .hollow false (.text missingMark)), ("output_dir", ungiven),
        ("choices", .record [])]),
     ("verbose", .leaf (.bool false))]

/-! ## Defaults -/

/-- What settings are composed from. -/
inductive Defaults where
  /-- All settings. -/
  | settings
  /-- The section about the composition, which is there anyway. -/
  | own
  /-- A choice of a group of that section; it brings no settings with it. -/
  | choice
  deriving DecidableEq, Repr

/-- The defaults of a name, which may begin with a slash. -/
def Defaults.named? (name : String) : Option Defaults :=
  let way := withoutEnding (match name.toList with
    | '/' :: rest => String.ofList rest
    | _ => name)
  if way = "config" then some settings
  else if way = ownName ++ "/config" then some own
  else if ownGroups.any fun group => group.choices.any fun (name, _) =>
      group.name ++ "/" ++ name = way then some choice
  else none

/-- The entries that contents are merged into. -/
def Defaults.entries (defaults : Defaults) : List (Key × Tree) :=
  let sections := match defaults, Tree.ofJson ({} : Settings).toJson with
    | settings, .record sections => sections
    | _, _ => []
  (ownName, ownSection) :: sections

end WasmCoverage.Composition
