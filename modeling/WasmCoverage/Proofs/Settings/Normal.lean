import WasmCoverage.Proofs.Payload.Sections

/-!
# Settings that were read are normal

Reading settings is a normalization: **`read_normalizes`** says what holds of the settings that
were read (`Normal`), and which payloads are never read (`Unfit`).

A payload settles each setting on its own (`FieldByField`).  A setting is what the value under its
own key is read as, or its default if there is no such value, whatever else is in the payload.  So
reading the settings that are written out (`read_toJson`) gives them back, if there is a marker.
-/

namespace WasmCoverage

open WasmCoverage.Json WasmCoverage.Payload WasmCoverage.Text

/-! ## Sections taken apart -/

lemma ToolchainSettings.read_eq_ok_iff {value : Json} {settings : ToolchainSettings} :
    read value = .ok settings ↔ ∃ entries, value = .record entries ∧ KeysIn names entries ∧
      Given readString? none (Entries.get? "llvm_version" entries) settings.llvmVersion ∧
      Given readString? none (Entries.get? "clang" entries) settings.clang ∧
      Given readString? none (Entries.get? "llvm_profdata" entries) settings.llvmProfdata ∧
      Given readString? none (Entries.get? "llvm_cov" entries) settings.llvmCov ∧
      Given readFlag true (Entries.get? "check_wasm_target" entries) settings.checkWasmTarget ∧
      Given Payload.readString ({} : ToolchainSettings).wasmTarget
        (Entries.get? "wasm_target" entries) settings.wasmTarget := by
  simp only [read, readSection_eq_ok_iff, ap_eq_ok_iff, map_eq_ok_iff, optional_eq_ok_iff]
  refine exists_congr fun entries => and_congr_right fun _ => and_congr_right fun _ => ?_
  constructor
  · rintro ⟨_, _, ⟨_, _, ⟨_, _, ⟨_, _, ⟨_, _, ⟨_, h₁, rfl⟩, h₂, rfl⟩, h₃, rfl⟩, h₄, rfl⟩, h₅, rfl⟩,
      h₆, rfl⟩
    exact ⟨h₁, h₂, h₃, h₄, h₅, h₆⟩
  · rintro ⟨h₁, h₂, h₃, h₄, h₅, h₆⟩
    exact ⟨_, _, ⟨_, _, ⟨_, _, ⟨_, _, ⟨_, _, ⟨_, h₁, rfl⟩, h₂, rfl⟩, h₃, rfl⟩, h₄, rfl⟩, h₅, rfl⟩,
      h₆, rfl⟩

lemma BuildSettings.read_eq_ok_iff {value : Json} {settings : BuildSettings} :
    read value = .ok settings ↔ ∃ entries, value = .record entries ∧ KeysIn names entries ∧
      Given Payload.readString defaultMarker (Entries.get? "marker" entries) settings.marker ∧
      Given Payload.readString Tool.defaultTriple (Entries.get? "target_triple" entries)
        settings.targetTriple ∧
      Given (readList Payload.readString) defaultFlags (Entries.get? "rustflags" entries)
        settings.flags ∧
      settings.marker ≠ "" := by
  have hrules : (∀ rule ∈ settings.rules, rule = none) ↔ settings.marker ≠ "" := by simp [rules]
  simp only [read, check_eq_ok_iff, hrules, readSection_eq_ok_iff, ap_eq_ok_iff, map_eq_ok_iff,
    optional_eq_ok_iff]
  constructor
  · rintro ⟨⟨entries, hvalue, hknown, _, _, ⟨_, _, ⟨_, h₁, rfl⟩, h₂, rfl⟩, h₃, rfl⟩, hmarker⟩
    exact ⟨entries, hvalue, hknown, h₁, h₂, h₃, hmarker⟩
  · rintro ⟨entries, hvalue, hknown, h₁, h₂, h₃, hmarker⟩
    exact ⟨⟨entries, hvalue, hknown, _, _, ⟨_, _, ⟨_, h₁, rfl⟩, h₂, rfl⟩, h₃, rfl⟩, hmarker⟩

lemma BuildSettings.read_nil : read (.record []) = .ok {} :=
  check_eq_ok_iff.2 ⟨readSection_nil rfl, by decide⟩

lemma LogLevel.ofName?_eq_some_iff {text : String} {level : LogLevel} :
    ofName? text = some level ↔ text = level.name := by
  refine ⟨fun h => ?_, fun h => h ▸ ofName?_name level⟩
  have hname := List.find?_some h
  exact (of_decide_eq_true hname).symm

lemma LoggingSettings.ofFields_eq_ok_iff {level : String} {file : Option String}
    {settings : LoggingSettings} :
    ofFields (level, file) = .ok settings ↔ level = settings.level.name ∧ file = settings.file := by
  obtain ⟨found, foundFile⟩ := settings
  rw [← LogLevel.ofName?_eq_some_iff]
  cases h : LogLevel.ofName? level <;> simp [ofFields, h]

lemma LoggingSettings.read_eq_ok_iff {value : Json} {settings : LoggingSettings} :
    read value = .ok settings ↔ ∃ entries, value = .record entries ∧ KeysIn names entries ∧
      Given readLevel ({} : LoggingSettings).level.name (Entries.get? "level" entries)
        settings.level.name ∧
      Given readString? ({} : LoggingSettings).file (Entries.get? "file" entries)
        settings.file := by
  simp only [read, refine_eq_ok_iff, readSection_eq_ok_iff, ap_eq_ok_iff, map_eq_ok_iff,
    optional_eq_ok_iff]
  constructor
  · rintro ⟨_, ⟨entries, hvalue, hknown, _, _, ⟨level, h₁, rfl⟩, h₂, rfl⟩, hfields⟩
    obtain ⟨rfl, rfl⟩ := ofFields_eq_ok_iff.1 hfields
    exact ⟨entries, hvalue, hknown, h₁, h₂⟩
  · rintro ⟨entries, hvalue, hknown, h₁, h₂⟩
    exact ⟨_, ⟨entries, hvalue, hknown, _, _, ⟨_, h₁, rfl⟩, h₂, rfl⟩,
      ofFields_eq_ok_iff.2 ⟨rfl, rfl⟩⟩

lemma LoggingSettings.read_nil : read (.record []) = .ok {} :=
  refine_eq_ok_iff.2 ⟨_, readSection_nil rfl, rfl⟩

namespace Settings

lemma readWorkspace_eq_ok_iff {value : Json} {root : Option String} :
    readWorkspace value = .ok root ↔ ∃ entries, value = .record entries ∧
      KeysIn ["root"] entries ∧ Given readString? none (Entries.get? "root" entries) root := by
  simp only [readWorkspace, readSection_eq_ok_iff, optional_eq_ok_iff]

lemma readArguments_eq_ok_iff {value : Json} {arguments : List String} :
    readArguments value = .ok arguments ↔ ∃ entries, value = .record entries ∧
      KeysIn ["extra_args"] entries ∧
      Given (readList Payload.readString) [] (Entries.get? "extra_args" entries) arguments := by
  simp only [readArguments, readSection_eq_ok_iff, optional_eq_ok_iff]

/-- **Settings are read section by section.** -/
theorem read_eq_ok_iff {payload : Json} {settings : Settings} :
    read payload = .ok settings ↔ ∃ entries, payload = .record entries ∧
      KeysIn sections entries ∧
      Given readWorkspace none (Entries.get? "workspace" entries) settings.workspaceRoot ∧
      Given ToolchainSettings.read {} (Entries.get? "toolchain" entries) settings.toolchain ∧
      Given BuildSettings.read {} (Entries.get? "build" entries) settings.build ∧
      Given readArguments [] (Entries.get? "merge" entries) settings.mergeArguments ∧
      Given readArguments [] (Entries.get? "report" entries) settings.reportArguments ∧
      Given LoggingSettings.read {} (Entries.get? "logging" entries) settings.logging := by
  simp only [read, readSection_eq_ok_iff, ap_eq_ok_iff, map_eq_ok_iff, optional_eq_ok_iff]
  refine exists_congr fun entries => and_congr_right fun _ => and_congr_right fun _ => ?_
  constructor
  · rintro ⟨_, _, ⟨_, _, ⟨_, _, ⟨_, _, ⟨_, _, ⟨_, h₁, rfl⟩, h₂, rfl⟩, h₃, rfl⟩, h₄, rfl⟩, h₅, rfl⟩,
      h₆, rfl⟩
    exact ⟨h₁, h₂, h₃, h₄, h₅, h₆⟩
  · rintro ⟨h₁, h₂, h₃, h₄, h₅, h₆⟩
    exact ⟨_, _, ⟨_, _, ⟨_, _, ⟨_, _, ⟨_, _, ⟨_, h₁, rfl⟩, h₂, rfl⟩, h₃, rfl⟩, h₄, rfl⟩, h₅, rfl⟩,
      h₆, rfl⟩

/-! ## Settings field by field -/

/-- A payload settles each setting on its own, by what is found under its own key. -/
structure FieldByField (payload : Json) (settings : Settings) : Prop where
  root : Given readString? none (payload.field? "workspace" "root") settings.workspaceRoot
  llvmVersion : Given readString? none (payload.field? "toolchain" "llvm_version")
    settings.toolchain.llvmVersion
  clang : Given readString? none (payload.field? "toolchain" "clang") settings.toolchain.clang
  llvmProfdata : Given readString? none (payload.field? "toolchain" "llvm_profdata")
    settings.toolchain.llvmProfdata
  llvmCov : Given readString? none (payload.field? "toolchain" "llvm_cov")
    settings.toolchain.llvmCov
  checkWasmTarget : Given readFlag true (payload.field? "toolchain" "check_wasm_target")
    settings.toolchain.checkWasmTarget
  wasmTarget : Given Payload.readString ({} : ToolchainSettings).wasmTarget
    (payload.field? "toolchain" "wasm_target") settings.toolchain.wasmTarget
  marker : Given Payload.readString defaultMarker (payload.field? "build" "marker")
    settings.build.marker
  targetTriple : Given Payload.readString Tool.defaultTriple
    (payload.field? "build" "target_triple") settings.build.targetTriple
  flags : Given (readList Payload.readString) defaultFlags (payload.field? "build" "rustflags")
    settings.build.flags
  mergeArguments : Given (readList Payload.readString) [] (payload.field? "merge" "extra_args")
    settings.mergeArguments
  reportArguments : Given (readList Payload.readString) [] (payload.field? "report" "extra_args")
    settings.reportArguments
  level : Given LoggingSettings.readLevel ({} : LoggingSettings).level.name
    (payload.field? "logging" "level") settings.logging.level.name
  file : Given readString? ({} : LoggingSettings).file (payload.field? "logging" "file")
    settings.logging.file
  someMarker : settings.build.marker ≠ ""

variable {payload : Json} {settings : Settings}

/-- **Settings are read field by field.** -/
theorem fieldByField_of_read (h : read payload = .ok settings) : FieldByField payload settings := by
  obtain ⟨entries, rfl, -, hworkspace, htoolchain, hbuild, hmerge, hreport, hlogging⟩ :=
    read_eq_ok_iff.1 h
  obtain ⟨_, hread, hworkspace⟩ := hworkspace.exists_part (readSection_nil rfl)
  obtain ⟨_, rfl, -, hroot⟩ := readWorkspace_eq_ok_iff.1 hread
  obtain ⟨_, hread, htoolchain⟩ := htoolchain.exists_part (readSection_nil rfl)
  obtain ⟨_, rfl, -, hversion, hclang, hprofdata, hcov, hcheck, htarget⟩ :=
    ToolchainSettings.read_eq_ok_iff.1 hread
  obtain ⟨_, hread, hbuild⟩ := hbuild.exists_part BuildSettings.read_nil
  obtain ⟨_, rfl, -, hmarker, htriple, hflags, hsome⟩ := BuildSettings.read_eq_ok_iff.1 hread
  obtain ⟨_, hread, hmerge⟩ := hmerge.exists_part (readSection_nil rfl)
  obtain ⟨_, rfl, -, hmergeArguments⟩ := readArguments_eq_ok_iff.1 hread
  obtain ⟨_, hread, hreport⟩ := hreport.exists_part (readSection_nil rfl)
  obtain ⟨_, rfl, -, hreportArguments⟩ := readArguments_eq_ok_iff.1 hread
  obtain ⟨_, hread, hlogging⟩ := hlogging.exists_part LoggingSettings.read_nil
  obtain ⟨_, rfl, -, hlevel, hfile⟩ := LoggingSettings.read_eq_ok_iff.1 hread
  exact
    { root := hworkspace "root" ▸ hroot
      llvmVersion := htoolchain "llvm_version" ▸ hversion
      clang := htoolchain "clang" ▸ hclang
      llvmProfdata := htoolchain "llvm_profdata" ▸ hprofdata
      llvmCov := htoolchain "llvm_cov" ▸ hcov
      checkWasmTarget := htoolchain "check_wasm_target" ▸ hcheck
      wasmTarget := htoolchain "wasm_target" ▸ htarget
      marker := hbuild "marker" ▸ hmarker
      targetTriple := hbuild "target_triple" ▸ htriple
      flags := hbuild "rustflags" ▸ hflags
      mergeArguments := hmerge "extra_args" ▸ hmergeArguments
      reportArguments := hreport "extra_args" ▸ hreportArguments
      level := hlogging "level" ▸ hlevel
      file := hlogging "file" ▸ hfile
      someMarker := hsome }

/-! ## Known keys -/

/-- The settings of a run that is told nothing. -/
def usual : Json :=
  ({} : Settings).toJson

/-- A payload has no keys but those of the usual settings, neither itself nor in a section. -/
structure KnownKeys (payload : Json) : Prop where
  sections : ∀ key ∈ payload.keys, key ∈ usual.keys
  fields : ∀ {section_ part}, payload.get? section_ = some part →
    ∃ known, usual.get? section_ = some known ∧ ∀ key ∈ part.keys, key ∈ known.keys

/-- **Only known keys are read.** -/
theorem knownKeys_of_read (h : read payload = .ok settings) : KnownKeys payload := by
  obtain ⟨entries, rfl, hknown, hworkspace, htoolchain, hbuild, hmerge, hreport, hlogging⟩ :=
    read_eq_ok_iff.1 h
  refine ⟨hknown, fun {section_ part} hget => ?_⟩
  have hget : Entries.get? section_ entries = some part := hget
  have hsection := hknown.mem hget
  simp only [sections, List.mem_cons, List.not_mem_nil, or_false] at hsection
  obtain rfl | rfl | rfl | rfl | rfl | rfl := hsection
  · obtain ⟨_, rfl, hkeys, -⟩ := readWorkspace_eq_ok_iff.1 (given_some hget hworkspace)
    exact ⟨_, rfl, hkeys⟩
  · obtain ⟨_, rfl, hkeys, -⟩ := ToolchainSettings.read_eq_ok_iff.1 (given_some hget htoolchain)
    exact ⟨_, rfl, hkeys⟩
  · obtain ⟨_, rfl, hkeys, -⟩ := BuildSettings.read_eq_ok_iff.1 (given_some hget hbuild)
    exact ⟨_, rfl, hkeys⟩
  · obtain ⟨_, rfl, hkeys, -⟩ := readArguments_eq_ok_iff.1 (given_some hget hmerge)
    exact ⟨_, rfl, hkeys⟩
  · obtain ⟨_, rfl, hkeys, -⟩ := readArguments_eq_ok_iff.1 (given_some hget hreport)
    exact ⟨_, rfl, hkeys⟩
  · obtain ⟨_, rfl, hkeys, -⟩ := LoggingSettings.read_eq_ok_iff.1 (given_some hget hlogging)
    exact ⟨_, rfl, hkeys⟩

/-! ## Defaults -/

lemma field?_of_notMem {section_ : String} (h : section_ ∉ sections) (settings : Settings)
    (key : String) : settings.toJson.field? section_ key = none := by
  have hget : settings.toJson.get? section_ = none :=
    Table.get?_eq_none_iff.2 fun hmem => h (mem_names_iff.1 hmem)
  rw [field?, hget, Option.bind_none]

/-- **What is left out has its default**, whatever else is given. -/
theorem FieldByField.usual_of_absent (h : FieldByField payload settings) {section_ key : String}
    (habsent : payload.field? section_ key = none) :
    settings.toJson.field? section_ key = usual.field? section_ key := by
  by_cases hsection : section_ ∈ sections
  · simp only [sections, List.mem_cons, List.not_mem_nil, or_false] at hsection
    obtain rfl | rfl | rfl | rfl | rfl | rfl := hsection
    · exact get?_cons_of_given ofString? h.root habsent rfl
    · exact get?_cons_of_given ofString? h.llvmVersion habsent <|
        get?_cons_of_given ofString? h.clang habsent <|
        get?_cons_of_given ofString? h.llvmProfdata habsent <|
        get?_cons_of_given ofString? h.llvmCov habsent <|
        get?_cons_of_given Json.bool h.checkWasmTarget habsent <|
        get?_cons_of_given (fun s : String => .text s) h.wasmTarget habsent rfl
    · exact get?_cons_of_given (fun s : String => .text s) h.marker habsent <|
        get?_cons_of_given (fun s : String => .text s) h.targetTriple habsent <|
        get?_cons_of_given ofTexts h.flags habsent rfl
    · exact get?_cons_of_given ofTexts h.mergeArguments habsent rfl
    · exact get?_cons_of_given ofTexts h.reportArguments habsent rfl
    · exact get?_cons_of_given (fun s : String => .text s) h.level habsent <|
        get?_cons_of_given ofString? h.file habsent rfl
  · rw [field?_of_notMem hsection, usual, field?_of_notMem hsection]

/-! ## Markers, levels and lists -/

/-- **The marker is the one that is given.** -/
theorem FieldByField.marker_eq (h : FieldByField payload settings) {value : Json}
    (hgiven : payload.field? "build" "marker" = some value) :
    settings.build.marker = value.string := by
  have hread := given_some hgiven h.marker
  exact (Reading.ok.inj hread).symm

/-- **The level is the one that is given**, in upper case. -/
theorem FieldByField.level_eq (h : FieldByField payload settings) {value : Json}
    (hgiven : payload.field? "logging" "level" = some value) :
    settings.logging.level.name = upper value.string := by
  have hread := given_some hgiven h.level
  exact (Reading.ok.inj hread).symm

lemma name_mem_levels (level : LogLevel) :
    level.name ∈ ["DEBUG", "INFO", "WARNING", "ERROR", "CRITICAL"] := by
  cases level <;> decide

/-- If it is a list, the value holds texts only. -/
def HoldsTexts (value : Json) : Prop :=
  ∀ items, value = .list items → ∀ item ∈ items, ∃ s : String, item = .text s

lemma holdsTexts_ofString? (s : Option String) : HoldsTexts (.ofString? s) := by
  cases s <;> intro items h <;> cases h

lemma holdsTexts_text (s : String) : HoldsTexts (.text s) :=
  fun _ h => (nomatch h)

lemma holdsTexts_bool (b : Bool) : HoldsTexts (.bool b) :=
  fun _ h => (nomatch h)

lemma holdsTexts_ofTexts (texts : List String) : HoldsTexts (.ofTexts texts) := by
  intro items h item hitem
  obtain rfl := Json.list.inj h
  obtain ⟨s, -, rfl⟩ := List.mem_map.1 hitem
  exact ⟨s, rfl⟩

lemma forall_get? {P : Json → Prop} {entries : List (Key × Json)}
    (h : ∀ entry ∈ entries, P entry.2) (key : String) (value : Json)
    (hget : (Json.record entries).get? key = some value) : P value := by
  obtain ⟨entry, hentry, rfl⟩ := Table.exists_mem_of_get? hget
  exact h entry hentry

/-- **Every list of the settings holds texts.** -/
theorem holdsTexts_field? (settings : Settings) {section_ key : String} {value : Json}
    (hgiven : settings.toJson.field? section_ key = some value) : HoldsTexts value := by
  obtain ⟨part, hpart, hvalue⟩ := Option.bind_eq_some_iff.1 hgiven
  refine forall_get? (P := fun part => ∀ key value, part.get? key = some value → HoldsTexts value)
    ?_ section_ part hpart key value hvalue
  simp only [List.forall_mem_cons, List.not_mem_nil, false_imp_iff, implies_true, and_true]
  refine ⟨forall_get? ?_, forall_get? ?_, forall_get? ?_, forall_get? ?_, forall_get? ?_,
    forall_get? ?_⟩
  all_goals simp [holdsTexts_ofString?, holdsTexts_text, holdsTexts_bool, holdsTexts_ofTexts]

/-! ## Settings read back -/

lemma readString_text (s : String) : Payload.readString (.text s) = .ok s := by
  rw [Payload.readString, readText, display_text, Reading.map, LooseText.lossy_ofString]

lemma readString?_ofString? (s : Option String) : readString? (.ofString? s) = .ok s := by
  rw [readString?, ofString?, readText?_ofText?, Reading.map, Option.map_map]
  simp [Function.comp_def, LooseText.lossy_ofString]

lemma readList_ofTexts (texts : List String) :
    readList Payload.readString (.ofTexts texts) = .ok texts :=
  all_readItems (fun s _ => readString_text s) 0

lemma readLevel_name (level : LogLevel) :
    LoggingSettings.readLevel (.text level.name) = .ok level.name := by
  have hupper : upper level.name = level.name := by cases level <;> decide +kernel
  rw [LoggingSettings.readLevel, string, display_text, LooseText.lossy_ofString, hupper]

lemma readArguments_record (arguments : List String) :
    readArguments (.record [("extra_args", .ofTexts arguments)]) = .ok arguments :=
  readArguments_eq_ok_iff.2 ⟨_, rfl, by simp [KeysIn, Table.keys], readList_ofTexts arguments⟩

/-- **Settings with a marker are read back.** -/
theorem read_toJson (hmarker : settings.build.marker ≠ "") :
    read settings.toJson = .ok settings := by
  refine read_eq_ok_iff.2 ⟨_, rfl, fun _ hkey => hkey, ?_, ?_, ?_, ?_, ?_, ?_⟩
  · exact readWorkspace_eq_ok_iff.2 ⟨_, rfl, fun _ hkey => hkey, readString?_ofString? _⟩
  · exact ToolchainSettings.read_eq_ok_iff.2 ⟨_, rfl, fun _ hkey => hkey,
      readString?_ofString? _, readString?_ofString? _, readString?_ofString? _,
      readString?_ofString? _, rfl, readString_text _⟩
  · exact BuildSettings.read_eq_ok_iff.2 ⟨_, rfl, fun _ hkey => hkey,
      readString_text _, readString_text _, readList_ofTexts _, hmarker⟩
  · exact readArguments_record _
  · exact readArguments_record _
  · exact LoggingSettings.read_eq_ok_iff.2 ⟨_, rfl, fun _ hkey => hkey, readLevel_name _,
      readString?_ofString? _⟩

/-! ## Normal settings -/

/-- A payload that must not be read, whatever else is in it. -/
inductive Unfit (payload : Json) : Prop
  | key (hunknown : ¬KnownKeys payload)
  | marker {value : Json} (hgiven : payload.field? "build" "marker" = some value)
      (hempty : value.string = "")
  | level {value : Json} (hgiven : payload.field? "logging" "level" = some value)
      (hlevel : upper value.string ∉ ["DEBUG", "INFO", "WARNING", "ERROR", "CRITICAL"])

/-- What holds of the settings that a payload is read as. -/
structure Normal (payload : Json) (settings : Settings) : Prop where
  known : KnownKeys payload
  absent : ∀ {section_ key}, payload.field? section_ key = none →
    settings.toJson.field? section_ key = usual.field? section_ key
  marker : settings.build.marker ≠ ""
  level : settings.logging.level.name ∈ ["DEBUG", "INFO", "WARNING", "ERROR", "CRITICAL"]
  lists : ∀ {section_ key items}, settings.toJson.field? section_ key = some (.list items) →
    ∀ item ∈ items, ∃ s : String, item = .text s
  again : read settings.toJson = .ok settings

/-- **Reading settings is a normalization.**  What is read is normal, and a payload with an unknown
key, an empty marker or a level that there is not is never read. -/
theorem read_normalizes (payload : Json) :
    (∀ settings, read payload = .ok settings → Normal payload settings) ∧
      (Unfit payload → ∃ leaves, read payload = .flawed leaves) := by
  refine ⟨fun settings h => ?_, fun unfit => ?_⟩
  · have hfields := fieldByField_of_read h
    exact
      { known := knownKeys_of_read h
        absent := hfields.usual_of_absent
        marker := hfields.someMarker
        level := name_mem_levels settings.logging.level
        lists := fun hgiven => holdsTexts_field? settings hgiven _ rfl
        again := read_toJson hfields.someMarker }
  · cases h : read payload with
    | flawed leaves => exact ⟨leaves, rfl⟩
    | ok settings =>
      exfalso
      have hfields := fieldByField_of_read h
      cases unfit with
      | key hunknown => exact hunknown (knownKeys_of_read h)
      | marker hgiven hempty => exact hfields.someMarker (hfields.marker_eq hgiven ▸ hempty)
      | level hgiven hlevel => exact hlevel (hfields.level_eq hgiven ▸ name_mem_levels _)

/-- A payload that spells a version as a number, a list as a text and a level in lower case. -/
def looseText : Json :=
  .record
    [("toolchain", .record [("llvm_version", .integer 17)]),
     ("build", .record [("rustflags", .text "ab")]),
     ("logging", .record [("level", .text "debug")])]

/-- The settings of the payload. -/
def looseSettings : Settings :=
  { toolchain := { llvmVersion := some "17" }
    build := { flags := ["a", "b"] }
    logging := { level := .debug } }

/-- A payload whose level is spelled wrong. -/
def unfitText : Json :=
  .record [("logging", .record [("level", .text "loud")])]

/-- The loose payload is read, and its settings are normal; one with an unknown level is not. -/
theorem read_normalizes_loose :
    (read looseText = .ok looseSettings ∧ Normal looseText looseSettings) ∧
      (Unfit unfitText ∧ ∃ leaves, read unfitText = .flawed leaves) := by
  have htoolchain : ToolchainSettings.read (.record [("llvm_version", .integer 17)]) =
      .ok looseSettings.toolchain :=
    ToolchainSettings.read_eq_ok_iff.2 ⟨_, rfl,
      by simp [KeysIn, Table.keys, ToolchainSettings.names], rfl, rfl, rfl, rfl, rfl, rfl⟩
  have hbuild : BuildSettings.read (.record [("rustflags", .text "ab")]) =
      .ok looseSettings.build :=
    BuildSettings.read_eq_ok_iff.2 ⟨_, rfl, by simp [KeysIn, Table.keys, BuildSettings.names],
      rfl, rfl, rfl, by decide⟩
  have hlogging : LoggingSettings.read (.record [("level", .text "debug")]) =
      .ok looseSettings.logging :=
    LoggingSettings.read_eq_ok_iff.2 ⟨_, rfl, by simp [KeysIn, Table.keys, LoggingSettings.names],
      rfl, rfl⟩
  have hread : read looseText = .ok looseSettings :=
    read_eq_ok_iff.2 ⟨_, rfl, by simp [KeysIn, Table.keys, sections], rfl, htoolchain, hbuild,
      rfl, rfl, hlogging⟩
  have hunfit : Unfit unfitText := .level rfl (by decide +kernel)
  exact ⟨⟨hread, (read_normalizes looseText).1 looseSettings hread⟩,
    hunfit, (read_normalizes unfitText).2 hunfit⟩

end Settings

end WasmCoverage
