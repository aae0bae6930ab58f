import WasmCoverage.Proofs.Discovery
import WasmCoverage.Proofs.Summary.RoundTrip
import WasmCoverage.Proofs.Table
import WasmCoverage.Records

/-!
# Records of what a run finds and leaves

A record is built from fields given by name, and the checks of its form are those of single fields.
What is read out of a payload is tested by the rules of its type instead.  Built from its own
fields, an outcome or a summary comes to what its rules say (`build_eq_verdict`, and `build_fields`
for each type).

So **a summary that is loaded can be built**, with all its outcomes (`built_of_ofText`), and so can
every module that a search finds, because its path is absolute (`Module.built_of_discover`).
-/

namespace WasmCoverage

open WasmCoverage.Json WasmCoverage.Payload

/-! ## Building from fields in order -/

namespace Payload

variable {form : List FieldRule} {fields given : List (Key × Json)}

/-- Fields, unless a rule about them is broken; then the first that is. -/
def verdict (rules : List (Option Flaw)) (fields : List (Key × Json)) :
    Except Flaw (List (Key × Json)) :=
  (rules.findSome? id).elim (.ok fields) .error

/-- Fields about which no rule is broken are as they were. -/
lemma verdict_of_rules {rules : List (Option Flaw)} (h : ∀ rule ∈ rules, rule = none)
    (fields : List (Key × Json)) : verdict rules fields = .ok fields := by
  have hnone : rules.findSome? id = none := List.findSome?_eq_none_iff.2 h
  simp only [verdict, hnone, Option.elim_none]

lemma valuesOf?_of_mem (hgiven : (Table.keys given).Nodup)
    (hkeys : Table.keys fields = keysOf form) (h : ∀ field ∈ fields, field ∈ given) :
    valuesOf? given form = some fields := by
  induction form generalizing fields with
  | nil =>
    cases fields with
    | nil => rfl
    | cons field others => cases hkeys
  | cons rule rest ih =>
    cases fields with
    | nil => cases hkeys
    | cons field others =>
      obtain ⟨key, value⟩ := field
      obtain ⟨rfl, hothers⟩ := List.cons.inj hkeys
      have hvalue : rule.value? given = some value := by
        rw [FieldRule.value?, Entries.get?,
          (Table.get?_eq_some_iff hgiven).2 (h _ List.mem_cons_self)]
      have hrest := ih hothers fun field hmem => h field (List.mem_cons_of_mem _ hmem)
      simp [valuesOf?, hvalue, hrest]

/-- **Fields in the order of their form are tested, and nothing else happens to them.** -/
theorem build_eq_verdict {rules : List (Option Flaw)} (hnodup : (keysOf form).Nodup)
    (hkeys : Table.keys fields = keysOf form)
    (hrules : firstFlaw? form fields = rules.findSome? id) :
    build form fields = verdict rules fields := by
  have hknown :
      (fields.all fun entry => form.any fun rule => (rule.name : Key) = entry.1) = true := by
    rw [List.all_eq_true]
    intro entry hmem
    have hkey : entry.1 ∈ keysOf form := hkeys ▸ Table.mem_keys_of_mem hmem
    obtain ⟨rule, hrule, hname⟩ := List.mem_map.1 hkey
    exact List.any_eq_true.2 ⟨rule, hrule, decide_eq_true hname⟩
  have hvalues : valuesOf? fields form = some fields :=
    valuesOf?_of_mem (hkeys ▸ hnodup) hkeys fun _ => id
  rw [build, if_pos hknown, hvalues]
  cases hverdict : rules.findSome? id with
  | some flaw => simp only [verdict, hrules, hverdict, Option.elim_some]
  | none => simp only [verdict, hrules, hverdict, Option.elim_none]

/-- Fields in the order of their form, with nothing wrong, are the record. -/
theorem build_of_flawless (hnodup : (keysOf form).Nodup) (hkeys : Table.keys fields = keysOf form)
    (h : firstFlaw? form fields = none) : build form fields = .ok fields :=
  (build_eq_verdict hnodup hkeys (show _ = [].findSome? id from h)).trans rfl

/-! ### Checks as rules -/

lemma findSome?_cons_or {α β : Type} (f : α → Option β) (a : α) (l : List α) :
    (a :: l).findSome? f = (f a).or (l.findSome? f) := by
  cases h : f a <;> simp [h]

@[simp] lemma flaw?_text (name : String) (s : LooseText) :
    Check.text.flaw? name (.text s) = none :=
  rfl

@[simp] lemma flaw?_text? (name : String) (s : Option String) :
    Check.text?.flaw? name (.ofString? s) = none := by
  cases s <;> rfl

@[simp] lemma flaw?_flag (name : String) (b : Bool) : Check.flag.flaw? name (.bool b) = none :=
  rfl

@[simp] lemma flaw?_whole (name : String) (n : Int) :
    Check.whole.flaw? name (.integer n) = none :=
  rfl

@[simp] lemma flaw?_natural (name : String) (n : Int) :
    Check.natural.flaw? name (.integer n) = natural name n :=
  rfl

@[simp] lemma flaw?_path (name : String) (s : LooseText) :
    Check.path?.flaw? name (.text s) = absolute name s :=
  rfl

@[simp] lemma flaw?_path? (name : String) (s : Option LooseText) :
    Check.path?.flaw? name (.ofText? s) = absolute? name s := by
  cases s <;> rfl

/-- The text of a path, if there is one. -/
def textOf? (path : Option Path) : Option LooseText :=
  path.map fun path => .ofString path.text

@[simp] lemma flaw?_textOf? (name : String) (path : Option Path) :
    Check.path?.flaw? name (.ofString? (path.map Path.text)) = absolute? name (textOf? path) := by
  cases path <;> rfl

end Payload

/-! ## What the checks of a form come to -/

theorem Module.build_fields (module : Module) : build form module.fields =
    verdict [absolute "path" module.path.text, absolute? "ir_path" (textOf? module.ir?)]
      module.fields :=
  build_eq_verdict (by decide) rfl (by
    simp [firstFlaw?, form, fields, FieldRule.flaw?, findSome?_cons_or])

/-- **The tools of a run are a record**, whatever they are called. -/
theorem Toolchain.build_fields (toolchain : Toolchain) :
    build form toolchain.fields = .ok toolchain.fields :=
  build_of_flawless (by decide) rfl (by
    simp [firstFlaw?, form, fields, FieldRule.flaw?, findSome?_cons_or])

/-- **Every choice of tools is a record.** -/
theorem ToolchainSettings.build_fields (settings : ToolchainSettings) :
    build form settings.fields = .ok settings.fields :=
  build_of_flawless (by decide) rfl (by
    simp [firstFlaw?, form, fields, FieldRule.flaw?, findSome?_cons_or])

theorem ArtifactOutcome.build_fields (outcome : ArtifactOutcome) :
    build form outcome.fields = verdict outcome.rules outcome.fields :=
  build_eq_verdict (by decide) rfl (by
    simp [firstFlaw?, form, fields, FieldRule.flaw?, rules, findSome?_cons_or])

theorem FinalizeSummary.build_fields (summary : FinalizeSummary) :
    build form summary.fields = verdict summary.rules summary.fields :=
  build_eq_verdict (by decide) rfl (by
    simp [firstFlaw?, form, fields, FieldRule.flaw?, rules, findSome?_cons_or])

theorem MergeOutcome.build_fields (outcome : MergeOutcome) :
    build form outcome.fields = verdict outcome.rules outcome.fields :=
  build_eq_verdict (by decide) rfl (by
    simp [firstFlaw?, form, fields, FieldRule.flaw?, rules, findSome?_cons_or])

theorem ReportOutcome.build_fields (outcome : ReportOutcome) :
    build form outcome.fields = verdict outcome.rules outcome.fields :=
  build_eq_verdict (by decide) rfl (by
    simp [firstFlaw?, form, fields, FieldRule.flaw?, rules, findSome?_cons_or])

theorem ReportSummary.build_fields (summary : ReportSummary) :
    build form summary.fields = .ok summary.fields :=
  build_of_flawless (by decide) rfl (by
    simp [firstFlaw?, form, fields, FieldRule.flaw?])

/-! ## What a run finds and leaves -/

/-- **A module that is found can be built**: its path is absolute, and so is that of its IR. -/
theorem Module.built_of_discover {forbidden : Forbidden} {marker : Text.Octets} {root : Path}
    {modules : List Module} {w w' : World}
    (h : Ends (discover root marker forbidden) w (.ok modules) w') :
    ∀ m ∈ modules, build form m.fields = .ok m.fields := by
  intro m hm
  have hsound := discover_sound h m hm
  have hir : absolute? "ir_path" (textOf? m.ir?) = none := by
    cases hir : m.ir? with
    | none => rfl
    | some ir => exact absolute_text _ (Path.isAbsolute_of_withSuffix hsound.absolute
        (hsound.ir ir hir))
  rw [build_fields, verdict_of_rules]
  simp [absolute_text _ hsound.absolute, hir]

/-- **The summary of finalization that is loaded can be built**, with its outcomes. -/
theorem FinalizeSummary.built_of_ofText {room : Nat} {text : String} {summary : FinalizeSummary}
    (h : ofText (room + 3) text = .ok summary) : build form summary.fields = .ok summary.fields ∧
      ∀ outcome ∈ summary.outcomes,
        build ArtifactOutcome.form outcome.fields = .ok outcome.fields := by
  have hfit := fit_of_ofText (agrees_finalize room) h
  refine ⟨?_, fun outcome houtcome => ?_⟩
  · rw [build_fields, verdict_of_rules hfit.rules]
  · rw [outcome.build_fields, verdict_of_rules (hfit.outcomes outcome houtcome).rules]

/-- **The summary of reporting that is loaded can be built**, with its outcomes. -/
theorem ReportSummary.built_of_ofText {room : Nat} {text : String} {summary : ReportSummary}
    (h : ofText (room + 3) text = .ok summary) : build form summary.fields = .ok summary.fields ∧
      (∀ outcome ∈ summary.merges, build MergeOutcome.form outcome.fields = .ok outcome.fields) ∧
      ∀ outcome ∈ summary.reports,
        build ReportOutcome.form outcome.fields = .ok outcome.fields := by
  have hfit := fit_of_ofText (agrees_reporting room) h
  refine ⟨summary.build_fields, fun outcome houtcome => ?_, fun outcome houtcome => ?_⟩
  · rw [outcome.build_fields, verdict_of_rules (hfit.merges outcome houtcome).rules]
  · rw [outcome.build_fields, verdict_of_rules (hfit.reports outcome houtcome).rules]

end WasmCoverage
