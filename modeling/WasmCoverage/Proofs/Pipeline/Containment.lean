import WasmCoverage.Proofs.Pipeline.Record

/-!
# Containment of merging and reporting

Merging and reporting remove files and whole trees, at places that are named after the directories
of the raw store.  Whatever these names are, and whatever the tools answer, nothing is touched but
the profile of a directory name, the tree of its report, and the record and the document of a run
(`phases_contained`), since what is made of a name is a `Component`.
-/

namespace WasmCoverage

open WasmCoverage.Disk

namespace Workspace

variable {workspace : Workspace} {root : Location} {Touched : Location → Option Node → Prop}
  {w w' : World}

/-- Looking for groups makes the raw store, or nothing is touched. -/
theorem Tidy.altered_groups {r : Except Fault (List Group)} (h : workspace.Tidy root w.disk)
    (hlink : w.disk.NoLink (Store.rawProfiles.directory :: root))
    (htouched : Touched (Store.rawProfiles.directory :: root) (some .directory))
    (hend : Ends workspace.groups w r w') : Altered workspace root Touched w.disk w'.disk := by
  rcases ends_bind.1 hend with ⟨samples, t, hstore, hrest⟩ | ⟨fault, hstore, -⟩
  · have hsame : t.disk = w'.disk := ((respects_entriesOf.bind fun entries =>
      respects_groupsAmong entries).onDisk) _ _ _ hrest
    exact hsame ▸ h.altered_store hlink hstore fun _ => htouched
  · exact h.altered_store hlink hstore fun _ => htouched

end Workspace

namespace Pipeline

open WasmCoverage.Workspace

variable {pipeline : Pipeline} {tools : Toolbox} {extra : List String} {root : Location}
  {w w' : World} {made : String}

/-! ## What may be touched -/

/-- A directory name: it is made of a logical name, and is one component of a path for both kinds
of separators. -/
structure Component (made : String) : Prop where
  source : ∃ name, Artifact.directoryName name = .ok made
  isName : Path.IsName made
  backslash : '\\' ∉ made.toList

/-- **What is made of a name is a component**, whatever the name. -/
theorem component_of_directoryName {name : String} (h : Artifact.directoryName name = .ok made) :
    Component made where
  source := ⟨name, h⟩
  isName := Artifact.isName_directoryName h
  backslash := Artifact.not_mem_directoryName h (by decide)

/-- What merging and reporting may leave in a place. -/
inductive Confined (root : Location) : Location → Option Node → Prop
  | store (store : Store) : Confined root (store.directory :: root) (some .directory)
  | profile (made : String) (node : Option Node) : Component made → Plain node →
      Confined root ((made ++ mergedSuffix) :: Store.mergedProfiles.directory :: root) node
  | tree (made : String) (location : Location) (node : Option Node) : Component made →
      made :: Store.reports.directory :: root <:+ location → Confined root location node
  | record (name : String) (node : Option Node) : name ∈ [reportRecord, reportDocument] →
      Plain node → Confined root (name :: Store.reports.directory :: root) node

lemma allows_confined : Allows root (Confined root) where
  store store _ := .store store
  profile _ made node hmade hplain := .profile made node (component_of_directoryName hmade) hplain

/-- The stores that are read and never written to. -/
def inputs : List Store := [.rawProfiles, .staging, .objects]

/-- A run changed nothing but what it may: profiles, reports, and the record of the run.  Stores
were made where nothing was; what is in the stores that are read, and whatever is outside of the
workspace, is as it was. -/
structure Contained (root : Location) (before after : Disk) : Prop where
  here : after.here = before.here
  node : ∀ location, after.node? location = before.node? location ∨
    Confined root location (after.node? location)
  store : ∀ store : Store, before.node? (store.directory :: root) ≠ none →
    after.node? (store.directory :: root) = before.node? (store.directory :: root)
  input : ∀ store ∈ inputs, ∀ location, store.directory :: root <:+ location.tail →
    after.node? location = before.node? location
  outside : ∀ location, ¬ (root <:+ location ∧ location ≠ root) →
    after.node? location = before.node? location

/-- Places that may be touched are below the root, and inside no store that is read. -/
lemma Confined.place {location : Location} {node : Option Node} (h : Confined root location node) :
    root <:+ location ∧ location ≠ root ∧
      ∀ store ∈ inputs, ¬ store.directory :: root <:+ location.tail := by
  have hinside (name : String) (store : Store) (hstore : store ∉ inputs) {location : Location}
      (hsuffix : name :: store.directory :: root <:+ location) : root <:+ location ∧
        location ≠ root ∧ ∀ store ∈ inputs, ¬ store.directory :: root <:+ location.tail := by
    have hplace : store.directory :: root <:+ location := (List.suffix_cons _ _).trans hsuffix
    refine ⟨(List.suffix_cons _ _).trans hplace, ?_, fun other hother hraw => hstore ?_⟩
    · rintro rfl
      have hlength := hplace.length_le
      simp only [List.length_cons] at hlength
      omega
    · have heq := List.suffix_or_suffix_of_suffix (hraw.trans (List.tail_suffix _)) hplace
      have hsame : other.directory :: root = store.directory :: root :=
        heq.elim (·.eq_of_length rfl) (·.eq_of_length rfl |>.symm)
      exact directory_inj (List.cons.inj hsame).1 ▸ hother
  cases h with
  | store store =>
    refine ⟨List.suffix_cons _ _, List.cons_ne_self _ _, fun other _ hsuffix => ?_⟩
    have hlength := hsuffix.length_le
    simp only [List.length_cons, List.length_tail] at hlength
    omega
  | profile made node _ _ => exact hinside _ .mergedProfiles (by decide) (List.suffix_refl _)
  | tree made location node _ hsuffix => exact hinside made .reports (by decide) hsuffix
  | record name node _ _ => exact hinside name .reports (by decide) (List.suffix_refl _)

lemma contained_of_altered {workspace : Workspace} {before after : Disk}
    (h : Altered workspace root (Confined root) before after) : Contained root before after where
  here := h.here
  node := h.node
  store := h.kept
  input store hstore location hsuffix :=
    (h.node location).resolve_right fun hconfined => hconfined.place.2.2 store hstore hsuffix
  outside location houtside :=
    (h.node location).resolve_right fun hconfined =>
      houtside ⟨hconfined.place.1, hconfined.place.2.1⟩

/-! ## Whole runs -/

section Runs

variable (hneat : tools.Neat) (htidy : pipeline.workspace.Tidy root w.disk)
  (hlink : w.disk.NoLink (Store.rawProfiles.directory :: root))

include hneat htidy hlink

/-- Merging all groups; if that succeeds, the raw store stands. -/
lemma altered_mergeAll
    (hmerges : tools.Merges pipeline.toolchain.llvmProfdata
      (pipeline.settings.mergeArguments ++ extra)) {r : Except Fault (List MergeOutcome)}
    (hend : Ends (pipeline.mergeAll tools extra) w r w') :
    Altered pipeline.workspace root (Confined root) w.disk w'.disk ∧ ((∃ merges, r = .ok merges) →
      w'.disk.node? (Store.rawProfiles.directory :: root) = some .directory) := by
  rcases ends_bind.1 hend with ⟨groups, t, hgroups, hrest⟩ | ⟨fault, hgroups, rfl⟩
  · have hfirst := htidy.altered_groups hlink (Confined.store .rawProfiles) hgroups
    have hlast := Alters.of_tidy (Respects.mapM (R := AltersBy pipeline root (fun _ => False) _)
      (fun group _ => alters_mergeGroup allows_confined hneat hmerges group) _ _ _ hrest)
      hfirst.tidy
    obtain ⟨path, hstore⟩ := store_of_groups hgroups
    exact ⟨hfirst.trans hlast, fun _ => hlast.stands (htidy.stands_of_store hlink hstore).2.1⟩
  · refine ⟨htidy.altered_groups hlink (Confined.store .rawProfiles) hgroups, ?_⟩
    rintro ⟨merges, hr⟩
    cases hr

lemma altered_merge
    (hmerges : tools.Merges pipeline.toolchain.llvmProfdata
      (pipeline.settings.mergeArguments ++ extra)) {r : Except Fault (List MergeOutcome)}
    (hend : Ends (pipeline.merge tools extra) w r w') :
    Altered pipeline.workspace root (Confined root) w.disk w'.disk := by
  rcases ends_bind.1 hend with ⟨merges, t, hall, hrest⟩ | ⟨fault, hall, -⟩
  · obtain ⟨-, rfl⟩ := hend.unique (ends_merge hall)
    exact (altered_mergeAll hneat htidy hlink hmerges hall).1
  · exact (altered_mergeAll hneat htidy hlink hmerges hall).1

lemma altered_report
    (hmerges : tools.Merges pipeline.toolchain.llvmProfdata pipeline.settings.mergeArguments)
    (hrenders : tools.Renders pipeline.toolchain.llvmCov
      (pipeline.settings.reportArguments ++ extra)) {r : Except Fault ReportSummary}
    (hend : Ends (pipeline.report tools extra) w r w') :
    Altered pipeline.workspace root (Confined root) w.disk w'.disk := by
  rw [← List.append_nil pipeline.settings.mergeArguments] at hmerges
  have hasked : Respects (AltersBy pipeline root (· = .rawProfiles) (Confined root))
      (pipeline.workspace.store .rawProfiles) :=
    alters_store (fun _ => rfl) fun _ => Confined.store .rawProfiles
  have hreports (merges : List MergeOutcome) :
      Respects (AltersBy pipeline root (· = .rawProfiles) (Confined root))
        (merges.mapM (pipeline.reportOne tools (pipeline.settings.reportArguments ++ extra))) :=
    Respects.mapM fun merged _ => alters_reportOne allows_confined hneat hrenders
      fun made hmade place node => .tree made place node (component_of_directoryName hmade)
  have hconclude (summary : ReportSummary) :
      Respects (AltersBy pipeline root (· = .rawProfiles) (Confined root))
        (pipeline.conclude summary) :=
    (alters_writeReport (.store .reports) (fun name hname node => .record name node hname) _).bind
      fun _ => respects_concluding hasked (fun _ _ => respects_note _ _) summary
  rcases ends_bind.1 hend with ⟨merges, t, hall, hrest⟩ | ⟨fault, hall, -⟩
  · obtain ⟨hfirst, hstands⟩ := altered_mergeAll hneat htidy hlink hmerges hall
    have hafter : AltersBy pipeline root (· = .rawProfiles) (Confined root) t w' :=
      ((hreports merges).bind fun reports => hconclude ⟨merges, reports⟩) _ _ _ hrest
    exact hfirst.trans (Alters.of_store hafter hfirst.tidy (hstands ⟨merges, rfl⟩))
  · exact (altered_mergeAll hneat htidy hlink hmerges hall).1

/-- **Merging and reporting are contained**, whether they end well or not. -/
theorem phases_contained
    (hmerge : tools.Merges pipeline.toolchain.llvmProfdata
      (pipeline.settings.mergeArguments ++ extra))
    (hmerges : tools.Merges pipeline.toolchain.llvmProfdata pipeline.settings.mergeArguments)
    (hrenders : tools.Renders pipeline.toolchain.llvmCov
      (pipeline.settings.reportArguments ++ extra)) :
    (∀ r w', Ends (pipeline.merge tools extra) w r w' → Contained root w.disk w'.disk) ∧
      ∀ r w', Ends (pipeline.report tools extra) w r w' → Contained root w.disk w'.disk :=
  ⟨fun _ _ hend => contained_of_altered (altered_merge hneat htidy hlink hmerge hend),
    fun _ _ hend => contained_of_altered (altered_report hneat htidy hlink hmerges hrenders hend)⟩

end Runs

/-- The name of a directory that would lead upwards, were it a path for other separators. -/
def climbingName : String := "..\\up"

/-- A group of that name is merged and reported beside the others. -/
theorem phases_contained_climbing :
    (∃ r after, Ends (profilePipeline.merge Tool.suite []) (groupWorld [climbingName]) r after ∧
      Contained ["w"] (groupWorld [climbingName]).disk after.disk) ∧
    ∃ r after, Ends (profilePipeline.report Tool.suite []) (groupWorld [climbingName]) r after ∧
      Contained ["w"] (groupWorld [climbingName]).disk after.disk := by
  have hsettled : Settled profilePipeline.workspace ["w"] (groupWorld [climbingName]).disk :=
    settled_groupWorld (by decide +kernel) (by decide +kernel) (by decide +kernel)
  have hlink : (groupWorld [climbingName]).disk.NoLink (Store.rawProfiles.directory :: ["w"]) :=
    noLink_of_linkCount (by decide +kernel) _
  have hcontained := phases_contained Tool.neat_suite hsettled.toTidy hlink
    (Tool.merges_suite "llvm-profdata-17") (Tool.merges_suite "llvm-profdata-17")
    (Tool.renders_suite "llvm-cov-17")
  refine ⟨?_, ?_⟩
  · obtain ⟨r, after, hend⟩ := exists_ends (profilePipeline.merge Tool.suite [])
      (groupWorld [climbingName])
    exact ⟨r, after, hend, hcontained.1 r after hend⟩
  · obtain ⟨r, after, hend⟩ := exists_ends (profilePipeline.report Tool.suite [])
      (groupWorld [climbingName])
    exact ⟨r, after, hend, hcontained.2 r after hend⟩

end Pipeline

end WasmCoverage
