import WasmCoverage.Proofs.Pipeline.Alongside

/-!
# Reports beside another run

Once the profiles are the same, two runs that are `Alongside` find the same objects
(`Alongside.findObject`), and before a report is rendered its place is vacated in both
(`Alongside.vacate`).  There the tool leaves the same, and so all reports that it was called for are
the same in the end (`Alongside.reportAll`).  A place that cannot be vacated, since its path is too
long or a file is in it, fails alike in both.
-/

namespace WasmCoverage.Pipeline

open WasmCoverage.Disk WasmCoverage.Workspace

variable {pipeline : Pipeline} {tools : Toolbox} {extra : List String} {root : Location}
  {past past' : List Call} {same : Location → Prop} {w v w' v' : World} {store : Store}
  {name made : String}

/-! ## Looking for an object -/

/-- The object is an entry of a store that objects are looked for in. -/
def Found (root : Location) (object : Path) : Prop :=
  ∃ store ∈ searched, ∃ entry, Path.IsName entry ∧
    object = pathOf (entry :: store.directory :: root)

section Search

variable (hroomy : Roomy root) (hplace : Placeable root name made)

include hroomy hplace

/-- An object is looked for alike in a store that stands. -/
lemma Alongside.objectIn (h : Alongside pipeline extra root past past' same w v)
    (hstore : store ∈ searched)
    (hstands : w.disk.node? (store.directory :: root) = some .directory) :
    Together (fun found w' v' => (w' = w ∧ v' = v) ∧ ∀ object, found = some object →
        Found root object)
      (onDisk (Pipeline.objectIn name (pathOf (store.directory :: root))))
      (onDisk (Pipeline.objectIn name (pathOf (store.directory :: root)))) w v := by
  obtain ⟨apart, -, htwins⟩ := h.twins
  obtain ⟨found, hend⟩ := htwins.left.objectIn hroomy hplace hstore hstands
  obtain ⟨disk, hend', -, rfl⟩ := htwins.same_objectIn hstore hplace.isName_object _ _ hend
  refine ⟨found, w, v, ends_onDisk_ok.2 ⟨_, hend, rfl⟩, ends_onDisk_ok.2 ⟨_, hend', rfl⟩,
    ⟨rfl, rfl⟩, ?_⟩
  rintro object rfl
  exact ⟨store, hstore, htwins.place_of_objectIn hstore hplace.isName_object hend⟩

/-- **An object is found alike** in both worlds. -/
theorem Alongside.findObject (h : Alongside pipeline extra root past past' same w v) :
    Together (fun found w' v' => Alongside pipeline extra root past past' same w' v' ∧
        ∀ object, found = some object → Found root object)
      (pipeline.findObject name) (pipeline.findObject name) w v := by
  refine (h.stored hroomy fun hraw => absurd hraw (by decide)).bind ?_
  rintro _ w₁ v₁ ⟨rfl, h₁, hstaging, -⟩
  refine (h₁.stored hroomy fun hraw => absurd hraw (by decide)).bind_of_ends ?_
  rintro _ w₂ v₂ hobjects ⟨rfl, h₂, hstands, -⟩
  have hstaging₂ := (respects_store _ _ _ _ hobjects).node?_eq hstaging
  refine (h₂.objectIn hroomy hplace (by decide : Store.staging ∈ searched) hstaging₂).bind ?_
  rintro found _ _ ⟨⟨rfl, rfl⟩, hfound⟩
  cases found with
  | some object => exact Together.pure ⟨h₂, hfound⟩
  | none =>
    refine (h₂.objectIn hroomy hplace (by decide : Store.objects ∈ searched) hstands).mono ?_
    rintro found _ _ ⟨⟨rfl, rfl⟩, hfound⟩
    exact ⟨h₂, hfound⟩

/-- There is a place for the report in both worlds. -/
lemma Alongside.reportDirectory (h : Alongside pipeline extra root past past' same w v) :
    Together (fun directory w' v' => directory = pathOf (treePlace root made) ∧
        Alongside pipeline extra root past past' same w' v' ∧
        w'.disk.node? (Store.reports.directory :: root) = some .directory ∧
        v'.disk.node? (Store.reports.directory :: root) = some .directory)
      (pipeline.workspace.reportDirectory name) (pipeline.workspace.reportDirectory name) w v := by
  refine (h.stored hroomy fun hraw => absurd hraw (by decide)).bind ?_
  rintro _ w₁ v₁ ⟨rfl, h₁, hstands⟩
  refine (together_directoryName hplace.named).bind ?_
  rintro _ _ _ ⟨rfl, rfl, rfl⟩
  exact Together.pure ⟨child_pathOf _ (Artifact.isName_directoryName hplace.named), h₁, hstands⟩

end Search

/-! ## Making way for a report -/

/-- What becomes of a place that is vacated. -/
def vacating (location : Location) : Effect Unit
  | none => (.ok (), .keep)
  | some node => clearing location (some node)

/-- **A place in a directory that stands is vacated**, unless its path is too long, or there is a
file or something that is held. -/
theorem ends_vacate_at {directory : Location} (h : w.disk.Entry name directory)
    (hfree : ¬ w.disk.Held (name :: directory)) :
    Ends (vacate (pathOf (name :: directory))) w
      (((vacating (name :: directory)).within (name :: directory)
        (w.disk.node? (name :: directory))).1.mapError .disk)
      { w with disk := ((vacating (name :: directory)).within (name :: directory)
        (w.disk.node? (name :: directory))).2.on (name :: directory) w.disk } := by
  have hexists := acts_leadsTo name directory (fun _ => true) w.disk h
  have hremove := ends_removeTree_at h fun _ => hfree
  unfold vacate pathExists
  unfold Effect.within at hexists hremove ⊢
  by_cases hlong : TooLong (name :: directory)
  · rw [if_pos hlong] at hexists ⊢
    exact Ends.bind_error (ends_onDisk.2 ⟨_, _, hexists, rfl, rfl⟩)
  · rw [if_neg hlong] at hexists hremove ⊢
    have hthere := ends_onDisk.2 ⟨_, _, hexists, rfl, rfl⟩
    cases hnode : w.disk.node? (name :: directory) with
    | none =>
      rw [hnode] at hthere
      refine Ends.bind hthere ?_
      rw [Option.any_none, if_neg Bool.false_ne_true]
      exact ends_pure.2 ⟨rfl, rfl⟩
    | some node =>
      rw [hnode] at hthere hremove
      refine Ends.bind hthere ?_
      rw [Option.any_some, if_pos rfl]
      exact ends_onDisk.2 ⟨_, _, hremove, rfl, rfl⟩

/-- The place of a report is vacant in both worlds. -/
structure Emptied (pipeline : Pipeline) (extra : List String) (root : Location)
    (past past' : List Call) (same : Location → Prop) (made : String) (w v : World) : Prop where
  alongside : Alongside pipeline extra root past past'
    (fun location => same location ∨ treePlace root made <:+ location) w v
  left : VacantPlace root .reports made w.disk
  right : VacantPlace root .reports made v.disk

/-- The place of a report is an entry of the report store. -/
lemma Settled.entry_tree {workspace : Workspace} {disk : Disk} (h : Settled workspace root disk)
    (hstands : disk.node? (Store.reports.directory :: root) = some .directory)
    (hmade : Artifact.directoryName name = .ok made) :
    disk.Entry made (Store.reports.directory :: root) :=
  h.entry_below (by decide) hstands (Artifact.isName_directoryName hmade)
    (Artifact.not_mem_directoryName hmade (by decide))

section Tree

variable (hplace : Placeable root name made)

include hplace

/-- Nothing or a directory is vacated. -/
lemma Settled.vacates (h : Settled pipeline.workspace root w.disk)
    (hstands : w.disk.node? (Store.reports.directory :: root) = some .directory)
    (hshort : ¬ TooLong (treePlace root made)) (hfree : ¬ w.disk.Held (treePlace root made))
    (hnode : w.disk.node? (treePlace root made) = none ∨
      w.disk.node? (treePlace root made) = some .directory) : ∃ disk,
    Ends (vacate (pathOf (treePlace root made))) w (.ok ()) { w with disk } ∧
      Touches pipeline.workspace root (treePlace root made <:+ ·) w.disk disk ∧
      VacantPlace root .reports made disk := by
  obtain ⟨disk, hend, hnone⟩ : ∃ disk,
      Ends (vacate (pathOf (treePlace root made))) w (.ok ()) { w with disk } ∧
        disk.node? (treePlace root made) = none := by
    have hend := ends_vacate_at (h.entry_tree hstands hplace.named) hfree
    unfold Effect.within at hend
    rw [if_neg hshort] at hend
    rcases hnode with hnone | hdir
    · rw [hnone] at hend
      exact ⟨_, hend, hnone⟩
    · rw [hdir] at hend
      exact ⟨_, hend, node?_drop_self⟩
  have htouches : Touches pipeline.workspace root (treePlace root made <:+ ·) w.disk disk :=
    Alters.of_tidy (alters_vacate (inside_store made (by decide))
      (List.forall_mem_cons.2 ⟨Artifact.isName_directoryName hplace.named, h.isName .reports⟩)
      (fun place hbelow => ⟨hbelow, expected_tree hplace.tree place none hbelow⟩) _ _ _ hend)
      h.toTidy
  exact ⟨disk, hend, htouches, htouches.stands hstands, hnone⟩

variable (h : Alongside pipeline extra root past past' same w v)
  (hstands : w.disk.node? (Store.reports.directory :: root) = some .directory)
  (hstands' : v.disk.node? (Store.reports.directory :: root) = some .directory)

include h hstands hstands'

/-- Nothing or a directory is vacated in both worlds. -/
lemma Alongside.emptied (hshort : ¬ TooLong (treePlace root made))
    (hnode : w.disk.node? (treePlace root made) = none ∨
      w.disk.node? (treePlace root made) = some .directory)
    (hnode' : v.disk.node? (treePlace root made) = none ∨
      v.disk.node? (treePlace root made) = some .directory) :
    Together (fun _ => Emptied pipeline extra root past past' same made)
      (vacate (pathOf (treePlace root made))) (vacate (pathOf (treePlace root made))) w v := by
  obtain ⟨apart, -, htwins⟩ := h.twins
  obtain ⟨hfree, hfree'⟩ := htwins.not_held made
  obtain ⟨disk, hend, htouches, hvacant⟩ :=
    htwins.left.vacates hplace hstands hshort hfree hnode
  obtain ⟨disk', hend', htouches', hvacant'⟩ :=
    htwins.right.vacates hplace hstands' hshort hfree' hnode'
  exact ⟨(), _, _, hend, hend', h.vacated
    (fun _ hbelow => ⟨made, Or.inr ⟨hplace.tree, hbelow⟩⟩) htouches htouches' hvacant.clear
    hvacant'.clear rfl rfl, hvacant, hvacant'⟩

/-- **The place of a report is vacated** in both worlds, or in none. -/
theorem Alongside.vacate :
    Together (fun _ => Emptied pipeline extra root past past' same made)
      (vacate (pathOf (treePlace root made))) (vacate (pathOf (treePlace root made))) w v ∨
    ∃ error : Disk.Error, error.isRefusal = true ∧
      Ends (vacate (pathOf (treePlace root made))) w (.error (.disk error)) w ∧
      Ends (vacate (pathOf (treePlace root made))) v (.error (.disk error)) v := by
  obtain ⟨apart, -, htwins⟩ := h.twins
  obtain ⟨hfree, hfree'⟩ := htwins.not_held made
  have hend := ends_vacate_at (htwins.left.entry_tree hstands hplace.named) hfree
  have hend' := ends_vacate_at (htwins.right.entry_tree hstands' hplace.named) hfree'
  unfold Effect.within at hend hend'
  by_cases hlong : TooLong (treePlace root made)
  · rw [if_pos hlong] at hend hend'
    exact Or.inr ⟨_, rfl, hend, hend'⟩
  have hemptied := h.emptied hplace hstands hstands' hlong
  by_cases hapart : apart (treePlace root made)
  · have htrees := htwins.trees made hplace.tree hapart
    exact Or.inl (hemptied (htrees _ List.mem_cons_self)
      (htrees _ (List.mem_cons_of_mem _ List.mem_cons_self)))
  · have hlink := htwins.left.noLink _ (inside_store made (by decide : Store.reports ≠ _)).managed
    rw [if_neg hlong] at hend hend'
    rw [htwins.node _ hapart] at hend' hemptied
    cases hnode : w.disk.node? (treePlace root made) with
    | none => exact Or.inl (hemptied (Or.inl hnode) (Or.inl hnode))
    | some node =>
      cases node with
      | directory => exact Or.inl (hemptied (Or.inr hnode) (Or.inr hnode))
      | link target => exact absurd hnode (hlink target)
      | file data executable =>
        -- a file that is no leftover is in the way of both
        rw [hnode] at hend hend'
        exact Or.inr ⟨_, rfl, hend, hend'⟩

end Tree

/-! ## Rendering -/

/-- The place of a report can be told from the call for it. -/
lemma eq_of_renderingCall (hroot : ∀ name ∈ root, Path.IsName name) {profile profile' : Path}
    {object object' : Path} {made' : String} (hmade : Path.IsName made)
    (hmade' : Path.IsName made') (h : pipeline.renderingCall extra root profile object made =
      pipeline.renderingCall extra root profile' object' made') : made = made' := by
  have htext : (pathOf (treePlace root made)).text = (pathOf (treePlace root made')).text := by
    simp only [showCall, Tool.showCommand, List.cons_append, List.nil_append, Call.mk.injEq,
      List.cons.injEq] at h
    exact h.2.1.2.2.2.2.2.2.2.1
  rw [← child_pathOf _ hmade, ← child_pathOf _ hmade'] at htext
  exact (Path.child_text_inj (proper_pathOf (List.forall_mem_cons.2 ⟨isName_directory _, hroot⟩))
    hmade hmade').1 htext

section Render

variable {profile object directory : Path} {merged : MergeOutcome} {words : List String}

/-- A report is rendered as the tool answers, where its place was vacated. -/
lemma ends_render (h : Ends (vacate directory) w (.ok ()) w') :
    Ends (pipeline.render tools profile object directory words) w
      ((w'.response tools (pipeline.showCall words profile object directory)).outcome.map
        fun _ => ())
      (w'.answered tools (pipeline.showCall words profile object directory)) := by
  have hcall : Ends (call tools (pipeline.showCall words profile object directory)) w'
      (w'.response tools (pipeline.showCall words profile object directory)).outcome
      (w'.answered tools (pipeline.showCall words profile object directory)) :=
    ends_call.2 ⟨rfl, rfl⟩
  rw [render_eq]
  refine h.bind ?_
  cases houtcome : (w'.response tools (pipeline.showCall words profile object directory)).outcome
    with
  | ok output =>
    rw [houtcome] at hcall
    exact Ends.bind (Ends.bind hcall (ends_pure.2 ⟨rfl, rfl⟩)) (ends_pure.2 ⟨rfl, rfl⟩)
  | error fault =>
    rw [houtcome] at hcall
    exact Ends.bind_error (Ends.bind_error hcall)

lemma ends_attemptReport_ok (h : Ends (pipeline.render tools (.ofText merged.profilePath.lossy)
      object directory words) w (.ok ()) w') :
    Ends (pipeline.attemptReport tools words merged object directory) w
      (.ok (reportedOutcome merged object directory))
      (noted .info ("Coverage report has been saved to " ++ directory.text) w') :=
  Ends.catch_ok (h.bind (ends_note_bind.2 (ends_pure.2 ⟨rfl, rfl⟩)))

end Render

/-- The worlds go on alongside, and what was the same stays the same. -/
def Onward (pipeline : Pipeline) (extra : List String) (root : Location)
    (past past' : List Call) (same : Location → Prop) (w v : World) : Prop :=
  ∃ same', (∀ location, same location → same' location) ∧
    Alongside pipeline extra root past past' same' w v

lemma Alongside.onward (h : Alongside pipeline extra root past past' same w v) :
    Onward pipeline extra root past past' same w v :=
  ⟨same, fun _ => id, h⟩

lemma Onward.mono {less : Location → Prop} (h : Onward pipeline extra root past past' same w v)
    (hless : ∀ location, less location → same location) :
    Onward pipeline extra root past past' less w v := by
  obtain ⟨same', hmore, halongside⟩ := h
  exact ⟨same', fun location hlocation => hmore location (hless location hlocation), halongside⟩

lemma Onward.noted (h : Onward pipeline extra root past past' same w v) (level : LogLevel)
    (message : String) :
    Onward pipeline extra root past past' same (noted level message w) (noted level message v) := by
  obtain ⟨same', hmore, halongside⟩ := h
  exact ⟨same', hmore, halongside.noted _ _⟩

section Report

variable {object : Path} {merged : MergeOutcome} {group : Group}

/-- The profile and the object are the same. -/
lemma Alongside.content?_inputs (h : Alongside pipeline extra root past past' same w v)
    (hplace : Placeable root group.name made) (hsame : same (profilePlace root made))
    (hfound : Found root object) : ∀ input ∈ [pathOf (profilePlace root made), object],
      input.Proper ∧ v.disk.content? input = w.disk.content? input := by
  obtain ⟨apart, hapart, htwins⟩ := h.twins
  obtain ⟨store, hstore, entry, hentry, rfl⟩ := hfound
  obtain ⟨-, hnames⟩ := htwins.left.profile_place hplace.named
  rw [List.forall_mem_cons, List.forall_mem_singleton]
  refine ⟨⟨proper_pathOf hnames, htwins.content?_profile hplace (hapart _ hsame)⟩,
    proper_pathOf (List.forall_mem_cons.2 ⟨hentry, htwins.left.isName store⟩),
    htwins.agree.content?_eq ((htwins.legible_searched hstore).entry hentry.ne_up)⟩

variable (horderly : tools.Orderly) (hneat : tools.Neat)
  (hrenders : tools.Renders pipeline.toolchain.llvmCov (pipeline.settings.reportArguments ++ extra))
  (hgoes : tools.Reproducible pipeline root extra) (hroomy : Roomy root)

include hneat hrenders hroomy

omit horderly hgoes in
/-- The tool fills the place of the report and touches nothing else. -/
lemma touches_renderingCall {u : World} (h : Settled pipeline.workspace root u.disk)
    (hplace : Placeable root name made) (hvacant : VacantPlace root .reports made u.disk)
    (profile object : Path) :
    Touches pipeline.workspace root (treePlace root made <:+ ·) u.disk
      (u.answered tools (pipeline.renderingCall extra root profile object made)).disk := by
  have hshowing : Respects (AltersBy pipeline root (· = .reports)
      fun place node => treePlace root made <:+ place ∧ Expected root place node)
      (call tools (pipeline.renderingCall extra root profile object made)) :=
    alters_showing hneat hrenders h.names (Artifact.isName_directoryName hplace.named) rfl
      (hroomy.store .reports)
      fun place node hbelow => ⟨hbelow, expected_tree hplace.tree place node hbelow⟩
  exact Alters.of_store (hshowing _ _ _ (ends_call.2 ⟨rfl, rfl⟩)) h.toTidy hvacant.stands

include horderly hgoes

/-- **A report is rendered alike**, or fails alike, in both worlds. -/
theorem Alongside.attemptReport (h : Alongside pipeline extra root past past' same w v)
    (hplace : Placeable root group.name made) (hsame : same (profilePlace root made))
    (hprofile : Path.ofText merged.profilePath.lossy = pathOf (profilePlace root made))
    (hfound : Found root object)
    (hstands : w.disk.node? (Store.reports.directory :: root) = some .directory)
    (hstands' : v.disk.node? (Store.reports.directory :: root) = some .directory) :
    Together (fun _ => Onward pipeline extra root past past' same)
      (pipeline.attemptReport tools (pipeline.settings.reportArguments ++ extra) merged object
        (pathOf (treePlace root made)))
      (pipeline.attemptReport tools (pipeline.settings.reportArguments ++ extra) merged object
        (pathOf (treePlace root made))) w v := by
  rcases h.vacate hplace hstands hstands' with
    ⟨_, w₁, v₁, hvacate, hvacate', hemptied⟩ | ⟨error, hitem, hvacate, hvacate'⟩
  · obtain ⟨apart, -, htwins⟩ := hemptied.alongside.twins
    have hmade := Artifact.isName_directoryName hplace.named
    obtain ⟨houtcome, hanswered⟩ := hemptied.alongside.answered
      (fun _ hbelow => ⟨made, Or.inr ⟨hplace.tree, hbelow⟩⟩)
      (hgoes.rendering (pathOf (profilePlace root made)) object group.name made hplace.named)
      hemptied.left hemptied.right (hemptied.alongside.content?_inputs hplace (Or.inl hsame) hfound)
      (touches_renderingCall hneat hrenders hroomy htwins.left hplace hemptied.left _ _)
      (touches_renderingCall hneat hrenders hroomy htwins.right hplace hemptied.right _ _)
      fun profile object made' hmade' heq location hbelow => by
        obtain rfl := eq_of_renderingCall htwins.left.names hmade hmade' heq
        exact Or.inr hbelow
    have hrender {u t : World}
        (hvacated : Ends (Pipeline.vacate (pathOf (treePlace root made))) u (.ok ()) t) :
        Ends (pipeline.render tools (.ofText merged.profilePath.lossy) object
          (pathOf (treePlace root made)) (pipeline.settings.reportArguments ++ extra)) u
          ((t.response tools (pipeline.renderingCall extra root (pathOf (profilePlace root made))
            object made)).outcome.map fun _ => ())
          (t.answered tools (pipeline.renderingCall extra root (pathOf (profilePlace root made))
            object made)) := by
      rw [hprofile]
      exact ends_render hvacated
    have hfirst := hrender hvacate
    have hsecond := hrender hvacate'
    rw [houtcome] at hsecond
    have honward := hanswered.onward.mono fun location (hlocation : same location) =>
      Or.inl (Or.inl hlocation)
    cases hanswer : (w₁.response tools (pipeline.renderingCall extra root
      (pathOf (profilePlace root made)) object made)).outcome with
    | ok output =>
      rw [hanswer] at hfirst hsecond
      exact ⟨_, _, _, ends_attemptReport_ok hfirst, ends_attemptReport_ok hsecond,
        honward.noted _ _⟩
    | error fault =>
      obtain ⟨failure, rfl⟩ := horderly _ _ _ _ hanswer
      rw [hanswer] at hfirst hsecond
      exact ⟨_, _, _, ends_attemptReport_error rfl hfirst, ends_attemptReport_error rfl hsecond,
        honward.noted _ _⟩
  · have hfault : (Fault.disk error).isItemFault = true := hitem
    exact ⟨_, _, _, ends_attemptReport_error hfault (ends_render_error hvacate),
      ends_attemptReport_error hfault (ends_render_error hvacate'), (h.noted _ _).onward⟩

/-- **A binary is reported alike** in both worlds. -/
theorem Alongside.reportOne (h : Alongside pipeline extra root past past' same w v)
    (hmerged : Merged root same group merged made) :
    Together (fun _ => Onward pipeline extra root past past' same)
      (pipeline.reportOne tools (pipeline.settings.reportArguments ++ extra) merged)
      (pipeline.reportOne tools (pipeline.settings.reportArguments ++ extra) merged) w v := by
  obtain ⟨apart, -, htwins⟩ := h.twins
  obtain ⟨hname, hprofile⟩ := hmerged.profile htwins.left.names
  have hplace : Placeable root merged.name.lossy made := hname ▸ hmerged.placeable
  unfold Pipeline.reportOne
  cases merged.status with
  | failed => exact Together.pure h.onward
  | merged =>
    refine together_note_bind (((h.noted _ _).findObject hroomy hplace).bind ?_)
    rintro found w₁ v₁ ⟨h₁, hfound⟩
    cases found with
    | some object =>
      dsimp only
      rw [reportObject_eq]
      refine (h₁.reportDirectory hroomy hplace).bind ?_
      rintro _ w₂ v₂ ⟨rfl, h₂, hstands, hstands'⟩
      exact h₂.attemptReport horderly hneat hrenders hgoes hroomy hmerged.placeable hmerged.same
        hprofile (hfound object rfl) hstands hstands'
    | none =>
      refine (h₁.stored hroomy fun hraw => absurd hraw (by decide)).bind ?_
      rintro _ w₂ v₂ ⟨-, h₂, -⟩
      refine (h₂.stored hroomy fun hraw => absurd hraw (by decide)).bind ?_
      rintro _ w₃ v₃ ⟨-, h₃, -⟩
      exact together_note_bind (Together.pure (h₃.noted _ _).onward)

/-- **All binaries are reported alike** in both worlds. -/
theorem Alongside.reportAll : ∀ {merges : List MergeOutcome} {same : Location → Prop} {w v : World},
    (∀ merged ∈ merges, ∃ group made, Merged root same group merged made) →
    Alongside pipeline extra root past past' same w v →
    Together (fun _ => Onward pipeline extra root past past' same)
      (merges.mapM (pipeline.reportOne tools (pipeline.settings.reportArguments ++ extra)))
      (merges.mapM (pipeline.reportOne tools (pipeline.settings.reportArguments ++ extra))) w v
  | [], _, _, _, _, h => Together.pure h.onward
  | merged :: rest, same, w, v, hmerges, h => by
      rw [List.forall_mem_cons] at hmerges
      obtain ⟨⟨group, made, hmerged⟩, hrest⟩ := hmerges
      rw [List.mapM_cons]
      refine (h.reportOne horderly hneat hrenders hgoes hroomy hmerged).bind ?_
      rintro outcome w₁ v₁ ⟨same₁, hmore, h₁⟩
      refine (Alongside.reportAll (fun other hother => ?_) h₁).bind fun outcomes w₂ v₂ h₂ => ?_
      · obtain ⟨group, made, hmerged⟩ := hrest other hother
        exact ⟨group, made, hmerged.placeable, hmerged.outcome, hmore _ hmerged.same⟩
      · exact Together.pure (h₂.mono hmore)

end Report

end WasmCoverage.Pipeline
