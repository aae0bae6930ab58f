import WasmCoverage.Pipeline
import WasmCoverage.Proofs.Discovery
import WasmCoverage.Proofs.Disk.Directories
import WasmCoverage.Proofs.Tool.Compiler

/-!
# The staging area

Whatever becomes of a module in a finalization, it is written into the staging area under three
names: that of its IR, of its object and of its file.  The names of two modules meet only if the
modules have one stem (`Staged.name_eq`).

The area is a directory that no link stands in (`Disk.Area`).  It stays one, and nothing but files
under these names changes, at every step of a finalization and however it ends
(`respects_finalizeModule`).
-/

namespace WasmCoverage

open WasmCoverage.Text

/-! ## Names of staged files -/

namespace Module

variable {m other : Module} {name : String}

/-- The name is one that a module is staged under. -/
def Staged (m : Module) (name : String) : Prop :=
  name = m.name ++ irSuffix ∨ name = m.name ++ Pipeline.objectSuffix ∨ name = m.path.name

lemma Sound.not_mem_name (h : m.Sound) : '/' ∉ m.name.toList :=
  fun hmem => h.isName.not_mem (Path.mem_of_mem_stemOf hmem)

lemma Sound.lastChar? (h : m.Sound) : lastChar? m.path.name = some 'm' := by
  obtain ⟨front, hfront⟩ : moduleSuffix.toList <:+ m.path.name.toList := by
    simpa [Disk.hasSuffix] using h.suffix
  rw [WasmCoverage.lastChar?, ← hfront, List.getLast?_append]
  rfl

lemma lastChar?_ir (m : Module) : WasmCoverage.lastChar? (m.name ++ irSuffix) = some 'l' := by
  rw [lastChar?_append _ (by decide)]
  decide

lemma lastChar?_object (m : Module) :
    WasmCoverage.lastChar? (m.name ++ Pipeline.objectSuffix) = some 'o' := by
  rw [lastChar?_append _ (by decide)]
  decide

lemma Sound.isName_ir (h : m.Sound) : Path.IsName (m.name ++ irSuffix) := by
  refine Path.isName_of_lastChar? ?_ m.lastChar?_ir (by decide)
  rw [String.toList_append, List.mem_append, not_or]
  exact ⟨h.not_mem_name, by decide⟩

lemma Sound.isName_object (h : m.Sound) : Path.IsName (m.name ++ Pipeline.objectSuffix) := by
  refine Path.isName_of_lastChar? ?_ m.lastChar?_object (by decide)
  rw [String.toList_append, List.mem_append, not_or]
  exact ⟨h.not_mem_name, by decide⟩

/-- A module is staged under names of entries. -/
lemma Sound.isName_staged {name : String} (h : m.Sound) (hstaged : m.Staged name) :
    Path.IsName name := by
  rcases hstaged with rfl | rfl | rfl
  · exact h.isName_ir
  · exact h.isName_object
  · exact h.isName

lemma ir_ne_object (m other : Module) :
    m.name ++ irSuffix ≠ other.name ++ Pipeline.objectSuffix := by
  intro h
  have := congrArg WasmCoverage.lastChar? h
  rw [lastChar?_ir, lastChar?_object] at this
  exact absurd this (by decide)

lemma Sound.ir_ne_file (h : other.Sound) (m : Module) : m.name ++ irSuffix ≠ other.path.name := by
  intro heq
  have := congrArg WasmCoverage.lastChar? heq
  rw [lastChar?_ir, h.lastChar?] at this
  exact absurd this (by decide)

lemma Sound.object_ne_file (h : other.Sound) (m : Module) :
    m.name ++ Pipeline.objectSuffix ≠ other.path.name := by
  intro heq
  have := congrArg WasmCoverage.lastChar? heq
  rw [lastChar?_object, h.lastChar?] at this
  exact absurd this (by decide)

/-- **Modules that are staged under one name have one stem.** -/
theorem Staged.name_eq (hm : m.Sound) (hother : other.Sound) (h : m.Staged name)
    (h' : other.Staged name) : m.name = other.name := by
  rcases h with rfl | rfl | rfl
  · rcases h' with h' | h' | h'
    · exact (String.append_left_inj _).1 h'
    · exact absurd h' (ir_ne_object m other)
    · exact absurd h' (hother.ir_ne_file m)
  · rcases h' with h' | h' | h'
    · exact absurd h'.symm (ir_ne_object other m)
    · exact (String.append_left_inj _).1 h'
    · exact absurd h' (hother.object_ne_file m)
  · rcases h' with h' | h' | h'
    · exact absurd h'.symm (hm.ir_ne_file other)
    · exact absurd h'.symm (hm.object_ne_file other)
    · exact congrArg Path.stemOf h'

/-- The document about a finalization is no module's. -/
lemma Sound.not_staged_document (h : m.Sound) : ¬ m.Staged Pipeline.finalizeDocument := by
  have hlast : WasmCoverage.lastChar? Pipeline.finalizeDocument = some 'd' := by decide
  rintro (heq | heq | heq)
  · rw [heq, lastChar?_ir] at hlast
    exact absurd hlast (by decide)
  · rw [heq, lastChar?_object] at hlast
    exact absurd hlast (by decide)
  · rw [heq, h.lastChar?] at hlast
    exact absurd hlast (by decide)

end Module

/-! ## The area -/

namespace Disk

variable {disk disk' : Disk} {staging : Path} {area : Location} {name : String}
  {names others : String → Prop}

/-- The path leads to a directory, and no entry of the directory is a link. -/
structure Area (disk : Disk) (staging : Path) (area : Location) : Prop where
  noNul : hasNul staging = false
  leads : disk.find staging true = .ok area
  stands : disk.node? area = some .directory
  plain : ∀ name, disk.NoLink (name :: area)

/-- Files in the area have come, gone or changed under some of the names, and nothing else. -/
abbrev RefilesIn (area : Location) (names : String → Prop) (before after : Disk) : Prop :=
  Refiles (fun location => ∃ name, names name ∧ location = name :: area) before after

/-- An area stays one. -/
lemma Area.refiles {places : Location → Prop} (harea : disk.Area staging area)
    (h : Refiles places disk disk') : disk'.Area staging area where
  noNul := harea.noNul
  leads := h.find harea.leads fun target => by simp [harea.stands]
  stands := h.keeps.directory _ harea.stands
  plain name := h.noLink (harea.plain name)

/-- A path to an entry of an area leads there. -/
lemma Area.eq_of_find (harea : disk.Area staging area) (hname : Path.IsName name)
    {location : Location} (h : disk.find (staging.child name) true = .ok location) :
    location = name :: area :=
  eq_of_find_child harea.leads harea.stands hname (fun _ => harea.plain name) h

lemma Area.makeDirectories (harea : disk.Area staging area) :
    Ends (Disk.makeDirectories staging) disk (.ok ()) disk :=
  makeDirectories_of_hasDirectory harea.noNul ⟨area, harea.leads, harea.stands⟩

/-- The path leads to an entry of the area. -/
def LeadsInto (disk : Disk) (path : Path) (area : Location) : Prop :=
  ∃ name, disk.find path true = .ok (name :: area)

lemma Area.leadsInto {places : Location → Prop} {path : Path} (harea : disk.Area staging area)
    (h : Refiles places disk disk') (hpath : disk'.LeadsInto path area) :
    disk.LeadsInto path area := by
  obtain ⟨name, hfind⟩ := hpath
  exact ⟨name, h.symm.find hfind (h.noLink (harea.plain name))⟩

/-- A file outside of the area has the content that it had. -/
lemma RefilesIn.content?_outside {path : Path} (h : RefilesIn area names disk disk')
    (houtside : ¬ disk.LeadsInto path area) : disk'.content? path = disk.content? path := by
  refine h.content?_eq ?_
  rintro _ hfind ⟨name, -, rfl⟩
  exact houtside ⟨name, hfind⟩

/-- So has a file in the area under another name. -/
lemma RefilesIn.content?_child (h : RefilesIn area names disk disk')
    (harea : disk.Area staging area) (hname : Path.IsName name) (hnot : ¬ names name) :
    disk'.content? (staging.child name) = disk.content? (staging.child name) := by
  refine h.content?_eq ?_
  rintro location hfind ⟨other, hother, rfl⟩
  obtain ⟨rfl, -⟩ := List.cons.inj (harea.eq_of_find hname hfind)
  exact hnot hother

/-- In an area a run changes files under some of the names only. -/
def Restages (staging : Path) (area : Location) (names : String → Prop) (before after : Disk) :
    Prop :=
  before.Area staging area → RefilesIn area names before after

instance : Std.Refl (Restages staging area names) :=
  ⟨fun _ _ => Refiles.refl _ _⟩

instance : IsTrans Disk (Restages staging area names) :=
  ⟨fun _ _ _ h h' harea => (h harea).trans (h' (harea.refiles (h harea)))⟩

/-- More names may be allowed. -/
lemma Restages.mono (hnames : ∀ name, names name → others name)
    (h : Restages staging area names disk disk') : Restages staging area others disk disk' := by
  refine fun harea => (h harea).mono ?_
  rintro _ ⟨name, hname, rfl⟩
  exact ⟨name, hnames name hname, rfl⟩

/-- What changes a place that a path to an entry leads to changes that entry. -/
lemma Restages.of_refiles (hname : Path.IsName name) (hnames : names name)
    (h : Refiles (fun location => disk.find (staging.child name) true = .ok location) disk disk') :
    Restages staging area names disk disk' := by
  refine fun harea => h.mono fun location hfind => ?_
  exact ⟨name, hnames, harea.eq_of_find hname hfind⟩

lemma restages_write (hname : Path.IsName name) (hnames : names name) (data : Octets) :
    Respects (Restages staging area names) (write (staging.child name) data) :=
  fun _ _ _ h => Restages.of_refiles hname hnames (refiles_write h)

lemma restages_copyFile (hname : Path.IsName name) (hnames : names name) (source : Path) :
    Respects (Restages staging area names) (copyFile source (staging.child name)) :=
  fun _ _ _ h => Restages.of_refiles hname hnames (refiles_copyFile h)

lemma restages_makeDirectories :
    Respects (Restages staging area names) (makeDirectories staging) := by
  intro disk r disk' h harea
  obtain ⟨-, rfl⟩ := h.unique harea.makeDirectories
  exact Refiles.refl _ _

end Disk

/-! ## Finalizing one module -/

namespace Pipeline

open Disk

variable {pipeline : Pipeline} {tools : Toolbox} {objectOf : Octets → Octets} {staging : Path}
  {area : Location} {m : Module} {w w' : World} {names : String → Prop}

lemma respects_note {R : Disk → Disk → Prop} [Std.Refl R] (level : LogLevel) (message : String) :
    Respects (OnDisk R) (note level message) :=
  Respects.journal _ _ _

/-- What the steps for a module do to the disk respects the relation: files are written under the
names that the module is staged under, and the compiler is called for two of them. -/
structure Writes (pipeline : Pipeline) (tools : Toolbox) (staging : Path) (m : Module)
    (R : Disk → Disk → Prop) : Prop where
  make : Respects R (makeDirectories staging)
  write : ∀ name, m.Staged name → ∀ data, Respects R (write (staging.child name) data)
  compile : ∀ calls disk, R disk (tools.compilation pipeline.toolchain.clang
    pipeline.settings.build.targetTriple calls (staging.child (m.name ++ irSuffix))
      (staging.child (m.name ++ objectSuffix)) disk).disk

section Writes

variable {R : Disk → Disk → Prop} [Std.Refl R] [IsTrans Disk R]
  (hwrites : pipeline.Writes tools staging m R)

include hwrites

lemma Writes.neutralizeFile (hm : m.Sound) (ir : Path) :
    Respects (OnDisk R) (Ir.neutralizeFile ir (staging.child (m.name ++ irSuffix))) := by
  unfold Ir.neutralizeFile
  refine (respects_read.mono fun h => h ▸ refl_of R _).onDiskOr.bind fun octets => ?_
  split
  · exact Respects.throw _
  · refine Respects.bind (Respects.onDiskOr ?_) fun _ => Respects.pure _
    unfold Ir.writeWithDirectories
    rw [Path.parent_child _ hm.isName_ir]
    exact hwrites.make.bind fun _ => hwrites.write _ (Or.inl rfl) _

lemma Writes.compileObject (hm : m.Sound) :
    Respects (OnDisk R) (Tool.compile tools pipeline.toolchain.clang
      (staging.child (m.name ++ irSuffix)) (staging.child (m.name ++ objectSuffix))
      pipeline.settings.build.targetTriple) := by
  unfold Tool.compile
  rw [Path.parent_child _ hm.isName_object]
  refine hwrites.make.onDisk.bind fun _ => Respects.bind ?_ fun _ => Respects.pure _
  intro w r w' h
  obtain ⟨-, rfl⟩ := ends_call.1 h
  exact hwrites.compile w.calls w.disk

lemma Writes.stage (hm : m.Sound) (ir : Path) :
    Respects (OnDisk R) (pipeline.stage tools m.path ir (staging.child (m.name ++ irSuffix))
      (staging.child (m.name ++ objectSuffix)) (staging.child m.path.name)) := by
  have hcopy : Respects R (copyFile m.path (staging.child m.path.name)) := by
    intro disk r disk' h
    rcases copyFile_spec h with ⟨-, rfl⟩ | ⟨data, -, hwrite⟩
    · exact refl_of R _
    · exact hwrites.write _ (Or.inr (Or.inr rfl)) data _ _ _ hwrite
  unfold Pipeline.stage
  refine (hwrites.neutralizeFile hm ir).bind fun count => (respects_note _ _).bind fun _ => ?_
  exact (hwrites.compileObject hm).bind fun _ => hcopy.onDisk.bind fun _ => Respects.pure _

end Writes

lemma respects_failedOutcome (m : Module) (stagedIr : Path) (fault : Fault) :
    Respects (OnDisk Eq) (failedOutcome m stagedIr fault) :=
  (respects_note _ _).bind fun _ => (respects_leadsTo _).onDisk.bind fun _ => Respects.pure _

/-- The outcome of a module that was processed. -/
def processedOutcome (staging : Path) (m : Module) (count : Nat) : ArtifactOutcome :=
  { name := m.name, modulePath := m.path.text, status := .processed,
    irPath := some (staging.child (m.name ++ irSuffix)).text,
    objectPath := some (staging.child (m.name ++ objectSuffix)).text, neutralized := count }

/-- A module is staged, or its failure is recorded. -/
lemma processModule_eq (ir : Path) : pipeline.processModule tools staging m ir =
    tryCatch (do
        let count ← pipeline.stage tools m.path ir (staging.child (m.name ++ irSuffix))
          (staging.child (m.name ++ objectSuffix)) (staging.child m.path.name)
        return processedOutcome staging m count)
      fun fault => if fault.isItemFault then
          failedOutcome m (staging.child (m.name ++ irSuffix)) fault
        else throw fault := by
  unfold processModule
  refine tryCatch_early ?_ fun fault => ?_
  · rw [bind_assoc]
    rfl
  · split
    · rw [bind_assoc]
      simp [settled]
    · simp

/-- The outcome of a module without IR. -/
def missingOutcome (m : Module) : ArtifactOutcome :=
  { name := m.name, modulePath := m.path.text, status := .irMissing,
    message := m.complaint?.getD "" }

/-- **A module that has IR does nothing to the disk but what its steps do**, and one that has none
does nothing. -/
theorem respects_finalizeModule {R : Disk → Disk → Prop} [Std.Refl R] [IsTrans Disk R]
    (hm : m.Sound) (hwrites : m.ir? ≠ none → pipeline.Writes tools staging m R) :
    Respects (OnDisk R) (pipeline.finalizeModule tools staging m) := by
  unfold finalizeModule
  refine (respects_note _ _).bind fun _ => ?_
  cases hir : m.ir? with
  | none => exact (respects_note _ _).bind fun _ => Respects.pure _
  | some ir =>
      simp only [processModule_eq]
      refine (((hwrites (by simp [hir])).stage hm ir).bind fun _ => Respects.pure _).tryCatch
        fun fault => ?_
      split
      · refine (respects_failedOutcome _ _ _).mono fun {a b} (h : a.disk = b.disk) => ?_
        exact (show R a.disk b.disk from h ▸ refl_of R _)
      · exact Respects.throw _

lemma restages_writes (hm : m.Sound) (hstaging : staging.Proper)
    (htools : tools.Emits pipeline.toolchain.clang pipeline.settings.build.targetTriple)
    (hnames : ∀ name, m.Staged name → names name) :
    pipeline.Writes tools staging m (Restages staging area names) where
  make := restages_makeDirectories
  write name hname data := restages_write (hm.isName_staged hname) (hnames name hname) data
  compile _ _ := Restages.of_refiles hm.isName_object (hnames _ (Or.inr (Or.inl rfl)))
    (htools.stays _ _ _ _ (hstaging.child hm.isName_ir) (hstaging.child hm.isName_object))

/-- In an area, a module that has IR changes the files it is staged under, and one that has none
changes nothing. -/
theorem restages_finalizeModule (hm : m.Sound) (hstaging : staging.Proper)
    (htools : tools.Emits pipeline.toolchain.clang pipeline.settings.build.targetTriple) :
    Respects (OnDisk (Restages staging area fun name => m.ir? ≠ none ∧ m.Staged name))
      (pipeline.finalizeModule tools staging m) :=
  respects_finalizeModule hm fun hir => restages_writes hm hstaging htools fun _ hname =>
    ⟨hir, hname⟩

/-! ## Outcomes -/

/-- How a module ends: it has no IR, or it was staged, or its failure was recorded. -/
theorem finalizeModule_spec {outcome : ArtifactOutcome}
    (h : Ends (pipeline.finalizeModule tools staging m) w (.ok outcome) w') :
    (m.ir? = none ∧ outcome = missingOutcome m) ∨ ∃ ir, m.ir? = some ir ∧
      ((∃ count before after, before.disk = w.disk ∧ after.disk = w'.disk ∧
          Ends (pipeline.stage tools m.path ir (staging.child (m.name ++ irSuffix))
            (staging.child (m.name ++ objectSuffix)) (staging.child m.path.name)) before
            (.ok count) after ∧ outcome = processedOutcome staging m count) ∨
        (outcome.name = m.name ∧ outcome.modulePath = m.path.text ∧ outcome.status = .failed)) := by
  obtain ⟨⟨⟩, t, hnote, hrest⟩ := ends_bind_ok.1 h
  have hdisk : w.disk = t.disk := respects_note (R := Eq) _ _ _ _ _ hnote
  cases hir : m.ir? with
  | none =>
      rw [hir] at hrest
      obtain ⟨⟨⟩, t', -, hlast⟩ := ends_bind_ok.1 hrest
      exact Or.inl ⟨rfl, Except.ok.inj (ends_pure.1 hlast).1⟩
  | some ir =>
      rw [hir] at hrest
      simp only [processModule_eq] at hrest
      refine Or.inr ⟨ir, rfl, ?_⟩
      rcases ends_tryCatch.1 hrest with ⟨o, hstage, ho⟩ | ⟨fault, t', -, hhandler⟩
      · obtain rfl := Except.ok.inj ho
        obtain ⟨count, t', hcount, hlast⟩ := ends_bind_ok.1 hstage
        obtain ⟨houtcome, rfl⟩ := ends_pure.1 hlast
        exact Or.inl ⟨count, t, w', hdisk.symm, rfl, hcount, Except.ok.inj houtcome⟩
      · split at hhandler
        · obtain ⟨⟨⟩, u, -, hrest'⟩ := ends_bind_ok.1 hhandler
          obtain ⟨there, u', -, hlast⟩ := ends_bind_ok.1 hrest'
          obtain rfl := Except.ok.inj (ends_pure.1 hlast).1
          exact Or.inr ⟨rfl, rfl, rfl⟩
        · cases (ends_throw.1 hhandler).1

/-! ## What is staged -/

lemma content?_neutralizeFile {source target : Path} {count : Nat}
    (h : Ends (Ir.neutralizeFile source target) w (.ok count) w') : ∃ data neutral,
      w.disk.content? source = some data ∧ Ir.neutralizeOctets data = .ok (neutral, count) ∧
        w'.disk.content? target = some neutral := by
  obtain ⟨data, t, hread, hrest⟩ := ends_bind_ok.1 h
  obtain ⟨disk, hoctets, rfl⟩ := ends_onDiskOr_ok.1 hread
  obtain ⟨⟨-, hcontent⟩, rfl⟩ := ends_read_ok.1 hoctets
  split at hrest
  · cases (ends_throw.1 hrest).1
  · next neutral n hneutral =>
      obtain ⟨⟨⟩, t, hwritten, hlast⟩ := ends_bind_ok.1 hrest
      obtain ⟨hcount, rfl⟩ := ends_pure.1 hlast
      obtain rfl := Except.ok.inj hcount
      obtain ⟨after, haction, rfl⟩ := ends_onDiskOr_ok.1 hwritten
      obtain ⟨⟨⟩, disk', -, hwrite⟩ := ends_bind_ok.1 haction
      exact ⟨data, neutral, hcontent, hneutral, content?_write hwrite⟩

/-- A compilation that succeeds leaves an object made of the IR, and everything else. -/
lemma content?_compile {neutral : Octets} {answer : Path} (harea : w.disk.Area staging area)
    (hm : m.Sound) (hstaging : staging.Proper)
    (htools : tools.Compiles pipeline.toolchain.clang pipeline.settings.build.targetTriple
      objectOf)
    (hir : w.disk.content? (staging.child (m.name ++ irSuffix)) = some neutral)
    (h : Ends (Tool.compile tools pipeline.toolchain.clang (staging.child (m.name ++ irSuffix))
      (staging.child (m.name ++ objectSuffix)) pipeline.settings.build.targetTriple) w
      (.ok answer) w') :
    w'.disk.content? (staging.child (m.name ++ objectSuffix)) = some (objectOf neutral) ∧
      RefilesIn area (· = m.name ++ objectSuffix) w.disk w'.disk := by
  obtain ⟨⟨⟩, t, hmade, hrest⟩ := ends_bind_ok.1 h
  obtain ⟨output, t', hcall, hlast⟩ := ends_bind_ok.1 hrest
  obtain ⟨-, rfl⟩ := ends_pure.1 hlast
  obtain ⟨disk, haction, rfl⟩ := ends_onDisk_ok.1 hmade
  rw [Path.parent_child _ hm.isName_object] at haction
  obtain ⟨-, rfl⟩ := haction.unique harea.makeDirectories
  obtain ⟨houtcome, rfl⟩ := ends_call.1 hcall
  have hproper := hstaging.child hm.isName_ir
  have hproper' := hstaging.child hm.isName_object
  refine ⟨htools.writes _ _ _ _ output _ hproper hproper' houtcome.symm hir, ?_⟩
  refine (htools.stays _ _ _ _ hproper hproper').mono fun location hfind => ?_
  exact ⟨_, rfl, harea.eq_of_find hm.isName_object hfind⟩

/-- **What is staged for a module is its own**: the neutralized IR, the object made of it, and a
copy of the module. -/
theorem content?_stage {ir : Path} {count : Nat} (harea : w.disk.Area staging area)
    (hm : m.Sound) (hstaging : staging.Proper)
    (htools : tools.Compiles pipeline.toolchain.clang pipeline.settings.build.targetTriple
      objectOf)
    (h : Ends (pipeline.stage tools m.path ir (staging.child (m.name ++ irSuffix))
      (staging.child (m.name ++ objectSuffix)) (staging.child m.path.name)) w (.ok count) w') :
    ∃ data neutral copied, w.disk.content? ir = some data ∧
      Ir.neutralizeOctets data = .ok (neutral, count) ∧
      w'.disk.content? (staging.child (m.name ++ irSuffix)) = some neutral ∧
      w'.disk.content? (staging.child (m.name ++ objectSuffix)) = some (objectOf neutral) ∧
      w'.disk.content? (staging.child m.path.name) = some copied ∧
      (¬ w.disk.LeadsInto m.path area → w.disk.content? m.path = some copied) := by
  obtain ⟨n, w₁, hneutralize, hrest⟩ := ends_bind_ok.1 h
  obtain ⟨⟨⟩, w₂, hnote, hrest⟩ := ends_bind_ok.1 hrest
  obtain ⟨_, w₃, hcompile, hrest⟩ := ends_bind_ok.1 hrest
  obtain ⟨⟨⟩, w₄, hcopy, hlast⟩ := ends_bind_ok.1 hrest
  obtain ⟨hcount, rfl⟩ := ends_pure.1 hlast
  obtain rfl := Except.ok.inj hcount
  obtain ⟨data, neutral, hdata, hneutral, hir⟩ := content?_neutralizeFile hneutralize
  have hnoted : w₁.disk = w₂.disk := respects_note (R := Eq) _ _ _ _ _ hnote
  rw [hnoted] at hir
  -- the area stays one, so each step writes where its path says
  have hrefiles₂ : RefilesIn area m.Staged w.disk w₂.disk := by
    rw [← hnoted]
    exact (restages_writes hm hstaging htools.toEmits fun _ => id).neutralizeFile hm ir _ _ _
      hneutralize harea
  have harea₂ : w₂.disk.Area staging area := harea.refiles hrefiles₂
  obtain ⟨hobject, hrefiles₃⟩ := content?_compile harea₂ hm hstaging htools hir hcompile
  have harea₃ : w₃.disk.Area staging area := harea₂.refiles hrefiles₃
  have hir₃ := (hrefiles₃.content?_child harea₂ hm.isName_ir (Module.ir_ne_object m m)).trans hir
  obtain ⟨disk, haction, rfl⟩ := ends_onDisk_ok.1 hcopy
  obtain ⟨copied, hsource, hcopied⟩ := content?_copyFile haction
  have hrestages : Respects (Restages staging area (· = m.path.name))
      (copyFile m.path (staging.child m.path.name)) := restages_copyFile hm.isName (by rfl) _
  have hrefiles₄ : RefilesIn area (· = m.path.name) w₃.disk disk :=
    hrestages _ _ _ haction harea₃
  refine ⟨data, neutral, copied, hdata, hneutral, ?_, ?_, hcopied, fun houtside => ?_⟩
  · exact (hrefiles₄.content?_child harea₃ hm.isName_ir (hm.ir_ne_file m)).trans hir₃
  · exact (hrefiles₄.content?_child harea₃ hm.isName_object (hm.object_ne_file m)).trans hobject
  · have hobjects : RefilesIn area m.Staged w₂.disk w₃.disk := by
      refine hrefiles₃.mono ?_
      rintro _ ⟨name, rfl, rfl⟩
      exact ⟨_, Or.inr (Or.inl rfl), rfl⟩
    have hrefiles : RefilesIn area m.Staged w.disk w₃.disk := hrefiles₂.trans hobjects
    exact (hrefiles.content?_outside houtside).symm.trans hsource

end Pipeline

end WasmCoverage
