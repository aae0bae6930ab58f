import Mathlib.Data.List.Lex
import Mathlib.Data.String.Basic
import WasmCoverage.Proofs.Artifact.Marker
import WasmCoverage.Proofs.Discovery
import WasmCoverage.Proofs.Disk.Contents
import WasmCoverage.Proofs.Disk.Links
import WasmCoverage.Proofs.Disk.Refusals

/-!
# Exactly the instrumented modules are found

Below a root without links, a search finds every file that is named as modules are, lies in a
module directory and has the marker among its octets, and nothing else: **`discover_exact`**.  The
modules come in the order of their paths, each once, and what is recorded of one depends on its own
file and the IR beside it.  A file that may not be opened is left out and noted in the journal.

The search asks for the module directory in every directory, for every entry of one that is named
as modules are, and for the IR of every module that it finds.  If one of these paths is longer than
the system allows there is no answer, and a module directory whose path is too long ends the search
even if it is not there (`discover_refused`).
-/

namespace WasmCoverage

open WasmCoverage.Text

namespace Disk

variable {disk : Disk} {root place directory : Location} {name : String} {data : Octets}

/-! ## Trees that can be searched -/

/-- A directory on a disk that is a tree, with nothing but directories and files below it, whose
names are as names can be. -/
structure Searchable (disk : Disk) (root : Location) : Prop where
  tree : disk.IsTree
  distinct : disk.Distinct
  stands : disk.node? root = some .directory
  names : ∀ place, root <:+ place → disk.node? place ≠ none →
    ∀ n ∈ place, Path.IsName n ∧ '\x00' ∉ n.toList
  noLink : ∀ place, root <:+ place → disk.NoLink place

/-- The location of the IR beside a file. -/
def irPlace (place : Location) : Location :=
  (Path.stemOf (place.headD "") ++ irSuffix) :: place.tail

/-- There is a module with these octets at the place: a file that is named as modules are, in a
module directory below the root. -/
def ModuleAt (disk : Disk) (root place : Location) (data : Octets) : Prop :=
  ∃ name directory executable, place = name :: moduleDirectory :: directory ∧ root <:+ directory ∧
    hasSuffix moduleSuffix name = true ∧ disk.node? place = some (.file data executable)

/-- What is recorded of a module: its path, and its IR if that is a file. -/
def recorded (disk : Disk) (place : Location) : Module :=
  ⟨pathOf place, if disk.holdsFile (irPlace place).tail ((irPlace place).headD "")
    then .found (pathOf (irPlace place)) else .missing (pathOf (irPlace place))⟩

lemma recorded_pairing (disk : Disk) (name : String) (directory : Location) :
    (disk.recorded (name :: directory)).pairing =
      if disk.holdsFile directory (Path.stemOf name ++ irSuffix)
      then .found (pathOf (irPlace (name :: directory)))
      else .missing (pathOf (irPlace (name :: directory))) :=
  rfl

/-- No path that a search of the root asks for, to find modules, is too long. -/
structure Nameable (disk : Disk) (root : Location) : Prop where
  base : ¬ TooLong root
  directory : ∀ directory, root <:+ directory → disk.node? directory = some .directory →
    ¬ TooLong (moduleDirectory :: directory)
  entry : ∀ name directory, root <:+ directory → hasSuffix moduleSuffix name = true →
    disk.node? (name :: moduleDirectory :: directory) ≠ none →
    ¬ TooLong (name :: moduleDirectory :: directory)

/-- Every name in a directory is an entry of it. -/
lemma Searchable.entry (h : disk.Searchable root) (hbelow : root <:+ directory)
    (hdir : disk.node? directory = some .directory) (hname : Path.IsName name)
    (hnul : '\x00' ∉ name.toList) : disk.Entry name directory := by
  have hnames := h.names directory hbelow (by simp [hdir])
  refine ⟨h.tree.stands hdir, List.forall_mem_cons.2 ⟨hname, fun n hn => (hnames n hn).1⟩, ?_,
    h.noLink _ (hbelow.trans (List.suffix_cons _ _))⟩
  exact hasNul_pathOf (List.forall_mem_cons.2 ⟨hnul, fun n hn => (hnames n hn).2⟩)

lemma Searchable.entry_of_there (h : disk.Searchable root) (hbelow : root <:+ directory)
    (hthere : disk.node? (name :: directory) ≠ none) : disk.Entry name directory := by
  have hname := h.names _ (hbelow.trans (List.suffix_cons _ _)) hthere name (List.mem_cons_self ..)
  exact h.entry hbelow (h.tree _ _ hthere) hname.1 hname.2

/-! ## Module files -/

lemma Searchable.mem_directoriesFrom (h : disk.Searchable root) :
    directory ∈ disk.directoriesFrom root ↔
      root <:+ directory ∧ disk.node? directory = some .directory := by
  rw [directoriesFrom, List.mem_cons, List.mem_filterMap]
  constructor
  · rintro (rfl | ⟨⟨location, node⟩, hmem, hentry⟩)
    · exact ⟨List.suffix_rfl, h.stands⟩
    · simp only [Option.ite_none_right_eq_some, Option.some.injEq] at hentry
      obtain ⟨⟨rfl, hroot, hbelow⟩, rfl⟩ := hentry
      have hne : location ≠ [] := fun heq => hroot (by simpa [heq] using hbelow)
      exact ⟨hbelow, (mem_entries h.distinct hne).1 hmem⟩
  · rintro ⟨hbelow, hdir⟩
    by_cases hroot : directory = root
    · exact Or.inl hroot
    · have hne : directory ≠ [] := fun heq => hroot (by simp_all)
      exact Or.inr ⟨(directory, .directory), (mem_entries h.distinct hne).2 hdir,
        by simp [hroot, hbelow]⟩

lemma Searchable.nodup_directoriesFrom (h : disk.Searchable root) :
    (disk.directoriesFrom root).Nodup := by
  rw [directoriesFrom, List.nodup_cons, List.mem_filterMap]
  constructor
  · rintro ⟨entry, -, hentry⟩
    simp only [Option.ite_none_right_eq_some, Option.some.injEq] at hentry
    exact hentry.1.2.1 hentry.2
  · have hentries : disk.entries.Nodup := by
      have := h.distinct
      rw [Distinct, Table.keys_eq_map] at this
      exact this.of_map _
    refine hentries.filterMap fun a b location ha hb => ?_
    simp only [Option.mem_def, Option.ite_none_right_eq_some, Option.some.injEq] at ha hb
    exact Prod.ext (ha.2.trans hb.2.symm) (ha.1.1.trans hb.1.1.symm)

/-- The places of the module files in the module directory of a directory. -/
def modulesBelow (disk : Disk) (directory : Location) : List Location :=
  (disk.filesIn (moduleDirectory :: directory) moduleSuffix).map
    (· :: moduleDirectory :: directory)

/-- The places of the module files below a root, in the order of their paths. -/
def modulePlaces (disk : Disk) (root : Location) : List Location :=
  ((disk.directoriesFrom root).flatMap disk.modulesBelow).mergeSort
    fun a b => (pathOf a).before (pathOf b)

lemma holdsFile_iff : disk.holdsFile directory name = true ↔
    ∃ data executable, disk.node? (name :: directory) = some (.file data executable) := by
  unfold holdsFile
  cases disk.node? (name :: directory) with
  | none => simp
  | some node => cases node <;> simp

theorem Searchable.mem_modulePlaces (h : disk.Searchable root) :
    place ∈ disk.modulePlaces root ↔ ∃ data, disk.ModuleAt root place data := by
  simp only [modulePlaces, List.mem_mergeSort, List.mem_flatMap, h.mem_directoriesFrom,
    modulesBelow, List.mem_map, filesIn, List.mem_filter, mem_namesIn h.distinct,
    Bool.and_eq_true, holdsFile_iff]
  constructor
  · rintro ⟨directory, ⟨hbelow, -⟩, name, ⟨-, hsuffix, data, executable, hnode⟩, rfl⟩
    exact ⟨data, name, directory, executable, rfl, hbelow, hsuffix, hnode⟩
  · rintro ⟨data, name, directory, executable, rfl, hbelow, hsuffix, hnode⟩
    have hdir := h.tree _ _ (show disk.node? (name :: moduleDirectory :: directory) ≠ none by
      simp [hnode])
    have hthere : disk.node? (moduleDirectory :: directory) ≠ none := by simp [hdir]
    exact ⟨directory, ⟨hbelow, h.tree _ _ hthere⟩, name,
      ⟨by simp [hnode], hsuffix, data, executable, hnode⟩, rfl⟩

lemma sortKey_pathOf (location : Location) :
    (pathOf location).sortKey = "/" :: location.reverse := by
  simp [Path.sortKey, pathOf, Anchor.text]

lemma Searchable.nodup_modulesBelow (h : disk.Searchable root) :
    ((disk.directoriesFrom root).flatMap disk.modulesBelow).Nodup := by
  rw [List.nodup_flatMap]
  refine ⟨fun directory _ => ?_, h.nodup_directoriesFrom.imp fun {a b} hne => ?_⟩
  · exact ((nodup_namesIn h.distinct _).filter _).map fun a b hab => (List.cons.inj hab).1
  · intro place ha hb
    obtain ⟨name, -, rfl⟩ := List.mem_map.1 ha
    obtain ⟨other, -, heq⟩ := List.mem_map.1 hb
    exact hne (List.cons.inj (List.cons.inj heq).2).2.symm

/-- **The module files are in the order of their paths, and each is there once.** -/
theorem Searchable.pairwise_modulePlaces (h : disk.Searchable root) :
    (disk.modulePlaces root).Pairwise fun a b => (pathOf a).sortKey < (pathOf b).sortKey := by
  have hsorted : (disk.modulePlaces root).Pairwise fun a b =>
      (pathOf a).before (pathOf b) = true := by
    refine List.pairwise_mergeSort (fun a b c => ?_) (fun a b => ?_) _
    · simpa [Path.before] using le_trans
    · simpa [Path.before] using le_total _ _
  have hnodup : (disk.modulePlaces root).Nodup :=
    (List.mergeSort_perm _ _).nodup_iff.2 h.nodup_modulesBelow
  refine (hsorted.and hnodup).imp ?_
  rintro a b ⟨hle, hne⟩
  have hkey : (pathOf a).sortKey ≠ (pathOf b).sortKey := by
    simpa [sortKey_pathOf] using hne
  exact lt_of_le_of_ne (by simpa [Path.before] using hle) hkey

/-! ## The candidates of a search -/

lemma isName_moduleDirectory : Path.IsName moduleDirectory := by
  decide

lemma Searchable.entry_moduleDirectory (h : disk.Searchable root) (hbelow : root <:+ directory)
    (hdir : disk.node? directory = some .directory) : disk.Entry moduleDirectory directory :=
  h.entry hbelow hdir isName_moduleDirectory (by decide)

/-- A module directory whose path is not too long is readable. -/
lemma Searchable.readable_moduleDirectory (h : disk.Searchable root) (hbelow : root <:+ directory)
    (hdeps : disk.node? (moduleDirectory :: directory) = some .directory)
    (hshort : ¬ TooLong (moduleDirectory :: directory)) :
    disk.Readable (moduleDirectory :: directory) := by
  have hdir : disk.node? directory = some .directory := h.tree _ _ (by rw [hdeps]; simp)
  have hentry := h.entry_moduleDirectory hbelow hdir
  exact ⟨hentry.clean, (find_at hentry true).trans (if_neg hshort), hdeps,
    fun name => h.entry_of_there (hbelow.trans (List.suffix_cons _ _))⟩

lemma Searchable.ends_modulesIn (h : disk.Searchable root) (hnameable : disk.Nameable root)
    (hbelow : root <:+ directory) (hdir : disk.node? directory = some .directory) :
    Ends (modulesIn ((pathOf directory).child moduleDirectory)) disk
      (.ok ((disk.modulesBelow directory).map pathOf)) disk := by
  have hentry := h.entry_moduleDirectory hbelow hdir
  have hshort := hnameable.directory directory hbelow hdir
  have hkind : Ends (isDirectory (pathOf (moduleDirectory :: directory))) disk _ disk :=
    ends_leadsTo_at hentry hshort _
  rw [child_pathOf _ isName_moduleDirectory]
  refine hkind.bind ?_
  by_cases hthere : disk.node? (moduleDirectory :: directory) = some .directory
  · have hfiles := ends_filesWithSuffix_at (h.readable_moduleDirectory hbelow hthere hshort)
      moduleSuffix fun name hname hsuffix => hnameable.entry name directory hbelow hsuffix hname
    rw [hthere, modulesBelow, List.map_map]
    exact hfiles
  · have hnone : disk.modulesBelow directory = [] := by
      rw [modulesBelow, List.map_eq_nil_iff, List.eq_nil_iff_forall_not_mem]
      intro name hname
      exact hthere (h.tree _ _ (node?_of_mem_namesIn (List.mem_filter.1 hname).1))
    have hother : (disk.node? (moduleDirectory :: directory)).any
        (fun node => decide (node = .directory)) = false := by
      cases hnode : disk.node? (moduleDirectory :: directory) with
      | none => rfl
      | some node => simpa [hnode] using hthere
    rw [hother, hnone]
    exact ends_pure.2 ⟨rfl, rfl⟩

lemma Searchable.ends_candidatesIn (h : disk.Searchable root) (hnameable : disk.Nameable root) :
    ∀ directories : List Location,
    (∀ directory ∈ directories, directory ∈ disk.directoriesFrom root) →
    Ends (candidatesIn directories) disk
      (.ok ((directories.flatMap disk.modulesBelow).map pathOf)) disk
  | [], _ => ends_pure.2 ⟨rfl, rfl⟩
  | directory :: rest, hdirectories => by
      rw [List.forall_mem_cons] at hdirectories
      obtain ⟨hbelow, hdir⟩ := h.mem_directoriesFrom.1 hdirectories.1
      refine (h.ends_modulesIn hnameable hbelow hdir).bind ?_
      exact (h.ends_candidatesIn hnameable rest hdirectories.2).bind (ends_pure.2 ⟨by simp, rfl⟩)

/-- The path of the root leads to it. -/
lemma Searchable.find_root (h : disk.Searchable root) (hshort : ¬ TooLong root) :
    hasNul (pathOf root) = false ∧ disk.find (pathOf root) true = .ok root := by
  cases root with
  | nil => exact ⟨rfl, rfl⟩
  | cons name directory =>
      have hthere : disk.node? (name :: directory) ≠ none := by simp [h.stands]
      have hnames := h.names _ List.suffix_rfl hthere
      have hentry : disk.Entry name directory :=
        ⟨h.tree.stands (h.tree _ _ hthere), fun n hn => (hnames n hn).1,
          hasNul_pathOf fun n hn => (hnames n hn).2, h.noLink _ List.suffix_rfl⟩
      exact ⟨hentry.clean, (find_at hentry true).trans (if_neg hshort)⟩

/-- **The candidates of a search are the module files.** -/
theorem Searchable.ends_candidates (h : disk.Searchable root) (hnameable : disk.Nameable root) :
    Ends (candidates (pathOf root)) disk (.ok ((disk.modulePlaces root).map pathOf)) disk := by
  refine ends_candidates_ok.2 ⟨root, _, h.find_root hnameable.base,
    h.ends_candidatesIn hnameable _ fun _ => id, ?_⟩
  exact List.map_mergeSort fun a _ b _ => rfl

lemma Searchable.module_of_mem (h : disk.Searchable root) (hnameable : disk.Nameable root)
    (hplace : place ∈ disk.modulePlaces root) :
    (∃ data, disk.ModuleAt root place data) ∧ ¬ TooLong place := by
  obtain ⟨data, hmodule⟩ := h.mem_modulePlaces.1 hplace
  refine ⟨⟨data, hmodule⟩, ?_⟩
  obtain ⟨name, directory, executable, rfl, hbelow, hsuffix, hnode⟩ := hmodule
  exact hnameable.entry name directory hbelow hsuffix (by simp [hnode])

end Disk

/-! ## What a search answers -/

open Disk

variable {w : World} {root : Location} {place : Location} {path : Path} {forbidden : Forbidden}
  {marker data : Octets}

/-- The note about a module that may not be opened. -/
def skipped (path : Path) : LogEntry :=
  ⟨.warning, .discovery, "Skipping unreadable module " ++ path.text ++ ": " ++
    (Fault.disk (.system (Cause.denied.about path))).message⟩

/-- A candidate that may not be opened is noted. -/
lemma ends_isInstrumented_forbidden (hmarker : marker ≠ []) (hforbidden : forbidden path = true) :
    Ends (isInstrumented forbidden marker path) w (.ok false)
      { w with journal := w.journal ++ [skipped path] } := by
  rw [isInstrumented_eq, if_neg hmarker]
  have hread : Ends (readCandidate forbidden path) w.disk
      (.error (.system (Cause.denied.about path))) w.disk := by
    unfold readCandidate
    rw [if_pos hforbidden]
    exact Ends.bind_error (ends_refuse.2 ⟨rfl, rfl⟩)
  refine Ends.catch_error (Ends.bind_error (ends_onDisk.2 ⟨_, _, hread, rfl, rfl⟩)) ?_
  exact Ends.bind (ends_modify.2 ⟨rfl, rfl⟩) (ends_pure.2 ⟨rfl, rfl⟩)

/-- Any other is searched for the marker. -/
lemma ends_isInstrumented_read (hmarker : marker ≠ []) (hforbidden : forbidden path = false)
    (hread : Ends (Disk.read path) w.disk (.ok data) w.disk) :
    Ends (isInstrumented forbidden marker path) w (.ok (occursIn marker data)) w := by
  rw [isInstrumented_eq, if_neg hmarker]
  have hcandidate : Ends (readCandidate forbidden path) w.disk (.ok data) w.disk := by
    unfold readCandidate
    rw [if_neg (by simp [hforbidden])]
    exact hread
  refine Ends.catch_ok (Ends.bind (ends_onDisk_ok.2 ⟨_, hcandidate, rfl⟩) (ends_pure.2 ⟨?_, rfl⟩))
  have hscan : Marker.scan marker (Marker.chunkLength marker Marker.defaultChunk - 1) [] data =
      occursIn marker data := by
    have htail : ([] : Octets).length < marker.length := List.length_pos_iff.2 hmarker
    rw [Bool.eq_iff_iff, Marker.scan_eq_true_iff htail, occursIn_iff, List.nil_append]
  rw [Marker.contains?, if_neg hmarker, hscan]
  rfl

lemma withSuffix?_pathOf (name : String) (directory : Location) :
    (pathOf (name :: directory)).withSuffix? irSuffix =
      some (pathOf (irPlace (name :: directory))) := by
  simp [Path.withSuffix?, Path.stem, name_pathOf, irPlace]
  simp [pathOf]

lemma isName_ir {name : String} (h : Path.IsName name) :
    Path.IsName (Path.stemOf name ++ irSuffix) := by
  have hlast : lastChar? (Path.stemOf name ++ irSuffix) = some 'l' := by
    rw [lastChar?_append _ (by decide)]
    decide
  refine Path.isName_of_lastChar? ?_ hlast (by decide)
  rw [String.toList_append, List.mem_append, not_or]
  exact ⟨fun hmem => h.not_mem (Path.mem_of_mem_stemOf hmem), by decide⟩

/-- The IR of a module is looked for at an entry of the module directory. -/
lemma Disk.Searchable.entry_ir {disk : Disk} {name : String} {directory : Location}
    (h : disk.Searchable root)
    (hplace : disk.ModuleAt root (name :: moduleDirectory :: directory) data) :
    disk.Entry (Path.stemOf name ++ irSuffix) (moduleDirectory :: directory) := by
  obtain ⟨_, _, executable, heq, hbelow, -, hnode⟩ := hplace
  obtain ⟨rfl, htail⟩ := List.cons.inj heq
  obtain rfl := (List.cons.inj htail).2
  have hthere : disk.node? (name :: moduleDirectory :: directory) ≠ none := by simp [hnode]
  have hwithin : root <:+ moduleDirectory :: directory := hbelow.trans (List.suffix_cons _ _)
  have hname := h.names _ (hwithin.trans (List.suffix_cons _ _)) hthere name (List.mem_cons_self ..)
  refine h.entry hwithin (h.tree _ _ hthere) (isName_ir hname.1) ?_
  rw [String.toList_append, List.mem_append, not_or]
  exact ⟨fun hmem => hname.2 (Path.mem_of_mem_stemOf hmem), by decide⟩

/-- The IR of a module is found exactly if it is a file. -/
lemma ends_pairing_at (h : w.disk.Searchable root) (hplace : w.disk.ModuleAt root place data)
    (hshort : ¬ TooLong (irPlace place)) :
    Ends (pairing (pathOf place)) w (.ok (w.disk.recorded place).pairing) w := by
  obtain ⟨name, directory, executable, rfl, -⟩ := id hplace
  have hfile := ends_isFile_at (h.entry_ir hplace) hshort
  unfold pairing
  rw [withSuffix?_pathOf]
  refine Ends.bind (ends_onDisk_ok.2 ⟨_, hfile, rfl⟩) ?_
  rw [recorded_pairing]
  by_cases hir : w.disk.holdsFile (moduleDirectory :: directory) (Path.stemOf name ++ irSuffix)
  · rw [if_pos hir, if_pos hir]
    exact ends_pure.2 ⟨rfl, rfl⟩
  · rw [if_neg hir, if_neg hir]
    exact ends_pure.2 ⟨rfl, rfl⟩

/-- The marker is in the file at the place. -/
def Disk.readsMarker (disk : Disk) (marker : Octets) (place : Location) : Bool :=
  match disk.node? place with
  | some (.file data _) => occursIn marker data
  | _ => false

/-- A module that may be opened is searched for the marker. -/
lemma ends_isInstrumented_at (h : w.disk.Searchable root) (hmarker : marker ≠ [])
    (hplace : w.disk.ModuleAt root place data) (hshort : ¬ TooLong place)
    (hforbidden : forbidden (pathOf place) = false) :
    Ends (isInstrumented forbidden marker (pathOf place)) w
      (.ok (w.disk.readsMarker marker place)) w := by
  obtain ⟨name, directory, executable, rfl, hbelow, -, hnode⟩ := hplace
  have hentry : w.disk.Entry name (moduleDirectory :: directory) :=
    h.entry_of_there (hbelow.trans (List.suffix_cons _ _)) (by simp [hnode])
  have hfind := (find_at hentry true).trans (if_neg hshort)
  have hread : Ends (Disk.read (pathOf (name :: moduleDirectory :: directory))) w.disk
      (.ok data) w.disk :=
    ends_read_ok.2 ⟨⟨hentry.clean, content?_eq_some.2 ⟨_, executable, hfind, hnode⟩⟩, rfl⟩
  have hmark : w.disk.readsMarker marker (name :: moduleDirectory :: directory) =
      occursIn marker data := by
    rw [readsMarker, hnode]
  rw [hmark]
  exact ends_isInstrumented_read hmarker hforbidden hread

/-- The places of modules that may be opened and have the marker. -/
def Disk.instrumented (disk : Disk) (forbidden : Forbidden) (marker : Octets)
    (places : List Location) : List Location :=
  places.filter fun place => !forbidden (pathOf place) && disk.readsMarker marker place

/-- The notes about the modules that may not be opened. -/
def notes (forbidden : Forbidden) (places : List Location) : List LogEntry :=
  (places.filter fun place => forbidden (pathOf place)).map fun place => skipped (pathOf place)

/-- **The modules among some files** are those that may be opened and have the marker; those that
may not be opened are noted. -/
theorem ends_modulesAmong (h : w.disk.Searchable root) (hmarker : marker ≠ []) :
    ∀ (places : List Location) (log : List LogEntry),
    (∀ place ∈ places, (∃ data, w.disk.ModuleAt root place data) ∧ ¬ TooLong place) →
    (∀ place ∈ w.disk.instrumented forbidden marker places, ¬ TooLong (irPlace place)) →
    Ends (modulesAmong forbidden marker (places.map pathOf)) { w with journal := log }
      (.ok ((w.disk.instrumented forbidden marker places).map w.disk.recorded))
      { w with journal := log ++ notes forbidden places }
  | [], log, _, _ => ends_pure.2 ⟨rfl, by simp [notes]⟩
  | place :: rest, log, hplaces, hir => by
      rw [List.forall_mem_cons] at hplaces
      obtain ⟨⟨⟨data, hplace⟩, hshort⟩, hrest⟩ := hplaces
      have ih (log : List LogEntry) := ends_modulesAmong h hmarker rest log hrest
      cases hforbidden : forbidden (pathOf place) with
      | true =>
          have hskip : w.disk.instrumented forbidden marker (place :: rest) =
              w.disk.instrumented forbidden marker rest := by
            simp [instrumented, hforbidden]
          rw [hskip] at hir ⊢
          refine Ends.bind (ends_isInstrumented_forbidden hmarker hforbidden) ?_
          have hlater := ih (log ++ [skipped (pathOf place)]) hir
          simpa [notes, hforbidden] using hlater
      | false =>
          have hmark := ends_isInstrumented_at (w := { w with journal := log }) h hmarker hplace
            hshort hforbidden
          have hnotes : notes forbidden (place :: rest) = notes forbidden rest := by
            simp [notes, hforbidden]
          refine Ends.bind hmark ?_
          rw [hnotes]
          by_cases hmarked : w.disk.readsMarker marker place
          · have hkeep : w.disk.instrumented forbidden marker (place :: rest) =
                place :: w.disk.instrumented forbidden marker rest := by
              simp [instrumented, hforbidden, hmarked]
            rw [hkeep, List.forall_mem_cons] at hir
            rw [if_pos hmarked, hkeep]
            have hpair := ends_pairing_at (w := { w with journal := log }) h hplace hir.1
            exact hpair.bind ((ih log hir.2).bind (ends_pure.2 ⟨rfl, rfl⟩))
          · have hskip : w.disk.instrumented forbidden marker (place :: rest) =
                w.disk.instrumented forbidden marker rest := by
              simp [instrumented, hforbidden, hmarked]
            rw [hskip] at hir ⊢
            rw [if_neg hmarked]
            exact ih log hir

/-! ## Exactness -/

/-- The octets at a place are those of one file. -/
lemma Disk.ModuleAt.readsMarker {disk : Disk} (h : disk.ModuleAt root place data) :
    disk.readsMarker marker place = true ↔ marker <:+: data := by
  obtain ⟨name, directory, executable, rfl, -, -, hnode⟩ := h
  rw [Disk.readsMarker, hnode, occursIn_iff]

lemma Disk.Searchable.mem_instrumented {disk : Disk} (h : disk.Searchable root) :
    place ∈ disk.instrumented forbidden marker (disk.modulePlaces root) ↔
      ∃ data, disk.ModuleAt root place data ∧ forbidden (pathOf place) = false ∧
        marker <:+: data := by
  rw [instrumented, List.mem_filter, h.mem_modulePlaces, Bool.and_eq_true, Bool.not_eq_true']
  constructor
  · rintro ⟨⟨data, hplace⟩, hallowed, hmark⟩
    exact ⟨data, hplace, hallowed, hplace.readsMarker.1 hmark⟩
  · rintro ⟨data, hplace, hallowed, hmark⟩
    exact ⟨⟨data, hplace⟩, hallowed, hplace.readsMarker.2 hmark⟩

/-- The root of a search is a directory, and its real path that of the place it leads to. -/
lemma Disk.Searchable.ends_resolve {disk : Disk} {path : Path} (h : disk.Searchable root)
    (hclean : hasNul path = false) (hpath : disk.find path true = .ok root) :
    (hasNul path = false ∧ disk.HasDirectory path) ∧
      Ends (resolve path) disk (.ok (pathOf root)) disk :=
  ⟨⟨hclean, root, hpath, h.stands⟩,
    ends_resolve_ok.2 ⟨⟨hclean, root, behindLinks_of_find hpath, rfl⟩, rfl⟩⟩

/-- **A search is exact.**  It answers with the modules below the root that may be opened and have
the marker, in the order of their paths and each once, and with what is recorded of them.  Those
that may not be opened are noted, in the order of their paths and each once. -/
theorem discover_exact (hclean : hasNul path = false) (hpath : w.disk.find path true = .ok root)
    (hsearchable : w.disk.Searchable root) (hmarker : marker ≠ [])
    (hnameable : w.disk.Nameable root)
    (hir : ∀ place data, w.disk.ModuleAt root place data → forbidden (pathOf place) = false →
      marker <:+: data → ¬ TooLong (irPlace place)) :
    ∃ (modules : List Module) (refused : List Path),
      Ends (discover path marker forbidden) w (.ok modules)
        { w with journal := w.journal ++ refused.map skipped } ∧
      modules.Pairwise (fun a b => a.path.sortKey < b.path.sortKey) ∧
      (∀ m, m ∈ modules ↔ ∃ place data, w.disk.ModuleAt root place data ∧
        forbidden (pathOf place) = false ∧ marker <:+: data ∧ m = w.disk.recorded place) ∧
      refused.Pairwise (fun a b => a.sortKey < b.sortKey) ∧
      ∀ other, other ∈ refused ↔ ∃ place data, w.disk.ModuleAt root place data ∧
        forbidden (pathOf place) = true ∧ other = pathOf place := by
  have hsorted := hsearchable.pairwise_modulePlaces
  have hinstrumented : ∀ place ∈ w.disk.instrumented forbidden marker (w.disk.modulePlaces root),
      ¬ TooLong (irPlace place) := by
    intro place hplace
    obtain ⟨data, hmodule, hallowed, hmark⟩ := hsearchable.mem_instrumented.1 hplace
    exact hir place data hmodule hallowed hmark
  obtain ⟨hdir, hresolve⟩ := hsearchable.ends_resolve hclean hpath
  refine ⟨(w.disk.instrumented forbidden marker (w.disk.modulePlaces root)).map w.disk.recorded,
    ((w.disk.modulePlaces root).filter fun place => forbidden (pathOf place)).map pathOf,
    ends_discover_ok.2 ⟨hdir, pathOf root, _, hresolve,
      hsearchable.ends_candidates hnameable, ?_⟩, List.pairwise_map.2 (hsorted.filter _),
    fun m => ?_, List.pairwise_map.2 (hsorted.filter _), fun other => ?_⟩
  · rw [List.map_map]
    exact ends_modulesAmong hsearchable hmarker _ w.journal
      (fun place => hsearchable.module_of_mem hnameable) hinstrumented
  · simp only [List.mem_map, hsearchable.mem_instrumented]
    constructor
    · rintro ⟨place, ⟨data, hplace, hallowed, hmark⟩, rfl⟩
      exact ⟨place, data, hplace, hallowed, hmark, rfl⟩
    · rintro ⟨place, data, hplace, hallowed, hmark, rfl⟩
      exact ⟨place, ⟨data, hplace, hallowed, hmark⟩, rfl⟩
  · simp only [List.mem_map, List.mem_filter, hsearchable.mem_modulePlaces]
    constructor
    · rintro ⟨place, ⟨⟨data, hplace⟩, hrefused⟩, rfl⟩
      exact ⟨place, data, hplace, hrefused, rfl⟩
    · rintro ⟨place, data, hplace, hrefused, rfl⟩
      exact ⟨place, ⟨⟨data, hplace⟩, hrefused⟩, rfl⟩

/-! ## Searches that are refused -/

namespace Disk

variable {disk disk' : Disk}

lemma refused_filesAmong : ∀ paths : List Path, FailsOnly Refused (filesAmong paths)
  | [] => FailsOnly.pure _
  | _ :: rest => (refused_leadsTo _).bind fun _ =>
      (refused_filesAmong rest).bind fun _ => FailsOnly.pure _

lemma refused_modulesIn (h : hasNul path = false) : FailsOnly Refused (modulesIn path) := by
  refine (refused_leadsTo _).bind fun found => ?_
  split
  · refine FailsOnly.bind ?_ fun _ => (refused_filesAmong _).bind fun _ => FailsOnly.pure _
    refine (refused_locate h true).bind fun location => FailsOnly.get.bind fun disk => ?_
    split
    · exact FailsOnly.pure _
    · exact refused_refuse
    · exact refused_refuse
  · exact FailsOnly.pure _

lemma refused_candidatesIn : ∀ {directories : List Location},
    (∀ directory ∈ directories, hasNul (pathOf directory) = false) →
    FailsOnly Refused (candidatesIn directories)
  | [], _ => FailsOnly.pure _
  | directory :: rest, h => by
      rw [List.forall_mem_cons] at h
      exact (refused_modulesIn (hasNul_child isName_moduleDirectory h.1 (by decide))).bind fun _ =>
        (refused_candidatesIn h.2).bind fun _ => FailsOnly.pure _

/-- A search that answers has looked into every module directory. -/
lemma ends_modulesIn_of_candidatesIn {directory : Location} : ∀ {directories : List Location}
    {files : List Path} {disk disk' : Disk},
    Ends (candidatesIn directories) disk (.ok files) disk' → directory ∈ directories →
    ∃ found, Ends (modulesIn ((pathOf directory).child moduleDirectory)) disk (.ok found) disk
  | first :: rest, files, disk, disk', h, hmem => by
      obtain ⟨found, d, hfound, hrest⟩ := ends_bind_ok.1 h
      obtain rfl := respects_modulesIn _ _ _ hfound
      obtain ⟨others, d', hothers, -⟩ := ends_bind_ok.1 hrest
      rcases List.mem_cons.1 hmem with rfl | hmem
      · exact ⟨found, hfound⟩
      · exact ends_modulesIn_of_candidatesIn hothers hmem

/-- **A module directory whose path is too long is asked for in vain.** -/
theorem Searchable.candidates_of_tooLong {directory : Location} (h : disk.Searchable root)
    (hbelow : root <:+ directory) (hdir : disk.node? directory = some .directory)
    (hlong : TooLong (moduleDirectory :: directory)) :
    ∃ error, Ends (candidates (pathOf root)) disk (.error error) disk ∧ error.isRefusal = true := by
  have hnames := h.names root List.suffix_rfl (by simp [h.stands])
  have hnul (place : Location) (hplace : place ∈ disk.directoriesFrom root) :
      hasNul (pathOf place) = false := by
    obtain ⟨hbelow, hdir⟩ := h.mem_directoriesFrom.1 hplace
    exact hasNul_pathOf fun n hn => (h.names place hbelow (by simp [hdir]) n hn).2
  have hreal : disk.Real root := h.tree.real h.stands fun n hn => (hnames n hn).1
  obtain ⟨result, after, hends⟩ := exists_ends (candidates (pathOf root)) disk
  obtain rfl := respects_candidates _ _ _ hends
  cases result with
  | ok files =>
      obtain ⟨location, found, ⟨-, hfind⟩, hfound, -⟩ := ends_candidates_ok.1 hends
      obtain rfl := hreal.eq_of_find hfind
      obtain ⟨others, hmodules⟩ :=
        ends_modulesIn_of_candidatesIn hfound (h.mem_directoriesFrom.2 ⟨hbelow, hdir⟩)
      obtain ⟨there, d, hthere, -⟩ := ends_bind_ok.1 hmodules
      have hkind := acts_leadsTo moduleDirectory directory (fun node => node = .directory) disk
        (h.entry_moduleDirectory hbelow hdir)
      unfold Effect.within at hkind
      rw [if_pos hlong] at hkind
      rw [child_pathOf _ isName_moduleDirectory] at hthere
      cases (hthere.unique hkind).1
  | error error =>
      refine ⟨error, hends, ?_⟩
      rcases ends_bind.1 hends with ⟨location, d, hlocate, hrest⟩ | ⟨e, hlocate, heq⟩
      · obtain ⟨⟨-, hfind⟩, rfl⟩ := ends_locate_ok.1 hlocate
        obtain rfl := hreal.eq_of_find hfind
        exact ((refused_candidatesIn hnul).bind fun found => FailsOnly.pure (Path.sort found))
          _ _ _ (ends_get_bind.1 hrest)
      · obtain rfl := Except.error.inj heq
        exact refused_locate (hnul root (h.mem_directoriesFrom.2 ⟨List.suffix_rfl, h.stands⟩)) _
          _ _ _ hlocate

end Disk

/-- **A search is refused** if the path of the module directory of a directory below the root would
be too long, though it need not be there. -/
theorem discover_refused {directory : Location} (hclean : hasNul path = false)
    (hpath : w.disk.find path true = .ok root) (hsearchable : w.disk.Searchable root)
    (hbelow : root <:+ directory) (hdir : w.disk.node? directory = some .directory)
    (hlong : TooLong (moduleDirectory :: directory)) :
    ∃ error, Ends (discover path marker forbidden) w
      (.error (.scan (.failed (pathOf root) error))) w := by
  obtain ⟨⟨-, hdirectory⟩, hresolve⟩ := hsearchable.ends_resolve hclean hpath
  obtain ⟨error, hcandidates, hrefusal⟩ := hsearchable.candidates_of_tooLong hbelow hdir hlong
  refine ⟨error, ?_⟩
  unfold discover
  have hthere := ends_isDirectory_true.2 ⟨⟨hclean, hdirectory⟩, rfl⟩
  refine Ends.bind (ends_onDisk_ok.2 ⟨_, hthere, rfl⟩) ?_
  rw [if_pos rfl]
  refine Ends.bind (ends_onDisk_ok.2 ⟨_, hresolve, rfl⟩) (Ends.bind_error ?_)
  exact ends_onDiskOr.2 ⟨_, _, hcandidates, by simp [Except.mapError, passedOn, hrefusal], rfl⟩

/-! ## Samples -/

/-- It is enough to look at the entries. -/
lemma Disk.searchable_of_entries {disk : Disk} (hroot : disk.node? root = some .directory)
    (hdistinct : disk.Distinct) (hlinks : ∀ place, root <:+ place → disk.NoLink place)
    (hentries : ∀ entry ∈ disk.entries, disk.node? entry.1.tail = some .directory ∧
      ∀ n ∈ entry.1, Path.IsName n ∧ '\x00' ∉ n.toList) : disk.Searchable root := by
  refine ⟨isTree_of_entries fun entry hentry => (hentries entry hentry).1, hdistinct, hroot,
    fun place _ hthere => ?_, hlinks⟩
  cases place with
  | nil => simp
  | cons name directory =>
      obtain ⟨node, hnode⟩ := Option.ne_none_iff_exists'.1 hthere
      exact (hentries _ ((mem_entries hdistinct (by simp)).2 hnode)).2

lemma Disk.nameable_of_entries {disk : Disk} (hdistinct : disk.Distinct) (hroot : ¬ TooLong root)
    (hne : root ≠ []) (hentries : ∀ entry ∈ disk.entries,
      ¬ TooLong entry.1 ∧ ¬ TooLong (moduleDirectory :: entry.1)) : disk.Nameable root := by
  refine ⟨hroot, fun directory hbelow hdir => ?_, fun name directory _ _ hthere => ?_⟩
  · have hdirectory : directory ≠ [] := fun heq => hne (by simpa [heq] using hbelow)
    exact (hentries _ ((mem_entries hdistinct hdirectory).2 hdir)).2
  · obtain ⟨node, hnode⟩ := Option.ne_none_iff_exists'.1 hthere
    exact (hentries _ ((mem_entries hdistinct (by simp)).2 hnode)).1

/-- A tree with modules that have the marker `M` and one that has not, a file that may not be
opened, a directory that is named as modules are, and module directories inside one another. -/
def sampleTree : Disk where
  entries :=
    let file (location : Location) (text : String) : Location × Node :=
      (location, .file (octetsOf text) false)
    let deps : Location := ["deps", "t"]
    [(["t"], .directory), file ["x.wasm", "t"] "M", (deps, .directory), file ("b.wasm" :: deps) "M",
      file ("a.b.wasm" :: deps) "xM", file ("a.b.ll" :: deps) "", file ("c.wasm" :: deps) "M",
      file ("d.wasm" :: deps) "x", ("e.wasm" :: deps, .directory), ("deps" :: deps, .directory),
      file (".wasm" :: "deps" :: deps) "M"]
  here := []

/-- The tree in a world. -/
def sampleTreeWorld : World where
  disk := sampleTree
  clock := ⟨2024, 5, 1, 0, 0, 0, 0⟩

lemma searchable_sampleTree : sampleTree.Searchable ["t"] :=
  searchable_of_entries rfl (by decide +kernel)
    (fun place _ => noLink_of_linkCount (by decide +kernel) place) (by decide +kernel)

lemma nameable_sampleTree : sampleTree.Nameable ["t"] :=
  nameable_of_entries (by decide +kernel) (by decide +kernel) (by decide) (by decide +kernel)

/-- The file of the tree that may not be opened. -/
def sampleForbidden : Forbidden :=
  fun path => path.name == "c.wasm"

lemma ir_sampleTree (place : Location) (data : Octets)
    (h : sampleTree.ModuleAt ["t"] place data) : ¬ TooLong (irPlace place) := by
  have hshort : ∀ entry ∈ sampleTree.entries, ¬ TooLong (irPlace entry.1) := by decide +kernel
  obtain ⟨name, directory, executable, rfl, -, -, hnode⟩ := h
  have hmem := (mem_entries searchable_sampleTree.distinct (by simp)).2 hnode
  exact hshort (name :: moduleDirectory :: directory, .file data executable) hmem

/-- So it is with the tree: a module is found with its IR, one whose name is all suffix without, and
the file that may not be opened is noted. -/
theorem discover_exact_sampleTree : sampleTree.Searchable ["t"] ∧ sampleTree.Nameable ["t"] ∧
    ∃ (modules : List Module) (refused : List Path),
      Ends (discover (pathOf ["t"]) [77] sampleForbidden) sampleTreeWorld (.ok modules)
        { sampleTreeWorld with journal := sampleTreeWorld.journal ++ refused.map skipped } ∧
      ⟨pathOf ["a.b.wasm", "deps", "t"], .found (pathOf ["a.b.ll", "deps", "t"])⟩ ∈ modules ∧
      ⟨pathOf [".wasm", "deps", "deps", "t"],
        .missing (pathOf [".wasm.ll", "deps", "deps", "t"])⟩ ∈ modules ∧
      pathOf ["c.wasm", "deps", "t"] ∈ refused := by
  have hfind : hasNul (pathOf ["t"]) = false ∧
      sampleTreeWorld.disk.find (pathOf ["t"]) true = .ok ["t"] :=
    searchable_sampleTree.find_root nameable_sampleTree.base
  obtain ⟨modules, refused, hends, -, hmodules, -, hrefused⟩ :=
    @discover_exact sampleTreeWorld ["t"] (pathOf ["t"]) sampleForbidden [77] hfind.1 hfind.2
      searchable_sampleTree (by decide) nameable_sampleTree
      fun place data hplace _ _ => ir_sampleTree place data hplace
  refine ⟨searchable_sampleTree, nameable_sampleTree, modules, refused, hends, ?_, ?_, ?_⟩
  · exact (hmodules _).2 ⟨["a.b.wasm", "deps", "t"], octetsOf "xM",
      ⟨"a.b.wasm", ["t"], false, rfl, List.suffix_rfl, by decide +kernel, by decide +kernel⟩,
      by decide +kernel, by decide +kernel, by decide +kernel⟩
  · exact (hmodules _).2 ⟨[".wasm", "deps", "deps", "t"], octetsOf "M",
      ⟨".wasm", ["deps", "t"], false, rfl, ⟨["deps"], rfl⟩, by decide +kernel, by decide +kernel⟩,
      by decide +kernel, by decide +kernel, by decide +kernel⟩
  · exact (hrefused _).2 ⟨["c.wasm", "deps", "t"], octetsOf "M",
      ⟨"c.wasm", ["t"], false, rfl, List.suffix_rfl, by decide +kernel, by decide +kernel⟩,
      by decide +kernel, by decide +kernel⟩

/-- A name as long as leaves room for 22 of them in a path, but not for a module directory then. -/
def deepName : String := String.ofList (List.replicate 185 'a')

/-- Directories inside one another, 22 deep, in a world. -/
def deepWorld : World where
  disk :=
    { entries := (List.range 22).map fun n => (List.replicate (n + 1) deepName, .directory)
      here := [] }
  clock := ⟨2024, 5, 1, 0, 0, 0, 0⟩

lemma searchable_deepWorld : deepWorld.disk.Searchable [deepName] := by
  have htree : ∀ entry ∈ deepWorld.disk.entries,
      deepWorld.disk.node? entry.1.tail = some .directory := by
    decide +kernel
  refine searchable_of_entries (by decide +kernel) (by decide +kernel)
    (fun place _ => noLink_of_linkCount (by decide +kernel) place)
    fun entry hentry => ⟨htree entry hentry, fun name hname => ?_⟩
  obtain ⟨n, -, rfl⟩ := List.mem_map.1 hentry
  obtain rfl := List.eq_of_mem_replicate hname
  exact ⟨Path.isName_replicate (by decide) (by decide) (by decide),
    Path.not_mem_replicate 185 (by decide)⟩

/-- There is no module in that world and no link, and yet there is no answer. -/
theorem not_discover_of_deep : ¬ ∀ (w : World) (path : Path) (root : Location) (marker : Octets)
    (forbidden : Forbidden), hasNul path = false → w.disk.find path true = .ok root →
    w.disk.Searchable root → marker ≠ [] →
    ∃ modules w', Ends (discover path marker forbidden) w (.ok modules) w' := by
  intro h
  obtain ⟨hclean, hfind⟩ := searchable_deepWorld.find_root (by decide +kernel)
  obtain ⟨modules, w', hmodules⟩ := h deepWorld (pathOf [deepName]) [deepName] [77]
    (fun _ => false) hclean hfind searchable_deepWorld (by decide)
  have hbelow : [deepName] <:+ List.replicate 22 deepName :=
    ⟨List.replicate 21 deepName, List.replicate_append_replicate (n := 21) (m := 1)⟩
  obtain ⟨error, hrefused⟩ := discover_refused hclean hfind searchable_deepWorld hbelow
    (by decide +kernel) (by decide +kernel)
  cases (hmodules.unique hrefused).1

end WasmCoverage
