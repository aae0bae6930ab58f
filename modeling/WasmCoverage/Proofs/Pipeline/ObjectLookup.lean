import WasmCoverage.Proofs.Disk.Limits
import WasmCoverage.Proofs.Disk.Reordered
import WasmCoverage.Proofs.Pipeline.Lookup

/-!
# Which object is found

A directory has an object for a name if it has a file that ends in `.o` and whose stem has the key
of the name; a link to a file counts as that file, and a directory called `x.o` does not.  There may
be many, since dashes and underscores have one key.

A search of the directory finds one exactly if there is one (`ends_objectIn`), and it is the
`Best`: the one with that very name, or else the first in the order of names.  The whole search goes
to the objects of the store only if none is staged (**`findObject_exact`**).

The search asks about the path of the name itself before it lists anything.  If that path is too
long, it is refused though nothing could be there (`findObject_refused`,
`not_findObject_of_long_name`).
-/

namespace WasmCoverage.Pipeline

open WasmCoverage.Disk WasmCoverage.Workspace

variable {pipeline : Pipeline} {name entry : String} {directory staging objects : Path}
  {disk disk' : Disk} {w u w' : World}

/-! ## Objects of a directory -/

/-- The entry of a directory is an object for the name. -/
structure IsObjectFor (disk : Disk) (directory : Path) (name entry : String) : Prop where
  isName : Path.IsName entry
  suffix : hasSuffix objectSuffix entry = true
  file : disk.isFileAt (directory.child entry) = true
  key : Artifact.logicalKey (Path.stemOf entry) = Artifact.logicalKey name

/-- The entry is the object that the search prefers: the one with that very name, or else the
first in the order of names. -/
structure Best (disk : Disk) (directory : Path) (name entry : String) : Prop
    extends IsObjectFor disk directory name entry where
  preferred : entry = name ++ objectSuffix ∨
    disk.isFileAt (directory.child (name ++ objectSuffix)) = false ∧
      ∀ other, IsObjectFor disk directory name other → ¬ other < entry

/-- What the search of a directory finds. -/
def Finds (disk : Disk) (directory : Path) (name : String) : Option Path → Prop
  | none => ∀ entry, ¬ IsObjectFor disk directory name entry
  | some object => ∃ entry, Best disk directory name entry ∧ object = directory.child entry

/-- No path that the search of a directory asks about is too long. -/
structure Askable (disk : Disk) (directory : Path) (name : String) : Prop where
  exact : disk.find (directory.child (name ++ objectSuffix)) true ≠ .error .nameTooLong
  entry : ∀ location entry, disk.find directory true = .ok location →
    disk.node? (entry :: location) ≠ none → hasSuffix objectSuffix entry = true →
    disk.find (directory.child entry) true ≠ .error .nameTooLong

lemma isObjectFor_exact (hne : name ≠ "") (hslash : '/' ∉ name.toList)
    (hfile : disk.isFileAt (directory.child (name ++ objectSuffix)) = true) :
    IsObjectFor disk directory name (name ++ objectSuffix) :=
  ⟨isName_object hslash, by simp [hasSuffix], hfile, by rw [stemOf_object hne]⟩

/-! ## Listing a directory -/

/-- A file with a path through a directory is an entry of that directory. -/
lemma node?_of_isFileAt {location : Location} (hleads : disk.find directory true = .ok location)
    (hdir : disk.node? location = some .directory) (hname : Path.IsName entry)
    (hfile : disk.isFileAt (directory.child entry) = true) :
    disk.node? (entry :: location) ≠ none := by
  intro hnone
  simp only [isFileAt, Bool.and_eq_true, Option.isSome_iff_exists] at hfile
  obtain ⟨-, data, hcontent⟩ := hfile
  obtain ⟨reached, executable, hfind, hnode⟩ := content?_eq_some.1 hcontent
  obtain rfl := eq_of_find_child hleads hdir hname (fun _ target => by simp [hnone]) hfind
  rw [hnone] at hnode
  cases hnode

/-- The paths of the entries of a directory that end in the suffix of objects, in order. -/
def objectPaths (disk : Disk) (directory : Path) (location : Location) : List Path :=
  (Path.sort ((disk.children location).map fun entry => directory.child entry.1)).filter
    fun path => hasSuffix objectSuffix path.name

lemma mem_objectPaths (hnamed : disk.Named) (hdistinct : disk.Distinct) {location : Location}
    {path : Path} : path ∈ objectPaths disk directory location ↔ ∃ entry,
      disk.node? (entry :: location) ≠ none ∧ hasSuffix objectSuffix entry = true ∧
        path = directory.child entry := by
  rw [objectPaths, List.mem_filter, Path.sort, List.mem_mergeSort, List.mem_map]
  constructor
  · rintro ⟨⟨⟨entry, node⟩, hmem, rfl⟩, hsuffix⟩
    have hthere : disk.node? (entry :: location) ≠ none := by
      simp [(mem_children hdistinct).1 hmem]
    rw [Path.name_child _ (hnamed _ _ hthere)] at hsuffix
    exact ⟨entry, hthere, hsuffix, rfl⟩
  · rintro ⟨entry, hthere, hsuffix, rfl⟩
    obtain ⟨node, hnode⟩ := Option.ne_none_iff_exists'.1 hthere
    refine ⟨⟨(entry, node), (mem_children hdistinct).2 hnode, rfl⟩, ?_⟩
    rwa [Path.name_child _ (hnamed _ _ hthere)]

/-- Entries of a directory are in the order of their names. -/
lemma before_child {a b : String} (ha : Path.IsName a) (hb : Path.IsName b) :
    (directory.child a).before (directory.child b) = true ↔ ¬ b < a := by
  have hkey {name : String} (hname : Path.IsName name) :
      (directory.child name).sortKey = directory.sortKey ++ [name] := by
    rw [Path.child_of_isName _ hname, Path.sortKey, Path.sortKey]
    split <;> rfl
  rw [Path.before, Bool.not_eq_true', decide_eq_false_iff_not, hkey ha, hkey hb,
    append_lt_append_iff]

/-- **The files among the objects of a directory** are searched for one with the key of the name. -/
lemma ends_objectPaths {location : Location} (hclean : hasNul directory = false)
    (hleads : disk.find directory true = .ok location)
    (hdir : disk.node? location = some .directory) (hnamed : disk.Named)
    (hdistinct : disk.Distinct) (hask : Askable disk directory name) :
    Ends (do
      let entries ← entriesOf directory
      firstFile (fun object => Artifact.logicalKey object.stem = Artifact.logicalKey name)
        (entries.filter fun path => hasSuffix objectSuffix path.name)) disk
      (.ok (((objectPaths disk directory location).filter disk.isFileAt).find? fun object =>
        Artifact.logicalKey object.stem = Artifact.logicalKey name)) disk := by
  refine (ends_entriesOf_ok.2 ⟨location, ⟨hclean, hleads⟩, hdir, rfl, rfl⟩).bind ?_
  obtain ⟨found, hfirst⟩ := ends_firstFile_of_find
    (fun object => Artifact.logicalKey object.stem = Artifact.logicalKey name)
    (objectPaths disk directory location) fun path hpath => by
      obtain ⟨entry, hthere, hsuffix, rfl⟩ := (mem_objectPaths hnamed hdistinct).1 hpath
      exact hask.entry location entry hleads hthere hsuffix
  rwa [(ends_firstFile_ok hfirst).1] at hfirst

/-- **The files among the objects with the key of the name are the objects for it.** -/
lemma mem_objectFiles {location : Location} (hleads : disk.find directory true = .ok location)
    (hdir : disk.node? location = some .directory) (hnamed : disk.Named)
    (hdistinct : disk.Distinct) {path : Path} :
    (path ∈ (objectPaths disk directory location).filter disk.isFileAt ∧
      Artifact.logicalKey path.stem = Artifact.logicalKey name) ↔
      ∃ entry, IsObjectFor disk directory name entry ∧ path = directory.child entry := by
  rw [List.mem_filter, mem_objectPaths hnamed hdistinct]
  constructor
  · rintro ⟨⟨⟨entry, hthere, hsuffix, rfl⟩, hfile⟩, hkey⟩
    have hname := hnamed _ _ hthere
    rw [Path.stem, Path.name_child _ hname] at hkey
    exact ⟨entry, ⟨hname, hsuffix, hfile, hkey⟩, rfl⟩
  · rintro ⟨entry, h, rfl⟩
    refine ⟨⟨⟨entry, ?_, h.suffix, rfl⟩, h.file⟩, ?_⟩
    · exact node?_of_isFileAt hleads hdir h.isName h.file
    · rw [Path.stem, Path.name_child _ h.isName, h.key]

/-- **Among the objects of a directory, the first with the key of the name is found.** -/
lemma finds_objectPaths {location : Location} (hleads : disk.find directory true = .ok location)
    (hdir : disk.node? location = some .directory) (hnamed : disk.Named)
    (hdistinct : disk.Distinct)
    (hexact : disk.isFileAt (directory.child (name ++ objectSuffix)) = false) :
    Finds disk directory name (((objectPaths disk directory location).filter disk.isFileAt).find?
      fun object => Artifact.logicalKey object.stem = Artifact.logicalKey name) := by
  have hpath {entry : String} (h : IsObjectFor disk directory name entry) :=
    (mem_objectFiles hleads hdir hnamed hdistinct).2 ⟨entry, h, rfl⟩
  have hsorted : ((objectPaths disk directory location).filter disk.isFileAt).Pairwise
      fun a b => a.before b = true :=
    ((Path.pairwise_sort _).filter _).filter _
  cases hfind : ((objectPaths disk directory location).filter disk.isFileAt).find?
      fun object => Artifact.logicalKey object.stem = Artifact.logicalKey name with
  | none =>
    intro entry hentry
    obtain ⟨hthere, hkey⟩ := hpath hentry
    simpa [hkey] using List.find?_eq_none.1 hfind _ hthere
  | some object =>
    obtain ⟨hkey, earlier, later, hsplit, hearlier⟩ := List.find?_eq_some_iff_append.1 hfind
    obtain ⟨entry, hentry, rfl⟩ := (mem_objectFiles hleads hdir hnamed hdistinct).1
      ⟨List.mem_of_find?_eq_some hfind, by simpa using hkey⟩
    refine ⟨entry, ⟨hentry, Or.inr ⟨hexact, fun other hother => ?_⟩⟩, rfl⟩
    obtain ⟨hthere, hkey'⟩ := hpath hother
    rw [hsplit] at hthere hsorted
    rcases List.mem_append.1 hthere with hbefore | hbehind
    · simpa [hkey'] using hearlier _ hbefore
    rcases List.mem_cons.1 hbehind with hsame | hbehind
    · rw [Path.child_of_isName _ hother.isName, Path.child_of_isName _ hentry.isName] at hsame
      obtain rfl : other = entry := by simpa using hsame
      exact String.lt_irrefl _
    · have hle := List.rel_of_pairwise_cons (List.pairwise_append.1 hsorted).2.1 hbehind
      exact (before_child hentry.isName hother.isName).1 hle

/-! ## Searching a directory -/

/-- **The search of a directory** finds an object if there is one, and then the best. -/
theorem ends_objectIn (hne : name ≠ "") (hslash : '/' ∉ name.toList)
    (hclean : hasNul directory = false) (hthere : disk.HasDirectory directory)
    (hnamed : disk.Named) (hdistinct : disk.Distinct) (hask : Askable disk directory name) :
    ∃ found, Ends (objectIn name directory) disk (.ok found) disk ∧
      Finds disk directory name found := by
  obtain ⟨location, hleads, hdir⟩ := hthere
  have hexact := ends_isFile_of_find hask.exact
  cases hfile : disk.isFileAt (directory.child (name ++ objectSuffix)) with
  | true =>
    rw [hfile] at hexact
    exact ⟨_, hexact.bind (ends_pure.2 ⟨rfl, rfl⟩), _,
      ⟨isObjectFor_exact hne hslash hfile, Or.inl rfl⟩, rfl⟩
  | false =>
    rw [hfile] at hexact
    have hsearch := ends_objectPaths hclean hleads hdir hnamed hdistinct hask
    exact ⟨_, hexact.bind hsearch, finds_objectPaths hleads hdir hnamed hdistinct hfile⟩

/-- A search that asks about a path that is too long is refused. -/
lemma objectIn_refused (hclean : hasNul (directory.child (name ++ objectSuffix)) = false)
    (hlong : disk.find (directory.child (name ++ objectSuffix)) true = .error .nameTooLong) :
    Ends (objectIn name directory) disk (.error (.system (Cause.nameTooLong.about
      (directory.child (name ++ objectSuffix))))) disk := by
  have hasked : Ends (isFile (directory.child (name ++ objectSuffix))) disk (.error
      (.system (Cause.nameTooLong.about (directory.child (name ++ objectSuffix))))) disk := by
    unfold isFile leadsTo
    rw [if_neg (by simp [hclean])]
    refine (ends_get.2 ⟨rfl, rfl⟩).bind ?_
    rw [look_eq_tooLong.2 hlong]
    exact ends_refuse.2 ⟨rfl, rfl⟩
  exact hasked.bind_error

/-! ## Searching both stores -/

section Search

variable (hstaging : Ends (pipeline.workspace.store .staging) w (.ok staging) u)
  (hobjects : Ends (pipeline.workspace.store .objects) u (.ok objects) w')

include hstaging hobjects

/-- **Which object is found for a name.**  There is none exactly if neither store has one.  A
staged one goes before those of the object store, and of one store the best is taken. -/
theorem findObject_exact (hne : name ≠ "") (hslash : '/' ∉ name.toList)
    (hnamed : w'.disk.Named) (hdistinct : w'.disk.Distinct)
    (hask : ∀ directory ∈ [staging, objects], Askable w'.disk directory name) :
    ∃ found, Ends (pipeline.findObject name) w (.ok found) w' ∧
      (found = none ↔ ∀ directory ∈ [staging, objects], ∀ entry,
        ¬ IsObjectFor w'.disk directory name entry) ∧
      ∀ object, found = some object →
        (∃ entry, Best w'.disk staging name entry ∧ object = staging.child entry) ∨
        (∀ entry, ¬ IsObjectFor w'.disk staging name entry) ∧
          ∃ entry, Best w'.disk objects name entry ∧ object = objects.child entry := by
  rw [List.forall_mem_cons, List.forall_mem_singleton] at hask
  obtain ⟨hclean, hthere⟩ := hasDirectory_store hstaging
  obtain ⟨hclean', hthere'⟩ := hasDirectory_store hobjects
  have hgrows : Grows u.disk w'.disk := respects_store _ _ _ _ hobjects
  obtain ⟨first, hfirst, hfinds⟩ := ends_objectIn hne hslash hclean
    (hthere.keeps hgrows.keeps) hnamed hdistinct hask.1
  obtain ⟨second, hsecond, hfinds'⟩ := ends_objectIn hne hslash hclean' hthere' hnamed hdistinct
    hask.2
  have hsearch {directory : Path} {found : Option Path}
      (h : Ends (objectIn name directory) w'.disk (.ok found) w'.disk) :
      Ends (onDisk (objectIn name directory)) w' (.ok found) w' :=
    ends_onDisk_ok.2 ⟨_, h, rfl⟩
  cases first with
  | some object =>
    refine ⟨some object, hstaging.bind (hobjects.bind ((hsearch hfirst).bind
      (ends_pure.2 ⟨rfl, rfl⟩))), ?_, ?_⟩
    · obtain ⟨entry, hbest, -⟩ := hfinds
      exact iff_of_false (by simp) fun hall => hall staging (by simp) entry hbest.toIsObjectFor
    · rintro _ ⟨⟩
      exact Or.inl hfinds
  | none =>
    refine ⟨second, hstaging.bind (hobjects.bind ((hsearch hfirst).bind (hsearch hsecond))), ?_, ?_⟩
    · cases second with
      | none =>
        exact iff_of_true rfl (List.forall_mem_cons.2 ⟨hfinds, List.forall_mem_singleton.2 hfinds'⟩)
      | some object =>
        obtain ⟨entry, hbest, -⟩ := hfinds'
        exact iff_of_false (by simp) fun hall => hall objects (by simp) entry hbest.toIsObjectFor
    · rintro object rfl
      exact Or.inr ⟨hfinds, hfinds'⟩

/-- **Where the path of the name itself is too long** the search is refused, whatever is there. -/
theorem findObject_refused (hclean : hasNul (staging.child (name ++ objectSuffix)) = false)
    (hlong : w'.disk.find (staging.child (name ++ objectSuffix)) true = .error .nameTooLong) :
    Ends (pipeline.findObject name) w (.error (.disk (.system (Cause.nameTooLong.about
      (staging.child (name ++ objectSuffix)))))) w' := by
  have hsearch : Ends (onDisk (objectIn name staging)) w' (.error (.disk (.system
      (Cause.nameTooLong.about (staging.child (name ++ objectSuffix)))))) w' :=
    ends_onDisk.2 ⟨_, _, objectIn_refused hclean hlong, rfl, rfl⟩
  exact hstaging.bind (hobjects.bind hsearch.bind_error)

end Search

/-! ## Two searches -/

section Samples

/-- Entries of a directory that can all be asked about. -/
lemma askable_of_names (location : Location) (hdistinct : disk.Distinct)
    (hleads : disk.find directory true = .ok location)
    (hshort : ∀ entry ∈ (name ++ objectSuffix) :: disk.namesIn location,
      disk.find (directory.child entry) true ≠ .error .nameTooLong) :
    Askable disk directory name := by
  refine ⟨hshort _ List.mem_cons_self, fun place entry hplace hthere _ => ?_⟩
  obtain rfl : location = place := Except.ok.inj (hleads.symm.trans hplace)
  exact hshort entry (List.mem_cons_of_mem _ ((mem_namesIn hdistinct).2 hthere))

/-- A world with a directory that is called like an object, and an object with its key in the
store. -/
def crowdedWorld : World where
  disk :=
    { here := []
      entries := [(["w"], .directory), (["staging", "w"], .directory),
        (["a-b_c.o", "staging", "w"], .directory), (["objects", "w"], .directory),
        (["a_b-c.o", "objects", "w"], .file [] false)] }
  clock := ⟨2024, 5, 1, 0, 0, 0, 0⟩

theorem findObject_exact_crowded :
    Ends (profilePipeline.workspace.store .staging) crowdedWorld (.ok (pathOf ["staging", "w"]))
      crowdedWorld ∧
    Ends (profilePipeline.workspace.store .objects) crowdedWorld (.ok (pathOf ["objects", "w"]))
      crowdedWorld ∧
    "a-b_c" ≠ "" ∧ '/' ∉ "a-b_c".toList ∧ crowdedWorld.disk.Named ∧ crowdedWorld.disk.Distinct ∧
    (∀ directory ∈ [pathOf ["staging", "w"], pathOf ["objects", "w"]],
      Askable crowdedWorld.disk directory "a-b_c") ∧
    Ends (profilePipeline.findObject "a-b_c") crowdedWorld
      (.ok (some (pathOf ["a_b-c.o", "objects", "w"]))) crowdedWorld ∧
    (∀ entry, ¬ IsObjectFor crowdedWorld.disk (pathOf ["staging", "w"]) "a-b_c" entry) ∧
    Best crowdedWorld.disk (pathOf ["objects", "w"]) "a-b_c" "a_b-c.o" := by
  have hstaging : Ends (profilePipeline.workspace.store .staging) crowdedWorld
      (.ok (pathOf ["staging", "w"])) crowdedWorld := by
    decide +kernel
  have hobjects : Ends (profilePipeline.workspace.store .objects) crowdedWorld
      (.ok (pathOf ["objects", "w"])) crowdedWorld := by
    decide +kernel
  have hnamed : crowdedWorld.disk.Named := named_of_entries (by decide +kernel)
  have hdistinct : crowdedWorld.disk.Distinct := by decide +kernel
  have hask : ∀ directory ∈ [pathOf ["staging", "w"], pathOf ["objects", "w"]],
      Askable crowdedWorld.disk directory "a-b_c" := by
    rw [List.forall_mem_cons, List.forall_mem_singleton]
    exact ⟨askable_of_names ["staging", "w"] hdistinct (by decide +kernel) (by decide +kernel),
      askable_of_names ["objects", "w"] hdistinct (by decide +kernel) (by decide +kernel)⟩
  have hfound : Ends (profilePipeline.findObject "a-b_c") crowdedWorld
      (.ok (some (pathOf ["a_b-c.o", "objects", "w"]))) crowdedWorld := by
    decide +kernel
  obtain ⟨found, hend, -, hsome⟩ := findObject_exact hstaging hobjects (by decide) (by decide)
    hnamed hdistinct hask
  obtain rfl := Except.ok.inj (hend.unique hfound).1
  have hplace {entry : String} {store : Location} (hname : Path.IsName entry)
      (h : pathOf ["a_b-c.o", "objects", "w"] = (pathOf store).child entry) :
      "a_b-c.o" = entry ∧ ["objects", "w"] = store := by
    rw [child_pathOf _ hname] at h
    exact List.cons.inj (pathOf_inj h)
  refine ⟨hstaging, hobjects, by decide, by decide, hnamed, hdistinct, hask, hfound, ?_⟩
  rcases hsome _ rfl with ⟨entry, hbest, heq⟩ | ⟨hnone, entry, hbest, heq⟩
  · exact absurd (hplace hbest.isName heq).2 (by decide)
  · obtain ⟨rfl, -⟩ := hplace hbest.isName heq
    exact ⟨hnone, hbest⟩

/-- In an empty directory there is no object. -/
lemma not_isObjectFor_of_empty (location : Location)
    (hleads : disk.find directory true = .ok location)
    (hdir : disk.node? location = some .directory) (hdistinct : disk.Distinct)
    (hempty : disk.namesIn location = []) (entry : String) :
    ¬ IsObjectFor disk directory name entry := fun hobject => by
  have hthere := node?_of_isFileAt hleads hdir hobject.isName hobject.file
  rw [← mem_namesIn hdistinct, hempty] at hthere
  cases hthere

/-- A name that fits a file, but not with the suffix of objects. -/
def longObject : String := String.ofList (List.replicate 254 'a')

lemma isName_longObject : Path.IsName longObject :=
  Path.isName_replicate (by decide) (by decide) (by decide)

lemma longObject_tooLong : (longObject ++ objectSuffix).utf8ByteSize > nameLimit := by
  decide +kernel

/-- A world with two empty stores. -/
def bareWorld : World where
  disk :=
    { here := []
      entries := [(["w"], .directory), (["staging", "w"], .directory),
        (["objects", "w"], .directory)] }
  clock := ⟨2024, 5, 1, 0, 0, 0, 0⟩

/-- **Without any object there may be a failure** instead of nothing: the search asks about a file
whose name would be too long. -/
theorem not_findObject_of_long_name :
    longObject ≠ "" ∧ '/' ∉ longObject.toList ∧
    Ends (profilePipeline.workspace.store .staging) bareWorld (.ok (pathOf ["staging", "w"]))
      bareWorld ∧
    Ends (profilePipeline.workspace.store .objects) bareWorld (.ok (pathOf ["objects", "w"]))
      bareWorld ∧
    bareWorld.disk.Named ∧ bareWorld.disk.Distinct ∧
    (∀ directory ∈ [pathOf ["staging", "w"], pathOf ["objects", "w"]], ∀ entry,
      ¬ IsObjectFor bareWorld.disk directory longObject entry) ∧
    Ends (profilePipeline.findObject longObject) bareWorld (.error (.disk (.system
      (Cause.nameTooLong.about (pathOf [longObject ++ objectSuffix, "staging", "w"])))))
      bareWorld := by
  have hstaging : Ends (profilePipeline.workspace.store .staging) bareWorld
      (.ok (pathOf ["staging", "w"])) bareWorld := by
    decide +kernel
  have hobjects : Ends (profilePipeline.workspace.store .objects) bareWorld
      (.ok (pathOf ["objects", "w"])) bareWorld := by
    decide +kernel
  have hdistinct : bareWorld.disk.Distinct := by decide +kernel
  have hslash := isName_longObject.not_mem
  have hname := isName_object hslash
  have hclean : hasNul ((pathOf ["staging", "w"]).child (longObject ++ objectSuffix)) = false := by
    refine hasNul_child hname (by decide +kernel) ?_
    rw [String.toList_append, List.mem_append, not_or]
    exact ⟨Path.not_mem_replicate 254 (by decide), by decide⟩
  have hlong : bareWorld.disk.find ((pathOf ["staging", "w"]).child (longObject ++ objectSuffix))
      true = .error .nameTooLong := by
    have hleads : bareWorld.disk.find (pathOf ["staging", "w"]) true = .ok ["staging", "w"] := by
      decide +kernel
    rw [find_child hleads (by decide +kernel) hname fun _ => noLink_of_linkCount (by decide) _,
      if_pos (Or.inr longObject_tooLong)]
  have hrefused := findObject_refused hstaging hobjects hclean hlong
  rw [child_pathOf _ hname] at hrefused
  refine ⟨isName_longObject.1, hslash, hstaging, hobjects, named_of_entries (by decide +kernel),
    hdistinct, ?_, hrefused⟩
  rw [List.forall_mem_cons, List.forall_mem_singleton]
  exact ⟨not_isObjectFor_of_empty ["staging", "w"] (by decide +kernel) (by decide +kernel)
      hdistinct (by decide +kernel),
    not_isObjectFor_of_empty ["objects", "w"] (by decide +kernel) (by decide +kernel) hdistinct
      (by decide +kernel)⟩

end Samples

end WasmCoverage.Pipeline
