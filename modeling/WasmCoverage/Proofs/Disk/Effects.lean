import WasmCoverage.Disk.Operations
import WasmCoverage.Proofs.Disk.Walk

/-!
# What an operation does to the disk

Every operation is described twice: by what it answers where it succeeds, and by what it may have
changed, however it ends.

* **Reading** changes nothing (`Respects Eq`); `ends_read_ok` and `ends_leadsTo_true` say what is
  read.
* **Writing** changes one place, and only from nothing or a file to a file (`Refiles`), so that all
  paths lead where they led; what was written is read back (`content?_write`).
-/

namespace WasmCoverage.Disk

open WasmCoverage.Text

variable {disk disk' after : Disk} {path : Path} {location : Location} {data : Octets}

/-! ## Disks with other files -/

/-- There is nothing, or a file. -/
def Plain (node : Option Node) : Prop :=
  node = none ∨ ∃ data executable, node = some (.file data executable)

lemma Plain.ne_directory {node : Option Node} (h : Plain node) : node ≠ some .directory := by
  rcases h with rfl | ⟨data, executable, rfl⟩ <;> simp

lemma Plain.ne_link {node : Option Node} (h : Plain node) (target : Path) :
    node ≠ some (.link target) := by
  rcases h with rfl | ⟨data, executable, rfl⟩ <;> simp

lemma Plain.ne_nil (h : Plain (disk.node? location)) : location ≠ [] := by
  rintro rfl
  exact h.ne_directory (by simp [node?])

/-- Files have come, gone or changed at some of the places, and nothing else. -/
structure Refiles (places : Location → Prop) (before after : Disk) : Prop where
  here : after.here = before.here
  mounts : after.mounts = before.mounts
  node : ∀ location, after.node? location = before.node? location ∨
    (places location ∧ Plain (before.node? location) ∧ Plain (after.node? location))

variable {places others : Location → Prop}

instance : Std.Refl (Refiles places) :=
  ⟨fun _ => ⟨rfl, rfl, fun _ => Or.inl rfl⟩⟩

lemma Refiles.refl (places : Location → Prop) (disk : Disk) : Refiles places disk disk :=
  refl_of (Refiles places) disk

lemma Refiles.trans {a b c : Disk} (h : Refiles places a b) (h' : Refiles places b c) :
    Refiles places a c := by
  refine ⟨h'.here.trans h.here, h'.mounts.trans h.mounts, fun location => ?_⟩
  rcases h.node location with heq | ⟨hp, ha, hb⟩
  · rw [← heq]
    exact h'.node location
  · rcases h'.node location with heq' | ⟨-, -, hc⟩
    · rw [heq']
      exact Or.inr ⟨hp, ha, hb⟩
    · exact Or.inr ⟨hp, ha, hc⟩

instance : IsTrans Disk (Refiles places) :=
  ⟨fun _ _ _ => Refiles.trans⟩

lemma Refiles.symm (h : Refiles places disk disk') : Refiles places disk' disk := by
  refine ⟨h.here.symm, h.mounts.symm, fun location => ?_⟩
  rcases h.node location with heq | ⟨hp, hplain, hplain'⟩
  · exact Or.inl heq.symm
  · exact Or.inr ⟨hp, hplain', hplain⟩

/-- More places may be allowed. -/
lemma Refiles.mono (h : Refiles places disk disk')
    (hplaces : ∀ location, places location → others location) : Refiles others disk disk' :=
  ⟨h.here, h.mounts,
    fun location => (h.node location).imp_right fun hp => ⟨hplaces _ hp.1, hp.2⟩⟩

/-- Elsewhere everything is as before. -/
lemma Refiles.node?_eq (h : Refiles places disk disk') (hplace : ¬ places location) :
    disk'.node? location = disk.node? location :=
  (h.node location).resolve_right fun hp => hplace hp.1

lemma Refiles.keeps (h : Refiles places disk disk') : Keeps disk disk' := by
  refine ⟨h.here, fun location hdir => ?_, fun location target hlink => ?_⟩
  · rcases h.node location with heq | ⟨-, hplain, -⟩
    · rw [heq, hdir]
    · exact absurd hdir hplain.ne_directory
  · rcases h.node location with heq | ⟨-, hplain, -⟩
    · rw [heq, hlink]
    · exact absurd hlink (hplain.ne_link target)

/-- What was no link is none. -/
lemma Refiles.noLink (h : Refiles places disk disk') (hlink : disk.NoLink location) :
    disk'.NoLink location := by
  intro target heq
  rcases h.node location with hsame | ⟨-, -, hplain⟩
  · exact hlink target (hsame ▸ heq)
  · exact hplain.ne_link target heq

/-- **Paths lead where they led.** -/
lemma Refiles.find (h : Refiles places disk disk') {follow : Bool} {reached : Location}
    (hfind : disk.find path follow = .ok reached) (hlink : disk.NoLink reached) :
    disk'.find path follow = .ok reached :=
  find_mono h.keeps hfind fun _ => h.noLink hlink

/-! ## Disks without links -/

lemma mem_of_get? {key : Location} {node : Node} : ∀ {entries : List (Location × Node)},
    Table.get? key entries = some node → (key, node) ∈ entries
  | (k, v) :: rest, h => by
      rw [Table.get?] at h
      split at h
      · next heq =>
          obtain rfl := Option.some.inj h
          exact heq ▸ List.mem_cons_self
      · exact List.mem_cons_of_mem _ (mem_of_get? h)

/-- On a disk without links there is none anywhere. -/
lemma noLink_of_linkCount (h : disk.linkCount = 0) (location : Location) :
    disk.NoLink location := by
  intro target hnode
  rw [node?] at hnode
  split at hnode
  · cases hnode
  · have := List.countP_eq_zero.1 h _ (mem_of_get? hnode)
    simp at this

/-! ## Contents -/

/-- The octets of the file that a path leads to, if it leads to one. -/
def content? (disk : Disk) (path : Path) : Option Octets :=
  match disk.look path true with
  | .ok (.file data _) => some data
  | _ => none

lemma look_eq_ok {follow : Bool} {node : Node} : disk.look path follow = .ok node ↔
    ∃ location, disk.find path follow = .ok location ∧ disk.node? location = some node := by
  rw [look, bind_eq_ok_iff]
  refine exists_congr fun location => and_congr_right fun _ => ?_
  cases disk.node? location with
  | none => simp [throw, throwThe, MonadExceptOf.throw]
  | some node => simp [pure, Except.pure]

lemma content?_eq_some : disk.content? path = some data ↔ ∃ location executable,
    disk.find path true = .ok location ∧ disk.node? location = some (.file data executable) := by
  constructor
  · intro h
    unfold content? at h
    split at h
    · next executable hlook =>
        obtain ⟨location, hfind, hnode⟩ := look_eq_ok.1 hlook
        obtain rfl := Option.some.inj h
        exact ⟨location, executable, hfind, hnode⟩
    · cases h
  · rintro ⟨location, executable, hfind, hnode⟩
    rw [content?, look_eq_ok.2 ⟨location, hfind, hnode⟩]

lemma Refiles.content?_of_eq_some (h : Refiles places disk disk')
    (hplace : ∀ location, disk.find path true = .ok location → ¬ places location)
    (hcontent : disk.content? path = some data) : disk'.content? path = some data := by
  obtain ⟨location, executable, hfind, hnode⟩ := content?_eq_some.1 hcontent
  have hlink : disk.NoLink location := fun target => by simp [hnode]
  refine content?_eq_some.2 ⟨location, executable, h.find hfind hlink, ?_⟩
  rw [h.node?_eq (hplace location hfind), hnode]

/-- **The content of a file elsewhere is as before.** -/
theorem Refiles.content?_eq (h : Refiles places disk disk')
    (hplace : ∀ location, disk.find path true = .ok location → ¬ places location) :
    disk'.content? path = disk.content? path := by
  cases hcontent : disk.content? path with
  | some data => exact h.content?_of_eq_some hplace hcontent
  | none =>
      cases hcontent' : disk'.content? path with
      | none => rfl
      | some data =>
          obtain ⟨location, executable, hfind, hnode⟩ := content?_eq_some.1 hcontent'
          have hback : disk.find path true = .ok location :=
            h.symm.find hfind fun target => by simp [hnode]
          have hsame := h.node?_eq (hplace location hback)
          have : disk.content? path = some data :=
            content?_eq_some.2 ⟨location, executable, hback, hsame ▸ hnode⟩
          rw [hcontent] at this
          cases this

/-! ## Reading -/

lemma ends_refuse {α : Type} {cause : Cause} {r : Except Error α} :
    Ends (refuse cause path : Action α) disk r disk' ↔
      r = .error (.system (cause.about path)) ∧ disk' = disk :=
  ends_throw

/-- What a path leads to, as an action finds it. -/
def located (disk : Disk) (path : Path) (follow : Bool) : Except Error Location :=
  if hasNul path then .error .nullByte
  else (disk.find path follow).mapError fun cause => .system (cause.about path)

lemma ends_locate {follow : Bool} {r : Except Error Location} :
    Ends (locate path follow) disk r disk' ↔ r = disk.located path follow ∧ disk' = disk := by
  have hrun : Ends (locate path follow) disk (disk.located path follow) disk := by
    unfold locate located
    by_cases hnul : hasNul path = true
    · simp only [hnul, if_true]
      exact Ends.bind_error (ends_throw.2 ⟨rfl, rfl⟩)
    · simp only [hnul, Bool.false_eq_true, if_false]
      refine Ends.bind (ends_get.2 ⟨rfl, rfl⟩) ?_
      cases disk.find path follow with
      | ok location => exact ends_pure.2 ⟨rfl, rfl⟩
      | error cause => exact ends_refuse.2 ⟨rfl, rfl⟩
  constructor
  · intro h
    exact h.unique hrun
  · rintro ⟨rfl, rfl⟩
    exact hrun

lemma located_eq_ok {follow : Bool} : disk.located path follow = .ok location ↔
    hasNul path = false ∧ disk.find path follow = .ok location := by
  unfold located
  cases hasNul path <;> cases disk.find path follow <;> simp [Except.mapError]

lemma located_eq_error {follow : Bool} {error : Error} :
    disk.located path follow = .error error ↔ hasNul path = true ∧ error = .nullByte ∨
      hasNul path = false ∧ ∃ cause, disk.find path follow = .error cause ∧
        error = .system (cause.about path) := by
  unfold located
  cases hasNul path <;> cases disk.find path follow <;> simp [Except.mapError, eq_comm]

lemma ends_locate_ok {follow : Bool} : Ends (locate path follow) disk (.ok location) disk' ↔
    (hasNul path = false ∧ disk.find path follow = .ok location) ∧ disk' = disk := by
  rw [ends_locate, eq_comm, located_eq_ok]

/-- **What begins with a path** is refused there, or goes on where the path leads. -/
lemma ends_locate_bind {α : Type} {follow : Bool} {next : Location → Action α}
    {r : Except Error α} : Ends (locate path follow >>= next) disk r disk' ↔
      (∃ error, disk.located path follow = .error error ∧ r = .error error ∧ disk' = disk) ∨
        ∃ location, (hasNul path = false ∧ disk.find path follow = .ok location) ∧
          Ends (next location) disk r disk' := by
  rw [ends_bind, or_comm]
  refine or_congr (exists_congr fun error => ?_) (exists_congr fun location => ?_)
  · rw [ends_locate, eq_comm, and_right_comm, and_assoc]
  · simp only [ends_locate_ok]
    constructor
    · rintro ⟨t, ⟨hfind, rfl⟩, hnext⟩
      exact ⟨hfind, hnext⟩
    · rintro ⟨hfind, hnext⟩
      exact ⟨disk, ⟨hfind, rfl⟩, hnext⟩

/-- One that answers was not refused. -/
lemma ends_locate_bind_ok {α : Type} {follow : Bool} {next : Location → Action α} {a : α} :
    Ends (locate path follow >>= next) disk (.ok a) disk' ↔
      ∃ location, (hasNul path = false ∧ disk.find path follow = .ok location) ∧
        Ends (next location) disk (.ok a) disk' := by
  simp [ends_locate_bind]

lemma respects_locate (follow : Bool) : Respects Eq (locate path follow) :=
  fun _ _ _ h => (ends_locate.1 h).2.symm

/-- **A path leads to a node of a kind** exactly if looking there says so. -/
theorem ends_leadsTo_true {kind : Node → Bool} :
    Ends (leadsTo kind path) disk (.ok true) disk' ↔
      (hasNul path = false ∧ ∃ node, disk.look path true = .ok node ∧ kind node = true) ∧
        disk' = disk := by
  unfold leadsTo
  by_cases hnul : hasNul path = true
  · simp [hnul]
  · simp only [hnul, Bool.false_eq_true, if_false, ends_bind_ok, ends_get, Except.ok.injEq,
      and_assoc, exists_and_left, exists_eq_left]
    cases hlook : disk.look path true with
    | ok node => simp [@eq_comm _ true]
    | error cause => cases cause <;> simp [ends_refuse]

lemma respects_leadsTo (kind : Node → Bool) : Respects Eq (leadsTo kind path) := by
  unfold leadsTo
  split
  · exact Respects.pure _
  · refine Respects.get.bind fun before => ?_
    split
    · exact Respects.pure _
    · exact Respects.throw _
    · exact Respects.pure _

/-- The path leads to a directory. -/
def HasDirectory (disk : Disk) (path : Path) : Prop :=
  ∃ location, disk.find path true = .ok location ∧ disk.node? location = some .directory

lemma ends_isDirectory_true : Ends (isDirectory path) disk (.ok true) disk' ↔
    (hasNul path = false ∧ disk.HasDirectory path) ∧ disk' = disk := by
  simp [isDirectory, ends_leadsTo_true, HasDirectory, look_eq_ok]

lemma ends_isFile_true : Ends (isFile path) disk (.ok true) disk' ↔
    (hasNul path = false ∧ ∃ data, disk.content? path = some data) ∧ disk' = disk := by
  rw [isFile, ends_leadsTo_true]
  refine and_congr_left fun _ => and_congr_right fun _ => ?_
  simp only [look_eq_ok, content?_eq_some]
  constructor
  · rintro ⟨node, ⟨location, hfind, hnode⟩, hkind⟩
    cases node with
    | file data executable => exact ⟨data, location, executable, hfind, hnode⟩
    | directory | link => cases hkind
  · rintro ⟨data, location, executable, hfind, hnode⟩
    exact ⟨_, ⟨location, hfind, hnode⟩, rfl⟩

lemma ends_read_ok : Ends (read path) disk (.ok data) disk' ↔
    (hasNul path = false ∧ disk.content? path = some data) ∧ disk' = disk := by
  unfold read
  rw [ends_get_bind, ends_locate_bind_ok]
  constructor
  · rintro ⟨location, ⟨hnul, hfind⟩, hread⟩
    split at hread
    · next contents executable hnode =>
        obtain ⟨heq, rfl⟩ := ends_pure.1 hread
        obtain rfl := Except.ok.inj heq
        exact ⟨⟨hnul, content?_eq_some.2 ⟨location, executable, hfind, hnode⟩⟩, rfl⟩
    · cases (ends_refuse.1 hread).1
    · cases (ends_refuse.1 hread).1
  · rintro ⟨⟨hnul, hcontent⟩, rfl⟩
    obtain ⟨location, executable, hfind, hnode⟩ := content?_eq_some.1 hcontent
    refine ⟨location, ⟨hnul, hfind⟩, ?_⟩
    simp [hnode]

lemma respects_read : Respects Eq (read path) := by
  unfold read
  refine Respects.get.bind fun before => (respects_locate true).bind fun location => ?_
  split
  · exact Respects.pure _
  · exact Respects.throw _
  · exact Respects.throw _

/-! ## Writing -/

lemma node?_put (hlocation : location ≠ []) (node : Node) (other : Location) :
    (disk.put location node).node? other = if other = location then some node
      else disk.node? other := by
  split
  · next h => rw [h, node?_put_self _ _ hlocation]
  · next h => exact node?_put_of_ne _ _ h

/-- **What writing does.**  It fails and changes nothing, or it puts a file where the path leads,
in the place of nothing or a file. -/
theorem write_spec {r : Except Error Unit} (h : Ends (write path data) disk r disk') :
    ((∃ error, r = .error error) ∧ disk' = disk) ∨ (r = .ok () ∧ hasNul path = false ∧
      ∃ location executable, disk.find path true = .ok location ∧
        Plain (disk.node? location) ∧ disk' = disk.put location (.file data executable)) := by
  obtain ⟨error, -, rfl, rfl⟩ | ⟨location, ⟨hnul, hfind⟩, hrest⟩ := ends_locate_bind.1 h
  · exact Or.inl ⟨⟨error, rfl⟩, rfl⟩
  · have hput := ends_get_bind.1 hrest
    split at hput
    · next old executable hnode =>
        obtain ⟨rfl, rfl⟩ := ends_modify.1 hput
        exact Or.inr ⟨rfl, hnul, location, executable, hfind,
          Or.inr ⟨old, executable, hnode⟩, rfl⟩
    · obtain ⟨rfl, rfl⟩ := ends_refuse.1 hput
      exact Or.inl ⟨⟨_, rfl⟩, rfl⟩
    · next hnode =>
        obtain ⟨rfl, rfl⟩ := ends_modify.1 hput
        exact Or.inr ⟨rfl, hnul, location, false, hfind, Or.inl hnode, rfl⟩

/-- A file in the place of nothing or a file changes that place only. -/
lemma refiles_put (hplain : Plain (disk.node? location)) (data : Octets) (executable : Bool) :
    Refiles (· = location) disk (disk.put location (.file data executable)) := by
  refine ⟨rfl, rfl, fun other => ?_⟩
  rw [node?_put hplain.ne_nil]
  split
  · next h =>
      subst h
      exact Or.inr ⟨rfl, hplain, Or.inr ⟨data, executable, rfl⟩⟩
  · exact Or.inl rfl

lemma refiles_write {r : Except Error Unit} (h : Ends (write path data) disk r disk') :
    Refiles (fun location => disk.find path true = .ok location) disk disk' := by
  rcases write_spec h with ⟨-, rfl⟩ | ⟨-, -, location, executable, hfind, hplain, rfl⟩
  · exact Refiles.refl _ _
  · refine (refiles_put hplain data executable).mono fun other hother => ?_
    rw [hother, hfind]

/-- **What was written is read back.** -/
lemma content?_write (h : Ends (write path data) disk (.ok ()) disk') :
    disk'.content? path = some data := by
  have hrefiles := refiles_write h
  rcases write_spec h with ⟨⟨error, herror⟩, -⟩ | ⟨-, -, location, executable, hfind, hplain, rfl⟩
  · cases herror
  · refine content?_eq_some.2 ⟨location, executable, hrefiles.find hfind ?_, ?_⟩
    · exact fun target => hplain.ne_link target
    · exact node?_put_self _ _ hplain.ne_nil

/-- **Copying a file** fails and changes nothing, or it writes what was read. -/
theorem copyFile_spec {source target : Path} {r : Except Error Unit}
    (h : Ends (copyFile source target) disk r disk') :
    ((∃ error, r = .error error) ∧ disk' = disk) ∨
      ∃ data, disk.content? source = some data ∧ Ends (write target data) disk r disk' := by
  have hcopy : Ends (do write target (← read source)) disk r disk' →
      ((∃ error, r = .error error) ∧ disk' = disk) ∨
        ∃ data, disk.content? source = some data ∧ Ends (write target data) disk r disk' := by
    intro h
    rcases ends_bind.1 h with ⟨data, d, hread, hwrite⟩ | ⟨error, hread, rfl⟩
    · obtain ⟨⟨-, hcontent⟩, rfl⟩ := ends_read_ok.1 hread
      exact Or.inr ⟨data, hcontent, hwrite⟩
    · exact Or.inl ⟨⟨error, rfl⟩, (respects_read _ _ _ hread).symm⟩
  have hthrow (error : Error) {α : Type} {k : α → Action Unit}
      (h : Ends (throw error >>= k) disk r disk') : (∃ error, r = .error error) ∧ disk' = disk := by
    obtain ⟨rfl, rfl⟩ := ends_throw_bind.1 h
    exact ⟨⟨error, rfl⟩, rfl⟩
  rw [copyFile, ends_get_bind] at h
  by_cases hnul : (hasNul source || hasNul target) = true
  · simp only [hnul, if_true] at h
    exact Or.inl (hthrow _ h)
  · simp only [hnul, Bool.false_eq_true, if_false] at h
    split at h
    · split at h
      · exact Or.inl (hthrow _ h)
      · exact hcopy h
    · exact hcopy h

lemma refiles_copyFile {source target : Path} {r : Except Error Unit}
    (h : Ends (copyFile source target) disk r disk') :
    Refiles (fun location => disk.find target true = .ok location) disk disk' := by
  rcases copyFile_spec h with ⟨-, rfl⟩ | ⟨data, -, hwrite⟩
  · exact Refiles.refl _ _
  · exact refiles_write hwrite

/-- **A copy has the content of its source.** -/
lemma content?_copyFile {source target : Path}
    (h : Ends (copyFile source target) disk (.ok ()) disk') : ∃ data,
      disk.content? source = some data ∧ disk'.content? target = some data := by
  rcases copyFile_spec h with ⟨⟨error, herror⟩, -⟩ | ⟨data, hcontent, hwrite⟩
  · cases herror
  · exact ⟨data, hcontent, content?_write hwrite⟩

end WasmCoverage.Disk
