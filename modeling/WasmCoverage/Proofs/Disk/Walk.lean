import WasmCoverage.Disk.Basic
import WasmCoverage.Proofs.Path.Names
import WasmCoverage.Proofs.Runs

/-!
# Walks

A walk reads directories and links and nothing else.  **What a step does** is said once, by the
relation `Steps` and `step_eq_ok_iff`; what is shown about steps is shown by induction on it.  Two
facts about walks carry every later proof about the disk.

* **Walks are monotone** (`find_mono`): where one disk keeps every directory and link of another
  (`Keeps`), a path leads where it led.
* **Walks compose** (`find_child`): the way to an entry of a directory is the way to the
  directory and one step more.
-/

namespace WasmCoverage.Disk

/-! ## Disks that keep directories and links -/

/-- Every directory and every link stays. -/
structure Keeps (before after : Disk) : Prop where
  here : after.here = before.here
  directory : ∀ location, before.node? location = some .directory →
    after.node? location = some .directory
  link : ∀ location target, before.node? location = some (.link target) →
    after.node? location = some (.link target)

lemma Keeps.refl (disk : Disk) : Keeps disk disk :=
  ⟨rfl, fun _ h => h, fun _ _ h => h⟩

lemma Keeps.trans {a b c : Disk} (h : Keeps a b) (h' : Keeps b c) : Keeps a c :=
  ⟨h'.here.trans h.here, fun l hl => h'.directory l (h.directory l hl),
    fun l t hl => h'.link l t (h.link l t hl)⟩

/-- It is enough that whatever is not a file stays. -/
lemma keeps_of_kept {before after : Disk} (hhere : after.here = before.here)
    (hkept : ∀ location node, before.node? location = some node →
      (∀ data executable, node ≠ .file data executable) → after.node? location = some node) :
    Keeps before after :=
  ⟨hhere, fun location h => hkept location _ h (by simp),
    fun location _ h => hkept location _ h (by simp)⟩

instance : Std.Refl Keeps :=
  ⟨Keeps.refl⟩

instance : IsTrans Disk Keeps :=
  ⟨fun _ _ _ => Keeps.trans⟩

/-- There is no link at the location. -/
def NoLink (disk : Disk) (location : Location) : Prop :=
  ∀ target, disk.node? location ≠ some (.link target)

variable {disk disk' : Disk} {follow : Bool} {location reached : Location}

/-! ## Steps -/

/-- What a step does with one name, in a directory. -/
lemma step_cons (hdir : disk.node? location = some .directory) (name : String)
    (rest : List String) : disk.step follow location (name :: rest) =
      if name.utf8ByteSize > nameLimit then .error .nameTooLong
      else if name = ".." then disk.step follow location.tail rest
      else
        match disk.node? (name :: location) with
        | some (.link target) =>
          if rest.isEmpty && !follow then .ok (.arrived (name :: location))
          else .ok (.linked location target rest)
        | _ => disk.step follow (name :: location) rest := by
  rewrite [step, hdir]
  rfl

/-- A step begins in a directory. -/
lemma directory_of_step {name : String} {rest : List String} {walk : Walk}
    (h : disk.step follow location (name :: rest) = .ok walk) :
    disk.node? location = some .directory := by
  simp only [step] at h
  split at h
  · cases h
  · assumption
  · cases h

/-- How a step goes that ends well, name by name. -/
inductive Steps (disk : Disk) (follow : Bool) : Location → List String → Walk → Prop
  /-- No name is left. -/
  | done {location : Location} : Steps disk follow location [] (.arrived location)
  /-- Out to the directory around. -/
  | up {location : Location} {rest : List String} {walk : Walk}
      (hdir : disk.node? location = some .directory)
      (more : Steps disk follow location.tail rest walk) :
      Steps disk follow location (".." :: rest) walk
  /-- Down to a place without a link. -/
  | down {location : Location} {name : String} {rest : List String} {walk : Walk}
      (hdir : disk.node? location = some .directory) (hshort : name.utf8ByteSize ≤ nameLimit)
      (hup : name ≠ "..") (hlink : disk.NoLink (name :: location))
      (more : Steps disk follow (name :: location) rest walk) :
      Steps disk follow location (name :: rest) walk
  /-- To a link that is the last name and is not followed. -/
  | stop {location : Location} {name : String} {target : Path}
      (hdir : disk.node? location = some .directory) (hshort : name.utf8ByteSize ≤ nameLimit)
      (hup : name ≠ "..") (hlink : disk.node? (name :: location) = some (.link target))
      (hfollow : follow = false) :
      Steps disk follow location [name] (.arrived (name :: location))
  /-- To a link that is followed. -/
  | link {location : Location} {name : String} {rest : List String} {target : Path}
      (hdir : disk.node? location = some .directory) (hshort : name.utf8ByteSize ≤ nameLimit)
      (hup : name ≠ "..") (hlink : disk.node? (name :: location) = some (.link target))
      (hfollow : rest ≠ [] ∨ follow = true) :
      Steps disk follow location (name :: rest) (.linked location target rest)

lemma Steps.step_eq {names : List String} {walk : Walk}
    (h : disk.Steps follow location names walk) : disk.step follow location names = .ok walk := by
  induction h with
  | done => rfl
  | up hdir _ ih => rw [step_cons hdir, if_neg (by decide), if_pos rfl, ih]
  | @down location name rest _ hdir hshort hup hlink _ ih =>
      rw [step_cons hdir, if_neg (Nat.not_lt.2 hshort), if_neg hup]
      split
      · next target hthere => exact absurd hthere (hlink target)
      · exact ih
  | stop hdir hshort hup hlink hfollow =>
      rw [step_cons hdir, if_neg (Nat.not_lt.2 hshort), if_neg hup, hlink]
      simp [hfollow]
  | link hdir hshort hup hlink hfollow =>
      rw [step_cons hdir, if_neg (Nat.not_lt.2 hshort), if_neg hup, hlink]
      rcases hfollow with hmore | rfl
      · simp [hmore]
      · simp

lemma steps_of_step : ∀ {names : List String} {location : Location} {walk : Walk},
    disk.step follow location names = .ok walk → disk.Steps follow location names walk
  | [], location, walk, h => by
      obtain rfl : Walk.arrived location = walk := Except.ok.inj h
      exact .done
  | name :: rest, location, walk, h => by
      have hdir := directory_of_step h
      rw [step_cons hdir] at h
      split at h
      · cases h
      next hsize =>
        have hshort : name.utf8ByteSize ≤ nameLimit := Nat.not_lt.1 hsize
        split at h
        · next hup => exact hup ▸ .up hdir (steps_of_step h)
        · next hup =>
            split at h
            · next target hlink =>
                cases rest <;> cases follow <;> obtain rfl := Except.ok.inj h
                · exact .stop hdir hshort hup hlink rfl
                · exact .link hdir hshort hup hlink (Or.inr rfl)
                · exact .link hdir hshort hup hlink (Or.inl (List.cons_ne_nil _ _))
                · exact .link hdir hshort hup hlink (Or.inr rfl)
            · next hlink => exact .down hdir hshort hup hlink (steps_of_step h)

/-- **What a step does**: it ends well in one of these ways, or not at all. -/
theorem step_eq_ok_iff {names : List String} {walk : Walk} :
    disk.step follow location names = .ok walk ↔ disk.Steps follow location names walk :=
  ⟨steps_of_step, Steps.step_eq⟩

/-- A step with names begins in a directory. -/
lemma Steps.directory {name : String} {rest : List String} {walk : Walk}
    (h : disk.Steps follow location (name :: rest) walk) :
    disk.node? location = some .directory := by
  cases h <;> assumption

/-- What a walk does: it ends after one step, or that stops at a link and it goes on there. -/
lemma walk_succ_eq_ok_iff {spare : Nat} {names : List String} :
    disk.walk follow (spare + 1) location names = .ok reached ↔
      disk.Steps follow location names (.arrived reached) ∨ ∃ directory target rest,
        disk.Steps follow location names (.linked directory target rest) ∧
          disk.walk follow spare (if target.isAbsolute then [] else directory)
            (target.names ++ rest) = .ok reached := by
  refine bind_eq_ok_iff.trans ⟨?_, ?_⟩
  · rintro ⟨place | ⟨directory, target, rest⟩, hstep, hrest⟩
    · obtain rfl : place = reached := Except.ok.inj hrest
      exact Or.inl (step_eq_ok_iff.1 hstep)
    · exact Or.inr ⟨directory, target, rest, step_eq_ok_iff.1 hstep, hrest⟩
  · rintro (hstep | ⟨directory, target, rest, hstep, hrest⟩)
    · exact ⟨_, hstep.step_eq, rfl⟩
    · exact ⟨_, hstep.step_eq, hrest⟩

/-- A step ends as before where directories and links are kept, unless a link is new where it
ends. -/
lemma Steps.mono (hkeeps : Keeps disk disk') {names : List String} {walk : Walk}
    (h : disk.Steps follow location names walk)
    (hend : ∀ reached, walk = .arrived reached → follow = true → disk'.NoLink reached) :
    disk'.Steps follow location names walk := by
  induction h with
  | done => exact .done
  | up hdir _ ih => exact .up (hkeeps.directory _ hdir) (ih hend)
  | @down location name rest _ hdir hshort hup _ more ih =>
      have hdir' := hkeeps.directory _ hdir
      by_cases hlink : disk'.NoLink (name :: location)
      · exact .down hdir' hshort hup hlink (ih hend)
      -- the link is new, so there was no directory, and this name is the last one
      · obtain ⟨target, hnew⟩ := not_forall_not.1 hlink
        cases rest with
        | nil =>
            cases more
            refine .stop hdir' hshort hup hnew ?_
            by_contra hfollow
            exact hlink (hend _ rfl (Bool.not_eq_false _ ▸ hfollow))
        | cons next others =>
            rw [hkeeps.directory _ more.directory] at hnew
            cases hnew
  | stop hdir hshort hup hlink hfollow =>
      exact .stop (hkeeps.directory _ hdir) hshort hup (hkeeps.link _ _ hlink) hfollow
  | link hdir hshort hup hlink hfollow =>
      exact .link (hkeeps.directory _ hdir) hshort hup (hkeeps.link _ _ hlink) hfollow

/-- A walk ends where it ended. -/
lemma walk_mono (hkeeps : Keeps disk disk') (hend : follow = true → disk'.NoLink reached) :
    ∀ {spare : Nat} {location : Location} {names : List String},
    disk.walk follow spare location names = .ok reached →
    disk'.walk follow spare location names = .ok reached
  | 0, _, _, h => by cases h
  | spare + 1, location, names, h => by
      rcases walk_succ_eq_ok_iff.1 h with hstep | ⟨directory, target, rest, hstep, hrest⟩
      · refine walk_succ_eq_ok_iff.2 (Or.inl (hstep.mono hkeeps fun place hplace => ?_))
        exact Walk.arrived.inj hplace ▸ hend
      · exact walk_succ_eq_ok_iff.2 (Or.inr ⟨directory, target, rest,
          hstep.mono hkeeps (fun _ hplace => by cases hplace), walk_mono hkeeps hend hrest⟩)

/-- A path leads where its names do, if its text is not too long. -/
lemma find_eq_ok_iff {path : Path} : disk.find path follow = .ok reached ↔
    path.text.utf8ByteSize ≤ pathLimit ∧
      disk.walk follow (linkLimit + 1) (disk.start path.anchor) path.names = .ok reached := by
  unfold find
  split
  · next hlong => simp [Nat.not_le.2 hlong]
  · next hshort => simp [Nat.not_lt.1 hshort]

lemma start_of_keeps (hkeeps : Keeps disk disk') (anchor : Anchor) :
    disk'.start anchor = disk.start anchor := by
  cases anchor
  · exact hkeeps.here
  · rfl
  · rfl

/-- **A path leads where it led**, if every directory and every link is kept and no link is new at
its end. -/
theorem find_mono (hkeeps : Keeps disk disk') {path : Path}
    (h : disk.find path follow = .ok reached) (hend : follow = true → disk'.NoLink reached) :
    disk'.find path follow = .ok reached := by
  obtain ⟨hlimit, hwalk⟩ := find_eq_ok_iff.1 h
  refine find_eq_ok_iff.2 ⟨hlimit, ?_⟩
  rw [start_of_keeps hkeeps]
  exact walk_mono hkeeps hend hwalk

/-! ## One name more -/

/-- The way through more names is the way through the first ones and on. -/
lemma Steps.append {rest names : List String} {walk : Walk} (hrest : rest ≠ []) :
    disk.Steps true location names walk → disk.step follow location (names ++ rest) =
      match walk with
      | .arrived reached => disk.step follow reached rest
      | .linked directory target others => .ok (.linked directory target (others ++ rest)) := by
  intro h
  induction h with
  | done => rfl
  | up hdir _ ih => rw [List.cons_append, step_cons hdir, if_neg (by decide), if_pos rfl, ih]
  | down hdir hshort hup hlink _ ih =>
      rw [List.cons_append, step_cons hdir, if_neg (Nat.not_lt.2 hshort), if_neg hup]
      split
      · next target hthere => exact absurd hthere (hlink target)
      · exact ih
  | stop _ _ _ _ hfollow => cases hfollow
  | @link location name others target hdir hshort hup hlink _ =>
      have hmore : others ++ rest ≠ [] := by simp [hrest]
      exact (Steps.link hdir hshort hup hlink (Or.inl hmore)).step_eq

lemma walk_append {rest : List String} (hrest : rest ≠ []) : ∀ {spare : Nat}
    {location : Location} {names : List String},
    disk.walk true spare location names = .ok reached → ∃ left,
      disk.walk follow spare location (names ++ rest) = disk.walk follow (left + 1) reached rest
  | 0, _, _, h => by cases h
  | spare + 1, location, names, h => by
      rcases walk_succ_eq_ok_iff.1 h with hstep | ⟨directory, target, others, hstep, hmore⟩
      · refine ⟨spare, ?_⟩
        rw [walk, walk, show disk.step follow location (names ++ rest) = _ from
          Steps.append hrest hstep]
      · obtain ⟨left, hleft⟩ := walk_append hrest hmore
        refine ⟨left, ?_⟩
        rw [← hleft, walk, show disk.step follow location (names ++ rest) = _ from
          Steps.append hrest hstep, List.append_assoc]
        rfl

/-- **The way to an entry of a directory** is the way to the directory and the name, unless the
text or the name is too long or the entry is a link that is followed. -/
theorem find_child {base : Path} {directory : Location} {name : String}
    (hbase : disk.find base true = .ok directory) (hdir : disk.node? directory = some .directory)
    (hname : Path.IsName name) (hlink : follow = true → disk.NoLink (name :: directory)) :
    disk.find (base.child name) follow =
      if (base.child name).text.utf8ByteSize > pathLimit ∨ name.utf8ByteSize > nameLimit then
        .error .nameTooLong
      else .ok (name :: directory) := by
  obtain ⟨left, hleft⟩ : ∃ left, disk.walk follow (linkLimit + 1) (disk.start base.anchor)
      (base.names ++ [name]) = disk.walk follow (left + 1) directory [name] :=
    walk_append (List.cons_ne_nil name []) (find_eq_ok_iff.1 hbase).2
  rw [find, show (base.child name).anchor = base.anchor by rw [Path.child_of_isName _ hname],
    show (base.child name).names = base.names ++ [name] by rw [Path.child_of_isName _ hname],
    hleft]
  have hlast : disk.walk follow (left + 1) directory [name] =
      if name.utf8ByteSize > nameLimit then .error .nameTooLong
      else .ok (name :: directory) := by
    rw [walk, step_cons hdir, if_neg hname.ne_up]
    split
    · rfl
    · split
      · next target hnode =>
          cases follow with
          | true => exact absurd hnode (hlink rfl target)
          | false => rfl
      · rfl
  rw [hlast]
  split
  · next hlong => rw [if_pos (Or.inl hlong)]
  · next hshort => simp only [hshort, false_or]

/-- A path to an entry of a directory leads to the entry, if it leads anywhere. -/
lemma eq_of_find_child {base : Path} {directory : Location} {name : String}
    (hbase : disk.find base true = .ok directory) (hdir : disk.node? directory = some .directory)
    (hname : Path.IsName name) (hlink : follow = true → disk.NoLink (name :: directory))
    (h : disk.find (base.child name) follow = .ok reached) : reached = name :: directory := by
  rw [find_child hbase hdir hname hlink] at h
  split at h
  · cases h
  · exact (Except.ok.inj h).symm

end WasmCoverage.Disk
