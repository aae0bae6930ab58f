import WasmCoverage.Disk.Listing
import WasmCoverage.Proofs.Disk.Removal

/-!
# What an operation does to an entry

The path of an entry of a directory that stands leads to that entry, unless it is too long
(`find_at`).  So an operation on the path does no more than look at the node in that one place and
keep it, replace it or remove it: it has an `Effect`, and `ActsOn` says that the operation is what
its effect says.  Two disks with the same node in a place cannot be told apart there, whatever
else is on them.

Main statements: `acts_leadsTo`, `acts_makeDirectories`, `acts_create`, `acts_write`,
`acts_removeIfThere` and `ends_removeTree_at`, the effects of the operations.
-/

namespace WasmCoverage.Disk

open WasmCoverage.Text

variable {disk : Disk} {name : String} {directory : Location}

/-! ## Entries -/

/-- A place in a directory that stands, with a path of proper names and no link in it. -/
structure Entry (disk : Disk) (name : String) (directory : Location) : Prop where
  stands : disk.Stands directory
  names : ∀ n ∈ name :: directory, Path.IsName n
  clean : hasNul (pathOf (name :: directory)) = false
  noLink : disk.NoLink (name :: directory)

lemma node?_drop_self : (disk.drop (name :: directory)).node? (name :: directory) = none :=
  node?_drop_of_suffix disk (List.cons_ne_nil name directory) List.suffix_rfl

/-- An entry is one of the directory even without what was there. -/
lemma Entry.dropped (h : disk.Entry name directory) :
    (disk.drop (name :: directory)).Entry name directory where
  stands place hplace := by
    have habove : ¬name :: directory <:+ place := fun hsuffix =>
      absurd (hsuffix.trans hplace).length_le (by simp)
    rw [node?_drop_of_not_suffix disk habove, h.stands place hplace]
  names := h.names
  clean := h.clean
  noLink target := by simp [node?_drop_self]

/-- **The path of an entry leads to it**, unless it is too long. -/
theorem find_at (h : disk.Entry name directory) (follow : Bool) :
    disk.find (pathOf (name :: directory)) follow =
      if TooLong (name :: directory) then .error .nameTooLong else .ok (name :: directory) := by
  have hstep := @step_entry disk directory name follow h.stands h.names
  have hstart : disk.start (pathOf (name :: directory)).anchor = [] := rfl
  by_cases hlong : TooLong (name :: directory)
  · rw [if_pos hlong, find]
    rcases hlong with htext | hlong
    · rw [if_pos htext]
    · split
      · rfl
      · rw [hstart, walk, hstep, if_pos hlong]
        rfl
  · obtain ⟨htext, hshort⟩ := not_or.1 hlong
    have harrived : disk.step follow [] (pathOf (name :: directory)).names =
        .ok (.arrived (name :: directory)) := by
      rw [hstep, if_neg hshort]
      split
      · next target hlink => exact absurd hlink (h.noLink target)
      · rfl
    rw [if_neg hlong, find, if_neg htext, hstart, walk, harrived]
    rfl

/-- What is found at an entry. -/
lemma look_at (h : disk.Entry name directory) (follow : Bool) :
    disk.look (pathOf (name :: directory)) follow =
      if TooLong (name :: directory) then .error .nameTooLong
      else (disk.node? (name :: directory)).elim (.error .missing) .ok := by
  rw [look, find_at h]
  split
  · rfl
  · cases hnode : disk.node? (name :: directory) with
    | none => simp [bind, Except.bind, hnode, throw, throwThe, MonadExceptOf.throw]
    | some node => simp [bind, Except.bind, hnode, pure, Except.pure]

/-! ## Effects -/

/-- What becomes of an entry. -/
inductive Change where
  | keep
  | put (node : Node)
  | drop

/-- The disk after a change of one place. -/
def Change.on (change : Change) (location : Location) (disk : Disk) : Disk :=
  match change with
  | keep => disk
  | put node => disk.put location node
  | drop => disk.drop location

/-- What an operation makes of the node in a place: its answer, and what becomes of the entry. -/
abbrev Effect (α : Type) := Option Node → Except Error α × Change

/-- The refusal of a path that is too long. -/
def tooLong (location : Location) : Error :=
  .system (Cause.nameTooLong.about (pathOf location))

/-- An effect where the path of the place is not too long. -/
def Effect.within {α : Type} (location : Location) (effect : Effect α) : Effect α := fun node =>
  if TooLong location then (.error (tooLong location), .keep) else effect node

/-- The operation does to an entry what the effect says, unless the path is too long. -/
def ActsOn {α : Type} (name : String) (directory : Location) (effect : Effect α)
    (action : Action α) : Prop :=
  ∀ disk, disk.Entry name directory →
    Ends action disk (effect.within (name :: directory) (disk.node? (name :: directory))).1
      ((effect.within (name :: directory) (disk.node? (name :: directory))).2.on
        (name :: directory) disk)

/-- What such an operation did. -/
lemma ActsOn.ends {α : Type} {effect : Effect α} {action : Action α} {r : Except Error α}
    {disk' : Disk} (hacts : ActsOn name directory effect action)
    (hentry : disk.Entry name directory) (h : Ends action disk r disk') :
    (TooLong (name :: directory) ∧ r = .error (tooLong (name :: directory)) ∧ disk' = disk) ∨
      ¬ TooLong (name :: directory) ∧ r = (effect (disk.node? (name :: directory))).1 ∧
        disk' = (effect (disk.node? (name :: directory))).2.on (name :: directory) disk := by
  obtain ⟨rfl, rfl⟩ := h.unique (hacts disk hentry)
  unfold Effect.within
  split
  · next hlong => exact Or.inl ⟨hlong, rfl, rfl⟩
  · next hshort => exact Or.inr ⟨hshort, rfl, rfl⟩

/-- A refusal that leaves the entry as it is. -/
def refusal {α : Type} (cause : Cause) (location : Location) : Except Error α × Change :=
  (.error (.system (cause.about (pathOf location))), .keep)

/-- A directory is made where nothing is. -/
def making (location : Location) : Effect Unit
  | none => (.ok (), .put .directory)
  | some .directory => (.ok (), .keep)
  | some _ => refusal .present location

/-- A file is made where nothing is. -/
def creating (data : Octets) (location : Location) : Effect Unit
  | none => (.ok (), .put (.file data false))
  | some _ => refusal .present location

/-- A file is made where nothing is, and the data of one that is there is replaced. -/
def writing (data : Octets) (location : Location) : Effect Unit
  | none => (.ok (), .put (.file data false))
  | some (.file _ executable) => (.ok (), .put (.file data executable))
  | some _ => refusal .isDirectory location

/-- What is there is removed, unless it is a directory. -/
def discarding (location : Location) : Effect Unit
  | none => refusal .missing location
  | some .directory => refusal .isDirectory location
  | some _ => (.ok (), .drop)

/-- Whatever is there is removed, unless it is a directory. -/
def removing (location : Location) : Effect Unit
  | none => (.ok (), .keep)
  | some .directory => refusal .isDirectory location
  | some _ => (.ok (), .drop)

/-- A directory is removed with everything below it. -/
def clearing (location : Location) : Effect Unit
  | some .directory => (.ok (), .drop)
  | some (.file _ _) => (.error (.system ⟨Cause.notDirectory.code, Cause.notDirectory.text,
      some (pathValue (pathOf location))⟩), .keep)
  | some (.link _) => (.error .linkedTree, .keep)
  | none => refusal .missing location

/-! ## The effects of the operations -/

section Acts

variable (h : disk.Entry name directory)

include h

lemma ends_locate_at (follow : Bool) : Ends (locate (pathOf (name :: directory)) follow) disk
    (if TooLong (name :: directory) then .error (tooLong (name :: directory))
      else .ok (name :: directory)) disk := by
  have hclean : ¬ hasNul (pathOf (name :: directory)) = true := by simp [h.clean]
  rw [ends_locate, located, if_neg hclean, find_at h]
  refine ⟨?_, rfl⟩
  split <;> rfl

/-- An operation that goes to the place and does something there. -/
lemma ends_at {α : Type} (effect : Effect α) {follow : Bool} {rest : Location → Action α}
    (hrest : Ends (rest (name :: directory)) disk (effect (disk.node? (name :: directory))).1
      ((effect (disk.node? (name :: directory))).2.on (name :: directory) disk)) :
    Ends (locate (pathOf (name :: directory)) follow >>= rest) disk
      (effect.within (name :: directory) (disk.node? (name :: directory))).1
      ((effect.within (name :: directory) (disk.node? (name :: directory))).2.on
        (name :: directory) disk) := by
  have hlocate := ends_locate_at h follow
  unfold Effect.within
  split at hlocate
  · next hlong =>
    rw [if_pos hlong]
    exact hlocate.bind_error
  · next hshort =>
    rw [if_neg hshort]
    exact hlocate.bind hrest

end Acts

variable (name directory)

/-- **Asking for the kind of an entry** tells whether something of that kind is there. -/
theorem acts_leadsTo (kind : Node → Bool) :
    ActsOn name directory (fun node => (.ok (node.any kind), .keep))
      (leadsTo kind (pathOf (name :: directory))) := by
  intro disk h
  have hclean : ¬ hasNul (pathOf (name :: directory)) = true := by simp [h.clean]
  unfold leadsTo Effect.within
  rw [if_neg hclean]
  refine Ends.bind (ends_get.2 ⟨rfl, rfl⟩) ?_
  rw [look_at h]
  by_cases hlong : TooLong (name :: directory)
  · rw [if_pos hlong, if_pos hlong]
    exact ends_throw.2 ⟨rfl, rfl⟩
  · rw [if_neg hlong, if_neg hlong]
    cases disk.node? (name :: directory) with
    | none => exact ends_pure.2 ⟨rfl, rfl⟩
    | some node => exact ends_pure.2 ⟨rfl, rfl⟩

lemma acts_makeDirectory : ActsOn name directory
    (fun node => node.elim (.ok (), .put .directory) fun _ => refusal .present (name :: directory))
    (makeDirectory (pathOf (name :: directory))) := by
  intro disk h
  refine ends_at h _ (Ends.bind (ends_get.2 ⟨rfl, rfl⟩) ?_)
  cases disk.node? (name :: directory) with
  | none => exact ends_modify.2 ⟨rfl, rfl⟩
  | some node => exact ends_throw.2 ⟨rfl, rfl⟩

/-- **Making a directory** needs nothing above it to be made. -/
theorem acts_makeDirectories : ActsOn name directory (making (name :: directory))
    (makeDirectories (pathOf (name :: directory))) := by
  intro disk h
  have hmake := acts_makeDirectory name directory disk h
  have hisDirectory := acts_leadsTo name directory (fun node => node = .directory) disk h
  have hback : (name :: directory).reverse.reverse = name :: directory := List.reverse_reverse _
  have hnames : (pathOf (name :: directory)).names.reverse = name :: directory := hback
  rw [makeDirectories, hnames, makeDirectoriesFrom]
  unfold Effect.within at hmake hisDirectory ⊢
  split at hmake
  · next hlong =>
    rw [if_pos hlong] at hisDirectory ⊢
    exact Ends.catch_error hmake (Ends.bind_error hisDirectory)
  · next hshort =>
    rw [if_neg hshort] at hisDirectory ⊢
    cases hnode : disk.node? (name :: directory) with
    | none =>
      rw [hnode] at hmake
      exact hmake.catch_ok
    | some node =>
      rw [hnode] at hmake hisDirectory
      refine Ends.catch_error hmake (Ends.bind hisDirectory ?_)
      cases node with
      | directory => exact ends_pure.2 ⟨rfl, rfl⟩
      | file data executable => exact ends_throw.2 ⟨rfl, rfl⟩
      | link target => exact ends_throw.2 ⟨rfl, rfl⟩

/-- **Creating a file** where something is changes nothing. -/
theorem acts_create (data : Octets) : ActsOn name directory (creating data (name :: directory))
    (create (pathOf (name :: directory)) data) := by
  intro disk h
  refine ends_at h _ (Ends.bind (ends_get.2 ⟨rfl, rfl⟩) ?_)
  cases disk.node? (name :: directory) with
  | none => exact ends_modify.2 ⟨rfl, rfl⟩
  | some node => exact ends_throw.2 ⟨rfl, rfl⟩

/-- **Writing a file** replaces one that is there. -/
theorem acts_write (data : Octets) : ActsOn name directory (writing data (name :: directory))
    (write (pathOf (name :: directory)) data) := by
  intro disk h
  refine ends_at h _ (Ends.bind (ends_get.2 ⟨rfl, rfl⟩) ?_)
  cases disk.node? (name :: directory) with
  | none => exact ends_modify.2 ⟨rfl, rfl⟩
  | some node =>
    cases node with
    | directory => exact ends_throw.2 ⟨rfl, rfl⟩
    | file _ executable => exact ends_modify.2 ⟨rfl, rfl⟩
    | link target => exact ends_throw.2 ⟨rfl, rfl⟩

lemma acts_remove : ActsOn name directory (discarding (name :: directory))
    (remove (pathOf (name :: directory))) := by
  intro disk h
  refine ends_at h _ (Ends.bind (ends_get.2 ⟨rfl, rfl⟩) ?_)
  cases disk.node? (name :: directory) with
  | none => exact ends_throw.2 ⟨rfl, rfl⟩
  | some node =>
    cases node with
    | directory => exact ends_throw.2 ⟨rfl, rfl⟩
    | file _ _ => exact ends_modify.2 ⟨rfl, rfl⟩
    | link _ => exact ends_modify.2 ⟨rfl, rfl⟩

/-- **Removing a file** that is not there is no failure. -/
theorem acts_removeIfThere : ActsOn name directory (removing (name :: directory))
    (removeIfThere (pathOf (name :: directory))) := by
  intro disk h
  have hremove := acts_remove name directory disk h
  unfold Effect.within at hremove ⊢
  split at hremove
  · next hlong =>
    rw [if_pos hlong]
    exact Ends.catch_error hremove (ends_throw.2 ⟨rfl, rfl⟩)
  · next hshort =>
    rw [if_neg hshort]
    cases hnode : disk.node? (name :: directory) with
    | none =>
      rw [hnode] at hremove
      exact Ends.catch_error hremove (ends_pure.2 ⟨rfl, rfl⟩)
    | some node =>
      rw [hnode] at hremove
      cases node with
      | directory => exact Ends.catch_error hremove (ends_throw.2 ⟨rfl, rfl⟩)
      | file _ _ => exact hremove.catch_ok
      | link _ => exact hremove.catch_ok

section Trees

variable {name directory}
variable (h : disk.Entry name directory)

include h

/-- **Removing a tree** takes a directory with everything below it, if the system lets go of it. -/
theorem ends_removeTree_at
    (hfree : disk.node? (name :: directory) = some .directory → ¬ disk.Held (name :: directory)) :
    Ends (removeTree (pathOf (name :: directory))) disk
      ((clearing (name :: directory)).within (name :: directory)
        (disk.node? (name :: directory))).1
      (((clearing (name :: directory)).within (name :: directory)
        (disk.node? (name :: directory))).2.on (name :: directory) disk) := by
  refine ends_at h _ (Ends.bind (ends_get.2 ⟨rfl, rfl⟩) ?_)
  cases hnode : disk.node? (name :: directory) with
  | none => exact ends_throw.2 ⟨rfl, rfl⟩
  | some node =>
    cases node with
    | directory => exact ends_releaseSweep.2 (Or.inl ⟨rfl, hfree hnode, rfl⟩)
    | file _ _ => exact ends_throw.2 ⟨rfl, rfl⟩
    | link _ => exact ends_throw.2 ⟨rfl, rfl⟩

/-- Otherwise the directory is stuck. -/
lemma stuck_at (hshort : ¬ TooLong (name :: directory))
    (hdir : disk.node? (name :: directory) = some .directory)
    (hheld : disk.Held (name :: directory)) :
    disk.Stuck (pathOf (name :: directory)) (name :: directory) :=
  ⟨⟨h.clean, (find_at h false).trans (if_neg hshort)⟩, hdir, hheld⟩

end Trees

end WasmCoverage.Disk
