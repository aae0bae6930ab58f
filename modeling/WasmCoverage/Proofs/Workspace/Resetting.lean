import WasmCoverage.Proofs.Disk.Refusals
import WasmCoverage.Proofs.Workspace.Tidy

/-!
# Resetting a workspace

A reset empties four of the five stores, or the whole workspace.  Where there are no links, a
directory is renewed in place: what was in it is gone, and nothing else has changed
(`ends_renew`).  **The stores are emptied one after another** (`reset_spec`), up to the first one
whose path is too long, where a file stands instead of a directory, or in which something is held.
The stores behind that one are left as they were, and so is that one, unless its removal was stopped
in the middle.  A reset of the whole workspace empties its root (`reset_full_spec`).
-/

namespace WasmCoverage

open WasmCoverage.Disk

namespace Disk

variable {disk disk' : Disk} {location : Location} {name : String} {directory : Location}
  {r : Except Error Unit} {places others : Location → Prop}

/-! ## Places that are emptied -/

/-- A directory with nothing in it. -/
structure Hollow (disk : Disk) (location : Location) : Prop where
  stands : disk.node? location = some .directory
  nothing : ∀ place, location <:+ place → place ≠ location → disk.node? place = none

lemma Within.mono (h : Within places disk disk') (hplaces : ∀ place, places place → others place) :
    Within others disk disk' :=
  ⟨h.here, h.mounts, fun location hlocation => h.node location fun place hplace =>
    hlocation place (hplaces place hplace)⟩

lemma Within.trans {a b c : Disk} (h : Within places a b) (h' : Within places b c) :
    Within places a c :=
  ⟨h'.here.trans h.here, h'.mounts.trans h.mounts, fun location hlocation =>
    (h'.node location hlocation).trans (h.node location hlocation)⟩

lemma Interrupted.within {path : Path} (h : Interrupted path location disk r disk') :
    Within (· = location) disk disk' :=
  ⟨h.here, h.mounts, fun place hplace =>
    (h.node? place).resolve_right fun hgone => hplace location rfl hgone.1⟩

/-- The place is an empty directory now, and the disk is otherwise as it was. -/
structure Renewed (location : Location) (before after : Disk) : Prop where
  tree : after.IsTree
  distinct : before.Distinct → after.Distinct
  hollow : after.Hollow location
  within : Within (· = location) before after

/-- A directory can be renewed in the place: nothing is there, or a directory in which nothing is
held. -/
def Renewable (disk : Disk) (location : Location) : Prop :=
  ¬TooLong location ∧ (disk.node? location = none ∨
    disk.node? location = some .directory ∧ ¬disk.Held location)

/-- The place is left as it was, or the removal of the directory there was stopped. -/
def Unrenewed (location : Location) (error : Error) (before after : Disk) : Prop :=
  after = before ∨ Interrupted (pathOf location) location before (.error error) after

lemma Unrenewed.within {error : Error} (h : Unrenewed location error disk disk') :
    Within (· = location) disk disk' := by
  rcases h with rfl | hstopped
  · exact Within.of_eq rfl
  · exact hstopped.within

/-- A directory is put in a place from which everything was removed. -/
lemma renewed_put (htree : disk.IsTree) (haround : disk.node? directory = some .directory)
    (hnothing : ∀ place, name :: directory <:+ place → disk.node? place = none) :
    Renewed (name :: directory) disk (disk.put (name :: directory) .directory) where
  tree := htree.put haround (hnothing _ List.suffix_rfl)
  distinct h := h.put _ _
  hollow :=
    { stands := node?_put_self _ _ (List.cons_ne_nil _ _)
      nothing := fun place hbelow hne => by
        rw [node?_put_of_ne _ _ hne, hnothing place hbelow] }
  within :=
    ⟨rfl, rfl, fun place hplace => node?_put_of_ne _ _ fun heq =>
      hplace _ rfl (heq ▸ List.suffix_rfl)⟩

/-- A directory is removed with everything in it, and made again. -/
lemma renewed_drop_put (htree : disk.IsTree) (haround : disk.node? directory = some .directory) :
    Renewed (name :: directory) disk
      ((disk.drop (name :: directory)).put (name :: directory) .directory) := by
  have hne := List.cons_ne_nil name directory
  have hkept : (disk.drop (name :: directory)).node? directory = some .directory := by
    rw [node?_drop_of_not_suffix, haround]
    exact fun hsuffix => absurd hsuffix.length_le (by simp)
  have hput := renewed_put (htree.drop hne) hkept fun place => node?_drop_of_suffix disk hne
  refine ⟨hput.tree, fun h => hput.distinct (h.drop _), hput.hollow, hput.within.here,
    hput.within.mounts, fun place hplace => ?_⟩
  rw [hput.within.node place hplace, node?_drop_of_not_suffix disk (hplace _ rfl)]

end Disk

namespace Workspace

variable {workspace : Workspace} {root : Location} {disk disk' : Disk} {store other : Store}
  {name : String} {directory : Location} {w w' : World}

/-- A directory in which something is held is not renewed. -/
lemma ends_renew_stuck {path : Path} {r : Except Disk.Error Unit}
    (hstuck : disk.Stuck path directory) (hend : Ends (renew path) disk r disk') : ∃ error,
      r = .error error ∧ Refused error ∧
        Interrupted path directory disk (.error error) disk' := by
  obtain ⟨result, disk'', hremove⟩ := exists_ends (removeTree path) disk
  have hstopped := hstuck.interrupted hremove
  obtain ⟨shown, rfl⟩ := hstopped.exists_error
  obtain ⟨rfl, rfl⟩ := hend.unique (hstuck.ends_pathExists.bind hremove.bind_error)
  exact ⟨_, rfl, rfl, hstopped⟩

/-- **A directory is renewed**, or nothing is done, or not everything in it is removed. -/
theorem ends_renew {r : Except Disk.Error Unit} (hentry : disk.Entry name directory)
    (htree : disk.IsTree) (hend : Ends (renew (pathOf (name :: directory))) disk r disk') :
    (r = .ok () ∧ disk.Renewable (name :: directory) ∧ Renewed (name :: directory) disk disk') ∨
      ∃ error, r = .error error ∧ Refused error ∧ ¬disk.Renewable (name :: directory) ∧
        Unrenewed (name :: directory) error disk disk' := by
  have hthere : Ends (pathExists (pathOf (name :: directory))) disk _ _ :=
    acts_leadsTo name directory _ disk hentry
  have hmake := acts_makeDirectories name directory disk hentry
  have haround := hentry.stands directory List.suffix_rfl
  unfold Effect.within at hthere hmake
  by_cases hlong : TooLong (name :: directory)
  · rw [if_pos hlong] at hthere
    obtain ⟨rfl, rfl⟩ := hend.unique hthere.bind_error
    exact .inr ⟨_, rfl, rfl, fun h => h.1 hlong, .inl rfl⟩
  by_cases hheld : disk.node? (name :: directory) = some .directory ∧ disk.Held (name :: directory)
  · obtain ⟨error, rfl, hrefused, hstopped⟩ :=
      ends_renew_stuck (stuck_at hentry hlong hheld.1 hheld.2) hend
    exact .inr ⟨error, rfl, hrefused, fun h => by simp [Renewable, hheld.1, hheld.2] at h,
      .inr hstopped⟩
  · have hremove := ends_removeTree_at hentry fun hdir hthere => hheld ⟨hdir, hthere⟩
    unfold Effect.within at hremove
    rw [if_neg hlong] at hthere hremove hmake
    cases hnode : disk.node? (name :: directory) with
    | none =>
      rw [hnode] at hthere hmake
      obtain ⟨rfl, rfl⟩ := hend.unique (hthere.bind hmake)
      exact .inl ⟨rfl, ⟨hlong, .inl hnode⟩,
        renewed_put htree haround fun place => htree.none_below hnode⟩
    | some node =>
      rw [hnode] at hthere hremove
      cases node with
      | directory =>
        have hmake := acts_makeDirectories name directory _ hentry.dropped
        rw [Effect.within, if_neg hlong, node?_drop_self] at hmake
        obtain ⟨rfl, rfl⟩ := hend.unique (hthere.bind (hremove.bind hmake))
        exact .inl ⟨rfl, ⟨hlong, .inr ⟨hnode, fun hthere => hheld ⟨hnode, hthere⟩⟩⟩,
          renewed_drop_put htree haround⟩
      | file data executable =>
        obtain ⟨rfl, rfl⟩ := hend.unique (hthere.bind (Ends.bind_error hremove))
        exact .inr ⟨_, rfl, rfl, fun h => by simp [Renewable, hnode] at h, .inl rfl⟩
      | link target => exact absurd hnode (hentry.noLink target)

/-! ## Workspaces without links -/

/-- A rooted workspace with no link below its root, on a disk that lists every place once. -/
structure Unlinked (workspace : Workspace) (root : Location) (disk : Disk) : Prop
    extends workspace.Rooted root disk where
  clean : hasNul (pathOf root) = false
  distinct : disk.Distinct
  noLink : ∀ place, root <:+ place → disk.NoLink place

/-- Every store is an entry of the root. -/
lemma Unlinked.entry (h : workspace.Unlinked root disk) (store : Store) :
    disk.Entry store.directory root :=
  ⟨h.tree.stands h.stands, h.isName store,
    hasNul_pathOf_cons.2 ⟨not_mem_directory store, h.clean⟩, h.noLink _ (List.suffix_cons _ _)⟩

/-- A place is in one store at most. -/
lemma eq_of_suffix {place : Location} (h : store.directory :: root <:+ place)
    (h' : other.directory :: root <:+ place) : store = other := by
  have heq : store.directory :: root = other.directory :: root := by
    rcases List.suffix_or_suffix_of_suffix h h' with hsuffix | hsuffix
    · exact hsuffix.eq_of_length rfl
    · exact (hsuffix.eq_of_length rfl).symm
  exact directory_inj (List.cons.inj heq).1

/-- A workspace stays without links when a store is renewed. -/
lemma Unlinked.renewed (h : workspace.Unlinked root disk)
    (hrenewed : Renewed (store.directory :: root) disk disk') : workspace.Unlinked root disk' where
  toRooted := h.toRooted.of_node? hrenewed.tree (hrenewed.within.node root (by
    rintro place rfl hsuffix
    exact absurd hsuffix.length_le (by simp)))
  clean := h.clean
  distinct := hrenewed.distinct h.distinct
  noLink place hplace target hlink := by
    by_cases hbelow : store.directory :: root <:+ place
    · by_cases hne : place = store.directory :: root
      · rw [hne, hrenewed.hollow.stands] at hlink
        cases hlink
      · rw [hrenewed.hollow.nothing place hbelow hne] at hlink
        cases hlink
    · rw [hrenewed.within.node place (by rintro _ rfl; exact hbelow)] at hlink
      exact h.noLink place hplace target hlink

/-! ## Stores that are emptied -/

/-- The store is an empty directory, whose path is not too long. -/
structure Empty (root : Location) (store : Store) (disk : Disk) : Prop
    extends disk.Hollow (store.directory :: root) where
  short : ¬TooLong (store.directory :: root)

/-- The places of some stores. -/
def PlaceOf (root : Location) (stores : List Store) (place : Location) : Prop :=
  ∃ store ∈ stores, place = store.directory :: root

/-- A store that is empty stays so when others change. -/
lemma Empty.within {stores : List Store} (h : Empty root store disk) (hstore : store ∉ stores)
    (hwithin : Within (PlaceOf root stores) disk disk') : Empty root store disk' := by
  have hsame {place : Location} (hplace : store.directory :: root <:+ place) :
      disk'.node? place = disk.node? place := by
    refine hwithin.node place ?_
    rintro _ ⟨other, hother, rfl⟩ hsuffix
    exact hstore (eq_of_suffix hplace hsuffix ▸ hother)
  exact ⟨⟨(hsame List.suffix_rfl).trans h.stands, fun place hbelow hne =>
    (hsame hbelow).trans (h.nothing place hbelow hne)⟩, h.short⟩

/-- It does not matter to a store whether another one was renewed before. -/
lemma renewable_iff_of_renewed (hdistinct : disk.Distinct)
    (hrenewed : Renewed (store.directory :: root) disk disk') (hne : store ≠ other) :
    disk'.Renewable (other.directory :: root) ↔ disk.Renewable (other.directory :: root) := by
  have hnode {place : Location} (hplace : other.directory :: root <:+ place) :
      disk'.node? place = disk.node? place :=
    hrenewed.within.node _ (by
      rintro _ rfl hsuffix
      exact hne (eq_of_suffix hsuffix hplace))
  rw [Renewable, Renewable, hnode List.suffix_rfl, held_congr hdistinct
    (hrenewed.distinct hdistinct) hrenewed.within.mounts fun place => hnode]

/-- Stores that could be renewed were emptied, and nothing else has changed. -/
structure StoresEmptied (workspace : Workspace) (root : Location) (stores : List Store)
    (before after : Disk) : Prop where
  renewable : ∀ store ∈ stores, before.Renewable (store.directory :: root)
  empty : ∀ store ∈ stores, Empty root store after
  within : Within (PlaceOf root stores) before after
  unlinked : workspace.Unlinked root after

/-- A store was renewed before others: whatever becomes of them, it stays empty. -/
lemma StoresEmptied.cons {stores : List Store} {middle after : Disk} (hdistinct : disk.Distinct)
    (hcan : disk.Renewable (store.directory :: root))
    (hrenewed : Renewed (store.directory :: root) disk middle) (hnew : store ∉ stores)
    (h : StoresEmptied workspace root stores middle after) :
    StoresEmptied workspace root (store :: stores) disk after := by
  have hempty : Empty root store middle := ⟨hrenewed.hollow, hcan.1⟩
  refine ⟨List.forall_mem_cons.2 ⟨hcan, fun other hother => ?_⟩,
    List.forall_mem_cons.2 ⟨hempty.within hnew h.within, h.empty⟩,
    (hrenewed.within.mono ?_).trans (h.within.mono ?_), h.unlinked⟩
  · exact (renewable_iff_of_renewed hdistinct hrenewed (by rintro rfl; exact hnew hother)).1
      (h.renewable other hother)
  · rintro place rfl
    exact ⟨store, List.mem_cons_self, rfl⟩
  · rintro place ⟨other, hother, rfl⟩
    exact ⟨other, List.mem_cons_of_mem _ hother, rfl⟩

/-- **Stores are emptied one after another**, up to the first that cannot be renewed. -/
theorem ends_renewAll : ∀ {stores : List Store} {disk disk' : Disk} {r : Except Disk.Error Unit},
    stores.Nodup → workspace.Unlinked root disk →
    Ends (stores.forM fun store => renew (pathOf (store.directory :: root))) disk r disk' →
    (r = .ok () ∧ StoresEmptied workspace root stores disk disk') ∨
      ∃ before store behind error middle, stores = before ++ store :: behind ∧ r = .error error ∧
        Refused error ∧ ¬disk.Renewable (store.directory :: root) ∧
        StoresEmptied workspace root before disk middle ∧
        Unrenewed (store.directory :: root) error middle disk'
  | [], disk, disk', r, _, h, hend => by
      obtain ⟨rfl, rfl⟩ := ends_pure.1 hend
      exact .inl ⟨rfl, by simp, by simp, Within.of_eq rfl, h⟩
  | store :: rest, disk, disk', r, hnodup, h, hend => by
      obtain ⟨hnew, hnodup⟩ := List.nodup_cons.1 hnodup
      obtain ⟨_, t, hfirst, hmore⟩ | ⟨error, hfirst, rfl⟩ := ends_bind.1 hend
      · obtain ⟨-, hcan, hrenewed⟩ | ⟨_, hfault, -⟩ := ends_renew (h.entry store) h.tree hfirst
        · obtain ⟨rfl, hrest⟩ |
            ⟨before, failed, behind, error, middle, rfl, rfl, hrefused, hfails, hrest, hstop⟩ :=
            ends_renewAll hnodup (h.renewed hrenewed) hmore
          · exact .inl ⟨rfl, hrest.cons h.distinct hcan hrenewed hnew⟩
          · rw [List.mem_append, List.mem_cons, not_or, not_or] at hnew
            have hsame := renewable_iff_of_renewed h.distinct hrenewed hnew.2.1
            exact .inr ⟨store :: before, failed, behind, error, middle, rfl, rfl, hrefused,
              fun hcan => hfails (hsame.2 hcan),
              hrest.cons h.distinct hcan hrenewed hnew.1, hstop⟩
        · cases hfault
      · obtain ⟨hok, -⟩ | ⟨_, herror, hrefused, hfails, hstop⟩ :=
          ends_renew (h.entry store) h.tree hfirst
        · cases hok
        · obtain rfl := Except.error.inj herror
          exact .inr ⟨[], store, rest, error, disk, rfl, rfl, hrefused, hfails,
            ⟨by simp, by simp, Within.of_eq rfl, h⟩, hstop⟩

/-! ## The reset -/

/-- What a reset does is done to the disk, and its refusals are told of the root. -/
lemma ends_reset {full : Bool} {r : Except Fault Unit} (h : workspace.Unlinked root w.disk)
    (hend : Ends (workspace.reset full) w r w') : ∃ result disk,
      Ends (if full then renew (pathOf root)
        else Store.cleared.forM fun store => renew (pathOf (store.directory :: root))) w.disk
        result disk ∧
      r = result.mapError (passedOn fun error => .workspace (.notReset (pathOf root) error)) ∧
      w' = { w with disk } := by
  obtain ⟨path, t, hroot, hrest⟩ | ⟨fault, hroot, -⟩ := ends_bind.1 hend
  · obtain ⟨heq, rfl⟩ := hroot.unique (ends_root h.bound)
    obtain rfl := Except.ok.inj heq
    simp only [child_pathOf root (isName_directory _)] at hrest
    exact ends_onDiskOr.1 hrest
  · cases (hroot.unique (ends_root h.bound)).1

/-- **A reset empties its stores**, or those before the first that cannot be renewed. -/
theorem reset_spec {r : Except Fault Unit} (h : workspace.Unlinked root w.disk)
    (hend : Ends (workspace.reset false) w r w') : ∃ disk, w' = { w with disk } ∧
      ((r = .ok () ∧ StoresEmptied workspace root Store.cleared w.disk disk) ∨
        ∃ before store behind error middle, Store.cleared = before ++ store :: behind ∧
          r = .error (.workspace (.notReset (pathOf root) error)) ∧
          ¬w.disk.Renewable (store.directory :: root) ∧
          StoresEmptied workspace root before w.disk middle ∧
          Unrenewed (store.directory :: root) error middle disk) := by
  obtain ⟨result, disk, hdone, rfl, rfl⟩ := ends_reset h hend
  refine ⟨disk, rfl, ?_⟩
  obtain ⟨rfl, hemptied⟩ |
    ⟨before, store, behind, error, middle, hsplit, rfl, hrefused, hfails, hemptied, hstop⟩ :=
    ends_renewAll (by decide) h hdone
  · exact .inl ⟨rfl, hemptied⟩
  · exact .inr ⟨before, store, behind, error, middle, hsplit,
      by simp [Except.mapError, passedOn, hrefused], hfails, hemptied, hstop⟩

/-- If everything is removed there is nothing left. -/
lemma node?_drop_nil {place : Location} (hne : place ≠ []) : (disk.drop []).node? place = none := by
  have hentries : (disk.drop []).entries = [] := by simp [drop]
  rw [node?, if_neg hne, hentries, Table.get?]

/-- The outermost directory is renewed where it is, or not everything in it is removed. -/
lemma ends_renew_nil {r : Except Disk.Error Unit} (hend : Ends (renew (pathOf [])) disk r disk') :
    (r = .ok () ∧ disk' = disk.drop []) ∨ ∃ error, r = .error error ∧ Refused error ∧
      Interrupted (pathOf []) [] disk (.error error) disk' := by
  have hfind (follow : Bool) : disk.find (pathOf []) follow = .ok [] := rfl
  by_cases hheld : disk.Held []
  · exact .inr (ends_renew_stuck ⟨⟨rfl, hfind false⟩, rfl, hheld⟩ hend)
  · have hthere : Ends (pathExists (pathOf [])) disk (.ok true) disk :=
      ends_leadsTo_true.2 ⟨⟨rfl, .directory, look_eq_ok.2 ⟨[], hfind true, rfl⟩, rfl⟩, rfl⟩
    have hremove : Ends (removeTree (pathOf [])) disk (.ok ()) (disk.drop []) :=
      (ends_locate_ok.2 ⟨⟨rfl, hfind false⟩, rfl⟩).bind
        ((ends_get.2 ⟨rfl, rfl⟩).bind (ends_releaseSweep.2 (.inl ⟨rfl, hheld, rfl⟩)))
    exact .inl (hend.unique (hthere.bind (hremove.bind (ends_pure.2 ⟨rfl, rfl⟩))))

/-- **A reset of the whole workspace leaves an empty root**, and nothing else changes. -/
theorem reset_full_spec {r : Except Fault Unit} (h : workspace.Unlinked root w.disk)
    (hend : Ends (workspace.reset true) w r w') : ∃ disk, w' = { w with disk } ∧
      Within (· = root) w.disk disk ∧
      ((r = .ok () ∧ disk.Hollow root) ∨
        ∃ error, r = .error (.workspace (.notReset (pathOf root) error))) := by
  obtain ⟨result, disk, hdone, rfl, rfl⟩ := ends_reset h hend
  refine ⟨disk, rfl, ?_⟩
  cases root with
  | nil =>
    obtain ⟨rfl, rfl⟩ | ⟨error, rfl, hrefused, hstopped⟩ := ends_renew_nil hdone
    · exact ⟨⟨rfl, rfl, fun place hplace => absurd List.nil_suffix (hplace [] rfl)⟩,
        .inl ⟨rfl, rfl, fun place _ hne => node?_drop_nil hne⟩⟩
    · exact ⟨hstopped.within, .inr ⟨error, by simp [Except.mapError, passedOn, hrefused]⟩⟩
  | cons name directory =>
    have hentry : w.disk.Entry name directory :=
      ⟨fun place hplace => h.tree.stands h.stands place (hplace.trans (List.suffix_cons _ _)),
        h.names, h.clean, h.noLink _ List.suffix_rfl⟩
    obtain ⟨rfl, -, hrenewed⟩ | ⟨error, rfl, hrefused, -, hstop⟩ := ends_renew hentry h.tree hdone
    · exact ⟨hrenewed.within, .inl ⟨rfl, hrenewed.hollow⟩⟩
    · exact ⟨hstop.within, .inr ⟨error, by simp [Except.mapError, passedOn, hrefused]⟩⟩

end Workspace

end WasmCoverage
