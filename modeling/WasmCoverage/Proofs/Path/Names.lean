import Mathlib.Tactic.Lemma
import WasmCoverage.Path.Basic

/-!
# Names, and paths made of them

A text is the *name* of an entry of a directory if a path can spell it: it is not empty, has no
slash in it and is neither `.` nor `..`.  For names, going down to a child is putting the name
behind the others, and a path made of names is **read back from its text** (`ofText_text`).  So
such a path is all that a tool has to be told, and two entries of a directory never share a text
(`child_text_inj`).
-/

namespace WasmCoverage.Text

variable {α : Type} [DecidableEq α]

/-! ## Cutting what was joined -/

lemma splitOn_of_not_mem {separator : α} : ∀ {piece : List α}, separator ∉ piece →
    splitOn separator piece = [piece]
  | [], _ => rfl
  | x :: rest, h => by
      rw [List.mem_cons, not_or] at h
      simp [splitOn, Ne.symm h.1, splitOn_of_not_mem h.2]

lemma splitOn_append_cons {separator : α} (rest : List α) : ∀ {piece : List α},
    separator ∉ piece →
    splitOn separator (piece ++ separator :: rest) = piece :: splitOn separator rest
  | [], _ => by simp [splitOn]
  | x :: piece, h => by
      rw [List.mem_cons, not_or] at h
      simp [splitOn, Ne.symm h.1, splitOn_append_cons rest h.2]

/-- **Pieces without the separator are found again.** -/
theorem splitOn_joinWith {separator : α} : ∀ {pieces : List (List α)}, pieces ≠ [] →
    (∀ piece ∈ pieces, separator ∉ piece) → splitOn separator (joinWith separator pieces) = pieces
  | [piece], _, h => splitOn_of_not_mem (h piece (by simp))
  | piece :: next :: rest, _, h => by
      have ih := splitOn_joinWith (List.cons_ne_nil next rest)
        fun p hp => h p (List.mem_cons_of_mem _ hp)
      rw [joinWith.eq_3 _ _ _ (by simp), splitOn_append_cons _ (h piece (by simp)), ih]

lemma toList_joinText (separator : Char) {text : String} (htext : text.toList = [separator]) :
    ∀ names : List String, (joinText text names).toList =
      joinWith separator (names.map String.toList)
  | [] => rfl
  | [name] => rfl
  | name :: next :: rest => by
      have ih := toList_joinText separator htext (next :: rest)
      rw [joinText.eq_3 _ _ _ (by simp), String.toList_append, String.toList_append, ih, htext]
      simp [joinWith]

end WasmCoverage.Text

namespace WasmCoverage.Path

open WasmCoverage.Text

/-! ## Names -/

/-- The text is the name of an entry of a directory. -/
def IsName (name : String) : Prop :=
  name ≠ "" ∧ name ≠ "." ∧ name ≠ ".." ∧ '/' ∉ name.toList

instance (name : String) : Decidable (IsName name) := by
  unfold IsName
  infer_instance

lemma IsName.ne_up {name : String} (h : IsName name) : name ≠ ".." :=
  h.2.2.1

lemma IsName.not_mem {name : String} (h : IsName name) : '/' ∉ name.toList :=
  h.2.2.2

lemma IsName.toList_ne {name : String} (h : IsName name) :
    name.toList ≠ [] ∧ name.toList ≠ ['.'] := by
  refine ⟨fun hnil => h.1 ?_, fun hdot => h.2.1 ?_⟩
  · exact String.toList_inj.1 hnil
  · exact String.toList_inj.1 hdot

lemma not_mem_replicate {c d : Char} (n : Nat) (h : d ≠ c) :
    d ∉ (String.ofList (List.replicate n c)).toList := by
  rw [String.toList_ofList]
  exact fun hmem => h (List.eq_of_mem_replicate hmem)

/-- One character over and over is a name, unless it is a dot or a slash. -/
lemma isName_replicate {c : Char} {n : Nat} (hn : n ≠ 0) (hdot : c ≠ '.') (hslash : c ≠ '/') :
    IsName (String.ofList (List.replicate n c)) := by
  have hnodot := not_mem_replicate n hdot.symm
  refine ⟨fun h => hn ?_, fun h => hnodot (h ▸ by decide), fun h => hnodot (h ▸ by decide),
    not_mem_replicate n hslash.symm⟩
  simpa using congrArg String.toList h

/-- A path all of whose names are names of entries. -/
def Proper (path : Path) : Prop :=
  ∀ name ∈ path.names, IsName name

instance (path : Path) : Decidable path.Proper := by
  unfold Proper
  infer_instance

/-- A path that can be spelled: its names are names of entries, and `..`. -/
def Spelled (path : Path) : Prop :=
  ∀ name ∈ path.names, name ≠ ".." → IsName name

lemma isName_of_mem_namesOf {text : List Char} {name : String} (h : name ∈ namesOf text)
    (hup : name ≠ "..") : IsName name := by
  obtain ⟨piece, hmem, rfl⟩ := List.mem_map.1 h
  obtain ⟨hpiece, hkept⟩ := List.mem_filter.1 hmem
  rw [decide_eq_true_eq] at hkept
  refine ⟨?_, ?_, hup, ?_⟩
  · exact fun heq => hkept.1 (by simpa using congrArg String.toList heq)
  · exact fun heq => hkept.2 (by simpa using congrArg String.toList heq)
  · rw [String.toList_ofList]
    exact not_mem_of_mem_splitOn hpiece

/-- **A path that is read can be spelled.** -/
theorem spelled_ofText (text : String) : (ofText text).Spelled :=
  fun _ hname hup => isName_of_mem_namesOf hname hup

/-! ## Children -/

lemma namesOf_of_isName {name : String} (h : IsName name) : namesOf name.toList = [name] := by
  rw [namesOf, splitOn_of_not_mem h.not_mem]
  simp [h.toList_ne]

lemma anchorOf_of_not_slash {text : List Char} (h : text.head? ≠ some '/') :
    anchorOf text = .relative := by
  match text, h with
  | [], _ => rfl
  | c :: rest, h =>
      have hc : c ≠ '/' := fun heq => h (by simp [heq])
      unfold anchorOf
      split
      · next heq => exact absurd (List.cons.inj heq).1 hc
      · next heq => exact absurd (List.cons.inj heq).1 hc
      · next heq => exact absurd (List.cons.inj heq).1 hc
      · rfl

lemma IsName.head?_ne {name : String} (h : IsName name) (rest : List Char) :
    (name.toList ++ rest).head? ≠ some '/' := by
  intro hhead
  obtain ⟨c, chars, hcons⟩ := List.exists_cons_of_ne_nil h.toList_ne.1
  rw [hcons, List.cons_append, List.head?_cons, Option.some.injEq] at hhead
  exact h.not_mem (by simp [hcons, hhead])

lemma ofText_of_isName {name : String} (h : IsName name) : ofText name = ⟨.relative, [name]⟩ := by
  have hanchor : anchorOf name.toList = .relative :=
    anchorOf_of_not_slash (by simpa using h.head?_ne [])
  rw [ofText, hanchor, namesOf_of_isName h]

/-- **A child has one more name.** -/
theorem child_of_isName (path : Path) {name : String} (h : IsName name) :
    path.child name = ⟨path.anchor, path.names ++ [name]⟩ := by
  rw [child, ofText_of_isName h]
  rfl

lemma parent_child (path : Path) {name : String} (h : IsName name) :
    (path.child name).parent = path := by
  simp [child_of_isName path h, parent]

lemma name_child (path : Path) {name : String} (h : IsName name) :
    (path.child name).name = name := by
  simp [child_of_isName path h, Path.name]

lemma Proper.child {path : Path} (hpath : path.Proper) {name : String} (h : IsName name) :
    (path.child name).Proper := by
  rw [child_of_isName path h]
  intro other hother
  rcases List.mem_append.1 hother with hother | hother
  · exact hpath other hother
  · rw [List.mem_singleton.1 hother]
    exact h

/-! ## Texts -/

lemma namesOf_joinText {names : List String} (h : ∀ name ∈ names, IsName name) :
    namesOf (joinText "/" names).toList = names := by
  rw [toList_joinText '/' rfl]
  cases names with
  | nil => rfl
  | cons first rest =>
      have hsplit : splitOn '/' (joinWith '/' ((first :: rest).map String.toList)) =
          (first :: rest).map String.toList := by
        refine splitOn_joinWith (by simp) fun piece hpiece => ?_
        obtain ⟨name, hname, rfl⟩ := List.mem_map.1 hpiece
        exact (h name hname).not_mem
      have hkept : ((first :: rest).map String.toList).filter
          (fun name => name ≠ [] ∧ name ≠ ['.']) = (first :: rest).map String.toList := by
        refine List.filter_eq_self.2 fun piece hpiece => ?_
        obtain ⟨name, hname, rfl⟩ := List.mem_map.1 hpiece
        exact decide_eq_true (h name hname).toList_ne
      rw [namesOf, hsplit, hkept, List.map_map]
      simp

lemma head?_joinText_ne {names : List String} (h : ∀ name ∈ names, IsName name) :
    (joinText "/" names).toList.head? ≠ some '/' := by
  match names, h with
  | [], _ => simp [joinText]
  | [name], h => simpa [joinText] using (h name (by simp)).head?_ne []
  | name :: next :: rest, h =>
      rw [joinText.eq_3 _ _ _ (by simp), String.toList_append, String.toList_append,
        List.append_assoc]
      exact (h name (by simp)).head?_ne _

/-- A slash in front makes an absolute path of the same names. -/
lemma ofText_slash {text : List Char} (h : text.head? ≠ some '/') :
    anchorOf ('/' :: text) = .root ∧ anchorOf ('/' :: '/' :: text) = .doubleRoot := by
  cases text with
  | nil => exact ⟨rfl, rfl⟩
  | cons c rest =>
      have hc : c ≠ '/' := fun heq => h (by simp [heq])
      exact ⟨by simp [anchorOf, hc], by simp [anchorOf, hc]⟩

lemma namesOf_slash (text : List Char) : namesOf ('/' :: text) = namesOf text := by
  simp [namesOf, splitOn]

/-- **A path made of names is read back from its text.** -/
theorem ofText_text {path : Path} (h : path.Proper) : ofText path.text = path := by
  obtain ⟨anchor, names⟩ := path
  have hnames : namesOf (joinText "/" names).toList = names := namesOf_joinText h
  have hhead : (joinText "/" names).toList.head? ≠ some '/' := head?_joinText_ne h
  have hslash := ofText_slash hhead
  cases anchor with
  | relative =>
      cases names with
      | nil => rfl
      | cons first rest =>
          have htext : (Path.mk .relative (first :: rest)).text = joinText "/" (first :: rest) := by
            simp [text, Anchor.text]
          rw [ofText, htext, anchorOf_of_not_slash hhead, hnames]
  | root =>
      have htext : (Path.mk .root names).text.toList = '/' :: (joinText "/" names).toList := by
        simp [text, Anchor.text]
      rw [ofText, htext, hslash.1, namesOf_slash, hnames]
  | doubleRoot =>
      have htext : (Path.mk .doubleRoot names).text.toList =
          '/' :: '/' :: (joinText "/" names).toList := by
        simp [text, Anchor.text]
      rw [ofText, htext, hslash.2, namesOf_slash, namesOf_slash, hnames]

/-- Two entries of a directory do not share a text. -/
lemma child_text_inj {path : Path} (hpath : path.Proper) {a b : String} (ha : IsName a)
    (hb : IsName b) : (path.child a).text = (path.child b).text ↔ a = b := by
  constructor
  · intro h
    have heq := congrArg ofText h
    rw [ofText_text (hpath.child ha), ofText_text (hpath.child hb), child_of_isName _ ha,
      child_of_isName _ hb] at heq
    simpa using heq
  · rintro rfl
    rfl

end WasmCoverage.Path

namespace WasmCoverage

/-! ## Stems -/

/-- A stem has no characters but those of the name. -/
lemma Path.mem_of_mem_stemOf {name : String} {c : Char} (h : c ∈ (stemOf name).toList) :
    c ∈ name.toList := by
  rw [← stem_append_suffix name, String.toList_append]
  exact List.mem_append_left _ h

/-! ## Last characters -/

/-- The last character of a name. -/
def lastChar? (name : String) : Option Char :=
  name.toList.getLast?

lemma lastChar?_append (name : String) {suffix : String} (h : suffix.toList ≠ []) :
    lastChar? (name ++ suffix) = lastChar? suffix := by
  rw [lastChar?, String.toList_append, List.getLast?_append, lastChar?,
    List.getLast?_eq_some_getLast h]
  rfl

/-- A text without slashes that does not end in a dot is a name. -/
lemma Path.isName_of_lastChar? {name : String} {c : Char} (hslash : '/' ∉ name.toList)
    (hlast : lastChar? name = some c) (hc : c ≠ '.') : IsName name := by
  refine ⟨?_, ?_, ?_, hslash⟩
  · rintro rfl
    cases hlast
  · rintro rfl
    exact hc (Option.some.inj hlast).symm
  · rintro rfl
    exact hc (Option.some.inj hlast).symm

/-! ## Anchors -/

/-- A child of a path from the root is one too. -/
lemma Path.isAbsolute_child {path : Path} (h : path.isAbsolute = true) (name : String) :
    (path.child name).isAbsolute = true := by
  have happend : path.child name = path.append (Path.ofText name) := rfl
  rw [happend, Path.append]
  cases hanchor : (Path.ofText name).anchor with
  | relative => exact h
  | root => simp [Path.isAbsolute, hanchor]
  | doubleRoot => simp [Path.isAbsolute, hanchor]

/-- Another suffix leaves a path from the root one. -/
lemma Path.isAbsolute_of_withSuffix {path other : Path} (h : path.isAbsolute = true)
    {suffix : String} (hother : path.withSuffix? suffix = some other) :
    other.isAbsolute = true := by
  unfold Path.withSuffix? at hother
  split at hother
  · cases hother
  · exact Option.some.inj hother ▸ h

end WasmCoverage
