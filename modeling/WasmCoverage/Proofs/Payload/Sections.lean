import WasmCoverage.Proofs.Payload.Reading
import WasmCoverage.Settings.Decoding

/-!
# Sections

A section is a record whose keys are all known; a field of it that is not given has its default.
**`readSection_eq_ok_iff`** takes the reading of a section apart, and `optional_eq_ok_iff` that of a
field: what is read depends on what is found under its own name (`Given`) and on nothing else.
-/

namespace WasmCoverage

open WasmCoverage.Json

/-- The keys of a record. -/
def Json.keys : Json → List Key
  | record entries => Table.keys entries
  | _ => []

/-- The value under a key of a section. -/
def Json.field? (payload : Json) (section_ key : String) : Option Json :=
  (payload.get? section_).bind (get? key)

namespace Payload

variable {α β : Type} {names : List String} {entries : List (Key × Json)} {name : String}
  {read : Json → Reading α} {default a : α}

/-! ## Readings taken apart -/

lemma map_eq_ok_iff {f : α → β} {x : Reading α} {b : β} :
    f <$> x = Reading.ok b ↔ ∃ a, x = .ok a ∧ f a = b :=
  ⟨ok_of_map, fun ⟨_, hx, hb⟩ => hb ▸ hx ▸ rfl⟩

lemma ap_eq_ok_iff {f : Reading (α → β)} {x : Reading α} {b : β} :
    f <*> x = Reading.ok b ↔ ∃ g a, f = .ok g ∧ x = .ok a ∧ g a = b :=
  Reading.seq_eq_ok_iff

lemma check_eq_ok_iff {rules : α → List (Option Flaw)} {x : Reading α} :
    Reading.check rules x = .ok a ↔ x = .ok a ∧ ∀ rule ∈ rules a, rule = none :=
  ⟨ok_of_check, fun ⟨hx, h⟩ => hx ▸ check_ok h⟩

lemma refine_eq_ok_iff {f : α → Except Flaw β} {x : Reading α} {b : β} :
    Reading.refine f x = .ok b ↔ ∃ a, x = .ok a ∧ f a = .ok b := by
  cases x with
  | ok a => cases h : f a <;> simp [Reading.refine, h, Reading.flaw]
  | flawed leaves => simp [Reading.refine]

lemma within_eq_ok_iff {segment : Segment} {x : Reading α} :
    x.within segment = .ok a ↔ x = .ok a := by
  cases x <;> simp [Reading.within]

/-! ## Known keys -/

/-- Every key is one of the names. -/
def KeysIn (names : List String) (entries : List (Key × Json)) : Prop :=
  ∀ key ∈ Table.keys entries, key ∈ names.map fun name : String => (name : Key)

lemma unknownKeys_eq_nil_iff : unknownKeys names entries = [] ↔ KeysIn names entries := by
  have hnil (l : List String) : l.mergeSort Tool.textBefore = [] ↔ l = [] := by
    rw [← List.length_eq_zero_iff, List.length_mergeSort, List.length_eq_zero_iff]
  simp only [unknownKeys, hnil, List.map_eq_nil_iff, List.filter_eq_nil_iff, KeysIn,
    Table.keys_eq_map]
  refine forall₂_congr fun key _ => ?_
  have hname (name : String) : key = (name : Key) ↔ (name : Key) = key := eq_comm
  simp [hname]

lemma noUnknownKeys_eq_ok_iff : noUnknownKeys names entries = .ok () ↔ KeysIn names entries := by
  rw [← unknownKeys_eq_nil_iff, noUnknownKeys]
  cases unknownKeys names entries <;> simp [Reading.flaw]

/-- The names are those of the keys. -/
lemma mem_names_iff {key : String} :
    (key : Key) ∈ names.map (fun name : String => (name : Key)) ↔ key ∈ names := by
  simp [LooseText.ofString_inj]

/-- What is found is found under one of the names. -/
lemma KeysIn.mem (h : KeysIn names entries) {value : Json}
    (hget : Entries.get? name entries = some value) : name ∈ names := by
  by_contra hname
  rw [Entries.get?, Table.get?_eq_none_iff.2 fun hkey => hname (mem_names_iff.1 (h _ hkey))] at hget
  cases hget

/-- **A section is a record with known keys.** -/
theorem readSection_eq_ok_iff {read : Source → Reading α} {value : Json} :
    readSection names read value = .ok a ↔ ∃ entries, value = .record entries ∧
      KeysIn names entries ∧ read (.record entries) = .ok a := by
  cases value with
  | record entries =>
    simp only [readSection, Reading.seq_eq_ok_iff, Json.record.injEq, exists_eq_left',
      exists_and_left]
    constructor
    · rintro ⟨g, hread, u, hknown, rfl⟩
      obtain ⟨b, hb, rfl⟩ := ok_of_map hread
      exact ⟨noUnknownKeys_eq_ok_iff.1 hknown, hb⟩
    · rintro ⟨hknown, hread⟩
      exact ⟨fun _ => a, by rw [hread]; rfl, (), noUnknownKeys_eq_ok_iff.2 hknown, rfl⟩
  | _ => simp [readSection, Reading.flaw]

/-- A section without entries is read as its fields are. -/
lemma readSection_nil {read : Source → Reading α} (h : read (.record []) = .ok a) :
    readSection names read (.record []) = .ok a :=
  readSection_eq_ok_iff.2 ⟨[], rfl, fun _ hkey => (nomatch hkey), h⟩

/-! ## Fields and their defaults -/

/-- What is read where a value, or none, is found: none stands for the default. -/
def Given (read : Json → Reading α) (default : α) : Option Json → α → Prop
  | some value, a => read value = .ok a
  | none, a => a = default

lemma given_some {found : Option Json} {value : Json} (hfound : found = some value)
    (h : Given read default found a) : read value = .ok a := by
  rwa [hfound] at h

/-- **A field is its value or its default.** -/
theorem optional_eq_ok_iff :
    (Source.record entries).optional name default read = .ok a ↔
      Given read default (Entries.get? name entries) a := by
  rw [Source.optional]
  cases Entries.get? name entries with
  | some value => exact within_eq_ok_iff
  | none => exact ⟨fun h => (Reading.ok.inj h).symm, fun h => congrArg Reading.ok h.symm⟩

/-- What was read as a section was read from a value: a section that is not given counts as one
without entries. -/
lemma Given.exists_part (h : Given read default (Entries.get? name entries) a)
    (hempty : read (.record []) = .ok default) :
    ∃ part, read part = .ok a ∧ ∀ key, (Json.record entries).field? name key = part.get? key := by
  simp only [field?, Json.get?]
  cases hget : Entries.get? name entries with
  | none =>
    obtain rfl : a = default := by rwa [hget] at h
    exact ⟨.record [], hempty, fun _ => rfl⟩
  | some part => exact ⟨part, by rwa [hget] at h, fun _ => rfl⟩

/-- Records that begin with a field have the same under a name if the rest of them has, and if the
field is left out where the name is its own. -/
lemma get?_cons_of_given (write : α → Json) {payload : Json} {section_ key : String}
    {rest rest' : List (Key × Json)} (h : Given read default (payload.field? section_ key) a)
    (habsent : payload.field? section_ name = none)
    (hrest : Entries.get? name rest = Entries.get? name rest') :
    Entries.get? name ((Key.text key, write a) :: rest) =
      Entries.get? name ((Key.text key, write default) :: rest') := by
  simp only [get?_cons]
  split
  · next heq =>
    rw [heq, habsent] at h
    rw [show a = default from h]
  · exact hrest

end Payload

end WasmCoverage
