import WasmCoverage.Path.Basic
import WasmCoverage.Payload.Reading
import WasmCoverage.Proofs.Json.Bounds
import WasmCoverage.Proofs.Json.Layout

/-!
# Records written and read

A record is written as JSON with one entry per field and read back field by field.  The two
directions are tied together by `Agrees`: for records that fit, writing gives a value that can be
restored from its text, and reading that value gives the record; and whatever is read out of a
bounded value fits, also where reading coerces a value of another type.

**`Agrees.readList_write` and `Agrees.fit_of_readList`** carry this over to lists of records.
`Source.exists_of_required` and its like say where the value of a field was read, and with what.
-/

namespace WasmCoverage

open WasmCoverage.Json WasmCoverage.Payload

lemma LooseText.ofString_inj {a b : String} : ofString a = ofString b ↔ a = b := by
  constructor
  · intro h
    rw [← lossy_ofString a, h, lossy_ofString]
  · rintro rfl
    rfl

namespace Payload

variable {α β : Type}

/-! ## Readings put together -/

lemma ok_of_map {f : α → β} {x : Reading α} {b : β} (h : f <$> x = Reading.ok b) :
    ∃ a, x = .ok a ∧ f a = b := by
  cases x with
  | ok a => exact ⟨a, rfl, Reading.ok.inj h⟩
  | flawed leaves => cases h

lemma ok_of_seq {f : Reading (α → β)} {x : Reading α} {b : β} (h : f <*> x = Reading.ok b) :
    ∃ g a, f = .ok g ∧ x = .ok a ∧ g a = b :=
  Reading.seq_eq_ok_iff.1 h

lemma check_ok {rules : α → List (Option Flaw)} {a : α} (h : ∀ rule ∈ rules a, rule = none) :
    Reading.check rules (.ok a) = .ok a := by
  have hnone : (rules a).findSome? id = none := List.findSome?_eq_none_iff.2 h
  simp only [Reading.check, hnone]

/-- A value that passed its rules was read, and breaks none of them. -/
lemma ok_of_check {rules : α → List (Option Flaw)} {x : Reading α} {a : α}
    (h : Reading.check rules x = .ok a) : x = .ok a ∧ ∀ rule ∈ rules a, rule = none := by
  cases x with
  | flawed leaves => cases h
  | ok b =>
    simp only [Reading.check] at h
    split at h
    · cases h
    · next hnone =>
      obtain rfl := Reading.ok.inj h
      exact ⟨rfl, List.findSome?_eq_none_iff.1 hnone⟩

/-! ## Fields -/

lemma get?_cons (name key : String) (value : Json) (rest : List (Key × Json)) :
    Entries.get? name ((Key.text key, value) :: rest) =
      if key = name then some value else Entries.get? name rest := by
  simp only [Entries.get?, Table.get?, Key.text.injEq, LooseText.ofString_inj]

namespace Source

variable {entries : List (Key × Json)} {name : String} {value : Json} {read : Json → Reading α}
  {default a : α}

/-- The values of all fields are bounded. -/
def Bounded : Source → Prop
  | .record entries => ∀ entry ∈ entries, Json.Bounded (ofKey entry.1) ∧ Json.Bounded entry.2
  | .foreign _ => True

lemma ok_of_within {segment : Segment} {x : Reading α} (h : x.within segment = .ok a) :
    x = .ok a := by
  cases x with
  | ok b => exact h
  | flawed leaves => cases h

lemma bounded_of_get? {entries : List (Key × Json)}
    (h : ∀ entry ∈ entries, Json.Bounded (ofKey entry.1) ∧ Json.Bounded entry.2)
    (hget : Entries.get? name entries = some value) : Json.Bounded value := by
  obtain ⟨entry, hmem, rfl⟩ := Table.exists_mem_of_get? hget
  exact (h entry hmem).2

/-- **A field that must be there was read from a bounded value.** -/
lemma exists_of_required {source : Source} (hsource : source.Bounded)
    (h : source.required name read = .ok a) :
    ∃ value : Json, value.Bounded ∧ read value = .ok a := by
  cases source with
  | foreign seems => cases h
  | record entries =>
    simp only [required] at h
    split at h
    · next value hget => exact ⟨value, bounded_of_get? hsource hget, ok_of_within h⟩
    · cases h

/-- **A field that has a default is the default, or was read from a bounded value.** -/
lemma exists_of_optional {source : Source} (hsource : source.Bounded)
    (h : source.optional name default read = .ok a) :
    a = default ∨ ∃ value : Json, value.Bounded ∧ read value = .ok a := by
  cases source with
  | foreign seems =>
    simp only [optional] at h
    split at h
    · cases h
    · exact .inl (Reading.ok.inj h).symm
  | record entries =>
    simp only [optional] at h
    split at h
    · next value hget => exact .inr ⟨value, bounded_of_get? hsource hget, ok_of_within h⟩
    · exact .inl (Reading.ok.inj h).symm

end Source

lemma bounded_of_sourceOf? {payload : Json} {source : Source} (hpayload : payload.Bounded)
    (h : sourceOf? payload = some source) : source.Bounded := by
  cases hpayload with
  | record hkeys hvalues =>
    exact Option.some.inj h ▸ fun entry hentry => ⟨hkeys entry hentry, hvalues entry hentry⟩
  | text hs => exact Option.some.inj h ▸ trivial
  | list hitems => exact Option.some.inj h ▸ trivial
  | null => cases h
  | bool b => cases h
  | integer hn => cases h
  | real hx => cases h

/-- The items of a bounded value are bounded, be they characters, keys or values. -/
lemma bounded_of_itemsOf? {payload : Json} {items : List Json} (hpayload : payload.Bounded)
    (h : itemsOf? payload = some items) : ∀ item ∈ items, item.Bounded := by
  cases hpayload with
  | list hitems => exact Option.some.inj h ▸ hitems
  | text hs =>
    obtain rfl := Option.some.inj h
    simp only [List.forall_mem_map]
    exact fun point _ => .text (LooseText.whole_point point)
  | record hkeys hvalues =>
    obtain rfl := Option.some.inj h
    simpa only [List.forall_mem_map] using hkeys
  | null => cases h
  | bool b => cases h
  | integer hn => cases h
  | real hx => cases h

/-! ## Scalars -/

lemma whole_display {value : Json} (h : value.Bounded) : value.display.Whole := by
  cases h with
  | text hs => exact hs
  | null => exact LooseText.whole_ofString _
  | bool b => exact LooseText.whole_ofString _
  | integer hn => exact LooseText.whole_ofString _
  | real hx => exact LooseText.whole_ofString _
  | list hitems => exact LooseText.whole_ofString _
  | record hkeys hvalues => exact LooseText.whole_ofString _

/-- A text that was read is whole. -/
lemma whole_of_readText {value : Json} {s : LooseText} (hvalue : value.Bounded)
    (h : readText value = .ok s) : s.Whole :=
  Reading.ok.inj h ▸ whole_display hvalue

/-- A text that was read, if any, is whole. -/
lemma whole_of_readText? {value : Json} {s : Option LooseText} (hvalue : value.Bounded)
    (h : readText? value = .ok s) : ∀ text ∈ s, text.Whole := by
  unfold readText? at h
  split at h
  · obtain rfl := Reading.ok.inj h
    simp
  · obtain rfl := Reading.ok.inj h
    simpa using whole_display hvalue

/-- **A whole number that was read has no more digits than a numeral may have.** -/
lemma isShort_of_readInteger {value : Json} {n : Int} (hvalue : value.Bounded)
    (h : readInteger value = .ok n) : IsShort n := by
  cases hvalue with
  | null => cases h
  | list hitems => cases h
  | record hkeys hvalues => cases h
  | bool b =>
    obtain rfl := Reading.ok.inj h
    cases b <;> decide
  | integer hn => exact Reading.ok.inj h ▸ hn
  | @real x hx =>
    cases x with
    | finite negative significand exponent =>
      exact Reading.ok.inj h ▸ hx negative significand exponent rfl
    | infinite negative => cases h
    | nan => cases h
  | @text s hs =>
    simp only [readInteger] at h
    split at h
    · next found => exact Reading.ok.inj h ▸ Numeral.isShort_of_readLoose found
    · cases h

section Fields

variable {source : Source} (hsource : source.Bounded) {name : String}

include hsource

lemma whole_of_required {s : LooseText} (h : source.required name readText = .ok s) : s.Whole := by
  obtain ⟨value, hvalue, hread⟩ := Source.exists_of_required hsource h
  exact whole_of_readText hvalue hread

lemma whole_of_optional {s default : LooseText} (hdefault : default.Whole)
    (h : source.optional name default readText = .ok s) : s.Whole := by
  obtain rfl | ⟨value, hvalue, hread⟩ := Source.exists_of_optional hsource h
  · exact hdefault
  · exact whole_of_readText hvalue hread

lemma whole_of_optional? {s : Option LooseText}
    (h : source.optional name none readText? = .ok s) : ∀ text ∈ s, text.Whole := by
  obtain rfl | ⟨value, hvalue, hread⟩ := Source.exists_of_optional hsource h
  · simp
  · exact whole_of_readText? hvalue hread

lemma isShort_of_required {n : Int} (h : source.required name readInteger = .ok n) : IsShort n := by
  obtain ⟨value, hvalue, hread⟩ := Source.exists_of_required hsource h
  exact isShort_of_readInteger hvalue hread

lemma isShort_of_optional {n default : Int} (hdefault : IsShort default)
    (h : source.optional name default readInteger = .ok n) : IsShort n := by
  obtain rfl | ⟨value, hvalue, hread⟩ := Source.exists_of_optional hsource h
  · exact hdefault
  · exact isShort_of_readInteger hvalue hread

end Fields

lemma readText?_ofText? (s : Option LooseText) : readText? (.ofText? s) = .ok s := by
  cases s <;> rfl

/-- The name of a choice is read as the choice. -/
lemma readChoice_name {ofName? : String → Option α} {name : String} {a : α}
    (h : ofName? name = some a) : readChoice ofName? (.text name) = .ok a := by
  simp [readChoice, LooseText.lossy_ofString, h]

lemma restorable_ofText? {room : Nat} {s : Option LooseText} (h : ∀ text ∈ s, text.Whole) :
    Restorable room (.ofText? s) := by
  cases s with
  | none => exact .null
  | some text => exact .text (h text rfl)

/-! ## Rules -/

/-- The text of an absolute path begins at the root directory. -/
lemma isAbsoluteText_text {path : Path} (h : path.isAbsolute = true) :
    isAbsoluteText path.text = true := by
  obtain ⟨anchor, names⟩ := path
  cases anchor with
  | relative => cases h
  | root => simp [isAbsoluteText, Path.text, Anchor.text, LooseText.ofString, LooseText.ofChars]
  | doubleRoot =>
    simp [isAbsoluteText, Path.text, Anchor.text, LooseText.ofString, LooseText.ofChars]

lemma absolute_text (field : String) {path : Path} (h : path.isAbsolute = true) :
    absolute field path.text = none := by
  rw [absolute, isAbsoluteText_text h, if_pos rfl]

/-! ## Records -/

/-- A record whose fields have distinct names is restorable if their values are. -/
lemma restorable_record {room : Nat} (fields : List (String × Json))
    (hnames : (fields.map Prod.fst).Nodup) (hvalues : ∀ field ∈ fields, Restorable room field.2) :
    Restorable (room + 1) (.record (fields.map fun field => ((field.1 : Key), field.2))) := by
  refine .record ?_ ?_ ?_
  · have hinj : Function.Injective fun name : String => (name : Key) := fun a b h =>
      LooseText.ofString_inj.1 (Key.text.inj h)
    rw [Table.keys_eq_map, List.map_map]
    simpa [List.map_map, Function.comp_def] using hnames.map hinj
  · simp only [List.forall_mem_map]
    exact fun field _ => ⟨field.1, LooseText.whole_ofString _, rfl⟩
  · simpa only [List.forall_mem_map] using hvalues

/-- Writing and reading agree on the records that fit. -/
structure Agrees (room : Nat) (write : α → Json) (read : Json → Reading α) (Fit : α → Prop) :
    Prop where
  restorable : ∀ {a}, Fit a → Restorable room (write a)
  read_write : ∀ {a}, Fit a → read (write a) = .ok a
  fit : ∀ {payload a}, payload.Bounded → read payload = .ok a → Fit a

/-! ## Lists of records -/

lemma mem_of_all {readings : List (Reading α)} {list : List α}
    (h : Reading.all readings = .ok list) : ∀ a ∈ list, .ok a ∈ readings := by
  induction readings generalizing list with
  | nil =>
    obtain rfl := Reading.ok.inj h
    simp
  | cons first rest ih =>
    obtain ⟨g, others, hfirst, hrest, rfl⟩ := Reading.seq_eq_ok_iff.1 h
    obtain ⟨a, rfl, rfl⟩ := ok_of_map hfirst
    exact List.forall_mem_cons.2
      ⟨List.mem_cons_self, fun b hb => List.mem_cons_of_mem _ (ih hrest b hb)⟩

lemma exists_of_mem_readItems {read : Json → Reading α} {items : List Json} {index : Nat} {a : α}
    (h : .ok a ∈ readItems read index items) : ∃ item ∈ items, read item = .ok a := by
  induction items generalizing index with
  | nil => simp [readItems] at h
  | cons item items ih =>
    rcases List.mem_cons.1 h with h | h
    · exact ⟨item, List.mem_cons_self, Source.ok_of_within h.symm⟩
    · obtain ⟨item, hmem, hread⟩ := ih h
      exact ⟨item, List.mem_cons_of_mem _ hmem, hread⟩

lemma all_readItems {write : α → Json} {read : Json → Reading α} {list : List α}
    (h : ∀ a ∈ list, read (write a) = .ok a) (index : Nat) :
    Reading.all (readItems read index (list.map write)) = .ok list := by
  induction list generalizing index with
  | nil => rfl
  | cons a list ih =>
    have hrest := ih (fun b hb => h b (List.mem_cons_of_mem _ hb)) (index + 1)
    simp only [List.map_cons, readItems, Reading.all, hrest, h a List.mem_cons_self, Reading.within]
    rfl

namespace Agrees

variable {room : Nat} {write : α → Json} {read : Json → Reading α} {Fit : α → Prop}
  (agrees : Agrees room write read Fit) {list : List α}

include agrees

lemma restorable_list (h : ∀ a ∈ list, Fit a) :
    Restorable (room + 1) (.list (list.map write)) :=
  .list (by simpa only [List.forall_mem_map] using fun a ha => agrees.restorable (h a ha))

/-- **A list of records is read back.** -/
theorem readList_write (h : ∀ a ∈ list, Fit a) :
    readList read (.list (list.map write)) = .ok list :=
  all_readItems (fun a ha => agrees.read_write (h a ha)) 0

/-- **All records of a list that was read fit.** -/
theorem fit_of_readList {payload : Json} (hpayload : payload.Bounded)
    (h : readList read payload = .ok list) : ∀ a ∈ list, Fit a := by
  intro a ha
  simp only [readList] at h
  split at h
  · next items hitems =>
    obtain ⟨item, hmem, hread⟩ := exists_of_mem_readItems (mem_of_all h a ha)
    exact agrees.fit (bounded_of_itemsOf? hpayload hitems item hmem) hread
  · cases h

end Agrees

end Payload

end WasmCoverage
