import Mathlib.Data.List.TakeWhile
import WasmCoverage.Proofs.Json.Strings
import WasmCoverage.Proofs.Number.Length
import WasmCoverage.Proofs.Table

/-!
# Values read back

**A value that was written with one entry per line is read back** (`read_pretty`), if it is
`Restorable`: its texts are whole, its whole numbers have no more digits than a numeral may have,
the keys of a record are distinct texts, and it nests no deeper than the reader goes.  Numbers with
a fraction are left out.

The proof follows the value (`ReadsBack`): each kind of value is read back from whatever stands
before a text that does not continue a number (`Ended`), and a list or a record is read back if its
items are.  The fuel of the reader is bounded by the text: twice its length is always enough.
-/

namespace WasmCoverage.Json

open WasmCoverage.Text

/-! ## Whole numbers -/

/-- The text does not continue a whole number. -/
def Ended (text : List Char) : Prop :=
  ∀ c ∈ text.head?, c.isDigit = false ∧ c ≠ '.' ∧ c ≠ 'e' ∧ c ≠ 'E'

lemma ended_nil : Ended [] := by simp [Ended]

lemma ended_cons {c : Char} (h : c.isDigit = false ∧ c ≠ '.' ∧ c ≠ 'e' ∧ c ≠ 'E')
    (rest : List Char) : Ended (c :: rest) := by
  simpa [Ended] using h

/-- A row of digits has the value that its number has. -/
lemma valueOfDigits_toDigits (n : Nat) : valueOfDigits (Nat.toDigits 10 n) = n := by
  have hfold : valueOfDigits (Nat.toDigits 10 n) = Nat.ofDigitChars 10 (Nat.toDigits 10 n) 0 := by
    rw [valueOfDigits, Numeral.value, List.foldl_map]
    rfl
  rw [hfold, Nat.ofDigitChars_ten_toDigits]

lemma isDigit_toDigits {n : Nat} {c : Char} (h : c ∈ Nat.toDigits 10 n) : c.isDigit = true :=
  Nat.isDigit_of_mem_toDigits (by decide) (by decide) h

lemma isDigit_ne {c : Char} (h : c.isDigit = true) (d : Char) (hd : d.isDigit = false) : c ≠ d := by
  rintro rfl
  rw [h] at hd
  cases hd

/-- Only zero begins with a zero. -/
lemma head_toDigits (n : Nat) (hn : n ≠ 0) : (Nat.toDigits 10 n).head? ≠ some '0' := by
  induction n using Nat.strong_induction_on with
  | _ n ih =>
    rw [Nat.toDigits_eq_if (by decide)]
    split_ifs with hlt
    · have hall : ∀ n : Fin 10, n.val ≠ 0 → [n.val.digitChar].head? ≠ some '0' := by decide
      exact hall ⟨n, hlt⟩ hn
    · have hsmaller := ih (n / 10) (by omega) (by omega)
      rwa [List.head?_append_of_ne_nil _ Nat.toDigits_ne_nil]

lemma takeWhile_digits {digits rest : List Char} (h : ∀ c ∈ digits, c.isDigit = true)
    (hrest : ∀ c ∈ rest.head?, c.isDigit = false) :
    (digits ++ rest).takeWhile Char.isDigit = digits ∧
      (digits ++ rest).dropWhile Char.isDigit = rest := by
  have hnone : rest.takeWhile Char.isDigit = [] ∧ rest.dropWhile Char.isDigit = rest := by
    cases rest with
    | nil => exact ⟨rfl, rfl⟩
    | cons c rest =>
      have hc : c.isDigit = false := hrest c rfl
      simp [List.takeWhile, List.dropWhile, hc]
  rw [List.takeWhile_append_of_pos h, List.dropWhile_append_of_pos h, hnone.1, hnone.2]
  exact ⟨List.append_nil digits, rfl⟩

lemma Ended.noDigit {text : List Char} (h : Ended text) : ∀ c ∈ text.head?, c.isDigit = false :=
  fun c hc => (h c hc).1

lemma wholeDigits?_toDigits (n : Nat) {rest : List Char} (hrest : Ended rest) :
    wholeDigits? (Nat.toDigits 10 n ++ rest) = some (Nat.toDigits 10 n, rest) := by
  by_cases hn : n = 0
  · subst hn
    rfl
  · obtain ⟨c, digits, hdigits⟩ :=
      List.exists_cons_of_ne_nil (Nat.toDigits_ne_nil (b := 10) (n := n))
    have hall : ∀ d ∈ c :: digits, d.isDigit = true := fun d hd =>
      isDigit_toDigits (hdigits ▸ hd)
    have hzero : c ≠ '0' := by
      have hhead := head_toDigits n hn
      simpa [hdigits] using hhead
    obtain ⟨htake, hdrop⟩ :=
      takeWhile_digits (fun d hd => hall d (List.mem_cons_of_mem c hd)) hrest.noDigit
    simp [hdigits, wholeDigits?, hzero, hall c List.mem_cons_self, htake, hdrop]

lemma fraction?_of_ended {rest : List Char} (h : Ended rest) : fraction? rest = none := by
  unfold fraction?
  split
  · exact absurd rfl (h '.' rfl).2.1
  · rfl

lemma exponent?_of_ended {rest : List Char} (h : Ended rest) : exponent? rest = none := by
  cases rest with
  | nil => rfl
  | cons c rest =>
    obtain ⟨_, _, he, hE⟩ := h c rfl
    simp [exponent?, he, hE]

lemma toString_ofNat (n : Nat) : (toString (Int.ofNat n)).toList = Nat.toDigits 10 n := by
  change (toString n).toList = _
  rw [Nat.toString_eq_ofList_toDigits, String.toList_ofList]

lemma toString_negSucc (n : Nat) :
    (toString (Int.negSucc n)).toList = '-' :: Nat.toDigits 10 (n + 1) := by
  change ("-" ++ toString (n + 1)).toList = _
  simp

/-- A number begins with its sign or with a digit. -/
lemma head_toString (n : Int) : ∃ c rest, (toString n).toList = c :: rest ∧
    (c = '-' ∧ (∃ d more, rest = d :: more ∧ d.isDigit = true) ∨ c.isDigit = true) := by
  have hhead (m : Nat) : ∃ d more, Nat.toDigits 10 m = d :: more ∧ d.isDigit = true := by
    obtain ⟨d, more, hdigits⟩ :=
      List.exists_cons_of_ne_nil (Nat.toDigits_ne_nil (b := 10) (n := m))
    exact ⟨d, more, hdigits, isDigit_toDigits (hdigits ▸ List.mem_cons_self)⟩
  cases n with
  | ofNat n =>
    obtain ⟨d, more, hdigits, hd⟩ := hhead n
    exact ⟨d, more, by rw [toString_ofNat, hdigits], .inr hd⟩
  | negSucc n => exact ⟨'-', _, toString_negSucc n, .inl ⟨rfl, hhead (n + 1)⟩⟩

section Whole

variable {text digits rest : List Char} (hwhole : wholeDigits? text = some (digits, rest))
  (hrest : Ended rest) (hlength : digits.length ≤ digitLimit)

include hwhole hrest hlength

lemma readNumber_plain (hsign : ∀ unsigned, text ≠ '-' :: unsigned) :
    readNumber text = .ok (.integer (valueOfDigits digits), rest) := by
  have hfits : ¬digits.length > digitLimit := Nat.not_lt.2 hlength
  unfold readNumber
  simp [hwhole, fraction?_of_ended hrest, exponent?_of_ended hrest, hfits]

lemma readNumber_minus :
    readNumber ('-' :: text) = .ok (.integer (Int.negOfNat (valueOfDigits digits)), rest) := by
  have hfits : ¬digits.length > digitLimit := Nat.not_lt.2 hlength
  unfold readNumber
  simp [hwhole, fraction?_of_ended hrest, exponent?_of_ended hrest, hfits]

end Whole

/-- **A whole number is read back**, if it has no more digits than a numeral may have. -/
theorem readNumber_toString {n : Int} (hn : IsShort n)
    {rest : List Char} (hrest : Ended rest) :
    readNumber ((toString n).toList ++ rest) = .ok (.integer n, rest) := by
  cases n with
  | ofNat n =>
    have hsign : ∀ unsigned, Nat.toDigits 10 n ++ rest ≠ '-' :: unsigned := by
      intro unsigned heq
      obtain ⟨d, more, hdigits⟩ :=
        List.exists_cons_of_ne_nil (Nat.toDigits_ne_nil (b := 10) (n := n))
      have hd : d.isDigit = true := isDigit_toDigits (hdigits ▸ List.mem_cons_self)
      rw [hdigits, List.cons_append, List.cons.injEq] at heq
      exact isDigit_ne hd '-' (by decide) heq.1
    rw [toString_ofNat, readNumber_plain (wholeDigits?_toDigits n hrest) hrest hn hsign,
      valueOfDigits_toDigits]
    rfl
  | negSucc n =>
    rw [toString_negSucc, List.cons_append,
      readNumber_minus (wholeDigits?_toDigits (n + 1) hrest) hrest hn, valueOfDigits_toDigits]
    rfl

/-! ## What can be restored -/

/-- The value can be read back from its text; `room` is how deep it may nest. -/
inductive Restorable : Nat → Json → Prop where
  | null {room : Nat} : Restorable room .null
  | bool {room : Nat} (b : Bool) : Restorable room (.bool b)
  | integer {room : Nat} {n : Int} (hn : IsShort n) :
      Restorable room (.integer n)
  | text {room : Nat} {s : LooseText} (hs : s.Whole) : Restorable room (.text s)
  | list {room : Nat} {items : List Json} (hitems : ∀ item ∈ items, Restorable room item) :
      Restorable (room + 1) (.list items)
  | record {room : Nat} {entries : List (Key × Json)} (hkeys : (Table.keys entries).Nodup)
      (htexts : ∀ entry ∈ entries, ∃ s : LooseText, s.Whole ∧ entry.1 = .text s)
      (hvalues : ∀ entry ∈ entries, Restorable room entry.2) :
      Restorable (room + 1) (.record entries)

/-- The value is read back from its text at any level, whatever stands after it. -/
def ReadsBack (room : Nat) (value : Json) : Prop :=
  ∀ (level fuel : Nat) (rest : List Char), Ended rest →
    2 * (writePretty level value).length ≤ fuel →
    readValue fuel room (writePretty level value ++ rest) = .ok (value, rest)

/-- The text begins with a character that a value can begin with. -/
def Begun (text : List Char) : Prop :=
  ∃ c rest, text = c :: rest ∧ isSpace c = false ∧ c ≠ ']' ∧ c ≠ '}'

lemma begun_toString (n : Int) : Begun (toString n).toList := by
  obtain ⟨c, rest, htext, ⟨rfl, _⟩ | hdigit⟩ := head_toString n
  · exact ⟨'-', rest, htext, by decide, by decide, by decide⟩
  · refine ⟨c, rest, htext, ?_, isDigit_ne hdigit _ (by decide), isDigit_ne hdigit _ (by decide)⟩
    simp [isSpace, isDigit_ne hdigit]

/-- **The text of a value begins with no blank and closes nothing.** -/
lemma begun_writePretty {room : Nat} {value : Json} (h : Restorable room value) (level : Nat) :
    Begun (writePretty level value) := by
  cases h with
  | null => exact ⟨'n', _, rfl, by decide, by decide, by decide⟩
  | bool b =>
    cases b with
    | false => exact ⟨'f', _, rfl, by decide, by decide, by decide⟩
    | true => exact ⟨'t', _, rfl, by decide, by decide, by decide⟩
  | integer hn => exact begun_toString _
  | text hs => exact ⟨'"', _, rfl, by decide, by decide, by decide⟩
  | @list room items hitems =>
    cases items with
    | nil => exact ⟨'[', _, rfl, by decide, by decide, by decide⟩
    | cons item items => exact ⟨'[', _, rfl, by decide, by decide, by decide⟩
  | @record room entries hkeys htexts hvalues =>
    cases entries with
    | nil => exact ⟨'{', _, rfl, by decide, by decide, by decide⟩
    | cons entry entries => exact ⟨'{', _, rfl, by decide, by decide, by decide⟩

/-! ## Blanks -/

lemma skip_of_begun {text : List Char} (h : Begun text) (rest : List Char) :
    skip (text ++ rest) = text ++ rest := by
  obtain ⟨c, more, rfl, hc, _⟩ := h
  simp [skip, hc]

/-- Line breaks and indentation are passed over. -/
lemma skip_newLine (level : Nat) (text : List Char) : skip (newLine level ++ text) = skip text := by
  have hall : ∀ c ∈ newLine level, isSpace c = true := by
    intro c hc
    rcases List.mem_cons.1 hc with rfl | hc
    · decide
    · rw [List.eq_of_mem_replicate hc]
      decide
  exact List.dropWhile_append_of_pos hall

/-! ## Scalars -/

lemma literal?_of_number {c : Char} {rest : List Char}
    (h : c = '-' ∧ (∃ d more, rest = d :: more ∧ d.isDigit = true) ∨ c.isDigit = true) :
    literal? (c :: rest) = none := by
  rcases h with ⟨rfl, d, more, rfl, hd⟩ | hc
  · have hI : d ≠ 'I' := isDigit_ne hd _ (by decide)
    simp [literal?, literals, List.isPrefixOf, Ne.symm hI]
  · have hne (d : Char) (hd : d.isDigit = false) : ¬d = c := Ne.symm (isDigit_ne hc d hd)
    simp [literal?, literals, List.isPrefixOf, hne]

/-- What begins as a number and is read as one is a value. -/
lemma readValue_of_number {text rest : List Char} {value : Json}
    (hhead : ∃ c more, text = c :: more ∧
      (c = '-' ∧ (∃ d digits, more = d :: digits ∧ d.isDigit = true) ∨ c.isDigit = true))
    (hnumber : readNumber (text ++ rest) = .ok (value, rest)) (fuel room : Nat) :
    readValue (fuel + 1) room (text ++ rest) = .ok (value, rest) := by
  obtain ⟨c, more, rfl, hhead⟩ := hhead
  rw [List.cons_append] at hnumber ⊢
  have hliteral : literal? (c :: (more ++ rest)) = none := by
    refine literal?_of_number (hhead.imp ?_ id)
    rintro ⟨rfl, d, digits, rfl, hd⟩
    exact ⟨rfl, d, digits ++ rest, rfl, hd⟩
  have hopen : c ≠ '"' ∧ c ≠ '{' ∧ c ≠ '[' := by
    rcases hhead with ⟨rfl, _⟩ | hc
    · decide
    · exact ⟨isDigit_ne hc _ (by decide), isDigit_ne hc _ (by decide), isDigit_ne hc _ (by decide)⟩
  simp only [readValue, hopen.1, hopen.2.1, hopen.2.2, if_false, hliteral, hnumber]

lemma readsBack_integer (room : Nat) {n : Int}
    (hn : IsShort n) :
    ReadsBack room (.integer n) := by
  intro level fuel rest hrest hfuel
  obtain ⟨c, more, htext, hhead⟩ := head_toString n
  have hwritten : writePretty level (.integer n) = (toString n).toList := by
    simp [writePretty, writeScalar]
  rw [hwritten] at hfuel ⊢
  obtain ⟨fuel, rfl⟩ : ∃ k, fuel = k + 1 :=
    Nat.exists_eq_succ_of_ne_zero (by simp only [htext, List.length_cons] at hfuel; omega)
  exact readValue_of_number ⟨c, more, htext, hhead⟩ (readNumber_toString hn hrest) fuel room

lemma le_length_writePoint (point : Point) : 1 ≤ (writePoint point).length := by
  cases point with
  | half half => simp [writePoint, unitEscape]
  | char c =>
    have hform := form_writeChar c
    simp only [writePoint]
    generalize writeChar c = written at hform
    cases hform <;> simp [unitEscape]

lemma length_le_flatMap_writePoint (points : List Point) :
    points.length ≤ (points.flatMap writePoint).length := by
  induction points with
  | nil => rfl
  | cons point points ih =>
    have := le_length_writePoint point
    simp only [List.flatMap_cons, List.length_append, List.length_cons]
    omega

/-- A text is read back, given fuel for each of its characters. -/
lemma readString_writeString (s : LooseText) (hs : s.Whole) (fuel : Nat) (rest : List Char)
    (hfuel : (writeString s).length ≤ fuel + 1) (opening : List Char) :
    readString opening fuel (s.points.flatMap writePoint ++ '"' :: rest) =
      .ok (s.points, rest) := by
  refine readString_written opening rest hs ?_
  have := length_le_flatMap_writePoint s.points
  simp only [writeString, List.length_cons, List.length_append, List.length_nil] at hfuel
  omega

lemma readsBack_text (room : Nat) {s : LooseText} (hs : s.Whole) : ReadsBack room (.text s) := by
  intro level fuel rest _ hfuel
  have hwritten : writePretty level (.text s) = writeString s := by simp [writePretty, writeScalar]
  rw [hwritten] at hfuel ⊢
  have hlength : 2 ≤ (writeString s).length := by simp [writeString]
  obtain ⟨fuel, rfl⟩ : ∃ k, fuel = k + 1 := Nat.exists_eq_succ_of_ne_zero (by omega)
  have hstring := readString_writeString s hs fuel rest (by omega)
  simp [writeString, readValue, hstring, bind, Except.bind, pure, Except.pure]

lemma readsBack_null (room : Nat) : ReadsBack room .null := by
  intro level fuel rest _ hfuel
  obtain ⟨fuel, rfl⟩ : ∃ k, fuel = k + 1 :=
    Nat.exists_eq_succ_of_ne_zero (by simp [writePretty, writeScalar] at hfuel; omega)
  rfl

lemma readsBack_bool (room : Nat) (b : Bool) : ReadsBack room (.bool b) := by
  intro level fuel rest _ hfuel
  obtain ⟨fuel, rfl⟩ : ∃ k, fuel = k + 1 :=
    Nat.exists_eq_succ_of_ne_zero (by
      cases b <;> simp [writePretty, writeScalar] at hfuel <;> omega)
  cases b <;> rfl

/-! ## Lists and records -/

lemma ended_newLine (level : Nat) (rest : List Char) : Ended (newLine level ++ rest) :=
  ended_cons (by decide) _

lemma ended_comma (rest : List Char) : Ended (',' :: rest) :=
  ended_cons (by decide) _

lemma skip_close (level : Nat) {close : Char} (h : isSpace close = false) (rest : List Char) :
    skip (newLine level ++ close :: rest) = close :: rest := by
  rw [skip_newLine, skip, List.dropWhile, h]

/-- The pieces begin as the first of them does. -/
lemma begun_between {separator piece : List Char} (h : Begun piece) (pieces : List (List Char)) :
    Begun (between separator (piece :: pieces)) := by
  obtain ⟨c, more, rfl, hc⟩ := h
  cases pieces with
  | nil => exact ⟨c, more, rfl, hc⟩
  | cons next rest => exact ⟨c, _, rfl, hc⟩

lemma skip_comma (rest : List Char) : skip (',' :: rest) = ',' :: rest := rfl

lemma skip_colon (rest : List Char) : skip (':' :: rest) = ':' :: rest := rfl

lemma skip_blank (rest : List Char) : skip (' ' :: rest) = skip rest := rfl

/-- **Items are read back** up to the closing bracket. -/
lemma readItems_pretty {room : Nat} (level outer : Nat) (rest : List Char) :
    ∀ (items : List Json) (fuel : Nat), items ≠ [] → (∀ item ∈ items, ReadsBack room item) →
      (∀ item ∈ items, Begun (writePretty level item)) →
      2 * (between (',' :: newLine level) (prettyItems level items)).length + 1 ≤ fuel →
      readItems fuel room (between (',' :: newLine level) (prettyItems level items) ++
        (newLine outer ++ ']' :: rest)) = .ok (items, rest)
  | [item], fuel + 1, _, hback, _, hfuel => by
      simp only [prettyItems, between] at hfuel ⊢
      have hitem := hback item (by simp) level fuel _ (ended_newLine outer (']' :: rest)) (by omega)
      simp only [readItems, hitem, skip_close outer (show isSpace ']' = false by decide), bind,
        Except.bind, pure, Except.pure]
  | item :: next :: items, fuel + 1, _, hback, hbegun, hfuel => by
      have hrest := readItems_pretty level outer rest (next :: items) fuel
        (by simp) (fun item hitem => hback item (List.mem_cons_of_mem _ hitem))
        (fun item hitem => hbegun item (List.mem_cons_of_mem _ hitem))
      have hnext : Begun (between (',' :: newLine level) (prettyItems level (next :: items))) :=
        begun_between (hbegun next (by simp)) _
      simp only [prettyItems, between, List.append_assoc, List.length_append, List.length_cons,
        List.cons_append] at hfuel hrest hnext ⊢
      have hitem := hback item (by simp) level fuel _ (ended_comma (newLine level ++
        (between (',' :: newLine level) (writePretty level next :: prettyItems level items) ++
          (newLine outer ++ ']' :: rest)))) (by omega)
      rw [readItems, hitem]
      simp only [skip, List.dropWhile, show isSpace ',' = false by decide, bind, Except.bind, pure,
        Except.pure]
      rw [← skip, skip_newLine, skip_of_begun hnext, hrest (by omega)]

section Entry

variable {room fuel level : Nat} {s : LooseText} {value : Json} {tail : List Char}
  (hs : s.Whole) (hback : ReadsBack room value) (hbegun : Begun (writePretty level value))
  (htail : Ended tail)
  (hfuel : 2 * ((writeString s).length + (writePretty level value).length) ≤ fuel)

include hs hback hbegun htail hfuel

/-- The last entry is read back. -/
lemma readEntries_last {rest : List Char} (hclose : skip tail = '}' :: rest) :
    readEntries (fuel + 1) room
        (writeString s ++ ':' :: ' ' :: (writePretty level value ++ tail)) =
      .ok ([(.text s, value)], rest) := by
  have hname := readString_writeString s hs fuel
    (':' :: ' ' :: (writePretty level value ++ tail)) (by omega)
  have hvalue := hback level fuel tail htail (by omega)
  simp only [writeString, List.append_assoc, List.cons_append, List.nil_append] at hname ⊢
  rw [readEntries]
  simp only [hname, skip_colon, skip_blank, skip_of_begun hbegun, hvalue, hclose, bind, Except.bind,
    pure, Except.pure]

/-- An entry with others after it is read back if they are. -/
lemma readEntries_more {rest more : List Char} {entries : List (Key × Json)}
    (hcomma : skip tail = ',' :: more)
    (hmore : readEntries fuel room (skip more) = .ok (entries, rest)) :
    readEntries (fuel + 1) room
        (writeString s ++ ':' :: ' ' :: (writePretty level value ++ tail)) =
      .ok ((.text s, value) :: entries, rest) := by
  have hname := readString_writeString s hs fuel
    (':' :: ' ' :: (writePretty level value ++ tail)) (by omega)
  have hvalue := hback level fuel tail htail (by omega)
  simp only [writeString, List.append_assoc, List.cons_append, List.nil_append] at hname ⊢
  rw [readEntries]
  simp only [hname, skip_colon, skip_blank, skip_of_begun hbegun, hvalue, hcomma, hmore, bind,
    Except.bind, pure, Except.pure]

end Entry

/-- **Entries are read back** up to the closing brace. -/
lemma readEntries_pretty {room : Nat} (level outer : Nat) (rest : List Char) :
    ∀ (entries : List (Key × Json)) (fuel : Nat), entries ≠ [] →
      (∀ entry ∈ entries, ∃ s : LooseText, s.Whole ∧ entry.1 = .text s) →
      (∀ entry ∈ entries, ReadsBack room entry.2) →
      (∀ entry ∈ entries, Begun (writePretty level entry.2)) →
      2 * (between (',' :: newLine level) (prettyEntries level entries)).length + 1 ≤ fuel →
      readEntries fuel room (between (',' :: newLine level) (prettyEntries level entries) ++
        (newLine outer ++ '}' :: rest)) = .ok (entries, rest)
  | [(key, value)], fuel + 1, _, htexts, hback, hbegun, hfuel => by
      obtain ⟨s, hs, rfl⟩ : ∃ s : LooseText, s.Whole ∧ key = .text s :=
        htexts (key, value) (by simp)
      have hvalue : ReadsBack room value := hback _ (List.mem_singleton_self _)
      have hfirst : Begun (writePretty level value) := hbegun _ (List.mem_singleton_self _)
      simp only [prettyEntries, between, nameOf, List.length_append, List.length_cons,
        List.append_assoc, List.cons_append] at hfuel ⊢
      exact readEntries_last hs hvalue hfirst (ended_newLine outer _) (by omega)
        (skip_close outer (by decide) rest)
  | (key, value) :: next :: entries, fuel + 1, _, htexts, hback, hbegun, hfuel => by
      obtain ⟨s, hs, rfl⟩ : ∃ s : LooseText, s.Whole ∧ key = .text s :=
        htexts (key, value) (by simp)
      have hvalue : ReadsBack room value := hback _ List.mem_cons_self
      have hfirst : Begun (writePretty level value) := hbegun _ List.mem_cons_self
      have hrest := readEntries_pretty level outer rest (next :: entries) fuel
        (by simp) (fun entry hentry => htexts entry (List.mem_cons_of_mem _ hentry))
        (fun entry hentry => hback entry (List.mem_cons_of_mem _ hentry))
        (fun entry hentry => hbegun entry (List.mem_cons_of_mem _ hentry))
      have hnext : Begun (between (',' :: newLine level) (prettyEntries level (next :: entries))) :=
        begun_between ⟨'"', _, rfl, by decide, by decide, by decide⟩ _
      simp only [prettyEntries, between, nameOf, List.length_append, List.length_cons,
        List.append_assoc, List.cons_append] at hfuel hrest hnext ⊢
      refine readEntries_more hs hvalue hfirst (ended_comma _) (by omega) (skip_comma _) ?_
      rw [skip_newLine, skip_of_begun hnext]
      exact hrest (by omega)

/-! ## Values -/

section Brackets

variable {fuel room : Nat} {text tail rest : List Char} (hbegun : Begun text) (level : Nat)

include hbegun

/-- Items between brackets are read as a list. -/
lemma readValue_list {items : List Json}
    (hread : readItems fuel room (text ++ tail) = .ok (items, rest)) :
    readValue (fuel + 1) (room + 1) ('[' :: (newLine level ++ (text ++ tail))) =
      .ok (.list items, rest) := by
  have hskip : skip (newLine level ++ (text ++ tail)) = text ++ tail := by
    rw [skip_newLine, skip_of_begun hbegun]
  obtain ⟨c, more, rfl, _, hclose, _⟩ := hbegun
  simp only [List.cons_append] at hskip hread ⊢
  simp [readValue, hskip, hread, hclose, bind, Except.bind, pure, Except.pure]

/-- Entries between braces are read as a record. -/
lemma readValue_record {entries : List (Key × Json)}
    (hread : readEntries fuel room (text ++ tail) = .ok (entries, rest)) :
    readValue (fuel + 1) (room + 1) ('{' :: (newLine level ++ (text ++ tail))) =
      .ok (.record (Table.ofList entries), rest) := by
  have hskip : skip (newLine level ++ (text ++ tail)) = text ++ tail := by
    rw [skip_newLine, skip_of_begun hbegun]
  obtain ⟨c, more, rfl, _, _, hclose⟩ := hbegun
  simp only [List.cons_append] at hskip hread ⊢
  simp [readValue, hskip, hread, hclose, bind, Except.bind, pure, Except.pure]

end Brackets

lemma length_block (opening closing : Char) (level : Nat) (pieces : List (List Char)) :
    (between (',' :: newLine (level + 1)) pieces).length + 2 ≤
      (block opening closing level pieces).length := by
  simp only [block, List.length_append, List.length_cons, List.length_nil]
  omega

/-- **A value is read back** from its text at any level, whatever stands after it. -/
theorem readsBack {room : Nat} {value : Json} (h : Restorable room value) :
    ReadsBack room value := by
  induction h with
  | null => exact readsBack_null _
  | bool b => exact readsBack_bool _ b
  | integer hn => exact readsBack_integer _ hn
  | text hs => exact readsBack_text _ hs
  | @list room items hitems ih =>
    intro level fuel rest _ hfuel
    cases items with
    | nil =>
      obtain ⟨fuel, rfl⟩ : ∃ k, fuel = k + 1 :=
        Nat.exists_eq_succ_of_ne_zero (by simp [writePretty, writeScalar] at hfuel; omega)
      rfl
    | cons item items =>
      have hlength := length_block '[' ']' level (prettyItems (level + 1) (item :: items))
      rw [writePretty] at hfuel ⊢
      obtain ⟨fuel, rfl⟩ : ∃ k, fuel = k + 1 := Nat.exists_eq_succ_of_ne_zero (by omega)
      have hread := readItems_pretty (level + 1) level rest (item :: items) fuel
        (by simp) ih (fun item hitem => begun_writePretty (hitems item hitem) (level + 1))
        (by omega)
      have hbegun : Begun (between (',' :: newLine (level + 1))
          (prettyItems (level + 1) (item :: items))) :=
        begun_between (begun_writePretty (hitems item (by simp)) (level + 1)) _
      simpa [block] using readValue_list hbegun (level + 1) hread
  | @record room entries hkeys htexts hvalues ih =>
    intro level fuel rest _ hfuel
    cases entries with
    | nil =>
      obtain ⟨fuel, rfl⟩ : ∃ k, fuel = k + 1 :=
        Nat.exists_eq_succ_of_ne_zero (by simp [writePretty, writeScalar] at hfuel; omega)
      rfl
    | cons entry entries =>
      have hlength := length_block '{' '}' level (prettyEntries (level + 1) (entry :: entries))
      rw [writePretty] at hfuel ⊢
      obtain ⟨fuel, rfl⟩ : ∃ k, fuel = k + 1 := Nat.exists_eq_succ_of_ne_zero (by omega)
      have hread := readEntries_pretty (level + 1) level rest (entry :: entries) fuel
        (by simp) htexts ih
        (fun entry hentry => begun_writePretty (hvalues entry hentry) (level + 1)) (by omega)
      have hbegun : Begun (between (',' :: newLine (level + 1))
          (prettyEntries (level + 1) (entry :: entries))) :=
        begun_between ⟨'"', _, rfl, by decide, by decide, by decide⟩ _
      have hrecord := readValue_record hbegun (level + 1) hread
      rw [Table.ofList_of_nodup hkeys] at hrecord
      simpa [block] using hrecord

/-! ## Whole texts -/

lemma mem_between {c : Char} {separator : List Char} : ∀ {pieces : List (List Char)},
    c ∈ between separator pieces → c ∈ separator ∨ ∃ piece ∈ pieces, c ∈ piece
  | [piece], h => .inr ⟨piece, List.mem_singleton_self piece, h⟩
  | piece :: next :: pieces, h => by
      simp only [between, List.append_assoc, List.mem_append] at h
      rcases h with h | h | h
      · exact .inr ⟨piece, List.mem_cons_self, h⟩
      · exact .inl h
      · refine (mem_between h).imp_right ?_
        rintro ⟨piece', hmem, hc⟩
        exact ⟨piece', List.mem_cons_of_mem _ hmem, hc⟩

/-- The character is a line feed or printable ASCII. -/
def IsPlain (c : Char) : Prop :=
  c = '\n' ∨ 0x20 ≤ c.toNat ∧ c.toNat ≤ 0x7E

instance : DecidablePred IsPlain := fun _ => inferInstanceAs (Decidable (_ ∨ _))

lemma isPlain_newLine {level : Nat} {c : Char} (h : c ∈ newLine level) : IsPlain c := by
  rcases List.mem_cons.1 h with rfl | h
  · decide
  · rw [List.eq_of_mem_replicate h]
    decide

lemma isPlain_unitEscape {unit : Nat} {c : Char} (h : c ∈ unitEscape unit) : IsPlain c := by
  have hdigit : ∀ n : Fin 16, IsPlain (hexDigit n.val) := by decide
  have hdigits {n : Nat} : IsPlain (hexDigit (n % 16)) := hdigit ⟨n % 16, Nat.mod_lt n (by decide)⟩
  simp only [unitEscape, hexDigits, List.nil_append, List.cons_append, List.mem_cons,
    List.not_mem_nil, or_false] at h
  obtain rfl | rfl | rfl | rfl | rfl | rfl := h
  · decide
  · decide
  all_goals exact hdigits

lemma isPlain_of_escaped? {e c : Char} (h : escaped? e = some c) : IsPlain e := by
  unfold escaped? at h
  split at h
  all_goals first | decide | cases h

lemma isPlain_writePoint {point : Point} {e : Char} (h : e ∈ writePoint point) : IsPlain e := by
  cases point with
  | half half => exact isPlain_unitEscape h
  | char c =>
    have hform := form_writeChar c
    simp only [writePoint] at h
    generalize writeChar c = written at hform h
    cases hform with
    | letter hu he =>
      simp only [List.mem_cons, List.not_mem_nil, or_false] at h
      obtain rfl | rfl := h
      · decide
      · exact isPlain_of_escaped? he
    | plain hquote hslash hc => exact List.mem_singleton.1 h ▸ .inr hc
    | unit hc => exact isPlain_unitEscape h
    | pair hc => exact (List.mem_append.1 h).elim isPlain_unitEscape isPlain_unitEscape

lemma isPlain_block {opening closing : Char} {level : Nat} {pieces : List (List Char)} {c : Char}
    (hopening : IsPlain opening) (hclosing : IsPlain closing)
    (hpieces : ∀ piece ∈ pieces, ∀ c ∈ piece, IsPlain c)
    (h : c ∈ block opening closing level pieces) : IsPlain c := by
  simp only [block, List.cons_append, List.append_assoc, List.mem_cons, List.mem_append,
    List.not_mem_nil, or_false] at h
  rcases h with rfl | h | h | h | rfl
  · exact hopening
  · exact isPlain_newLine h
  · obtain h | ⟨piece, hmem, hc⟩ := mem_between h
    · rcases List.mem_cons.1 h with rfl | h
      · decide
      · exact isPlain_newLine h
    · exact hpieces piece hmem c hc
  · exact isPlain_newLine h
  · exact hclosing

lemma prettyItems_eq_map (level : Nat) (items : List Json) :
    prettyItems level items = items.map (writePretty level) := by
  induction items with
  | nil => rfl
  | cons item rest ih => rw [prettyItems, ih, List.map_cons]

lemma prettyEntries_eq_map (level : Nat) (entries : List (Key × Json)) :
    prettyEntries level entries = entries.map fun entry =>
      writeString (nameOf entry.1) ++ ':' :: ' ' :: writePretty level entry.2 := by
  induction entries with
  | nil => rfl
  | cons entry rest ih => rw [prettyEntries, ih, List.map_cons]

lemma isPlain_writeString {s : LooseText} {c : Char} (h : c ∈ writeString s) : IsPlain c := by
  simp only [writeString, List.cons_append, List.mem_cons, List.mem_append, List.mem_flatMap,
    List.not_mem_nil, or_false] at h
  obtain rfl | ⟨point, _, h⟩ | rfl := h
  · decide
  · exact isPlain_writePoint h
  · decide

lemma isPlain_digit {c : Char} (h : c.isDigit = true) : IsPlain c := by
  simp only [Char.isDigit, Bool.and_eq_true, decide_eq_true_eq] at h
  have hfirst : 48 ≤ c.val.toNat := UInt32.le_iff_toNat_le.1 h.1
  have hlast : c.val.toNat ≤ 57 := UInt32.le_iff_toNat_le.1 h.2
  refine .inr (show 0x20 ≤ c.val.toNat ∧ c.val.toNat ≤ 0x7E from ?_)
  omega

lemma isPlain_toString {n : Int} {c : Char} (h : c ∈ (toString n).toList) : IsPlain c := by
  cases n with
  | ofNat n => exact isPlain_digit (isDigit_toDigits (toString_ofNat n ▸ h))
  | negSucc n =>
    rw [toString_negSucc] at h
    rcases List.mem_cons.1 h with rfl | h
    · decide
    · exact isPlain_digit (isDigit_toDigits h)

lemma isPlain_of_all (text : List Char) (h : text.all (fun c => decide (IsPlain c)) = true) :
    ∀ c ∈ text, IsPlain c :=
  fun c hc => of_decide_eq_true (List.all_eq_true.1 h c hc)

/-- **A value is written in printable ASCII and line feeds.** -/
theorem isPlain_writePretty {room : Nat} {value : Json} (h : Restorable room value) (level : Nat) :
    ∀ c ∈ writePretty level value, IsPlain c := by
  induction h generalizing level with
  | null => exact isPlain_of_all "null".toList (by decide)
  | bool b =>
    cases b with
    | false => exact isPlain_of_all "false".toList (by decide)
    | true => exact isPlain_of_all "true".toList (by decide)
  | integer hn => exact fun c hc => isPlain_toString (by simpa [writePretty, writeScalar] using hc)
  | text hs => exact fun c hc => isPlain_writeString (by simpa [writePretty, writeScalar] using hc)
  | @list room items hitems ih =>
    cases items with
    | nil => exact isPlain_of_all ['[', ']'] (by decide)
    | cons item items =>
      intro c hc
      rw [writePretty, prettyItems_eq_map] at hc
      refine isPlain_block (by decide) (by decide) (fun piece hpiece => ?_) hc
      obtain ⟨item, hitem, rfl⟩ := List.mem_map.1 hpiece
      exact ih item hitem (level + 1)
  | @record room entries hkeys htexts hvalues ih =>
    cases entries with
    | nil => exact isPlain_of_all ['{', '}'] (by decide)
    | cons entry entries =>
      intro c hc
      rw [writePretty, prettyEntries_eq_map] at hc
      refine isPlain_block (by decide) (by decide) (fun piece hpiece c hc => ?_) hc
      obtain ⟨entry, hentry, rfl⟩ := List.mem_map.1 hpiece
      simp only [List.mem_append, List.mem_cons] at hc
      obtain hc | rfl | rfl | hc := hc
      · exact isPlain_writeString hc
      · decide
      · decide
      · exact ih entry hentry (level + 1) c hc

/-- A whole text is printable ASCII and line feeds too. -/
lemma isPlain_pretty {room : Nat} {value : Json} (h : Restorable room value) :
    ∀ c ∈ (value.pretty ++ "\n").toList, IsPlain c := by
  intro c hc
  simp only [pretty, String.toList_append, String.toList_ofList, List.mem_append] at hc
  rcases hc with hc | hc
  · exact isPlain_writePretty h 0 c hc
  · exact .inl (List.mem_singleton.1 hc)

/-- **What was written with one entry per line is read back.** -/
theorem read_pretty {depth : Nat} {value : Json} (h : Restorable depth value) :
    read depth (value.pretty ++ "\n").toList = .ok value := by
  have htext : (value.pretty ++ "\n").toList = writePretty 0 value ++ ['\n'] := by
    simp [pretty]
  have hread := readsBack h 0 (2 * (writePretty 0 value ++ ['\n']).length + 2) ['\n']
    (ended_cons (by decide) []) (by simp only [List.length_append]; omega)
  have hskip := skip_of_begun (begun_writePretty h 0) ['\n']
  have hmark : (writePretty 0 value ++ ['\n']).head? ≠ some '\uFEFF' := by
    obtain ⟨c, more, hwritten, _⟩ := begun_writePretty h 0
    have hc : IsPlain c := isPlain_writePretty h 0 c (hwritten ▸ List.mem_cons_self)
    rw [hwritten]
    rintro ⟨⟩
    exact absurd hc (by decide)
  have hend : skip ['\n'] = [] := rfl
  rw [htext, read, readAll, if_neg hmark]
  simp only [hskip, hread, hend, bind, Except.bind, pure, Except.pure]
  rfl

end WasmCoverage.Json
