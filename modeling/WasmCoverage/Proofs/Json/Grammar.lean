import WasmCoverage.Proofs.Json.Layout

/-!
# The texts of a value

JSON has many texts for one value: blanks may stand between all tokens, every character of a string
may be escaped, and a number may have a fraction or an exponent.  The grammar says which texts spell
a value (`Spells`), without reference to the reader.  It keeps the two limits: a whole number has at
most `digitLimit` digits, and `room` is how deep the value may nest.

**What spells a value is read as it** (`readAll_of_spells`), whatever blanks stand around it.  The
proof is by induction on the derivation.  As in the case of written texts, a value is read back from
whatever stands before a text that does not continue a number, and twice the length of a text is
enough fuel.
-/

namespace WasmCoverage.Json

open WasmCoverage.Text

/-! ## The grammar -/

/-- The text consists of characters that may stand between tokens. -/
def Spaces (text : List Char) : Prop :=
  ∀ c ∈ text, isSpace c = true

/-- The text goes on with the escape of a low half. -/
def LowFollows (text : List Char) : Prop :=
  ∃ a b c d rest unit, text = '\\' :: 'u' :: a :: b :: c :: d :: rest ∧
    hexNumber? [a, b, c, d] = some unit ∧ isLowHalf unit = true

/-- The inside of a string, and its points. -/
inductive Inside : List Char → List Point → Prop where
  | nil : Inside [] []
  | plain {c : Char} {text : List Char} {points : List Point} (hquote : c ≠ '"') (hslash : c ≠ '\\')
      (hc : 0x20 ≤ c.toNat) (more : Inside text points) : Inside (c :: text) (.char c :: points)
  | letter {e c : Char} {text : List Char} {points : List Point} (he : escaped? e = some c)
      (more : Inside text points) : Inside ('\\' :: e :: text) (.char c :: points)
  | unit {a b c d : Char} {unit : Nat} {text : List Char} {points : List Point}
      (hunit : hexNumber? [a, b, c, d] = some unit)
      (halone : isHighHalf unit = true → ¬LowFollows text) (more : Inside text points) :
      Inside ('\\' :: 'u' :: a :: b :: c :: d :: text) (ofUnit unit :: points)
  | pair {a b c d a' b' c' d' : Char} {high low : Nat} {text : List Char} {points : List Point}
      (hhigh : hexNumber? [a, b, c, d] = some high) (hisHigh : isHighHalf high = true)
      (hlow : hexNumber? [a', b', c', d'] = some low) (hisLow : isLowHalf low = true)
      (more : Inside text points) :
      Inside ('\\' :: 'u' :: a :: b :: c :: d :: '\\' :: 'u' :: a' :: b' :: c' :: d' :: text)
        (ofHalves high low :: points)

/-- A row of digits. -/
def Digits (text : List Char) : Prop :=
  text ≠ [] ∧ ∀ c ∈ text, c.isDigit = true

/-- The digits before the point: one zero, or a row that does not begin with one. -/
def WholeDigits (text : List Char) : Prop :=
  Digits text ∧ (text = ['0'] ∨ text.head? ≠ some '0')

/-- The sign of a number. -/
def sign (negative : Bool) : List Char :=
  if negative then ['-'] else []

/-- A number with a sign. -/
def signed (negative : Bool) (size : Nat) : Int :=
  if negative then Int.negOfNat size else size

/-- A fraction or none, and its digits. -/
inductive Fraction : List Char → List Char → Prop where
  | absent : Fraction [] []
  | places {places : List Char} (h : Digits places) : Fraction ('.' :: places) places

/-- An exponent or none, and its value. -/
inductive Exponent : List Char → Int → Prop where
  | absent : Exponent [] 0
  | power {e : Char} {digits : List Char} (negative : Bool) (he : e = 'e' ∨ e = 'E')
      (h : Digits digits) : Exponent (e :: sign negative ++ digits)
        (signed negative (valueOfDigits digits))
  | plus {e : Char} {digits : List Char} (he : e = 'e' ∨ e = 'E') (h : Digits digits) :
      Exponent (e :: '+' :: digits) (valueOfDigits digits)

/-- The text of a number. -/
inductive Numeral : List Char → Json → Prop where
  | whole (negative : Bool) {digits : List Char} (h : WholeDigits digits)
      (hlength : digits.length ≤ digitLimit) :
      Numeral (sign negative ++ digits) (.integer (signed negative (valueOfDigits digits)))
  | real (negative : Bool) {digits fraction places exponent : List Char} {power : Int}
      (h : WholeDigits digits) (hfraction : Fraction fraction places)
      (hexponent : Exponent exponent power) (hreal : fraction ≠ [] ∨ exponent ≠ []) :
      Numeral (sign negative ++ (digits ++ (fraction ++ exponent)))
        (.real (.ofDecimal negative (valueOfDigits (digits ++ places)) (power - places.length)))

/-- The word for a truth value. -/
def word (b : Bool) : List Char :=
  if b then "true".toList else "false".toList

mutual

/-- The text of a value that nests at most `room` deep. -/
inductive Spells : Nat → List Char → Json → Prop where
  | null {room : Nat} : Spells room "null".toList .null
  | bool {room : Nat} (b : Bool) : Spells room (word b) (.bool b)
  | number {room : Nat} {text : List Char} {value : Json} (h : Numeral text value) :
      Spells room text value
  | text {room : Nat} {inside : List Char} {points : List Point} (h : Inside inside points) :
      Spells room ('"' :: (inside ++ ['"'])) (.text ⟨points⟩)
  | noItems {room : Nat} {blank : List Char} (h : Spaces blank) :
      Spells (room + 1) ('[' :: (blank ++ [']'])) (.list [])
  | list {room : Nat} {text : List Char} {items : List Json} (h : SpellsItems room text items) :
      Spells (room + 1) ('[' :: (text ++ [']'])) (.list items)
  | noEntries {room : Nat} {blank : List Char} (h : Spaces blank) :
      Spells (room + 1) ('{' :: (blank ++ ['}'])) (.record [])
  | record {room : Nat} {text : List Char} {entries : List (Key × Json)}
      (h : SpellsEntries room text entries) :
      Spells (room + 1) ('{' :: (text ++ ['}'])) (.record (Table.ofList entries))

/-- The text of items, with commas between them. -/
inductive SpellsItems : Nat → List Char → List Json → Prop where
  | last {room : Nat} {before text after : List Char} {item : Json} (hbefore : Spaces before)
      (h : Spells room text item) (hafter : Spaces after) :
      SpellsItems room (before ++ (text ++ after)) [item]
  | more {room : Nat} {before text after rest : List Char} {item : Json} {items : List Json}
      (hbefore : Spaces before) (h : Spells room text item) (hafter : Spaces after)
      (hrest : SpellsItems room rest items) :
      SpellsItems room (before ++ (text ++ (after ++ ',' :: rest))) (item :: items)

/-- The text of entries, with commas between them. -/
inductive SpellsEntries : Nat → List Char → List (Key × Json) → Prop where
  | last {room : Nat} {before inside middle between text after : List Char} {points : List Point}
      {value : Json} (hbefore : Spaces before) (hkey : Inside inside points)
      (hmiddle : Spaces middle) (hbetween : Spaces between) (h : Spells room text value)
      (hafter : Spaces after) :
      SpellsEntries room
        (before ++ '"' :: (inside ++ '"' :: (middle ++ ':' :: (between ++ (text ++ after)))))
        [(.text ⟨points⟩, value)]
  | more {room : Nat} {before inside middle between text after rest : List Char}
      {points : List Point} {value : Json} {entries : List (Key × Json)}
      (hbefore : Spaces before) (hkey : Inside inside points) (hmiddle : Spaces middle)
      (hbetween : Spaces between) (h : Spells room text value) (hafter : Spaces after)
      (hrest : SpellsEntries room rest entries) :
      SpellsEntries room
        (before ++ '"' :: (inside ++ '"' :: (middle ++ ':' ::
          (between ++ (text ++ (after ++ ',' :: rest))))))
        ((.text ⟨points⟩, value) :: entries)

end

/-! ## Blanks -/

lemma skip_spaces {blank : List Char} (h : Spaces blank) (text : List Char) :
    skip (blank ++ text) = skip text :=
  List.dropWhile_append_of_pos h

/-- After a value there are blanks, or what closes or goes on. -/
lemma ended_spaces {blank : List Char} (h : Spaces blank) {rest : List Char} (hrest : Ended rest) :
    Ended (blank ++ rest) := by
  cases blank with
  | nil => exact hrest
  | cons c blank =>
    have hc : isSpace c = true := h c List.mem_cons_self
    simp only [isSpace, Bool.or_eq_true, decide_eq_true_eq] at hc
    refine ended_cons ?_ _
    rcases hc with ((rfl | rfl) | rfl) | rfl <;> decide

/-! ## Strings -/

/-- A text without quotes, backslashes and controls is the inside of its string. -/
lemma inside_of_plain : ∀ {text : List Char},
    (∀ c ∈ text, c ≠ '"' ∧ c ≠ '\\' ∧ 0x20 ≤ c.toNat) → Inside text (text.map .char)
  | [], _ => .nil
  | _ :: _, h =>
    have hc := h _ List.mem_cons_self
    .plain hc.1 hc.2.1 hc.2.2 (inside_of_plain fun d hd => h d (List.mem_cons_of_mem _ hd))

lemma readUnit_of_hexNumber {a b c d : Char} {unit : Nat}
    (h : hexNumber? [a, b, c, d] = some unit) (next : Char) (rest : List Char) :
    readUnit (a :: b :: c :: d :: next :: rest) = .ok (unit, next :: rest) := by
  simp [readUnit, h]

/-- The inside of a string completes no character unless it begins with a low half. -/
lemma unpaired_of_inside {text : List Char} {points : List Point} (h : Inside text points)
    (hlow : ¬LowFollows text) (rest : List Char) : Unpaired (text ++ '"' :: rest) := by
  intro a b c d next more htext
  cases h with
  | nil => simp at htext
  | plain hquote hslash hc more => exact absurd (List.cons.inj htext).1 hslash
  | @letter e _ _ _ he more =>
    obtain ⟨rfl, -⟩ := List.cons.inj (List.cons.inj htext).2
    simp [escaped?] at he
  | @unit a' b' c' d' unit _ _ hunit halone more =>
    simp only [List.cons_append, List.cons.injEq, true_and] at htext
    obtain ⟨rfl, rfl, rfl, rfl, -⟩ := htext
    refine ⟨unit, hunit, Bool.eq_false_iff.2 fun hisLow => hlow ?_⟩
    exact ⟨_, _, _, _, _, _, rfl, hunit, hisLow⟩
  | @pair a' b' c' d' _ _ _ _ high low _ _ hhigh hisHigh hlow' hisLow more =>
    simp only [List.cons_append, List.cons.injEq, true_and] at htext
    obtain ⟨rfl, rfl, rfl, rfl, -⟩ := htext
    exact ⟨high, hhigh, not_low_of_high hisHigh⟩

lemma readEscape_letter {e c : Char} (he : escaped? e = some c) (opening rest : List Char) :
    readEscape opening (e :: rest) = .ok (.char c, rest) := by
  have hu : e ≠ 'u' := by
    rintro rfl
    cases he
  unfold readEscape
  split
  · contradiction
  · rename_i heq
    exact absurd (List.cons.inj heq).1 hu
  · rename_i heq
    obtain ⟨rfl, rfl⟩ := List.cons.inj heq
    rw [he]

section Escape

variable {a b c d : Char} {unit : Nat} (h : hexNumber? [a, b, c, d] = some unit)
  (opening : List Char) (next : Char) (rest : List Char)

include h

lemma readEscape_digits (hnext : isHighHalf unit = true → Unpaired (next :: rest)) :
    readEscape opening ('u' :: a :: b :: c :: d :: next :: rest) =
      .ok (ofUnit unit, next :: rest) := by
  cases hhigh : isHighHalf unit with
  | false =>
    simp [readEscape, readUnit_of_hexNumber h, hhigh, bind, Except.bind, pure, Except.pure]
  | true =>
    simp only [readEscape, readUnit_of_hexNumber h, hhigh, bind, Except.bind, pure, Except.pure,
      if_true]
    split
    · next a b c d next' more heq =>
      obtain ⟨low, hnumber, hlow⟩ := hnext hhigh a b c d next' more heq
      simp [readUnit, hnumber, hlow, heq]
    · rfl

lemma readEscape_digits_pair (hhigh : isHighHalf unit = true) {a' b' c' d' : Char} {low : Nat}
    (hlow : hexNumber? [a', b', c', d'] = some low) (hisLow : isLowHalf low = true) :
    readEscape opening
        ('u' :: a :: b :: c :: d :: '\\' :: 'u' :: a' :: b' :: c' :: d' :: next :: rest) =
      .ok (ofHalves unit low, next :: rest) := by
  simp [readEscape, readUnit_of_hexNumber h, readUnit_of_hexNumber hlow, hhigh, hisLow, bind,
    Except.bind, pure, Except.pure]

end Escape

/-- **The inside of a string is read as its points.** -/
theorem readString_of_inside (opening rest : List Char) {text : List Char} {points : List Point}
    (h : Inside text points) : ∀ {fuel : Nat}, text.length < fuel →
      readString opening fuel (text ++ '"' :: rest) = .ok (points, rest) := by
  have hnext (text : List Char) : ∃ next more, text ++ '"' :: rest = next :: more :=
    List.exists_cons_of_ne_nil (by simp)
  -- one step of the reader for each escape, and the induction hypothesis for what is left
  have hstep {point : Point} {text escape : List Char} {points : List Point} {fuel : Nat}
      (hescape : readEscape opening escape = .ok (point, text ++ '"' :: rest))
      (hmore : readString opening fuel (text ++ '"' :: rest) = .ok (points, rest)) :
      readString opening (fuel + 1) ('\\' :: escape) = .ok (point :: points, rest) := by
    rw [readString_escape fuel hescape, hmore]
    rfl
  induction h with
  | nil =>
    rintro (_ | fuel) hfuel
    · cases hfuel
    · simp [readString]
  | @plain c text points hquote hslash hc more ih =>
    rintro (_ | fuel) hfuel
    · cases hfuel
    · have hlow : ¬c.toNat < 32 := by omega
      rw [List.cons_append, readString]
      simp [hquote, hslash, hlow, ih (by simpa using hfuel), bind, Except.bind, pure, Except.pure]
  | @letter e c text points he more ih =>
    rintro (_ | fuel) hfuel
    · cases hfuel
    · simp only [List.length_cons] at hfuel
      exact hstep (readEscape_letter he _ _) (ih (by omega))
  | @unit a b c d unit text points hunit halone more ih =>
    rintro (_ | fuel) hfuel
    · cases hfuel
    · simp only [List.length_cons] at hfuel
      refine hstep ?_ (ih (by omega))
      obtain ⟨next, tail, htail⟩ := hnext text
      change readEscape opening ('u' :: a :: b :: c :: d :: (text ++ '"' :: rest)) = _
      rw [htail]
      exact readEscape_digits hunit _ _ _ fun hhigh =>
        htail ▸ unpaired_of_inside more (halone hhigh) rest
  | @pair a b c d a' b' c' d' high low text points hhigh hisHigh hlow hisLow more ih =>
    rintro (_ | fuel) hfuel
    · cases hfuel
    · simp only [List.length_cons] at hfuel
      refine hstep ?_ (ih (by omega))
      obtain ⟨next, tail, htail⟩ := hnext text
      change readEscape opening ('u' :: a :: b :: c :: d :: '\\' :: 'u' :: a' :: b' :: c' :: d' ::
        (text ++ '"' :: rest)) = _
      rw [htail]
      exact readEscape_digits_pair hhigh _ _ _ hisHigh hlow hisLow

/-! ## Numbers -/

lemma WholeDigits.read {digits : List Char} (h : WholeDigits digits) {rest : List Char}
    (hrest : ∀ c ∈ rest.head?, c.isDigit = false) :
    wholeDigits? (digits ++ rest) = some (digits, rest) := by
  obtain ⟨⟨hne, hall⟩, rfl | hzero⟩ := h
  · rfl
  · obtain ⟨c, digits, rfl⟩ := List.exists_cons_of_ne_nil hne
    obtain ⟨htake, hdrop⟩ :=
      takeWhile_digits (fun d hd => hall d (List.mem_cons_of_mem c hd)) hrest
    have hc : c ≠ '0' := by simpa using hzero
    simp [wholeDigits?, hc, hall c List.mem_cons_self, htake, hdrop]

/-- A row of digits begins with a digit. -/
lemma Digits.head {digits : List Char} (h : Digits digits) :
    ∃ c rest, digits = c :: rest ∧ c.isDigit = true := by
  obtain ⟨c, rest, rfl⟩ := List.exists_cons_of_ne_nil h.1
  exact ⟨c, rest, rfl, h.2 c List.mem_cons_self⟩

lemma Fraction.read {fraction places : List Char} (h : Fraction fraction places)
    {rest : List Char} (hrest : ∀ c ∈ rest.head?, c.isDigit = false ∧ c ≠ '.') :
    fraction? (fraction ++ rest) = if fraction = [] then none else some (places, rest) := by
  cases h with
  | absent =>
    rw [if_pos rfl, List.nil_append]
    unfold fraction?
    split
    · exact absurd rfl (hrest '.' rfl).2
    · rfl
  | places h =>
    obtain ⟨c, digits, rfl, hc⟩ := h.head
    obtain ⟨htake, hdrop⟩ := takeWhile_digits (fun d hd => h.2 d (List.mem_cons_of_mem c hd))
      fun d hd => (hrest d hd).1
    simp [fraction?, hc, htake, hdrop]

lemma Exponent.read {exponent : List Char} {power : Int} (h : Exponent exponent power)
    {rest : List Char} (hrest : Ended rest) :
    exponent? (exponent ++ rest) = if exponent = [] then none else some (power, rest) := by
  cases h with
  | absent => exact exponent?_of_ended hrest
  | @power e digits negative he h =>
    obtain ⟨htake, hdrop⟩ := takeWhile_digits h.2 hrest.noDigit
    cases negative with
    | true => simp [exponent?, sign, signed, he, htake, hdrop, h.1]
    | false =>
      obtain ⟨c, more, rfl, hc⟩ := h.head
      simp only [sign, signed, Bool.false_eq_true, if_false, List.cons_append, List.nil_append,
        reduceCtorEq, exponent?, he, if_true] at htake hdrop ⊢
      split
      · exact absurd (List.cons.inj (by assumption)).1 (isDigit_ne hc '-' (by decide))
      · exact absurd (List.cons.inj (by assumption)).1 (isDigit_ne hc '+' (by decide))
      · simp [htake, hdrop]
  | @plus e digits he h =>
    obtain ⟨htake, hdrop⟩ := takeWhile_digits h.2 hrest.noDigit
    simp [exponent?, he, htake, hdrop, h.1]

/-- What follows the digits of a number does not go on with one. -/
lemma noDigit_exponent {exponent : List Char} {power : Int} (h : Exponent exponent power)
    {rest : List Char} (hrest : Ended rest) :
    ∀ c ∈ (exponent ++ rest).head?, c.isDigit = false ∧ c ≠ '.' := by
  cases h with
  | absent => exact fun c hc => ⟨(hrest c hc).1, (hrest c hc).2.1⟩
  | power negative he h =>
    rintro c ⟨⟩
    rcases he with rfl | rfl <;> decide
  | plus he h =>
    rintro c ⟨⟩
    rcases he with rfl | rfl <;> decide

lemma noDigit_fraction {fraction places rest : List Char} (h : Fraction fraction places)
    (hrest : ∀ c ∈ rest.head?, c.isDigit = false ∧ c ≠ '.') :
    ∀ c ∈ (fraction ++ rest).head?, c.isDigit = false := by
  cases h with
  | absent => exact fun c hc => (hrest c hc).1
  | places h =>
    rintro c ⟨⟩
    decide

/-- Digits with a fraction, an exponent or both are read as a number that is not whole. -/
lemma readNumber_real (negative : Bool) {digits fraction places exponent rest : List Char}
    {power : Int} (h : WholeDigits digits) (hfraction : Fraction fraction places)
    (hexponent : Exponent exponent power) (hreal : fraction ≠ [] ∨ exponent ≠ [])
    (hrest : Ended rest) :
    readNumber (sign negative ++ (digits ++ (fraction ++ (exponent ++ rest)))) =
      .ok (.real (.ofDecimal negative (valueOfDigits (digits ++ places)) (power - places.length)),
        rest) := by
  have hend := noDigit_exponent hexponent hrest
  have hwhole := h.read (noDigit_fraction hfraction hend)
  have hplaces := hfraction.read hend
  have hpower := hexponent.read hrest
  have hparts : (fraction? (fraction ++ (exponent ++ rest))).getD
        ([], fraction ++ (exponent ++ rest)) =
      (places, exponent ++ rest) ∧ (exponent? (exponent ++ rest)).getD (0, exponent ++ rest) =
      (power, rest) := by
    rw [hplaces, hpower]
    constructor
    · split_ifs with hempty
      · subst hempty
        cases hfraction
        rfl
      · rfl
    · split_ifs with hempty
      · subst hempty
        cases hexponent
        rfl
      · rfl
  have hnotWhole : ((fraction? (fraction ++ (exponent ++ rest))).isNone &&
      (exponent? (exponent ++ rest)).isNone) = false := by
    rw [hplaces, hpower]
    rcases hreal with hne | hne <;> simp [hne]
  cases negative with
  | true =>
    unfold readNumber
    simp only [sign, if_true, List.cons_append, List.nil_append, hwhole, hparts.1, hparts.2,
      hnotWhole, Bool.false_eq_true, if_false]
  | false =>
    obtain ⟨c, more, rfl, hc⟩ := h.1.head
    simp only [sign, Bool.false_eq_true, if_false, List.nil_append, List.cons_append] at hwhole ⊢
    unfold readNumber
    have hsign : ∀ unsigned, c :: (more ++ (fraction ++ (exponent ++ rest))) ≠ '-' :: unsigned :=
      fun _ heq => isDigit_ne hc '-' (by decide) (List.cons.inj heq).1
    simp only [hwhole, hparts.1, hparts.2, hnotWhole, Bool.false_eq_true, if_false]
    rfl

/-- **A number is read as its value**, whatever follows that does not continue it. -/
theorem readNumber_of_numeral {text : List Char} {value : Json} (h : Numeral text value)
    {rest : List Char} (hrest : Ended rest) : readNumber (text ++ rest) = .ok (value, rest) := by
  cases h with
  | @whole negative digits h hlength =>
    have hwhole := h.read hrest.noDigit
    cases negative with
    | true => exact readNumber_minus hwhole hrest hlength
    | false =>
      obtain ⟨c, more, rfl, hc⟩ := h.1.head
      exact readNumber_plain hwhole hrest hlength fun unsigned heq =>
        isDigit_ne hc '-' (by decide) (List.cons.inj heq).1
  | @real negative digits fraction places exponent power h hfraction hexponent hreal =>
    simp only [List.append_assoc]
    exact readNumber_real negative h hfraction hexponent hreal hrest

/-- A number begins with its sign or with a digit. -/
lemma head_of_numeral {text : List Char} {value : Json} (h : Numeral text value) :
    ∃ c rest, text = c :: rest ∧
      (c = '-' ∧ (∃ d more, rest = d :: more ∧ d.isDigit = true) ∨ c.isDigit = true) := by
  have hsigned (negative : Bool) {digits : List Char} (h : Digits digits) (tail : List Char) :
      ∃ c rest, sign negative ++ (digits ++ tail) = c :: rest ∧
        (c = '-' ∧ (∃ d more, rest = d :: more ∧ d.isDigit = true) ∨ c.isDigit = true) := by
    obtain ⟨d, more, rfl, hd⟩ := h.head
    cases negative with
    | true => exact ⟨'-', _, rfl, .inl ⟨rfl, d, _, rfl, hd⟩⟩
    | false => exact ⟨d, _, rfl, .inr hd⟩
  cases h with
  | whole negative h hlength => simpa using hsigned negative h.1 []
  | real negative h hfraction hexponent hreal => exact hsigned negative h.1 _

/-! ## Values -/

/-- **The text of a value begins with no blank and no mark, and closes nothing.** -/
lemma head_of_spells {room : Nat} {text : List Char} {value : Json} (h : Spells room text value) :
    ∃ c rest, text = c :: rest ∧ (isSpace c = false ∧ c ≠ ']' ∧ c ≠ '}') ∧ c ≠ '\uFEFF' := by
  cases h with
  | null => exact ⟨'n', _, rfl, by decide⟩
  | bool b => cases b <;> exact ⟨_, _, rfl, by decide⟩
  | number h =>
    obtain ⟨c, rest, rfl, ⟨rfl, -⟩ | hc⟩ := head_of_numeral h
    · exact ⟨_, _, rfl, by decide⟩
    · refine ⟨_, _, rfl, ⟨?_, isDigit_ne hc _ (by decide), isDigit_ne hc _ (by decide)⟩,
        isDigit_ne hc _ (by decide)⟩
      simp [isSpace, isDigit_ne hc]
  | text | noItems | list | noEntries | record => exact ⟨_, _, rfl, by decide⟩

lemma begun_of_spells {room : Nat} {text : List Char} {value : Json}
    (h : Spells room text value) : Begun text := by
  obtain ⟨c, rest, htext, hc, -⟩ := head_of_spells h
  exact ⟨c, rest, htext, hc⟩

/-- A text that begins with blanks and a value begins with the value, blanks apart. -/
lemma skip_of_spells {room : Nat} {before text : List Char} {value : Json} (hbefore : Spaces before)
    (h : Spells room text value) (rest : List Char) :
    skip (before ++ (text ++ rest)) = text ++ rest := by
  rw [skip_spaces hbefore, skip_of_begun (begun_of_spells h)]

/-- What the inside of brackets begins with, blanks apart, closes nothing. -/
def Opens (text : List Char) : Prop :=
  ∀ rest, Begun (skip (text ++ rest))

lemma opens_of_items {room : Nat} {text : List Char} {items : List Json}
    (h : SpellsItems room text items) : Opens text := by
  intro rest
  obtain ⟨before, text, tail, value, hbefore, h, heq⟩ : ∃ before text' tail value,
      Spaces before ∧ Spells room text' value ∧ text = before ++ (text' ++ tail) := by
    cases h with
    | last hbefore h hafter => exact ⟨_, _, _, _, hbefore, h, rfl⟩
    | more hbefore h hafter hrest => exact ⟨_, _, _, _, hbefore, h, rfl⟩
  obtain ⟨c, more, rfl, hc⟩ := begun_of_spells h
  rw [heq, List.append_assoc, List.append_assoc, skip_of_spells hbefore h]
  exact ⟨c, _, rfl, hc⟩

lemma skip_quote (rest : List Char) : skip ('"' :: rest) = '"' :: rest := rfl

lemma opens_of_entries {room : Nat} {text : List Char} {entries : List (Key × Json)}
    (h : SpellsEntries room text entries) : Opens text := by
  intro rest
  obtain ⟨before, tail, hbefore, rfl⟩ : ∃ before tail, Spaces before ∧
      text = before ++ '"' :: tail := by
    cases h with
    | last hbefore => exact ⟨_, _, hbefore, rfl⟩
    | more hbefore => exact ⟨_, _, hbefore, rfl⟩
  rw [List.append_assoc, skip_spaces hbefore]
  exact ⟨'"', _, rfl, by decide, by decide, by decide⟩

section Brackets

variable {fuel room : Nat} {text rest : List Char}

/-- Items between brackets are read as a list. -/
lemma readValue_items (hopens : Opens text) {items : List Json}
    (hread : readItems fuel room (skip (text ++ ']' :: rest)) = .ok (items, rest)) :
    readValue (fuel + 1) (room + 1) ('[' :: (text ++ [']']) ++ rest) = .ok (.list items, rest) := by
  obtain ⟨c, more, hskip, -, hclose, -⟩ := hopens (']' :: rest)
  have htext : '[' :: (text ++ [']']) ++ rest = '[' :: (text ++ ']' :: rest) := by simp
  rw [hskip] at hread
  rw [htext, readValue]
  simp only [show ¬('[' = '"') by decide, show ¬('[' = '{') by decide, if_false, if_true, hskip]
  split
  · exact absurd (List.cons.inj (by assumption)).1 hclose
  · rw [hread]
    rfl

/-- Entries between braces are read as a record. -/
lemma readValue_entries (hopens : Opens text) {entries : List (Key × Json)}
    (hread : readEntries fuel room (skip (text ++ '}' :: rest)) = .ok (entries, rest)) :
    readValue (fuel + 1) (room + 1) ('{' :: (text ++ ['}']) ++ rest) =
      .ok (.record (Table.ofList entries), rest) := by
  obtain ⟨c, more, hskip, -, -, hclose⟩ := hopens ('}' :: rest)
  have htext : '{' :: (text ++ ['}']) ++ rest = '{' :: (text ++ '}' :: rest) := by simp
  rw [hskip] at hread
  rw [htext, readValue]
  simp only [show ¬('{' = '"') by decide, if_false, if_true, hskip]
  split
  · exact absurd (List.cons.inj (by assumption)).1 hclose
  · rw [hread]
    rfl

end Brackets

/-- After an item and blanks, the reader is at the comma or at the bracket. -/
lemma skip_after {after : List Char} (h : Spaces after) {c : Char} (hc : isSpace c = false)
    (rest : List Char) : skip (after ++ c :: rest) = c :: rest := by
  rw [skip_spaces h, skip, List.dropWhile, hc]

lemma ended_after {after : List Char} (h : Spaces after) {c : Char}
    (hc : c = ',' ∨ c = ']' ∨ c = '}') (rest : List Char) : Ended (after ++ c :: rest) :=
  ended_spaces h (ended_cons (by rcases hc with rfl | rfl | rfl <;> decide) rest)

mutual

/-- **What spells a value is read as it**, whatever follows that does not continue a number. -/
theorem readValue_of_spells {room : Nat} {text : List Char} {value : Json} :
    Spells room text value → ∀ (fuel : Nat) (rest : List Char), Ended rest →
      2 * text.length ≤ fuel → readValue fuel room (text ++ rest) = .ok (value, rest)
  | h, 0, rest, _, hfuel => by
    obtain ⟨c, more, rfl, -⟩ := begun_of_spells h
    simp at hfuel
  | .null, fuel + 1, rest, _, _ => rfl
  | .bool b, fuel + 1, rest, _, _ => by cases b <;> rfl
  | .number h, fuel + 1, rest, hrest, _ =>
    readValue_of_number (head_of_numeral h) (readNumber_of_numeral h hrest) fuel room
  | @Spells.text _ inside points h, fuel + 1, rest, _, hfuel => by
    have hread := readString_of_inside ('"' :: (inside ++ '"' :: rest)) rest h
      (show inside.length < fuel by simp at hfuel; omega)
    simp [readValue, hread, bind, Except.bind, pure, Except.pure]
  | .noItems h, fuel + 1, rest, _, _ => by
    simp [readValue, skip_after h (show isSpace ']' = false by decide)]
    rfl
  | .list h, fuel + 1, rest, _, hfuel => by
    refine readValue_items (opens_of_items h) (readItems_of_spells h fuel rest ?_)
    simp only [List.length_cons, List.length_append, List.length_nil] at hfuel
    omega
  | .noEntries h, fuel + 1, rest, _, _ => by
    simp [readValue, skip_after h (show isSpace '}' = false by decide)]
    rfl
  | .record h, fuel + 1, rest, _, hfuel => by
    refine readValue_entries (opens_of_entries h) (readEntries_of_spells h fuel rest ?_)
    simp only [List.length_cons, List.length_append, List.length_nil] at hfuel
    omega

/-- Items are read up to the closing bracket. -/
theorem readItems_of_spells {room : Nat} {text : List Char} {items : List Json} :
    SpellsItems room text items → ∀ (fuel : Nat) (rest : List Char), 2 * text.length < fuel →
      readItems fuel room (skip (text ++ ']' :: rest)) = .ok (items, rest)
  | .last hbefore h hafter, fuel + 1, rest, hfuel => by
    simp only [List.length_append] at hfuel
    have hvalue := readValue_of_spells h fuel _ (ended_after hafter (.inr (.inl rfl)) rest)
      (by omega)
    rw [List.append_assoc, List.append_assoc, skip_of_spells hbefore h, readItems, hvalue]
    simp only [bind, Except.bind, skip_after hafter (show isSpace ']' = false by decide)]
    rfl
  | @SpellsItems.more _ _ _ after tail _ _ hbefore h hafter hrest, fuel + 1, rest, hfuel => by
    simp only [List.length_append, List.length_cons] at hfuel
    have hvalue := readValue_of_spells h fuel _
      (ended_after hafter (.inl rfl) (tail ++ ']' :: rest)) (by omega)
    have hitems := readItems_of_spells hrest fuel rest (by omega)
    simp only [List.append_assoc, List.cons_append]
    rw [skip_of_spells hbefore h, readItems, hvalue]
    simp only [bind, Except.bind, skip_after hafter (show isSpace ',' = false by decide), hitems]
    rfl

/-- Entries are read up to the closing brace. -/
theorem readEntries_of_spells {room : Nat} {text : List Char} {entries : List (Key × Json)} :
    SpellsEntries room text entries → ∀ (fuel : Nat) (rest : List Char), 2 * text.length < fuel →
      readEntries fuel room (skip (text ++ '}' :: rest)) = .ok (entries, rest)
  | .last hbefore hkey hmiddle hbetween h hafter, fuel + 1, rest, hfuel => by
    simp only [List.length_append, List.length_cons] at hfuel
    have hvalue := readValue_of_spells h fuel _ (ended_after hafter (.inr (.inr rfl)) rest)
      (by omega)
    simp only [List.append_assoc, List.cons_append]
    rw [skip_spaces hbefore, skip_quote, readEntries, readString_of_inside _ _ hkey (by omega)]
    simp only [bind, Except.bind, skip_after hmiddle (show isSpace ':' = false by decide),
      skip_of_spells hbetween h, hvalue, skip_after hafter (show isSpace '}' = false by decide)]
    rfl
  | @SpellsEntries.more _ _ _ _ _ _ after tail _ _ _ hbefore hkey hmiddle hbetween h hafter hrest,
      fuel + 1, rest, hfuel => by
    simp only [List.length_append, List.length_cons] at hfuel
    have hvalue := readValue_of_spells h fuel _
      (ended_after hafter (.inl rfl) (tail ++ '}' :: rest)) (by omega)
    have hentries := readEntries_of_spells hrest fuel rest (by omega)
    simp only [List.append_assoc, List.cons_append]
    rw [skip_spaces hbefore, skip_quote, readEntries, readString_of_inside _ _ hkey (by omega)]
    simp only [bind, Except.bind, skip_after hmiddle (show isSpace ':' = false by decide),
      skip_of_spells hbetween h, hvalue, skip_after hafter (show isSpace ',' = false by decide),
      hentries]
    rfl

end

/-! ## Whole texts -/

/-- **A text that spells a value is read as it**, whatever blanks stand around it. -/
theorem read_of_spells {depth : Nat} {before text after : List Char} {value : Json}
    (hbefore : Spaces before) (h : Spells depth text value) (hafter : Spaces after) :
    read depth (before ++ (text ++ after)) = .ok value := by
  have hmark : ¬(before ++ (text ++ after)).head? = some '\uFEFF' := by
    cases before with
    | nil =>
      obtain ⟨c, more, rfl, -, hc⟩ := head_of_spells h
      simpa using hc
    | cons c before =>
      rintro ⟨⟩
      exact absurd (hbefore _ List.mem_cons_self) (by decide)
  have hvalue := readValue_of_spells h (2 * (before ++ (text ++ after)).length + 2) after
    (by simpa using ended_spaces hafter ended_nil) (by simp only [List.length_append]; omega)
  have hend : skip after = [] := by
    simpa [skip, Spaces] using hafter
  have hall : readAll depth (before ++ (text ++ after)) = .ok value := by
    simp only [readAll, hmark, if_false, skip_of_spells hbefore h, bind, Except.bind, pure,
      Except.pure, hvalue, hend]
  rw [read, hall]
  rfl

end WasmCoverage.Json
