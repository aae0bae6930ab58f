import Mathlib.Algebra.Group.Nat.Defs
import Mathlib.Data.List.Chain
import Mathlib.Tactic.Lemma
import Mathlib.Tactic.SplitIfs
import WasmCoverage.Json.Reader
import WasmCoverage.Json.Writer

/-!
# Strings read back

A string is written with escapes and read by undoing them.  The two agree on every text but one
kind: a high half of a surrogate pair directly before a low half is written as the escapes of one
character, and one character is what is read.  Such a text is not `Whole`; a text of characters
always is (`LooseText.whole_of_isProper`).

* **A whole text is read back** (`readString_written`).  A character has one of four forms
  (`Form`), and the reading of each is a lemma.  The delicate case is a high half alone: what is
  written after it must not look like the escape of a low half (`Unpaired`).
* **Every text that is read is whole** (`whole_of_readString`), since the reader joins the halves
  of a pair wherever it meets them.
-/

namespace WasmCoverage

open WasmCoverage.Text

/-! ## Whole texts -/

/-- The points are the two halves of one character. -/
def Point.Pair : Point → Point → Prop
  | .half high, .half low => Json.isHighHalf high.unit = true ∧ Json.isLowHalf low.unit = true
  | _, _ => False

instance : DecidableRel Point.Pair
  | .half high, .half low =>
    inferInstanceAs (Decidable (Json.isHighHalf high.unit = true ∧ Json.isLowHalf low.unit = true))
  | .char _, _ => .isFalse id
  | .half _, .char _ => .isFalse id

/-- No two neighbours in the text are the halves of one character. -/
def LooseText.Whole (text : LooseText) : Prop :=
  text.points.IsChain fun p q => ¬p.Pair q

instance (text : LooseText) : Decidable text.Whole :=
  inferInstanceAs (Decidable (List.IsChain _ _))

namespace LooseText

/-- **A text of characters is whole.** -/
theorem whole_of_isProper {text : LooseText} (h : text.isProper = true) : text.Whole := by
  obtain ⟨points⟩ := text
  simp only [isProper, List.all_eq_true] at h
  refine List.Pairwise.isChain (List.pairwise_of_forall_mem_list fun p hp q _ => ?_)
  cases p with
  | char c => exact id
  | half half => simpa using h _ hp

lemma whole_ofString (s : String) : (ofString s).Whole :=
  whole_of_isProper (isProper_ofString s)

lemma whole_point (point : Point) : (⟨[point]⟩ : LooseText).Whole :=
  List.isChain_singleton point

end LooseText

/-! ## Hexadecimal digits read back -/

namespace Text

lemma hexValue?_hexDigit {n : Nat} (h : n < 16) : hexValue? (hexDigit n) = some n := by
  have hall : ∀ n : Fin 16, hexValue? (hexDigit n.val) = some n.val := by decide
  exact hall ⟨n, h⟩

lemma hexNumber?_append (digits : List Char) (c : Char) :
    hexNumber? (digits ++ [c]) = do return 16 * (← hexNumber? digits) + (← hexValue? c) := by
  simp [hexNumber?]

/-- **The digits of a number spell it**, as far as there are digits for it. -/
theorem hexNumber?_hexDigits (width n : Nat) :
    hexNumber? (hexDigits width n) = some (n % 16 ^ width) := by
  induction width generalizing n with
  | zero => simp [hexDigits, hexNumber?, Nat.mod_one]
  | succ width ih =>
    have hdigit := hexValue?_hexDigit (Nat.mod_lt n (show 0 < 16 by decide))
    rw [hexDigits, hexNumber?_append, ih, hdigit, Nat.pow_succ', Nat.mod_mul]
    simp only [Option.pure_def, Option.bind_eq_bind, Option.bind_some, Option.some.injEq]
    omega

end Text

namespace Json

/-! ## Escapes -/

lemma ofUnit_toNat (c : Char) : ofUnit c.toNat = .char c := by
  have hvalid : c.toNat < 0xD800 ∨ 0xDFFF < c.toNat ∧ c.toNat < 0x110000 := c.valid
  have hhigh : isHighHalf c.toNat = false := by simp [isHighHalf]; omega
  have hlow : isLowHalf c.toNat = false := by simp [isLowHalf]; omega
  simp [ofUnit, hhigh, hlow]

lemma unit_lt (half : Half) : half.unit < 0x10000 := by
  have := half.isLt
  simp only [Half.unit, Half.base]
  omega

lemma ofUnit_unit (half : Half) : ofUnit half.unit = .half half := by
  have hlt := half.isLt
  have hkind : isHighHalf half.unit = true ∨ isLowHalf half.unit = true := by
    by_cases h : half.val < 0x400
    · left
      rw [isHighHalf, Half.unit, Half.base]
      exact Bool.and_eq_true_iff.2 ⟨decide_eq_true (by omega), decide_eq_true (by omega)⟩
    · right
      rw [isLowHalf, Half.unit, Half.base]
      exact Bool.and_eq_true_iff.2 ⟨decide_eq_true (by omega), decide_eq_true (by omega)⟩
  have hback : half.unit - Half.base = half.val := by simp [Half.unit]
  have hfin : Fin.ofNat 0x800 (half.unit - Half.base) = half := by
    apply Fin.ext
    rw [hback]
    exact Nat.mod_eq_of_lt hlt
  rw [ofUnit, if_pos (by simpa using hkind), hfin]

/-- A unit that gives a half is the unit of that half. -/
lemma unit_of_ofUnit {unit : Nat} {half : Half} (h : ofUnit unit = .half half) :
    half.unit = unit := by
  simp only [ofUnit] at h
  split at h
  · next hkind =>
    simp only [Point.half.injEq] at h
    subst h
    simp only [isHighHalf, isLowHalf, Bool.or_eq_true, Bool.and_eq_true, decide_eq_true_eq]
      at hkind
    simp only [Half.unit, Half.base, Fin.val_ofNat]
    omega
  · simp at h

lemma not_low_of_high {unit : Nat} (h : isHighHalf unit = true) : isLowHalf unit = false := by
  simp only [isHighHalf, isLowHalf, Bool.and_eq_true, decide_eq_true_eq, Bool.and_eq_false_iff,
    decide_eq_false_iff_not] at h ⊢
  omega

lemma hexDigits_four (n : Nat) : ∃ a b c d, hexDigits 4 n = [a, b, c, d] :=
  ⟨_, _, _, _, rfl⟩

lemma readUnit_hexDigits {unit : Nat} (h : unit < 0x10000) (next : Char) (rest : List Char) :
    readUnit (hexDigits 4 unit ++ next :: rest) = .ok (unit, next :: rest) := by
  obtain ⟨a, b, c, d, hdigits⟩ := hexDigits_four unit
  have hnumber : hexNumber? [a, b, c, d] = some unit := by
    rw [← hdigits, hexNumber?_hexDigits, Nat.mod_eq_of_lt (by simpa using h)]
  simp [hdigits, readUnit, hnumber]

/-- What the four digits of a unit that was read spell. -/
lemma digits_of_readUnit {text rest : List Char} {unit : Nat}
    (h : readUnit text = .ok (unit, rest)) :
    ∃ a b c d next more, text = a :: b :: c :: d :: next :: more ∧
      hexNumber? [a, b, c, d] = some unit ∧ rest = next :: more := by
  unfold readUnit at h
  split at h
  · next a b c d next more =>
    split at h
    · next found =>
      simp only [Except.ok.injEq, Prod.mk.injEq] at h
      exact ⟨a, b, c, d, next, more, rfl, h.1 ▸ found, h.2.symm⟩
    · simp at h
  · simp at h

/-- The text does not go on with the escape of a low half. -/
def Unpaired (text : List Char) : Prop :=
  ∀ a b c d next more, text = '\\' :: 'u' :: a :: b :: c :: d :: next :: more →
    ∃ unit, hexNumber? [a, b, c, d] = some unit ∧ isLowHalf unit = false

section Escape

variable {unit : Nat} (opening : List Char) (next : Char) (rest : List Char)

lemma readEscape_unit (h : unit < 0x10000) (hhigh : isHighHalf unit = false) :
    readEscape opening ('u' :: (hexDigits 4 unit ++ next :: rest)) =
      .ok (ofUnit unit, next :: rest) := by
  simp [readEscape, readUnit_hexDigits h, hhigh, bind, Except.bind, pure, Except.pure]

lemma readEscape_alone (h : unit < 0x10000) (hnext : Unpaired (next :: rest)) :
    readEscape opening ('u' :: (hexDigits 4 unit ++ next :: rest)) =
      .ok (ofUnit unit, next :: rest) := by
  cases hhigh : isHighHalf unit with
  | false => exact readEscape_unit opening next rest h hhigh
  | true =>
    simp only [readEscape, readUnit_hexDigits h, hhigh, bind, Except.bind, pure, Except.pure,
      if_true]
    split
    · next a b c d next' more heq =>
      obtain ⟨low, hnumber, hlow⟩ := hnext a b c d next' more heq
      simp [readUnit, hnumber, hlow, heq]
    · rfl

lemma readEscape_pair {high low : Nat} (hhigh : isHighHalf high = true)
    (hlow : isLowHalf low = true) :
    readEscape opening
        ('u' :: (hexDigits 4 high ++ '\\' :: 'u' :: (hexDigits 4 low ++ next :: rest))) =
      .ok (ofHalves high low, next :: rest) := by
  have hltHigh : high < 0x10000 := by
    simp only [isHighHalf, Bool.and_eq_true, decide_eq_true_eq] at hhigh; omega
  have hltLow : low < 0x10000 := by
    simp only [isLowHalf, Bool.and_eq_true, decide_eq_true_eq] at hlow; omega
  obtain ⟨a, b, c, d, hdigits⟩ := hexDigits_four low
  have hread := readUnit_hexDigits hltLow next rest
  simp only [hdigits, List.cons_append, List.nil_append] at hread
  simp [readEscape, readUnit_hexDigits hltHigh, hhigh, hdigits, hread, hlow, bind, Except.bind,
    pure, Except.pure]

end Escape

/-! ## Forms of a character -/

/-- The forms in which a character is written. -/
inductive Form (c : Char) : List Char → Prop where
  | letter {e : Char} (hu : e ≠ 'u') (he : escaped? e = some c) : Form c ['\\', e]
  | plain (hquote : c ≠ '"') (hslash : c ≠ '\\') (hc : 0x20 ≤ c.toNat ∧ c.toNat ≤ 0x7E) :
      Form c [c]
  | unit (hc : c.toNat < 0x10000) : Form c (unitEscape c.toNat)
  | pair (hc : 0x10000 ≤ c.toNat) :
      Form c (unitEscape (0xD800 + (c.toNat - 0x10000) / 0x400) ++
        unitEscape (0xDC00 + (c.toNat - 0x10000) % 0x400))

lemma form_writeChar (c : Char) : Form c (writeChar c) := by
  simp only [writeChar, codeEscape]
  split_ifs with hmark hn hr ht hb hf hprintable hunit
  · rcases hmark with rfl | rfl
    · exact .letter (by decide) (by decide)
    · exact .letter (by decide) (by decide)
  · exact hn ▸ .letter (by decide) (by decide)
  · exact hr ▸ .letter (by decide) (by decide)
  · exact ht ▸ .letter (by decide) (by decide)
  · exact hb ▸ .letter (by decide) (by decide)
  · exact hf ▸ .letter (by decide) (by decide)
  · exact .plain (fun h => hmark (.inl h)) (fun h => hmark (.inr h)) hprintable
  · exact .unit hunit
  · exact .pair (Nat.le_of_not_lt hunit)

/-- A character above U+FFFF is made of two halves. -/
lemma halves_of_le {c : Char} (h : 0x10000 ≤ c.toNat) :
    isHighHalf (0xD800 + (c.toNat - 0x10000) / 0x400) = true ∧
      isLowHalf (0xDC00 + (c.toNat - 0x10000) % 0x400) = true ∧
      ofHalves (0xD800 + (c.toNat - 0x10000) / 0x400)
        (0xDC00 + (c.toNat - 0x10000) % 0x400) = .char c := by
  have hvalid : c.toNat < 0xD800 ∨ 0xDFFF < c.toNat ∧ c.toNat < 0x110000 := c.valid
  refine ⟨?_, ?_, ?_⟩
  · simp only [isHighHalf, Bool.and_eq_true, decide_eq_true_eq]; omega
  · simp only [isLowHalf, Bool.and_eq_true, decide_eq_true_eq]; omega
  · have hsum : 0x10000 + (0xD800 + (c.toNat - 0x10000) / 0x400 - 0xD800) * 0x400 +
        (0xDC00 + (c.toNat - 0x10000) % 0x400 - 0xDC00) = c.toNat := by omega
    rw [ofHalves, hsum, Char.ofNat_toNat]

/-! ## Strings -/

/-- Reading goes on after the backslash of an escape. -/
lemma readString_escape {opening text rest : List Char} {point : Point} (fuel : Nat)
    (h : readEscape opening text = .ok (point, rest)) :
    readString opening (fuel + 1) ('\\' :: text) =
      (readString opening fuel rest).map fun read => (point :: read.1, read.2) := by
  simp only [readString, show ¬('\\' = '"') by decide, if_false, if_true, h, bind, Except.bind]
  cases readString opening fuel rest <;> rfl

/-- **A point that was written is read**, unless what follows completes its character. -/
lemma readString_writePoint (opening : List Char) (fuel : Nat) (point : Point) (next : Char)
    (rest : List Char)
    (hnext : ∀ half, point = .half half → isHighHalf half.unit = true → Unpaired (next :: rest)) :
    readString opening (fuel + 1) (writePoint point ++ next :: rest) =
      (readString opening fuel (next :: rest)).map fun read => (point :: read.1, read.2) := by
  cases point with
  | half half =>
    refine readString_escape fuel ?_
    rw [← ofUnit_unit half]
    cases hhigh : isHighHalf half.unit with
    | false => exact readEscape_unit opening next rest (unit_lt half) hhigh
    | true => exact readEscape_alone opening next rest (unit_lt half) (hnext half rfl hhigh)
  | char c =>
    have hform := form_writeChar c
    simp only [writePoint]
    generalize writeChar c = written at hform
    cases hform with
    | letter hu he =>
      refine readString_escape fuel ?_
      simp only [List.cons_append, List.nil_append, List.append_eq]
      rw [readEscape.eq_3 opening _ _ hu, he]
    | plain hquote hslash hc =>
      simp only [List.cons_append, List.nil_append, readString, hquote, hslash,
        Nat.not_lt.2 hc.1, if_false, bind, Except.bind]
      cases readString opening fuel (next :: rest) <;> rfl
    | unit hc =>
      refine readString_escape fuel ?_
      have hhigh : isHighHalf c.toNat = false := by
        have hvalid : c.toNat < 0xD800 ∨ 0xDFFF < c.toNat ∧ c.toNat < 0x110000 := c.valid
        simp [isHighHalf]; omega
      rw [← ofUnit_toNat c]
      exact readEscape_unit opening next rest hc hhigh
    | pair hc =>
      obtain ⟨hhigh, hlow, hchar⟩ := halves_of_le hc
      simp only [unitEscape, List.cons_append, List.append_assoc]
      refine readString_escape fuel ?_
      rw [← hchar]
      exact readEscape_pair opening next rest hhigh hlow

/-- The escape of a unit that is no low half completes no character. -/
lemma unpaired_unitEscape {unit : Nat} (h : unit < 0x10000) (hlow : isLowHalf unit = false)
    (rest : List Char) : Unpaired (unitEscape unit ++ rest) := by
  intro a b c d next more heq
  obtain ⟨a', b', c', d', hdigits⟩ := hexDigits_four unit
  simp only [unitEscape, hdigits, List.cons_append, List.nil_append, List.cons.injEq,
    true_and] at heq
  obtain ⟨rfl, rfl, rfl, rfl, _⟩ := heq
  refine ⟨unit, ?_, hlow⟩
  rw [← hdigits, hexNumber?_hexDigits, Nat.mod_eq_of_lt (by simpa using h)]

lemma unpaired_of_ne {c : Char} {rest : List Char} (h : c ≠ '\\') : Unpaired (c :: rest) := by
  intro _ _ _ _ _ _ heq
  exact absurd (List.cons.inj heq).1 h

/-- **Only a low half completes the character of a high half.** -/
lemma unpaired_writePoint {point : Point} (rest : List Char)
    (h : ∀ half, point = .half half → isLowHalf half.unit = false) :
    Unpaired (writePoint point ++ rest) := by
  cases point with
  | half half => exact unpaired_unitEscape (unit_lt half) (h half rfl) rest
  | char c =>
    have hvalid : c.toNat < 0xD800 ∨ 0xDFFF < c.toNat ∧ c.toNat < 0x110000 := c.valid
    have hform := form_writeChar c
    simp only [writePoint]
    generalize writeChar c = written at hform
    cases hform with
    | letter hu he =>
      intro _ _ _ _ _ _ heq
      exact absurd (List.cons.inj (List.cons.inj heq).2).1 hu
    | plain hquote hslash hc => exact unpaired_of_ne hslash
    | unit hc => exact unpaired_unitEscape hc (by simp [isLowHalf]; omega) rest
    | pair hc =>
      rw [List.append_assoc]
      refine unpaired_unitEscape (by omega) (not_low_of_high (halves_of_le hc).1) _

/-- **A whole text is read back** from the string it was written as. -/
theorem readString_written (opening rest : List Char) : ∀ {points : List Point} {fuel : Nat},
    (⟨points⟩ : LooseText).Whole → points.length < fuel →
      readString opening fuel (points.flatMap writePoint ++ '"' :: rest) = .ok (points, rest)
  | [], fuel + 1, _, _ => by simp [readString]
  | point :: points, fuel + 1, hwhole, hfuel => by
      have hrest : readString opening fuel (points.flatMap writePoint ++ '"' :: rest) =
          .ok (points, rest) :=
        readString_written opening rest (List.IsChain.tail hwhole) (by simpa using hfuel)
      obtain ⟨next, more, htail⟩ : ∃ next more,
          points.flatMap writePoint ++ '"' :: rest = next :: more :=
        List.exists_cons_of_ne_nil (by simp)
      have hnext : ∀ half, point = .half half → isHighHalf half.unit = true →
          Unpaired (next :: more) := by
        rintro half rfl hhigh
        rw [← htail]
        cases points with
        | nil => exact unpaired_of_ne (by decide)
        | cons second points =>
          rw [List.flatMap_cons, List.append_assoc]
          refine unpaired_writePoint _ ?_
          rintro low rfl
          have hpair : ¬Point.Pair (.half half) (.half low) := (List.isChain_cons_cons.1 hwhole).1
          exact Bool.eq_false_iff.2 fun hlow => hpair ⟨hhigh, hlow⟩
      rw [List.flatMap_cons, List.append_assoc, htail,
        readString_writePoint opening fuel point next more hnext, ← htail, hrest]
      rfl

/-! ## What is read is whole -/

/-- What reading an escape gives, and after which text. -/
inductive Escape : List Char → Point → List Char → Prop where
  | letter {e c : Char} {rest : List Char} (he : escaped? e = some c) :
      Escape (e :: rest) (.char c) rest
  | unit {text rest : List Char} {unit : Nat} (hunit : readUnit text = .ok (unit, rest))
      (halone : isHighHalf unit = true → Unpaired rest) :
      Escape ('u' :: text) (ofUnit unit) rest
  | pair {text rest after : List Char} {high low : Nat} (hlow : readUnit text = .ok (low, after)) :
      Escape rest (ofHalves high low) after

lemma escape_of_readEscape {opening text rest : List Char} {point : Point}
    (h : readEscape opening text = .ok (point, rest)) : Escape text point rest := by
  unfold readEscape at h
  split at h
  · simp at h
  · next text =>
    cases hunit : readUnit text with
    | error stop => simp [hunit, bind, Except.bind] at h
    | ok read =>
      obtain ⟨unit, after⟩ := read
      simp only [hunit, bind, Except.bind, pure, Except.pure] at h
      cases hhigh : isHighHalf unit with
      | false =>
        simp only [hhigh, Bool.false_eq_true, if_false, Except.ok.injEq, Prod.mk.injEq] at h
        obtain ⟨rfl, rfl⟩ := h
        exact .unit hunit (by simp [hhigh])
      | true =>
        simp only [hhigh, if_true] at h
        split at h
        · next a b c d next more =>
          cases hlow : readUnit (a :: b :: c :: d :: next :: more) with
          | error stop => simp [hlow] at h
          | ok read =>
            obtain ⟨low, last⟩ := read
            simp only [hlow] at h
            split at h
            · simp only [Except.ok.injEq, Prod.mk.injEq] at h
              obtain ⟨rfl, rfl⟩ := h
              exact .pair hlow
            · next hnot =>
              simp only [Except.ok.injEq, Prod.mk.injEq] at h
              obtain ⟨rfl, rfl⟩ := h
              refine .unit hunit fun _ => ?_
              intro a' b' c' d' next' more' heq
              simp only [List.cons.injEq, true_and] at heq
              obtain ⟨rfl, rfl, rfl, rfl, rfl, rfl⟩ := heq
              obtain ⟨_, _, _, _, _, _, heq, hnumber, _⟩ := digits_of_readUnit hlow
              simp only [List.cons.injEq] at heq
              obtain ⟨rfl, rfl, rfl, rfl, _⟩ := heq
              exact ⟨low, hnumber, by simpa using hnot⟩
        · next hother =>
          simp only [Except.ok.injEq, Prod.mk.injEq] at h
          obtain ⟨rfl, rfl⟩ := h
          exact .unit hunit fun _ _ _ _ _ _ _ heq => absurd heq (hother _ _ _ _ _ _)
  · split at h
    · next he =>
      simp only [Except.ok.injEq, Prod.mk.injEq] at h
      obtain ⟨rfl, rfl⟩ := h
      exact .letter he
    · simp at h

/-- A high half that was read alone is not followed by the escape of a low half. -/
lemma unpaired_of_escape {text rest : List Char} {half : Half}
    (h : Escape text (.half half) rest) (hhigh : isHighHalf half.unit = true) :
    Unpaired rest := by
  generalize hpoint : Point.half half = point at h
  cases h with
  | letter => cases hpoint
  | unit hunit halone => exact halone (unit_of_ofUnit hpoint.symm ▸ hhigh)
  | pair => cases hpoint

/-- A half is read from its four digits. -/
lemma digits_of_escape {text rest : List Char} {half : Half}
    (h : Escape text (.half half) rest) :
    ∃ a b c d next more, text = 'u' :: a :: b :: c :: d :: next :: more ∧
      hexNumber? [a, b, c, d] = some half.unit := by
  generalize hpoint : Point.half half = point at h
  cases h with
  | letter => cases hpoint
  | unit hunit halone =>
    obtain ⟨a, b, c, d, next, more, rfl, hnumber, _⟩ := digits_of_readUnit hunit
    exact ⟨a, b, c, d, next, more, rfl, unit_of_ofUnit hpoint.symm ▸ hnumber⟩
  | pair => cases hpoint

/-- One step of reading a string: its end, an escape, or a character as it is. -/
lemma readString_cases {opening text rest : List Char} {fuel : Nat} {points : List Point}
    (h : readString opening (fuel + 1) text = .ok (points, rest)) :
    (points = [] ∧ text = '"' :: rest) ∨
    (∃ text' point after points', text = '\\' :: text' ∧ points = point :: points' ∧
      Escape text' point after ∧ readString opening fuel after = .ok (points', rest)) ∨
    ∃ c after points', text = c :: after ∧ points = .char c :: points' ∧
      readString opening fuel after = .ok (points', rest) := by
  cases text with
  | nil => simp [readString] at h
  | cons c text =>
    simp only [readString, bind, Except.bind, pure, Except.pure] at h
    split_ifs at h with hquote hslash hcontrol
    · simp only [Except.ok.injEq, Prod.mk.injEq] at h
      exact .inl ⟨h.1.symm, by rw [hquote, h.2]⟩
    · split at h
      · simp at h
      · next read hread =>
        split at h
        · simp at h
        · next more hmore =>
          simp only [Except.ok.injEq, Prod.mk.injEq] at h
          obtain ⟨rfl, rfl⟩ := h
          exact .inr (.inl ⟨text, read.1, read.2, more.1, by rw [hslash], rfl,
            escape_of_readEscape hread, hmore⟩)
    · split at h
      · simp at h
      · next more hmore =>
        simp only [Except.ok.injEq, Prod.mk.injEq] at h
        obtain ⟨rfl, rfl⟩ := h
        exact .inr (.inr ⟨c, text, more.1, rfl, rfl, hmore⟩)

/-- A string that begins with a low half begins with its escape. -/
lemma escape_of_readString {opening text rest : List Char} {fuel : Nat} {half : Half}
    {points : List Point} (h : readString opening fuel text = .ok (.half half :: points, rest)) :
    ∃ a b c d next more, text = '\\' :: 'u' :: a :: b :: c :: d :: next :: more ∧
      hexNumber? [a, b, c, d] = some half.unit := by
  cases fuel with
  | zero => simp [readString] at h
  | succ fuel =>
    obtain ⟨hnil, _⟩ | ⟨text, point, after, points', rfl, hpoints, hescape, _⟩ |
      ⟨c, after, points', _, hpoints, _⟩ := readString_cases h
    · cases hnil
    · obtain ⟨rfl, rfl⟩ := List.cons.inj hpoints
      obtain ⟨a, b, c, d, next, more, rfl, hnumber⟩ := digits_of_escape hescape
      exact ⟨a, b, c, d, next, more, rfl, hnumber⟩
    · cases (List.cons.inj hpoints).1

/-- **Every text that is read is whole.** -/
theorem whole_of_readString {opening : List Char} {fuel : Nat} {text rest : List Char}
    {points : List Point} (h : readString opening fuel text = .ok (points, rest)) :
    (⟨points⟩ : LooseText).Whole := by
  induction fuel generalizing text points with
  | zero => simp [readString] at h
  | succ fuel ih =>
    obtain ⟨rfl, _⟩ | ⟨text, point, after, points, rfl, rfl, hescape, hrest⟩ |
      ⟨c, after, points, rfl, rfl, hrest⟩ := readString_cases h
    · exact List.isChain_nil
    · refine List.isChain_cons.2 ⟨fun low hlow hpair => ?_, ih hrest⟩
      -- a pair of halves would have been read as one character
      match point, low, hpair with
      | .half high, .half low, ⟨hhigh, hlow'⟩ =>
        obtain ⟨points, rfl⟩ : ∃ others, points = .half low :: others := by
          cases points with
          | nil => simp at hlow
          | cons first others => exact ⟨others, by simpa using hlow⟩
        obtain ⟨a, b, c, d, next, more, rfl, hnumber⟩ := escape_of_readString hrest
        obtain ⟨unit, hunit, hnot⟩ :=
          unpaired_of_escape hescape hhigh a b c d next more rfl
        rw [hnumber, Option.some.injEq] at hunit
        rw [← hunit, hlow'] at hnot
        cases hnot
    · exact List.isChain_cons.2 ⟨fun _ _ => id, ih hrest⟩

end Json

end WasmCoverage
