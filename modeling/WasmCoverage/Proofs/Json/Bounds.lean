import WasmCoverage.Proofs.Json.Strings
import WasmCoverage.Proofs.Number.Length
import WasmCoverage.Proofs.Table

/-!
# What reading can give

**Every value that is read is `Bounded`** (`bounded_of_read`): its texts are whole, and the whole
parts of its numbers have no more digits than a numeral may have.  So the texts and counts that are
taken out of it can be written again, and are read back as they were written.

The three reading functions call each other with less fuel; the induction is on the fuel, for all
three at once.
-/

namespace WasmCoverage.Json

open WasmCoverage.Text

/-- The texts in the value are whole and its numbers are not longer than a numeral may be. -/
inductive Bounded : Json → Prop where
  | null : Bounded .null
  | bool (b : Bool) : Bounded (.bool b)
  | integer {n : Int} (hn : IsShort n) : Bounded (.integer n)
  | real {x : Double} (hx : ∀ negative significand exponent,
      x = .finite negative significand exponent →
        IsShort (Double.truncate negative significand exponent)) : Bounded (.real x)
  | text {s : LooseText} (hs : s.Whole) : Bounded (.text s)
  | list {items : List Json} (hitems : ∀ item ∈ items, Bounded item) : Bounded (.list items)
  | record {entries : List (Key × Json)}
      (hkeys : ∀ entry ∈ entries, Bounded (ofKey entry.1))
      (hvalues : ∀ entry ∈ entries, Bounded entry.2) : Bounded (.record entries)

lemma bounded_record {entries : List (Key × Json)}
    (h : ∀ entry ∈ entries, Bounded (ofKey entry.1) ∧ Bounded entry.2) :
    Bounded (.record entries) :=
  .record (fun entry hentry => (h entry hentry).1) fun entry hentry => (h entry hentry).2

/-! ## Numbers -/

lemma digit_lt {c : Char} (h : c.isDigit = true) : c.toNat - 48 < 10 := by
  simp only [Char.isDigit, Bool.and_eq_true, decide_eq_true_eq] at h
  have hlast : c.val.toNat ≤ 57 := UInt32.le_iff_toNat_le.1 h.2
  change c.val.toNat - 48 < 10
  omega

lemma isDigit_of_wholeDigits? {text digits rest : List Char}
    (h : wholeDigits? text = some (digits, rest)) : ∀ c ∈ digits, c.isDigit = true := by
  cases text with
  | nil => simp [wholeDigits?] at h
  | cons c text =>
    simp only [wholeDigits?] at h
    split_ifs at h with hzero hdigit
    · obtain ⟨rfl, rfl⟩ := Prod.mk.inj (Option.some.inj h)
      exact List.forall_mem_singleton.2 (by decide)
    · obtain ⟨rfl, rfl⟩ := Prod.mk.inj (Option.some.inj h)
      intro d hd
      rcases List.mem_cons.1 hd with rfl | hd
      · exact hdigit
      · exact List.all_eq_true.1 List.all_takeWhile d hd

/-- A whole number that is not too long has no more digits than a numeral may have. -/
lemma isShort_whole {digits : List Char} (hdigits : ∀ c ∈ digits, c.isDigit = true)
    (hlength : digits.length ≤ digitLimit) (negative : Bool) :
    IsShort (if negative = true then Int.negOfNat (valueOfDigits digits)
      else (valueOfDigits digits : Int)) := by
  rw [IsShort, Numeral.natAbs_signed]
  refine Numeral.length_toDigits_value (fun digit hdigit => ?_) (by simpa using hlength)
  obtain ⟨c, hc, rfl⟩ := List.mem_map.1 hdigit
  exact digit_lt (hdigits c hc)

/-- A number that is read is not longer than a numeral may be. -/
lemma bounded_of_readNumber {text rest : List Char} {value : Json}
    (h : readNumber text = .ok (value, rest)) : Bounded value := by
  unfold readNumber at h
  simp only at h
  split at h
  · simp at h
  · next digits after hwhole =>
    split at h
    · split at h
      · simp at h
      · next hlength =>
        obtain ⟨rfl, -⟩ := Prod.mk.inj (Except.ok.inj h)
        exact .integer (isShort_whole (isDigit_of_wholeDigits? hwhole)
          (Nat.not_lt.1 hlength) _)
    · obtain ⟨rfl, -⟩ := Prod.mk.inj (Except.ok.inj h)
      exact .real fun _ _ _ hx => Double.isShort_truncate hx

lemma bounded_of_literal? {text rest : List Char} {value : Json}
    (h : literal? text = some (value, rest)) : Bounded value := by
  have hall : ∀ entry ∈ literals, Bounded entry.2 := by
    simp only [literals, List.forall_mem_cons, List.not_mem_nil, false_imp_iff, implies_true,
      and_true]
    exact ⟨.null, .bool true, .bool false, .real (by simp), .real (by simp), .real (by simp)⟩
  simp only [literal?, Option.map_eq_some_iff, Prod.mk.injEq] at h
  obtain ⟨entry, hfound, rfl, -⟩ := h
  exact hall entry (List.mem_of_find?_eq_some hfound)

/-! ## Values -/

/-- What the three reading functions give with some fuel is bounded. -/
structure Bounding (fuel : Nat) : Prop where
  value : ∀ {room text value rest}, readValue fuel room text = .ok (value, rest) → Bounded value
  entries : ∀ {room text entries rest}, readEntries fuel room text = .ok (entries, rest) →
    ∀ entry ∈ entries, Bounded (ofKey entry.1) ∧ Bounded entry.2
  items : ∀ {room text items rest}, readItems fuel room text = .ok (items, rest) →
    ∀ item ∈ items, Bounded item

lemma bind_eq_ok {ε α β : Type} {x : Except ε α} {f : α → Except ε β} {b : β}
    (h : x >>= f = .ok b) : ∃ a, x = .ok a ∧ f a = .ok b := by
  cases x with
  | error e => cases h
  | ok a => exact ⟨a, rfl, h⟩

variable {fuel room : Nat} {text rest : List Char}

lemma bounded_of_readItems (ih : Bounding fuel) {items : List Json}
    (h : readItems (fuel + 1) room text = .ok (items, rest)) : ∀ item ∈ items, Bounded item := by
  rw [readItems] at h
  obtain ⟨⟨item, after⟩, hitem, h⟩ := bind_eq_ok h
  simp only at h
  split at h
  · obtain ⟨rfl, -⟩ := Prod.mk.inj (Except.ok.inj h)
    exact List.forall_mem_singleton.2 (ih.value hitem)
  · obtain ⟨⟨items, last⟩, hitems, h⟩ := bind_eq_ok h
    obtain ⟨rfl, -⟩ := Prod.mk.inj (Except.ok.inj h)
    exact List.forall_mem_cons.2 ⟨ih.value hitem, ih.items hitems⟩
  · simp at h

lemma bounded_of_readEntries (ih : Bounding fuel) {entries : List (Key × Json)}
    (h : readEntries (fuel + 1) room text = .ok (entries, rest)) :
    ∀ entry ∈ entries, Bounded (ofKey entry.1) ∧ Bounded entry.2 := by
  rw [readEntries.eq_def] at h
  simp only at h
  split at h
  · obtain ⟨⟨key, after⟩, hkey, h⟩ := bind_eq_ok h
    have hname : Bounded (ofKey (.text ⟨key⟩)) := .text (whole_of_readString hkey)
    simp only at h
    split at h
    · obtain ⟨⟨value, afterValue⟩, hvalue, h⟩ := bind_eq_ok h
      simp only at h
      split at h
      · obtain ⟨rfl, -⟩ := Prod.mk.inj (Except.ok.inj h)
        exact List.forall_mem_singleton.2 ⟨hname, ih.value hvalue⟩
      · obtain ⟨⟨entries, last⟩, hentries, h⟩ := bind_eq_ok h
        obtain ⟨rfl, -⟩ := Prod.mk.inj (Except.ok.inj h)
        exact List.forall_mem_cons.2 ⟨⟨hname, ih.value hvalue⟩, ih.entries hentries⟩
      · simp at h
    · simp at h
  · simp at h

lemma bounded_of_readValue (ih : Bounding fuel) {value : Json}
    (h : readValue (fuel + 1) room text = .ok (value, rest)) : Bounded value := by
  cases text with
  | nil => simp [readValue] at h
  | cons c text =>
    rw [readValue.eq_def] at h
    simp only at h
    split_ifs at h
    · obtain ⟨⟨points, after⟩, hpoints, h⟩ := bind_eq_ok h
      obtain ⟨rfl, -⟩ := Prod.mk.inj (Except.ok.inj h)
      exact .text (whole_of_readString hpoints)
    · split at h
      · simp at h
      · split at h
        · obtain ⟨rfl, -⟩ := Prod.mk.inj (Except.ok.inj h)
          exact bounded_record (by simp)
        · obtain ⟨⟨entries, after⟩, hentries, h⟩ := bind_eq_ok h
          obtain ⟨rfl, -⟩ := Prod.mk.inj (Except.ok.inj h)
          exact bounded_record (Table.forall_ofList (p := fun key => Bounded (ofKey key))
            (ih.entries hentries))
    · split at h
      · simp at h
      · split at h
        · obtain ⟨rfl, -⟩ := Prod.mk.inj (Except.ok.inj h)
          exact .list (by simp)
        · obtain ⟨⟨items, after⟩, hitems, h⟩ := bind_eq_ok h
          obtain ⟨rfl, -⟩ := Prod.mk.inj (Except.ok.inj h)
          exact .list (ih.items hitems)
    · split at h
      · next found =>
        obtain rfl := Except.ok.inj h
        exact bounded_of_literal? found
      · exact bounded_of_readNumber h

lemma bounding (fuel : Nat) : Bounding fuel := by
  induction fuel with
  | zero =>
    exact ⟨fun h => by simp [readValue] at h, fun h => by simp [readEntries] at h,
      fun h => by simp [readItems] at h⟩
  | succ fuel ih =>
    exact ⟨bounded_of_readValue ih, bounded_of_readEntries ih, bounded_of_readItems ih⟩

/-- **Every value that is read is bounded.** -/
theorem bounded_of_read {depth : Nat} {text : List Char} {value : Json}
    (h : read depth text = .ok value) : Bounded value := by
  have hall : readAll depth text = .ok value := by
    cases hread : readAll depth text with
    | error stop => simp [read, hread, Except.mapError] at h
    | ok other =>
      rw [read, hread] at h
      simpa [Except.mapError] using h
  rw [readAll] at hall
  split at hall
  · obtain ⟨_, hthrow, _⟩ := bind_eq_ok hall
    cases hthrow
  · obtain ⟨⟨value, after⟩, hvalue, h⟩ := bind_eq_ok hall
    simp only at h
    split at h
    · exact Except.ok.inj h ▸ (bounding _).value hvalue
    · cases h

end WasmCoverage.Json
