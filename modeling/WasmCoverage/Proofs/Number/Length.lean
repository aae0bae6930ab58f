import Mathlib.Data.List.Induction
import Mathlib.Tactic.Lemma
import Mathlib.Tactic.Positivity
import Mathlib.Tactic.Ring
import WasmCoverage.Number.Numeral

/-!
# The length of numbers that were read

A numeral has at most `digitLimit` digits, and so has the whole part of every number that is read:

* **A whole number that a text spells has no more digits than a numeral may have**
  (`Numeral.isShort_of_readLoose`).
* **The whole part of a double that a decimal spells has no more either**
  (`Double.isShort_truncate`).  The exponent of a double is at most 971, and a decimal with
  more than 310 digits before its point is an infinity.  The rounding to the nearest significand
  adds at most one unit of the exponent (`Double.whole_nearest_le`), so the whole part stays far
  below the limit.
-/

namespace WasmCoverage

/-- The number has no more digits than a numeral may have. -/
def IsShort (n : Int) : Prop :=
  (Nat.toDigits 10 n.natAbs).length ≤ digitLimit

instance : DecidablePred IsShort := fun _ => inferInstanceAs (Decidable (_ ≤ _))

/-! ## Rows of digits -/

namespace Numeral

/-- A row of digits below ten is below the power of ten for its length. -/
lemma value_lt {digits : List Nat} (h : ∀ digit ∈ digits, digit < 10) :
    value digits < 10 ^ digits.length := by
  induction digits using List.reverseRecOn with
  | nil => simp [value]
  | append_singleton digits digit ih =>
    have hbefore := ih fun d hd => h d (by simp [hd])
    have hdigit := h digit (by simp)
    rw [value_append, List.length_append, List.length_singleton, Nat.pow_succ]
    omega

/-- A row of digits spells a number with no more digits. -/
lemma length_toDigits_value {digits : List Nat} (h : ∀ digit ∈ digits, digit < 10)
    (hlength : digits.length ≤ digitLimit) :
    (Nat.toDigits 10 (value digits)).length ≤ digitLimit := by
  rw [Nat.length_toDigits_le_iff (by decide) (by decide)]
  exact (value_lt h).trans_le (Nat.pow_le_pow_right (by decide) hlength)

lemma lt_of_mem_digitsFrom (text : List Char) (afterDigit : Bool) :
    ∀ digit ∈ (digitsFrom afterDigit text).1, digit < 10 := by
  fun_induction digitsFrom afterDigit text with
  | case1 => simp
  | case2 c rest d hd digits tail hrest ih =>
    simp only [hrest] at ih
    exact List.forall_mem_cons.2 ⟨Text.digitValue?_lt hd, ih⟩
  | case3 => simp
  | case4 _ c rest _ d hd digits tail hrest ih =>
    simp only [hrest] at ih
    exact List.forall_mem_cons.2 ⟨Text.digitValue?_lt hd, ih⟩
  | case5 => simp

lemma natAbs_signed (negative : Bool) (size : Nat) :
    (if negative = true then Int.negOfNat size else (size : Int)).natAbs = size := by
  cases negative
  · rfl
  · exact Int.natAbs_negOfNat size

/-- **A whole number that a text spells has no more digits than a numeral may have.** -/
theorem isShort_of_readLoose {text : LooseText} {n : Int} (h : readLoose text = .ok n) :
    IsShort n := by
  unfold readLoose at h
  split at h
  · unfold read at h
    simp only at h
    generalize hfound : digitsFrom false _ = found at h
    have hdigits : ∀ digit ∈ found.1, digit < 10 := hfound ▸ lt_of_mem_digitsFrom _ _
    split at h
    · cases h
    · split at h
      · cases h
      · next hlength =>
        split at h
        · cases h
        · obtain rfl := Except.ok.inj h
          rw [IsShort, natAbs_signed]
          exact length_toDigits_value hdigits (Nat.not_lt.1 hlength)
  · cases h

end Numeral

/-! ## Whole parts -/

namespace Double

section Scaled

variable (base numerator denominator k : Nat)

lemma scaled_natCast :
    scaled base numerator denominator k = (numerator * base ^ k, denominator) := by
  simp [scaled]

lemma scaled_negSucc : scaled base numerator denominator (Int.negSucc k) =
    (numerator, denominator * base ^ (k + 1)) := by
  simp [scaled, Int.negSucc_not_nonneg, Int.neg_negSucc]

end Scaled

/-- The whole part of the size of a finite double. -/
def whole (significand : Nat) (exponent : Int) : Nat :=
  (quotient significand exponent).1 / (quotient significand exponent).2

lemma natAbs_truncate (negative : Bool) (significand : Nat) (exponent : Int) :
    (truncate negative significand exponent).natAbs = whole significand exponent := by
  cases negative
  · exact Int.natAbs_natCast _
  · exact (Int.natAbs_neg _).trans (Int.natAbs_natCast _)

lemma whole_natCast (significand k : Nat) : whole significand k = significand * 2 ^ k := by
  simp [whole, quotient, scaled_natCast]

lemma whole_negSucc (significand k : Nat) :
    whole significand (Int.negSucc k) = significand / 2 ^ (k + 1) := by
  simp [whole, quotient, scaled_negSucc]

lemma whole_zero (exponent : Int) : whole 0 exponent = 0 := by
  cases exponent with
  | ofNat k => exact (whole_natCast 0 k).trans (Nat.zero_mul _)
  | negSucc k => exact (whole_negSucc 0 k).trans (Nat.zero_div _)

lemma nearest_le (n d : Nat) : nearest n d ≤ n / d + 1 := by
  simp only [nearest]
  split <;> omega

section Bounds

variable {exponent : Int} {largest : Nat} (h : exponent ≤ largest)

include h

/-- A double is at most its significand in units of the largest exponent. -/
lemma whole_le (significand : Nat) : whole significand exponent ≤ significand * 2 ^ largest := by
  cases exponent with
  | ofNat k =>
    have hk : k ≤ largest := Int.ofNat_le.1 h
    exact (whole_natCast significand k).trans_le
      (Nat.mul_le_mul_left _ (Nat.pow_le_pow_right (by decide) hk))
  | negSucc k =>
    rw [whole_negSucc]
    exact (Nat.div_le_self _ _).trans (Nat.le_mul_of_pos_right _ (by positivity))

/-- **Rounding adds at most one unit of the exponent.** -/
lemma whole_nearest_le (numerator denominator : Nat) :
    whole (nearest (scaled 2 numerator denominator (-exponent)).1
        (scaled 2 numerator denominator (-exponent)).2) exponent ≤
      numerator / denominator + 2 ^ largest := by
  have hunit : 1 ≤ 2 ^ largest := Nat.one_le_two_pow
  cases exponent with
  | ofNat k =>
    have hpow : 2 ^ k ≤ 2 ^ largest := Nat.pow_le_pow_right (by decide) (Int.ofNat_le.1 h)
    have hscaled : (scaled 2 numerator denominator (-Int.ofNat k)).1 /
        (scaled 2 numerator denominator (-Int.ofNat k)).2 = numerator / denominator / 2 ^ k := by
      cases k with
      | zero => simp [scaled]
      | succ k =>
        rw [show -Int.ofNat (k + 1) = Int.negSucc k from rfl, scaled_negSucc]
        exact (Nat.div_div_eq_div_mul _ _ _).symm
    rw [show Int.ofNat k = (k : Int) from rfl] at hscaled ⊢
    rw [whole_natCast]
    calc nearest _ _ * 2 ^ k
        ≤ (numerator / denominator / 2 ^ k + 1) * 2 ^ k :=
          Nat.mul_le_mul_right _ (hscaled ▸ nearest_le _ _)
      _ = numerator / denominator / 2 ^ k * 2 ^ k + 2 ^ k := by ring
      _ ≤ numerator / denominator + 2 ^ largest :=
          Nat.add_le_add (Nat.div_mul_le_self _ _) hpow
  | negSucc k =>
    have hcancel :
        numerator * 2 ^ (k + 1) / denominator / 2 ^ (k + 1) = numerator / denominator := by
      rw [Nat.div_div_eq_div_mul, Nat.mul_div_mul_right _ _ (by positivity)]
    rw [Int.neg_negSucc, scaled_natCast, whole_negSucc]
    calc nearest (numerator * 2 ^ (k + 1)) denominator / 2 ^ (k + 1)
        ≤ (numerator * 2 ^ (k + 1) / denominator + 2 ^ (k + 1)) / 2 ^ (k + 1) :=
          Nat.div_le_div_right ((nearest_le _ _).trans (Nat.add_le_add_left Nat.one_le_two_pow _))
      _ = numerator / denominator + 1 := by rw [Nat.add_div_right _ (by positivity), hcancel]
      _ ≤ numerator / denominator + 2 ^ largest := Nat.add_le_add_left hunit _

end Bounds

/-- The double nearest to a quotient is not far above it. -/
lemma whole_of_ofQuotient {negative sign : Bool} {numerator denominator significand largest : Nat}
    {exponent : Int} (hlargest : 971 ≤ largest)
    (h : ofQuotient negative numerator denominator = finite sign significand exponent) :
    whole significand exponent ≤ numerator / denominator + leastSignificand * 2 ^ largest := by
  have hone : 1 ≤ leastSignificand := Nat.two_pow_pos 52
  have hrange {exponent : Int} (h : ¬exponent > 971) : exponent ≤ largest := by omega
  unfold ofQuotient at h
  by_cases hzero : numerator = 0
  · rw [if_pos hzero, finite.injEq] at h
    obtain ⟨-, rfl, -⟩ := h
    exact (whole_zero _).trans_le (Nat.zero_le _)
  · rw [if_neg hzero] at h
    -- the guess is forgotten before anything is evaluated
    extract_lets guess at h
    have hbound : guess ≤ largest → whole (nearest (scaled 2 numerator denominator (-guess)).1
        (scaled 2 numerator denominator (-guess)).2) guess ≤
          numerator / denominator + 2 ^ largest :=
      fun h => whole_nearest_le h numerator denominator
    clear_value guess
    generalize scaled 2 numerator denominator (-guess) = pair at h hbound
    obtain ⟨n, d⟩ := pair
    simp only at h hbound
    generalize nearest n d = rounded at h hbound
    by_cases hcarry : rounded = 2 * leastSignificand
    · simp only [if_pos hcarry] at h
      split at h
      · simp at h
      · next hexponent =>
        rw [finite.injEq] at h
        obtain ⟨-, rfl, rfl⟩ := h
        exact (whole_le (hrange hexponent) leastSignificand).trans (Nat.le_add_left _ _)
    · simp only [if_neg hcarry] at h
      split at h
      · simp at h
      · next hexponent =>
        rw [finite.injEq] at h
        obtain ⟨-, rfl, rfl⟩ := h
        refine (hbound (hrange hexponent)).trans ?_
        exact Nat.add_le_add_left (Nat.le_mul_of_pos_left _ hone) _

lemma lt_digitCount (n : Nat) : n < 10 ^ digitCount n :=
  (Nat.length_toDigits_le_iff (by decide) Nat.length_toDigits_pos).1 (Nat.le_refl _)

/-- A decimal with few digits before its point is a small quotient. -/
lemma quotient_lt {digits limit : Nat} {power : Int} (h : power + digitCount digits ≤ limit) :
    (scaled 10 digits 1 power).1 / (scaled 10 digits 1 power).2 < 10 ^ limit := by
  have hdigits := lt_digitCount digits
  cases power with
  | ofNat k =>
    rw [show Int.ofNat k = (k : Int) from rfl] at h ⊢
    rw [scaled_natCast, Nat.div_one]
    calc digits * 10 ^ k < 10 ^ digitCount digits * 10 ^ k :=
          Nat.mul_lt_mul_of_pos_right hdigits (by positivity)
      _ = 10 ^ (digitCount digits + k) := (Nat.pow_add 10 _ _).symm
      _ ≤ 10 ^ limit := Nat.pow_le_pow_right (by decide) (by omega)
  | negSucc k =>
    rw [scaled_negSucc, Nat.one_mul]
    refine Nat.div_lt_of_lt_mul (hdigits.trans_le ?_)
    rw [← Nat.pow_add]
    exact Nat.pow_le_pow_right (by decide) (by omega)

/-- The double nearest to a decimal is below a bound that does not depend on the decimal. -/
lemma whole_of_ofDecimal {negative sign : Bool} {digits significand limit largest : Nat}
    {power exponent : Int} (hlimit : 310 ≤ limit) (hlargest : 971 ≤ largest)
    (h : ofDecimal negative digits power = finite sign significand exponent) :
    whole significand exponent < 10 ^ limit + leastSignificand * 2 ^ largest := by
  have hpositive : 0 < 10 ^ limit + leastSignificand * 2 ^ largest := by positivity
  simp only [ofDecimal] at h
  split at h
  · simp only [finite.injEq] at h
    obtain ⟨-, rfl, -⟩ := h
    exact (whole_zero _).trans_lt hpositive
  · split at h
    · simp at h
    · next hsmall =>
      split at h
      · simp only [finite.injEq] at h
        obtain ⟨-, rfl, -⟩ := h
        exact (whole_zero _).trans_lt hpositive
      · have hpower : power + digitCount digits ≤ limit := by omega
        have hquotient := quotient_lt hpower
        exact (whole_of_ofQuotient hlargest h).trans_lt (Nat.add_lt_add_right hquotient _)

/-- **The whole part of a decimal that was read has no more digits than a numeral may have.** -/
theorem isShort_truncate {negative sign : Bool} {digits significand : Nat}
    {power exponent : Int}
    (h : ofDecimal negative digits power = finite sign significand exponent) :
    IsShort (truncate sign significand exponent) := by
  have hwhole : whole significand exponent < 10 ^ 400 :=
    (whole_of_ofDecimal (Nat.le_refl 310) (Nat.le_refl 971) h).trans_le (by decide +kernel)
  have hlength := (Nat.length_toDigits_le_iff (b := 10) (by decide) (by decide)).2 hwhole
  rw [IsShort, natAbs_truncate]
  exact hlength.trans (by decide)

end Double

end WasmCoverage
