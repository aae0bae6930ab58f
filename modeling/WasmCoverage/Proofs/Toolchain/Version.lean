import Mathlib.Data.List.TakeWhile
import Mathlib.Tactic.Lemma
import WasmCoverage.Toolchain.Version

/-!
# The version in the compiler's report

The report is searched for a label with a digit right behind it; the first such place counts, and
all digits that stand there belong to the version (`FirstVersion`).  The search finds exactly this
(**`versionDigits?_eq_some_iff`**).  `Report.read?_eq_some_iff` says what the report tells as a
whole: the version, and whether the word `nightly` is anywhere in it.
-/

namespace WasmCoverage.Toolchain

open WasmCoverage.Text

variable {text digits : List Char}

/-- The text begins with a label that a digit stands behind. -/
def BeginsVersion (text : List Char) : Prop :=
  ∃ digit, isDecimalDigit digit = true ∧ versionLabel ++ [digit] <+: text

/-- The text begins with a label, and these are all the digits behind it. -/
structure VersionAhead (text digits after : List Char) : Prop where
  parts : text = versionLabel ++ digits ++ after
  some_digit : digits ≠ []
  all_digits : ∀ c ∈ digits, isDecimalDigit c = true
  ended : ∀ c ∈ after.head?, isDecimalDigit c = false

/-- These are the digits of the first version in the text. -/
def FirstVersion (text digits : List Char) : Prop :=
  ∃ before rest after, text = before ++ rest ∧ VersionAhead rest digits after ∧
    ∀ earlier more, before = earlier ++ more → more ≠ [] → ¬BeginsVersion (more ++ rest)

/-- A text that begins a version has all its digits. -/
lemma BeginsVersion.exists_ahead (h : BeginsVersion text) :
    ∃ digits after, VersionAhead text digits after := by
  obtain ⟨digit, hdigit, rest, rfl⟩ := h
  refine ⟨digit :: rest.takeWhile isDecimalDigit, rest.dropWhile isDecimalDigit, ?_, by simp, ?_,
    ?_⟩
  · simp [List.takeWhile_append_dropWhile]
  · exact List.forall_mem_cons.2 ⟨hdigit, fun c hc => List.mem_takeWhile_imp hc⟩
  · intro c hc
    have := List.head?_dropWhile_not isDecimalDigit rest
    rw [Option.mem_def.1 hc] at this
    simpa using this

/-- A version that the text begins with is found. -/
lemma VersionAhead.versionDigits? {after : List Char} (h : VersionAhead text digits after) :
    versionDigits? text = some digits := by
  obtain ⟨first, rest, hdigits⟩ := List.exists_cons_of_ne_nil h.some_digit
  have htake : ((text.drop versionLabel.length).takeWhile isDecimalDigit) = first :: rest := by
    rw [h.parts, List.append_assoc, List.drop_left, List.takeWhile_append_of_pos h.all_digits,
      ← hdigits]
    cases after with
    | nil => simp
    | cons c after => simp [List.takeWhile_cons_of_neg, h.ended c rfl]
  have hlabel : versionLabel.isPrefixOf text = true :=
    List.isPrefixOf_iff_prefix.2 ⟨digits ++ after, by rw [h.parts, List.append_assoc]⟩
  cases text with
  | nil => simp at htake
  | cons c text => rw [Toolchain.versionDigits?, if_pos hlabel, htake, hdigits]

/-- What does not begin a version is passed over. -/
lemma versionDigits?_cons {c : Char} {rest : List Char} (h : ¬BeginsVersion (c :: rest)) :
    versionDigits? (c :: rest) = versionDigits? rest := by
  rw [versionDigits?]
  split_ifs with hlabel
  · obtain ⟨behind, heq⟩ := List.isPrefixOf_iff_prefix.1 hlabel
    have hnone : behind.takeWhile isDecimalDigit = [] := by
      cases behind with
      | nil => rfl
      | cons digit behind =>
        refine List.takeWhile_cons_of_neg fun hdigit => h ⟨digit, hdigit, behind, ?_⟩
        rw [← heq]
        simp
    rw [← heq, List.drop_left, hnone]
  · rfl

/-- **The search finds the first version**, with all its digits. -/
theorem versionDigits?_eq_some_iff :
    versionDigits? text = some digits ↔ FirstVersion text digits := by
  constructor
  · intro h
    induction text with
    | nil => cases h
    | cons c text ih =>
      by_cases hbegins : BeginsVersion (c :: text)
      · obtain ⟨found, after, hahead⟩ := hbegins.exists_ahead
        obtain rfl := Option.some.inj (hahead.versionDigits?.symm.trans h)
        exact ⟨[], c :: text, after, rfl, hahead, fun earlier more heq hmore =>
          absurd (List.append_eq_nil_iff.1 heq.symm).2 hmore⟩
      · obtain ⟨before, rest, after, rfl, hahead, hfirst⟩ := ih (versionDigits?_cons hbegins ▸ h)
        refine ⟨c :: before, rest, after, rfl, hahead, fun earlier more heq hmore => ?_⟩
        cases earlier with
        | nil =>
          obtain rfl : c :: before = more := heq
          exact hbegins
        | cons d earlier => exact hfirst earlier more (List.cons.inj heq).2 hmore
  · rintro ⟨before, rest, after, rfl, hahead, hfirst⟩
    induction before with
    | nil => exact hahead.versionDigits?
    | cons c before ih =>
      have hpassed := hfirst [] (c :: before) rfl (List.cons_ne_nil c before)
      rw [List.cons_append] at hpassed ⊢
      rw [versionDigits?_cons hpassed]
      exact ih fun earlier more heq hmore =>
        hfirst (c :: earlier) more (by rw [heq, List.cons_append]) hmore

/-- **A report tells the first version in it**, and whether `nightly` is anywhere in it. -/
theorem Report.read?_eq_some_iff {output : String} {report : Report} :
    Report.read? output = some report ↔ FirstVersion output.toList report.version.toList ∧
      (report.nightly = true ↔ "nightly".toList <:+: output.toList) := by
  simp only [Report.read?, Option.map_eq_some_iff, versionDigits?_eq_some_iff]
  constructor
  · rintro ⟨digits, hdigits, rfl⟩
    exact ⟨by simpa using hdigits, occursIn_iff⟩
  · rintro ⟨hversion, hnightly⟩
    refine ⟨report.version.toList, hversion, ?_⟩
    have hsame : textOccursIn "nightly" output = report.nightly :=
      Bool.eq_iff_iff.2 (occursIn_iff.trans hnightly.symm)
    rw [hsame, String.ofList_toList]

end WasmCoverage.Toolchain
