import Mathlib.Tactic.Lemma
import WasmCoverage.Text.Utf8

/-!
# Writing octets strictly

`Glyph.encode` writes every text.  A strict writer refuses a stray octet below `0x80`, which is the
encoding of a character, so that writing it and reading it again would not give the stray octet
back.  Reading octets never makes such a stray (`writable_of_mem_decode`): what was read, in
whatever order its glyphs are put together again with other characters, is written by the strict
writer as `Glyph.encode` writes it (`encode?_eq_some`).
-/

namespace WasmCoverage.Text.Glyph

/-! ## Glyphs that can be written -/

/-- The glyph is a character, or an octet that is no character's encoding. -/
def Writable : Glyph → Prop
  | char _ => True
  | stray octet => 0x80 ≤ octet.toNat

instance : DecidablePred Writable
  | char _ => .isTrue trivial
  | stray octet => inferInstanceAs (Decidable (0x80 ≤ octet.toNat))

/-- The octets of a text, unless a stray octet in it may not be written. -/
def encode? : List Glyph → Option Octets
  | [] => some []
  | glyph :: rest => if glyph.Writable then (encode? rest).map (glyph.octets ++ ·) else none

lemma encode_cons (glyph : Glyph) (rest : List Glyph) :
    encode (glyph :: rest) = glyph.octets ++ encode rest :=
  List.flatMap_cons

/-- **A text is written strictly exactly if all its glyphs can be**, and then as it always is. -/
theorem encode?_eq_some {octets : Octets} : ∀ {glyphs : List Glyph},
    encode? glyphs = some octets ↔ (∀ glyph ∈ glyphs, glyph.Writable) ∧ encode glyphs = octets
  | [] => by simp [encode?, encode]
  | glyph :: rest => by
      by_cases hglyph : glyph.Writable
      · have ih {others : Octets} : encode? rest = some others ↔
            (∀ glyph ∈ rest, glyph.Writable) ∧ encode rest = others :=
          encode?_eq_some
        simp only [encode?, hglyph, if_true, Option.map_eq_some_iff, ih, List.forall_mem_cons,
          true_and, encode_cons]
        constructor
        · rintro ⟨others, ⟨hrest, rfl⟩, rfl⟩
          exact ⟨hrest, rfl⟩
        · rintro ⟨hrest, rfl⟩
          exact ⟨_, ⟨hrest, rfl⟩, rfl⟩
      · simp [encode?, hglyph]

/-! ## Reading makes no others -/

/-- An octet below `0x80` is the encoding of a character. -/
lemma le_of_firstChar?_eq_none {octet : UInt8} {rest : Octets}
    (h : firstChar? (octet :: rest) = none) : 0x80 ≤ octet.toNat := by
  refine Nat.le_of_not_lt fun hlow => ?_
  have hencode : String.utf8EncodeChar (Char.ofNat octet.toNat) = [octet] := by
    have hall : ∀ n < 0x80, String.utf8EncodeChar (Char.ofNat n) = [UInt8.ofNat n] := by
      decide +kernel
    rw [hall _ hlow, UInt8.ofNat_toNat]
  simp [firstChar?, candidate?, hlow, hencode] at h

/-- **What was read can be written.** -/
theorem writable_of_mem_decode (octets : Octets) : ∀ glyph ∈ decode octets, glyph.Writable := by
  fun_induction decode octets with
  | case1 => simp
  | case2 octet rest c h ih => exact List.forall_mem_cons.2 ⟨trivial, ih⟩
  | case3 octet rest h ih => exact List.forall_mem_cons.2 ⟨le_of_firstChar?_eq_none h, ih⟩

/-! ## ASCII -/

/-- A character in ASCII is one octet, and is read from it. -/
lemma firstChar?_ascii {c : Char} (h : c.toNat < 0x80) (rest : Octets) :
    String.utf8EncodeChar c = [UInt8.ofNat c.toNat] ∧
      firstChar? (UInt8.ofNat c.toNat :: rest) = some c := by
  have hall : ∀ n < 0x80, String.utf8EncodeChar (Char.ofNat n) = [UInt8.ofNat n] ∧
      (UInt8.ofNat n).toNat = n := by
    decide +kernel
  obtain ⟨hencode, hback⟩ := hall _ h
  rw [Char.ofNat_toNat] at hencode
  refine ⟨hencode, ?_⟩
  simp only [firstChar?, candidate?, hback, h, if_true, Char.ofNat_toNat, hencode]
  simp

lemma decode_ascii {chars : List Char} (h : ∀ c ∈ chars, c.toNat < 0x80) :
    decode (chars.flatMap String.utf8EncodeChar) = chars.map char := by
  induction chars with
  | nil => simp [decode]
  | cons c chars ih =>
    obtain ⟨hencode, hfirst⟩ :=
      firstChar?_ascii (h c List.mem_cons_self) (chars.flatMap String.utf8EncodeChar)
    have hrest := ih fun c hc => h c (List.mem_cons_of_mem _ hc)
    rw [List.flatMap_cons, hencode, List.singleton_append, decode]
    split
    · next c' hread =>
      obtain rfl : c = c' := Option.some.inj (hfirst.symm.trans hread)
      simp [hencode, hrest]
    · next hread => simp [hfirst] at hread

/-- **A text in ASCII is read from its octets.** -/
theorem decodeText?_ascii {text : String} (h : ∀ c ∈ text.toList, c.toNat < 0x80) :
    decodeText? (octetsOf text) = some text := by
  simp [decodeText?, octetsOf, decode_ascii h, toChars?_map_char]

end WasmCoverage.Text.Glyph
