import HealthRules.Proofs.Text.LineBreaks
import HealthRules.Proofs.Text.Utf8Coding

/-!
# EncodedText — the bytes of a text

A text has the bytes that the standard library gives it. Bytes below 0x80 stand for themselves there and are
part of no other character, so that bytes can be cut at such a byte where the text is cut at the character.

* `encode_toList`: the bytes are those of the standard library;
* `mem_encodeChar_iff` and `mem_encode_iff`, where a byte below 0x80 occurs;
* `cut_encode`: cutting the bytes is cutting the text.
-/

namespace HealthRules

namespace Utf8

/-! ## The bytes of a text -/

theorem encodeChar_eq (c : Char) : encodeChar c = String.utf8EncodeChar c := by
  -- The library adds the marks behind the payloads, and takes a remainder that changes nothing.
  have hc : c.toNat < 0x110000 := toNat_lt c
  unfold encodeChar String.utf8EncodeChar
  simp only [show c.val.toNat = c.toNat from rfl, Nat.toUInt8_eq]
  generalize c.toNat = n at hc
  by_cases hone : n < 0x80
  · simp [hone, show n ≤ 127 by omega]
  · by_cases htwo : n < 0x800
    · have hlead : n / 64 % 32 + 192 = 0xC0 + n / 0x40 := by omega
      simp [hone, htwo, show ¬ n ≤ 127 by omega, show n ≤ 2047 by omega, hlead, Nat.add_comm]
    · by_cases hthree : n < 0x10000
      · have hlead : n / 4096 % 16 + 224 = 0xE0 + n / 0x1000 := by omega
        simp [hone, htwo, hthree, show ¬ n ≤ 127 by omega, show ¬ n ≤ 2047 by omega,
          show n ≤ 65535 by omega, hlead, Nat.add_comm]
      · have hlead : n / 262144 % 8 + 240 = 0xF0 + n / 0x40000 := by omega
        simp [hone, htwo, hthree, show ¬ n ≤ 127 by omega, show ¬ n ≤ 2047 by omega,
          show ¬ n ≤ 65535 by omega, hlead, Nat.add_comm]

theorem encode_toList (text : String) : encode text.toList = text.toUTF8.data.toList := by
  have hchars : encode text.toList = text.toList.flatMap String.utf8EncodeChar := by
    simp [encode, funext encodeChar_eq]
  have hbytes : text.toUTF8 = text.toList.utf8Encode := by
    simp [← String.toByteArray_ofList]
  rw [hchars, hbytes]
  exact List.toList_data_toByteArray.symm

/-! ## Bytes below 0x80 -/

/-- A byte below 0x80 is the whole of a character or no part of it. -/
theorem mem_encodeChar_iff {b : UInt8} (hb : b.toNat < 0x80) (c : Char) :
    b ∈ encodeChar c ↔ c.toNat = b.toNat := by
  have hc : c.toNat < 0x110000 := toNat_lt c
  have hbyte : ∀ m : Nat, m < 0x100 → (b = m.toUInt8 ↔ b.toNat = m) := by
    intro m hm
    rw [← UInt8.toNat_inj, toNat_toUInt8 hm]
  unfold encodeChar
  generalize c.toNat = n at hc
  simp only
  split
  · next hone =>
      simp only [List.mem_singleton, hbyte n (by omega)]
      exact eq_comm
  · -- All bytes of the longer forms have their highest bit set.
    split
    · next htwo =>
        simp only [List.mem_cons, List.not_mem_nil, or_false, hbyte _ (show 0xC0 + n / 0x40 < _ by omega),
          hbyte _ (show 0x80 + n % 0x40 < _ by omega)]
        omega
    · split
      · next hthree =>
          simp only [List.mem_cons, List.not_mem_nil, or_false,
            hbyte _ (show 0xE0 + n / 0x1000 < _ by omega),
            hbyte _ (show 0x80 + n / 0x40 % 0x40 < _ by omega),
            hbyte _ (show 0x80 + n % 0x40 < _ by omega)]
          omega
      · simp only [List.mem_cons, List.not_mem_nil, or_false,
          hbyte _ (show 0xF0 + n / 0x40000 < _ by omega),
          hbyte _ (show 0x80 + n / 0x1000 % 0x40 < _ by omega),
          hbyte _ (show 0x80 + n / 0x40 % 0x40 < _ by omega),
          hbyte _ (show 0x80 + n % 0x40 < _ by omega)]
        omega

theorem mem_encode_iff {mark : Char} {b : UInt8} (hb : b.toNat < 0x80) (hmark : mark.toNat = b.toNat)
    (cs : List Char) : b ∈ encode cs ↔ mark ∈ cs := by
  have hchar : ∀ c : Char, b ∈ encodeChar c ↔ c = mark := by
    intro c
    rw [mem_encodeChar_iff hb, ← hmark, Char.toNat_inj]
  simp [encode, hchar]

end Utf8

/-! ## Cutting -/

namespace Lines

/-- A piece without breaks goes in front of the first ended piece, or of the rest if no piece has ended. -/
theorem cut_append_of_unbroken {α : Type} {isBreak : α → Bool} {piece : List α}
    (hpiece : ∀ x ∈ piece, isBreak x = false) (xs : List α) :
    cut isBreak (piece ++ xs) = match (cut isBreak xs).1 with
      | [] => ([], piece ++ (cut isBreak xs).2)
      | d :: ds => ((piece ++ d) :: ds, (cut isBreak xs).2) := by
  induction piece with
  | nil =>
      cases hdone : (cut isBreak xs).1 with
      | nil => simp [← hdone]
      | cons d ds => simp [← hdone]
  | cons x piece ih =>
      have hx : isBreak x = false := hpiece x List.mem_cons_self
      have hrest := ih fun y hy => hpiece y (List.mem_cons_of_mem x hy)
      rw [List.cons_append, cut, hrest]
      cases (cut isBreak xs).1 with
      | nil => simp [hx]
      | cons d ds => simp [hx]

end Lines

namespace Utf8

theorem cut_encode {mark : Char} {b : UInt8} (hb : b.toNat < 0x80) (hmark : mark.toNat = b.toNat)
    (cs : List Char) :
    Lines.cut (· == b) (encode cs) =
      ((Lines.cut (· == mark) cs).1.map encode, encode (Lines.cut (· == mark) cs).2) := by
  induction cs with
  | nil => rfl
  | cons c cs ih =>
      rw [encode_cons]
      by_cases hc : c = mark
      · -- The mark is encoded as the byte alone.
        subst hc
        have hone : c.toNat < 0x80 := hmark ▸ hb
        have hbytes : encodeChar c = [b] := by
          simp [encodeChar, hone, toUInt8_eq hmark]
        have hempty : encode [] = [] := rfl
        simp [hbytes, hempty, Lines.cut, ih]
      · have hunbroken : ∀ x ∈ encodeChar c, (x == b) = false := by
          intro x hx
          have hne : x ≠ b := by
            rintro rfl
            have hn : c.toNat = x.toNat := (mem_encodeChar_iff hb c).1 hx
            exact hc (Char.toNat_inj.1 (hn.trans hmark.symm))
          simpa using hne
        rw [Lines.cut_append_of_unbroken hunbroken, ih]
        cases hdone : (Lines.cut (· == mark) cs).1 with
        | nil => simp [Lines.cut, hc, hdone, encode_cons]
        | cons d ds => simp [Lines.cut, hc, hdone, encode_cons]

end Utf8

end HealthRules
