import HealthRules.Text.Lines
import HealthRules.Text.Utf8

/-!
# Utf8Coding — decoding undoes encoding

Bytes are well-formed when they encode some text, and then they encode just one. Lines are cut in bytes and
read as characters, and both views of a line agree on its last character.

* `decode?_encodeChar_append`, character by character;
* `decode?_eq_some_iff`: decoding finds the text that the bytes encode;
* `dropFinal_encode` and `decode?_dropFinal`, for the carriage return at the end of a line.
-/

namespace HealthRules.Utf8

/-! ## Bytes and scalar values -/

theorem toNat_toUInt8 {n : Nat} (h : n < 0x100) : n.toUInt8.toNat = n := by
  simp only [Nat.toUInt8_eq, UInt8.toNat_ofNat']
  omega

theorem toUInt8_eq {n : Nat} {b : UInt8} (h : n = b.toNat) : n.toUInt8 = b := by
  rw [h]
  exact UInt8.ofNat_toNat

theorem not_lt_of_toNat_le {b k : UInt8} (h : k.toNat ≤ b.toNat) : ¬ b < k :=
  UInt8.not_lt.2 (UInt8.le_iff_toNat_le.2 h)

theorem isContinuation_iff {b : UInt8} :
    isContinuation b = true ↔ 0x80 ≤ b.toNat ∧ b.toNat < 0xC0 := by
  have hle : ∀ x y : UInt8, x ≤ y ↔ x.toNat ≤ y.toNat := fun _ _ => UInt8.le_iff_toNat_le
  simp only [isContinuation, Bool.and_eq_true, decide_eq_true_eq, hle]
  change 128 ≤ b.toNat ∧ b.toNat ≤ 191 ↔ _
  omega

theorem scalar?_eq_some_iff {least n : Nat} {c : Char} :
    scalar? least n = some c ↔ least ≤ n ∧ c.toNat = n := by
  unfold scalar?
  by_cases hleast : least ≤ n
  · rw [if_pos hleast]
    by_cases hvalid : n.isValidChar
    · rw [dif_pos hvalid]
      constructor
      · intro h
        cases h
        exact ⟨hleast, rfl⟩
      · rintro ⟨-, rfl⟩
        exact congrArg some (Char.toNat_inj.1 rfl)
    · rw [dif_neg hvalid]
      constructor
      · nofun
      · rintro ⟨-, rfl⟩
        exact absurd c.valid hvalid
  · rw [if_neg hleast]
    constructor
    · nofun
    · rintro ⟨h, -⟩
      exact absurd h hleast

/-! ## Decoding what is encoded -/

section Forms

variable {b b₁ b₂ b₃ : UInt8} {c : Char} (rest : List UInt8)

theorem decode?_one (hb : b.toNat < 0x80) :
    decode? (b :: rest) = (decode? rest).map (Char.ofNat b.toNat :: ·) := by
  have hlt : b < 0x80 := UInt8.lt_iff_toNat_lt.2 hb
  rw [decode?.eq_def]
  simp only [hlt, if_true]

theorem decode?_two (hb : 0xC0 ≤ b.toNat ∧ b.toNat < 0xE0) (h₁ : isContinuation b₁ = true)
    (hc : scalar? 0x80 ((b.toNat - 0xC0) * 0x40 + payload b₁) = some c) :
    decode? (b :: b₁ :: rest) = (decode? rest).map (c :: ·) := by
  have hascii : ¬ b < 0x80 := not_lt_of_toNat_le (by simp; omega)
  have hlead : ¬ b < 0xC0 := not_lt_of_toNat_le (by simp; omega)
  have htwo : b < 0xE0 := UInt8.lt_iff_toNat_lt.2 hb.2
  rw [decode?.eq_def]
  simp [hascii, hlead, htwo, h₁, hc]

theorem decode?_three (hb : 0xE0 ≤ b.toNat ∧ b.toNat < 0xF0) (h₁ : isContinuation b₁ = true)
    (h₂ : isContinuation b₂ = true)
    (hc : scalar? 0x800 ((b.toNat - 0xE0) * 0x1000 + payload b₁ * 0x40 + payload b₂) = some c) :
    decode? (b :: b₁ :: b₂ :: rest) = (decode? rest).map (c :: ·) := by
  have hascii : ¬ b < 0x80 := not_lt_of_toNat_le (by simp; omega)
  have hlead : ¬ b < 0xC0 := not_lt_of_toNat_le (by simp; omega)
  have htwo : ¬ b < 0xE0 := not_lt_of_toNat_le (by simp; omega)
  have hthree : b < 0xF0 := UInt8.lt_iff_toNat_lt.2 hb.2
  rw [decode?.eq_def]
  simp [hascii, hlead, htwo, hthree, h₁, h₂, hc]

theorem decode?_four (hb : 0xF0 ≤ b.toNat ∧ b.toNat < 0xF8) (h₁ : isContinuation b₁ = true)
    (h₂ : isContinuation b₂ = true) (h₃ : isContinuation b₃ = true)
    (hc : scalar? 0x10000 ((b.toNat - 0xF0) * 0x40000 + payload b₁ * 0x1000 + payload b₂ * 0x40 +
      payload b₃) = some c) :
    decode? (b :: b₁ :: b₂ :: b₃ :: rest) = (decode? rest).map (c :: ·) := by
  have hascii : ¬ b < 0x80 := not_lt_of_toNat_le (by simp; omega)
  have hlead : ¬ b < 0xC0 := not_lt_of_toNat_le (by simp; omega)
  have htwo : ¬ b < 0xE0 := not_lt_of_toNat_le (by simp; omega)
  have hthree : ¬ b < 0xF0 := not_lt_of_toNat_le (by simp; omega)
  have hfour : ¬ 0xF8 ≤ b := UInt8.not_le.2 (UInt8.lt_iff_toNat_lt.2 hb.2)
  rw [decode?.eq_def]
  simp [hascii, hlead, htwo, hthree, hfour, h₁, h₂, h₃, hc]

end Forms

theorem toNat_lt (c : Char) : c.toNat < 0x110000 := by
  rcases c.valid with h | h
  · exact Nat.lt_trans h (by decide)
  · exact h.2

theorem decode?_encodeChar_append (c : Char) (rest : List UInt8) :
    decode? (encodeChar c ++ rest) = (decode? rest).map (c :: ·) := by
  -- In every form the payloads make up the scalar value again, and the form is the shortest for it.
  have hc := toNat_lt c
  unfold encodeChar
  generalize hn : c.toNat = n at hc
  have hcont : ∀ m : Nat, isContinuation (0x80 + m % 0x40).toUInt8 = true := by
    intro m
    rw [isContinuation_iff, toNat_toUInt8 (by omega)]
    omega
  have hpayload : ∀ m : Nat, payload (0x80 + m % 0x40).toUInt8 = m % 0x40 := by
    intro m
    have hbyte : (0x80 + m % 0x40).toUInt8.toNat = 0x80 + m % 0x40 := toNat_toUInt8 (by omega)
    unfold payload
    rw [hbyte]
    omega
  simp only
  split
  · next hone =>
      have hb : n.toUInt8.toNat = n := toNat_toUInt8 (by omega)
      rw [List.singleton_append, decode?_one rest (by omega), hb, ← hn, Char.ofNat_toNat]
  · split
    · next hone htwo =>
        have hb : (0xC0 + n / 0x40).toUInt8.toNat = 0xC0 + n / 0x40 := toNat_toUInt8 (by omega)
        refine decode?_two rest (by omega) (hcont _) (scalar?_eq_some_iff.2 ?_)
        rw [hb, hpayload, hn]
        omega
    · split
      · next hone htwo hthree =>
          have hb : (0xE0 + n / 0x1000).toUInt8.toNat = 0xE0 + n / 0x1000 :=
            toNat_toUInt8 (by omega)
          refine decode?_three rest (by omega) (hcont _) (hcont _) (scalar?_eq_some_iff.2 ?_)
          rw [hb, hpayload, hpayload, hn]
          omega
      · next hone htwo hthree =>
          have hb : (0xF0 + n / 0x40000).toUInt8.toNat = 0xF0 + n / 0x40000 :=
            toNat_toUInt8 (by omega)
          refine decode?_four rest (by omega) (hcont _) (hcont _) (hcont _)
            (scalar?_eq_some_iff.2 ?_)
          rw [hb, hpayload, hpayload, hpayload, hn]
          omega

theorem encode_cons (c : Char) (cs : List Char) : encode (c :: cs) = encodeChar c ++ encode cs :=
  List.flatMap_cons

theorem decode?_encode (text : List Char) : decode? (encode text) = some text := by
  induction text with
  | nil => rfl
  | cons c cs ih =>
      rw [encode_cons, decode?_encodeChar_append, ih]
      rfl

/-! ## Encoding what is decoded -/

theorem encodeChar_one {b : UInt8} (hb : b < 0x80) : encodeChar (Char.ofNat b.toNat) = [b] := by
  have hlt : b.toNat < 0x80 := UInt8.lt_iff_toNat_lt.1 hb
  have hn : (Char.ofNat b.toNat).toNat = b.toNat := by
    rw [Char.ofNat, dif_pos (Or.inl (by omega))]
    rfl
  unfold encodeChar
  rw [hn]
  simp [hlt]

section Forms

variable {b b₁ b₂ b₃ : UInt8} {c : Char}

theorem encodeChar_two (hb : 0xC0 ≤ b.toNat ∧ b.toNat < 0xE0) (h₁ : isContinuation b₁ = true)
    (hc : scalar? 0x80 ((b.toNat - 0xC0) * 0x40 + payload b₁) = some c) :
    encodeChar c = [b, b₁] := by
  rcases scalar?_eq_some_iff.1 hc with ⟨hleast, hn⟩
  rcases isContinuation_iff.1 h₁ with ⟨hlow, hhigh⟩
  unfold payload at hleast hn
  unfold encodeChar
  rw [hn]
  simp only
  rw [if_neg (by omega), if_pos (by omega), toUInt8_eq (b := b) (by omega),
    toUInt8_eq (b := b₁) (by omega)]

theorem encodeChar_three (hb : 0xE0 ≤ b.toNat ∧ b.toNat < 0xF0) (h₁ : isContinuation b₁ = true)
    (h₂ : isContinuation b₂ = true)
    (hc : scalar? 0x800 ((b.toNat - 0xE0) * 0x1000 + payload b₁ * 0x40 + payload b₂) = some c) :
    encodeChar c = [b, b₁, b₂] := by
  rcases scalar?_eq_some_iff.1 hc with ⟨hleast, hn⟩
  rcases isContinuation_iff.1 h₁ with ⟨hlow₁, hhigh₁⟩
  rcases isContinuation_iff.1 h₂ with ⟨hlow₂, hhigh₂⟩
  unfold payload at hleast hn
  unfold encodeChar
  rw [hn]
  simp only
  rw [if_neg (by omega), if_neg (by omega), if_pos (by omega), toUInt8_eq (b := b) (by omega),
    toUInt8_eq (b := b₁) (by omega), toUInt8_eq (b := b₂) (by omega)]

theorem encodeChar_four (hb : 0xF0 ≤ b.toNat ∧ b.toNat < 0xF8) (h₁ : isContinuation b₁ = true)
    (h₂ : isContinuation b₂ = true) (h₃ : isContinuation b₃ = true)
    (hc : scalar? 0x10000 ((b.toNat - 0xF0) * 0x40000 + payload b₁ * 0x1000 + payload b₂ * 0x40 +
      payload b₃) = some c) :
    encodeChar c = [b, b₁, b₂, b₃] := by
  rcases scalar?_eq_some_iff.1 hc with ⟨hleast, hn⟩
  rcases isContinuation_iff.1 h₁ with ⟨hlow₁, hhigh₁⟩
  rcases isContinuation_iff.1 h₂ with ⟨hlow₂, hhigh₂⟩
  rcases isContinuation_iff.1 h₃ with ⟨hlow₃, hhigh₃⟩
  unfold payload at hleast hn
  unfold encodeChar
  rw [hn]
  simp only
  rw [if_neg (by omega), if_neg (by omega), if_neg (by omega), toUInt8_eq (b := b) (by omega),
    toUInt8_eq (b := b₁) (by omega), toUInt8_eq (b := b₂) (by omega),
    toUInt8_eq (b := b₃) (by omega)]

end Forms

theorem encode_of_decode? {bytes : List UInt8} {text : List Char} (h : decode? bytes = some text) :
    encode text = bytes := by
  -- The cases in which something is decoded are those of the four forms; all others give nothing.
  fun_induction decode? bytes generalizing text with
  | case1 =>
      cases h
      rfl
  | case2 b rest hb ih =>
      rcases Option.map_eq_some_iff.1 h with ⟨cs, hrest, rfl⟩
      rw [encode_cons, encodeChar_one hb, ih hrest]
      rfl
  | case6 b hascii hlead b₁ rest h₁ htwo ih =>
      rcases Option.bind_eq_some_iff.1 h with ⟨c, hc, hmap⟩
      rcases Option.map_eq_some_iff.1 hmap with ⟨cs, hrest, rfl⟩
      have hb : 0xC0 ≤ b.toNat ∧ b.toNat < 0xE0 :=
        ⟨UInt8.le_iff_toNat_le.1 (UInt8.not_lt.1 hlead), UInt8.lt_iff_toNat_lt.1 htwo⟩
      rw [encode_cons, encodeChar_two hb (by simpa using h₁) hc, ih hrest]
      rfl
  | case9 b hascii hlead b₁ h₁ htwo b₂ rest h₂ hthree ih =>
      rcases Option.bind_eq_some_iff.1 h with ⟨c, hc, hmap⟩
      rcases Option.map_eq_some_iff.1 hmap with ⟨cs, hrest, rfl⟩
      have hb : 0xE0 ≤ b.toNat ∧ b.toNat < 0xF0 :=
        ⟨UInt8.le_iff_toNat_le.1 (UInt8.not_lt.1 htwo), UInt8.lt_iff_toNat_lt.1 hthree⟩
      rw [encode_cons, encodeChar_three hb (by simpa using h₁) (by simpa using h₂) hc, ih hrest]
      rfl
  | case12 b hascii hlead b₁ h₁ htwo b₂ h₂ hthree b₃ rest h₃ ih =>
      rcases Option.bind_eq_some_iff.1 h with ⟨c, hc, hmap⟩
      rcases Option.map_eq_some_iff.1 hmap with ⟨cs, hrest, rfl⟩
      have hlast : isContinuation b₃ = true ∧ ¬ 0xF8 ≤ b := by simpa using h₃
      have hb : 0xF0 ≤ b.toNat ∧ b.toNat < 0xF8 :=
        ⟨UInt8.le_iff_toNat_le.1 (UInt8.not_lt.1 hthree),
          UInt8.lt_iff_toNat_lt.1 (UInt8.not_le.1 hlast.2)⟩
      rw [encode_cons, encodeChar_four hb (by simpa using h₁) (by simpa using h₂) hlast.1 hc,
        ih hrest]
      rfl
  | _ => cases h

/-- Decoding finds the text that the bytes encode, if there is one. -/
theorem decode?_eq_some_iff {bytes : List UInt8} {text : List Char} :
    decode? bytes = some text ↔ encode text = bytes := by
  constructor
  · exact encode_of_decode?
  · rintro rfl
    exact decode?_encode text

/-! ## The end of a line -/

/-- The last byte of a character is a carriage return only if the character is one. -/
theorem encodeChar_concat (c : Char) :
    ∃ init last, encodeChar c = init ++ [last] ∧ (last = 0x0D → c = '\r') := by
  -- In the longer forms the last byte is a continuation byte.
  have hlong : ∀ m : Nat, (0x80 + m % 0x40).toUInt8 = 0x0D → c = '\r' := by
    intro m hm
    have hbyte : (0x80 + m % 0x40).toUInt8.toNat = 0x80 + m % 0x40 := toNat_toUInt8 (by omega)
    rw [hm] at hbyte
    have hsmall : (0x0D : UInt8).toNat = 13 := rfl
    omega
  unfold encodeChar
  simp only
  split
  · next hone =>
      refine ⟨[], _, rfl, ?_⟩
      intro hlast
      have hbyte : c.toNat.toUInt8.toNat = c.toNat := toNat_toUInt8 (by omega)
      rw [hlast] at hbyte
      exact Char.toNat_inj.1 hbyte.symm
  · split
    · exact ⟨[_], _, rfl, hlong _⟩
    · split
      · exact ⟨[_, _], _, rfl, hlong _⟩
      · exact ⟨[_, _, _], _, rfl, hlong _⟩

theorem encode_singleton (c : Char) : encode [c] = encodeChar c := by
  rw [encode_cons, encode, List.flatMap_nil, List.append_nil]

theorem encode_append (cs ds : List Char) : encode (cs ++ ds) = encode cs ++ encode ds :=
  List.flatMap_append

/-- A carriage return at the end is the same one in bytes and in characters. -/
theorem dropFinal_encode (text : List Char) :
    Lines.dropFinal 0x0D (encode text) = encode (Lines.dropFinal '\r' text) := by
  rcases List.eq_nil_or_concat text with rfl | ⟨cs, c, rfl⟩
  · rfl
  · rw [List.concat_eq_append, encode_append]
    by_cases hc : c = '\r'
    · subst hc
      have hreturn : encode ['\r'] = [0x0D] := rfl
      simp [Lines.dropFinal, hreturn]
    · -- The last byte of the text is the last byte of `c`.
      rcases encodeChar_concat c with ⟨init, last, hlast, hreturn⟩
      have hencode : encode [c] = init ++ [last] := by rw [← hlast, encode_singleton]
      have hne : last ≠ 0x0D := fun h => hc (hreturn h)
      rw [hencode, ← List.append_assoc]
      simp [Lines.dropFinal, hne, hc, encode_append, hencode]

/-- A carriage return may be removed before decoding or after it. -/
theorem decode?_dropFinal (bytes : List UInt8) :
    decode? (Lines.dropFinal 0x0D bytes) = (decode? bytes).map (Lines.dropFinal '\r') := by
  cases hbytes : decode? bytes with
  | some text =>
      rw [← decode?_eq_some_iff.1 hbytes, dropFinal_encode, decode?_encode]
      rfl
  | none =>
      rcases List.eq_nil_or_concat bytes with rfl | ⟨init, last, rfl⟩
      · cases hbytes
      · rw [List.concat_eq_append] at hbytes ⊢
        by_cases hlast : last = 0x0D
        · subst hlast
          have hdrop : Lines.dropFinal 0x0D (init ++ [0x0D]) = init := by simp [Lines.dropFinal]
          rw [hdrop]
          -- If what is before the carriage return were a text, all of it would be one.
          cases hinit : decode? init with
          | none => rfl
          | some text =>
              have hall : encode (text ++ ['\r']) = init ++ [0x0D] := by
                rw [encode_append, decode?_eq_some_iff.1 hinit]
                rfl
              rw [decode?_eq_some_iff.2 hall] at hbytes
              cases hbytes
        · have hdrop : Lines.dropFinal 0x0D (init ++ [last]) = init ++ [last] := by
            simp [Lines.dropFinal, hlast]
          rw [hdrop, hbytes]
          rfl

end HealthRules.Utf8
