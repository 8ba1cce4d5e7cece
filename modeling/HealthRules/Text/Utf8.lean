/-!
# Utf8 — characters as bytes

A line of rule text is taken only if its bytes are well-formed UTF-8: shortest forms, no surrogates,
nothing above U+10FFFF. Encoding and decoding work on lists, one character at a time.

* `encode` writes a text as bytes;
* `decode?` reads bytes back, and refuses any malformed sequence;
* `pieces` reads what it can.
-/

namespace HealthRules.Utf8

/-! ## Encoding -/

/-- The bytes of one character, one to four of them. -/
def encodeChar (c : Char) : List UInt8 :=
  let n := c.toNat
  if n < 0x80 then [n.toUInt8]
  else if n < 0x800 then [(0xC0 + n / 0x40).toUInt8, (0x80 + n % 0x40).toUInt8]
  else if n < 0x10000 then
    [(0xE0 + n / 0x1000).toUInt8, (0x80 + n / 0x40 % 0x40).toUInt8, (0x80 + n % 0x40).toUInt8]
  else
    [(0xF0 + n / 0x40000).toUInt8, (0x80 + n / 0x1000 % 0x40).toUInt8,
      (0x80 + n / 0x40 % 0x40).toUInt8, (0x80 + n % 0x40).toUInt8]

def encode (cs : List Char) : List UInt8 := cs.flatMap encodeChar

/-! ## Decoding -/

/-- A byte that continues a sequence. -/
def isContinuation (b : UInt8) : Bool := 0x80 ≤ b && b ≤ 0xBF

/-- The payload of a continuation byte. -/
def payload (b : UInt8) : Nat := b.toNat - 0x80

/-- Take a scalar value that its length admits, `least` being the first that needs this length. -/
def scalar? (least n : Nat) : Option Char :=
  if least ≤ n then
    if h : n.isValidChar then some (Char.ofNatAux n h) else none
  else none

/-- Read well-formed UTF-8; any other byte sequence has no reading. -/
def decode? : List UInt8 → Option (List Char)
  | [] => some []
  | b :: rest =>
      if b < 0x80 then (decode? rest).map (Char.ofNat b.toNat :: ·)
      else if b < 0xC0 then none
      else match rest with
        | [] => none
        | b₁ :: rest₁ =>
          if !isContinuation b₁ then none
          else if b < 0xE0 then do
            let c ← scalar? 0x80 ((b.toNat - 0xC0) * 0x40 + payload b₁)
            (decode? rest₁).map (c :: ·)
          else match rest₁ with
            | [] => none
            | b₂ :: rest₂ =>
              if !isContinuation b₂ then none
              else if b < 0xF0 then do
                let c ← scalar? 0x800
                  ((b.toNat - 0xE0) * 0x1000 + payload b₁ * 0x40 + payload b₂)
                (decode? rest₂).map (c :: ·)
              else match rest₂ with
                | [] => none
                | b₃ :: rest₃ =>
                  if !isContinuation b₃ || 0xF8 ≤ b then none
                  else do
                    let c ← scalar? 0x10000
                      ((b.toNat - 0xF0) * 0x40000 + payload b₁ * 0x1000 + payload b₂ * 0x40 +
                        payload b₃)
                    (decode? rest₃).map (c :: ·)

/-- The text of well-formed bytes. -/
def text? (bytes : List UInt8) : Option String := (decode? bytes).map String.ofList

/-! ## Malformed bytes -/

/-- The first character of some bytes and what follows it, if they begin with one. -/
def firstChar? (bytes : List UInt8) : Option (Char × List UInt8) :=
  [1, 2, 3, 4].findSome? fun n => match decode? (bytes.take n) with
    | some [c] => some (c, bytes.drop n)
    | _ => none

/-- The characters of some bytes, and between them the bytes that belong to none; `fuel` bounds the
number of pieces. -/
def piecesUpTo : Nat → List UInt8 → List (Char ⊕ UInt8)
  | 0, _ => []
  | _, [] => []
  | fuel + 1, b :: rest => match firstChar? (b :: rest) with
    | some (c, rest) => .inl c :: piecesUpTo fuel rest
    | none => .inr b :: piecesUpTo fuel rest

/-- The characters of some bytes, and between them the bytes that belong to none. -/
def pieces (bytes : List UInt8) : List (Char ⊕ UInt8) := piecesUpTo bytes.length bytes

end HealthRules.Utf8
