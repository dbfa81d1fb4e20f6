import Hyperlooms.NodeAuth.Base64

/-!
# UTF-8

`str.encode("utf-8")` and the strict `bytes.decode("utf-8")` of CPython 3.12,
which `issue_token` and `verify_token` run on a token's payload.

The decoder follows `Objects/stringlib/codecs.h`: a lead byte fixes how many
continuation bytes follow, the second byte of `E0`, `ED`, `F0` and `F4` has a
narrower range (no overlong form, no surrogate, nothing past `U+10FFFF`), and a
failure is reported as `UnicodeDecodeError` with the codec's reason and the
range of bytes it names: the lead byte alone for an invalid start, the lead and
the continuation bytes before the bad one for an invalid continuation, and
everything from the lead to the end for data that ends inside a sequence.

**Result.** `utf8Decode_utf8Encode`: decoding the encoding of a string gives its
characters back, for every string.
-/

namespace Hyperlooms
namespace NodeAuth

/-! ## Encoding -/

/-- The UTF-8 bytes of one character. -/
def utf8EncodeChar (c : Char) : List UInt8 :=
  let n := c.toNat
  if n < 0x80 then [UInt8.ofNat n]
  else if n < 0x800 then [UInt8.ofNat (0xC0 + n / 0x40), UInt8.ofNat (0x80 + n % 0x40)]
  else if n < 0x10000 then
    [UInt8.ofNat (0xE0 + n / 0x1000), UInt8.ofNat (0x80 + n / 0x40 % 0x40),
      UInt8.ofNat (0x80 + n % 0x40)]
  else
    [UInt8.ofNat (0xF0 + n / 0x40000), UInt8.ofNat (0x80 + n / 0x1000 % 0x40),
      UInt8.ofNat (0x80 + n / 0x40 % 0x40), UInt8.ofNat (0x80 + n % 0x40)]

/-- `s.encode("utf-8")`. -/
def utf8Encode (s : String) : List UInt8 :=
  s.data.flatMap utf8EncodeChar

/-! ## Strict decoding -/

/-- A `UnicodeDecodeError` of the `utf-8` codec: the range `start` to `stop`
(Python's `end`) of the bytes it names, and its reason. -/
structure Utf8Error where
  start : ℕ
  stop : ℕ
  reason : String
deriving DecidableEq, Repr

/-- `IS_CONTINUATION_BYTE`. -/
def isContinuation (b : UInt8) : Bool :=
  0x80 ≤ b.toNat && b.toNat ≤ 0xBF

/-- The second byte of a three-byte sequence: a continuation byte, at least
`A0` after `E0` and below `A0` after `ED`. -/
def secondOfThree (lead : ℕ) (b : UInt8) : Bool :=
  isContinuation b && (if b.toNat < 0xA0 then lead ≠ 0xE0 else lead ≠ 0xED)

/-- The second byte of a four-byte sequence: a continuation byte, at least `90`
after `F0` and below `90` after `F4`. -/
def secondOfFour (lead : ℕ) (b : UInt8) : Bool :=
  isContinuation b && (if b.toNat < 0x90 then lead ≠ 0xF0 else lead ≠ 0xF4)

/-- Puts a decoded character in front of what the rest decodes to. -/
def consChar (c : Char) (r : Except Utf8Error (List Char)) : Except Utf8Error (List Char) :=
  r.map (c :: ·)

/-- `bytes.decode("utf-8")` from byte offset `pos`: the characters, or the first
`UnicodeDecodeError`. -/
def utf8Decode (pos : ℕ) : List UInt8 → Except Utf8Error (List Char)
  | [] => .ok []
  | b :: bs =>
      let n := b.toNat
      let invalidStart : Except Utf8Error (List Char) := .error ⟨pos, pos + 1, "invalid start byte"⟩
      let invalidContinuation (k : ℕ) : Except Utf8Error (List Char) :=
        .error ⟨pos, pos + k, "invalid continuation byte"⟩
      let unexpectedEnd : Except Utf8Error (List Char) :=
        .error ⟨pos, pos + (b :: bs).length, "unexpected end of data"⟩
      if n < 0x80 then consChar (Char.ofNat n) (utf8Decode (pos + 1) bs)
      else if n < 0xC2 then invalidStart
      else if n < 0xE0 then
        match bs with
        | [] => unexpectedEnd
        | c₁ :: rest =>
            if isContinuation c₁ then
              consChar (Char.ofNat (n % 0x20 * 0x40 + c₁.toNat % 0x40)) (utf8Decode (pos + 2) rest)
            else invalidContinuation 1
      else if n < 0xF0 then
        match bs with
        | [] => unexpectedEnd
        | c₁ :: rest =>
            if !secondOfThree n c₁ then invalidContinuation 1
            else
              match rest with
              | [] => unexpectedEnd
              | c₂ :: rest =>
                  if isContinuation c₂ then
                    consChar (Char.ofNat (n % 0x10 * 0x1000 + c₁.toNat % 0x40 * 0x40 +
                      c₂.toNat % 0x40)) (utf8Decode (pos + 3) rest)
                  else invalidContinuation 2
      else if n < 0xF5 then
        match bs with
        | [] => unexpectedEnd
        | c₁ :: rest =>
            if !secondOfFour n c₁ then invalidContinuation 1
            else
              match rest with
              | [] => unexpectedEnd
              | c₂ :: rest =>
                  if !isContinuation c₂ then invalidContinuation 2
                  else
                    match rest with
                    | [] => unexpectedEnd
                    | c₃ :: rest =>
                        if isContinuation c₃ then
                          consChar (Char.ofNat (n % 0x08 * 0x40000 + c₁.toNat % 0x40 * 0x1000 +
                            c₂.toNat % 0x40 * 0x40 + c₃.toNat % 0x40)) (utf8Decode (pos + 4) rest)
                        else invalidContinuation 3
      else invalidStart

/-- Two lower-case hex digits, as `%02x` prints a byte. -/
def hex2 (b : ℕ) : String :=
  String.mk [Nat.digitChar (b / 16), Nat.digitChar (b % 16)]

/-- `str(UnicodeDecodeError)` for the bytes `data`. -/
def Utf8Error.message (data : List UInt8) (e : Utf8Error) : String :=
  if e.start < data.length ∧ e.stop = e.start + 1 then
    "'utf-8' codec can't decode byte 0x" ++ hex2 (data.getD e.start 0).toNat ++ " in position " ++
      toString e.start ++ ": " ++ e.reason
  else
    "'utf-8' codec can't decode bytes in position " ++ toString e.start ++ "-" ++
      toString (e.stop - 1) ++ ": " ++ e.reason

example : utf8Decode 0 [0x61, 0xE2, 0x28] = .error ⟨1, 2, "invalid continuation byte"⟩ :=
  rfl

example : utf8Decode 0 [0x61, 0xE2, 0x82] = .error ⟨1, 3, "unexpected end of data"⟩ :=
  rfl

/-! ## Round trip -/

@[simp] theorem consChar_ok (c : Char) (l : List Char) : consChar c (.ok l) = .ok (c :: l) := rfl

theorem toNat_ofNat_byte {n : ℕ} (h : n < 256) : (UInt8.ofNat n).toNat = n :=
  UInt8.toNat_ofNat_of_lt h

theorem isContinuation_tail {x : ℕ} (h : x < 0x40) : isContinuation (UInt8.ofNat (0x80 + x)) := by
  simp only [isContinuation, toNat_ofNat_byte (by omega : 0x80 + x < 256), Bool.and_eq_true,
    decide_eq_true_eq]
  omega

theorem secondOfThree_encode {n : ℕ} (h₁ : 0x800 ≤ n) (h₂ : n < 0x10000)
    (hs : n < 0xD800 ∨ 0xDFFF < n) :
    secondOfThree (0xE0 + n / 0x1000) (UInt8.ofNat (0x80 + n / 0x40 % 0x40)) := by
  simp only [secondOfThree, isContinuation_tail (Nat.mod_lt _ (by norm_num : 0x40 > 0)),
    toNat_ofNat_byte (by omega : 0x80 + n / 0x40 % 0x40 < 256), Bool.true_and]
  split_ifs <;> simp only [decide_eq_true_eq] <;> omega

theorem secondOfFour_encode {n : ℕ} (h₁ : 0x10000 ≤ n) (h₂ : n < 0x110000) :
    secondOfFour (0xF0 + n / 0x40000) (UInt8.ofNat (0x80 + n / 0x1000 % 0x40)) := by
  simp only [secondOfFour, isContinuation_tail (Nat.mod_lt _ (by norm_num : 0x40 > 0)),
    toNat_ofNat_byte (by omega : 0x80 + n / 0x1000 % 0x40 < 256), Bool.true_and]
  split_ifs <;> simp only [decide_eq_true_eq] <;> omega

/-! The decoder on one well-formed sequence of each length. -/

theorem utf8Decode_two {pos : ℕ} {b₀ b₁ : UInt8} {rest : List UInt8}
    (h₀ : 0xC2 ≤ b₀.toNat ∧ b₀.toNat < 0xE0) (h₁ : isContinuation b₁) :
    utf8Decode pos (b₀ :: b₁ :: rest) =
      consChar (Char.ofNat (b₀.toNat % 0x20 * 0x40 + b₁.toNat % 0x40)) (utf8Decode (pos + 2) rest) := by
  rw [utf8Decode.eq_def]
  simp only [if_neg (show ¬b₀.toNat < 0x80 by omega), if_neg (show ¬b₀.toNat < 0xC2 by omega),
    if_pos h₀.2, h₁, ↓reduceIte]

theorem utf8Decode_three {pos : ℕ} {b₀ b₁ b₂ : UInt8} {rest : List UInt8}
    (h₀ : 0xE0 ≤ b₀.toNat ∧ b₀.toNat < 0xF0) (h₁ : secondOfThree b₀.toNat b₁)
    (h₂ : isContinuation b₂) :
    utf8Decode pos (b₀ :: b₁ :: b₂ :: rest) =
      consChar (Char.ofNat (b₀.toNat % 0x10 * 0x1000 + b₁.toNat % 0x40 * 0x40 + b₂.toNat % 0x40))
        (utf8Decode (pos + 3) rest) := by
  rw [utf8Decode.eq_def]
  simp only [if_neg (show ¬b₀.toNat < 0x80 by omega), if_neg (show ¬b₀.toNat < 0xC2 by omega),
    if_neg (show ¬b₀.toNat < 0xE0 by omega), if_pos h₀.2, h₁, h₂, Bool.not_true,
    Bool.false_eq_true, ↓reduceIte]

theorem utf8Decode_four {pos : ℕ} {b₀ b₁ b₂ b₃ : UInt8} {rest : List UInt8}
    (h₀ : 0xF0 ≤ b₀.toNat ∧ b₀.toNat < 0xF5) (h₁ : secondOfFour b₀.toNat b₁)
    (h₂ : isContinuation b₂) (h₃ : isContinuation b₃) :
    utf8Decode pos (b₀ :: b₁ :: b₂ :: b₃ :: rest) =
      consChar (Char.ofNat (b₀.toNat % 0x08 * 0x40000 + b₁.toNat % 0x40 * 0x1000 +
        b₂.toNat % 0x40 * 0x40 + b₃.toNat % 0x40)) (utf8Decode (pos + 4) rest) := by
  rw [utf8Decode.eq_def]
  simp only [if_neg (show ¬b₀.toNat < 0x80 by omega), if_neg (show ¬b₀.toNat < 0xC2 by omega),
    if_neg (show ¬b₀.toNat < 0xE0 by omega), if_neg (show ¬b₀.toNat < 0xF0 by omega), if_pos h₀.2,
    h₁, h₂, h₃, Bool.not_true, Bool.false_eq_true, ↓reduceIte]

/-- The bytes of one character decode to it, whatever follows. -/
theorem utf8Decode_utf8EncodeChar (c : Char) (pos : ℕ) (rest : List UInt8) :
    utf8Decode pos (utf8EncodeChar c ++ rest) =
      consChar c (utf8Decode (pos + (utf8EncodeChar c).length) rest) := by
  have hvalid : c.toNat < 0xD800 ∨ (0xDFFF < c.toNat ∧ c.toNat < 0x110000) := c.valid
  have hc : Char.ofNat c.toNat = c := Char.ofNat_toNat c
  have hmod : ∀ m, m % 0x40 < 0x40 := fun m => Nat.mod_lt _ (by norm_num)
  dsimp only [utf8EncodeChar]
  split_ifs with h1 h2 h3
  · rw [List.singleton_append, utf8Decode.eq_def]
    simp only [toNat_ofNat_byte (by omega : c.toNat < 256), if_pos h1, hc, List.length_singleton]
  · rw [List.cons_append, List.singleton_append,
      utf8Decode_two (by rw [toNat_ofNat_byte (by omega)]; omega) (isContinuation_tail (hmod _)),
      toNat_ofNat_byte (by omega), toNat_ofNat_byte (by omega)]
    congr
    exact (congrArg Char.ofNat (by omega)).trans hc
  · rw [List.cons_append, List.cons_append, List.singleton_append,
      utf8Decode_three (by rw [toNat_ofNat_byte (by omega)]; omega)
        (by rw [toNat_ofNat_byte (by omega)]; exact secondOfThree_encode (by omega) h3 (by omega))
        (isContinuation_tail (hmod _)),
      toNat_ofNat_byte (by omega), toNat_ofNat_byte (by omega), toNat_ofNat_byte (by omega)]
    congr
    exact (congrArg Char.ofNat (by omega)).trans hc
  · rw [List.cons_append, List.cons_append, List.cons_append, List.singleton_append,
      utf8Decode_four (by rw [toNat_ofNat_byte (by omega)]; omega)
        (by rw [toNat_ofNat_byte (by omega)]; exact secondOfFour_encode (by omega) (by omega))
        (isContinuation_tail (hmod _)) (isContinuation_tail (hmod _)),
      toNat_ofNat_byte (by omega), toNat_ofNat_byte (by omega), toNat_ofNat_byte (by omega),
      toNat_ofNat_byte (by omega)]
    congr
    exact (congrArg Char.ofNat (by omega)).trans hc

/-- `s.encode("utf-8").decode("utf-8") == s` for every string `s`. -/
theorem utf8Decode_utf8Encode (s : String) (pos : ℕ) : utf8Decode pos (utf8Encode s) = .ok s.data := by
  obtain ⟨l⟩ := s
  induction l generalizing pos with
  | nil => rfl
  | cons c l ih =>
      simp only [utf8Encode, List.flatMap_cons] at ih ⊢
      rw [utf8Decode_utf8EncodeChar, ih]
      rfl

end NodeAuth
end Hyperlooms
