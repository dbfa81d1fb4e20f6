import Hyperlooms.AssignmentKey

/-!
# Unpadded urlsafe base64

`_b64encode` and `_b64decode` of `app/services/node_auth.py`.  Encoding is the
assignment key's `b64NoPad`.  Decoding restores `(4 - len(raw) % 4) % 4` pad
characters and runs `base64.urlsafe_b64decode`, which maps `-` to `+` and `_`
to `/` and hands the bytes to `binascii.a2b_base64` without strict mode.  That
decoder skips every byte outside its table, stops at a pad run that completes a
quad, ignores the bits left over in the last quad, and fails with
`binascii.Error`, a `ValueError`, when a quad is left incomplete.

`a2bBase64` reads characters rather than the UTF-8 bytes of `raw`: a
non-ASCII character encodes to bytes of at least `0x80`, all outside the
table, so it is skipped either way.

**Result.** `b64decode_b64encode`: decoding an encoding gives the bytes back,
for every byte string, at every length residue.
-/

namespace Hyperlooms
namespace NodeAuth

open AssignmentKey

/-- `_b64encode(raw)`. -/
def b64encode (raw : List UInt8) : String :=
  b64NoPad raw

/-- The sextet `a2b_base64` reads for a character once `-` and `_` are mapped
to `+` and `/`; `none` outside its table. -/
def b64Value (c : Char) : Option ℕ :=
  if 'A' ≤ c ∧ c ≤ 'Z' then some (c.toNat - 'A'.toNat)
  else if 'a' ≤ c ∧ c ≤ 'z' then some (c.toNat - 'a'.toNat + 26)
  else if '0' ≤ c ∧ c ≤ '9' then some (c.toNat - '0'.toNat + 52)
  else if c = '+' ∨ c = '-' then some 62
  else if c = '/' ∨ c = '_' then some 63
  else none

/-- `binascii.a2b_base64(data, strict_mode=False)`: `quadPos` sextets of the
current quad are read, `leftchar` holds their unused bits, `pads` counts the pad
characters of a run, and `out` the bytes written so far. -/
def a2bBase64 : List Char → ℕ → ℕ → ℕ → List UInt8 → Except String (List UInt8)
  | [], quadPos, _, _, out =>
      if quadPos = 0 then .ok out
      else if quadPos = 1 then
        .error ("Invalid base64-encoded string: number of data characters (" ++
          toString (out.length / 3 * 4 + 1) ++ ") cannot be 1 more than a multiple of 4")
      else .error "Incorrect padding"
  | c :: cs, quadPos, leftchar, pads, out =>
      if c = '=' then
        if 2 ≤ quadPos ∧ 4 ≤ quadPos + (pads + 1) then .ok out
        else a2bBase64 cs quadPos leftchar (if 2 ≤ quadPos then pads + 1 else pads) out
      else
        match b64Value c with
        | none => a2bBase64 cs quadPos leftchar pads out
        | some v =>
            match quadPos with
            | 0 => a2bBase64 cs 1 v 0 out
            | 1 => a2bBase64 cs 2 (v % 16) 0 (out ++ [UInt8.ofNat (leftchar * 4 + v / 16)])
            | 2 => a2bBase64 cs 3 (v % 4) 0 (out ++ [UInt8.ofNat (leftchar * 16 + v / 4)])
            | _ => a2bBase64 cs 0 0 0 (out ++ [UInt8.ofNat (leftchar * 64 + v)])

/-- `_b64decode(raw)`; the error is the `binascii.Error` message. -/
def b64decode (raw : String) : Except String (List UInt8) :=
  a2bBase64 (raw.data ++ List.replicate ((4 - raw.length % 4) % 4) '=') 0 0 0 []

/-! ## Round trip -/

theorem b64Value_b64Char : ∀ n < 64, b64Value (b64Char n) = some n := by
  decide

theorem ofNat_toNat (a : UInt8) : UInt8.ofNat a.toNat = a := by
  cases a
  simp [UInt8.ofNat, UInt8.toNat]

/-- An encoding is its data characters followed by the pad characters that
complete the last quad. -/
theorem urlsafeB64encode_eq (data : List UInt8) :
    ∃ core, urlsafeB64encode data = core ++ List.replicate ((4 - core.length % 4) % 4) '=' ∧
      ∀ c ∈ core, c ≠ '=' := by
  have hne : ∀ n < 64, b64Char n ≠ '=' := fun n h => b64Char_ne_pad h
  induction data using urlsafeB64encode.induct with
  | case1 => exact ⟨[], rfl, by simp⟩
  | case2 a =>
      have := a.toNat_lt_size
      refine ⟨[b64Char (a.toNat / 4), b64Char (a.toNat % 4 * 16)], rfl, ?_⟩
      simp only [List.mem_cons, List.mem_singleton, List.not_mem_nil, or_false]
      rintro c (rfl | rfl) <;> exact hne _ (by simp only [UInt8.size] at this; omega)
  | case3 a b =>
      have := a.toNat_lt_size
      have := b.toNat_lt_size
      refine ⟨[b64Char (a.toNat / 4), b64Char (a.toNat % 4 * 16 + b.toNat / 16),
        b64Char (b.toNat % 16 * 4)], rfl, ?_⟩
      simp only [List.mem_cons, List.mem_singleton, List.not_mem_nil, or_false]
      rintro c (rfl | rfl | rfl) <;> exact hne _ (by simp only [UInt8.size] at *; omega)
  | case4 a b c rest ih =>
      obtain ⟨core, hcore, hmem⟩ := ih
      have := a.toNat_lt_size
      have := b.toNat_lt_size
      have := c.toNat_lt_size
      refine ⟨b64Char (a.toNat / 4) :: b64Char (a.toNat % 4 * 16 + b.toNat / 16) ::
        b64Char (b.toNat % 16 * 4 + c.toNat / 64) :: b64Char (c.toNat % 64) :: core, ?_, ?_⟩
      · rw [urlsafeB64encode, hcore]
        simp only [List.length_cons, List.cons_append]
        congr 6
        omega
      · simp only [List.mem_cons]
        rintro x (rfl | rfl | rfl | rfl | hx)
        any_goals exact hne _ (by simp only [UInt8.size] at *; omega)
        exact hmem x hx

/-- Stripping the pad characters of an encoding leaves its data characters. -/
theorem pyRstrip_pad {core : List Char} (h : ∀ c ∈ core, c ≠ '=') (k : ℕ) :
    pyRstrip '=' (core ++ List.replicate k '=') = core := by
  have hd : core.reverse.dropWhile (· = '=') = core.reverse := by
    cases hc : core.reverse with
    | nil => rfl
    | cons x xs =>
        have : x ≠ '=' := h x (List.mem_reverse.1 (hc ▸ List.mem_cons_self _ _))
        simp [List.dropWhile, this]
  have hrep : ∀ l : List Char, (List.replicate k '=' ++ l).dropWhile (· = '=') =
      l.dropWhile (· = '=') := by
    intro l
    induction k with
    | zero => rfl
    | succ k ih => simp [List.replicate_succ, List.dropWhile, ih]
  rw [pyRstrip, List.reverse_append, List.reverse_replicate, hrep, hd, List.reverse_reverse]

/-- `a2b_base64` reads a padded encoding back to its bytes. -/
theorem a2bBase64_urlsafeB64encode (data : List UInt8) :
    ∀ out, a2bBase64 (urlsafeB64encode data) 0 0 0 out = .ok (out ++ data) := by
  have hv : ∀ n < 64, b64Value (b64Char n) = some n := b64Value_b64Char
  have hne : ∀ n < 64, b64Char n ≠ '=' := fun n h => b64Char_ne_pad h
  induction data using urlsafeB64encode.induct with
  | case1 => intro out; simp [urlsafeB64encode, a2bBase64]
  | case2 a =>
      intro out
      have ha := a.toNat_lt_size
      simp only [UInt8.size] at ha
      have h1 : a.toNat / 4 < 64 := by omega
      have h2 : a.toNat % 4 * 16 < 64 := by omega
      simp only [urlsafeB64encode, a2bBase64, if_neg (hne _ h1), if_neg (hne _ h2), hv _ h1,
        hv _ h2]
      have e1 : a.toNat / 4 * 4 + a.toNat % 4 * 16 / 16 = a.toNat := by omega
      rw [e1]
      simp [ofNat_toNat]
  | case3 a b =>
      intro out
      have ha := a.toNat_lt_size
      have hb := b.toNat_lt_size
      simp only [UInt8.size] at ha hb
      have h1 : a.toNat / 4 < 64 := by omega
      have h2 : a.toNat % 4 * 16 + b.toNat / 16 < 64 := by omega
      have h3 : b.toNat % 16 * 4 < 64 := by omega
      simp only [urlsafeB64encode, a2bBase64, if_neg (hne _ h1), if_neg (hne _ h2),
        if_neg (hne _ h3), hv _ h1, hv _ h2, hv _ h3]
      have e1 : a.toNat / 4 * 4 + (a.toNat % 4 * 16 + b.toNat / 16) / 16 = a.toNat := by omega
      have e2 : (a.toNat % 4 * 16 + b.toNat / 16) % 16 * 16 + b.toNat % 16 * 4 / 4 = b.toNat := by
        omega
      rw [e1, e2]
      simp [ofNat_toNat]
  | case4 a b c rest ih =>
      intro out
      have ha := a.toNat_lt_size
      have hb := b.toNat_lt_size
      have hc := c.toNat_lt_size
      simp only [UInt8.size] at ha hb hc
      have h1 : a.toNat / 4 < 64 := by omega
      have h2 : a.toNat % 4 * 16 + b.toNat / 16 < 64 := by omega
      have h3 : b.toNat % 16 * 4 + c.toNat / 64 < 64 := by omega
      have h4 : c.toNat % 64 < 64 := by omega
      simp only [urlsafeB64encode, a2bBase64, if_neg (hne _ h1), if_neg (hne _ h2),
        if_neg (hne _ h3), if_neg (hne _ h4), hv _ h1, hv _ h2, hv _ h3, hv _ h4]
      have e1 : a.toNat / 4 * 4 + (a.toNat % 4 * 16 + b.toNat / 16) / 16 = a.toNat := by omega
      have e2 : (a.toNat % 4 * 16 + b.toNat / 16) % 16 * 16 +
          (b.toNat % 16 * 4 + c.toNat / 64) / 4 = b.toNat := by omega
      have e3 : (b.toNat % 16 * 4 + c.toNat / 64) % 4 * 64 + c.toNat % 64 = c.toNat := by omega
      rw [e1, e2, e3, ih]
      simp [ofNat_toNat]

/-- `_b64decode(_b64encode(b)) == b` for every byte string `b`. -/
theorem b64decode_b64encode (data : List UInt8) : b64decode (b64encode data) = .ok data := by
  obtain ⟨core, hcore, hmem⟩ := urlsafeB64encode_eq data
  have hstrip : (b64encode data).data = core := by
    rw [b64encode, b64NoPad, hcore, pyRstrip_pad hmem]
  have hlen : (b64encode data).length = core.length := by
    rw [String.length, hstrip]
  rw [b64decode, hlen, hstrip, ← hcore, a2bBase64_urlsafeB64encode, List.nil_append]

end NodeAuth
end Hyperlooms
