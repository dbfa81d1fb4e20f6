import Hyperlooms.NodeAuth.Utf8

/-!
# `json.dumps` and `json.loads` on a token's payload

`issue_token` signs `json.dumps(payload, separators=(",", ":"), sort_keys=True)`
of `{"node_id": node_id, "iat": iat, "exp": exp}`, and `verify_token` reads the
payload back with `json.loads`.  Both are CPython 3.12's C accelerators in
`Modules/_json.c`.

* `dumpsPayload` writes the three keys in sorted order, the integers in decimal
  and the node id through `py_encode_basestring_ascii`: `"` and `\` escaped,
  the named control escapes, every other character outside `' '`..`'~'` as
  `\uXXXX` in lower-case hex, and characters past `U+FFFF` as a surrogate pair.
* `loads` is `scan_once_unicode` with `_parse_object_unicode`,
  `_parse_array_unicode`, `scanstring_unicode` and `_match_number_unicode`,
  written as a machine over the characters left, with a stack of the containers
  it is inside.  Strings are read strictly (no raw control character), a
  `\uXXXX` escape of a high surrogate joins a following low one, a repeated key
  keeps its first place and takes the last value, `NaN` and the infinities are
  accepted, an integer of more than 4300 digits is the `ValueError` of `int()`,
  and entering a container when the interpreter has no recursion depth left is
  a `RecursionError`.  Every other failure is a `JSONDecodeError`, which carries
  the text left at the position it names.

Floats are read as the rationals their decimal text denotes, and a magnitude
that rounds past `DBL_MAX` becomes an infinity; rounding to the nearest double is
not modelled.

**Result.** `loads_dumpsPayload`: loading the payload `issue_token` writes gives
back the dictionary it was written from, for every node id and every pair of
timestamps.
-/

namespace Hyperlooms
namespace NodeAuth

/-! ## Python values -/

/-- A Python `float`: finite floats are read as the rationals they denote. -/
inductive PyFloat
  | finite (q : ℚ)
  | inf
  | negInf
  | nan
deriving DecidableEq, Repr

/-- The values `json.loads` builds.  Strings are lists of code points, which may
be lone surrogates; a `dict` is a list of pairs with distinct keys. -/
inductive PyJson
  | null
  | bool (b : Bool)
  | int (i : ℤ)
  | float (x : PyFloat)
  | str (s : List ℕ)
  | list (items : List PyJson)
  | dict (pairs : List (List ℕ × PyJson))
deriving Repr

/-- `type(v).__name__`. -/
def PyJson.typeName : PyJson → String
  | .null => "NoneType"
  | .bool _ => "bool"
  | .int _ => "int"
  | .float _ => "float"
  | .str _ => "str"
  | .list _ => "list"
  | .dict _ => "dict"

/-- The code points of a string. -/
def codePoints (s : String) : List ℕ :=
  s.data.map Char.toNat

/-! ## Writing the payload -/

/-- `S_CHAR`: a character `py_encode_basestring_ascii` writes as itself. -/
def isPlainChar (c : Char) : Bool :=
  ' ' ≤ c && c ≤ '~' && c ≠ '\\' && c ≠ '"'

/-- Four lower-case hex digits, as `Py_hexdigits` writes a `\uXXXX` escape. -/
def hex4Chars (n : ℕ) : List Char :=
  [Nat.digitChar (n / 0x1000 % 16), Nat.digitChar (n / 0x100 % 16), Nat.digitChar (n / 0x10 % 16),
    Nat.digitChar (n % 16)]

/-- `ascii_escape_unichar`, or the character itself when it is plain. -/
def escapeChar (c : Char) : List Char :=
  if isPlainChar c then [c]
  else
    '\\' ::
      match c with
      | '\\' => ['\\']
      | '"' => ['"']
      | '\x08' => ['b']
      | '\x0c' => ['f']
      | '\n' => ['n']
      | '\r' => ['r']
      | '\t' => ['t']
      | _ =>
          if 0x10000 ≤ c.toNat then
            'u' :: hex4Chars (0xD800 + (c.toNat - 0x10000) / 0x400) ++
              '\\' :: 'u' :: hex4Chars (0xDC00 + c.toNat % 0x400)
          else 'u' :: hex4Chars c.toNat

/-- `py_encode_basestring_ascii(s)`: the JSON literal of a string, quotes
included. -/
def encodeBasestringAscii (s : String) : List Char :=
  '"' :: s.data.flatMap escapeChar ++ ['"']

/-- `json.dumps({"node_id": nodeId, "iat": iat, "exp": exp},
separators=(",", ":"), sort_keys=True)`: the keys in sorted order, each written
by the string encoder, the integers in decimal. -/
def dumpsPayload (nodeId : String) (iat exp : ℕ) : List Char :=
  '\x7b' :: encodeBasestringAscii "exp" ++ ':' :: (toString exp).data ++
    ',' :: encodeBasestringAscii "iat" ++ ':' :: (toString iat).data ++
    ',' :: encodeBasestringAscii "node_id" ++ ':' :: encodeBasestringAscii nodeId ++ ['\x7d']

/-! ## Reading: errors, whitespace and strings -/

/-- What `json.loads` raises: a `JSONDecodeError` with its message and the text
left at the position it names, the `ValueError` of `int()`'s digit limit, or the
`RecursionError` of a nesting deeper than the interpreter allows. -/
inductive JsonError
  | decodeError (msg : String) (rest : List Char)
  | valueError (msg : String)
  | recursionError (msg : String)
deriving DecidableEq, Repr

/-- `str(JSONDecodeError(msg, doc, pos))`, where `pos` is where `rest` starts in
`doc`: `'%s: line %d column %d (char %d)'`. -/
def decodeErrorMessage (doc : List Char) (msg : String) (rest : List Char) : String :=
  let pos := doc.length - rest.length
  let before := doc.take pos
  msg ++ ": line " ++ toString (before.count '\n' + 1) ++ " column " ++
    toString ((before.reverse.takeWhile (· ≠ '\n')).length + 1) ++ " (char " ++ toString pos ++ ")"

/-- `IS_WHITESPACE`. -/
def isJsonSpace (c : Char) : Bool :=
  c = ' ' || c = '\t' || c = '\n' || c = '\r'

/-- The scanner's `while (idx <= end_idx && IS_WHITESPACE(...)) idx++`. -/
def skipWs (s : List Char) : List Char :=
  s.dropWhile isJsonSpace

/-- The code point of a one-character escape, as `scanstring_unicode` maps it. -/
def simpleEscape : Char → Option ℕ
  | '"' => some 0x22
  | '\\' => some 0x5C
  | '/' => some 0x2F
  | 'b' => some 0x08
  | 'f' => some 0x0C
  | 'n' => some 0x0A
  | 'r' => some 0x0D
  | 't' => some 0x09
  | _ => none

/-- A hex digit of a `\uXXXX` escape, in either case. -/
def hexDigit? (c : Char) : Option ℕ :=
  if '0' ≤ c ∧ c ≤ '9' then some (c.toNat - '0'.toNat)
  else if 'a' ≤ c ∧ c ≤ 'f' then some (c.toNat - 'a'.toNat + 10)
  else if 'A' ≤ c ∧ c ≤ 'F' then some (c.toNat - 'A'.toNat + 10)
  else none

/-- The four hex digits of a `\uXXXX` escape. -/
def hex4? (a b c d : Char) : Option ℕ := do
  let a ← hexDigit? a
  let b ← hexDigit? b
  let c ← hexDigit? c
  let d ← hexDigit? d
  pure (((a * 16 + b) * 16 + c) * 16 + d)

/-- Puts a code point in front of a scanned string. -/
def consCode (c : ℕ) (r : Except JsonError (List ℕ × List Char)) :
    Except JsonError (List ℕ × List Char) :=
  r.map fun p => (c :: p.1, p.2)

/-- The `\uXXXX` escape of `scanstring_unicode` at `s`, which starts at the `u`:
its code point, joined with the escape after it when that pairs a high surrogate
with a low one, and the text after what it read. -/
def unicodeEscape (s : List Char) : Except JsonError (ℕ × List Char) :=
  match s with
  | 'u' :: a :: b :: c :: d :: rest =>
      if rest = [] then .error (.decodeError "Invalid \\uXXXX escape" s)
      else
        match hex4? a b c d with
        | none => .error (.decodeError "Invalid \\uXXXX escape" s)
        | some u =>
            if 0xD800 ≤ u ∧ u ≤ 0xDBFF ∧ 6 < rest.length then
              match rest with
              | '\\' :: 'u' :: e :: f :: g :: h :: rest' =>
                  match hex4? e f g h with
                  | none => .error (.decodeError "Invalid \\uXXXX escape" ('u' :: e :: f :: g :: h :: rest'))
                  | some u₂ =>
                      if 0xDC00 ≤ u₂ ∧ u₂ ≤ 0xDFFF then
                        .ok (0x10000 + (u - 0xD800) * 0x400 + (u₂ - 0xDC00), rest')
                      else .ok (u, rest)
              | _ => .ok (u, rest)
            else .ok (u, rest)
  | _ => .error (.decodeError "Invalid \\uXXXX escape" s)

theorem unicodeEscape_rest_lt {s r : List Char} {u : ℕ} (h : unicodeEscape s = .ok (u, r)) :
    r.length < s.length := by
  unfold unicodeEscape at h
  split at h
  · rename_i rest
    suffices r.length ≤ rest.length by simp only [List.length_cons]; omega
    split at h
    · cases h
    split at h
    · cases h
    split at h
    · split at h
      · split at h
        · cases h
        · split at h <;> obtain ⟨-, rfl⟩ := Prod.mk.inj (Except.ok.inj h) <;>
            simp only [List.length_cons] <;> omega
      · cases h; exact le_rfl
    · cases h; exact le_rfl
  · cases h

/-- `scanstring_unicode(s, end, strict=True)` from just after the opening quote,
whose suffix `begin` is where "Unterminated string" points: the code points up to
the closing quote, and the text after it. -/
def scanString (begin : List Char) (s : List Char) : Except JsonError (List ℕ × List Char) :=
  match s with
  | [] => .error (.decodeError "Unterminated string starting at" begin)
  | '"' :: rest => .ok ([], rest)
  | ['\\'] => .error (.decodeError "Unterminated string starting at" begin)
  | '\\' :: 'u' :: rest =>
      match h : unicodeEscape ('u' :: rest) with
      | .error e => .error e
      | .ok (u, r) =>
          have : r.length < rest.length + 1 := by simpa using unicodeEscape_rest_lt h
          consCode u (scanString begin r)
  | '\\' :: e :: rest =>
      match simpleEscape e with
      | some v => consCode v (scanString begin rest)
      | none => .error (.decodeError "Invalid \\escape" s)
  | c :: rest =>
      if c.toNat ≤ 0x1F then .error (.decodeError "Invalid control character at" s)
      else consCode c.toNat (scanString begin rest)
termination_by s.length

/-! ## Reading numbers -/

/-- `sys.int_info.default_max_str_digits`. -/
def intMaxStrDigits : ℕ := 4300

/-- The `ValueError` of `int()` on a decimal string of `n` digits past the
limit. -/
def intLimitMessage (n : ℕ) : String :=
  "Exceeds the limit (4300 digits) for integer string conversion: value has " ++ toString n ++
    " digits; use sys.set_int_max_str_digits() to increase the limit"

/-- Halfway between `DBL_MAX` and `2^1024`: a magnitude from here up rounds to an
infinity. -/
def floatOverflowBound : ℚ := 2 ^ 1024 - 2 ^ 970

/-- `float(text)` for a decimal text of value `q`. -/
def PyFloat.ofRat (q : ℚ) : PyFloat :=
  if floatOverflowBound ≤ q then .inf
  else if q ≤ -floatOverflowBound then .negInf
  else .finite q

/-- The fraction of `_match_number_unicode`: a point followed by at least one
digit, or nothing. -/
def matchFraction : List Char → Option (List Char) × List Char
  | '.' :: d :: r =>
      if isDigit d then (some (d :: r.takeWhile isDigit), r.dropWhile isDigit) else (none, '.' :: d :: r)
  | r => (none, r)

/-- The digits of an exponent after its `e`: an optional sign, then at least one
digit. -/
def exponentDigits : List Char → Option (Bool × List Char × List Char)
  | '-' :: d :: r => if isDigit d then some (true, d :: r.takeWhile isDigit, r.dropWhile isDigit) else none
  | '+' :: d :: r => if isDigit d then some (false, d :: r.takeWhile isDigit, r.dropWhile isDigit) else none
  | d :: r => if isDigit d then some (false, d :: r.takeWhile isDigit, r.dropWhile isDigit) else none
  | [] => none

/-- The exponent of `_match_number_unicode`: `e` or `E` and its digits, or
nothing, the scanner backing up to the `e` when no digit follows. -/
def matchExponent : List Char → Option (Bool × List Char) × List Char
  | e :: r =>
      if e = 'e' ∨ e = 'E' then
        match exponentDigits r with
        | some (neg, ds, r') => (some (neg, ds), r')
        | none => (none, e :: r)
      else (none, e :: r)
  | [] => (none, [])

/-- The value of a matched number: `PyLong_FromString` without a fraction or
exponent, `PyFloat_FromString` with one. -/
def numberValue (neg : Bool) (intDigits : List Char) (frac : Option (List Char))
    (exp : Option (Bool × List Char)) : Except JsonError PyJson :=
  match frac, exp with
  | none, none =>
      if intMaxStrDigits < intDigits.length then .error (.valueError (intLimitMessage intDigits.length))
      else .ok (.int (if neg then -(digitsValue intDigits : ℤ) else digitsValue intDigits))
  | _, _ =>
      let fracDigits := frac.getD []
      let e : ℤ := (match exp with
        | some (true, ds) => -(digitsValue ds : ℤ)
        | some (false, ds) => digitsValue ds
        | none => 0) - fracDigits.length
      let q : ℚ := digitsValue (intDigits ++ fracDigits) * (10 : ℚ) ^ e
      .ok (.float (PyFloat.ofRat (if neg then -q else q)))

/-- The integer part of `_match_number_unicode`: `0` alone, or a digit from `1`
to `9` and the digits after it; `none` when no digit starts the text. -/
def matchIntPart : List Char → Option (List Char × List Char)
  | '0' :: r => some (['0'], r)
  | d :: r => if isDigit d then some (d :: r.takeWhile isDigit, r.dropWhile isDigit) else none
  | [] => none

/-- The rest of `_match_number_unicode` after the integer digits `ip`: the
fraction and the exponent, the value of the number, and the text after it. -/
def matchNumberAfter (neg : Bool) (ip r : List Char) : Except JsonError PyJson × List Char :=
  let frac := matchFraction r
  let ex := matchExponent frac.2
  (numberValue neg ip frac.1 ex.1, ex.2)

/-- `_match_number_unicode`: `-?(0|[1-9][0-9]*)(\.[0-9]+)?([eE][-+]?[0-9]+)?`
over ASCII digits, its value and the text after it; `none` is its
`StopIteration`. -/
def matchNumber : List Char → Option (Except JsonError PyJson × List Char)
  | '-' :: s => (matchIntPart s).map fun p => matchNumberAfter true p.1 p.2
  | s => (matchIntPart s).map fun p => matchNumberAfter false p.1 p.2

/-! ## What the scanner consumes -/

theorem length_skipWs_le (s : List Char) : (skipWs s).length ≤ s.length :=
  (List.dropWhile_suffix _).length_le

theorem length_lt_of_skipWs {s r : List Char} {c : Char} (h : skipWs s = c :: r) :
    r.length < s.length := by
  have := length_skipWs_le s
  rw [h, List.length_cons] at this
  omega

@[simp] theorem consCode_ok (c : ℕ) (v : List ℕ) (r : List Char) :
    consCode c (.ok (v, r)) = .ok (c :: v, r) := rfl

theorem consCode_eq_ok {c : ℕ} {e : Except JsonError (List ℕ × List Char)} {v : List ℕ}
    {r : List Char} (h : consCode c e = .ok (v, r)) : ∃ v', e = .ok (v', r) := by
  cases e with
  | error => cases h
  | ok p => exact ⟨p.1, by cases h; rfl⟩

/-- A scanned string ends after its closing quote, inside the text it was
scanned from. -/
theorem scanString_rest_lt (begin : List Char) (s : List Char) {v : List ℕ} {r : List Char}
    (h : scanString begin s = .ok (v, r)) : r.length < s.length := by
  unfold scanString at h
  repeat' split at h
  all_goals first
    | cases h; done
    | (cases h; simp only [List.length_cons]; omega)
    | (have hu := unicodeEscape_rest_lt ‹unicodeEscape _ = _›
       obtain ⟨_, h'⟩ := consCode_eq_ok h
       have := scanString_rest_lt begin _ h'
       simp only [List.length_cons] at *
       omega)
    | (obtain ⟨_, h'⟩ := consCode_eq_ok h
       have := scanString_rest_lt begin _ h'
       simp only [List.length_cons] at *
       omega)
termination_by s.length
decreasing_by all_goals subst_vars; simp only [List.length_cons] at *; omega

theorem matchIntPart_rest_lt {s ip r : List Char} (h : matchIntPart s = some (ip, r)) :
    r.length < s.length := by
  unfold matchIntPart at h
  split at h
  · cases h; simp
  · split_ifs at h
    cases h
    have := (List.dropWhile_suffix isDigit (l := ‹List Char›)).length_le
    simp only [List.length_cons]
    omega
  · cases h

theorem matchFraction_suffix (r : List Char) : (matchFraction r).2 <:+ r := by
  unfold matchFraction
  split
  · split_ifs
    · exact (List.dropWhile_suffix _).trans ((List.suffix_cons _ _).trans (List.suffix_cons _ _))
    · exact List.suffix_refl _
  · exact List.suffix_refl _

theorem exponentDigits_suffix {r r' ds : List Char} {neg : Bool}
    (h : exponentDigits r = some (neg, ds, r')) : r' <:+ r := by
  unfold exponentDigits at h
  split at h <;> (try split_ifs at h) <;> cases h
  all_goals first
    | exact (List.dropWhile_suffix _).trans (List.suffix_cons _ _)
    | exact (List.dropWhile_suffix _).trans ((List.suffix_cons _ _).trans (List.suffix_cons _ _))

theorem matchExponent_suffix (r : List Char) : (matchExponent r).2 <:+ r := by
  unfold matchExponent
  split
  · split_ifs
    · split
      · exact (exponentDigits_suffix ‹_›).trans (List.suffix_cons _ _)
      · exact List.suffix_refl _
    · exact List.suffix_refl _
  · exact List.suffix_refl _

theorem matchNumber_rest_lt {s : List Char} {v : Except JsonError PyJson} {r : List Char}
    (h : matchNumber s = some (v, r)) : r.length < s.length := by
  have after : ∀ {t : List Char} {neg : Bool},
      (matchIntPart t).map (fun p => matchNumberAfter neg p.1 p.2) = some (v, r) →
        r.length < t.length := by
    intro t neg h
    obtain ⟨⟨ip, r₁⟩, hp, hv⟩ := Option.map_eq_some'.1 h
    have h₁ := matchIntPart_rest_lt hp
    have h₂ := (matchExponent_suffix (matchFraction r₁).2).length_le
    have h₃ := (matchFraction_suffix r₁).length_le
    have hr : r = (matchExponent (matchFraction r₁).2).2 := (congrArg Prod.snd hv).symm
    rw [hr]
    exact lt_of_le_of_lt (h₂.trans h₃) h₁
  unfold matchNumber at h
  split at h
  · have := after h
    simp only [List.length_cons]
    omega
  · exact after h

/-- The named constants `scan_once_unicode` reads: `null`, `true`, `false`,
`NaN`, `Infinity` and `-Infinity`, with the text after them. -/
def matchConstant (s : List Char) : Option (PyJson × List Char) :=
  if ['n', 'u', 'l', 'l'].isPrefixOf s then some (.null, s.drop 4)
  else if ['t', 'r', 'u', 'e'].isPrefixOf s then some (.bool true, s.drop 4)
  else if ['f', 'a', 'l', 's', 'e'].isPrefixOf s then some (.bool false, s.drop 5)
  else if ['N', 'a', 'N'].isPrefixOf s then some (.float .nan, s.drop 3)
  else if ['I', 'n', 'f', 'i', 'n', 'i', 't', 'y'].isPrefixOf s then some (.float .inf, s.drop 8)
  else if ['-', 'I', 'n', 'f', 'i', 'n', 'i', 't', 'y'].isPrefixOf s then
    some (.float .negInf, s.drop 9)
  else none

theorem matchConstant_rest_lt {s r : List Char} {v : PyJson} (h : matchConstant s = some (v, r)) :
    r.length < s.length := by
  unfold matchConstant at h
  split_ifs at h <;> cases h
  all_goals
    have := (List.isPrefixOf_iff_prefix.1 ‹List.isPrefixOf _ s = true›).length_le
    simp only [List.length_drop]
    simp at this
    omega

/-! ## The scanner -/

/-- A container the scanner is inside while it reads one of its values: the
items of an array so far, or the pairs of an object so far and the key whose
value comes next. -/
inductive Frame
  | array (items : List PyJson)
  | object (pairs : List (List ℕ × PyJson)) (key : List ℕ)

/-- The `RecursionError` of `Py_EnterRecursiveCall` when the scanner enters a
container with no depth left. -/
def recursionMessage (what : String) : String :=
  "maximum recursion depth exceeded while decoding a JSON " ++ what ++ " from a unicode string"

mutual

/-- `scan_once_unicode` at `s`, inside the containers `stack`, with `depth`
levels of nesting allowed: a value starts here. -/
def scanValue (depth : ℕ) (s : List Char) (stack : List Frame) :
    Except JsonError (PyJson × List Char) :=
  match s with
  | '"' :: r =>
      match h : scanString s r with
      | .error e => .error e
      | .ok (v, r') =>
          have := scanString_rest_lt s r h
          continueWith depth (.str v) r' stack
  | '\x7b' :: r =>
      if depth ≤ stack.length then .error (.recursionError (recursionMessage "object"))
      else
        match h : skipWs r with
        | '\x7d' :: r' =>
            have := length_lt_of_skipWs h
            continueWith depth (.dict []) r' stack
        | r' =>
            have := length_skipWs_le r
            scanMember depth r' [] stack
  | '[' :: r =>
      if depth ≤ stack.length then .error (.recursionError (recursionMessage "array"))
      else
        match h : skipWs r with
        | ']' :: r' =>
            have := length_lt_of_skipWs h
            continueWith depth (.list []) r' stack
        | r' =>
            have := length_skipWs_le r
            scanValue depth r' (.array [] :: stack)
  | s =>
      match h : matchConstant s with
      | some (v, r) =>
          have := matchConstant_rest_lt h
          continueWith depth v r stack
      | none =>
          match h : matchNumber s with
          | none => .error (.decodeError "Expecting value" s)
          | some (.error e, _) => .error e
          | some (.ok v, r) =>
              have := matchNumber_rest_lt h
              continueWith depth v r stack
termination_by s.length

/-- After a value `v`, with the text `s` left: the scanner closes the
containers the text closes, and hands `v` to the one it is in. -/
def continueWith (depth : ℕ) (v : PyJson) (s : List Char) :
    List Frame → Except JsonError (PyJson × List Char)
  | [] => .ok (v, s)
  | .array items :: stack =>
      match h : skipWs s with
      | ']' :: r =>
          have := length_lt_of_skipWs h
          continueWith depth (.list (items ++ [v])) r stack
      | ',' :: r =>
          have := length_lt_of_skipWs h
          have := length_skipWs_le r
          scanValue depth (skipWs r) (.array (items ++ [v]) :: stack)
      | r => .error (.decodeError "Expecting ',' delimiter" r)
  | .object pairs key :: stack =>
      match h : skipWs s with
      | '\x7d' :: r =>
          have := length_lt_of_skipWs h
          continueWith depth (.dict (Dict.set pairs key v)) r stack
      | ',' :: r =>
          have := length_lt_of_skipWs h
          have := length_skipWs_le r
          scanMember depth (skipWs r) (Dict.set pairs key v) stack
      | r => .error (.decodeError "Expecting ',' delimiter" r)
termination_by s.length

/-- `_parse_object_unicode` where a key is expected, after the pairs `pairs`. -/
def scanMember (depth : ℕ) (s : List Char) (pairs : List (List ℕ × PyJson))
    (stack : List Frame) : Except JsonError (PyJson × List Char) :=
  match s with
  | '"' :: r =>
      match h : scanString s r with
      | .error e => .error e
      | .ok (key, r') =>
          have := scanString_rest_lt s r h
          match h' : skipWs r' with
          | ':' :: r'' =>
              have := length_lt_of_skipWs h'
              have := length_skipWs_le r''
              scanValue depth (skipWs r'') (.object pairs key :: stack)
          | r'' => .error (.decodeError "Expecting ':' delimiter" r'')
  | s => .error (.decodeError "Expecting property name enclosed in double quotes" s)
termination_by s.length

end

/-- `json.loads(doc)` on a `str`, with `depth` levels of nesting allowed. -/
def loads (depth : ℕ) (doc : List Char) : Except JsonError PyJson :=
  if doc.head? = some '\uFEFF' then
    .error (.decodeError "Unexpected UTF-8 BOM (decode using utf-8-sig)" doc)
  else
    match scanValue depth (skipWs doc) [] with
    | .error e => .error e
    | .ok (v, rest) =>
        if skipWs rest = [] then .ok v else .error (.decodeError "Extra data" (skipWs rest))

/-! ## One step of the scanner -/

section Steps

variable {depth : ℕ} {stack : List Frame}

theorem scanValue_string {r r' : List Char} {v : List ℕ} (h : scanString ('"' :: r) r = .ok (v, r')) :
    scanValue depth ('"' :: r) stack = continueWith depth (.str v) r' stack := by
  rw [scanValue.eq_1]
  split <;> rename_i h'
  · rw [h] at h'; cases h'
  · rw [h] at h'; cases h'; rfl

theorem scanValue_object {r : List Char} (hd : stack.length < depth)
    (h : (skipWs r).head? ≠ some '\x7d') :
    scanValue depth ('\x7b' :: r) stack = scanMember depth (skipWs r) [] stack := by
  rw [scanValue.eq_2, if_neg (by omega)]
  split <;> rename_i h'
  · rw [h'] at h; exact absurd rfl h
  · rfl

theorem scanValue_emptyArray {r t : List Char} (hd : stack.length < depth) (h : skipWs r = ']' :: t) :
    scanValue depth ('[' :: r) stack = continueWith depth (.list []) t stack := by
  rw [scanValue.eq_3, if_neg (by omega)]
  split <;> rename_i h'
  · rw [h] at h'; cases h'; rfl
  · exact absurd h (h' _)

theorem scanValue_number {s r : List Char} {v : PyJson} (hs : ∀ c ∈ s.head?, c ≠ '"' ∧ c ≠ '\x7b' ∧ c ≠ '[')
    (hc : matchConstant s = none) (hn : matchNumber s = some (.ok v, r)) :
    scanValue depth s stack = continueWith depth v r stack := by
  rw [scanValue.eq_4]
  · split <;> rename_i h'
    · rw [hc] at h'; cases h'
    · split <;> rename_i h''
      · rw [hn] at h''; cases h''
      · rw [hn] at h''; cases h''
      · rw [hn] at h''; cases h''; rfl
  all_goals rintro r rfl; simp at hs

theorem scanMember_key {r r' r'' : List Char} {key : List ℕ} {pairs : List (List ℕ × PyJson)}
    (h : scanString ('"' :: r) r = .ok (key, r')) (h' : skipWs r' = ':' :: r'') :
    scanMember depth ('"' :: r) pairs stack = scanValue depth (skipWs r'') (.object pairs key :: stack) := by
  rw [scanMember.eq_1]
  split <;> rename_i h₁
  · rw [h] at h₁; cases h₁
  · rw [h] at h₁; cases h₁
    split <;> rename_i h₂
    · rw [h'] at h₂; cases h₂; rfl
    · exact absurd h' (h₂ _)

@[simp] theorem continueWith_nil (v : PyJson) (s : List Char) :
    continueWith depth v s [] = .ok (v, s) := by
  rw [continueWith.eq_1]

theorem continueWith_comma {v : PyJson} {s r : List Char} {pairs : List (List ℕ × PyJson)} {key : List ℕ}
    (h : skipWs s = ',' :: r) :
    continueWith depth v s (.object pairs key :: stack) =
      scanMember depth (skipWs r) (Dict.set pairs key v) stack := by
  rw [continueWith.eq_3]
  split <;> rename_i h'
  · rw [h] at h'; cases h'
  · rw [h] at h'; cases h'; rfl
  · exact absurd h (h' _)

theorem continueWith_close {v : PyJson} {s r : List Char} {pairs : List (List ℕ × PyJson)} {key : List ℕ}
    (h : skipWs s = '\x7d' :: r) :
    continueWith depth v s (.object pairs key :: stack) =
      continueWith depth (.dict (Dict.set pairs key v)) r stack := by
  rw [continueWith.eq_3]
  split <;> rename_i h'
  · rw [h] at h'; cases h'; rfl
  · rw [h] at h'; cases h'
  · rename_i hne; exact absurd h (hne _)

end Steps

/-! ## Reading back what `dumpsPayload` writes -/

theorem hexDigit?_digitChar_fin : ∀ d : Fin 16, hexDigit? (Nat.digitChar d) = some d := by
  decide

theorem hexDigit?_digitChar (d : ℕ) (h : d < 16) : hexDigit? (Nat.digitChar d) = some d :=
  hexDigit?_digitChar_fin ⟨d, h⟩

theorem hex4?_hex4Chars {n : ℕ} (h : n < 0x10000) :
    hex4? (Nat.digitChar (n / 0x1000 % 16)) (Nat.digitChar (n / 0x100 % 16))
      (Nat.digitChar (n / 0x10 % 16)) (Nat.digitChar (n % 16)) = some n := by
  have hd : ∀ m, hexDigit? (Nat.digitChar (m % 16)) = some (m % 16) :=
    fun m => hexDigit?_digitChar _ (Nat.mod_lt _ (by norm_num))
  simp only [hex4?, hd, Option.some_bind, Option.bind_eq_bind, Option.pure_def, Option.some.injEq]
  omega

theorem unicodeEscape_bmp {n : ℕ} (h : n < 0x10000) (hs : n < 0xD800 ∨ 0xDBFF < n)
    {rest : List Char} (hr : rest ≠ []) :
    unicodeEscape ('u' :: hex4Chars n ++ rest) = .ok (n, rest) := by
  simp only [hex4Chars, List.cons_append, List.nil_append, unicodeEscape, hex4?_hex4Chars h,
    if_neg hr]
  rw [if_neg (by omega)]

theorem unicodeEscape_pair {n : ℕ} (h₁ : 0x10000 ≤ n) (h₂ : n < 0x110000) {rest : List Char}
    (hr : rest ≠ []) :
    unicodeEscape ('u' :: hex4Chars (0xD800 + (n - 0x10000) / 0x400) ++
      '\\' :: 'u' :: hex4Chars (0xDC00 + n % 0x400) ++ rest) = .ok (n, rest) := by
  simp only [hex4Chars, List.cons_append, List.nil_append, unicodeEscape,
    hex4?_hex4Chars (by omega : 0xD800 + (n - 0x10000) / 0x400 < 0x10000),
    hex4?_hex4Chars (by omega : 0xDC00 + n % 0x400 < 0x10000), List.length_cons, reduceCtorEq,
    not_false_eq_true, if_neg]
  rw [if_pos (by obtain ⟨x, xs, rfl⟩ := List.exists_cons_of_ne_nil hr; simp only [List.length_cons]; omega),
    if_pos (by omega), Except.ok.injEq, Prod.mk.injEq]
  exact ⟨by omega, rfl⟩

theorem scanString_plain {begin rest : List Char} {c : Char} (h₁ : c ≠ '"') (h₂ : c ≠ '\\')
    (h₃ : 0x1F < c.toNat) :
    scanString begin (c :: rest) = consCode c.toNat (scanString begin rest) := by
  rw [scanString.eq_6 _ _ _ h₁ (fun h => absurd h h₂) (fun _ h => absurd h h₂)
    (fun _ _ h => absurd h h₂), if_neg (by omega)]

theorem scanString_escape {begin rest : List Char} {e : Char} {v : ℕ} (he : e ≠ 'u')
    (hv : simpleEscape e = some v) :
    scanString begin ('\\' :: e :: rest) = consCode v (scanString begin rest) := by
  rw [scanString.eq_5 _ _ _ he, hv]

theorem scanString_unicode {begin rest r : List Char} {u : ℕ}
    (h : unicodeEscape ('u' :: rest) = .ok (u, r)) :
    scanString begin ('\\' :: 'u' :: rest) = consCode u (scanString begin r) := by
  rw [scanString.eq_4]
  split <;> rename_i h'
  · rw [h] at h'; cases h'
  · rw [h] at h'; cases h'; rfl

/-- What `ascii_escape_unichar` writes for a character reads back as its code
point, whatever text follows it. -/
theorem scanString_escapeChar (begin : List Char) (c : Char) {rest : List Char} (hr : rest ≠ []) :
    scanString begin (escapeChar c ++ rest) = consCode c.toNat (scanString begin rest) := by
  have hvalid : c.toNat < 0xD800 ∨ (0xDFFF < c.toNat ∧ c.toNat < 0x110000) := c.valid
  by_cases hp : isPlainChar c
  · unfold escapeChar
    rw [if_pos hp, List.singleton_append]
    simp only [isPlainChar, Bool.and_eq_true, decide_eq_true_eq, ne_eq] at hp
    obtain ⟨⟨⟨h₁, -⟩, h₂⟩, h₃⟩ := hp
    exact scanString_plain h₃ h₂ (by rw [Char.le_def] at h₁; exact h₁)
  · unfold escapeChar
    rw [if_neg hp]
    split
    all_goals first
      | exact scanString_escape (by decide) rfl
      | skip
    split_ifs with hbig
    · have key : unicodeEscape ('u' :: hex4Chars (0xD800 + (c.toNat - 0x10000) / 0x400) ++
          '\\' :: 'u' :: hex4Chars (0xDC00 + c.toNat % 0x400) ++ rest) = .ok (c.toNat, rest) :=
        unicodeEscape_pair hbig (by omega) hr
      simp only [List.cons_append, List.append_assoc] at key ⊢
      rw [scanString_unicode key]
    · have key : unicodeEscape ('u' :: hex4Chars c.toNat ++ rest) = .ok (c.toNat, rest) :=
        unicodeEscape_bmp (by omega) (by omega) hr
      simp only [List.cons_append] at key ⊢
      rw [scanString_unicode key]

/-- The string encoder's output reads back as the string's code points. -/
theorem scanString_encode (begin : List Char) (s : String) (rest : List Char) :
    scanString begin (s.data.flatMap escapeChar ++ '"' :: rest) = .ok (codePoints s, rest) := by
  obtain ⟨l⟩ := s
  induction l with
  | nil => exact scanString.eq_2 _ _
  | cons c l ih =>
      simp only [codePoints, List.flatMap_cons, List.map_cons, List.append_assoc] at ih ⊢
      rw [scanString_escapeChar _ _ (by simp), ih]
      rfl

theorem digitChar_ne_zero : ∀ d : Fin 10, 0 < d.val → Nat.digitChar d ≠ '0' := by
  decide

/-- The decimal digits of a positive number do not start with `0`. -/
theorem toDigitsCore_head : ∀ (fuel n : ℕ) (ds : List Char), n < fuel → 0 < n →
    ∃ d D, Nat.toDigitsCore 10 fuel n ds = d :: D ∧ d ≠ '0'
  | 0, _, _, h, _ => absurd h (Nat.not_lt_zero _)
  | fuel + 1, n, ds, h, hn => by
      rw [Nat.toDigitsCore]
      split
      · exact ⟨_, _, rfl, digitChar_ne_zero ⟨n % 10, Nat.mod_lt _ (by norm_num)⟩ (by simp only; omega)⟩
      · exact toDigitsCore_head fuel (n / 10) _ (by omega) (by omega)

/-- A number below `10 ^ k` has at most `k` decimal digits. -/
theorem toDigitsCore_length_le : ∀ (fuel n : ℕ) (ds : List Char) (k : ℕ), n < fuel → 0 < k →
    n < 10 ^ k → (Nat.toDigitsCore 10 fuel n ds).length ≤ ds.length + k
  | 0, _, _, _, h, _, _ => absurd h (Nat.not_lt_zero _)
  | fuel + 1, n, ds, k, h, hk, hn => by
      rw [Nat.toDigitsCore]
      split
      · simp only [List.length_cons]
        omega
      · obtain ⟨k, rfl⟩ : ∃ j, k = j + 1 := ⟨k - 1, by omega⟩
        have hk' : 0 < k := by
          rcases Nat.eq_zero_or_pos k with rfl | h
          · simp only [zero_add, pow_one] at hn; omega
          · exact h
        have := toDigitsCore_length_le fuel (n / 10) (Nat.digitChar (n % 10) :: ds) k (by omega) hk'
          (by rw [pow_succ] at hn; omega)
        simp only [List.length_cons] at this
        omega

theorem length_toString_le {n k : ℕ} (hk : 0 < k) (hn : n < 10 ^ k) : (toString n).length ≤ k := by
  have := toDigitsCore_length_le (n + 1) n [] k (Nat.lt_succ_self n) hk hn
  rw [List.length_nil, zero_add] at this
  exact this

theorem takeWhile_dropWhile_append {p : Char → Bool} {xs rest : List Char} {c : Char}
    (hx : ∀ x ∈ xs, p x) (hc : p c = false) :
    (xs ++ c :: rest).takeWhile p = xs ∧ (xs ++ c :: rest).dropWhile p = c :: rest := by
  induction xs with
  | nil => simp [List.takeWhile_cons, List.dropWhile_cons, hc]
  | cons x xs ih =>
      have hpx := hx x (List.mem_cons_self _ _)
      obtain ⟨h₁, h₂⟩ := ih fun y hy => hx y (List.mem_cons_of_mem _ hy)
      simp [List.takeWhile_cons, List.dropWhile_cons, hpx, h₁, h₂]

/-- `_match_number_unicode` reads `str(n)` back as the integer `n`, up to a
delimiter. -/
theorem matchNumber_toString (n : ℕ) {c : Char} {rest : List Char} (hc : c = ',' ∨ c = '\x7d')
    (hlen : (toString n).length ≤ intMaxStrDigits) :
    matchNumber ((toString n).data ++ c :: rest) = some (.ok (.int n), c :: rest) := by
  obtain ⟨hne, hdig, hval⟩ := AssignmentKey.toDigits_spec n
  rw [← AssignmentKey.data_toString] at hne hdig hval
  have hcd : isDigit c = false := by rcases hc with rfl | rfl <;> rfl
  have hint : matchIntPart ((toString n).data ++ c :: rest) = some ((toString n).data, c :: rest) := by
    rcases Nat.eq_zero_or_pos n with rfl | hn
    · rfl
    · obtain ⟨d, D, hD, hd0⟩ := toDigitsCore_head (n + 1) n [] (Nat.lt_succ_self n) hn
      rw [AssignmentKey.data_toString, Nat.toDigits, hD] at hdig ⊢
      have hdd := hdig d (List.mem_cons_self _ _)
      obtain ⟨h₁, h₂⟩ := @takeWhile_dropWhile_append _ _ rest _
        (fun x hx => hdig x (List.mem_cons_of_mem _ hx)) hcd
      rw [List.cons_append, matchIntPart.eq_2 _ _ hd0, if_pos hdd, h₁, h₂]
  have hfrac : matchFraction (c :: rest) = (none, c :: rest) := by
    rcases hc with rfl | rfl <;> rfl
  have hexp : matchExponent (c :: rest) = (none, c :: rest) := by
    rcases hc with rfl | rfl <;> rfl
  have hm : matchNumber ((toString n).data ++ c :: rest) =
      (matchIntPart ((toString n).data ++ c :: rest)).map fun p => matchNumberAfter false p.1 p.2 := by
    obtain ⟨d, D, hD⟩ := List.exists_cons_of_ne_nil hne
    have hd : d ≠ '-' := fun h => absurd (hdig d (by rw [hD]; exact List.mem_cons_self _ _))
      (by rw [h]; decide)
    rw [hD, List.cons_append, matchNumber.eq_2 _ (by rintro s ⟨⟩; exact hd rfl)]
  rw [hm, hint, Option.map_some', matchNumberAfter, hfrac, hexp]
  simp only [numberValue, if_neg (show ¬intMaxStrDigits < (toString n).data.length from hlen.not_lt)]
  rw [hval]
  rfl

@[simp] theorem skipWs_cons {c : Char} {s : List Char} (h : isJsonSpace c = false) :
    skipWs (c :: s) = c :: s := by
  simp [skipWs, List.dropWhile_cons, h]

theorem matchConstant_of_digit {d : Char} {s : List Char} (h : isDigit d) :
    matchConstant (d :: s) = none := by
  have hne : ∀ c ∈ ['n', 't', 'f', 'N', 'I', '-'], c ≠ d := by
    rintro c hc rfl
    simp only [List.mem_cons, List.mem_singleton, List.not_mem_nil, or_false] at hc
    rcases hc with rfl | rfl | rfl | rfl | rfl | rfl <;> exact absurd h (by decide)
  simp only [List.mem_cons, List.mem_singleton, List.not_mem_nil, or_false, forall_eq_or_imp,
    forall_eq] at hne
  obtain ⟨h₁, h₂, h₃, h₄, h₅, h₆⟩ := hne
  simp [matchConstant, List.isPrefixOf, h₁, h₂, h₃, h₄, h₅, h₆]

/-- `str(n)` in value position: the scanner reads the integer `n`. -/
theorem scanValue_toString {depth : ℕ} {stack : List Frame} (n : ℕ) {c : Char} {rest : List Char}
    (hc : c = ',' ∨ c = '\x7d') (hlen : (toString n).length ≤ intMaxStrDigits) :
    scanValue depth (skipWs ((toString n).data ++ c :: rest)) stack =
      continueWith depth (.int n) (c :: rest) stack := by
  obtain ⟨hne, hdig, -⟩ := AssignmentKey.toDigits_spec n
  rw [← AssignmentKey.data_toString] at hne hdig
  obtain ⟨d, D, hD⟩ := List.exists_cons_of_ne_nil hne
  have hd : isDigit d := hdig d (by rw [hD]; exact List.mem_cons_self _ _)
  have hsp : isJsonSpace d = false := by
    have h09 : '0' ≤ d ∧ d ≤ '9' := by simpa [isDigit] using hd
    simp only [isJsonSpace, Bool.or_eq_false_iff, decide_eq_false_iff_not]
    refine ⟨⟨⟨?_, ?_⟩, ?_⟩, ?_⟩ <;> rintro rfl <;> exact absurd h09 (by decide)
  have hn := @matchNumber_toString n _ rest hc hlen
  rw [hD, List.cons_append, skipWs_cons hsp]
  rw [hD, List.cons_append] at hn
  refine scanValue_number ?_ (matchConstant_of_digit hd) hn
  rintro x hx
  obtain rfl : x = d := (Option.some.inj hx).symm
  refine ⟨?_, ?_, ?_⟩ <;> rintro rfl <;> exact absurd hd (by decide)

theorem encodeBasestringAscii_cons (s : String) (rest : List Char) :
    encodeBasestringAscii s ++ rest = '"' :: (s.data.flatMap escapeChar ++ '"' :: rest) := by
  simp [encodeBasestringAscii]

/-- A string in value position: the scanner reads its code points. -/
theorem scanValue_encode {depth : ℕ} {stack : List Frame} (s : String) (rest : List Char) :
    scanValue depth (skipWs (encodeBasestringAscii s ++ rest)) stack =
      continueWith depth (.str (codePoints s)) rest stack := by
  rw [encodeBasestringAscii_cons, @skipWs_cons '"' _ rfl]
  exact scanValue_string (scanString_encode _ _ _)

/-- A key and its colon: the scanner reads the key's code points and expects its
value. -/
theorem scanMember_encode {depth : ℕ} {stack : List Frame} {pairs : List (List ℕ × PyJson)}
    (k : String) (rest : List Char) :
    scanMember depth (encodeBasestringAscii k ++ ':' :: rest) pairs stack =
      scanValue depth (skipWs rest) (.object pairs (codePoints k) :: stack) := by
  rw [encodeBasestringAscii_cons]
  exact scanMember_key (scanString_encode _ _ _) (@skipWs_cons ':' _ rfl)

/-- An object's opening brace and first key. -/
theorem scanValue_openKey {depth : ℕ} {stack : List Frame} (hd : stack.length < depth) (k : String)
    (rest : List Char) :
    scanValue depth ('\x7b' :: (encodeBasestringAscii k ++ ':' :: rest)) stack =
      scanValue depth (skipWs rest) (.object [] (codePoints k) :: stack) := by
  have hq : skipWs (encodeBasestringAscii k ++ ':' :: rest) = encodeBasestringAscii k ++ ':' :: rest := by
    rw [encodeBasestringAscii_cons]
    exact @skipWs_cons '"' _ rfl
  rw [← scanMember_encode, scanValue_object hd (by rw [hq, encodeBasestringAscii_cons]; simp), hq]

/-- A comma and the next key: the value read so far joins the object. -/
theorem continueWith_nextKey {depth : ℕ} {stack : List Frame} {v : PyJson}
    {pairs : List (List ℕ × PyJson)} {key : List ℕ} (k : String) (rest : List Char) :
    continueWith depth v (',' :: (encodeBasestringAscii k ++ ':' :: rest)) (.object pairs key :: stack) =
      scanValue depth (skipWs rest) (.object (Dict.set pairs key v) (codePoints k) :: stack) := by
  rw [continueWith_comma (@skipWs_cons ',' _ rfl), encodeBasestringAscii_cons,
    @skipWs_cons '"' _ rfl, ← encodeBasestringAscii_cons, scanMember_encode]

/-- `json.loads` reads the payload `issue_token` writes back as the dictionary it
was written from. -/
theorem loads_dumpsPayload {depth : ℕ} (hd : 0 < depth) (nodeId : String) (iat exp : ℕ)
    (hiat : (toString iat).length ≤ intMaxStrDigits) (hexp : (toString exp).length ≤ intMaxStrDigits) :
    loads depth (dumpsPayload nodeId iat exp) =
      .ok (.dict [(codePoints "exp", .int exp), (codePoints "iat", .int iat),
        (codePoints "node_id", .str (codePoints nodeId))]) := by
  have hdict : Dict.set (Dict.set (Dict.set [] (codePoints "exp") (PyJson.int exp)) (codePoints "iat")
      (.int iat)) (codePoints "node_id") (.str (codePoints nodeId)) =
      [(codePoints "exp", .int exp), (codePoints "iat", .int iat),
        (codePoints "node_id", .str (codePoints nodeId))] := by
    simp [Dict.set, show codePoints "exp" ≠ codePoints "iat" by decide,
      show codePoints "exp" ≠ codePoints "node_id" by decide,
      show codePoints "iat" ≠ codePoints "node_id" by decide]
  simp only [dumpsPayload, List.cons_append, List.append_assoc]
  rw [loads, if_neg (by rw [List.head?_cons, Option.some.injEq]; decide), @skipWs_cons '\x7b' _ rfl,
    scanValue_openKey hd, scanValue_toString _ (Or.inl rfl) hexp, continueWith_nextKey,
    scanValue_toString _ (Or.inl rfl) hiat, continueWith_nextKey, scanValue_encode,
    continueWith_close (@skipWs_cons '\x7d' _ rfl), continueWith_nil, hdict]
  rfl

end NodeAuth
end Hyperlooms
