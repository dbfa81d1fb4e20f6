import Hyperlooms.NodeAuth.Json

/-!
# Node tokens

`NodeTokenManager` of `app/services/node_auth.py`.  A token is the unpadded
urlsafe base64 of the payload `json.dumps` writes, a dot, and the unpadded base64
of the payload's HMAC-SHA256 under the secret; `verify_token` undoes each layer
and checks what it finds.

**Input.**  What the model does not compute is passed in as `TokenPrimitives`:
the HMAC over bytes, the `repr` with which `str()` prints finite floats, lists,
dicts and, in `int()`'s error, strings, and the nesting depth `json.loads` may
still enter.  Times are microseconds since the epoch; `timestamp()` is read
exactly, which agrees with the float CPython computes for every date before
2255.

**Algorithm.**  `verifyToken` runs three stages: `signedPayload` (split at the
first dot, decode both halves, compare the signature), `loadsPayload` (strict
UTF-8, then `json.loads`) and `checkPayload` (`int(payload.get("exp", 0))`, then
`str(payload.get("node_id", ""))`, then the three checks in the source's order).

**Results.**
* `verifyToken_issueToken`: a token issued for a node verifies for it, with the
  payload it was issued with, until its expiry; it is refused for every other
  node; and whatever the token, every error is a `ValueError` unless the token
  carries the secret's signature over its payload bytes, and every payload
  returned carries that signature, names the node and has not expired.
* `verifyToken_signedEmptyList`: a correctly signed token whose payload is `[]`
  raises `AttributeError`, which `require_node_token` lets through as a server
  error rather than a 401.
-/

namespace Hyperlooms
namespace NodeAuth

/-- What the token code calls on that the model does not compute. -/
structure TokenPrimitives where
  /-- `hmac.new(key, msg, hashlib.sha256).digest()`. -/
  hmacSha256 : List UInt8 → List UInt8 → List UInt8
  /-- `repr(v)`, as code points. -/
  reprOf : PyJson → List ℕ
  /-- How many containers `json.loads` may still enter before `RecursionError`. -/
  jsonDepth : ℕ
  jsonDepth_pos : 0 < jsonDepth

/-- `NodeTokenManager`: the secret's UTF-8 bytes and the lifetime of a token in
seconds, at least five minutes. -/
structure NodeTokenManager where
  secret : List UInt8
  ttl : ℕ
  ttl_ge : 300 ≤ ttl

/-- `NodeTokenManager(secret, ttl_seconds)`. -/
def NodeTokenManager.new (secret : String) (ttlSeconds : ℤ) : NodeTokenManager :=
  ⟨utf8Encode secret, (max 300 ttlSeconds).toNat, by omega⟩

/-- `datetime.max` for an aware UTC datetime, in microseconds since the epoch. -/
def datetimeMaxMicros : ℕ := 253402300799999999

/-- `issue_token(node_id)` at `now`: the token and `expires_at`, or the
`OverflowError` of an expiry past `datetime.max`. -/
def NodeTokenManager.issueToken (P : TokenPrimitives) (m : NodeTokenManager) (nodeId : String)
    (now : ℕ) : Except String (String × ℕ) :=
  let expiresAt := now + m.ttl * 10 ^ 6
  if datetimeMaxMicros < expiresAt then .error "date value out of range"
  else
    let payloadJson := utf8Encode ⟨dumpsPayload nodeId (now / 10 ^ 6) (expiresAt / 10 ^ 6)⟩
    .ok (b64encode payloadJson ++ "." ++ b64encode (P.hmacSha256 m.secret payloadJson), expiresAt)

/-! ## Verification -/

/-- What `verify_token` raises: `binascii.Error`, `UnicodeDecodeError`,
`JSONDecodeError` and its own errors are `ValueError`s. -/
inductive TokenError
  | valueError (message : String)
  | attributeError (message : String)
  | typeError (message : String)
  | overflowError (message : String)
  | recursionError (message : String)
deriving DecidableEq, Repr

/-- Whether an error is a `ValueError`, the only kind `require_node_token` turns
into a 401. -/
def TokenError.isValueError : TokenError → Bool
  | .valueError _ => true
  | _ => false

/-- `token.split(".", 1)` of a token with a dot. -/
def splitToken (token : String) : String × String :=
  (⟨token.data.takeWhile (· ≠ '.')⟩, ⟨(token.data.dropWhile (· ≠ '.')).drop 1⟩)

/-- `verify_token` up to its signature check: the payload bytes of a token whose
signature is the secret's. -/
def NodeTokenManager.signedPayload (P : TokenPrimitives) (m : NodeTokenManager) (token : String) :
    Except TokenError (List UInt8) :=
  if '.' ∉ token.data then .error (.valueError "Malformed node token")
  else
    match b64decode (splitToken token).1, b64decode (splitToken token).2 with
    | .error e, _ => .error (.valueError e)
    | .ok _, .error e => .error (.valueError e)
    | .ok payloadBytes, .ok providedSignature =>
        if providedSignature = P.hmacSha256 m.secret payloadBytes then .ok payloadBytes
        else .error (.valueError "Invalid node token signature")

/-- A `json.loads` error as `verify_token` raises it. -/
def JsonError.toTokenError (doc : List Char) : JsonError → TokenError
  | .decodeError msg rest => .valueError (decodeErrorMessage doc msg rest)
  | .valueError msg => .valueError msg
  | .recursionError msg => .recursionError msg

/-- `json.loads(payload_bytes.decode("utf-8"))`. -/
def loadsPayload (P : TokenPrimitives) (payloadBytes : List UInt8) : Except TokenError PyJson :=
  match utf8Decode 0 payloadBytes with
  | .error e => .error (.valueError (e.message payloadBytes))
  | .ok text => (loads P.jsonDepth text).mapError (JsonError.toTokenError text)

/-- A string of code points as Python prints it in a message. -/
def textOf (s : List ℕ) : String :=
  ⟨s.map Char.ofNat⟩

/-- `int(s)` for a string: the ASCII reading of `AssignmentKey.pyInt`, with the
4300-digit limit. -/
def intOfStr (P : TokenPrimitives) (s : List ℕ) : Except TokenError ℤ :=
  match AssignmentKey.pyInt (textOf s) with
  | some i =>
      let digits := ((pyStrip (textOf s)).data.filter isDigit).length
      if intMaxStrDigits < digits then .error (.valueError (intLimitMessage digits)) else .ok i
  | none =>
      .error (.valueError ("invalid literal for int() with base 10: " ++ textOf (P.reprOf (.str s))))

/-- `int(v)` for a value `json.loads` builds. -/
def pyIntOf (P : TokenPrimitives) : PyJson → Except TokenError ℤ
  | .bool b => .ok (if b then 1 else 0)
  | .int i => .ok i
  | .float (.finite q) => .ok (if 0 ≤ q then ⌊q⌋ else ⌈q⌉)
  | .float .inf => .error (.overflowError "cannot convert float infinity to integer")
  | .float .negInf => .error (.overflowError "cannot convert float infinity to integer")
  | .float .nan => .error (.valueError "cannot convert float NaN to integer")
  | .str s => intOfStr P s
  | v => .error (.typeError
      ("int() argument must be a string, a bytes-like object or a real number, not '" ++
        v.typeName ++ "'"))

/-- `str(v)` for a value `json.loads` builds: a string is itself; `None`, the
booleans, integers and the non-finite floats print as Python writes them; the
rest prints through `repr`. -/
def pyStr (P : TokenPrimitives) : PyJson → List ℕ
  | .null => codePoints "None"
  | .bool true => codePoints "True"
  | .bool false => codePoints "False"
  | .int i => codePoints (toString i)
  | .float .inf => codePoints "inf"
  | .float .negInf => codePoints "-inf"
  | .float .nan => codePoints "nan"
  | .str s => s
  | v => P.reprOf v

/-- `payload.get(key, default)`: an `AttributeError` unless the payload is a
dict. -/
def payloadGet (payload : PyJson) (key : String) (default : PyJson) : Except TokenError PyJson :=
  match payload with
  | .dict pairs => .ok ((Dict.get pairs (codePoints key)).getD default)
  | v => .error (.attributeError ("'" ++ v.typeName ++ "' object has no attribute 'get'"))

/-- `int(payload.get("exp", 0))`. -/
def payloadExp (P : TokenPrimitives) (payload : PyJson) : Except TokenError ℤ :=
  payloadGet payload "exp" (.int 0) >>= pyIntOf P

/-- `str(payload.get("node_id", ""))`. -/
def payloadNodeId (P : TokenPrimitives) (payload : PyJson) : Except TokenError (List ℕ) :=
  (payloadGet payload "node_id" (.str [])).map (pyStr P)

/-- The checks `verify_token` makes on a loaded payload, in the source's order. -/
def checkPayload (P : TokenPrimitives) (payload : PyJson) (expectedNodeId : Option String)
    (now : ℕ) : Except TokenError PyJson := do
  let exp ← payloadExp P payload
  let nodeId ← payloadNodeId P payload
  if nodeId = [] then throw (.valueError "Invalid node token payload")
  if expectedNodeId.any fun expected => expected ≠ "" ∧ codePoints expected ≠ nodeId then
    throw (.valueError "Node token does not match node path")
  if exp * 10 ^ 6 < (now : ℤ) then throw (.valueError "Node token expired")
  pure payload

/-- `verify_token(token, expected_node_id)` at `now`. -/
def NodeTokenManager.verifyToken (P : TokenPrimitives) (m : NodeTokenManager) (token : String)
    (expectedNodeId : Option String) (now : ℕ) : Except TokenError PyJson := do
  let payloadBytes ← m.signedPayload P token
  let payload ← loadsPayload P payloadBytes
  checkPayload P payload expectedNodeId now

/-! ## The signature stage -/

/-- A token carries the secret's signature over the payload bytes `bytes`: it has
a dot, the text before the first dot decodes to `bytes`, and the text after it to
their HMAC. -/
def NodeTokenManager.SignedBy (P : TokenPrimitives) (m : NodeTokenManager) (token : String)
    (bytes : List UInt8) : Prop :=
  '.' ∈ token.data ∧ b64decode (splitToken token).1 = .ok bytes ∧
    b64decode (splitToken token).2 = .ok (P.hmacSha256 m.secret bytes)

section Signature

variable {P : TokenPrimitives} {m : NodeTokenManager} {token : String}

theorem signedPayload_eq_ok_iff {bytes : List UInt8} :
    m.signedPayload P token = .ok bytes ↔ m.SignedBy P token bytes := by
  constructor
  · intro h
    unfold NodeTokenManager.signedPayload at h
    split_ifs at h with hdot
    split at h
    · cases h
    · cases h
    · split_ifs at h with hs
      cases h
      exact ⟨hdot, ‹_›, hs ▸ ‹b64decode (splitToken token).2 = _›⟩
  · rintro ⟨hdot, h₁, h₂⟩
    rw [NodeTokenManager.signedPayload, if_neg (not_not_intro hdot), h₁, h₂]
    exact if_pos rfl

theorem signedPayload_error {e : TokenError} (h : m.signedPayload P token = .error e) :
    e.isValueError := by
  unfold NodeTokenManager.signedPayload at h
  split_ifs at h
  all_goals first
    | (cases h; rfl)
    | (split at h <;> (try split_ifs at h) <;> cases h <;> rfl)

theorem splitToken_append {a b : String} (ha : '.' ∉ a.data) : splitToken (a ++ "." ++ b) = (a, b) := by
  have hp : ∀ x ∈ a.data, decide (x ≠ '.') = true := fun x hx =>
    decide_eq_true fun h => ha (h ▸ hx)
  obtain ⟨h₁, h₂⟩ := @takeWhile_dropWhile_append (fun x => decide (x ≠ '.')) a.data b.data '.' hp
    (decide_eq_false (not_not.2 rfl))
  have hdata : (a ++ "." ++ b).data = a.data ++ '.' :: b.data := by
    rw [String.data_append, String.data_append, List.append_assoc]
    rfl
  simp only [splitToken, hdata, h₁, h₂, List.drop_one, List.tail_cons]

/-- The token `issue_token` writes carries the signature over its payload. -/
theorem signedPayload_issued (payloadJson : List UInt8) :
    m.signedPayload P (b64encode payloadJson ++ "." ++ b64encode (P.hmacSha256 m.secret payloadJson)) =
      .ok payloadJson := by
  have hdot : '.' ∉ (b64encode payloadJson).data := AssignmentKey.dot_not_mem_b64NoPad payloadJson
  rw [signedPayload_eq_ok_iff, NodeTokenManager.SignedBy, splitToken_append hdot]
  refine ⟨?_, b64decode_b64encode _, b64decode_b64encode _⟩
  rw [String.data_append, String.data_append]
  exact List.mem_append_left _ (List.mem_append_right _ (List.mem_singleton_self _))

end Signature

/-! ## The payload stages -/

/-- The payload `issue_token` signs, as `json.loads` reads it back. -/
def issuedPayload (nodeId : String) (iat exp : ℕ) : PyJson :=
  .dict [(codePoints "exp", .int exp), (codePoints "iat", .int iat),
    (codePoints "node_id", .str (codePoints nodeId))]

theorem loadsPayload_issued (P : TokenPrimitives) (nodeId : String) (iat exp : ℕ)
    (hiat : (toString iat).length ≤ intMaxStrDigits) (hexp : (toString exp).length ≤ intMaxStrDigits) :
    loadsPayload P (utf8Encode ⟨dumpsPayload nodeId iat exp⟩) = .ok (issuedPayload nodeId iat exp) := by
  rw [loadsPayload, utf8Decode_utf8Encode]
  dsimp only
  rw [loads_dumpsPayload P.jsonDepth_pos nodeId iat exp hiat hexp]
  rfl

/-- Reading a payload raises a `ValueError`, or a `RecursionError` from too deep a
nesting. -/
theorem loadsPayload_error {P : TokenPrimitives} {bytes : List UInt8} {e : TokenError}
    (h : loadsPayload P bytes = .error e) : e.isValueError ∨ ∃ msg, e = .recursionError msg := by
  unfold loadsPayload at h
  split at h
  · cases h; exact Or.inl rfl
  · cases hl : loads P.jsonDepth ‹List Char› with
    | error je =>
        rw [hl] at h
        cases h
        cases je
        · exact Or.inl rfl
        · exact Or.inl rfl
        · exact Or.inr ⟨_, rfl⟩
    | ok v => rw [hl] at h; cases h

theorem codePoints_injective {s t : String} (h : codePoints s = codePoints t) : s = t := by
  obtain ⟨l⟩ := s
  obtain ⟨l'⟩ := t
  have hinj : Function.Injective Char.toNat := fun a b hab => by
    rw [← Char.ofNat_toNat a, hab, Char.ofNat_toNat]
  exact congrArg String.mk (List.map_injective_iff.2 hinj h)

theorem codePoints_eq_nil {s : String} (h : codePoints s = []) : s = "" :=
  codePoints_injective h

theorem payloadExp_issued (P : TokenPrimitives) (nodeId : String) (iat exp : ℕ) :
    payloadExp P (issuedPayload nodeId iat exp) = .ok exp :=
  rfl

theorem payloadNodeId_issued (P : TokenPrimitives) (nodeId : String) (iat exp : ℕ) :
    payloadNodeId P (issuedPayload nodeId iat exp) = .ok (codePoints nodeId) :=
  rfl

/-- The checks on an issued payload: the node and then the expiry. -/
theorem checkPayload_issued (P : TokenPrimitives) {nodeId : String} (hn : nodeId ≠ "") (iat exp : ℕ)
    (expected : String) (now : ℕ) :
    checkPayload P (issuedPayload nodeId iat exp) (some expected) now =
      if expected ≠ "" ∧ expected ≠ nodeId then .error (.valueError "Node token does not match node path")
      else if (exp : ℤ) * 10 ^ 6 < now then .error (.valueError "Node token expired")
      else .ok (issuedPayload nodeId iat exp) := by
  have hne : codePoints nodeId ≠ [] := fun h => hn (codePoints_eq_nil h)
  have hiff : codePoints expected ≠ codePoints nodeId ↔ expected ≠ nodeId :=
    not_congr ⟨codePoints_injective, congrArg codePoints⟩
  simp only [checkPayload, payloadExp_issued, payloadNodeId_issued, bind, Except.bind, hne,
    Option.any_some, hiff, if_false, pure, Except.pure, decide_eq_true_eq]

/-- A payload `checkPayload` returns names the expected node and has not expired. -/
theorem checkPayload_ok {P : TokenPrimitives} {payload p : PyJson} {n : String} {now : ℕ}
    (hn : n ≠ "") (h : checkPayload P payload (some n) now = .ok p) :
    p = payload ∧ payloadNodeId P payload = .ok (codePoints n) ∧
      ∃ exp, payloadExp P payload = .ok exp ∧ (now : ℤ) ≤ exp * 10 ^ 6 := by
  unfold checkPayload at h
  cases he : payloadExp P payload with
  | error e => simp [he, bind, Except.bind] at h
  | ok exp =>
      cases hi : payloadNodeId P payload with
      | error e => simp [he, hi, bind, Except.bind] at h
      | ok nodeId =>
          simp only [he, hi, bind, Except.bind, Option.any_some, pure, Except.pure,
            decide_eq_true_eq] at h
          split_ifs at h with h₁ h₂ h₃
          cases h
          refine ⟨rfl, ?_, exp, rfl, not_lt.1 h₃⟩
          rw [not_and, not_not] at h₂
          rw [h₂ hn]

/-! ## Issued tokens -/

section Issued

variable {P : TokenPrimitives} {m : NodeTokenManager} {n : String} {now : ℕ} {token : String}
  {expiresAt : ℕ}

theorem issueToken_ok (h : m.issueToken P n now = .ok (token, expiresAt)) :
    expiresAt = now + m.ttl * 10 ^ 6 ∧ expiresAt ≤ datetimeMaxMicros ∧
      token = b64encode (utf8Encode ⟨dumpsPayload n (now / 10 ^ 6) (expiresAt / 10 ^ 6)⟩) ++ "." ++
        b64encode (P.hmacSha256 m.secret (utf8Encode ⟨dumpsPayload n (now / 10 ^ 6) (expiresAt / 10 ^ 6)⟩)) := by
  unfold NodeTokenManager.issueToken at h
  dsimp only at h
  split_ifs at h with hmax
  obtain ⟨rfl, rfl⟩ := Prod.mk.inj (Except.ok.inj h)
  exact ⟨rfl, not_lt.1 hmax, rfl⟩

/-- An issued token passes the signature and the parsing, and is checked as the
payload it was issued with. -/
theorem verifyToken_issued (h : m.issueToken P n now = .ok (token, expiresAt))
    (expected : Option String) (now' : ℕ) :
    m.verifyToken P token expected now' =
      checkPayload P (issuedPayload n (now / 10 ^ 6) (expiresAt / 10 ^ 6)) expected now' := by
  obtain ⟨hexp, hmax, rfl⟩ := issueToken_ok h
  have hsmall : ∀ t ≤ expiresAt, (toString (t / 10 ^ 6)).length ≤ intMaxStrDigits := fun t ht =>
    (@length_toString_le _ 12 (by norm_num)
      (by unfold datetimeMaxMicros at hmax; omega)).trans (by decide)
  simp only [NodeTokenManager.verifyToken, signedPayload_issued, bind, Except.bind,
    loadsPayload_issued P n _ _ (hsmall now (by omega)) (hsmall expiresAt le_rfl)]

end Issued

/-! ## What `verify_token` guarantees -/

/-- A token issued for a node verifies for it, with the payload it was issued
with, until its expiry, and is refused for every other node.  Whatever the
token, an error other than a `ValueError` needs the secret's signature over the
payload bytes, and a payload returned carries that signature, names the node
and has not expired. -/
theorem verifyToken_issueToken :
    (∀ (P : TokenPrimitives) (m : NodeTokenManager) (n : String) (now now' : ℕ) (token : String)
        (expiresAt : ℕ), n ≠ "" → m.issueToken P n now = .ok (token, expiresAt) →
        now' ≤ expiresAt / 10 ^ 6 * 10 ^ 6 →
        m.verifyToken P token (some n) now' =
          .ok (issuedPayload n (now / 10 ^ 6) (expiresAt / 10 ^ 6))) ∧
    (∀ (P : TokenPrimitives) (m : NodeTokenManager) (n n' : String) (now now' : ℕ) (token : String)
        (expiresAt : ℕ), n ≠ "" → n' ≠ "" → n' ≠ n → m.issueToken P n now = .ok (token, expiresAt) →
        m.verifyToken P token (some n') now' =
          .error (.valueError "Node token does not match node path")) ∧
    (∀ (P : TokenPrimitives) (m : NodeTokenManager) (token n : String) (now : ℕ), n ≠ "" →
      (∀ e, m.verifyToken P token (some n) now = .error e →
        e.isValueError ∨ ∃ bytes, m.SignedBy P token bytes) ∧
      (∀ payload, m.verifyToken P token (some n) now = .ok payload →
        ∃ bytes, m.SignedBy P token bytes ∧ loadsPayload P bytes = .ok payload ∧
          payloadNodeId P payload = .ok (codePoints n) ∧
          ∃ exp, payloadExp P payload = .ok exp ∧ (now : ℤ) ≤ exp * 10 ^ 6)) := by
  refine ⟨fun P m n now now' token expiresAt hn h ht => ?_,
    fun P m n n' now now' token expiresAt hn hn' hne h => ?_,
    fun P m token n now hn => ⟨fun e he => ?_, fun payload hp => ?_⟩⟩
  · rw [verifyToken_issued h, checkPayload_issued P hn, if_neg (by simp),
      if_neg (by exact_mod_cast not_lt.2 ht)]
  · rw [verifyToken_issued h, checkPayload_issued P hn, if_pos ⟨hn', hne⟩]
  · unfold NodeTokenManager.verifyToken at he
    cases hs : m.signedPayload P token with
    | error e' =>
        rw [hs] at he
        cases he
        exact Or.inl (signedPayload_error hs)
    | ok bytes => exact Or.inr ⟨bytes, signedPayload_eq_ok_iff.1 hs⟩
  · unfold NodeTokenManager.verifyToken at hp
    cases hs : m.signedPayload P token with
    | error e' => rw [hs] at hp; cases hp
    | ok bytes =>
        cases hl : loadsPayload P bytes with
        | error e' => simp [hs, hl, bind, Except.bind] at hp
        | ok payload' =>
            simp only [hs, hl, bind, Except.bind] at hp
            obtain ⟨rfl, hnode, hexp⟩ := checkPayload_ok hn hp
            exact ⟨bytes, signedPayload_eq_ok_iff.1 hs, hl, hnode, hexp⟩

/-- Primitives for a worked example: a stand-in for the HMAC that keeps the
first 32 bytes of key and message. -/
def demoPrimitives : TokenPrimitives :=
  ⟨fun key msg => (key ++ msg).take 32, fun _ => [], 1000, by decide⟩

/-- The manager the settings' defaults build. -/
def demoManager : NodeTokenManager :=
  NodeTokenManager.new "dev-node-token-secret" 86400

set_option maxRecDepth 20000 in
theorem verifyToken_issueToken_node1 :
    ∃ token expiresAt,
      demoManager.issueToken demoPrimitives "node-1" 1700000000000000 = .ok (token, expiresAt) ∧
      demoManager.verifyToken demoPrimitives token (some "node-1") 1700000000000000 =
        .ok (issuedPayload "node-1" 1700000000 1700086400) ∧
      demoManager.verifyToken demoPrimitives token (some "node-2") 1700000000000000 =
        .error (.valueError "Node token does not match node path") := by
  refine ⟨?token, 1700086400000000, ?issue,
    verifyToken_issueToken.1 _ _ _ _ _ _ _ (by decide) ?issue ?time,
    verifyToken_issueToken.2.1 _ _ _ _ _ _ _ _ (by decide) (by decide) (by decide) ?issue⟩
  case issue => with_unfolding_all exact rfl
  case time => decide

/-! ## A signed payload that is not an object -/

/-- The token whose payload is the JSON text `[]`, signed under the manager's
secret. -/
def forgedListToken (P : TokenPrimitives) (m : NodeTokenManager) : String :=
  b64encode (utf8Encode "[]") ++ "." ++ b64encode (P.hmacSha256 m.secret (utf8Encode "[]"))

theorem loadsPayload_emptyList (P : TokenPrimitives) :
    loadsPayload P (utf8Encode "[]") = .ok (.list []) := by
  rw [loadsPayload, utf8Decode_utf8Encode]
  dsimp only
  rw [loads, if_neg (by decide),
    @skipWs_cons '[' _ rfl, scanValue_emptyArray P.jsonDepth_pos (@skipWs_cons ']' [] rfl),
    continueWith_nil]
  rfl

/-- A correctly signed token whose payload is `[]` raises `AttributeError` at
`payload.get`, for every secret, node and time. -/
theorem verifyToken_signedEmptyList (P : TokenPrimitives) (m : NodeTokenManager) (n : String)
    (now : ℕ) :
    m.verifyToken P (forgedListToken P m) (some n) now =
      .error (.attributeError "'list' object has no attribute 'get'") := by
  simp only [NodeTokenManager.verifyToken, forgedListToken, signedPayload_issued,
    loadsPayload_emptyList, bind, Except.bind]
  rfl

/-- Under the default secret, the token signed over `[]` is refused for
`node-1` with an `AttributeError`, not a `ValueError`. -/
theorem verifyToken_forgedList :
    demoManager.verifyToken demoPrimitives (forgedListToken demoPrimitives demoManager)
        (some "node-1") 1700000000000000 =
      .error (.attributeError "'list' object has no attribute 'get'") :=
  verifyToken_signedEmptyList demoPrimitives demoManager "node-1" 1700000000000000

end NodeAuth
end Hyperlooms
