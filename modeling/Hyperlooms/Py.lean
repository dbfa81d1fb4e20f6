import Mathlib.Data.List.Sort
import Mathlib.Data.Rat.Floor
import Mathlib.Tactic.Ring
import Mathlib.Data.String.Basic
import Mathlib.Data.Nat.Digits

/-!
# Python building blocks of the coordinator

The coordinator's services lean on a few Python built-ins whose exact behaviour
the later modules depend on.

* `dict` keeps insertion order: `d[k] = v` leaves an existing key where it is
  and appends a new one; `d.pop(k, None)` removes it.  A dictionary is a list of
  pairs with distinct keys, and `Dict.set`/`Dict.pop` are those two writes.
* `[*dict.fromkeys(xs)]` keeps the first occurrence of every element
  (`fromKeys`).
* A `set[str]` is iterated in hash order, which the program does not control.
  A loop over such a set takes its order from an explicit hint (`inOrder`), and
  every order of the set is the order of some hint.
* `str.strip()` and `str.lower()`: the whitespace set is Python's; lower-casing
  is the ASCII one.
* `round(x, n)` on exact rationals, ties to even (floats are read as the
  rationals they denote).
-/

namespace Hyperlooms

/-! ## Dictionaries -/

namespace Dict

variable {κ ν : Type}

/-- The keys of a dictionary, in insertion order. -/
def keys (d : List (κ × ν)) : List κ :=
  d.map Prod.fst

@[simp] theorem keys_nil : keys ([] : List (κ × ν)) = [] := rfl

@[simp] theorem keys_cons (p : κ × ν) (d : List (κ × ν)) :
    keys (p :: d) = p.1 :: keys d := rfl

@[simp] theorem keys_append (d e : List (κ × ν)) :
    keys (d ++ e) = keys d ++ keys e := by
  simp [keys]

variable [DecidableEq κ]

/-- `d.get(k)`. -/
def get : List (κ × ν) → κ → Option ν
  | [], _ => none
  | p :: d, k => if p.1 = k then some p.2 else get d k

/-- `d[k] = v`. -/
def set : List (κ × ν) → κ → ν → List (κ × ν)
  | [], k, v => [(k, v)]
  | p :: d, k, v => if p.1 = k then (k, v) :: d else p :: set d k v

/-- `d.pop(k, None)`. -/
def pop (d : List (κ × ν)) (k : κ) : List (κ × ν) :=
  d.filter (fun p => p.1 ≠ k)

theorem get_eq_none_iff (d : List (κ × ν)) (k : κ) :
    get d k = none ↔ k ∉ keys d := by
  induction d with
  | nil => simp [get]
  | cons p d ih =>
      by_cases h : p.1 = k
      · simp [get, h]
      · simp [get, h, ih, Ne.symm h]

theorem isSome_get_iff (d : List (κ × ν)) (k : κ) :
    (get d k).isSome ↔ k ∈ keys d := by
  rw [← not_iff_not, Option.not_isSome_iff_eq_none, get_eq_none_iff]

@[simp] theorem mem_keys_set (d : List (κ × ν)) (k j : κ) (v : ν) :
    j ∈ keys (set d k v) ↔ j = k ∨ j ∈ keys d := by
  induction d with
  | nil => simp [set]
  | cons p d ih =>
      by_cases h : p.1 = k
      · subst h
        simp [set]
      · simp only [set, h, if_false, keys_cons, List.mem_cons, ih]
        tauto

@[simp] theorem mem_keys_pop (d : List (κ × ν)) (k j : κ) :
    j ∈ keys (pop d k) ↔ j ≠ k ∧ j ∈ keys d := by
  simp only [pop, keys, List.mem_map, List.mem_filter, decide_eq_true_eq]
  constructor
  · rintro ⟨p, ⟨hp, hpk⟩, rfl⟩
    exact ⟨hpk, p, hp, rfl⟩
  · rintro ⟨hjk, p, hp, rfl⟩
    exact ⟨p, ⟨hp, hjk⟩, rfl⟩

theorem nodup_keys_set {d : List (κ × ν)} (h : (keys d).Nodup) (k : κ) (v : ν) :
    (keys (set d k v)).Nodup := by
  induction d with
  | nil => simp [set]
  | cons p d ih =>
      rw [keys_cons, List.nodup_cons] at h
      by_cases hp : p.1 = k
      · simpa [set, hp] using h
      · simp only [set, hp, if_false, keys_cons, List.nodup_cons, mem_keys_set, not_or,
          not_false_eq_true, true_and]
        exact ⟨h.1, ih h.2⟩

theorem get_of_mem {d : List (κ × ν)} (hd : (keys d).Nodup) {k : κ} {v : ν} (h : (k, v) ∈ d) :
    get d k = some v := by
  induction d with
  | nil => simp at h
  | cons p d ih =>
      rw [keys_cons, List.nodup_cons] at hd
      rcases List.mem_cons.1 h with rfl | h
      · simp [get]
      · have hk : p.1 ≠ k := fun e => hd.1 (e ▸ List.mem_map_of_mem Prod.fst h)
        simp [get, hk, ih hd.2 h]

theorem mem_set {d : List (κ × ν)} {k : κ} {v : ν} {p : κ × ν} (h : p ∈ set d k v) :
    p ∈ d ∨ p = (k, v) := by
  induction d with
  | nil => simpa [set] using h
  | cons q d ih =>
      unfold set at h
      split_ifs at h
      · rcases List.mem_cons.1 h with rfl | hp
        · exact .inr rfl
        · exact .inl (List.mem_cons_of_mem _ hp)
      · rcases List.mem_cons.1 h with rfl | hp
        · exact .inl (List.mem_cons_self _ _)
        · exact (ih hp).imp (List.mem_cons_of_mem _) id

theorem mem_of_get {d : List (κ × ν)} {k : κ} {v : ν} (h : get d k = some v) : (k, v) ∈ d := by
  induction d with
  | nil => simp [get] at h
  | cons q d ih =>
      unfold get at h
      split_ifs at h with hq
      · cases h
        exact hq ▸ List.mem_cons_self _ _
      · exact List.mem_cons_of_mem _ (ih h)

@[simp] theorem get_set (d : List (κ × ν)) (k j : κ) (v : ν) :
    get (set d k v) j = if j = k then some v else get d j := by
  induction d with
  | nil => by_cases h : k = j <;> simp [get, set, h, Eq.comm]
  | cons p d ih =>
      by_cases h : p.1 = k
      · by_cases hj : j = k
        · simp [get, set, h, hj]
        · simp [get, set, h, hj, Ne.symm hj]
      · by_cases hj : p.1 = j
        · have hjk : j ≠ k := fun e => h (hj.trans e)
          simp [get, set, h, hj, hjk]
        · simp [get, set, h, hj, ih]

@[simp] theorem get_pop (d : List (κ × ν)) (k j : κ) :
    get (pop d k) j = if j = k then none else get d j := by
  induction d with
  | nil => simp [get, pop]
  | cons p d ih =>
      by_cases h : p.1 = k
      · have : pop (p :: d) k = pop d k := by simp [pop, h]
        rw [this, ih]
        by_cases hj : j = k
        · simp [hj]
        · simp [get, hj, (fun e : p.1 = j => hj (e ▸ h)), (h ▸ Ne.symm hj : p.1 ≠ j)]
      · have : pop (p :: d) k = p :: pop d k := by simp [pop, h]
        rw [this]
        by_cases hj : j = k
        · subst hj
          simp [get, h, ih]
        · by_cases hpj : p.1 = j <;> simp [get, hpj, hj, ih]

/-- Writing back the value a key holds leaves the dictionary as it was. -/
theorem set_of_get {d : List (κ × ν)} {k : κ} {v : ν} (h : get d k = some v) : set d k v = d := by
  induction d with
  | nil => simp [get] at h
  | cons p d ih =>
      unfold get at h
      unfold set
      split_ifs at h ⊢ with hp
      · cases h
        rw [← hp]
      · rw [ih h]

/-- A new key goes last. -/
theorem set_of_not_mem {d : List (κ × ν)} {k : κ} (h : k ∉ keys d) (v : ν) :
    set d k v = d ++ [(k, v)] := by
  induction d with
  | nil => rfl
  | cons p d ih =>
      have hp : p.1 ≠ k := fun e => h (e ▸ List.mem_cons_self _ _)
      simp only [keys_cons, List.mem_cons, not_or] at h
      simp [set, hp, ih h.2]

@[simp] theorem set_set (d : List (κ × ν)) (k : κ) (v w : ν) :
    set (set d k v) k w = set d k w := by
  induction d with
  | nil => simp [set]
  | cons p d ih => by_cases h : p.1 = k <;> simp [set, h, ih]

end Dict

/-! ## `[*dict.fromkeys(xs)]` -/

section FromKeys

variable {α : Type} [DecidableEq α]

/-- `[*dict.fromkeys(xs)]`: the first occurrence of every element, in order. -/
def fromKeys : List α → List α
  | [] => []
  | x :: xs => x :: (fromKeys xs).filter (fun y => y ≠ x)

@[simp] theorem mem_fromKeys {x : α} : ∀ {xs : List α}, x ∈ fromKeys xs ↔ x ∈ xs
  | [] => by simp [fromKeys]
  | y :: xs => by
      by_cases h : x = y
      · simp [fromKeys, h]
      · simp [fromKeys, h, mem_fromKeys]

theorem nodup_fromKeys : ∀ xs : List α, (fromKeys xs).Nodup
  | [] => List.nodup_nil
  | x :: xs => by
      refine List.nodup_cons.2 ⟨?_, (nodup_fromKeys xs).filter _⟩
      simp

theorem fromKeys_eq_self : ∀ {xs : List α}, xs.Nodup → fromKeys xs = xs
  | [], _ => rfl
  | x :: xs, h => by
      rw [List.nodup_cons] at h
      rw [fromKeys, fromKeys_eq_self h.2, List.filter_eq_self.2]
      intro y hy
      simpa using fun hyx : y = x => h.1 (hyx ▸ hy)

/-- A new element goes to the end. -/
theorem fromKeys_append_singleton {x : α} : ∀ {xs : List α}, x ∉ xs →
    fromKeys (xs ++ [x]) = fromKeys xs ++ [x]
  | [], _ => rfl
  | y :: xs, hx => by
      rw [List.mem_cons, not_or] at hx
      simp [fromKeys, fromKeys_append_singleton hx.2, hx.1]

theorem length_fromKeys_le : ∀ xs : List α, (fromKeys xs).length ≤ xs.length
  | [] => le_rfl
  | x :: xs => by
      simp only [fromKeys, List.length_cons, add_le_add_iff_right]
      exact (List.length_filter_le _ _).trans (length_fromKeys_le xs)

@[simp] theorem fromKeys_eq_nil : ∀ {xs : List α}, fromKeys xs = [] ↔ xs = []
  | [] => by simp [fromKeys]
  | x :: xs => by simp [fromKeys]

end FromKeys

/-! ## Iterating a `set` -/

section SetOrder

variable {α : Type} [DecidableEq α]

/-- The order in which a loop visits the elements of the set `s` (held as a
duplicate-free list in discovery order): the elements named by `hint` first, in
the hint's order, then the others. -/
def inOrder (hint s : List α) : List α :=
  fromKeys (hint.filter (· ∈ s)) ++ s.filter (· ∉ hint)

theorem mem_inOrder {hint s : List α} {x : α} : x ∈ inOrder hint s ↔ x ∈ s := by
  by_cases h : x ∈ hint <;> simp [inOrder, h]

/-- Every duplicate-free enumeration of the set is the order of some hint. -/
theorem inOrder_self {s t : List α} (ht : t.Nodup) (hst : ∀ x, x ∈ t ↔ x ∈ s) :
    inOrder t s = t := by
  have h1 : t.filter (· ∈ s) = t := List.filter_eq_self.2 (by simp [hst])
  have h2 : s.filter (· ∉ t) = [] := List.filter_eq_nil_iff.2 (fun a ha => by simp [(hst a).2 ha])
  rw [inOrder, h1, h2, fromKeys_eq_self ht, List.append_nil]

end SetOrder

/-! ## Strings -/

/-- Python's `str.isspace` for one character (bidi types WS, B, S and category Zs). -/
def isPySpace (c : Char) : Bool :=
  let n := c.toNat
  (9 ≤ n && n ≤ 13) || (28 ≤ n && n ≤ 32) || n = 0x85 || n = 0xA0 || n = 0x1680 ||
    (0x2000 ≤ n && n ≤ 0x200A) || n = 0x2028 || n = 0x2029 || n = 0x202F ||
    n = 0x205F || n = 0x3000

/-- `s.strip()`. -/
def pyStrip (s : String) : String :=
  ⟨((s.data.dropWhile isPySpace).reverse.dropWhile isPySpace).reverse⟩

/-- `s.lower()` (ASCII letters). -/
def pyLower (s : String) : String :=
  ⟨s.data.map Char.toLower⟩

/-- `\d` on ASCII digits. -/
def isDigit (c : Char) : Bool :=
  '0' ≤ c && c ≤ '9'

/-- The value of a run of decimal digits, as `int` and `float` read it. -/
def digitsValue (ds : List Char) : ℕ :=
  ds.foldl (fun acc c => 10 * acc + (c.toNat - '0'.toNat)) 0

theorem digitsValue_append_singleton (ds : List Char) (c : Char) :
    digitsValue (ds ++ [c]) = 10 * digitsValue ds + (c.toNat - '0'.toNat) := by
  simp [digitsValue]

/-- `prefix` is a prefix of `s`: `s.startswith(prefix)`. -/
def startsWith (s pre : String) : Bool :=
  pre.data.isPrefixOf s.data

/-! ## Numbers -/

/-- `round(x, n)` on an exact rational, ties to even. -/
def pyRound (x : ℚ) (n : ℕ) : ℚ :=
  let y := x * 10 ^ n
  let f := ⌊y⌋
  let r := y - f
  let k : ℤ := if r < 1 / 2 then f else if 1 / 2 < r then f + 1 else if f % 2 = 0 then f else f + 1
  k / 10 ^ n

/-- Rounding to `n` decimals stays between two multiples of `10 ^ -n` that
bound the value. -/
theorem pyRound_mem_Icc {x : ℚ} {n : ℕ} {a b : ℤ} (ha : (a : ℚ) ≤ x * 10 ^ n)
    (hb : x * 10 ^ n ≤ b) : (a : ℚ) / 10 ^ n ≤ pyRound x n ∧ pyRound x n ≤ (b : ℚ) / 10 ^ n := by
  have hpos : (0 : ℚ) < 10 ^ n := by positivity
  have hfa : a ≤ ⌊x * 10 ^ n⌋ := Int.le_floor.2 ha
  have hfb : ⌊x * 10 ^ n⌋ ≤ b := Int.floor_le_floor hb |>.trans (Int.floor_intCast b).le
  have hup : 0 < x * 10 ^ n - ⌊x * 10 ^ n⌋ → ⌊x * 10 ^ n⌋ + 1 ≤ b := fun hr => by
    have : (⌊x * 10 ^ n⌋ : ℚ) < b := by linarith
    exact_mod_cast this
  unfold pyRound
  dsimp only
  rw [div_le_div_iff_of_pos_right hpos, div_le_div_iff_of_pos_right hpos]
  split_ifs with h1 h2 h3
  · exact ⟨by exact_mod_cast hfa, by exact_mod_cast hfb⟩
  · have := hup (by linarith)
    exact ⟨by push_cast; exact_mod_cast hfa.trans (Int.le_add_one le_rfl), by exact_mod_cast this⟩
  · exact ⟨by exact_mod_cast hfa, by exact_mod_cast hfb⟩
  · have := hup (by linarith)
    exact ⟨by push_cast; exact_mod_cast hfa.trans (Int.le_add_one le_rfl), by exact_mod_cast this⟩

/-- Rounding never goes below the floor, so a value of at least one unit in
the last place stays positive. -/
theorem pyRound_pos {x : ℚ} {n : ℕ} (h : 1 ≤ x * 10 ^ n) : 0 < pyRound x n := by
  have hf : (1 : ℤ) ≤ ⌊x * 10 ^ n⌋ := Int.le_floor.2 (by exact_mod_cast h)
  unfold pyRound
  dsimp only
  apply div_pos _ (by positivity)
  have hpos : ∀ k : ℤ, 1 ≤ k → (0 : ℚ) < k := fun k hk => by exact_mod_cast hk
  split_ifs <;> apply hpos <;> omega

/-- A value with at most `n` decimal places. -/
def HasDecimals (n : ℕ) (x : ℚ) : Prop :=
  ∃ k : ℤ, x = k / 10 ^ n

theorem pyRound_of_hasDecimals {n : ℕ} {x : ℚ} (h : HasDecimals n x) : pyRound x n = x := by
  obtain ⟨k, rfl⟩ := h
  have hy : (k : ℚ) / 10 ^ n * 10 ^ n = k := by field_simp
  simp [pyRound, hy]

end Hyperlooms
