import Mathlib.Data.List.Lex
import Mathlib.Algebra.Order.Group.Nat

/-!
# Stargate.Lib.ByteOrder

The order a byte-keyed store sorts its keys in, and the big-endian encoding of
fixed-width unsigned integers into such keys.

* Bytes are ordered by their unsigned value (`UInt8`'s own `≤`, packaged as a
  `LinearOrder`), and byte strings lexicographically (Mathlib's order on `List`), which
  is the bytewise comparator of a sorted key-value store: a proper prefix sorts first.
* `ListOrder`: general facts about the lexicographic order on lists over any linear
  order. The keys extending a prefix form an interval (`isPrefix_of_between`), and
  appending to a common prefix preserves and reflects the order (`append_lt_append_iff`).
* `BigEndian`: `value` reads a byte string as a base-256 numeral, `encode w n` writes
  `n` into `w` bytes. On strings of one length, lexicographic order is numeric order
  (`lt_iff_value_lt`), so big-endian keys of one width sort as the numbers they encode.
-/

/-- Bytes are ordered by their unsigned value. -/
instance byteLinearOrder : LinearOrder UInt8 where
  le_refl := UInt8.le_refl
  le_trans _ _ _ := UInt8.le_trans
  le_antisymm _ _ := UInt8.le_antisymm
  le_total := UInt8.le_total
  lt_iff_le_not_ge a b := by
    simp only [UInt8.le_iff_toNat_le, UInt8.lt_iff_toNat_lt]
    omega
  toDecidableLE := inferInstance
  toDecidableLT := inferInstance
  toDecidableEq := inferInstance

namespace ListOrder

variable {α : Type} [LinearOrder α]

/-! ### Heads and tails -/

theorem cons_lt_cons_iff {a b : α} {l l' : List α} :
    a :: l < b :: l' ↔ a < b ∨ (a = b ∧ l < l') := by
  constructor
  · intro h
    cases h with
    | cons h => exact .inr ⟨rfl, h⟩
    | rel h => exact .inl h
  · rintro (h | ⟨rfl, h⟩)
    · exact List.Lex.rel h
    · exact List.Lex.cons h

theorem cons_le_cons_iff {a b : α} {l l' : List α} :
    a :: l ≤ b :: l' ↔ a < b ∨ (a = b ∧ l ≤ l') := by
  rw [le_iff_lt_or_eq, cons_lt_cons_iff, le_iff_lt_or_eq]
  constructor
  · rintro ((h | ⟨rfl, h⟩) | h)
    · exact .inl h
    · exact .inr ⟨rfl, .inl h⟩
    · cases h
      exact .inr ⟨rfl, .inr rfl⟩
  · rintro (h | ⟨rfl, h | rfl⟩)
    · exact .inl (.inl h)
    · exact .inl (.inr ⟨rfl, h⟩)
    · exact .inr rfl

theorem not_lt_nil (l : List α) : ¬ l < [] := fun h => by cases h

/-- Words of one length followed by anything compare by the words first, then by what follows:
the order of a key made of fixed-width fields is the lexicographic order of its fields. -/
theorem append_lt_append_of_length_eq {l₁ l₂ m₁ m₂ : List α} (h : l₁.length = l₂.length) :
    l₁ ++ m₁ < l₂ ++ m₂ ↔ l₁ < l₂ ∨ (l₁ = l₂ ∧ m₁ < m₂) := by
  induction l₁ generalizing l₂ with
  | nil =>
      cases l₂ with
      | nil => simp
      | cons _ _ => simp at h
  | cons a l₁ ih =>
      cases l₂ with
      | nil => simp at h
      | cons b l₂ =>
          simp only [List.length_cons, Nat.add_right_cancel_iff] at h
          rw [List.cons_append, List.cons_append, cons_lt_cons_iff, ih h, cons_lt_cons_iff,
            List.cons.injEq]
          constructor
          · rintro (hab | ⟨rfl, hl | ⟨rfl, hm⟩⟩)
            · exact .inl (.inl hab)
            · exact .inl (.inr ⟨rfl, hl⟩)
            · exact .inr ⟨⟨rfl, rfl⟩, hm⟩
          · rintro ((hab | ⟨rfl, hl⟩) | ⟨⟨rfl, rfl⟩, hm⟩)
            · exact .inl hab
            · exact .inr ⟨rfl, .inl hl⟩
            · exact .inr ⟨rfl, .inr ⟨rfl, hm⟩⟩

/-! ### Prefixes -/

/-- Appending to a common prefix preserves and reflects the order. -/
theorem append_lt_append_iff (p : List α) {l l' : List α} : p ++ l < p ++ l' ↔ l < l' := by
  induction p with
  | nil => rfl
  | cons a p ih =>
      rw [List.cons_append, List.cons_append, cons_lt_cons_iff, ih]
      simp

theorem append_le_append_iff (p : List α) {l l' : List α} : p ++ l ≤ p ++ l' ↔ l ≤ l' := by
  rw [le_iff_lt_or_eq, le_iff_lt_or_eq, append_lt_append_iff, List.append_cancel_left_eq]

/-- **Prefix ranges are intervals.** A list between two extensions of `p` extends `p`:
in a sorted store the keys under one prefix are contiguous. -/
theorem isPrefix_of_between {p x y z : List α} (hx : p <+: x) (hz : p <+: z)
    (hxy : x ≤ y) (hyz : y ≤ z) : p <+: y := by
  induction p generalizing x y z with
  | nil => exact List.nil_prefix
  | cons c p ih =>
      obtain ⟨x', rfl⟩ : ∃ x', x = c :: x' := by
        obtain ⟨t, rfl⟩ := hx
        exact ⟨p ++ t, rfl⟩
      obtain ⟨z', rfl⟩ : ∃ z', z = c :: z' := by
        obtain ⟨t, rfl⟩ := hz
        exact ⟨p ++ t, rfl⟩
      cases y with
      | nil => exact absurd (lt_of_le_of_ne hxy (by simp)) (not_lt_nil _)
      | cons d y' =>
          -- the head of `y` is squeezed between two copies of `c`
          have h1 := cons_le_cons_iff.mp hxy
          have h2 := cons_le_cons_iff.mp hyz
          have hd : d = c := by
            rcases h1 with h1 | ⟨h1, -⟩ <;> rcases h2 with h2 | ⟨h2, -⟩
            · exact absurd (lt_trans h1 h2) (lt_irrefl _)
            · exact absurd h1 (h2 ▸ lt_irrefl _)
            · exact absurd h2 (h1 ▸ lt_irrefl _)
            · exact h2
          subst hd
          have hxy' : x' ≤ y' := by
            rcases h1 with h1 | ⟨-, h1⟩
            · exact absurd h1 (lt_irrefl _)
            · exact h1
          have hyz' : y' ≤ z' := by
            rcases h2 with h2 | ⟨-, h2⟩
            · exact absurd h2 (lt_irrefl _)
            · exact h2
          exact (List.prefix_cons_inj d).mpr
            (ih ((List.prefix_cons_inj d).mp hx) ((List.prefix_cons_inj d).mp hz) hxy' hyz')

end ListOrder

namespace BigEndian

/-! ### Big-endian numerals -/

/-- The value of a byte string read as a base-256 numeral, most significant byte
first. -/
def value : List UInt8 → Nat
  | [] => 0
  | b :: bs => b.toNat * 256 ^ bs.length + value bs

/-- The `w` bytes of `n` (taken modulo `256 ^ w`), most significant first: what
`to_be_bytes` produces for a `w`-byte unsigned integer. -/
def encode : Nat → Nat → List UInt8
  | 0, _ => []
  | w + 1, n => UInt8.ofNat (n / 256 ^ w % 256) :: encode w n

@[simp] theorem value_nil : value [] = 0 := rfl

@[simp] theorem value_cons (b : UInt8) (bs : List UInt8) :
    value (b :: bs) = b.toNat * 256 ^ bs.length + value bs := rfl

@[simp] theorem length_encode (w n : Nat) : (encode w n).length = w := by
  induction w with
  | zero => rfl
  | succ w ih => simp [encode, ih]

theorem value_lt (l : List UInt8) : value l < 256 ^ l.length := by
  induction l with
  | nil => simp
  | cons b bs ih =>
      have hb : b.toNat + 1 ≤ 256 := b.toNat_lt
      have hstep : (b.toNat + 1) * 256 ^ bs.length ≤ 256 * 256 ^ bs.length :=
        Nat.mul_le_mul_right _ hb
      rw [value_cons, List.length_cons, Nat.pow_succ, Nat.mul_comm (256 ^ bs.length),
        Nat.succ_mul] at *
      omega

theorem value_encode (w n : Nat) : value (encode w n) = n % 256 ^ w := by
  induction w with
  | zero => simp [encode, Nat.mod_one]
  | succ w ih =>
      rw [encode, value_cons, length_encode, ih,
        UInt8.toNat_ofNat_of_lt' (Nat.mod_lt _ (by decide)), Nat.mod_pow_succ, Nat.mul_comm]
      -- the top byte and the lower `w` bytes recombine into `n` modulo `256 ^ (w + 1)`
      exact Nat.add_comm _ _

/-- A difference in the leading byte outweighs everything after it. -/
theorem value_cons_lt_of_lt {a b : UInt8} {l₁ l₂ : List UInt8} (h : l₁.length = l₂.length)
    (hab : a.toNat < b.toNat) : value (a :: l₁) < value (b :: l₂) := by
  have h₁ := value_lt l₁
  have hstep : (a.toNat + 1) * 256 ^ l₁.length ≤ b.toNat * 256 ^ l₁.length :=
    Nat.mul_le_mul_right _ hab
  rw [value_cons, value_cons, ← h]
  rw [Nat.succ_mul] at hstep
  omega

/-- On strings of one length, the lexicographic order is the numeric order. -/
theorem lt_iff_value_lt : ∀ {l₁ l₂ : List UInt8}, l₁.length = l₂.length →
    (l₁ < l₂ ↔ value l₁ < value l₂)
  | [], [], _ => by simp
  | a :: l₁, b :: l₂, h => by
      simp only [List.length_cons, Nat.add_right_cancel_iff] at h
      have ih := lt_iff_value_lt h
      rw [ListOrder.cons_lt_cons_iff, ih, UInt8.lt_iff_toNat_lt, ← UInt8.toNat_inj]
      constructor
      · rintro (hab | ⟨hab, hl⟩)
        · exact value_cons_lt_of_lt h hab
        · rw [value_cons, value_cons, hab, h]
          omega
      · intro hv
        rcases lt_trichotomy a.toNat b.toNat with hab | hab | hab
        · exact .inl hab
        · refine .inr ⟨hab, ?_⟩
          rw [value_cons, value_cons, hab, h] at hv
          omega
        · exact absurd hv (not_lt.mpr (le_of_lt (value_cons_lt_of_lt h.symm hab)))

/-! ### Unsigned 64-bit keys -/

/-- `u64::to_be_bytes`. -/
def encodeU64 (n : UInt64) : List UInt8 := encode 8 n.toNat

/-- `read_u64::<BigEndian>` of exactly eight bytes (`ensure_slice_len_eq(data, 8)`). -/
def decodeU64 (data : List UInt8) : Option UInt64 :=
  if data.length = 8 then some (UInt64.ofNat (value data)) else none

@[simp] theorem length_encodeU64 (n : UInt64) : (encodeU64 n).length = 8 := length_encode 8 _

theorem value_encodeU64 (n : UInt64) : value (encodeU64 n) = n.toNat := by
  rw [encodeU64, value_encode, Nat.mod_eq_of_lt]
  exact lt_of_lt_of_eq n.toNat_lt (by decide)

@[simp] theorem decodeU64_encodeU64 (n : UInt64) : decodeU64 (encodeU64 n) = some n := by
  simp [decodeU64, value_encodeU64]

theorem encodeU64_injective : Function.Injective encodeU64 := fun a b h => by
  have := congrArg value h
  rwa [value_encodeU64, value_encodeU64, UInt64.toNat_inj] at this

/-- A pair of `u64`, each big-endian, the first one first. -/
def encodeU64Pair (k : UInt64 × UInt64) : List UInt8 := encodeU64 k.1 ++ encodeU64 k.2

/-- Decoding of `encodeU64Pair` (`ensure_slice_len_eq(data, 16)`, then the two halves). -/
def decodeU64Pair (data : List UInt8) : Option (UInt64 × UInt64) :=
  if data.length = 16 then
    some (UInt64.ofNat (value (data.take 8)), UInt64.ofNat (value (data.drop 8)))
  else none

/-- Big-endian `u64` keys sort as the numbers. -/
theorem encodeU64_lt_iff {a b : UInt64} : encodeU64 a < encodeU64 b ↔ a < b := by
  rw [lt_iff_value_lt (by simp), value_encodeU64, value_encodeU64, UInt64.lt_iff_toNat_lt]

/-- Pair keys sort as the pairs do, lexicographically: first by the first number, then by the
second. -/
theorem encodeU64Pair_lt_iff {k k' : UInt64 × UInt64} :
    encodeU64Pair k < encodeU64Pair k' ↔ k.1 < k'.1 ∨ (k.1 = k'.1 ∧ k.2 < k'.2) := by
  rw [encodeU64Pair, encodeU64Pair, ListOrder.append_lt_append_of_length_eq (by simp),
    encodeU64_lt_iff, encodeU64_lt_iff, encodeU64_injective.eq_iff]

@[simp] theorem decodeU64Pair_encodeU64Pair (k : UInt64 × UInt64) :
    decodeU64Pair (encodeU64Pair k) = some k := by
  have h₁ : (encodeU64 k.1 ++ encodeU64 k.2).take 8 = encodeU64 k.1 :=
    List.take_left' (length_encodeU64 _)
  have h₂ : (encodeU64 k.1 ++ encodeU64 k.2).drop 8 = encodeU64 k.2 :=
    List.drop_left' (length_encodeU64 _)
  simp [decodeU64Pair, encodeU64Pair, h₁, h₂, value_encodeU64]

end BigEndian

namespace LittleEndian

/-! ### Little-endian numerals -/

/-- The `w` bytes of `n` (taken modulo `256 ^ w`), least significant first: what
`to_le_bytes` produces for a `w`-byte unsigned integer. -/
def encode (w n : Nat) : List UInt8 := (BigEndian.encode w n).reverse

/-- The value of a byte string read least significant byte first (`from_le_bytes`). -/
def value (l : List UInt8) : Nat := BigEndian.value l.reverse

@[simp] theorem length_encode (w n : Nat) : (encode w n).length = w := by
  simp [encode]

theorem value_encode (w n : Nat) : value (encode w n) = n % 256 ^ w := by
  rw [value, encode, List.reverse_reverse, BigEndian.value_encode]

/-- `u128::to_le_bytes`. -/
def encodeU128 (n : BitVec 128) : List UInt8 := encode 16 n.toNat

/-- `u128::from_le_bytes` of sixteen bytes. -/
def decodeU128 (data : List UInt8) : BitVec 128 := BitVec.ofNat 128 (value data)

@[simp] theorem length_encodeU128 (n : BitVec 128) : (encodeU128 n).length = 16 :=
  length_encode 16 _

@[simp] theorem decodeU128_encodeU128 (n : BitVec 128) : decodeU128 (encodeU128 n) = n := by
  have hlt : n.toNat < 256 ^ 16 := lt_of_lt_of_eq n.isLt (by decide)
  rw [decodeU128, encodeU128, value_encode, Nat.mod_eq_of_lt hlt, BitVec.ofNat_toNat,
    BitVec.setWidth_eq]

end LittleEndian

/-- Unsigned 64-bit integers are ordered by their value: the order of a map keyed by `u64`. -/
instance u64LinearOrder : LinearOrder UInt64 where
  le_refl := UInt64.le_refl
  le_trans _ _ _ := UInt64.le_trans
  le_antisymm _ _ := UInt64.le_antisymm
  le_total := UInt64.le_total
  lt_iff_le_not_ge a b := by
    simp only [UInt64.le_iff_toNat_le, UInt64.lt_iff_toNat_lt]
    omega
  toDecidableLE := inferInstance
  toDecidableLT := inferInstance
  toDecidableEq := inferInstance
