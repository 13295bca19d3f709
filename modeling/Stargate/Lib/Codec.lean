import Mathlib.Logic.Function.Basic
import Mathlib.Logic.Equiv.List
import Mathlib.Data.Nat.Digits.Defs

/-!
# Stargate.Lib.Codec

Conversions between values and their wire form, each carrying its round-trip law, and how
the law of a composite format follows from the laws of its parts: a list converted element by
element (Rust's `iter().map(try_from).collect::<Result<Vec<_>>>()`) reads back as the list
(`mapM_comp_eq_ok`).

`Conversion.hexUpper` is a hexadecimal form of bytes, upper-case digits written and digits of
either case read, two per byte, high half first. `Conversion.tagged` writes any `Encodable`
value as bytes: a tag byte, then the base-256 digits of the value's code; reading checks the
tag, so formats with different tags read none of each other's bytes.

`Except.Avoids bad m` says that `m` never fails with an error of the class `bad`; decoders
use it with `bad` the panics. Its rules carry it through `bind` and `mapM`, so a decoder
built from parts that avoid a class avoids it too.
-/

/-- A conversion of `α` into the wire form `β` and back: reading may fail, and reading what
was written gives the value back. -/
structure Conversion (α β : Type) where
  encode : α → β
  decode : β → Except String α
  decode_encode : ∀ a, decode (encode a) = .ok a

namespace Conversion

variable {α β : Type}

attribute [simp] decode_encode

/-- A value as its own wire form, read back as it is. -/
def self : Conversion α α := ⟨fun a => a, .ok, fun _ => rfl⟩

/-! ### Hexadecimal -/

/-- The upper-case hexadecimal digit of a value below sixteen. -/
def hexDigitUpper (n : Nat) : Char :=
  if n < 10 then Char.ofNat (48 + n) else Char.ofNat (55 + n)

/-- The value of a hexadecimal digit of either case. -/
def hexValue (c : Char) : Option Nat :=
  if '0' ≤ c ∧ c ≤ '9' then some (c.toNat - 48)
  else if 'A' ≤ c ∧ c ≤ 'F' then some (c.toNat - 55)
  else if 'a' ≤ c ∧ c ≤ 'f' then some (c.toNat - 87)
  else none

/-- The two digits of a byte, high half first. -/
def hexPair (b : UInt8) : List Char := [hexDigitUpper (b.toNat / 16), hexDigitUpper (b.toNat % 16)]

/-- Read the digits two at a time; an odd count or a character that is no digit is an error. -/
def hexBytes : List Char → Except String (List UInt8)
  | [] => .ok []
  | [_] => .error "Odd number of digits"
  | hi :: lo :: rest =>
      match hexValue hi, hexValue lo with
      | some h, some l => (UInt8.ofNat (16 * h + l) :: ·) <$> hexBytes rest
      | _, _ => .error "Invalid character"

/-- Each of the sixteen digits reads back as its value. -/
theorem hexValue_hexDigitUpper {n : Nat} (h : n < 16) : hexValue (hexDigitUpper n) = some n := by
  have hdigits : ∀ m : Fin 16, hexValue (hexDigitUpper m) = some m := by decide
  exact hdigits ⟨n, h⟩

/-- The two digits of a byte read back as the byte. -/
theorem hexBytes_hexPair (b : UInt8) (rest : List Char) :
    hexBytes (hexPair b ++ rest) = (b :: ·) <$> hexBytes rest := by
  have hhigh : b.toNat / 16 < 16 := by
    have := b.toNat_lt
    omega
  have hlow : b.toNat % 16 < 16 := Nat.mod_lt _ (by decide)
  have hbyte : UInt8.ofNat (16 * (b.toNat / 16) + b.toNat % 16) = b := by
    rw [Nat.div_add_mod, UInt8.ofNat_toNat]
  simp only [hexPair, List.cons_append, List.nil_append, hexBytes,
    hexValue_hexDigitUpper hhigh, hexValue_hexDigitUpper hlow, hbyte]

/-- Hexadecimal with upper-case digits. -/
def hexUpper : Conversion (List UInt8) String where
  encode bytes := String.ofList (bytes.flatMap hexPair)
  decode s := hexBytes s.toList
  decode_encode bytes := by
    rw [String.toList_ofList]
    -- two digits at a time rebuild one byte, and the rest follows
    induction bytes with
    | nil => rfl
    | cons b bytes ih => rw [List.flatMap_cons, hexBytes_hexPair, ih]; rfl

/-! ### Bytes of an encodable value -/

/-- The base-256 digits of a number, least significant first. -/
def digitBytes (n : Nat) : List UInt8 := (Nat.digits 256 n).map Nat.toUInt8

/-- The number whose base-256 digits, least significant first, are the bytes. -/
def bytesValue (bytes : List UInt8) : Nat := Nat.ofDigits 256 (bytes.map UInt8.toNat)

theorem bytesValue_digitBytes (n : Nat) : bytesValue (digitBytes n) = n := by
  -- each digit is below 256, so it survives the round trip through a byte
  have hdigits : ((Nat.digits 256 n).map Nat.toUInt8).map UInt8.toNat = Nat.digits 256 n := by
    rw [List.map_map]
    conv_rhs => rw [← List.map_id (Nat.digits 256 n)]
    refine List.map_congr_left fun d hd => ?_
    have hlt : d < 256 := Nat.digits_lt_base (by decide) hd
    simp [Nat.toUInt8, Nat.mod_eq_of_lt hlt]
  rw [bytesValue, digitBytes, hdigits, Nat.ofDigits_digits]

/-- An encodable value as bytes behind the tag byte `tag`. -/
def tagged [Encodable α] (tag : UInt8) : Conversion α (List UInt8) where
  encode a := tag :: digitBytes (Encodable.encode a)
  decode
    | t :: bytes =>
      if t = tag then
        match Encodable.decode (bytesValue bytes) with
        | some a => .ok a
        | none => .error "unknown code"
      else .error "unknown tag"
    | [] => .error "no tag"
  decode_encode a := by simp [bytesValue_digitBytes, Encodable.encodek]

/-- Bytes written behind one tag do not read behind another. -/
theorem tagged_decode_encode_of_ne {γ : Type} [Encodable α] [Encodable γ] {tag tag' : UInt8}
    (h : tag ≠ tag') (a : α) :
    (tagged (α := γ) tag').decode ((tagged tag).encode a) = .error "unknown tag" :=
  if_neg h

end Conversion

/-! ### Codes of the machine types -/

instance UInt8.encodable : Encodable UInt8 :=
  Encodable.ofLeftInjection UInt8.toNat (fun n => some n.toUInt8) fun _ => by simp

instance UInt32.encodable : Encodable UInt32 :=
  Encodable.ofLeftInjection UInt32.toNat (fun n => some n.toUInt32) fun _ => by simp

instance UInt64.encodable : Encodable UInt64 :=
  Encodable.ofLeftInjection UInt64.toNat (fun n => some n.toUInt64) fun _ => by simp

instance Int32.encodable : Encodable Int32 :=
  Encodable.ofLeftInjection Int32.toInt (fun n => some (Int32.ofInt n)) fun _ => by simp

instance Char.encodable : Encodable Char :=
  Encodable.ofLeftInjection Char.toNat (fun n => some (Char.ofNat n)) fun _ => by simp

instance String.encodable : Encodable String :=
  Encodable.ofLeftInjection String.toList (fun l => some (String.ofList l)) fun _ => by simp

namespace Except

variable {ε α β γ : Type}

@[simp] theorem ok_bind (a : α) (f : α → Except ε β) : (Except.ok a >>= f) = f a := rfl

/-- A list written element by element reads back element by element. -/
theorem mapM_comp_eq_ok {f : α → β} {g : β → Except ε α} :
    ∀ {l : List α}, (∀ a ∈ l, g (f a) = .ok a) → l.mapM (g ∘ f) = .ok l
  | [], _ => rfl
  | a :: l, h => by
      have ha : g (f a) = .ok a := h a List.mem_cons_self
      have hl : l.mapM (g ∘ f) = .ok l := mapM_comp_eq_ok fun b hb => h b (List.mem_cons_of_mem a hb)
      simp only [List.mapM_cons, Function.comp_apply, ha, hl]
      rfl

/-- `m` never fails with an error of the class `bad`. -/
def Avoids (bad : ε → Prop) (m : Except ε α) : Prop :=
  ∀ e, m = .error e → ¬ bad e

variable {bad : ε → Prop}

@[simp] theorem avoids_ok (a : α) : (Except.ok a : Except ε α).Avoids bad := by
  intro e h
  cases h

@[simp] theorem avoids_pure (a : α) : (pure a : Except ε α).Avoids bad := avoids_ok a

theorem avoids_bind {m : Except ε α} {f : α → Except ε β} (hm : m.Avoids bad)
    (hf : ∀ a, m = .ok a → (f a).Avoids bad) : (m >>= f).Avoids bad := by
  cases m with
  | error e =>
    intro e' he
    have hfirst : (Except.error e : Except ε α) >>= f = .error e := rfl
    rw [hfirst] at he
    cases he
    exact hm e rfl
  | ok a => exact hf a rfl

theorem avoids_mapM {f : α → Except ε β} :
    ∀ {l : List α}, (∀ a ∈ l, (f a).Avoids bad) → (l.mapM f).Avoids bad
  | [], _ => avoids_pure []
  | a :: l, h => by
      rw [List.mapM_cons]
      refine avoids_bind (h a List.mem_cons_self) fun b _ => ?_
      refine avoids_bind (avoids_mapM fun c hc => h c (List.mem_cons_of_mem a hc)) fun bs _ => ?_
      exact avoids_pure (b :: bs)

theorem avoids_map {m : Except ε α} (f : α → β) (hm : m.Avoids bad) : (f <$> m).Avoids bad := by
  cases m with
  | error e =>
    intro e' he
    cases he
    exact hm e rfl
  | ok a => exact avoids_ok (f a)

end Except
