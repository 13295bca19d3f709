import Stargate.Storage.Stores
import Stargate.Lib.Codec
import Stargate.Lib.ByteOrder

/-!
# Stargate.Node.Invoice

An `Invoice` (src/node/node_internal/src/invoice.rs): the receiver, amount and hash lock of a
payment, handed to users as a string. `as_vec` lays it out as the receiver's `ADDRESS_LENGTH`
bytes, the amount's eight big-endian bytes and the hash lock; `String::from` writes that in
upper-case hexadecimal, and `Invoice::try_from(String)` decodes the hexadecimal and reads the
layout back by fixed slices. `Node::off_chain_pay_htlc_async_string` pays the invoice a user
hands it.

`ADDRESS_LENGTH` and `AccountAddress::try_from(&[u8])` are libra's, and the hexadecimal is the
`hex` crate's: the model takes them as parameters, with the laws the code relies on
(`AddressFormat`, and `Conversion` for `hex::encode_upper` and `hex::decode`).

Writing an invoice and reading it back gives the invoice (`invoice_round_trip`). Reading
checks neither the length of what the hexadecimal decodes to nor anything else before slicing:
fewer than `ADDRESS_LENGTH + 8` bytes put a slice end past the end of the buffer, and that
panics (`tryFromString_short_panics`); an empty string is one (`empty_invoice_panics`).
-/

open BigEndian

/-- libra's `ADDRESS_LENGTH`, and `AccountAddress::try_from(&[u8])`, which takes exactly
`ADDRESS_LENGTH` bytes as the address they are. -/
structure AddressFormat where
  addressLength : Nat
  tryFrom : List UInt8 → Result AccountAddress
  tryFrom_of_length : ∀ bytes, bytes.length = addressLength → tryFrom bytes = .ok bytes

/-- Addresses of `n` bytes, checked by their length. -/
def AddressFormat.ofLength (n : Nat) : AddressFormat where
  addressLength := n
  tryFrom bytes := if bytes.length = n then .ok bytes else .error "The Address is of invalid length"
  tryFrom_of_length _ h := if_pos h

/-- `&value[start..stop]`: the bytes from `start` to `stop`. Bounds out of order, or past the
end, panic with the messages of the toolchain the code builds with. -/
def sliceRange (value : List UInt8) (start stop : Nat) : Except Failure (List UInt8) :=
  let len := value.length
  if stop < start then .error (.panic s!"slice index starts at {start} but ends at {stop}")
  else if len < stop then .error (.panic s!"index {stop} out of range for slice of length {len}")
  else .ok ((value.take stop).drop start)

/-- `&value[start..]`, which is `&value[start..value.len()]`. -/
def sliceFrom (value : List UInt8) (start : Nat) : Except Failure (List UInt8) :=
  sliceRange value start value.length

theorem sliceRange_of_le {value : List UInt8} {start stop : Nat} (h₁ : start ≤ stop)
    (h₂ : stop ≤ value.length) :
    sliceRange value start stop = .ok ((value.take stop).drop start) := by
  simp only [sliceRange, if_neg (Nat.not_lt.mpr h₁), if_neg (Nat.not_lt.mpr h₂)]

/-- A slice ending past the end of the buffer panics. -/
theorem sliceRange_of_lt {value : List UInt8} {start stop : Nat} (h : value.length < stop) :
    ∃ message, sliceRange value start stop = .error (.panic message) := by
  unfold sliceRange
  dsimp only
  split_ifs
  · exact ⟨_, rfl⟩
  · exact ⟨_, rfl⟩

/-- An invoice: the hash lock, the amount and the receiver. -/
structure Invoice where
  rHash : List UInt8
  amount : UInt64
  receiver : AccountAddress
  deriving DecidableEq, Repr

namespace Invoice

variable (format : AddressFormat) (hex : Conversion (List UInt8) String)

/-- `Invoice::as_vec`. -/
def asVec (i : Invoice) : List UInt8 := i.receiver ++ encodeU64 i.amount ++ i.rHash

/-- `TryFrom<Vec<u8>> for Invoice`: the receiver, the big-endian amount and the hash lock,
each a slice at its fixed offset. -/
def tryFromBytes (value : List UInt8) : Except Failure Invoice := do
  let receiverBytes ← sliceRange value 0 format.addressLength
  let receiver ← Failure.lift (format.tryFrom receiverBytes)
  let amountBytes ← sliceRange value format.addressLength (format.addressLength + 8)
  let amount := UInt64.ofNat (BigEndian.value amountBytes)
  let rHash ← sliceFrom value (format.addressLength + 8)
  pure ⟨rHash, amount, receiver⟩

/-- `TryFrom<String> for Invoice`: `hex::decode`, then the bytes. -/
def tryFromString (value : String) : Except Failure Invoice := do
  let bytesValue ← Failure.lift (hex.decode value)
  tryFromBytes format bytesValue

/-- `From<Invoice> for String`: `hex::encode_upper` of `as_vec`. -/
def toString (i : Invoice) : String := hex.encode i.asVec

/-- The bytes of an invoice whose receiver is an address read back as the invoice. -/
theorem tryFromBytes_asVec (i : Invoice) (hreceiver : i.receiver.length = format.addressLength) :
    tryFromBytes format i.asVec = .ok i := by
  have hlength : i.asVec.length = format.addressLength + 8 + i.rHash.length := by
    simp only [asVec, List.length_append, length_encodeU64, hreceiver]
  -- each slice lies within the buffer and cuts it at a field's boundary
  have hreceiverBytes : (i.asVec.take format.addressLength).drop 0 = i.receiver := by
    rw [List.drop_zero, asVec, List.append_assoc, ← hreceiver, List.take_left]
  have hamountBytes :
      (i.asVec.take (format.addressLength + 8)).drop format.addressLength = encodeU64 i.amount := by
    rw [asVec, ← hreceiver, ← length_encodeU64 i.amount, ← List.length_append, List.take_left,
      List.drop_left]
  have hrHash : (i.asVec.take i.asVec.length).drop (format.addressLength + 8) = i.rHash := by
    rw [List.take_length, asVec, ← hreceiver, ← length_encodeU64 i.amount, ← List.length_append,
      List.drop_left]
  simp only [tryFromBytes, sliceFrom,
    sliceRange_of_le (Nat.zero_le format.addressLength)
      (by omega : format.addressLength ≤ i.asVec.length),
    sliceRange_of_le (Nat.le_add_right format.addressLength 8)
      (by omega : format.addressLength + 8 ≤ i.asVec.length),
    sliceRange_of_le (by omega : format.addressLength + 8 ≤ i.asVec.length) le_rfl,
    hreceiverBytes, hamountBytes, hrHash, Except.ok_bind, format.tryFrom_of_length _ hreceiver,
    Failure.lift_ok, value_encodeU64, UInt64.ofNat_toNat]
  rfl

/-- An invoice written as a string reads back as itself, for any receiver address, amount and
hash lock. -/
theorem invoice_round_trip (i : Invoice) (hreceiver : i.receiver.length = format.addressLength) :
    tryFromString format hex (toString hex i) = .ok i := by
  simp only [tryFromString, toString, hex.decode_encode, Failure.lift_ok]
  exact tryFromBytes_asVec format i hreceiver

/-- An invoice to `[1]`, with addresses of one byte and the `hex` crate's hexadecimal. -/
theorem invoice_round_trip_one :
    ([1] : AccountAddress).length = (AddressFormat.ofLength 1).addressLength ∧
      tryFromString (AddressFormat.ofLength 1) Conversion.hexUpper
          (toString Conversion.hexUpper ⟨[7], 5, [1]⟩) = .ok ⟨[7], 5, [1]⟩ :=
  ⟨rfl, invoice_round_trip _ _ ⟨[7], 5, [1]⟩ rfl⟩

/-- Fewer than `ADDRESS_LENGTH + 8` bytes put the end of the receiver's or the amount's slice
past the end of the buffer: reading them panics. -/
theorem tryFromBytes_short {value : List UInt8} (hshort : value.length < format.addressLength + 8) :
    ∃ message, tryFromBytes format value = .error (.panic message) := by
  by_cases hreceiver : value.length < format.addressLength
  · obtain ⟨message, hslice⟩ := @sliceRange_of_lt value 0 _ hreceiver
    exact ⟨message, by simp only [tryFromBytes, hslice]; rfl⟩
  · -- the receiver's slice is whole and reads as an address; the amount's runs past the end
    have hbytes : ((value.take format.addressLength).drop 0).length = format.addressLength := by
      simp only [List.drop_zero, List.length_take]
      omega
    obtain ⟨message, hslice⟩ := @sliceRange_of_lt value format.addressLength _ hshort
    refine ⟨message, ?_⟩
    simp only [tryFromBytes, sliceRange_of_le (Nat.zero_le _) (Nat.le_of_not_lt hreceiver),
      Except.ok_bind, format.tryFrom_of_length _ hbytes, Failure.lift_ok, hslice]
    rfl

/-- A string whose hexadecimal decodes to fewer than `ADDRESS_LENGTH + 8` bytes makes reading
the invoice panic. -/
theorem tryFromString_short_panics {value : String} {bytes : List UInt8}
    (hdecode : hex.decode value = .ok bytes) (hshort : bytes.length < format.addressLength + 8) :
    ∃ message, tryFromString format hex value = .error (.panic message) := by
  simp only [tryFromString, hdecode, Failure.lift_ok, Except.ok_bind]
  exact tryFromBytes_short format hshort

end Invoice

namespace Node

variable (format : AddressFormat) (hex : Conversion (List UInt8) String)

/-- `Node::off_chain_pay_htlc_async_string`: the invoice a user hands over, paid through
`off_chain_pay_htlc_async` (an argument here) with a timeout of `20000`. -/
def offChainPayHtlcAsyncString {β : Type}
    (offChainPayHtlcAsync : AccountAddress → UInt64 → List UInt8 → UInt64 → Except Failure β)
    (encodedInvoice : String) : Except Failure β := do
  let invoice ← Invoice.tryFromString format hex encodedInvoice
  offChainPayHtlcAsync invoice.receiver invoice.amount invoice.rHash 20000

/-- A node handed an invoice string that decodes to too few bytes panics before it pays. -/
theorem offChainPayHtlcAsyncString_short {β : Type}
    (offChainPayHtlcAsync : AccountAddress → UInt64 → List UInt8 → UInt64 → Except Failure β)
    {encodedInvoice : String} {bytes : List UInt8} (hdecode : hex.decode encodedInvoice = .ok bytes)
    (hshort : bytes.length < format.addressLength + 8) :
    ∃ message, offChainPayHtlcAsyncString format hex offChainPayHtlcAsync encodedInvoice =
      .error (.panic message) := by
  obtain ⟨message, hread⟩ := Invoice.tryFromString_short_panics format hex hdecode hshort
  exact ⟨message, by rw [offChainPayHtlcAsyncString, hread]; rfl⟩

/-- The invoice string `"0102"`, two bytes, with addresses of one byte. -/
theorem offChainPayHtlcAsyncString_short_two :
    Conversion.hexUpper.decode "0102" = .ok [1, 2] ∧
      ([1, 2] : List UInt8).length < (AddressFormat.ofLength 1).addressLength + 8 ∧
      ∃ message, offChainPayHtlcAsyncString (AddressFormat.ofLength 1) Conversion.hexUpper
          (fun _ _ _ _ => (.ok () : Except Failure Unit)) "0102" = .error (.panic message) :=
  have hdecode : Conversion.hexUpper.decode "0102" = .ok [1, 2] := by decide
  have hshort : ([1, 2] : List UInt8).length < (AddressFormat.ofLength 1).addressLength + 8 := by
    decide
  ⟨hdecode, hshort, offChainPayHtlcAsyncString_short _ _ _ hdecode hshort⟩

/-- The empty string, handed to a node as an invoice, with addresses of 32 bytes and the `hex`
crate's hexadecimal: it decodes to no byte, and the receiver's slice panics. -/
theorem empty_invoice_panics {β : Type}
    (offChainPayHtlcAsync : AccountAddress → UInt64 → List UInt8 → UInt64 → Except Failure β) :
    offChainPayHtlcAsyncString (AddressFormat.ofLength 32) Conversion.hexUpper offChainPayHtlcAsync
      "" = .error (.panic "index 32 out of range for slice of length 0") := rfl

end Node
