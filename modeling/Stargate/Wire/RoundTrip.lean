import Stargate.Wire.Proto
import Stargate.Wallet.ChannelStm

/-!
# Stargate.Wire.RoundTrip

What a receiver decodes from the bytes a sender encodes. Each conversion's round trip follows
from the round trips of its fields: libra's byte conversions read back what they wrote, an
enumeration's `i32` reads back as its constructor, a list converted element by element reads
back as the list (`Except.mapM_comp_eq_ok`), and an optional signature is written as no bytes
exactly when it is absent.

The one field that does not come back is the expiration time of a channel transaction: it is
written as `as_secs()` and read as `Duration::from_secs`, so its nanoseconds are dropped
(`ChannelTransaction.tryFrom_toProto`). For a transaction whose expiration time is a whole
number of seconds, which is what `txn_expiration` produces, every channel message comes back
equal, and so does its transaction's hash. The router's messages come back equal byte for
byte, seeds included.
-/

variable (codec : LibraCodec)

/-- A whole number of seconds survives `as_secs` then `from_secs`. -/
theorem Duration.fromSecs_asSecs {d : Duration} (h : d.nanos = 0) : .fromSecs d.asSecs = d := by
  obtain ⟨secs, nanos⟩ := d
  cases h
  rfl

/-! ### Channel messages -/

@[simp] theorem ChannelOp.tryFrom_toProto (op : ChannelOp) :
    ChannelOp.tryFrom codec (op.toProto codec) = .ok op := by
  cases op <;> simp [ChannelOp.tryFrom, ChannelOp.toProto, Proto.ChannelOp.getOpType]

/-- A list of libra's transaction arguments comes back as it was. -/
theorem ChannelTransaction.args_round_trip (args : List TransactionArgument) :
    args.mapM ((fun a => Failure.lift (codec.transactionArgument.decode a)) ∘
      codec.transactionArgument.encode) = .ok args := by
  apply Except.mapM_comp_eq_ok
  intro a _
  simp

/-- A channel transaction comes back with its expiration time cut to whole seconds. -/
theorem ChannelTransaction.tryFrom_toProto (t : ChannelTransaction) :
    ChannelTransaction.tryFrom codec (t.toProto codec) =
      .ok { t with expirationTime := .fromSecs t.expirationTime.asSecs } := by
  simp [ChannelTransaction.tryFrom, ChannelTransaction.toProto, args_round_trip]

/-- The expiration time is the only field a channel transaction can lose. -/
theorem ChannelTransaction.tryFrom_toProto_of_whole {t : ChannelTransaction}
    (h : t.expirationTime.nanos = 0) : ChannelTransaction.tryFrom codec (t.toProto codec) = .ok t := by
  rw [tryFrom_toProto, Duration.fromSecs_asSecs h]

theorem ChannelTransactionProposal.tryFrom_toProto {p : ChannelTransactionProposal}
    (h : p.channelTxn.expirationTime.nanos = 0) :
    ChannelTransactionProposal.tryFrom codec (p.toProto codec) = .ok p := by
  simp [ChannelTransactionProposal.tryFrom, ChannelTransactionProposal.toProto,
    ChannelTransaction.tryFrom_toProto_of_whole codec h]

/-- The travel output signature comes back: a present one is written as its bytes, which are
never empty, and an absent one as no bytes. -/
@[simp] theorem ChannelTransactionSigs.tryFrom_toProto (s : ChannelTransactionSigs) :
    ChannelTransactionSigs.tryFrom codec (s.toProto codec) = .ok s := by
  obtain ⟨address, publicKey, payloadSignature, witnessDataHash, witnessSignature, travel⟩ := s
  cases travel with
  | none => simp [ChannelTransactionSigs.tryFrom, ChannelTransactionSigs.toProto]
  | some signature =>
      have hne : (codec.signature.encode signature).length ≠ 0 := by
        intro hzero
        exact codec.signature_ne_nil signature (List.eq_nil_of_length_eq_zero hzero)
      simp [ChannelTransactionSigs.tryFrom, ChannelTransactionSigs.toProto, hne]

theorem ChannelTransactionRequest.tryFrom_toProto {r : ChannelTransactionRequest}
    (h : r.channelTxn.expirationTime.nanos = 0) :
    ChannelTransactionRequest.tryFrom codec (r.toProto codec) = .ok r := by
  simp [ChannelTransactionRequest.tryFrom, ChannelTransactionRequest.toProto,
    ChannelTransactionProposal.tryFrom_toProto codec h]

theorem ChannelTransactionResponse.tryFrom_toProto {r : ChannelTransactionResponse}
    (h : r.proposal.channelTxn.expirationTime.nanos = 0) :
    ChannelTransactionResponse.tryFrom codec (r.toProto codec) = .ok r := by
  simp [ChannelTransactionResponse.tryFrom, ChannelTransactionResponse.toProto,
    ChannelTransactionProposal.tryFrom_toProto codec h]

@[simp] theorem NextHop.tryFrom_toProto (hop : NextHop) :
    NextHop.tryFrom codec (hop.toProto codec) = .ok hop := by
  simp [NextHop.tryFrom, NextHop.toProto]

theorem MultiHopChannelRequest.tryFrom_toProto {q : MultiHopChannelRequest}
    (h : q.request.channelTxn.expirationTime.nanos = 0) :
    MultiHopChannelRequest.tryFrom codec (q.toProto codec) = .ok q := by
  have hhops : q.hops.mapM (NextHop.tryFrom codec ∘ NextHop.toProto codec) = .ok q.hops :=
    Except.mapM_comp_eq_ok fun hop _ => NextHop.tryFrom_toProto codec hop
  simp [MultiHopChannelRequest.tryFrom, MultiHopChannelRequest.toProto, hhops,
    ChannelTransactionRequest.tryFrom_toProto codec h]

/-! ### Router messages -/

@[simp] theorem BalanceQueryRequest.tryFrom_toProto (m : BalanceQueryRequest) :
    BalanceQueryRequest.tryFrom codec (m.toProto codec) = .ok m := by
  simp [BalanceQueryRequest.tryFrom, BalanceQueryRequest.toProto]

@[simp] theorem BalanceQueryResponse.tryFrom_toProto (m : BalanceQueryResponse) :
    BalanceQueryResponse.tryFrom codec (m.toProto codec) = .ok m := by
  simp [BalanceQueryResponse.tryFrom, BalanceQueryResponse.toProto]

/-- A list of hops comes back as it was. -/
theorem BalanceQueryResponse.list_round_trip (l : List BalanceQueryResponse) :
    l.mapM (BalanceQueryResponse.tryFrom codec ∘ BalanceQueryResponse.toProto codec) = .ok l :=
  Except.mapM_comp_eq_ok fun m _ => tryFrom_toProto codec m

@[simp] theorem AntQueryMessage.tryFrom_toProto (m : AntQueryMessage) :
    AntQueryMessage.tryFrom codec (m.toProto codec) = .ok m := by
  simp [AntQueryMessage.tryFrom, AntQueryMessage.toProto, BalanceQueryResponse.list_round_trip]

@[simp] theorem AntFinalMessage.tryFrom_toProto (m : AntFinalMessage) :
    AntFinalMessage.tryFrom codec (m.toProto codec) = .ok m := by
  simp [AntFinalMessage.tryFrom, AntFinalMessage.toProto, BalanceQueryResponse.list_round_trip]

/-- A seed written by `to_le_bytes` has the sixteen bytes `copy_from_slice` wants. -/
@[simp] theorem copyFromSlice16_encodeU128 (n : BitVec 128) :
    copyFromSlice16 (LittleEndian.encodeU128 n) = .ok (LittleEndian.encodeU128 n) := by
  simp [copyFromSlice16]

@[simp] theorem ExchangeSeedMessageRequest.tryFrom_toProto (m : ExchangeSeedMessageRequest) :
    ExchangeSeedMessageRequest.tryFrom (m.toProto) = .ok m := by
  simp [ExchangeSeedMessageRequest.tryFrom, ExchangeSeedMessageRequest.toProto]

@[simp] theorem ExchangeSeedMessageResponse.tryFrom_toProto (m : ExchangeSeedMessageResponse) :
    ExchangeSeedMessageResponse.tryFrom (m.toProto) = .ok m := by
  simp [ExchangeSeedMessageResponse.tryFrom, ExchangeSeedMessageResponse.toProto]

@[simp] theorem RouterNetworkMessage.tryFrom_toProto (m : RouterNetworkMessage) :
    RouterNetworkMessage.tryFrom codec (m.toProto codec) = .ok m := by
  cases m <;> simp [RouterNetworkMessage.tryFrom, RouterNetworkMessage.toProto]

/-! ### From bytes to bytes -/

/-- Every router message comes back from its wire form equal to what was sent, byte for byte:
each of the six kinds, any seeds, any 33-byte `SValue` with its flag byte, any list of hops. -/
theorem router_messages_round_trip {W : Type} (prost : Conversion Proto.RouterNetworkMessage W)
    (m : RouterNetworkMessage) :
    RouterNetworkMessage.fromProtoBytes codec prost (m.intoProtoBytes codec prost) = .ok m := by
  simp [RouterNetworkMessage.fromProtoBytes, RouterNetworkMessage.intoProtoBytes]

/-- Every channel transaction request, response and multi-hop request whose transaction expires
at a whole second comes back from its wire form equal to what was sent; the receiver then hashes
the same transaction, so the proposer's signature verifies there as it did at the sender. -/
theorem channel_messages_round_trip (libra : Libra) :
    (∀ {W : Type} (prost : Conversion Proto.ChannelTransactionRequest W)
      (r : ChannelTransactionRequest), r.channelTxn.expirationTime.nanos = 0 →
        ChannelTransactionRequest.fromProtoBytes codec prost (r.intoProtoBytes codec prost) =
          .ok r) ∧
    (∀ {W : Type} (prost : Conversion Proto.ChannelTransactionResponse W)
      (s : ChannelTransactionResponse), s.proposal.channelTxn.expirationTime.nanos = 0 →
        ChannelTransactionResponse.fromProtoBytes codec prost (s.intoProtoBytes codec prost) =
          .ok s) ∧
    (∀ {W : Type} (prost : Conversion Proto.MultiHopChannelRequest W)
      (q : MultiHopChannelRequest), q.request.channelTxn.expirationTime.nanos = 0 →
        MultiHopChannelRequest.fromProtoBytes codec prost (q.intoProtoBytes codec prost) =
          .ok q) ∧
    (∀ {W : Type} (prost : Conversion Proto.ChannelTransactionRequest W)
      (r r' : ChannelTransactionRequest), r.channelTxn.expirationTime.nanos = 0 →
        ChannelTransactionRequest.fromProtoBytes codec prost (r.intoProtoBytes codec prost) =
          .ok r' →
        libra.hashChannelTxn r'.channelTxn = libra.hashChannelTxn r.channelTxn ∧
        libra.verify r'.proposal.proposerPublicKey (libra.hashChannelTxn r'.channelTxn)
            r'.proposal.proposerSignature =
          libra.verify r.proposal.proposerPublicKey (libra.hashChannelTxn r.channelTxn)
            r.proposal.proposerSignature) := by
  have hrequest : ∀ {W : Type} (prost : Conversion Proto.ChannelTransactionRequest W)
      (r : ChannelTransactionRequest), r.channelTxn.expirationTime.nanos = 0 →
        ChannelTransactionRequest.fromProtoBytes codec prost (r.intoProtoBytes codec prost) =
          .ok r := by
    intro W prost r h
    simp [ChannelTransactionRequest.fromProtoBytes, ChannelTransactionRequest.intoProtoBytes,
      ChannelTransactionRequest.tryFrom_toProto codec h]
  refine ⟨hrequest, ?_, ?_, ?_⟩
  · intro W prost s h
    simp [ChannelTransactionResponse.fromProtoBytes, ChannelTransactionResponse.intoProtoBytes,
      ChannelTransactionResponse.tryFrom_toProto codec h]
  · intro W prost q h
    simp [MultiHopChannelRequest.fromProtoBytes, MultiHopChannelRequest.intoProtoBytes,
      MultiHopChannelRequest.tryFrom_toProto codec h]
  · -- what the receiver decodes is the request itself
    intro W prost r r' h hdecode
    rw [hrequest prost r h] at hdecode
    obtain rfl : r = r' := Except.ok.inj hdecode
    exact ⟨rfl, rfl⟩

/-! ### A codec to run them on -/

namespace LibraCodec

/-- Characters as four big-endian bytes each. -/
def encodeChars (cs : List Char) : List UInt8 := cs.flatMap fun c => BigEndian.encode 4 c.toNat

/-- Four bytes at a time back into characters. -/
def decodeChars : List UInt8 → List Char
  | a :: b :: c :: d :: rest => Char.ofNat (BigEndian.value [a, b, c, d]) :: decodeChars rest
  | _ => []

theorem decodeChars_encodeChars : ∀ cs : List Char, decodeChars (encodeChars cs) = cs
  | [] => rfl
  | c :: cs => by
      obtain ⟨a, b, d, e, hbytes⟩ :
          ∃ a b d e, BigEndian.encode 4 c.toNat = [a, b, d, e] := ⟨_, _, _, _, rfl⟩
      have hlt : c.toNat < 256 ^ 4 := lt_of_lt_of_eq c.val.toNat_lt (by decide)
      have hvalue : BigEndian.value [a, b, d, e] = c.toNat := by
        rw [← hbytes, BigEndian.value_encode, Nat.mod_eq_of_lt hlt]
      have hrest := decodeChars_encodeChars cs
      simp only [encodeChars, List.flatMap_cons, hbytes] at hrest ⊢
      simp [decodeChars, hvalue, hrest]

/-- libra's protobuf `TransactionArgument` as a sample conversion: the type tag of each kind,
then the argument's bytes. -/
def sampleArgument : Conversion TransactionArgument Proto.TransactionArgument where
  encode
    | .u64 n => ⟨0, BigEndian.encodeU64 n⟩
    | .address a => ⟨1, a⟩
    | .string s => ⟨2, encodeChars s.toList⟩
    | .byteArray b => ⟨3, b⟩
  decode arg :=
    if arg.argType = 0 then
      match BigEndian.decodeU64 arg.data with
      | some n => .ok (.u64 n)
      | none => .error "invalid u64"
    else if arg.argType = 1 then .ok (.address arg.data)
    else if arg.argType = 2 then .ok (.string (String.ofList (decodeChars arg.data)))
    else if arg.argType = 3 then .ok (.byteArray arg.data)
    else .error "invalid argument type"
  decode_encode a := by
    cases a <;> simp [decodeChars_encodeChars]

/-- Signatures written behind a tag byte, so that none is empty. -/
def sampleSignature : Conversion Signature (List UInt8) where
  encode s := 0 :: s
  decode
    | [] => .error "empty signature"
    | _ :: s => .ok s
  decode_encode _ := rfl

/-- A sample of libra's conversions: addresses, keys and hashes as their own bytes. -/
def sample : LibraCodec where
  accountAddress := .self
  publicKey := .self
  signature := sampleSignature
  hashValue := .self
  transactionArgument := sampleArgument
  signature_ne_nil _ := List.cons_ne_nil _ _

end LibraCodec

/-- A travelling request of `[1]` with arguments and a travel output signature, sent as its own
protobuf message: it comes back, and so do the response and a multi-hop request carrying it. -/
theorem channel_messages_round_trip_sample :
    ∃ r : ChannelTransactionRequest, r.channelTxn.expirationTime.nanos = 0 ∧
      r.channelTxn.args ≠ [] ∧ r.channelTxnSigs.travelOutputWitnessSignature.isSome ∧
      ChannelTransactionRequest.fromProtoBytes LibraCodec.sample .self
          (r.intoProtoBytes LibraCodec.sample .self) = .ok r ∧
      ChannelTransactionResponse.fromProtoBytes LibraCodec.sample .self
          (ChannelTransactionResponse.intoProtoBytes LibraCodec.sample .self
            ⟨r.proposal, r.channelTxnSigs⟩) = .ok ⟨r.proposal, r.channelTxnSigs⟩ ∧
      MultiHopChannelRequest.fromProtoBytes LibraCodec.sample .self
          (MultiHopChannelRequest.intoProtoBytes LibraCodec.sample .self ⟨r, [⟨[2], 3⟩]⟩) =
        .ok ⟨r, [⟨[2], 3⟩]⟩ ∧
      Libra.toy.hashChannelTxn r.channelTxn = Libra.toy.hashChannelTxn r.channelTxn ∧
      Libra.toy.verify r.proposal.proposerPublicKey (Libra.toy.hashChannelTxn r.channelTxn)
          r.proposal.proposerSignature =
        Libra.toy.verify r.proposal.proposerPublicKey (Libra.toy.hashChannelTxn r.channelTxn)
          r.proposal.proposerSignature :=
  ⟨⟨⟨⟨0, [9], 0, .open, [.u64 5, .string "a"], [1], 0, .fromSecs 7⟩, [1], [1, 1]⟩,
      ⟨[1], [1], [2], [3], [4], some [5]⟩, true⟩,
    rfl, List.cons_ne_nil _ _, rfl,
    (channel_messages_round_trip LibraCodec.sample Libra.toy).1 .self _ rfl,
    (channel_messages_round_trip LibraCodec.sample Libra.toy).2.1 .self _ rfl,
    (channel_messages_round_trip LibraCodec.sample Libra.toy).2.2.1 .self _ rfl,
    (channel_messages_round_trip LibraCodec.sample Libra.toy).2.2.2 .self _ _ rfl
      ((channel_messages_round_trip LibraCodec.sample Libra.toy).1 .self _ rfl)⟩
