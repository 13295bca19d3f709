import Stargate.Types.Message
import Stargate.Storage.Stores
import Stargate.Lib.Codec
import Mathlib.Tactic.DeriveEncodable

/-!
# Stargate.Wire.Proto

The protobuf form of the messages (src/sgtypes/src/proto, as prost generates it) and the
hand-written conversions between it and the message types: `TryFrom<proto::T> for T` is
`T.tryFrom`, `From<T> for proto::T` is `T.toProto`.

A prost message is a structure whose sub-messages are `Option`s, whose `bytes` fields are byte
lists of any length and whose enumerations are stored as `i32`. A conversion reads each field
in the source's order: a byte conversion of libra's (`LibraCodec`) that fails is an `Err`, and
an `unwrap` of an absent sub-message or a `copy_from_slice` from a field of the wrong length is a
panic.

libra's byte conversions are a parameter: account addresses, Ed25519 keys and signatures,
hashes, and the protobuf form of `TransactionArgument`. Each carries its round-trip law, and
an encoded signature is never empty (an Ed25519 signature is 64 bytes).
-/

namespace Proto

/-- libra's protobuf `TransactionArgument`: its type tag and its bytes. -/
structure TransactionArgument where
  argType : Int32
  data : List UInt8
  deriving DecidableEq, Encodable

/-- `ChannelOpType`. -/
inductive ChannelOpType where
  | open
  | execute
  | action
  | close
  deriving DecidableEq, Repr

/-- The `i32` prost stores for a `ChannelOpType`. -/
def ChannelOpType.toI32 : ChannelOpType → Int32
  | .open => 0
  | .execute => 1
  | .action => 2
  | .close => 3

/-- `ChannelOpType::from_i32`. -/
def ChannelOpType.fromI32 (n : Int32) : Option ChannelOpType :=
  match n with
  | 0 => some .open
  | 1 => some .execute
  | 2 => some .action
  | 3 => some .close
  | _ => none

@[simp] theorem ChannelOpType.fromI32_toI32 (t : ChannelOpType) : fromI32 t.toI32 = some t := by
  cases t <;> rfl

/-- `proto::ChannelOp`. -/
structure ChannelOp where
  opType : Int32
  packageName : String
  scriptName : String
  moduleAddress : List UInt8
  moduleName : String
  functionName : String
  deriving DecidableEq, Encodable

/-- `ChannelOp::op_type()`: an unknown value reads as the default, `Open`. -/
def ChannelOp.getOpType (op : ChannelOp) : ChannelOpType :=
  (ChannelOpType.fromI32 op.opType).getD .open

/-- `proto::ChannelOp::default()`. -/
def ChannelOp.default : ChannelOp := ⟨0, "", "", [], "", ""⟩

/-- `proto::ChannelTransaction`. -/
structure ChannelTransaction where
  version : UInt64
  channelAddress : List UInt8
  channelSequenceNumber : UInt64
  operator : Option ChannelOp
  args : List TransactionArgument
  proposer : List UInt8
  sequenceNumber : UInt64
  expirationTime : UInt64
  deriving DecidableEq, Encodable

/-- `proto::ChannelTransactionProposal`. -/
structure ChannelTransactionProposal where
  channelTxn : Option ChannelTransaction
  proposerPublicKey : List UInt8
  proposerSignature : List UInt8
  deriving DecidableEq, Encodable

/-- `proto::ChannelTransactionSigs`. -/
structure ChannelTransactionSigs where
  address : List UInt8
  publicKey : List UInt8
  channelPayloadSignature : List UInt8
  witnessDataHash : List UInt8
  witnessDataSignature : List UInt8
  travelOutputWitnessSignature : List UInt8
  deriving DecidableEq, Encodable

/-- `proto::ChannelTransactionRequest`. -/
structure ChannelTransactionRequest where
  proposal : Option ChannelTransactionProposal
  channelTxnSigs : Option ChannelTransactionSigs
  travel : Bool
  deriving DecidableEq, Encodable

/-- `proto::ChannelTransactionResponse`. -/
structure ChannelTransactionResponse where
  proposal : Option ChannelTransactionProposal
  channelTxnSigs : Option ChannelTransactionSigs
  deriving DecidableEq, Encodable

/-- `proto::NextHop`. -/
structure NextHop where
  remoteAddr : List UInt8
  amount : UInt64
  deriving DecidableEq, Encodable

/-- `proto::MultiHopChannelRequest`. -/
structure MultiHopChannelRequest where
  request : Option ChannelTransactionRequest
  hops : List NextHop
  deriving DecidableEq, Encodable

/-- `proto::BalanceQueryRequest`. -/
structure BalanceQueryRequest where
  localAddr : List UInt8
  remoteAddr : List UInt8
  deriving DecidableEq, Encodable

/-- `proto::BalanceQueryResponse`. -/
structure BalanceQueryResponse where
  localAddr : List UInt8
  localBalance : UInt64
  remoteAddr : List UInt8
  remoteBalance : UInt64
  totalPayAmount : UInt64
  deriving DecidableEq, Encodable

/-- `proto::ExchangeSeedMessageRequest`. -/
structure ExchangeSeedMessageRequest where
  senderSeed : List UInt8
  deriving DecidableEq, Encodable

/-- `proto::ExchangeSeedMessageResponse`. -/
structure ExchangeSeedMessageResponse where
  senderSeed : List UInt8
  receiverSeed : List UInt8
  deriving DecidableEq, Encodable

/-- `proto::AntQueryMessage`. -/
structure AntQueryMessage where
  sValue : List UInt8
  senderAddr : List UInt8
  balanceQueryResponseList : List BalanceQueryResponse
  deriving DecidableEq, Encodable

/-- `proto::AntFinalMessage`. -/
structure AntFinalMessage where
  rValue : List UInt8
  balanceQueryResponseList : List BalanceQueryResponse
  deriving DecidableEq, Encodable

/-- The `oneof router_message_items`. -/
inductive RouterMessageItems where
  | exchangeSeedRequest (m : ExchangeSeedMessageRequest)
  | exchangeSeedResponse (m : ExchangeSeedMessageResponse)
  | antQueryMessage (m : AntQueryMessage)
  | antFinalMessage (m : AntFinalMessage)
  | balanceQueryRequest (m : BalanceQueryRequest)
  | balanceQueryResponse (m : BalanceQueryResponse)
  deriving DecidableEq, Encodable

/-- `proto::RouterNetworkMessage`. -/
structure RouterNetworkMessage where
  routerMessageItems : Option RouterMessageItems
  deriving DecidableEq, Encodable

/-- `proto::ErrorMessage`. -/
structure ErrorMessage where
  rawTransactionHash : List UInt8
  errorCode : UInt32
  errorMessage : String
  deriving DecidableEq, Encodable

end Proto

/-- libra's conversions the proto conversions call: `AccountAddress::try_from` and `to_vec`,
`Ed25519PublicKey::try_from` and `Ed25519Signature::try_from` with `to_bytes`,
`HashValue::from_slice` and `to_vec`, and the protobuf conversion of `TransactionArgument`. -/
structure LibraCodec where
  accountAddress : Conversion AccountAddress (List UInt8)
  publicKey : Conversion PublicKey (List UInt8)
  signature : Conversion Signature (List UInt8)
  hashValue : Conversion HashValue (List UInt8)
  transactionArgument : Conversion TransactionArgument Proto.TransactionArgument
  /-- An Ed25519 signature is 64 bytes, never empty. -/
  signature_ne_nil : ∀ s, signature.encode s ≠ []

/-- `Option::unwrap`: a panic on `None`. -/
def Failure.unwrap {α : Type} : Option α → Except Failure α
  | some a => .ok a
  | none => .error (.panic "called Option::unwrap() on a None value")

/-- `ok_or_else(|| format_err!(..))?`: an `Err` on `None`. -/
def Failure.okOr {α : Type} (message : String) : Option α → Except Failure α
  | some a => .ok a
  | none => .error (.error message)

/-- `copy_from_slice` into a sixteen-byte array: a panic unless the slice has sixteen bytes. -/
def copyFromSlice16 (bytes : List UInt8) : Except Failure (List UInt8) :=
  if bytes.length = 16 then .ok bytes
  else .error (.panic "source slice length does not match destination slice length")

@[simp] theorem Failure.unwrap_some {α : Type} (a : α) : Failure.unwrap (some a) = .ok a := rfl

@[simp] theorem Failure.okOr_some {α : Type} (m : String) (a : α) :
    Failure.okOr m (some a) = .ok a := rfl

/-- `T::from_proto_bytes`: prost's decoding of the wire form, then `TryFrom`. Prost is a
parameter: any conversion of the protobuf message to a wire form whose decoding inverts its
encoding. -/
def protoDecode {P M W : Type} (prost : Conversion P W) (tryFrom : P → Except Failure M)
    (buf : W) : Except Failure M := do
  tryFrom (← Failure.lift (prost.decode buf))

/-- `T::into_proto_bytes`: `From`, then prost's encoding (`MessageExt::to_vec` reserves the
encoded length, so it does not fail). -/
def protoEncode {P M W : Type} (prost : Conversion P W) (toProto : M → P) (m : M) : W :=
  prost.encode (toProto m)

@[simp] theorem protoDecode_protoEncode {P M W : Type} (prost : Conversion P W)
    (tryFrom : P → Except Failure M) (toProto : M → P) (m : M) :
    protoDecode prost tryFrom (protoEncode prost toProto m) = tryFrom (toProto m) := by
  simp [protoDecode, protoEncode]

variable (codec : LibraCodec)

/-! ### Channel transactions -/

namespace ChannelOp

/-- `TryFrom<proto::ChannelOp> for ChannelOp`, by `op_type()`. -/
def tryFrom (proto : Proto.ChannelOp) : Except Failure ChannelOp :=
  match proto.getOpType with
  | .open => .ok .open
  | .execute => .ok (.execute proto.packageName proto.scriptName)
  | .action => do
      let moduleAddress ← Failure.lift (codec.accountAddress.decode proto.moduleAddress)
      pure (.action moduleAddress proto.moduleName proto.functionName)
  | .close => .ok .close

/-- `From<ChannelOp> for proto::ChannelOp`: the default message with the operation's fields
set. -/
def toProto : ChannelOp → Proto.ChannelOp
  | .open => { Proto.ChannelOp.default with opType := Proto.ChannelOpType.open.toI32 }
  | .execute packageName scriptName =>
      { Proto.ChannelOp.default with
        packageName, scriptName, opType := Proto.ChannelOpType.execute.toI32 }
  | .action moduleAddress moduleName functionName =>
      { Proto.ChannelOp.default with
        opType := Proto.ChannelOpType.action.toI32
        moduleAddress := codec.accountAddress.encode moduleAddress
        moduleName, functionName }
  | .close => { Proto.ChannelOp.default with opType := Proto.ChannelOpType.close.toI32 }

end ChannelOp

namespace ChannelTransaction

/-- `TryFrom<proto::ChannelTransaction> for ChannelTransaction`: the operator is unwrapped,
and the expiration time is `Duration::from_secs` of the stored seconds. -/
def tryFrom (value : Proto.ChannelTransaction) : Except Failure ChannelTransaction := do
  let version := value.version
  let channelAddress ← Failure.lift (codec.accountAddress.decode value.channelAddress)
  let channelSequenceNumber := value.channelSequenceNumber
  let proposer ← Failure.lift (codec.accountAddress.decode value.proposer)
  let sequenceNumber := value.sequenceNumber
  let operator ← ChannelOp.tryFrom codec (← Failure.unwrap value.operator)
  let args ← value.args.mapM fun a => Failure.lift (codec.transactionArgument.decode a)
  let expirationTime := Duration.fromSecs value.expirationTime
  pure ⟨version, channelAddress, channelSequenceNumber, operator, args, proposer, sequenceNumber,
    expirationTime⟩

/-- `From<ChannelTransaction> for proto::ChannelTransaction`: the expiration time is
`as_secs()`. -/
def toProto (value : ChannelTransaction) : Proto.ChannelTransaction :=
  ⟨value.version, codec.accountAddress.encode value.channelAddress, value.channelSequenceNumber,
    some (ChannelOp.toProto codec value.operator), value.args.map codec.transactionArgument.encode,
    codec.accountAddress.encode value.proposer, value.sequenceNumber,
    value.expirationTime.asSecs⟩

end ChannelTransaction

namespace ChannelTransactionProposal

/-- `TryFrom<proto::ChannelTransactionProposal>`: the transaction is unwrapped. -/
def tryFrom (value : Proto.ChannelTransactionProposal) :
    Except Failure ChannelTransactionProposal := do
  let channelTxn ← ChannelTransaction.tryFrom codec (← Failure.unwrap value.channelTxn)
  let proposerPublicKey ← Failure.lift (codec.publicKey.decode value.proposerPublicKey)
  let proposerSignature ← Failure.lift (codec.signature.decode value.proposerSignature)
  pure ⟨channelTxn, proposerPublicKey, proposerSignature⟩

/-- `From<ChannelTransactionProposal>`. -/
def toProto (value : ChannelTransactionProposal) : Proto.ChannelTransactionProposal :=
  ⟨some (ChannelTransaction.toProto codec value.channelTxn),
    codec.publicKey.encode value.proposerPublicKey, codec.signature.encode value.proposerSignature⟩

end ChannelTransactionProposal

namespace ChannelTransactionSigs

/-- `TryFrom<proto::ChannelTransactionSigs>`: an empty travel output signature is `None`. -/
def tryFrom (proto : Proto.ChannelTransactionSigs) : Except Failure ChannelTransactionSigs := do
  let address ← Failure.lift (codec.accountAddress.decode proto.address)
  let publicKey ← Failure.lift (codec.publicKey.decode proto.publicKey)
  let channelPayloadSignature ←
    Failure.lift (codec.signature.decode proto.channelPayloadSignature)
  let witnessDataHash ← Failure.lift (codec.hashValue.decode proto.witnessDataHash)
  let witnessDataSignature ← Failure.lift (codec.signature.decode proto.witnessDataSignature)
  let travelOutputWitnessSignature ←
    if proto.travelOutputWitnessSignature.length = 0 then pure none
    else some <$> Failure.lift (codec.signature.decode proto.travelOutputWitnessSignature)
  pure ⟨address, publicKey, channelPayloadSignature, witnessDataHash, witnessDataSignature,
    travelOutputWitnessSignature⟩

/-- `From<ChannelTransactionSigs>`: an absent travel output signature is written as no bytes
(`unwrap_or_default`). -/
def toProto (txnSign : ChannelTransactionSigs) : Proto.ChannelTransactionSigs :=
  ⟨codec.accountAddress.encode txnSign.address, codec.publicKey.encode txnSign.publicKey,
    codec.signature.encode txnSign.channelPayloadSignature,
    codec.hashValue.encode txnSign.witnessDataHash,
    codec.signature.encode txnSign.witnessDataSignature,
    (txnSign.travelOutputWitnessSignature.map codec.signature.encode).getD []⟩

end ChannelTransactionSigs

namespace ChannelTransactionRequest

/-- `TryFrom<proto::ChannelTransactionRequest>`: proposal and signatures are unwrapped. -/
def tryFrom (value : Proto.ChannelTransactionRequest) :
    Except Failure ChannelTransactionRequest := do
  let proposal ← ChannelTransactionProposal.tryFrom codec (← Failure.unwrap value.proposal)
  let channelTxnSigs ← ChannelTransactionSigs.tryFrom codec (← Failure.unwrap value.channelTxnSigs)
  pure ⟨proposal, channelTxnSigs, value.travel⟩

/-- `From<ChannelTransactionRequest>`. -/
def toProto (value : ChannelTransactionRequest) : Proto.ChannelTransactionRequest :=
  ⟨some (ChannelTransactionProposal.toProto codec value.proposal),
    some (ChannelTransactionSigs.toProto codec value.channelTxnSigs), value.travel⟩

/-- `ChannelTransactionRequest::from_proto_bytes`. -/
def fromProtoBytes {W : Type} (prost : Conversion Proto.ChannelTransactionRequest W) (buf : W) :
    Except Failure ChannelTransactionRequest :=
  protoDecode prost (tryFrom codec) buf

/-- `ChannelTransactionRequest::into_proto_bytes`. -/
def intoProtoBytes {W : Type} (prost : Conversion Proto.ChannelTransactionRequest W) (value : ChannelTransactionRequest) : W :=
  protoEncode prost (toProto codec) value

end ChannelTransactionRequest

namespace ChannelTransactionResponse

/-- `TryFrom<proto::ChannelTransactionResponse>`: proposal and signatures are unwrapped. -/
def tryFrom (response : Proto.ChannelTransactionResponse) :
    Except Failure ChannelTransactionResponse := do
  let proposal ← ChannelTransactionProposal.tryFrom codec (← Failure.unwrap response.proposal)
  let channelTxnSigs ←
    ChannelTransactionSigs.tryFrom codec (← Failure.unwrap response.channelTxnSigs)
  pure ⟨proposal, channelTxnSigs⟩

/-- `From<ChannelTransactionResponse>`. -/
def toProto (response : ChannelTransactionResponse) : Proto.ChannelTransactionResponse :=
  ⟨some (ChannelTransactionProposal.toProto codec response.proposal),
    some (ChannelTransactionSigs.toProto codec response.channelTxnSigs)⟩

/-- `ChannelTransactionResponse::from_proto_bytes`. -/
def fromProtoBytes {W : Type} (prost : Conversion Proto.ChannelTransactionResponse W) (buf : W) :
    Except Failure ChannelTransactionResponse :=
  protoDecode prost (tryFrom codec) buf

/-- `ChannelTransactionResponse::into_proto_bytes`. -/
def intoProtoBytes {W : Type} (prost : Conversion Proto.ChannelTransactionResponse W) (value : ChannelTransactionResponse) : W :=
  protoEncode prost (toProto codec) value

end ChannelTransactionResponse

namespace NextHop

/-- `TryFrom<proto::NextHop>`. -/
def tryFrom (value : Proto.NextHop) : Except Failure NextHop := do
  let remoteAddr ← Failure.lift (codec.accountAddress.decode value.remoteAddr)
  pure ⟨remoteAddr, value.amount⟩

/-- `From<NextHop>`. -/
def toProto (value : NextHop) : Proto.NextHop :=
  ⟨codec.accountAddress.encode value.remoteAddr, value.amount⟩

end NextHop

namespace MultiHopChannelRequest

/-- `TryFrom<proto::MultiHopChannelRequest>`: the hops are converted first, but their error is
returned only after the request's. -/
def tryFrom (value : Proto.MultiHopChannelRequest) : Except Failure MultiHopChannelRequest := do
  let hops := value.hops.mapM (NextHop.tryFrom codec)
  let request ← ChannelTransactionRequest.tryFrom codec
    (← Failure.okOr "Missing request" value.request)
  pure ⟨request, ← hops⟩

/-- `From<MultiHopChannelRequest>`. -/
def toProto (value : MultiHopChannelRequest) : Proto.MultiHopChannelRequest :=
  ⟨some (ChannelTransactionRequest.toProto codec value.request),
    value.hops.map (NextHop.toProto codec)⟩

/-- `MultiHopChannelRequest::from_proto_bytes`. -/
def fromProtoBytes {W : Type} (prost : Conversion Proto.MultiHopChannelRequest W) (buf : W) :
    Except Failure MultiHopChannelRequest :=
  protoDecode prost (tryFrom codec) buf

/-- `MultiHopChannelRequest::into_proto_bytes`. -/
def intoProtoBytes {W : Type} (prost : Conversion Proto.MultiHopChannelRequest W) (value : MultiHopChannelRequest) : W :=
  protoEncode prost (toProto codec) value

end MultiHopChannelRequest

/-! ### The router's messages -/

namespace BalanceQueryRequest

/-- `TryFrom<proto::BalanceQueryRequest>`. -/
def tryFrom (value : Proto.BalanceQueryRequest) : Except Failure BalanceQueryRequest := do
  let localAddr ← Failure.lift (codec.accountAddress.decode value.localAddr)
  let remoteAddr ← Failure.lift (codec.accountAddress.decode value.remoteAddr)
  pure ⟨localAddr, remoteAddr⟩

/-- `From<BalanceQueryRequest>`. -/
def toProto (value : BalanceQueryRequest) : Proto.BalanceQueryRequest :=
  ⟨codec.accountAddress.encode value.localAddr, codec.accountAddress.encode value.remoteAddr⟩

end BalanceQueryRequest

namespace BalanceQueryResponse

/-- `TryFrom<proto::BalanceQueryResponse>`. -/
def tryFrom (value : Proto.BalanceQueryResponse) : Except Failure BalanceQueryResponse := do
  let localAddr ← Failure.lift (codec.accountAddress.decode value.localAddr)
  let remoteAddr ← Failure.lift (codec.accountAddress.decode value.remoteAddr)
  pure ⟨localAddr, remoteAddr, value.localBalance, value.remoteBalance, value.totalPayAmount⟩

/-- `From<BalanceQueryResponse>`. -/
def toProto (value : BalanceQueryResponse) : Proto.BalanceQueryResponse :=
  ⟨codec.accountAddress.encode value.localAddr, value.localBalance,
    codec.accountAddress.encode value.remoteAddr, value.remoteBalance, value.totalPayAmount⟩

end BalanceQueryResponse

namespace AntQueryMessage

/-- `TryFrom<proto::AntQueryMessage>`: the hops are converted first, their error returned
last. -/
def tryFrom (value : Proto.AntQueryMessage) : Except Failure AntQueryMessage := do
  let balanceQueryResponseList :=
    value.balanceQueryResponseList.mapM (BalanceQueryResponse.tryFrom codec)
  let sValue ← Failure.lift (SValue.tryFrom value.sValue)
  let senderAddr ← Failure.lift (codec.accountAddress.decode value.senderAddr)
  pure ⟨sValue, senderAddr, ← balanceQueryResponseList⟩

/-- `From<AntQueryMessage>`. -/
def toProto (value : AntQueryMessage) : Proto.AntQueryMessage :=
  ⟨value.sValue.toVec, codec.accountAddress.encode value.senderAddr,
    value.balanceQueryResponseList.map (BalanceQueryResponse.toProto codec)⟩

end AntQueryMessage

namespace ExchangeSeedMessageRequest

/-- `TryFrom<proto::ExchangeSeedMessageRequest>`: the seed is copied into sixteen bytes and
read little-endian. -/
def tryFrom (value : Proto.ExchangeSeedMessageRequest) :
    Except Failure ExchangeSeedMessageRequest := do
  let result ← copyFromSlice16 value.senderSeed
  pure ⟨LittleEndian.decodeU128 result⟩

/-- `From<ExchangeSeedMessageRequest>`. -/
def toProto (value : ExchangeSeedMessageRequest) : Proto.ExchangeSeedMessageRequest :=
  ⟨LittleEndian.encodeU128 value.senderSeed⟩

end ExchangeSeedMessageRequest

namespace ExchangeSeedMessageResponse

/-- `TryFrom<proto::ExchangeSeedMessageResponse>`: both seeds copied into sixteen bytes. -/
def tryFrom (value : Proto.ExchangeSeedMessageResponse) :
    Except Failure ExchangeSeedMessageResponse := do
  let senderSeed ← copyFromSlice16 value.senderSeed
  let receiverSeed ← copyFromSlice16 value.receiverSeed
  pure ⟨LittleEndian.decodeU128 senderSeed, LittleEndian.decodeU128 receiverSeed⟩

/-- `From<ExchangeSeedMessageResponse>`. -/
def toProto (value : ExchangeSeedMessageResponse) : Proto.ExchangeSeedMessageResponse :=
  ⟨LittleEndian.encodeU128 value.senderSeed, LittleEndian.encodeU128 value.receiverSeed⟩

end ExchangeSeedMessageResponse

namespace AntFinalMessage

/-- `TryFrom<proto::AntFinalMessage>`. -/
def tryFrom (value : Proto.AntFinalMessage) : Except Failure AntFinalMessage := do
  let balanceQueryResponseList :=
    value.balanceQueryResponseList.mapM (BalanceQueryResponse.tryFrom codec)
  let rValue ← Failure.lift (codec.hashValue.decode value.rValue)
  pure ⟨rValue, ← balanceQueryResponseList⟩

/-- `From<AntFinalMessage>`. -/
def toProto (value : AntFinalMessage) : Proto.AntFinalMessage :=
  ⟨codec.hashValue.encode value.rValue,
    value.balanceQueryResponseList.map (BalanceQueryResponse.toProto codec)⟩

end AntFinalMessage

namespace RouterNetworkMessage

/-- `TryFrom<proto::RouterNetworkMessage>`: by the item the `oneof` holds. -/
def tryFrom (proto : Proto.RouterNetworkMessage) : Except Failure RouterNetworkMessage := do
  let item ← Failure.okOr "Missing txn_response_items" proto.routerMessageItems
  match item with
  | .exchangeSeedRequest resp => .exchangeSeedMessageRequest <$> ExchangeSeedMessageRequest.tryFrom resp
  | .exchangeSeedResponse resp =>
      .exchangeSeedMessageResponse <$> ExchangeSeedMessageResponse.tryFrom resp
  | .antQueryMessage resp => .antQueryMessage <$> AntQueryMessage.tryFrom codec resp
  | .antFinalMessage resp => .antFinalMessage <$> AntFinalMessage.tryFrom codec resp
  | .balanceQueryRequest resp => .balanceQueryRequest <$> BalanceQueryRequest.tryFrom codec resp
  | .balanceQueryResponse resp =>
      .balanceQueryResponse <$> BalanceQueryResponse.tryFrom codec resp

/-- `From<RouterNetworkMessage>`. -/
def toProto (response : RouterNetworkMessage) : Proto.RouterNetworkMessage :=
  ⟨some <| match response with
    | .exchangeSeedMessageRequest r => .exchangeSeedRequest (ExchangeSeedMessageRequest.toProto r)
    | .exchangeSeedMessageResponse r =>
        .exchangeSeedResponse (ExchangeSeedMessageResponse.toProto r)
    | .antQueryMessage r => .antQueryMessage (AntQueryMessage.toProto codec r)
    | .antFinalMessage r => .antFinalMessage (AntFinalMessage.toProto codec r)
    | .balanceQueryRequest r => .balanceQueryRequest (BalanceQueryRequest.toProto codec r)
    | .balanceQueryResponse r => .balanceQueryResponse (BalanceQueryResponse.toProto codec r)⟩

/-- `RouterNetworkMessage::from_proto_bytes`. -/
def fromProtoBytes {W : Type} (prost : Conversion Proto.RouterNetworkMessage W) (buf : W) :
    Except Failure RouterNetworkMessage :=
  protoDecode prost (tryFrom codec) buf

/-- `RouterNetworkMessage::into_proto_bytes`. -/
def intoProtoBytes {W : Type} (prost : Conversion Proto.RouterNetworkMessage W) (value : RouterNetworkMessage) : W :=
  protoEncode prost (toProto codec) value

end RouterNetworkMessage

namespace ErrorMessage

/-- `TryFrom<proto::ErrorMessage>`. -/
def tryFrom (value : Proto.ErrorMessage) : Except Failure ErrorMessage := do
  let rawTransactionHash ← Failure.lift (codec.hashValue.decode value.rawTransactionHash)
  let errorCode ← Failure.lift (SgErrorCode.tryFromPrimitive value.errorCode)
  pure ⟨rawTransactionHash, ⟨errorCode, value.errorMessage⟩⟩

/-- `From<ErrorMessage>`. -/
def toProto (value : ErrorMessage) : Proto.ErrorMessage :=
  ⟨codec.hashValue.encode value.rawTransactionHash, value.error.errorCode.toU32,
    value.error.errorMessage⟩

/-- `ErrorMessage::from_proto_bytes`. -/
def fromProtoBytes {W : Type} (prost : Conversion Proto.ErrorMessage W) (buf : W) :
    Except Failure ErrorMessage :=
  protoDecode prost (tryFrom codec) buf

/-- `ErrorMessage::into_proto_bytes`. -/
def intoProtoBytes {W : Type} (prost : Conversion Proto.ErrorMessage W) (value : ErrorMessage) : W :=
  protoEncode prost (toProto codec) value

end ErrorMessage
