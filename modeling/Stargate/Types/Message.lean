import Stargate.Types.Channel
import Stargate.Lib.ByteOrder

/-!
# Stargate.Types.Message

The messages nodes send each other (src/sgtypes/src/message.rs and s_value.rs, with the
request and response of channel_transaction.rs): a channel transaction request and its
response, the multi-hop request with the hops still ahead, the router's messages, and the
error message.

`SValue` is the seed of an ant-router query: 33 bytes, the first flagging the sender's seed
(`0`) or the receiver's. Its `PartialEq` compares bytes `1..33` only, while its derived `Hash`
covers all 33; `SValue.eq` is that `PartialEq`, and Lean's `=` on `SValue` (and on the
messages carrying one) compares every byte.
-/

/-- `ChannelTransactionRequest`: a proposal, its proposer's signatures, and whether the
transaction travels on chain. -/
structure ChannelTransactionRequest where
  proposal : ChannelTransactionProposal
  channelTxnSigs : ChannelTransactionSigs
  travel : Bool
  deriving DecidableEq

/-- `ChannelTransactionRequest::channel_txn`. -/
def ChannelTransactionRequest.channelTxn (r : ChannelTransactionRequest) : ChannelTransaction :=
  r.proposal.channelTxn

/-- `ChannelTransactionResponse`: a proposal with the responder's signatures. -/
structure ChannelTransactionResponse where
  proposal : ChannelTransactionProposal
  channelTxnSigs : ChannelTransactionSigs
  deriving DecidableEq

/-- `NextHop`: the next node of a multi-hop payment and the amount to send it. -/
structure NextHop where
  remoteAddr : AccountAddress
  amount : UInt64
  deriving DecidableEq, Repr

/-- `MultiHopChannelRequest`: a payment request and the hops after its receiver. -/
structure MultiHopChannelRequest where
  request : ChannelTransactionRequest
  hops : List NextHop
  deriving DecidableEq

/-! ### Seeds -/

/-- `SValue`: 33 bytes (`S_VALUE_LENGTH`). -/
structure SValue where
  bytes : List UInt8
  length_eq : bytes.length = 33
  deriving DecidableEq

namespace SValue

/-- `SValue::to_vec`. -/
def toVec (s : SValue) : List UInt8 := s.bytes

/-- `self.0[0]`, the flag byte. -/
def flag (s : SValue) : UInt8 := s.bytes.headD 0

/-- `SValue::is_sender`. -/
def isSender (s : SValue) : Bool := s.flag == 0

/-- `SValue::get_peer`: the same seed with the flag byte flipped between `0` and `1`. -/
def getPeer (s : SValue) : SValue :=
  ⟨s.bytes.set 0 (if s.flag = 0 then 1 else 0), by rw [List.length_set, s.length_eq]⟩

/-- `PartialEq for SValue`: bytes `1..33` agree; the flag byte is not compared. -/
def eq (s t : SValue) : Bool := s.bytes.drop 1 == t.bytes.drop 1

/-- `TryFrom<Vec<u8>> for SValue`: exactly 33 bytes. -/
def tryFrom (bytes : List UInt8) : Except String SValue :=
  if h : bytes.length = 33 then .ok ⟨bytes, h⟩ else .error "The Address is of invalid length"

@[simp] theorem tryFrom_toVec (s : SValue) : tryFrom s.toVec = .ok s := by
  simp [tryFrom, toVec, s.length_eq]

@[simp] theorem tail_getPeer (s : SValue) : s.getPeer.bytes.tail = s.bytes.tail := by
  obtain ⟨_ | ⟨b, bs⟩, h⟩ := s
  · cases h
  · rfl

/-- The source's `==` cannot tell a seed from its conjugate. -/
@[simp] theorem eq_getPeer_right (s t : SValue) : s.eq t.getPeer = s.eq t := by
  simp [eq]

/-- On a seed flagged `0` or `1`, `get_peer` undoes itself. -/
theorem getPeer_getPeer {s : SValue} (h : s.flag = 0 ∨ s.flag = 1) : s.getPeer.getPeer = s := by
  obtain ⟨_ | ⟨b, bs⟩, hlen⟩ := s
  · cases hlen
  · simp only [flag, List.headD_cons] at h
    rcases h with rfl | rfl <;> rfl

theorem flag_getPeer (s : SValue) : s.getPeer.flag = if s.flag = 0 then 1 else 0 := by
  obtain ⟨_ | ⟨b, bs⟩, h⟩ := s
  · cases h
  · rfl

/-- A seed differs from its conjugate byte for byte: their flags differ. -/
theorem getPeer_ne (s : SValue) : s.getPeer ≠ s := by
  intro h
  have hflag := congrArg flag h
  rw [flag_getPeer] at hflag
  by_cases h0 : s.flag = 0
  · rw [if_pos h0, h0] at hflag
    exact absurd hflag (by decide)
  · rw [if_neg h0] at hflag
    exact h0 hflag.symm

end SValue

/-! ### The router's messages -/

/-- `BalanceQueryRequest`. -/
structure BalanceQueryRequest where
  localAddr : AccountAddress
  remoteAddr : AccountAddress
  deriving DecidableEq, Repr

/-- `BalanceQueryResponse`: one hop of a route, with the balances on both sides of its channel
and the payments the local side has pending over it. -/
structure BalanceQueryResponse where
  localAddr : AccountAddress
  remoteAddr : AccountAddress
  localBalance : UInt64
  remoteBalance : UInt64
  totalPayAmount : UInt64
  deriving DecidableEq, Repr

/-- `BalanceQueryResponse::revert`: the same hop seen from its other side. -/
def BalanceQueryResponse.revert (r : BalanceQueryResponse) : BalanceQueryResponse :=
  ⟨r.remoteAddr, r.localAddr, r.remoteBalance, r.localBalance, r.totalPayAmount⟩

@[simp] theorem BalanceQueryResponse.revert_revert (r : BalanceQueryResponse) :
    r.revert.revert = r := rfl

/-- `AntQueryMessage`: a seed, the node the query started from, and the hops so far. -/
structure AntQueryMessage where
  sValue : SValue
  senderAddr : AccountAddress
  balanceQueryResponseList : List BalanceQueryResponse
  deriving DecidableEq

/-- `ExchangeSeedMessageRequest`. -/
structure ExchangeSeedMessageRequest where
  senderSeed : BitVec 128
  deriving DecidableEq

/-- `ExchangeSeedMessageResponse`. -/
structure ExchangeSeedMessageResponse where
  senderSeed : BitVec 128
  receiverSeed : BitVec 128
  deriving DecidableEq

/-- `AntFinalMessage`: the hash of a matched seed and the route its two halves make. -/
structure AntFinalMessage where
  rValue : HashValue
  balanceQueryResponseList : List BalanceQueryResponse
  deriving DecidableEq

/-- `RouterNetworkMessage`. -/
inductive RouterNetworkMessage where
  | exchangeSeedMessageRequest (m : ExchangeSeedMessageRequest)
  | exchangeSeedMessageResponse (m : ExchangeSeedMessageResponse)
  | antQueryMessage (m : AntQueryMessage)
  | antFinalMessage (m : AntFinalMessage)
  | balanceQueryRequest (m : BalanceQueryRequest)
  | balanceQueryResponse (m : BalanceQueryResponse)
  deriving DecidableEq

/-! ### Errors -/

/-- `SgErrorCode`, a `u32` by its discriminant. -/
inductive SgErrorCode where
  | unknown
  | sequenceNumberWrong
  | timeout
  | channelNotExist
  | invalidChannelStage
  | reject
  | notPath
  | balanceNotEnough
  deriving DecidableEq, Repr

namespace SgErrorCode

/-- `Into<u32>`: the discriminant. -/
def toU32 : SgErrorCode → UInt32
  | unknown => 0
  | sequenceNumberWrong => 1
  | timeout => 2
  | channelNotExist => 3
  | invalidChannelStage => 4
  | reject => 5
  | notPath => 6
  | balanceNotEnough => 7

/-- `TryFromPrimitive`: the code of a discriminant. -/
def tryFromPrimitive (n : UInt32) : Except String SgErrorCode :=
  match n with
  | 0 => .ok unknown
  | 1 => .ok sequenceNumberWrong
  | 2 => .ok timeout
  | 3 => .ok channelNotExist
  | 4 => .ok invalidChannelStage
  | 5 => .ok reject
  | 6 => .ok notPath
  | 7 => .ok balanceNotEnough
  | _ => .error "No discriminant in enum SgErrorCode matches the value"

end SgErrorCode

/-- `SgError`. -/
structure SgError where
  errorCode : SgErrorCode
  errorMessage : String
  deriving DecidableEq

/-- `ErrorMessage`: the error a node answers a request with. -/
structure ErrorMessage where
  rawTransactionHash : HashValue
  error : SgError
  deriving DecidableEq
