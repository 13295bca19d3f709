import Stargate.Wire.Proto
import Stargate.Wire.RoundTrip

/-!
# Stargate.Wire.Frame

A node's network message (src/node/node_internal/src/node.rs): two big-endian bytes of
`MessageType`, then the protobuf bytes of the message (`add_message_type`).
`handle_network_msg` reads the type with `parse_message_type` and hands the rest of the frame to
the handler of that type, whose first step is the type's `from_proto_bytes`.
`decodeNetworkMessage` is that decoding.

Prost is a parameter (`Prost`): a conversion of each protobuf message to bytes whose decoding
inverts its encoding. It fails with an `Err`, never a panic, so a panic can only come from the
frame parser or from the hand-written conversions. The frame parser panics on a frame shorter
than two bytes and on an unknown type; the conversions panic on an
absent sub-message they `unwrap` and on a seed that is not sixteen bytes. Given the sub-messages
and the seeds, they do not (`Proto.ChannelTransactionRequest.Complete`,
`Proto.RouterNetworkMessage.SeedsFit`): a frame of a known type whose message has them decodes
to a value or an `Err` (`decodeNetworkMessage_avoids_panic`), and each way of breaking them is a
frame that panics (`decoding_untrusted_bytes_panics`). `Prost.tagged` is one prost, writing each
message as the bytes of its `Encodable` code behind a tag byte of its type.
-/

/-- `MessageType`. -/
inductive MessageType where
  | openChannelNodeNegotiateMessage
  | channelTransactionRequest
  | channelTransactionResponse
  | errorMessage
  | multiHopChannelTransactionRequest
  | routerMessage
  deriving DecidableEq, Repr

namespace MessageType

/-- `MessageType::get_type`. -/
def getType : MessageType → UInt16
  | openChannelNodeNegotiateMessage => 1
  | channelTransactionRequest => 2
  | channelTransactionResponse => 3
  | errorMessage => 4
  | multiHopChannelTransactionRequest => 5
  | routerMessage => 6

/-- `MessageType::from_type`. -/
def fromType (msgType : UInt16) : Except String MessageType :=
  if msgType = 1 then .ok openChannelNodeNegotiateMessage
  else if msgType = 2 then .ok channelTransactionRequest
  else if msgType = 3 then .ok channelTransactionResponse
  else if msgType = 4 then .ok errorMessage
  else if msgType = 5 then .ok multiHopChannelTransactionRequest
  else if msgType = 6 then .ok routerMessage
  else .error "no such type"

@[simp] theorem fromType_getType (t : MessageType) : fromType t.getType = .ok t := by
  cases t <;> rfl

end MessageType

/-- `parse_message_type`: `&data[0..2]` panics on a frame shorter than two bytes, and
`MessageType::from_type(..).unwrap()` on a type that is not one of the six. -/
def parseMessageType (data : List UInt8) : Except Failure MessageType :=
  if data.length < 2 then .error (.panic "range end index 2 out of range for slice")
  else
    match MessageType.fromType (UInt16.ofNat (BigEndian.value (data.take 2))) with
    | .ok msgType => .ok msgType
    | .error _ => .error (.panic "called Result::unwrap() on an Err value")

/-- `add_message_type`: the type's two big-endian bytes, then the message. -/
def addMessageType (data : List UInt8) (messageType : MessageType) : List UInt8 :=
  BigEndian.encode 2 messageType.getType.toNat ++ data

/-- The message of a frame the node built follows the two bytes of its type. -/
theorem drop_addMessageType (data : List UInt8) (t : MessageType) :
    (addMessageType data t).drop 2 = data :=
  List.drop_left' (BigEndian.length_encode 2 _)

/-- A frame the node built is read back as its type. -/
theorem parseMessageType_addMessageType (data : List UInt8) (t : MessageType) :
    parseMessageType (addMessageType data t) = .ok t := by
  have htake : (addMessageType data t).take 2 = BigEndian.encode 2 t.getType.toNat :=
    List.take_left' (BigEndian.length_encode 2 _)
  have hvalue : BigEndian.value (BigEndian.encode 2 t.getType.toNat) = t.getType.toNat := by
    rw [BigEndian.value_encode, Nat.mod_eq_of_lt (lt_of_lt_of_eq t.getType.toNat_lt (by decide))]
  have hlen : ¬ (addMessageType data t).length < 2 := by
    rw [addMessageType, List.length_append, BigEndian.length_encode]
    omega
  simp [parseMessageType, hlen, htake, hvalue]

/-- The prost decoders the node uses, one per message type it reads. -/
structure Prost where
  channelTransactionRequest : Conversion Proto.ChannelTransactionRequest (List UInt8)
  channelTransactionResponse : Conversion Proto.ChannelTransactionResponse (List UInt8)
  errorMessage : Conversion Proto.ErrorMessage (List UInt8)
  multiHopChannelRequest : Conversion Proto.MultiHopChannelRequest (List UInt8)
  routerNetworkMessage : Conversion Proto.RouterNetworkMessage (List UInt8)

/-- What a frame decodes to. -/
inductive NetworkPayload where
  | openChannelNodeNegotiate
  | channelTransactionRequest (r : ChannelTransactionRequest)
  | channelTransactionResponse (r : ChannelTransactionResponse)
  | errorMessage (e : ErrorMessage)
  | multiHopChannelRequest (q : MultiHopChannelRequest)
  | routerMessage (m : RouterNetworkMessage)

variable (codec : LibraCodec) (prost : Prost)

/-- The decoding of `handle_network_msg`: the type of the frame, then the decoder that type's
handler runs over `data[2..]` (an `OpenChannelNodeNegotiateMessage` is not read). -/
def decodeNetworkMessage (data : List UInt8) : Except Failure NetworkPayload := do
  let msgType ← parseMessageType data
  let payload := data.drop 2
  match msgType with
  | .openChannelNodeNegotiateMessage => pure .openChannelNodeNegotiate
  | .channelTransactionRequest =>
      .channelTransactionRequest <$>
        ChannelTransactionRequest.fromProtoBytes codec prost.channelTransactionRequest payload
  | .channelTransactionResponse =>
      .channelTransactionResponse <$>
        ChannelTransactionResponse.fromProtoBytes codec prost.channelTransactionResponse payload
  | .errorMessage => .errorMessage <$> ErrorMessage.fromProtoBytes codec prost.errorMessage payload
  | .multiHopChannelTransactionRequest =>
      .multiHopChannelRequest <$>
        MultiHopChannelRequest.fromProtoBytes codec prost.multiHopChannelRequest payload
  | .routerMessage =>
      .routerMessage <$> RouterNetworkMessage.fromProtoBytes codec prost.routerNetworkMessage payload

/-- A frame decodes as its type's decoder reads the protobuf bytes after the type. -/
theorem decodeNetworkMessage_addMessageType (data : List UInt8) (t : MessageType) :
    decodeNetworkMessage codec prost (addMessageType data t) =
      match t with
      | .openChannelNodeNegotiateMessage => pure .openChannelNodeNegotiate
      | .channelTransactionRequest =>
          .channelTransactionRequest <$>
            ChannelTransactionRequest.fromProtoBytes codec prost.channelTransactionRequest data
      | .channelTransactionResponse =>
          .channelTransactionResponse <$>
            ChannelTransactionResponse.fromProtoBytes codec prost.channelTransactionResponse data
      | .errorMessage => .errorMessage <$> ErrorMessage.fromProtoBytes codec prost.errorMessage data
      | .multiHopChannelTransactionRequest =>
          .multiHopChannelRequest <$>
            MultiHopChannelRequest.fromProtoBytes codec prost.multiHopChannelRequest data
      | .routerMessage =>
          .routerMessage <$>
            RouterNetworkMessage.fromProtoBytes codec prost.routerNetworkMessage data := by
  rw [decodeNetworkMessage, parseMessageType_addMessageType, Except.ok_bind, drop_addMessageType]

/-! ### Where the decoders panic -/

/-- A failure that stops the task. -/
def Failure.IsPanic : Failure → Prop
  | .panic _ => True
  | .error _ => False

theorem Failure.lift_avoids {α : Type} (r : Result α) : (Failure.lift r).Avoids IsPanic := by
  cases r with
  | error msg =>
    intro e he
    cases he
    exact id
  | ok a => exact Except.avoids_ok a

theorem Failure.okOr_avoids {α : Type} (message : String) (o : Option α) :
    (Failure.okOr message o).Avoids IsPanic := by
  cases o with
  | none =>
    intro e he
    cases he
    exact id
  | some a => exact Except.avoids_ok a

theorem Failure.unwrap_avoids {α : Type} {o : Option α} (h : o.isSome) :
    (Failure.unwrap o).Avoids IsPanic := by
  obtain ⟨a, rfl⟩ := Option.isSome_iff_exists.mp h
  exact Except.avoids_ok a

/-- A protobuf channel transaction carries its operator. -/
def Proto.ChannelTransaction.Complete (t : Proto.ChannelTransaction) : Prop :=
  t.operator.isSome

/-- A protobuf proposal carries a transaction that carries its operator. -/
def Proto.ChannelTransactionProposal.Complete (p : Proto.ChannelTransactionProposal) : Prop :=
  ∃ t, p.channelTxn = some t ∧ t.Complete

/-- A protobuf request or response carries a complete proposal and the signatures. -/
def Proto.ChannelTransactionRequest.Complete (r : Proto.ChannelTransactionRequest) : Prop :=
  (∃ p, r.proposal = some p ∧ p.Complete) ∧ r.channelTxnSigs.isSome

/-- A protobuf response carries a complete proposal and the signatures. -/
def Proto.ChannelTransactionResponse.Complete (r : Proto.ChannelTransactionResponse) : Prop :=
  (∃ p, r.proposal = some p ∧ p.Complete) ∧ r.channelTxnSigs.isSome

/-- A protobuf multi-hop request carries, if any request, a complete one. -/
def Proto.MultiHopChannelRequest.Complete (q : Proto.MultiHopChannelRequest) : Prop :=
  ∀ r, q.request = some r → r.Complete

/-- The seeds of a protobuf router message are sixteen bytes each. -/
def Proto.RouterNetworkMessage.SeedsFit (m : Proto.RouterNetworkMessage) : Prop :=
  (∀ r, m.routerMessageItems = some (.exchangeSeedRequest r) → r.senderSeed.length = 16) ∧
  ∀ r, m.routerMessageItems = some (.exchangeSeedResponse r) →
    r.senderSeed.length = 16 ∧ r.receiverSeed.length = 16

theorem ChannelOp.tryFrom_avoids_panic (proto : Proto.ChannelOp) :
    (ChannelOp.tryFrom codec proto).Avoids Failure.IsPanic := by
  unfold ChannelOp.tryFrom
  split
  · exact Except.avoids_ok _
  · exact Except.avoids_ok _
  · exact Except.avoids_bind (Failure.lift_avoids _) fun _ _ => Except.avoids_pure _
  · exact Except.avoids_ok _

theorem ChannelTransaction.tryFrom_avoids_panic {value : Proto.ChannelTransaction}
    (h : value.Complete) : (ChannelTransaction.tryFrom codec value).Avoids Failure.IsPanic := by
  unfold ChannelTransaction.tryFrom
  refine Except.avoids_bind (Failure.lift_avoids _) fun _ _ => ?_
  refine Except.avoids_bind (Failure.lift_avoids _) fun _ _ => ?_
  refine Except.avoids_bind (Failure.unwrap_avoids h) fun _ _ => ?_
  refine Except.avoids_bind (ChannelOp.tryFrom_avoids_panic codec _) fun _ _ => ?_
  exact Except.avoids_bind (Except.avoids_mapM fun _ _ => Failure.lift_avoids _)
    fun _ _ => Except.avoids_pure _

theorem ChannelTransactionProposal.tryFrom_avoids_panic {value : Proto.ChannelTransactionProposal}
    (h : value.Complete) :
    (ChannelTransactionProposal.tryFrom codec value).Avoids Failure.IsPanic := by
  obtain ⟨t, ht, hcomplete⟩ := h
  unfold ChannelTransactionProposal.tryFrom
  rw [ht, Failure.unwrap_some, Except.ok_bind]
  refine Except.avoids_bind (ChannelTransaction.tryFrom_avoids_panic codec hcomplete) fun _ _ => ?_
  refine Except.avoids_bind (Failure.lift_avoids _) fun _ _ => ?_
  exact Except.avoids_bind (Failure.lift_avoids _) fun _ _ => Except.avoids_pure _

theorem ChannelTransactionSigs.tryFrom_avoids_panic (proto : Proto.ChannelTransactionSigs) :
    (ChannelTransactionSigs.tryFrom codec proto).Avoids Failure.IsPanic := by
  unfold ChannelTransactionSigs.tryFrom
  refine Except.avoids_bind (Failure.lift_avoids _) fun _ _ => ?_
  refine Except.avoids_bind (Failure.lift_avoids _) fun _ _ => ?_
  refine Except.avoids_bind (Failure.lift_avoids _) fun _ _ => ?_
  refine Except.avoids_bind (Failure.lift_avoids _) fun _ _ => ?_
  refine Except.avoids_bind (Failure.lift_avoids _) fun _ _ => ?_
  split
  · exact Except.avoids_bind (Except.avoids_pure _) fun _ _ => Except.avoids_pure _
  · exact Except.avoids_bind (Except.avoids_map _ (Failure.lift_avoids _))
      fun _ _ => Except.avoids_pure _

theorem ChannelTransactionRequest.tryFrom_avoids_panic {value : Proto.ChannelTransactionRequest}
    (h : value.Complete) :
    (ChannelTransactionRequest.tryFrom codec value).Avoids Failure.IsPanic := by
  obtain ⟨⟨p, hp, hcomplete⟩, hsigs⟩ := h
  obtain ⟨sigs, hsigs⟩ := Option.isSome_iff_exists.mp hsigs
  unfold ChannelTransactionRequest.tryFrom
  rw [hp, hsigs, Failure.unwrap_some, Except.ok_bind]
  refine Except.avoids_bind (ChannelTransactionProposal.tryFrom_avoids_panic codec hcomplete)
    fun _ _ => ?_
  exact Except.avoids_map _ (ChannelTransactionSigs.tryFrom_avoids_panic codec sigs)

theorem ChannelTransactionResponse.tryFrom_avoids_panic {value : Proto.ChannelTransactionResponse}
    (h : value.Complete) :
    (ChannelTransactionResponse.tryFrom codec value).Avoids Failure.IsPanic := by
  obtain ⟨⟨p, hp, hcomplete⟩, hsigs⟩ := h
  obtain ⟨sigs, hsigs⟩ := Option.isSome_iff_exists.mp hsigs
  unfold ChannelTransactionResponse.tryFrom
  rw [hp, hsigs, Failure.unwrap_some, Except.ok_bind]
  refine Except.avoids_bind (ChannelTransactionProposal.tryFrom_avoids_panic codec hcomplete)
    fun _ _ => ?_
  exact Except.avoids_map _ (ChannelTransactionSigs.tryFrom_avoids_panic codec sigs)

theorem NextHop.tryFrom_avoids_panic (value : Proto.NextHop) :
    (NextHop.tryFrom codec value).Avoids Failure.IsPanic :=
  Except.avoids_bind (Failure.lift_avoids _) fun _ _ => Except.avoids_pure _

theorem MultiHopChannelRequest.tryFrom_avoids_panic {value : Proto.MultiHopChannelRequest}
    (h : value.Complete) :
    (MultiHopChannelRequest.tryFrom codec value).Avoids Failure.IsPanic := by
  unfold MultiHopChannelRequest.tryFrom
  have hhops : (value.hops.mapM (NextHop.tryFrom codec)).Avoids Failure.IsPanic :=
    Except.avoids_mapM fun hop _ => NextHop.tryFrom_avoids_panic codec hop
  refine Except.avoids_bind (Failure.okOr_avoids _ _) fun r hr => ?_
  have hcomplete : r.Complete := by
    cases hreq : value.request with
    | none => rw [hreq] at hr; cases hr
    | some r' =>
      rw [hreq] at hr
      cases hr
      exact h _ hreq
  refine Except.avoids_bind (ChannelTransactionRequest.tryFrom_avoids_panic codec hcomplete)
    fun _ _ => ?_
  exact Except.avoids_bind hhops fun _ _ => Except.avoids_pure _

theorem BalanceQueryRequest.tryFrom_avoids_panic (value : Proto.BalanceQueryRequest) :
    (BalanceQueryRequest.tryFrom codec value).Avoids Failure.IsPanic :=
  Except.avoids_bind (Failure.lift_avoids _) fun _ _ =>
    Except.avoids_bind (Failure.lift_avoids _) fun _ _ => Except.avoids_pure _

theorem BalanceQueryResponse.tryFrom_avoids_panic (value : Proto.BalanceQueryResponse) :
    (BalanceQueryResponse.tryFrom codec value).Avoids Failure.IsPanic :=
  Except.avoids_bind (Failure.lift_avoids _) fun _ _ =>
    Except.avoids_bind (Failure.lift_avoids _) fun _ _ => Except.avoids_pure _

theorem AntQueryMessage.tryFrom_avoids_panic (value : Proto.AntQueryMessage) :
    (AntQueryMessage.tryFrom codec value).Avoids Failure.IsPanic := by
  unfold AntQueryMessage.tryFrom
  have hlist : (value.balanceQueryResponseList.mapM (BalanceQueryResponse.tryFrom codec)).Avoids
      Failure.IsPanic :=
    Except.avoids_mapM fun m _ => BalanceQueryResponse.tryFrom_avoids_panic codec m
  refine Except.avoids_bind (Failure.lift_avoids _) fun _ _ => ?_
  refine Except.avoids_bind (Failure.lift_avoids _) fun _ _ => ?_
  exact Except.avoids_bind hlist fun _ _ => Except.avoids_pure _

theorem AntFinalMessage.tryFrom_avoids_panic (value : Proto.AntFinalMessage) :
    (AntFinalMessage.tryFrom codec value).Avoids Failure.IsPanic := by
  unfold AntFinalMessage.tryFrom
  have hlist : (value.balanceQueryResponseList.mapM (BalanceQueryResponse.tryFrom codec)).Avoids
      Failure.IsPanic :=
    Except.avoids_mapM fun m _ => BalanceQueryResponse.tryFrom_avoids_panic codec m
  refine Except.avoids_bind (Failure.lift_avoids _) fun _ _ => ?_
  exact Except.avoids_bind hlist fun _ _ => Except.avoids_pure _

theorem copyFromSlice16_avoids {bytes : List UInt8} (h : bytes.length = 16) :
    (copyFromSlice16 bytes).Avoids Failure.IsPanic := by
  rw [copyFromSlice16, if_pos h]
  exact Except.avoids_ok _

theorem RouterNetworkMessage.tryFrom_avoids_panic {proto : Proto.RouterNetworkMessage}
    (h : proto.SeedsFit) : (RouterNetworkMessage.tryFrom codec proto).Avoids Failure.IsPanic := by
  obtain ⟨hrequest, hresponse⟩ := h
  unfold RouterNetworkMessage.tryFrom
  refine Except.avoids_bind (Failure.okOr_avoids _ _) fun item hitem => ?_
  have hsome : proto.routerMessageItems = some item := by
    cases hitems : proto.routerMessageItems with
    | none => rw [hitems] at hitem; cases hitem
    | some item' => rw [hitems] at hitem; cases hitem; rfl
  cases item with
  | exchangeSeedRequest r =>
    refine Except.avoids_map _ ?_
    exact Except.avoids_bind (copyFromSlice16_avoids (hrequest r hsome)) fun _ _ =>
      Except.avoids_pure _
  | exchangeSeedResponse r =>
    obtain ⟨hsender, hreceiver⟩ := hresponse r hsome
    refine Except.avoids_map _ ?_
    exact Except.avoids_bind (copyFromSlice16_avoids hsender) fun _ _ =>
      Except.avoids_bind (copyFromSlice16_avoids hreceiver) fun _ _ => Except.avoids_pure _
  | antQueryMessage r => exact Except.avoids_map _ (AntQueryMessage.tryFrom_avoids_panic codec r)
  | antFinalMessage r => exact Except.avoids_map _ (AntFinalMessage.tryFrom_avoids_panic codec r)
  | balanceQueryRequest r =>
    exact Except.avoids_map _ (BalanceQueryRequest.tryFrom_avoids_panic codec r)
  | balanceQueryResponse r =>
    exact Except.avoids_map _ (BalanceQueryResponse.tryFrom_avoids_panic codec r)

theorem ErrorMessage.tryFrom_avoids_panic (value : Proto.ErrorMessage) :
    (ErrorMessage.tryFrom codec value).Avoids Failure.IsPanic :=
  Except.avoids_bind (Failure.lift_avoids _) fun _ _ =>
    Except.avoids_bind (Failure.lift_avoids _) fun _ _ => Except.avoids_pure _

/-- Decoding bytes panics only where the conversion of what prost decoded does. -/
theorem protoDecode_avoids_panic {P M W : Type} {prost : Conversion P W}
    {tryFrom : P → Except Failure M} {buf : W}
    (h : ∀ p, prost.decode buf = .ok p → (tryFrom p).Avoids Failure.IsPanic) :
    (protoDecode prost tryFrom buf).Avoids Failure.IsPanic := by
  unfold protoDecode
  refine Except.avoids_bind (Failure.lift_avoids _) fun p hp => ?_
  exact h p (Failure.lift_eq_ok.mp hp)

/-- Each protobuf message as the bytes of its code, behind a tag byte of its own type. -/
def Prost.tagged : Prost :=
  ⟨.tagged 1, .tagged 2, .tagged 3, .tagged 4, .tagged 5⟩

/-- Frames a peer can send that make the receiving task panic, whatever libra's conversions and
prost: an empty frame, a frame of type `7`, a channel transaction request without its
proposal, a router message asking to exchange an empty seed, and a multi-hop request whose
transaction has no operator. -/
theorem decoding_untrusted_bytes_panics :
    (∃ msg, parseMessageType [] = .error (.panic msg)) ∧
    (∃ msg, parseMessageType [0, 7] = .error (.panic msg)) ∧
    (∃ msg, decodeNetworkMessage codec prost
        (addMessageType (prost.channelTransactionRequest.encode ⟨none, none, false⟩)
          .channelTransactionRequest) = .error (.panic msg)) ∧
    (∃ msg, decodeNetworkMessage codec prost
        (addMessageType (prost.routerNetworkMessage.encode ⟨some (.exchangeSeedRequest ⟨[]⟩)⟩)
          .routerMessage) = .error (.panic msg)) ∧
    ∃ msg, decodeNetworkMessage codec prost
        (addMessageType (prost.multiHopChannelRequest.encode
          ⟨some ⟨some ⟨some ⟨0, codec.accountAddress.encode [], 0, none, [],
            codec.accountAddress.encode [], 0, 0⟩, [], []⟩, none, false⟩, []⟩)
          .multiHopChannelTransactionRequest) = .error (.panic msg) := by
  refine ⟨⟨_, rfl⟩, ⟨_, rfl⟩, ⟨"called Option::unwrap() on a None value", ?_⟩,
    ⟨"source slice length does not match destination slice length", ?_⟩,
    ⟨"called Option::unwrap() on a None value", ?_⟩⟩
  · -- `value.proposal.unwrap()`
    simp [decodeNetworkMessage_addMessageType, ChannelTransactionRequest.fromProtoBytes,
      protoDecode, ChannelTransactionRequest.tryFrom, Failure.unwrap]
    rfl
  · -- `result.copy_from_slice(value.sender_seed.as_ref())` with no bytes
    simp [decodeNetworkMessage_addMessageType, RouterNetworkMessage.fromProtoBytes, protoDecode,
      RouterNetworkMessage.tryFrom, ExchangeSeedMessageRequest.tryFrom, copyFromSlice16]
  · -- `value.operator.unwrap()`
    simp [decodeNetworkMessage_addMessageType, MultiHopChannelRequest.fromProtoBytes, protoDecode,
      MultiHopChannelRequest.tryFrom, ChannelTransactionRequest.tryFrom,
      ChannelTransactionProposal.tryFrom, ChannelTransaction.tryFrom, Failure.unwrap]
    rfl
