import Stargate.Types.Message
import Stargate.Storage.Stores
import Stargate.Lib.AssocMap
import Stargate.Lib.ExceptState

/-!
# Stargate.Node.MultiHop

A node's part in a multi-hop payment (src/node/node_internal/src/node.rs, invoice.rs, and
src/sgwallet/src/utils/mod.rs): the payer turns a route into a hash-locked `send_payment` to the
first hop carrying the hops after it, and each node receiving such a request accepts the
incoming payment and passes on the next one.

A handler is a computation that performs effects, in order: messages sent to peers (decoded, as
`Stargate.Wire` shows the receiver gets them) and records of a previous hop. Another task may
run between any two effects, and an error or panic ends the handler after the effects before it.
The wallet is an interface: what each of its calls answers is left free, except that the request
`execute_async` builds carries the operation and arguments it was given, as the channel's
proposal does.

When every wallet call succeeds, a route is followed hop by hop with one hash-locked payment per
channel (`multi_hop_route_followed`). But a node passes a payment on whether or not it accepted
the incoming one: `handle_channel_transaction_request` returns `Ok` when verification fails, and
the previous hop is recorded only after the next payment is sent
(`forwards_without_accepting`).
-/

/-- `HtlcPayment`: what a hash-locked payment's arguments say. -/
structure HtlcPayment where
  hashLock : HashValue
  amount : UInt64
  timeout : UInt64
  deriving DecidableEq, Repr

section Htlc

variable (defaultAddress : AccountAddress)

/-- `ChannelScript::<functionName>` at `AccountAddress::default()`. -/
def channelScriptOp (functionName : String) : ChannelOp :=
  .action defaultAddress "ChannelScript" functionName

/-- Whether an operation calls `ChannelScript::<functionName>` at `AccountAddress::default()`. -/
def isChannelScriptCall (functionName : String) (op : ChannelOp) : Bool :=
  match op with
  | .action moduleAddress moduleName name =>
    moduleAddress == defaultAddress && moduleName == "ChannelScript" && name == functionName
  | _ => false

/-- `is_htlc_transfer`. -/
def isHtlcTransfer (op : ChannelOp) : Bool := isChannelScriptCall defaultAddress "send_payment" op

/-- `is_htlc_receive`. -/
def isHtlcReceive (op : ChannelOp) : Bool := isChannelScriptCall defaultAddress "receive_payment" op

theorem isChannelScriptCall_channelScriptOp (functionName : String) :
    isChannelScriptCall defaultAddress functionName (channelScriptOp defaultAddress functionName) =
      true := by
  simp [isChannelScriptCall, channelScriptOp]

theorem isHtlcReceive_eq_false_of_isHtlcTransfer {op : ChannelOp}
    (h : isHtlcTransfer defaultAddress op = true) : isHtlcReceive defaultAddress op = false := by
  unfold isHtlcTransfer isHtlcReceive isChannelScriptCall at *
  split
  · simp_all
  · rfl

end Htlc

/-- `HashValue::from_slice`: exactly 32 bytes. -/
def hashValueFromSlice (bytes : List UInt8) : Except String HashValue :=
  if bytes.length = 32 then .ok bytes else .error "HashValue decoding failed due to length mismatch"

/-- An argument's `match` in the parsers: the `u64` it must be, or the parser's error. -/
def expectU64 (arg : Option TransactionArgument) (message : String) : Except String UInt64 :=
  match arg with
  | some (.u64 a) => .ok a
  | _ => .error message

/-- An argument's `match` in the parsers: the byte array it must be, or the parser's error. -/
def expectByteArray (arg : Option TransactionArgument) (message : String) :
    Except String (List UInt8) :=
  match arg with
  | some (.byteArray d) => .ok d
  | _ => .error message

/-- `parse_htlc_payment`: the amount, hash lock and timeout of `send_payment`'s four
arguments. -/
def parseHtlcPayment (args : List TransactionArgument) : Except String HtlcPayment := do
  if args.length ≠ 4 then throw "send_payment should have 4 args"
  let amount ← expectU64 args[1]? "1st arg of send_payment should be u64"
  let hashLock ← hashValueFromSlice
    (← expectByteArray args[2]? "3rd arg of send_payment should be byte array")
  let timeout ← expectU64 args[3]? "4th arg of send_payment should be u64"
  pure ⟨hashLock, amount, timeout⟩

/-- `parse_htlc_preimage`: the preimage, `receive_payment`'s one argument. -/
def parseHtlcPreimage (args : List TransactionArgument) : Except String HashValue := do
  if args.length ≠ 1 then throw "receive_payment should have 1 args"
  hashValueFromSlice
    (← expectByteArray args[0]? "the 2th arg of receive_payment should be byte array")

/-- The arguments `WalletHandle::send_payment` gives `ChannelScript::send_payment`. -/
def sendPaymentArgs (participant : AccountAddress) (amount : UInt64) (hashLock : List UInt8)
    (timeout : UInt64) : List TransactionArgument :=
  [.address participant, .u64 amount, .byteArray hashLock, .u64 timeout]

theorem parseHtlcPayment_sendPaymentArgs (participant : AccountAddress) (amount : UInt64)
    {hashLock : List UInt8} (timeout : UInt64) (hlock : hashLock.length = 32) :
    parseHtlcPayment (sendPaymentArgs participant amount hashLock timeout) =
      .ok ⟨hashLock, amount, timeout⟩ := by
  simp [parseHtlcPayment, sendPaymentArgs, expectU64, expectByteArray, hashValueFromSlice, hlock]

/-! ### The node -/

/-- What the node asks of its wallet (`WalletHandle`). -/
structure Wallet where
  account : AccountAddress
  /-- `execute_async`: the request of a new proposal on the channel with a participant. -/
  executeAsync : AccountAddress → ChannelOp → List TransactionArgument →
    Except String ChannelTransactionRequest
  /-- The proposal carries the operation and arguments it was made from. -/
  executeAsync_channelTxn : ∀ participant op args request,
    executeAsync participant op args = .ok request →
      request.channelTxn.operator = op ∧ request.channelTxn.args = args
  /-- `verify_txn`: this participant's response, or none while the user must approve. -/
  verifyTxn : AccountAddress → ChannelTransactionRequest →
    Except String (Option ChannelTransactionResponse)
  /-- `approve_txn`. -/
  approveTxn : AccountAddress → HashValue → Except String ChannelTransactionResponse
  /-- `apply_txn`. -/
  applyTxn : AccountAddress → ChannelTransactionResponse → Except String Unit

/-- The wallet calls whose failure ends a handler succeed: building a proposal, and approving a
request. A failure to apply a response is swallowed by the node, and one to verify is answered. -/
structure Wallet.Succeeds (wallet : Wallet) : Prop where
  executeAsync : ∀ participant op args, ∃ request,
    wallet.executeAsync participant op args = .ok request
  approveTxn : ∀ peerId requestId, ∃ response, wallet.approveTxn peerId requestId = .ok response

/-- `InvoiceManager`: preimages by hash lock, and the previous hop of each payment passed on. -/
structure InvoiceManager where
  rHashMap : List (List UInt8 × List UInt8)
  rHashPreviousHopMap : List (List UInt8 × AccountAddress)

namespace InvoiceManager

/-- `InvoiceManager::get_preimage`. -/
def getPreimage (mgr : InvoiceManager) (rHash : HashValue) : Option (List UInt8) :=
  AssocMap.get (· == ·) mgr.rHashMap rHash

/-- `InvoiceManager::add_previous_hop`. -/
def addPreviousHop (mgr : InvoiceManager) (rHash : HashValue) (previousAddr : AccountAddress) :
    InvoiceManager :=
  { mgr with
    rHashPreviousHopMap := AssocMap.insert (· == ·) mgr.rHashPreviousHopMap rHash previousAddr }

/-- `InvoiceManager::get_previous_hop`: by the preimage's `sha3`. -/
def getPreviousHop (sha3 : List UInt8 → HashValue) (mgr : InvoiceManager)
    (preimage : List UInt8) : Option AccountAddress :=
  AssocMap.get (· == ·) mgr.rHashPreviousHopMap (sha3 preimage)

end InvoiceManager

/-- What a node sends a peer. -/
inductive NodeMessage where
  | channelTransactionRequest (request : ChannelTransactionRequest)
  | channelTransactionResponse (response : ChannelTransactionResponse)
  | multiHopChannelTransactionRequest (message : MultiHopChannelRequest)
  /-- `error_message`: an error about the request with this id. -/
  | errorMessage (rawTransactionHash : HashValue)

/-- One effect of a handler. -/
inductive Effect where
  | send (peerId : AccountAddress) (message : NodeMessage)
  | addPreviousHop (rHash : HashValue) (previousAddr : AccountAddress)

/-- A handler: it performs effects, kept in order, and may end in an error or a panic. -/
abbrev NodeM := ExceptT Failure (StateM (List Effect))

/-- Perform an effect. -/
def emit (effect : Effect) : NodeM Unit := modify (· ++ [effect])

/-- A wallet call's `?`. -/
def liftWallet {α : Type} (r : Except String α) : NodeM α :=
  ExceptState.ofExcept (Failure.lift r)

/-- `NodeInner`: the node's wallet and invoices (as its handler reads them), whether it approves
requests itself, and the hashes it uses. -/
structure NodeInner where
  wallet : Wallet
  invoiceMgr : InvoiceManager
  autoApprove : Bool
  /-- `AccountAddress::default()`. -/
  defaultAddress : AccountAddress
  /-- `CryptoHash::hash` of a channel transaction: a request's `request_id`. -/
  hashChannelTxn : ChannelTransaction → HashValue
  /-- `HashValue::from_sha3_256`. -/
  sha3 : List UInt8 → HashValue

namespace NodeInner

variable (node : NodeInner)

/-- `WalletHandle::send_payment`. -/
def sendPayment (participant : AccountAddress) (amount : UInt64) (hashLock : List UInt8)
    (timeout : UInt64) : Except String ChannelTransactionRequest :=
  node.wallet.executeAsync participant (channelScriptOp node.defaultAddress "send_payment")
    (sendPaymentArgs participant amount hashLock timeout)

/-- `WalletHandle::receive_payment`. -/
def receivePayment (participant : AccountAddress) (preimage : List UInt8) :
    Except String ChannelTransactionRequest :=
  node.wallet.executeAsync participant (channelScriptOp node.defaultAddress "receive_payment")
    [.byteArray preimage]

/-- `NodeInner::apply_txn`: send the response, then apply it; a failure to apply is reported to
the peer and swallowed. -/
def applyTxn (peerId : AccountAddress) (requestId : HashValue)
    (receiverOpenTxn : ChannelTransactionResponse) : NodeM Unit := do
  emit (.send peerId (.channelTransactionResponse receiverOpenTxn))
  match node.wallet.applyTxn peerId receiverOpenTxn with
  | .ok () => pure ()
  | .error _ => emit (.send peerId (.errorMessage requestId))

/-- The rest of `handle_channel_transaction_request` once the node has its response: apply it,
and pass a preimage back when the request pays this node's invoice or brings a preimage. -/
def handleAccepted (peerId : AccountAddress) (request : ChannelTransactionRequest)
    (receiverOpenTxn : ChannelTransactionResponse) : NodeM Unit := do
  let operator := request.channelTxn.operator
  node.applyTxn peerId (node.hashChannelTxn request.channelTxn) receiverOpenTxn
  if isHtlcTransfer node.defaultAddress operator then
    let payment ← liftWallet (parseHtlcPayment request.channelTxn.args)
    match node.invoiceMgr.getPreimage payment.hashLock with
    | some preimage =>
      let request ← liftWallet (node.receivePayment peerId preimage)
      emit (.send peerId (.channelTransactionRequest request))
    | none => pure ()
  if isHtlcReceive node.defaultAddress operator then
    let preimage ← liftWallet (parseHtlcPreimage request.channelTxn.args)
    match node.invoiceMgr.getPreviousHop node.sha3 preimage with
    | some previousAddr =>
      let request ← liftWallet (node.receivePayment previousAddr preimage)
      emit (.send previousAddr (.channelTransactionRequest request))
    | none => pure ()

/-- `NodeInner::handle_channel_transaction_request`. A request that fails verification is
answered with an error message, and one that waits for the user's approval with nothing; both
return `Ok`. -/
def handleChannelTransactionRequest (peerId : AccountAddress)
    (request : ChannelTransactionRequest) : NodeM Unit := do
  let requestId := node.hashChannelTxn request.channelTxn
  match node.wallet.verifyTxn peerId request with
  | .ok (some t) => node.handleAccepted peerId request t
  | .ok none =>
    if node.autoApprove then
      match node.wallet.approveTxn peerId requestId with
      | .ok t => node.handleAccepted peerId request t
      | .error _ => throw (.panic "called Result::unwrap() on an Err value")
    else pure ()
  | .error _ => emit (.send peerId (.errorMessage requestId))

/-- `NodeInner::handle_multi_hop_receiver_channel`, on the decoded request: handle the payment
to this node, then send the next hop its payment with the hops after it, and record the
previous hop. -/
def handleMultiHopReceiverChannel (peerId : AccountAddress) (message : MultiHopChannelRequest) :
    NodeM Unit := do
  node.handleChannelTransactionRequest peerId message.request
  match message.hops with
  | [] => pure ()
  | hop :: hops =>
    if isHtlcTransfer node.defaultAddress message.request.channelTxn.operator then
      let payment ← liftWallet (parseHtlcPayment message.request.channelTxn.args)
      let request ← liftWallet
        (node.sendPayment hop.remoteAddr hop.amount payment.hashLock payment.timeout)
      emit (.send hop.remoteAddr (.multiHopChannelTransactionRequest ⟨request, hops⟩))
      emit (.addPreviousHop payment.hashLock peerId)
    else pure ()

/-- `NodeInner::check_balance`: every hop's local balance covers the amount. -/
def checkBalance (path : List BalanceQueryResponse) (amount : UInt64) : Bool :=
  path.all fun response => !(response.localBalance < amount)

/-- `NodeInner::balance_response_to_address`: the first hop's start, then every hop's end. -/
def balanceResponseToAddress (responseList : List BalanceQueryResponse) :
    Except Failure (List AccountAddress) :=
  match responseList with
  | [] => .error (.error "should have at least 1 hops")
  | first :: _ => .ok (first.localAddr :: responseList.map BalanceQueryResponse.remoteAddr)

/-- `NodeInner::get_multi_hop_request`: from this node, pay the next vertex, carrying a hop for
each vertex after it. -/
def getMultiHopRequest (vertexes : List AccountAddress) (amount : UInt64)
    (hashLock : List UInt8) (timeout : UInt64) :
    Except Failure (MultiHopChannelRequest × AccountAddress) :=
  match vertexes with
  | firstAddr :: receiverAddress :: rest =>
    if node.wallet.account = firstAddr then do
      let hops := rest.map fun vertex => (⟨vertex, amount⟩ : NextHop)
      let request ← Failure.lift (node.sendPayment receiverAddress amount hashLock timeout)
      pure (⟨request, hops⟩, receiverAddress)
    else .error (.error "can't gen multi hop request")
  | _ => .error (.error "should have at least 2 hops")

/-- `NodeInner::off_chain_pay_htlc`, given the route the router found: a route whose balances
cover the amount is paid along with a multi-hop request to its first hop. A failure answered to
the caller is an error here. -/
def offChainPayHtlc (path : Except String (List BalanceQueryResponse)) (amount : UInt64)
    (hashLock : List UInt8) (timeout : UInt64) : NodeM Unit := do
  match path with
  | .ok v =>
    if !checkBalance v amount then throw (.error "path balance is not enough")
    let vertexes ← ExceptState.ofExcept (balanceResponseToAddress v)
    let (offChainPayTx, nextAddr) ←
      ExceptState.ofExcept (node.getMultiHopRequest vertexes amount hashLock timeout)
    emit (.send nextAddr (.multiHopChannelTransactionRequest offChainPayTx))
  | .error _ => throw (.error "could not find path")

end NodeInner

/-! ### Payments sent -/

/-- The payment an effect sends, if it sends one: a `send_payment` request, its recipient, and
the hops carried along with it. -/
def Effect.payment? (defaultAddress : AccountAddress) :
    Effect → Option (AccountAddress × ChannelTransactionRequest × List NextHop)
  | .send peerId (.channelTransactionRequest request) =>
    if isHtlcTransfer defaultAddress request.channelTxn.operator then some (peerId, request, [])
    else none
  | .send peerId (.multiHopChannelTransactionRequest message) =>
    if isHtlcTransfer defaultAddress message.request.channelTxn.operator then
      some (peerId, message.request, message.hops)
    else none
  | _ => none

/-- The payments a list of effects sends. -/
def paymentsSent (defaultAddress : AccountAddress) (effects : List Effect) :
    List (AccountAddress × ChannelTransactionRequest × List NextHop) :=
  effects.filterMap (Effect.payment? defaultAddress)

theorem paymentsSent_append (defaultAddress : AccountAddress) (l₁ l₂ : List Effect) :
    paymentsSent defaultAddress (l₁ ++ l₂) =
      paymentsSent defaultAddress l₁ ++ paymentsSent defaultAddress l₂ :=
  List.filterMap_append

/-- A handler that ends `Ok`, from any effects so far, after effects none of which is a
payment. -/
def PaysNothing (defaultAddress : AccountAddress) (m : NodeM Unit) : Prop :=
  ∀ s, ∃ effects, ExceptState.run m s = (.ok (), s ++ effects) ∧
    paymentsSent defaultAddress effects = []

namespace PaysNothing

variable {defaultAddress : AccountAddress}

theorem pure : PaysNothing defaultAddress (pure ()) :=
  fun s => ⟨[], by simp, rfl⟩

theorem bind {m₁ m₂ : NodeM Unit} (h₁ : PaysNothing defaultAddress m₁)
    (h₂ : PaysNothing defaultAddress m₂) :
    PaysNothing defaultAddress (m₁ >>= fun _ => m₂) := by
  intro s
  obtain ⟨effects₁, hrun₁, hpay₁⟩ := h₁ s
  obtain ⟨effects₂, hrun₂, hpay₂⟩ := h₂ (s ++ effects₁)
  refine ⟨effects₁ ++ effects₂, ?_, ?_⟩
  · rw [ExceptState.run_bind_of_ok hrun₁, hrun₂, List.append_assoc]
  · rw [paymentsSent_append, hpay₁, hpay₂]
    rfl

theorem emit {effect : Effect} (h : effect.payment? defaultAddress = none) :
    PaysNothing defaultAddress (emit effect) :=
  fun s => ⟨[effect], rfl, by simp [paymentsSent, h]⟩

end PaysNothing

@[simp] theorem run_emit (effect : Effect) (s : List Effect) :
    ExceptState.run (emit effect) s = (.ok (), s ++ [effect]) := rfl

namespace NodeInner

variable (node : NodeInner)

/-- A request the wallet builds for `receive_payment` is no payment. -/
theorem payment?_receivePayment {peerId participant : AccountAddress} {preimage : List UInt8}
    {request : ChannelTransactionRequest}
    (h : node.receivePayment participant preimage = .ok request) :
    (Effect.send peerId (.channelTransactionRequest request)).payment? node.defaultAddress =
      none := by
  have hop := (node.wallet.executeAsync_channelTxn _ _ _ _ h).1
  simp [Effect.payment?, isHtlcTransfer, hop, channelScriptOp, isChannelScriptCall]

theorem paysNothing_applyTxn (peerId : AccountAddress) (requestId : HashValue)
    (receiverOpenTxn : ChannelTransactionResponse) :
    PaysNothing node.defaultAddress (node.applyTxn peerId requestId receiverOpenTxn) := by
  unfold applyTxn
  refine PaysNothing.bind (PaysNothing.emit rfl) ?_
  split
  · exact PaysNothing.pure
  · exact PaysNothing.emit rfl

/-- Accepting a payment to pass on pays nothing back: the node may send the preimage it holds,
which is a `receive_payment`. -/
theorem paysNothing_handleAccepted {peerId : AccountAddress} {request : ChannelTransactionRequest}
    {receiverOpenTxn : ChannelTransactionResponse} {payment : HtlcPayment}
    (htransfer : isHtlcTransfer node.defaultAddress request.channelTxn.operator = true)
    (hparse : parseHtlcPayment request.channelTxn.args = .ok payment)
    (hwallet : node.wallet.Succeeds) :
    PaysNothing node.defaultAddress (node.handleAccepted peerId request receiverOpenTxn) := by
  unfold handleAccepted
  refine PaysNothing.bind (node.paysNothing_applyTxn _ _ _) ?_
  rw [if_pos htransfer, if_neg (by simp [isHtlcReceive_eq_false_of_isHtlcTransfer _ htransfer])]
  intro s
  simp only [liftWallet, hparse, Failure.lift_ok, ExceptState.run_bind,
    ExceptState.run_ofExcept]
  split
  case h_1 preimage _ =>
    obtain ⟨r, hr⟩ :=
      hwallet.executeAsync peerId (channelScriptOp node.defaultAddress "receive_payment")
      [.byteArray preimage]
    have hreceive : node.receivePayment peerId preimage = .ok r := hr
    refine ⟨[.send peerId (.channelTransactionRequest r)], ?_, ?_⟩
    · simp [hreceive]
    · simp [paymentsSent, node.payment?_receivePayment hreceive]
  case h_2 => exact ⟨[], by simp, rfl⟩

/-- A payment the wallet may answer is handled without paying anyone, whether it is accepted,
left for approval or refused. -/
theorem paysNothing_handleChannelTransactionRequest {peerId : AccountAddress}
    {request : ChannelTransactionRequest} {payment : HtlcPayment} (hwallet : node.wallet.Succeeds)
    (htransfer : isHtlcTransfer node.defaultAddress request.channelTxn.operator = true)
    (hparse : parseHtlcPayment request.channelTxn.args = .ok payment) :
    PaysNothing node.defaultAddress (node.handleChannelTransactionRequest peerId request) := by
  unfold handleChannelTransactionRequest
  split
  case h_1 => exact node.paysNothing_handleAccepted htransfer hparse hwallet
  case h_2 =>
    split
    · obtain ⟨response, hresponse⟩ :=
        hwallet.approveTxn peerId (node.hashChannelTxn request.channelTxn)
      simp only [hresponse]
      exact node.paysNothing_handleAccepted htransfer hparse hwallet
    · exact PaysNothing.pure
  case h_3 => exact PaysNothing.emit rfl

/-- A request that fails verification is answered with an error message, and handled. -/
theorem run_handleChannelTransactionRequest_of_error {peerId : AccountAddress}
    {request : ChannelTransactionRequest} {e : String}
    (hverify : node.wallet.verifyTxn peerId request = .error e) (s : List Effect) :
    ExceptState.run (node.handleChannelTransactionRequest peerId request) s =
      (.ok (), s ++ [.send peerId (.errorMessage (node.hashChannelTxn request.channelTxn))]) := by
  simp [handleChannelTransactionRequest, hverify]

/-- Once the payment to it is handled, a node sends the next hop its payment with the hops after
it, and then records the previous hop. -/
theorem run_handleMultiHopReceiverChannel_cons {peerId : AccountAddress}
    {request forwarded : ChannelTransactionRequest} {hop : NextHop} {hops : List NextHop}
    {payment : HtlcPayment} {s s' : List Effect}
    (hhandle :
      ExceptState.run (node.handleChannelTransactionRequest peerId request) s = (.ok (), s'))
    (htransfer : isHtlcTransfer node.defaultAddress request.channelTxn.operator = true)
    (hparse : parseHtlcPayment request.channelTxn.args = .ok payment)
    (hsend : node.sendPayment hop.remoteAddr hop.amount payment.hashLock payment.timeout =
      .ok forwarded) :
    ExceptState.run (node.handleMultiHopReceiverChannel peerId ⟨request, hop :: hops⟩) s =
      (.ok (), s' ++
        [.send hop.remoteAddr (.multiHopChannelTransactionRequest ⟨forwarded, hops⟩),
          .addPreviousHop payment.hashLock peerId]) := by
  unfold handleMultiHopReceiverChannel
  rw [ExceptState.run_bind_of_ok hhandle]
  simp [htransfer, liftWallet, hparse, hsend, ExceptState.run_bind]

/-- The last node handles the payment to it and passes nothing on. -/
theorem run_handleMultiHopReceiverChannel_nil {peerId : AccountAddress}
    {request : ChannelTransactionRequest} {s s' : List Effect}
    (hhandle :
      ExceptState.run (node.handleChannelTransactionRequest peerId request) s = (.ok (), s')) :
    ExceptState.run (node.handleMultiHopReceiverChannel peerId ⟨request, []⟩) s =
      (.ok (), s') := by
  unfold handleMultiHopReceiverChannel
  rw [ExceptState.run_bind_of_ok hhandle]
  rfl

theorem isHtlcTransfer_of_sendPayment {participant : AccountAddress} {amount timeout : UInt64}
    {hashLock : List UInt8} {request : ChannelTransactionRequest}
    (h : node.sendPayment participant amount hashLock timeout = .ok request) :
    isHtlcTransfer node.defaultAddress request.channelTxn.operator = true := by
  rw [(node.wallet.executeAsync_channelTxn _ _ _ _ h).1]
  exact isChannelScriptCall_channelScriptOp _ _

theorem parseHtlcPayment_of_sendPayment {participant : AccountAddress} {amount timeout : UInt64}
    {hashLock : List UInt8} {request : ChannelTransactionRequest}
    (h : node.sendPayment participant amount hashLock timeout = .ok request)
    (hlock : hashLock.length = 32) :
    parseHtlcPayment request.channelTxn.args = .ok ⟨hashLock, amount, timeout⟩ := by
  rw [(node.wallet.executeAsync_channelTxn _ _ _ _ h).2]
  exact parseHtlcPayment_sendPaymentArgs _ _ _ hlock

/-- The addresses of a route whose `i`-th hop goes from `a_i` to `a_(i+1)`. -/
theorem balanceResponseToAddress_of_route {path : List BalanceQueryResponse}
    {a₀ a₁ : AccountAddress} {rest : List AccountAddress}
    (hroute : path.map (fun r => (r.localAddr, r.remoteAddr)) =
      (a₀ :: a₁ :: rest).zip (a₁ :: rest)) :
    balanceResponseToAddress path = .ok (a₀ :: a₁ :: rest) := by
  cases path with
  | nil => cases hroute
  | cons first later =>
    simp only [List.map_cons, List.zip_cons_cons, List.cons.injEq, Prod.mk.injEq] at hroute
    obtain ⟨⟨hlocal, hremote⟩, hlater⟩ := hroute
    -- the second components of the later hops are the addresses after `a₁`
    have hrest : later.map BalanceQueryResponse.remoteAddr = rest := by
      have hsnd := congrArg (List.map Prod.snd) hlater
      rwa [List.map_map, List.map_snd_zip (by simp)] at hsnd
    simp [balanceResponseToAddress, hlocal, hremote, hrest]

theorem checkBalance_of_le {path : List BalanceQueryResponse} {amount : UInt64}
    (h : ∀ r ∈ path, amount ≤ r.localBalance) : checkBalance path amount = true := by
  simp only [checkBalance, List.all_eq_true, Bool.not_eq_eq_eq_not, Bool.not_true,
    decide_eq_false_iff_not]
  intro r hr
  exact UInt64.not_lt.mpr (h r hr)

/-- The payer pays the route's first hop, carrying a hop for every address after it. -/
theorem run_offChainPayHtlc {path : List BalanceQueryResponse} {a₀ a₁ : AccountAddress}
    {rest : List AccountAddress} {amount timeout : UInt64} {hashLock : List UInt8}
    {request : ChannelTransactionRequest}
    (hroute : path.map (fun r => (r.localAddr, r.remoteAddr)) =
      (a₀ :: a₁ :: rest).zip (a₁ :: rest))
    (hbalance : ∀ r ∈ path, amount ≤ r.localBalance) (haccount : node.wallet.account = a₀)
    (hsend : node.sendPayment a₁ amount hashLock timeout = .ok request) (s : List Effect) :
    ExceptState.run (node.offChainPayHtlc (.ok path) amount hashLock timeout) s =
      (.ok (), s ++ [.send a₁ (.multiHopChannelTransactionRequest
        ⟨request, rest.map fun vertex => ⟨vertex, amount⟩⟩)]) := by
  simp [offChainPayHtlc, checkBalance_of_le hbalance, balanceResponseToAddress_of_route hroute,
    getMultiHopRequest, haccount, hsend]

end NodeInner

/-! ### Sample nodes -/

/-- A request from `account` to `participant` for a proposal, signed by nobody. -/
def sampleRequest (account participant : AccountAddress) (op : ChannelOp)
    (args : List TransactionArgument) : ChannelTransactionRequest :=
  ⟨⟨⟨0, participant, 0, op, args, account, 0, .fromSecs 0⟩, [], []⟩,
    ⟨account, [], [], [], [], none⟩, false⟩

/-- A wallet of `account` that builds every proposal it is asked for, approves every request,
and on verification accepts each request or refuses each (as a channel with a transaction
pending refuses). -/
def Wallet.sample (account : AccountAddress) (accepts : Bool) : Wallet where
  account := account
  executeAsync participant op args := .ok (sampleRequest account participant op args)
  executeAsync_channelTxn := by
    intro _ _ _ _ h
    cases h
    exact ⟨rfl, rfl⟩
  verifyTxn _ request :=
    if accepts then .ok (some ⟨request.proposal, request.channelTxnSigs⟩)
    else .error "already exists a different pending proposal"
  approveTxn _ _ := .ok ⟨(sampleRequest account account (.action [] "" "") []).proposal,
    ⟨account, [], [], [], [], none⟩⟩
  applyTxn _ _ := .ok ()

theorem Wallet.sample_succeeds (account : AccountAddress) (accepts : Bool) :
    (Wallet.sample account accepts).Succeeds :=
  ⟨fun _ _ _ => ⟨_, rfl⟩, fun _ _ => ⟨_, rfl⟩⟩

/-- A node of `account` with the sample wallet and no invoices. -/
def NodeInner.sample (account : AccountAddress) (accepts : Bool) : NodeInner :=
  ⟨.sample account accepts, ⟨[], []⟩, true, [], fun _ => List.replicate 32 0,
    fun _ => List.replicate 32 0⟩

namespace NodeInner

/-! ### Along a route -/

theorem multi_hop_route_followed {path : List BalanceQueryResponse} {a₀ a₁ : AccountAddress}
    {rest : List AccountAddress} {amount timeout : UInt64} {hashLock : HashValue}
    (hroute : path.map (fun r => (r.localAddr, r.remoteAddr)) =
      (a₀ :: a₁ :: rest).zip (a₁ :: rest))
    (hbalance : ∀ r ∈ path, amount ≤ r.localBalance) (hlock : hashLock.length = 32) :
    balanceResponseToAddress path = .ok (a₀ :: a₁ :: rest) ∧
    (∀ payer : NodeInner, payer.wallet.account = a₀ → payer.wallet.Succeeds →
      ∃ request, ExceptState.run (payer.offChainPayHtlc (.ok path) amount hashLock timeout) [] =
          (.ok (), [.send a₁ (.multiHopChannelTransactionRequest
            ⟨request, rest.map fun vertex => ⟨vertex, amount⟩⟩)]) ∧
        isHtlcTransfer payer.defaultAddress request.channelTxn.operator = true ∧
        parseHtlcPayment request.channelTxn.args = .ok ⟨hashLock, amount, timeout⟩) ∧
    (∀ (node : NodeInner) (peerId next : AccountAddress) (later : List AccountAddress)
        (request : ChannelTransactionRequest), node.wallet.Succeeds →
      isHtlcTransfer node.defaultAddress request.channelTxn.operator = true →
      parseHtlcPayment request.channelTxn.args = .ok ⟨hashLock, amount, timeout⟩ →
      ∃ effects forwarded,
        ExceptState.run (node.handleMultiHopReceiverChannel peerId
          ⟨request, (next :: later).map fun vertex => ⟨vertex, amount⟩⟩) [] =
          (.ok (), effects) ∧
        paymentsSent node.defaultAddress effects =
          [(next, forwarded, later.map fun vertex => ⟨vertex, amount⟩)] ∧
        parseHtlcPayment forwarded.channelTxn.args = .ok ⟨hashLock, amount, timeout⟩) ∧
    (∀ (node : NodeInner) (peerId : AccountAddress) (request : ChannelTransactionRequest),
      node.wallet.Succeeds →
      isHtlcTransfer node.defaultAddress request.channelTxn.operator = true →
      parseHtlcPayment request.channelTxn.args = .ok ⟨hashLock, amount, timeout⟩ →
      ∃ effects,
        ExceptState.run (node.handleMultiHopReceiverChannel peerId ⟨request, []⟩) [] =
          (.ok (), effects) ∧ paymentsSent node.defaultAddress effects = []) := by
  refine ⟨balanceResponseToAddress_of_route hroute, ?payer, ?relay, ?last⟩
  case payer =>
    intro payer haccount hwallet
    obtain ⟨request, hsend⟩ := hwallet.executeAsync a₁
      (channelScriptOp payer.defaultAddress "send_payment")
      (sendPaymentArgs a₁ amount hashLock timeout)
    exact ⟨request, payer.run_offChainPayHtlc hroute hbalance haccount hsend [],
      payer.isHtlcTransfer_of_sendPayment hsend,
      payer.parseHtlcPayment_of_sendPayment hsend hlock⟩
  case relay =>
    intro node peerId next later request hwallet htransfer hparse
    obtain ⟨effects, hrun, hpay⟩ :=
      node.paysNothing_handleChannelTransactionRequest hwallet htransfer hparse []
    rw [List.nil_append] at hrun
    obtain ⟨forwarded, hsend⟩ := hwallet.executeAsync next
      (channelScriptOp node.defaultAddress "send_payment")
      (sendPaymentArgs next amount hashLock timeout)
    refine ⟨_, forwarded, node.run_handleMultiHopReceiverChannel_cons hrun htransfer hparse hsend,
      ?_, node.parseHtlcPayment_of_sendPayment hsend hlock⟩
    -- the handled payment pays nothing, the next one is the payment, the record is none
    rw [paymentsSent_append, hpay]
    simp [paymentsSent, Effect.payment?, node.isHtlcTransfer_of_sendPayment hsend]
  case last =>
    intro node peerId request hwallet htransfer hparse
    obtain ⟨effects, hrun, hpay⟩ :=
      node.paysNothing_handleChannelTransactionRequest hwallet htransfer hparse []
    rw [List.nil_append] at hrun
    exact ⟨effects, node.run_handleMultiHopReceiverChannel_nil hrun, hpay⟩

theorem multi_hop_route_followed_two_hops :
    balanceResponseToAddress [⟨[0], [1], 10, 0, 0⟩, ⟨[1], [2], 10, 0, 0⟩] =
      .ok [[0], [1], [2]] ∧
    ∃ request, ExceptState.run ((NodeInner.sample [0] true).offChainPayHtlc
        (.ok [⟨[0], [1], 10, 0, 0⟩, ⟨[1], [2], 10, 0, 0⟩]) 5 (List.replicate 32 7) 100) [] =
      (.ok (), [.send [1] (.multiHopChannelTransactionRequest ⟨request, [⟨[2], 5⟩]⟩)]) ∧
      isHtlcTransfer [] request.channelTxn.operator = true ∧
      parseHtlcPayment request.channelTxn.args = .ok ⟨List.replicate 32 7, 5, 100⟩ := by
  have hroute := @multi_hop_route_followed
    [⟨[0], [1], 10, 0, 0⟩, ⟨[1], [2], 10, 0, 0⟩] [0] [1] [[2]] 5 100 (List.replicate 32 7) (by decide) (by decide) (by simp)
  exact ⟨hroute.1, hroute.2.1 (NodeInner.sample [0] true) rfl (Wallet.sample_succeeds _ _)⟩

/-- A node passes a payment on when it refused the one to it: the request that fails
verification is answered with an error, no response is sent or applied, and the next hop's
payment goes out before the previous hop is recorded. -/
theorem forwards_without_accepting {node : NodeInner} {peerId : AccountAddress}
    {request forwarded : ChannelTransactionRequest} {hop : NextHop} {hops : List NextHop}
    {payment : HtlcPayment} {e : String}
    (hverify : node.wallet.verifyTxn peerId request = .error e)
    (htransfer : isHtlcTransfer node.defaultAddress request.channelTxn.operator = true)
    (hparse : parseHtlcPayment request.channelTxn.args = .ok payment)
    (hsend : node.sendPayment hop.remoteAddr hop.amount payment.hashLock payment.timeout =
      .ok forwarded) :
    ExceptState.run (node.handleMultiHopReceiverChannel peerId ⟨request, hop :: hops⟩) [] =
      (.ok (), [.send peerId (.errorMessage (node.hashChannelTxn request.channelTxn)),
        .send hop.remoteAddr (.multiHopChannelTransactionRequest ⟨forwarded, hops⟩),
        .addPreviousHop payment.hashLock peerId]) :=
  node.run_handleMultiHopReceiverChannel_cons
    (node.run_handleChannelTransactionRequest_of_error hverify []) htransfer hparse hsend

theorem forwards_without_accepting_refused :
    ∃ forwarded, ExceptState.run ((NodeInner.sample [1] false).handleMultiHopReceiverChannel [0]
        ⟨sampleRequest [0] [1] (channelScriptOp [] "send_payment")
          (sendPaymentArgs [1] 5 (List.replicate 32 7) 100), [⟨[2], 5⟩]⟩) [] =
      (.ok (), [.send [0] (.errorMessage (List.replicate 32 0)),
        .send [2] (.multiHopChannelTransactionRequest ⟨forwarded, []⟩),
        .addPreviousHop (List.replicate 32 7) [0]]) :=
  ⟨_, @forwards_without_accepting (NodeInner.sample [1] false) [0]
    (sampleRequest [0] [1] (channelScriptOp [] "send_payment")
      (sendPaymentArgs [1] 5 (List.replicate 32 7) 100)) _ ⟨[2], 5⟩ [] _ _ rfl
    (isChannelScriptCall_channelScriptOp _ _)
    (parseHtlcPayment_sendPaymentArgs _ _ _ (by simp)) rfl⟩

end NodeInner
