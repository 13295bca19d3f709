import Stargate.Wallet.ChannelRun
import Stargate.Lib.Transition
import Stargate.Types.Message

/-!
# Stargate.Wallet.ChannelPair

The two participants of a channel, each with its channel actor, and the requests and responses
their wallets send each other (src/sgwallet/src/wallet.rs). `execute_async` has the channel
propose and sign, and sends the proposal with its signatures as a request; `verify_txn` hands a
request from its proposer to the channel (`CollectProposalWithSigs`) and sends back this
participant's signatures when the channel has signed; `approve_txn` grants the pending proposal
and sends its signatures; `verify_txn_response` hands a response to the channel; `reject_txn`
and `cancel_pending_request` cancel the pending proposal; `apply_txn` applies it. The network
keeps every message sent: any of them may be handed over late, more than once, out of order, or
never.

Each side's channel only takes steps of the channel actor (`reachable_channel`), so what
`Stargate.Wallet.ChannelRun` proves of one channel holds of each side. The two sides need not
agree on what they commit, though. A proposal cancelled by its proposer while its request is
still on the way can be signed and committed by the other side, while the proposer commits the
other side's proposal at the same channel sequence number (`cancelled_proposal_diverges`).
Restarts are left out: the divergence needs none.
-/

open ExceptState

/-- The two participants. -/
inductive Side where
  | a
  | b
  deriving DecidableEq, Repr

/-- The other participant. -/
def Side.other : Side → Side
  | .a => .b
  | .b => .a

/-- What one wallet sends the other about the channel. -/
inductive WalletMessage where
  | request (request : ChannelTransactionRequest)
  | response (response : ChannelTransactionResponse)
  deriving DecidableEq

/-- The two channels, and every message sent to each side. -/
structure ChannelPair where
  channel : Side → Channel
  inbox : Side → List WalletMessage

namespace ChannelPair

variable (codec : AddressCodec) (hashing : Hashing) (libra : Libra)

/-- Replace a side's channel. -/
def setChannel (s : ChannelPair) (side : Side) (ch : Channel) : ChannelPair :=
  { s with channel := Function.update s.channel side ch }

/-- Send messages to a side. -/
def send (s : ChannelPair) (side : Side) (messages : List WalletMessage) : ChannelPair :=
  { s with inbox := Function.update s.inbox side (s.inbox side ++ messages) }

/-- The request `execute_async` sends when the channel has proposed. -/
def requestOf :
    Except Failure (ChannelTransactionProposal × ChannelTransactionSigs × TransactionOutput) →
      List WalletMessage
  | .ok (proposal, sigs, output) => [.request ⟨proposal, sigs, output.isTravelTxn⟩]
  | .error _ => []

/-- The response `verify_txn` sends when the channel has signed. -/
def responseOf (proposal : ChannelTransactionProposal) :
    Except Failure (Option ChannelTransactionSigs) → List WalletMessage
  | .ok (some sigs) => [.response ⟨proposal, sigs⟩]
  | _ => []

/-- The response `approve_txn` sends: the pending proposal it read, with the signatures the
grant returned. -/
def approvalOf (pendingTxn : Option PendingTransaction) :
    Except Failure ChannelTransactionSigs → List WalletMessage
  | .ok sigs =>
    match pendingTxn with
    | some p => [.response ⟨p.proposal, sigs⟩]
    | none => []
  | .error _ => []

/-- Both channels loaded over empty storage, over one channel address, and nothing sent. -/
def fresh (participants : SortedSet AccountAddress) (channelAddress : AccountAddress)
    (account : Side → AccountAddress) (keypair : Side → KeyPair) : Result ChannelPair := do
  let a ← Channel.load codec participants channelAddress (account .a) (keypair .a) SgStorage.empty
  let b ← Channel.load codec participants channelAddress (account .b) (keypair .b) SgStorage.empty
  pure ⟨fun side => match side with
    | .a => a
    | .b => b, fun _ => []⟩

/-- A pair as its wallets open the channel: two distinct participants, both channels fresh. -/
def Init (s : ChannelPair) : Prop :=
  ∃ (participants : SortedSet AccountAddress) (channelAddress : AccountAddress)
    (account : Side → AccountAddress) (keypair : Side → KeyPair),
    account .a ≠ account .b ∧ (∀ side, participants.contains (account side) = true) ∧
    fresh codec participants channelAddress account keypair = .ok s

/-- A step of one wallet. A channel message handled without a panic, which would stop the
actor; an `Err` goes back to the caller, the channel keeps what the handler left, and nothing is
sent. -/
inductive Step : ChannelPair → ChannelPair → Prop
  /-- `execute_async`. -/
  | executeAsync (s : ChannelPair) (side : Side) (chain : ChainSnapshot) (channelOp : ChannelOp)
      (args : List TransactionArgument) {r ch}
      (hrun : run (Channel.execute libra chain channelOp args) (s.channel side) = (r, ch))
      (hpanic : ∀ msg, r ≠ .error (.panic msg)) :
      Step s ((s.setChannel side ch).send side.other (requestOf r))
  /-- `verify_txn`, on a request whose proposer is the peer it came from and whose channel
  address is this channel's (the wallet's two `ensure!`s). -/
  | verifyTxn (s : ChannelPair) (side : Side) (request : ChannelTransactionRequest) {r ch}
      (hmem : .request request ∈ s.inbox side)
      (hproposer : request.channelTxn.proposer = (s.channel side.other).accountAddress)
      (haddress : request.channelTxn.channelAddress = (s.channel side).stm.channelAddress)
      (hrun : run (Channel.collectProposalWithSigs libra request.proposal request.channelTxnSigs)
        (s.channel side) = (r, ch))
      (hpanic : ∀ msg, r ≠ .error (.panic msg)) :
      Step s ((s.setChannel side ch).send side.other (responseOf request.proposal r))
  /-- `approve_txn`. -/
  | approveTxn (s : ChannelPair) (side : Side) (requestId : HashValue) {r ch}
      (hrun : run (Channel.grantProposal libra requestId) (s.channel side) = (r, ch))
      (hpanic : ∀ msg, r ≠ .error (.panic msg)) :
      Step s ((s.setChannel side ch).send side.other (approvalOf (s.channel side).pendingTxn r))
  /-- `verify_txn_response`. -/
  | verifyTxnResponse (s : ChannelPair) (side : Side) (response : ChannelTransactionResponse)
      {r ch} (hmem : .response response ∈ s.inbox side)
      (hrun : run (Channel.collectProposalWithSigs libra response.proposal
        response.channelTxnSigs) (s.channel side) = (r, ch))
      (hpanic : ∀ msg, r ≠ .error (.panic msg)) :
      Step s (s.setChannel side ch)
  /-- `reject_txn` and `cancel_pending_request`. -/
  | cancelPendingTxn (s : ChannelPair) (side : Side) (requestId : HashValue) {r ch}
      (hrun : run (Channel.cancelPendingTxn libra requestId) (s.channel side) = (r, ch))
      (hpanic : ∀ msg, r ≠ .error (.panic msg)) :
      Step s (s.setChannel side ch)
  /-- `apply_txn`, with what submitting a travel transaction answers. -/
  | applyTxn (s : ChannelPair) (side : Side) (now : UInt64) (submit : Result Unit) {r ch}
      (hrun : run (Channel.applyPendingTxn codec hashing libra now submit) (s.channel side) =
        (r, ch))
      (hpanic : ∀ msg, r ≠ .error (.panic msg)) :
      Step s (s.setChannel side ch)

/-! ### Each side is a channel actor -/

@[simp] theorem channel_setChannel (s : ChannelPair) (side side' : Side) (ch : Channel) :
    (s.setChannel side ch).channel side' = if side' = side then ch else s.channel side' := by
  simp only [setChannel, Function.update_apply]

@[simp] theorem channel_send (s : ChannelPair) (side side' : Side)
    (messages : List WalletMessage) : (s.send side messages).channel side' = s.channel side' :=
  rfl

theorem channel_of_fresh {participants : SortedSet AccountAddress}
    {channelAddress : AccountAddress} {account : Side → AccountAddress}
    {keypair : Side → KeyPair} {s : ChannelPair}
    (h : fresh codec participants channelAddress account keypair = .ok s) (side : Side) :
    Channel.load codec participants channelAddress (account side) (keypair side)
      SgStorage.empty = .ok (s.channel side) := by
  simp only [fresh] at h
  -- each load either fails, failing `fresh`, or gives the side's channel
  cases ha : Channel.load codec participants channelAddress (account .a) (keypair .a)
    SgStorage.empty with
  | error e => rw [ha] at h; cases h
  | ok a =>
    cases hb : Channel.load codec participants channelAddress (account .b) (keypair .b)
      SgStorage.empty with
    | error e => rw [ha, hb] at h; cases h
    | ok b =>
      rw [ha, hb] at h
      cases h
      cases side
      · exact ha
      · exact hb

/-- A handler of the wallet's is the channel actor's handler of its message, with the reply
dropped. -/
theorem channelStep_of_run {α : Type} {m : ChannelM α} (message : Channel.Message)
    (hhandle : Channel.handle codec hashing libra message = (m >>= fun _ => pure ()))
    {ch ch' : Channel} {r : Except Failure α} (hrun : run m ch = (r, ch'))
    (hpanic : ∀ msg, r ≠ .error (.panic msg)) :
    Channel.Step codec hashing libra ch message ch' := by
  refine ⟨r.map fun _ => (), by rw [hhandle, run_bind_pure, hrun], fun msg hmsg => ?_⟩
  cases r with
  | error e =>
    cases hmsg
    exact hpanic msg rfl
  | ok a => cases hmsg

/-- A step that moves one side's channel by a step of the actor moves no other channel. -/
theorem next_or_eq_of_setChannel {s : ChannelPair} {side : Side} {ch : Channel}
    (hnext : Channel.Next codec hashing libra (s.channel side) ch) (side' : Side) :
    (s.setChannel side ch).channel side' = s.channel side' ∨
      Channel.Next codec hashing libra (s.channel side')
        ((s.setChannel side ch).channel side') := by
  rw [channel_setChannel]
  by_cases hside : side' = side
  · subst hside
    rw [if_pos rfl]
    exact .inr hnext
  · rw [if_neg hside]
    exact .inl rfl

theorem next_or_eq_of_step {s s' : ChannelPair} (h : Step codec hashing libra s s')
    (side : Side) :
    s'.channel side = s.channel side ∨
      Channel.Next codec hashing libra (s.channel side) (s'.channel side) := by
  cases h with
  | executeAsync side' chain channelOp args hrun hpanic =>
    exact next_or_eq_of_setChannel codec hashing libra
      ⟨_, channelStep_of_run codec hashing libra
        (.execute chain channelOp args) rfl hrun hpanic⟩ side
  | verifyTxn side' request _ _ _ hrun hpanic =>
    exact next_or_eq_of_setChannel codec hashing libra
      ⟨_, channelStep_of_run codec hashing libra
        (.collectProposalWithSigs request.proposal request.channelTxnSigs) rfl hrun hpanic⟩ side
  | approveTxn side' requestId hrun hpanic =>
    exact next_or_eq_of_setChannel codec hashing libra
      ⟨_, channelStep_of_run codec hashing libra
        (.grantProposal requestId) rfl hrun hpanic⟩ side
  | verifyTxnResponse side' response _ hrun hpanic =>
    exact next_or_eq_of_setChannel codec hashing libra
      ⟨_, channelStep_of_run codec hashing libra
        (.collectProposalWithSigs response.proposal response.channelTxnSigs) rfl hrun hpanic⟩ side
  | cancelPendingTxn side' requestId hrun hpanic =>
    exact next_or_eq_of_setChannel codec hashing libra
      ⟨_, channelStep_of_run codec hashing libra
        (.cancelPendingTxn requestId) rfl hrun hpanic⟩ side
  | applyTxn side' now submit hrun hpanic =>
    exact next_or_eq_of_setChannel codec hashing libra
      ⟨_, channelStep_of_run codec hashing libra
        (.applyPendingTxn now submit) rfl hrun hpanic⟩ side

theorem cancelled_proposal_diverges :
    ∃ s : ChannelPair,
      Reachable (Init AddressCodec.raw) (Step AddressCodec.raw Hashing.zero Libra.toy) s ∧
      ∃ tA tB : AppliedChannelTxn,
        (s.channel .a).store.getTransactionByChannelSeqNumber (s.channel .a).db 0 = .ok tA ∧
        (s.channel .b).store.getTransactionByChannelSeqNumber (s.channel .b).db 0 = .ok tB ∧
        tA ≠ tB := by
  -- both channels fresh over channel address [0], for participants [1] (side a) and [2] (side b)
  have h₀ := @Reachable.init _ (Init AddressCodec.raw)
    (Step AddressCodec.raw Hashing.zero Libra.toy) _
    ⟨SortedMap.ofList [([1], ()), ([2], ())], [0],
      fun side => match side with
        | .a => [1]
        | .b => [2],
      fun side => match side with
        | .a => ⟨[1], [1]⟩
        | .b => ⟨[2], [2]⟩, by decide, fun side => by cases side <;> rfl, rfl⟩
  -- a proposes action f; its request to b is held up
  have h₁ := h₀.step (Step.executeAsync _ .a ⟨0, some 0, 0⟩ (.action [] "M" "f") [] rfl
    (fun _ h => by cases h))
  -- a cancels its proposal (`cancel_pending_request`), its id being its hash
  have h₂ := h₁.step (Step.cancelPendingTxn _ .a [1] rfl (fun _ h => by cases h))
  -- b proposes action g, and its request reaches a
  have h₃ := h₂.step (Step.executeAsync _ .b ⟨0, some 0, 0⟩ (.action [] "M" "g") [] rfl
    (fun _ h => by cases h))
  -- a signs b's proposal, answers, and commits it at channel sequence number 0
  have h₄ := h₃.step (Step.verifyTxn _ .a
    ⟨⟨⟨0, [0], 0, .action [] "M" "g", [], [2], 0, .fromSecs 0⟩, [2], [2, 2]⟩,
      ⟨[2], [2], [2], [], [2], none⟩, false⟩ (by decide) rfl rfl rfl (fun _ h => by cases h))
  have h₅ := h₄.step (Step.applyTxn _ .a 0 (.ok ()) rfl (fun _ h => by cases h))
  -- b cancels its proposal before a's answer reaches it
  have h₆ := h₅.step (Step.cancelPendingTxn _ .b [2] rfl (fun _ h => by cases h))
  -- a's request reaches b late; b signs it, answers, and commits it at the same number
  have h₇ := h₆.step (Step.verifyTxn _ .b
    ⟨⟨⟨0, [0], 0, .action [] "M" "f", [], [1], 0, .fromSecs 0⟩, [1], [1, 1]⟩,
      ⟨[1], [1], [1], [], [1], none⟩, false⟩ (by decide) rfl rfl rfl (fun _ h => by cases h))
  have h₈ := h₇.step (Step.applyTxn _ .b 0 (.ok ()) rfl (fun _ h => by cases h))
  exact ⟨_, h₈, _, _, rfl, rfl, by decide⟩

end ChannelPair
