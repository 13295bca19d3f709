import Stargate.Wallet.ChannelRun

/-!
# Stargate.Wallet.ChannelActor

The whole channel actor (src/sgwallet/src/channel/channel.rs and mod.rs): the five negotiation
handlers of `Stargate.Wallet.Channel`, the two that only read (`AccessingResource`,
`GetPendingTxn`), and the handlers that follow a transaction on chain: `WatchAndApplyTravelTxn`,
`ApplyCoSignedTxn`, `ApplySoloTxn`, `ChannelLockTimeout` and `ChannelStageChange`, with
`solo_action` and `apply_travel`. And restarts: the wallet loads the channel again from its
storage, `bootstrap` syncs it with the chain, and `started` resumes its pending transaction.

The chain is outside the model: what the chain client and the chain watcher answer while one
message is handled is the message's `ChainReplies`. `ApplyCoSignedTxn` and `ApplySoloTxn` are
private messages the actor only sends itself, through `self.handle(..)`, so they are called in
place. What the actor sends itself for later (the `WatchAndApplyTravelTxn` a solo action
notifies, the `ChannelLockTimeout` of the watcher's task, the `ChannelStageChange`s of the
event stream) is a later message, which a run may deliver at any point. A handler that sets the
actor's status to `Stopping` returns `true`; a panic (`unimplemented!()`, `unwrap`, `expect`,
`assert!`) also ends the actor, and a stopped actor handles nothing until a restart. The
`debug_assert`s are left out (a release build), and so is the gas a handler returns where its
caller drops it.

`next` computes the actor's step on an event, so that runs on small inputs are evaluated. Two
runs of two-party channels close the module. In one, a `ChannelStageChange` for a lock by the
other participant returns `Err` after its solo action saved a new pending transaction. In the
other, a participant commits off chain a proposal it never signed, with another participant's
signatures stored under its address.
-/

open ExceptState

/-- libra's `TransactionInfo`, what the handlers read of it. -/
structure TransactionInfo where
  majorStatus : UInt64
  gasUsed : UInt64

/-- libra's `Transaction`, as the chain client returns it. -/
inductive ChainTransaction where
  /-- A user transaction with a channel payload: a travel transaction. -/
  | channel (txn : TravelTransaction)
  /-- A user transaction with another payload. -/
  | otherUser
  /-- A transaction that is not a user one. -/
  | notUser

/-- `TransactionWithProof`: a transaction on chain, with its version, its events and its info. -/
structure TransactionWithProof where
  version : UInt64
  transaction : ChainTransaction
  events : List (List UInt8)
  txnInfo : TransactionInfo

/-- What the chain client and the chain watcher answer while the actor handles one message. -/
structure ChainReplies where
  /-- The time a commit is stamped with. -/
  now : UInt64
  /-- What `generate_proposal` reads for the `Execute` of a solo action. -/
  snapshot : ChainSnapshot
  /-- `submit_transaction` of a travel transaction. -/
  submit : Result Unit
  /-- `add_interest` of the chain watcher. -/
  interest : Result Unit
  /-- The channel's account state at a version, if the account exists there. -/
  channelState : UInt64 → Result (Option AccountState)
  /-- The transaction of a sender and an account sequence number, once it is on chain. -/
  transactionBySeqNum : AccountAddress → UInt64 → Result (Option TransactionWithProof)
  /-- The transaction at a version (`get_transaction_async`). -/
  transactionAt : UInt64 → Result (Option TransactionWithProof)

namespace ChainReplies

/-- `get_account_state`: the account state at a version, which must exist. -/
def getAccountState (chain : ChainReplies) (version : UInt64) : Result AccountState :=
  match chain.channelState version with
  | .ok (some s) => .ok s
  | .ok none => .error "can not find account by address:"
  | .error e => .error e

/-- `watch_transaction` (wallet.rs): the transaction of a sender and sequence number. -/
def watchTransaction (chain : ChainReplies) (sender : AccountAddress) (seqNumber : UInt64) :
    Result TransactionWithProof :=
  match chain.transactionBySeqNum sender seqNumber with
  | .ok (some proof) => .ok proof
  | .ok none => .error "proof not found by address and seq num ."
  | .error e => .error e

end ChainReplies

/-- `channel_challenge_name()` (utils/contract.rs). -/
def channelChallengeName : String := "challenge"

/-- `channel_resolve_name()` (utils/contract.rs). -/
def channelResolveName : String := "resolve"

/-- `channel_close_name()` (utils/contract.rs). -/
def channelCloseName : String := "close"

namespace Channel

variable (codec : AddressCodec) (hashing : Hashing) (libra : Libra)

/-- The operation of a solo action: a call of one of the account module's channel functions. -/
def soloOp (functionName : String) : ChannelOp :=
  .action libra.coreCodeAddress libra.accountModuleName functionName

/-- `Channel::apply_travel`: fetch the channel's state at the transaction's version, commit the
travel transaction with an empty write set (the commit clears the pending transaction), and
move the state machine to the fetched state, the latest witness and the keys. -/
def applyTravel (chain : ChainReplies) (version : UInt64) (signedTxn : TravelTransaction)
    (txnInfo : TransactionInfo) (events : List (List UInt8)) : ChannelM Unit := do
  let txnToCommit : ChannelTransactionToCommit :=
    ⟨.travel signedTxn, [], events, txnInfo.majorStatus, txnInfo.gasUsed⟩
  let channelAddressState ← liftStm (Failure.lift (chain.getAccountState version))
  let ch ← get
  let (txApplier, db) ← liftStm (Failure.lift
    (TxApplier.apply codec hashing chain.now ch.txApplier ch.db txnToCommit))
  set { ch with
    db := db
    txApplier := txApplier
    stm := ch.stm.advanceState (some ⟨ch.stm.channelAddress, channelAddressState⟩)
      (txApplier.store.latestWitness.getD Witness.default) txApplier.store.getParticipantKeys }

/-- `Channel::solo_action`: propose and sign a transaction alone (`Execute`) and send it on
chain (`ApplyPendingTxn`, which must take the travelling branch). Returns the sender and the
sequence number the actor then watches (the `notify` of `WatchAndApplyTravelTxn`). -/
def soloAction (chain : ChainReplies) (channelOp : ChannelOp) (args : List TransactionArgument) :
    ChannelM (AccountAddress × UInt64) := do
  let _ ← execute libra chain.snapshot channelOp args
  match ← applyPendingTxn codec hashing libra chain.now chain.submit with
  | some travel => pure travel
  | none => throw (.error "expect solo channel txn not applying")

/-- `Channel::watch_channel_lock_timeout`: ask the chain watcher for the first block past the
lock's time lock; the task it spawns then sends `ChannelLockTimeout`. -/
def watchChannelLockTimeout (chain : ChainReplies) : ChannelM Unit := do
  let ch ← get
  match ← liftStm (ch.stm.channelLockByResource libra) with
  | some _ => liftStm (Failure.lift chain.interest)
  | none => throw (.panic "expect lock_by resource exists")

/-- The travel transaction of a chain transaction, as `ApplyCoSignedTxn` and `ApplySoloTxn`
take it apart: a user transaction, with a channel payload. -/
def travelTxn : ChainTransaction → Except Failure TravelTransaction
  | .channel txn => .ok txn
  | .otherUser => .error (.error "should be channel txn")
  | .notUser => .error (.error "should be user txn")

/-! ### Handlers of transactions on chain -/

/-- `Handler<ApplyCoSignedTxn>`: a travel transaction every participant signed. An outdated one
must be the travel transaction committed at its channel sequence number (the rest is
`unimplemented!()`); a current one is committed, and the actor stops when it closed the channel.
The event stream an opening starts is outside the model. -/
def applyCoSignedTxn (chain : ChainReplies) (txn : ChainTransaction) (txnInfo : TransactionInfo)
    (version : UInt64) (events : List (List UInt8)) : ChannelM Bool := do
  let signedTxn ← liftStm (travelTxn txn)
  let ch ← get
  let localChannelSeqNumber ← liftStm (ch.stm.channelSequenceNumber libra)
  if signedTxn.channelSequenceNumber < localChannelSeqNumber then
    match ← checkApplied signedTxn.channelSequenceNumber with
    | none => throw (.panic "called Option::unwrap() on a None value")
    | some (.travel s) =>
        if libra.hashRawTxn s = libra.hashRawTxn signedTxn then pure false
        else throw (.panic "not implemented")
    | some (.offchain _) => throw (.panic "not implemented")
  else
    applyTravel codec hashing chain version signedTxn txnInfo events
    let ch ← get
    match ← liftStm (ch.stm.channelResource libra) with
    | none => throw (.error "channel resource should exists in local")
    | some channelResource => pure (!channelResource.opened && channelResource.closed)

/-- `Handler<ApplySoloTxn>`: a travel transaction one participant sent alone. An outdated one is
accepted when it is the committed travel transaction, and challenged when another participant
sent it over an off-chain commit (the rest is `unimplemented!()`). A current one is committed;
then a lock by this participant is watched until it times out, a lock by another participant is
resolved, and a close stops the actor. -/
def applySoloTxn (chain : ChainReplies) (txn : ChainTransaction) (txnInfo : TransactionInfo)
    (version : UInt64) (events : List (List UInt8)) : ChannelM Bool := do
  let signedTxn ← liftStm (travelTxn txn)
  let ch ← get
  let localChannelSeqNumber ← liftStm (ch.stm.channelSequenceNumber libra)
  -- the source reads the payload's channel sequence number here, the witness's elsewhere; the
  -- model has the one the witness carries
  if signedTxn.channelSequenceNumber < localChannelSeqNumber then
    match ← checkApplied signedTxn.channelSequenceNumber with
    | none => throw (.panic "called Option::unwrap() on a None value")
    | some (.travel s) =>
        if libra.hashRawTxn s = libra.hashRawTxn signedTxn then pure false
        else throw (.panic "not implemented")
    | some (.offchain _) =>
        if ch.accountAddress = signedTxn.sender then throw (.panic "not implemented")
        else
          let _ ← soloAction codec hashing libra chain (soloOp libra channelChallengeName) []
          pure false
  else
    applyTravel codec hashing chain version signedTxn txnInfo events
    let ch ← get
    match ← liftStm (ch.stm.channelResource libra) with
    | none => throw (.error "channel resource should exists in local")
    | some channelResource =>
        if channelResource.locked then
          if ch.accountAddress = signedTxn.sender then
            -- the `unwrap` of the lock whose time lock it logs
            match ← liftStm (ch.stm.channelLockByResource libra) with
            | none => throw (.panic "called Option::unwrap() on a None value")
            | some _ =>
                watchChannelLockTimeout libra chain
                pure false
          else
            let _ ← soloAction codec hashing libra chain (soloOp libra channelResolveName) []
            pure false
        else pure channelResource.closed

/-- `Handler<WatchAndApplyTravelTxn>`: wait for a travel transaction on chain and apply it, as a
solo transaction unless every participant signed it. Returns its gas and whether the actor
stops. The error of a transaction that is not a user one is libra's. -/
def watchAndApplyTravelTxn (chain : ChainReplies) (sender : AccountAddress)
    (seqNumber : UInt64) : ChannelM (UInt64 × Bool) := do
  let t ← liftStm (Failure.lift (chain.watchTransaction sender seqNumber))
  let isSolo ← match t.transaction with
    | .channel txn => pure !txn.isAuthorized
    | .otherUser => throw (.error "invalid channel travel txn")
    | .notUser => throw (.error "Not a user transaction.")
  let stop ←
    if isSolo then applySoloTxn codec hashing libra chain t.transaction t.txnInfo t.version t.events
    else applyCoSignedTxn codec hashing libra chain t.transaction t.txnInfo t.version t.events
  pure (t.txnInfo.gasUsed, stop)

/-- `Handler<ChannelLockTimeout>`: once the lock has timed out, close the channel alone in favour
of the first other participant; a lock already resolved needs nothing. -/
def channelLockTimeout (chain : ChainReplies) (blockHeight timeLock : UInt64) : ChannelM Unit := do
  if ¬ timeLock < blockHeight then throw (.error "invalid lock timeout msg")
  let ch ← get
  match ← liftStm (ch.stm.channelLockByResource libra) with
  | none => pure ()
  | some _ =>
      match (ch.stm.participantAddresses.erase ch.accountAddress).keys with
      | [] => throw (.panic "should contain at least 1 participants")
      | ps :: _ =>
          let _ ← soloAction codec hashing libra chain (soloOp libra channelCloseName) [.address ps]
          pure ()

/-- `Handler<ChannelStageChange>`: a stage change of the channel on chain, from the transaction at
a version; a solo transaction of another participant there is applied. Returns whether the
actor stops. -/
def channelStageChange (chain : ChainReplies) (version : UInt64) : ChannelM Bool := do
  let ch ← get
  if version ≤ ch.stm.channelState.version then return false
  let t ← match ← liftStm (Failure.lift (chain.transactionAt version)) with
    | some t => pure t
    | none => throw (.error "get_transaction return empty txn for version")
  match t.transaction with
  | .notUser => throw (.panic "called Result::unwrap() on an Err value")
  | .otherUser => pure false
  | .channel txn =>
      if !txn.isAuthorized && ch.accountAddress ≠ txn.sender then
        applySoloTxn codec hashing libra chain t.transaction t.txnInfo version t.events
      else pure false

/-- `Handler<AccessingResource>`: the data at an access path as the channel reads it locally. -/
def accessingResource (path : AccessPath) : ChannelM (Option (List UInt8)) := do
  let ch ← get
  liftStm (Failure.lift (accessLocal ch.stm.witness.data.writeSet ch.stm.channelState path))

/-- `Handler<GetPendingTxn>`. -/
def getPendingTxn : ChannelM (Option PendingTransaction) := do
  let ch ← get
  pure ch.pendingTxn

/-! ### Restarts -/

/-- `Channel::bootstrap`: a channel that has committed syncs its state machine with the chain
state at the last travel transaction it committed, the ledger info's epoch. -/
def bootstrap (chain : ChainReplies) : ChannelM Unit := do
  let ch ← get
  match ← liftStm (Failure.lift (ch.store.getStartupInfo ch.db)) with
  | none => pure ()
  | some startupInfo =>
      let lastSyncPoint := startupInfo.ledgerInfo.epoch
      match ← liftStm (Failure.lift (ch.store.getTransactionByChannelSeqNumber ch.db lastSyncPoint)) with
      | .offchain _ => throw (.panic "assertion failed: applied_txn.signed_transaction.travel()")
      | .travel txn =>
          let txnWithProof ←
            match ← liftStm (Failure.lift (chain.transactionBySeqNum txn.sender txn.sequenceNumber)) with
            | some t => pure t
            | none => throw (.panic "called Option::unwrap() on a None value")
          let channelState ←
            match ← liftStm (Failure.lift (chain.channelState txnWithProof.version)) with
            | some s => pure s
            | none => throw (.error "channel state should exists")
          set { ch with
            stm := ch.stm.advanceState (some ⟨ch.stm.channelAddress, channelState⟩)
              (ch.store.latestWitness.getD Witness.default) ch.store.getParticipantKeys }

/-- A handler `started` calls: its `Err` comes back as a value, to be logged, and a panic still
ends the actor. -/
def attempt {α : Type} (m : ChannelM α) : ChannelM (Result α) :=
  tryCatch (Except.ok <$> m) fun
    | .error e => pure (.error e)
    | .panic msg => throw (.panic msg)

/-- `Channel::started`: resume the pending transaction. An `Agreed` one is applied, and watched
on chain when it travels; a `Traveling` one is watched. A handler's `Err` stops the actor, and
what it wrote stays. Returns whether the actor stops. The event stream it starts for a channel
with a channel resource is outside the model. -/
def started (chain : ChainReplies) : ChannelM Bool := do
  let ch ← get
  match ch.pendingTxn with
  | none => pure false
  | some pendingProposal =>
      match pendingProposal.lifecycle with
      | .agreed =>
          match ← attempt (applyPendingTxn codec hashing libra chain.now chain.submit) with
          | .error _ => pure true
          | .ok none => pure false
          | .ok (some (txnSender, seqNumber)) =>
              match ← attempt (watchAndApplyTravelTxn codec hashing libra chain txnSender seqNumber) with
              | .error _ => pure true
              | .ok (_, stop) => pure stop
      | .traveling =>
          let channelTxn := pendingProposal.proposal.channelTxn
          match ← attempt (watchAndApplyTravelTxn codec hashing libra chain channelTxn.proposer
              channelTxn.sequenceNumber) with
          | .error _ => pure true
          | .ok (_, stop) => pure stop
      | _ => pure false

/-! ### The actor -/

/-- The messages of the channel actor. -/
inductive ActorMessage where
  /-- `Execute`, `CollectProposalWithSigs`, `GrantProposal`, `CancelPendingTxn` or
  `ApplyPendingTxn`. -/
  | negotiate (m : Message)
  | accessingResource (path : AccessPath)
  | getPendingTxn
  | watchAndApplyTravelTxn (sender : AccountAddress) (seqNumber : UInt64) (chain : ChainReplies)
  | channelLockTimeout (blockHeight timeLock : UInt64) (chain : ChainReplies)
  /-- The stage and the event number it carries are not read. -/
  | channelStageChange (version : UInt64) (chain : ChainReplies)

/-- A negotiation message, with the stop of `CancelPendingTxn` for a proposal that opens the
channel. -/
def handleNegotiation : Message → ChannelM Bool
  | .cancelPendingTxn channelTxnId => cancelPendingTxn libra channelTxnId
  | m => do
      handle codec hashing libra m
      pure false

/-- Handle one message; returns whether the actor stops. -/
def handleActor : ActorMessage → ChannelM Bool
  | .negotiate m => handleNegotiation codec hashing libra m
  | .accessingResource path => do
      let _ ← accessingResource path
      pure false
  | .getPendingTxn => do
      let _ ← getPendingTxn
      pure false
  | .watchAndApplyTravelTxn sender seqNumber chain => do
      let (_, stop) ← watchAndApplyTravelTxn codec hashing libra chain sender seqNumber
      pure stop
  | .channelLockTimeout blockHeight timeLock chain => do
      channelLockTimeout codec hashing libra chain blockHeight timeLock
      pure false
  | .channelStageChange version chain => channelStageChange codec hashing libra chain version

end Channel

/-- The channel actor: its channel, and whether it has stopped. -/
structure ChannelActor where
  channel : Channel
  stopped : Bool

/-- What happens to the actor: it handles a message, or the wallet restarts. -/
inductive ActorEvent where
  | message (m : Channel.ActorMessage)
  /-- The wallet loads the channel from its storage and starts it (`spawn_channel`). -/
  | restart (chain : ChainReplies)

namespace ChannelActor

variable (codec : AddressCodec) (hashing : Hashing) (libra : Libra)

/-- Whether a handler's outcome stops the actor: a panic does, an `Err` goes back to the sender,
and a handler that returns may have set the actor stopping. -/
def stops : Except Failure Bool → Bool
  | .ok stop => stop
  | .error (.error _) => false
  | .error (.panic _) => true

/-- The actor after an event. A stopped actor handles no message. A restart loads the channel
from its storage with the participants stored there (`Channel::load` panics, and the wallet
stops, when that fails), syncs it with the chain and starts it; an actor whose `bootstrap`
fails is not started. -/
def next (a : ChannelActor) : ActorEvent → Option ChannelActor
  | .message m =>
      if a.stopped then none
      else
        let (r, ch') := run (Channel.handleActor codec hashing libra m) a.channel
        some ⟨ch', stops r⟩
  | .restart chain =>
      match Channel.load codec .empty a.channel.stm.channelAddress a.channel.stm.accountAddress
          a.channel.stm.keypair a.channel.db with
      | .error _ => none
      | .ok ch₀ =>
          match run (Channel.bootstrap chain) ch₀ with
          | (.error _, ch₁) => some ⟨ch₁, true⟩
          | (.ok (), ch₁) =>
              let (r, ch₂) := run (Channel.started codec hashing libra chain) ch₁
              some ⟨ch₂, stops r⟩

/-- A step of the actor on an event. -/
def Step (a : ChannelActor) (e : ActorEvent) (a' : ChannelActor) : Prop :=
  next codec hashing libra a e = some a'

/-- A fresh channel, running. -/
def Init (a : ChannelActor) : Prop := Channel.Init codec a.channel ∧ a.stopped = false

/-- Some event takes the actor from one state to the next. -/
def Next (a a' : ChannelActor) : Prop := ∃ e, Step codec hashing libra a e a'

end ChannelActor

/-! ### The negotiation steps of the actor -/

namespace Channel

variable (codec : AddressCodec) (hashing : Hashing) (libra : Libra)

/-- A negotiation message changes the channel as `handle` does and fails as it does: `handle`
drops only the stop `CancelPendingTxn` returns. -/
theorem run_handleNegotiation (m : Message) (ch : Channel) :
    (run (handleNegotiation codec hashing libra m) ch).2 =
        (run (handle codec hashing libra m) ch).2 ∧
      ∀ f, (run (handleNegotiation codec hashing libra m) ch).1 = .error f ↔
        (run (handle codec hashing libra m) ch).1 = .error f := by
  cases m with
  | cancelPendingTxn channelTxnId =>
      rw [handleNegotiation, handle, run_bind_pure]
      exact ⟨rfl, fun f => (Except.map_eq_error_iff _ _ f).symm⟩
  | _ => simp [handleNegotiation, Except.map_eq_error_iff]

end Channel

namespace ChannelActor

variable (codec : AddressCodec) (hashing : Hashing) (libra : Libra)

/-- The running actor's step on a message. -/
theorem step_message {a a' : ChannelActor} {m : Channel.ActorMessage}
    (h : Step codec hashing libra a (.message m) a') :
    a.stopped = false ∧ a'.channel = (run (Channel.handleActor codec hashing libra m) a.channel).2 ∧
      a'.stopped = stops (run (Channel.handleActor codec hashing libra m) a.channel).1 := by
  unfold Step next at h
  dsimp only at h
  cases hstopped : a.stopped
  · rw [hstopped, if_neg Bool.false_ne_true] at h
    cases h
    exact ⟨rfl, rfl, rfl⟩
  · rw [hstopped, if_pos rfl] at h
    cases h

end ChannelActor

/-! ### Travel commits -/

/-- The chain after participant `[2]` of channel `[0]` locked the channel alone, in the
transaction at version `1`: the channel's state there holds a locked channel resource. The
chain refuses the transaction submitted next. -/
def ChainReplies.lockedByPeer : ChainReplies where
  now := 0
  snapshot := ⟨0, some 0, 0⟩
  submit := .error "submit failed"
  interest := .ok ()
  channelState _ := .ok (some ⟨1, SortedMap.ofList [([1], [1])]⟩)
  transactionBySeqNum _ _ := .ok none
  transactionAt _ := .ok (some ⟨1, .channel ⟨[2], 0, 0, [2], [], false⟩, [], ⟨0, 0⟩⟩)

namespace Channel

variable {codec hashing libra}

/-- A travel commit leaves no pending transaction, cached or stored, keeps the state machine's
participants and account, and leaves it the witness of the travel transaction, whose write set
is empty. -/
theorem applyTravel_ok {chain : ChainReplies} {version : UInt64} {signedTxn : TravelTransaction}
    {txnInfo : TransactionInfo} {events : List (List UInt8)} {ch ch' : Channel}
    (h : run (applyTravel codec hashing chain version signedTxn txnInfo events) ch = (.ok (), ch')) :
    ch'.pendingTxn = none ∧ PendingTxnStore.getPendingTxn ch'.store.participant ch'.db = none ∧
      ch'.stm.participantAddresses = ch.stm.participantAddresses ∧
      ch'.stm.accountAddress = ch.stm.accountAddress ∧ ch'.stm.witness.data.writeSet = [] := by
  simp only [applyTravel, liftStm] at h
  rcases run_ofExcept_bind_eq h with ⟨e, -, he, -⟩ | ⟨state, -, h⟩
  · cases he
  rw [run_get_bind] at h
  rcases run_ofExcept_bind_eq h with ⟨e, -, he, -⟩ | ⟨⟨a, db⟩, happly, h⟩
  · cases he
  rw [run_set] at h
  cases h
  obtain ⟨hpart, hpending, hwitness, hstored⟩ :=
    TxApplier.apply_caches codec hashing (Failure.lift_eq_ok.mp happly)
  refine ⟨hpending, ?_, rfl, rfl, ?_⟩
  · show PendingTxnStore.getPendingTxn a.store.participant db = none
    rw [hpart]
    exact hstored
  · show (a.store.latestWitness.getD Witness.default).data.writeSet = []
    rw [hwitness]
    rfl

end Channel

/-! ### Two runs of two-party channels -/

namespace ChannelActor

/-- Participant `[1]` of a fresh channel `[0]` with `[2]` learns of `[2]`'s lock from the stage
change at version `1`. `ApplySoloTxn` commits the lock and resolves it with a solo action: its
`Execute` saves a new pending transaction, and the `ApplyPendingTxn` that follows fails to
submit it. The handler returns `Err`, and storage holds a pending transaction where it held
none. -/
theorem stage_change_error_saves_pending :
    ∃ (ch₀ : Channel) (a₁ : ChannelActor) (p : PendingTransaction),
      Channel.Init AddressCodec.raw ch₀ ∧
      Step AddressCodec.raw Hashing.zero Libra.toy ⟨ch₀, false⟩
        (.message (.channelStageChange 1 .lockedByPeer)) a₁ ∧
      run (Channel.handleActor AddressCodec.raw Hashing.zero Libra.toy
          (.channelStageChange 1 .lockedByPeer)) ch₀ = (.error (.error "submit failed"), a₁.channel) ∧
      PendingTxnStore.getPendingTxn ch₀.store.participant ch₀.db = none ∧
      PendingTxnStore.getPendingTxn a₁.channel.store.participant a₁.channel.db = some p ∧
      p.lifecycle = .negotiating :=
  ⟨_, _, _, ⟨SortedMap.ofList [([1], ()), ([2], ())], [0], [1], ⟨[1], [1]⟩, rfl⟩, rfl, rfl, rfl,
    rfl, rfl⟩

/-- Participant `[2]` of a fresh channel `[0]` with `[1]` commits off chain a proposal of `[1]`
that it never signed. `[1]` sends the proposal with signatures keyed by `[2]`'s address but made
with `[1]`'s own key: `verify_txn_sigs` checks the key and not the address, so
`handle_proposal_signature` stores them in `[2]`'s slot, and the auto-sign branch, which only
runs while that slot is empty, is skipped. Once `[1]`'s own signatures arrive the transaction
is `Agreed`, and `ApplyPendingTxn` commits it. The proposal writes one of `[2]`'s channel
resources, so the auto-sign check would have refused it, and no `GrantProposal` was handled. -/
theorem forged_signature_commits :
    ∃ (a₀ a₁ a₂ a₃ : ChannelActor) (p : PendingTransaction) (forged : ChannelTransactionSigs),
      Init AddressCodec.raw a₀ ∧ a₀.channel.accountAddress = [2] ∧
      Step AddressCodec.raw Hashing.zero Libra.toyWrite a₀
        (.message (.negotiate (.collectProposalWithSigs
          ⟨⟨0, [0], 0, .action [0] "M" "f", [], [1], 0, .fromSecs 0⟩, [1], [1, 1]⟩
          ⟨[2], [1], [1], [], [1], none⟩))) a₁ ∧
      Step AddressCodec.raw Hashing.zero Libra.toyWrite a₁
        (.message (.negotiate (.collectProposalWithSigs
          ⟨⟨0, [0], 0, .action [0] "M" "f", [], [1], 0, .fromSecs 0⟩, [1], [1, 1]⟩
          ⟨[1], [1], [1], [], [1], none⟩))) a₂ ∧
      Step AddressCodec.raw Hashing.zero Libra.toyWrite a₂
        (.message (.negotiate (.applyPendingTxn 0 (.ok ())))) a₃ ∧
      a₂.channel.pendingTxn = some p ∧ p.lifecycle = .agreed ∧
      p.proposal.channelTxn.proposer ≠ a₀.channel.accountAddress ∧
      p.signatures.find? a₀.channel.accountAddress = some forged ∧
      forged.publicKey ≠ a₀.channel.stm.keypair.publicKey ∧
      a₀.channel.stm.canAutoSignPendingProposal Libra.toyWrite p = false ∧
      a₃.channel.store.getTransactionByChannelSeqNumber a₃.channel.db 0 =
        .ok (.offchain ⟨p.proposal.channelTxn, p.signatures⟩) :=
  ⟨⟨_, false⟩, _, _, _, _, _,
    ⟨⟨SortedMap.ofList [([1], ()), ([2], ())], [0], [2], ⟨[2], [2]⟩, rfl⟩, rfl⟩, rfl, rfl, rfl,
    rfl, rfl, rfl, by decide, rfl, by decide, rfl, rfl⟩

end ChannelActor
