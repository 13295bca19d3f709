import Stargate.Wallet.ChannelStm
import Stargate.Wallet.TxApplier
import Stargate.Lib.ExceptState

/-!
# Stargate.Wallet.Channel

The `Channel` actor (src/sgwallet/src/channel/channel.rs and mod.rs): its state machine, its
store over the shared storage and its transaction applier, whose store it shares. The actor
handles one message at a time; a handler reads the pending transaction from the store's cache,
runs it through `ChannelStm` and writes back through `save_pending_txn`, `clear_pending_txn` or
`TxApplier::apply`.

A handler is a computation in `ChannelM`: its writes to the channel stay when a later step
fails, as the store's writes do. The chain is outside the model: what `generate_proposal` reads
from it is the `Execute` message's `ChainSnapshot`, and the result of `submit_transaction` is
an argument of `ApplyPendingTxn`. A `debug_assert` is left out (a release build).
-/

/-- A channel actor's state. -/
structure Channel where
  stm : ChannelStm
  db : SgStorage
  /-- `tx_applier`, whose store is the channel's `store`. -/
  txApplier : TxApplier

/-- A handler: it may fail, and what it wrote before failing stays written. -/
abbrev ChannelM := ExceptT Failure (StateM Channel)

namespace Channel

variable (codec : AddressCodec) (hashing : Hashing) (libra : Libra)

/-- The channel's store. -/
def store (ch : Channel) : ChannelStore := ch.txApplier.store

/-- `Channel::pending_txn`: the store's cached pending transaction. -/
def pendingTxn (ch : Channel) : Option PendingTransaction := ch.store.pendingTxn

def accountAddress (ch : Channel) : AccountAddress := ch.stm.accountAddress

/-- Run a computation of the state machine. -/
def liftStm {α : Type} (e : Except Failure α) : ChannelM α := ExceptState.ofExcept e

/-- Replace the store and the storage after a write. -/
def setStore (ch : Channel) (store : ChannelStore) (db : SgStorage) : Channel :=
  { ch with db := db, txApplier := { ch.txApplier with store := store } }

/-- `Channel::save_pending_txn`: the cached transaction stays when it is the same one, and one
with a later lifecycle is never overwritten. -/
def savePendingTxn (pendingTxn : PendingTransaction) : ChannelM Unit := do
  let ch ← get
  if let some cur := ch.pendingTxn then
    if cur = pendingTxn then return
    else if cur.newerThan pendingTxn then
      throw (.error "cannot save pending txn, state invalid")
  let (store, db) := ch.store.savePendingTxn ch.db pendingTxn true
  set (ch.setStore store db)

/-- `Channel::clear_pending_txn`. -/
def clearPendingTxn : ChannelM Unit := do
  let ch ← get
  let (store, db) := ch.store.clearPendingTxn ch.db
  set (ch.setStore store db)

/-- `Channel::apply`: commit an off-chain transaction with its output and signatures, then move
the state machine to the committed witness and keys. -/
def apply (now : UInt64) (channelTxn : ChannelTransaction) (txnOutput : TransactionOutput)
    (signatures : SortedMap AccountAddress ChannelTransactionSigs) : ChannelM Unit := do
  let ch ← get
  let txnToCommit : ChannelTransactionToCommit :=
    ⟨.offchain ⟨channelTxn, signatures⟩, txnOutput.writeSet, txnOutput.events,
      txnOutput.majorStatus, txnOutput.gasUsed⟩
  let (txApplier, db) ← liftStm (Failure.lift
    (TxApplier.apply codec hashing now ch.txApplier ch.db txnToCommit))
  set { ch with
    db := db
    txApplier := txApplier
    stm := ch.stm.advanceState none (txApplier.store.latestWitness.getD Witness.default)
      txApplier.store.getParticipantKeys }

/-- `Channel::check_applied`: the committed transaction at a channel sequence number, if the
channel has committed that far. -/
def checkApplied (channelSequenceNumber : UInt64) : ChannelM (Option AppliedChannelTxn) := do
  let ch ← get
  match ← liftStm (Failure.lift (ch.store.getStartupInfo ch.db)) with
  | some info =>
      if channelSequenceNumber > info.latestVersion then pure none
      else some <$> liftStm (Failure.lift
        (ch.store.getTransactionByChannelSeqNumber ch.db channelSequenceNumber))
  | none => pure none

/-! ### Handlers -/

/-- `Handler<Execute>`: propose a transaction, sign it and keep it pending. -/
def execute (chain : ChainSnapshot) (channelOp : ChannelOp) (args : List TransactionArgument) :
    ChannelM (ChannelTransactionProposal × ChannelTransactionSigs × TransactionOutput) := do
  let ch ← get
  let proposal ← liftStm (ch.stm.generateProposal libra chain channelOp args)
  let pendingTxn ← liftStm (ch.stm.handleNewProposal libra ch.pendingTxn proposal)
  let mySignature ← liftStm
    (ch.stm.generateTxnSigs libra pendingTxn.proposal.channelTxn pendingTxn.output)
  let channelTxnId := libra.hashChannelTxn pendingTxn.proposal.channelTxn
  let pendingTxn ← liftStm (ch.stm.handleProposalSignature libra pendingTxn channelTxnId mySignature)
  savePendingTxn pendingTxn
  pure (pendingTxn.proposal, mySignature, pendingTxn.output)

/-- The rest of `Handler<CollectProposalWithSigs>`, when no committed transaction answers the
proposal: take the participant's signatures, and sign too when the proposal leaves this
participant's channel resources as they are. Returns this participant's signatures, if it has
signed. -/
def collectPendingProposal (proposal : ChannelTransactionProposal)
    (sigs : ChannelTransactionSigs) : ChannelM (Option ChannelTransactionSigs) := do
  let ch ← get
  let pendingTxn ← liftStm (ch.stm.handleNewProposal libra ch.pendingTxn proposal)
  let txnHash := libra.hashChannelTxn pendingTxn.proposal.channelTxn
  let pendingTxn ← liftStm (ch.stm.handleProposalSignature libra pendingTxn txnHash sigs)
  let pendingTxn ←
    if !pendingTxn.signatures.contains ch.accountAddress &&
        ch.stm.canAutoSignPendingProposal libra pendingTxn then do
      let mySignature ← liftStm
        (ch.stm.generateTxnSigs libra pendingTxn.proposal.channelTxn pendingTxn.output)
      let proposalHash := libra.hashChannelTxn pendingTxn.proposal.channelTxn
      liftStm (ch.stm.handleProposalSignature libra pendingTxn proposalHash mySignature)
    else pure pendingTxn
  savePendingTxn pendingTxn
  pure (pendingTxn.getSignature ch.accountAddress)

/-- `Handler<CollectProposalWithSigs>`: a proposal the channel has already committed is
answered with the signature it was committed with (its early `return`); any other goes on to
`collectPendingProposal`. -/
def collectProposalWithSigs (proposal : ChannelTransactionProposal)
    (sigs : ChannelTransactionSigs) : ChannelM (Option ChannelTransactionSigs) := do
  match ← checkApplied proposal.channelTxn.channelSequenceNumber with
  | some (.travel _) => throw (.error "proposal is already commited onchain")
  | some (.offchain t) =>
      if libra.hashChannelTxn proposal.channelTxn ≠ libra.hashChannelTxn t.rawTx then
        throw (.error "invalid proposal, channel already applied a different proposal with same channel seq number")
      let ch ← get
      match t.signatures.find? ch.accountAddress with
      | some signature => pure (some signature)
      | none => throw (.panic "applied txn should have user signature")
  | none => collectPendingProposal libra proposal sigs

/-- `Handler<GrantProposal>`: the user approves the pending proposal, which this participant
then signs. -/
def grantProposal (channelTxnId : HashValue) : ChannelM ChannelTransactionSigs := do
  let ch ← get
  let pendingTxn ← match ch.pendingTxn with
    | some pendingTxn => pure pendingTxn
    | none => throw (.error "has no pending txn")
  if channelTxnId ≠ libra.hashChannelTxn pendingTxn.proposal.channelTxn then
    throw (.error "channel_txn_id conflict with local pending txn")
  if pendingTxn.consensusReached then
    throw (.error "pending txn is already consensus_reached")
  let mySignature ← liftStm
    (ch.stm.generateTxnSigs libra pendingTxn.proposal.channelTxn pendingTxn.output)
  let proposalHash := libra.hashChannelTxn pendingTxn.proposal.channelTxn
  let pendingTxn ← liftStm (ch.stm.handleProposalSignature libra pendingTxn proposalHash mySignature)
  savePendingTxn pendingTxn
  pure mySignature

/-- `Handler<CancelPendingTxn>`: drop a pending proposal no one has agreed on. Returns whether
the actor stops (the proposal opened the channel). -/
def cancelPendingTxn (channelTxnId : HashValue) : ChannelM Bool := do
  let ch ← get
  let pendingTxn ← match ch.pendingTxn with
    | some pendingTxn => pure pendingTxn
    | none => throw (.error "no pending txn")
  if channelTxnId ≠ libra.hashChannelTxn pendingTxn.proposal.channelTxn then
    throw (.error "channel_txn_id conflict with local pending txn")
  if pendingTxn.consensusReached then
    throw (.error "pending txn is already consensus_reached")
  clearPendingTxn
  pure pendingTxn.proposal.channelTxn.operator.isOpen

/-- `Handler<ApplyPendingTxn>`: apply the pending transaction off chain once agreed, or else
send it on chain (the proposer submits it) and keep it pending as travelling. Returns the
travel transaction's sender and sequence number to watch. -/
def applyPendingTxn (now : UInt64) (submit : Result Unit) :
    ChannelM (Option (AccountAddress × UInt64)) := do
  let ch ← get
  let pendingTxn ← match ch.pendingTxn with
    | some pendingTxn => pure pendingTxn
    | none => throw (.error "should have txn to apply")
  if ¬ (pendingTxn.lifecycle = .negotiating ∨ pendingTxn.lifecycle = .agreed) then
    throw (.error "cannot apply pending txn which is already applying or traveling")
  let pendingTxn := ChannelStm.handleApplyProposal pendingTxn
  match pendingTxn.lifecycle with
  | .applying =>
      apply codec hashing now pendingTxn.proposal.channelTxn pendingTxn.output
        pendingTxn.signatures
      pure none
  | .traveling =>
      let channelTxn := pendingTxn.proposal.channelTxn
      if ch.accountAddress = channelTxn.proposer then
        let _ ← liftStm (ch.stm.buildSignedTxn libra pendingTxn)
        liftStm (Failure.lift submit)
      savePendingTxn pendingTxn
      pure (some (channelTxn.proposer, channelTxn.sequenceNumber))
  | _ => throw (.panic "internal error: entered unreachable code")

/-! ### The actor -/

/-- The messages of the channel actor that move its pending transaction. -/
inductive Message where
  | execute (chain : ChainSnapshot) (channelOp : ChannelOp) (args : List TransactionArgument)
  | collectProposalWithSigs (proposal : ChannelTransactionProposal)
      (sigs : ChannelTransactionSigs)
  | grantProposal (channelTxnId : HashValue)
  | cancelPendingTxn (channelTxnId : HashValue)
  | applyPendingTxn (now : UInt64) (submit : Result Unit)

/-- Handle one message; the reply goes back to the sender and is dropped here. -/
def handle : Message → ChannelM Unit
  | .execute chain channelOp args => do
      let _ ← execute libra chain channelOp args
      pure ()
  | .collectProposalWithSigs proposal sigs => do
      let _ ← collectProposalWithSigs libra proposal sigs
      pure ()
  | .grantProposal channelTxnId => do
      let _ ← grantProposal libra channelTxnId
      pure ()
  | .cancelPendingTxn channelTxnId => do
      let _ ← cancelPendingTxn libra channelTxnId
      pure ()
  | .applyPendingTxn now submit => do
      let _ ← applyPendingTxn codec hashing libra now submit
      pure ()

/-- `Channel::load`: the store over the channel's database (the `ChannelDB` of the channel
address), the state machine over the store's participants, and the applier over the store. -/
def load (participants : SortedSet AccountAddress) (channelAddress accountAddress : AccountAddress)
    (keypair : KeyPair) (db : SgStorage) : Result Channel := do
  let (store, db) ← ChannelStore.new codec participants channelAddress db
  let stm := ChannelStm.new channelAddress accountAddress store.participantAddresses keypair
  let txApplier ← TxApplier.new store db
  pure ⟨stm, db, txApplier⟩

/-- A channel as it starts over storage that holds nothing: `bootstrap` finds no startup info
there and leaves the loaded channel as it is. -/
def Init (ch : Channel) : Prop :=
  ∃ participants channelAddress accountAddress keypair,
    load codec participants channelAddress accountAddress keypair SgStorage.empty = .ok ch

/-- A step of the actor: a message handled without a panic, which would stop the actor. An
`Err` goes back to the sender, and the channel keeps what the handler left. -/
def Step (ch : Channel) (m : Message) (ch' : Channel) : Prop :=
  ∃ r, ExceptState.run (handle codec hashing libra m) ch = (r, ch') ∧
    ∀ msg, r ≠ .error (.panic msg)

/-- Some message takes the channel from one state to the next. -/
def Next (ch ch' : Channel) : Prop := ∃ m, Step codec hashing libra ch m ch'

end Channel
