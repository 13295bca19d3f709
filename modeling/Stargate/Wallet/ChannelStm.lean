import Stargate.Types.PendingTxn
import Stargate.Storage.Stores

/-!
# Stargate.Wallet.ChannelStm

`ChannelStm` (src/sgwallet/src/channel/channel_stm.rs), the channel state machine: it holds
the channel's on-chain state, the latest witness and the participants, and turns proposals and
signatures into the pending transaction's next state.

What it calls in libra is a parameter, `Libra`: the hashes (`CryptoHash`), Ed25519 signing and
verification, the Move identifier check, the decoding of the channel's mirror resource and of
an access path's data path, the script registry, and the Move VM, which executes a transaction
over the channel state and the witness write set. A panic (`unreachable!()`, `unwrap`,
`expect`) is a `Failure.panic`; an `Err` is a `Failure.error` with the message's fixed text
(formatted arguments are left out).
-/

/-- An Ed25519 private key, by its bytes. -/
abbrev PrivateKey := List UInt8

/-- A key pair of the channel's account. -/
structure KeyPair where
  privateKey : PrivateKey
  publicKey : PublicKey

/-- `AccountState`: an account's resources on chain by path, at a chain version. -/
structure AccountState where
  version : UInt64
  state : SortedMap (List UInt8) (List UInt8)

/-- `ChannelState`: the channel account's state on chain. -/
structure ChannelState where
  address : AccountAddress
  state : AccountState

/-- `ChannelState::empty`: `AccountState::new()`, at version `0`. -/
def ChannelState.empty (address : AccountAddress) : ChannelState := ⟨address, ⟨0, .empty⟩⟩

/-- `ChannelState::get`. -/
def ChannelState.get (cs : ChannelState) (path : List UInt8) : Option (List UInt8) :=
  cs.state.state.find? path

/-- `ChannelState::version`. -/
def ChannelState.version (cs : ChannelState) : UInt64 := cs.state.version

/-- `access_local`: a path reads from the latest witness write set, or else from the channel's
state on chain. -/
def accessLocal (latestWriteSet : WriteSet) (channelState : ChannelState)
    (accessPath : AccessPath) : Result (Option (List UInt8)) :=
  match latestWriteSet.get accessPath with
  | some (.value value) => .ok (some value)
  | some .deletion => .ok none
  | none =>
      if channelState.address ≠ accessPath.address then .error "Unexpected access_path"
      else .ok (channelState.get accessPath.path)

/-- `access_local` at a path the write set writes: the written value, or nothing for a
deletion. -/
theorem accessLocal_of_get {ws : WriteSet} {cs : ChannelState} {ap : AccessPath}
    {op : WriteOp (List UInt8)} (h : ws.get ap = some op) :
    accessLocal ws cs ap = .ok op.value? := by
  cases op <;> simp [accessLocal, h, WriteOp.value?]

/-- libra's `ScriptAction`: a call of a published function, or a script's code. -/
inductive ScriptAction where
  | call (moduleAddress : AccountAddress) (moduleName functionName : String)
      (args : List TransactionArgument)
  | code (byteCode : List UInt8) (args : List TransactionArgument)
  deriving DecidableEq

/-- libra's `ChannelTransactionPayloadBody`. -/
structure ChannelTransactionPayloadBody where
  channelAddress : AccountAddress
  proposer : AccountAddress
  action : ScriptAction
  witness : Witness
  deriving DecidableEq

/-- libra's `ChannelResource`, the channel's on-chain resource, by the stage the handlers test:
`opened()`, `locked()` and `closed()`. -/
structure ChannelResource where
  opened : Bool
  locked : Bool
  closed : Bool

/-- libra's `ChannelLockedBy`: the block height past which a lock times out. -/
structure ChannelLockedBy where
  timeLock : UInt64

/-- What the channel state machine calls in libra and in the chain client. -/
structure Libra where
  hashChannelTxn : ChannelTransaction → HashValue
  hashPayloadBody : ChannelTransactionPayloadBody → HashValue
  hashWitnessData : WitnessData → HashValue
  sign : PrivateKey → HashValue → Signature
  /-- `verify_signature`: whether a signature on a hash verifies under a public key. -/
  verify : PublicKey → HashValue → Signature → Bool
  /-- `Identifier::new` accepts the string. -/
  isValidIdentifier : String → Bool
  /-- `AccountAddress::default()`. -/
  defaultAddress : AccountAddress
  /-- The access path of a channel's `ChannelMirrorResource`. -/
  mirrorPath : AccountAddress → AccessPath
  /-- The channel sequence number of the encoded `ChannelMirrorResource`, if it decodes. -/
  decodeMirror : List UInt8 → Option UInt64
  /-- `data_path().and_then(participant)`: the participant whose channel resource a path
  names. -/
  participantOf : AccessPath → Option AccountAddress
  /-- The script registry: a script's byte code by package and script name. -/
  getScript : String → String → Option (List UInt8)
  /-- `execute_transaction` over the channel view: the Move VM runs the transaction over the
  channel's state and the witness write set. -/
  execute : ChannelState → WriteSet → ChannelTransactionPayloadBody → ChannelTransaction →
    Result TransactionOutput
  /-- The access path of a channel's `ChannelResource`, and the resource its bytes decode to. -/
  channelResourcePath : AccountAddress → AccessPath
  decodeChannelResource : List UInt8 → Option ChannelResource
  /-- The access path of a channel's `ChannelLockedBy`, and the resource its bytes decode to. -/
  lockedByPath : AccountAddress → AccessPath
  decodeLockedBy : List UInt8 → Option ChannelLockedBy
  /-- `core_code_address()` and `account_module_name()`: the module of the channel's solo
  actions. -/
  coreCodeAddress : AccountAddress
  accountModuleName : String
  /-- The hash of a travel transaction's raw transaction. -/
  hashRawTxn : TravelTransaction → HashValue

/-- What `generate_proposal` reads from the chain: the latest version, this account's sequence
number if its account resource exists, and the seconds of the expiration time `txn_expiration`
gives (`Duration::new(secs, 0)`). -/
structure ChainSnapshot where
  version : UInt64
  accountSequenceNumber : Option UInt64
  expirationTime : UInt64

/-- The state of a `ChannelStm`. -/
structure ChannelStm where
  channelAddress : AccountAddress
  accountAddress : AccountAddress
  /-- The participants, this account among them. -/
  participantAddresses : SortedSet AccountAddress
  participantKeys : SortedMap AccountAddress PublicKey
  channelState : ChannelState
  witness : Witness
  keypair : KeyPair

/-- `is_participant_channel_resource_modified`: some write of the new write set to a path of
the participant's channel resources differs from the write to it in the old write set (the
old one collected into a map, so its last write to a path counts). -/
def isParticipantChannelResourceModified (participantOf : AccessPath → Option AccountAddress)
    (oldWriteSet newWriteSet : WriteSet) (participant : AccountAddress) : Bool :=
  let prevWriteSet := SortedMap.ofList (oldWriteSet.map fun w => (w.1, w.2))
  newWriteSet.any fun w =>
    participantOf w.1 = some participant && !(prevWriteSet.find? w.1 = some w.2)

namespace ChannelStm

variable (libra : Libra)

/-- `ChannelStm::new`: an empty channel state and the default witness. -/
def new (channelAddress accountAddress : AccountAddress)
    (participantAddresses : SortedSet AccountAddress) (keypair : KeyPair) : ChannelStm :=
  ⟨channelAddress, accountAddress, participantAddresses, .empty, .empty channelAddress,
    Witness.default, keypair⟩

/-- `channel_sequence_number`: of the mirror resource as the channel reads it locally, or `0`
without one; an error reading it is the `unwrap` panicking. -/
def channelSequenceNumber (stm : ChannelStm) : Except Failure UInt64 :=
  match accessLocal stm.witness.data.writeSet stm.channelState (libra.mirrorPath stm.channelAddress) with
  | .error _ => .error (.panic "called Result::unwrap() on an Err value")
  | .ok none => .ok 0
  | .ok (some bytes) =>
      match libra.decodeMirror bytes with
      | some n => .ok n
      | none => .error (.panic "called Result::unwrap() on an Err value")

/-- `get_local(..).unwrap()`: the resource at an access path as the channel reads it locally, if
any; an error reading it or decoding its bytes is the `unwrap` panicking. -/
def getLocal {α : Type} (decode : List UInt8 → Option α) (stm : ChannelStm)
    (accessPath : AccessPath) : Except Failure (Option α) :=
  match accessLocal stm.witness.data.writeSet stm.channelState accessPath with
  | .error _ => .error (.panic "called Result::unwrap() on an Err value")
  | .ok none => .ok none
  | .ok (some bytes) =>
      match decode bytes with
      | some r => .ok (some r)
      | none => .error (.panic "called Result::unwrap() on an Err value")

/-- `channel_resource`. -/
def channelResource (stm : ChannelStm) : Except Failure (Option ChannelResource) :=
  getLocal libra.decodeChannelResource stm (libra.channelResourcePath stm.channelAddress)

/-- `channel_lock_by_resource`. -/
def channelLockByResource (stm : ChannelStm) : Except Failure (Option ChannelLockedBy) :=
  getLocal libra.decodeLockedBy stm (libra.lockedByPath stm.channelAddress)

/-- `advance_state`. -/
def advanceState (stm : ChannelStm) (channelState : Option ChannelState) (witness : Witness)
    (participantKeys : SortedMap AccountAddress PublicKey) : ChannelStm :=
  { stm with
    channelState := channelState.getD stm.channelState
    witness := witness
    participantKeys := stm.participantKeys.append participantKeys }

/-- `Identifier::new`. -/
def identifier (s : String) : Except Failure String :=
  if libra.isValidIdentifier s then .ok s else .error (.error "Invalid identifier")

/-- `channel_op_to_action`. -/
def channelOpToAction (op : ChannelOp) (args : List TransactionArgument) :
    Except Failure ScriptAction :=
  match op with
  | .open => do
      let moduleName ← identifier libra "ChannelScript"
      let functionName ← identifier libra "open"
      pure (.call libra.defaultAddress moduleName functionName args)
  | .close => do
      let moduleName ← identifier libra "LibraAccount"
      let functionName ← identifier libra "close"
      pure (.call libra.defaultAddress moduleName functionName args)
  | .execute packageName scriptName =>
      match libra.getScript packageName scriptName with
      | some byteCode => .ok (.code byteCode args)
      | none => .error (.error "Can not find script by package and script name")
  | .action moduleAddress moduleName functionName => do
      let moduleName ← identifier libra moduleName
      let functionName ← identifier libra functionName
      pure (.call moduleAddress moduleName functionName args)

/-- `build_and_sign_channel_txn_payload_body`. -/
def buildAndSignChannelTxnPayloadBody (stm : ChannelStm) (channelTxn : ChannelTransaction) :
    Except Failure (ChannelTransactionPayloadBody × Signature) := do
  let action ← channelOpToAction libra channelTxn.operator channelTxn.args
  let body : ChannelTransactionPayloadBody :=
    ⟨stm.channelAddress, channelTxn.proposer, action, stm.witness⟩
  pure (body, libra.sign stm.keypair.privateKey (libra.hashPayloadBody body))

/-- `generate_proposal`. -/
def generateProposal (stm : ChannelStm) (chain : ChainSnapshot) (channelOp : ChannelOp)
    (args : List TransactionArgument) : Except Failure ChannelTransactionProposal := do
  let accountSeqNumber ← match chain.accountSequenceNumber with
    | some n => Except.ok n
    | none => .error (.error "account resource not exists on chain")
  let csn ← channelSequenceNumber libra stm
  let channelTxn : ChannelTransaction :=
    ⟨chain.version, stm.channelAddress, csn, channelOp, args, stm.accountAddress,
      accountSeqNumber, .fromSecs chain.expirationTime⟩
  pure ⟨channelTxn, stm.keypair.publicKey,
    libra.sign stm.keypair.privateKey (libra.hashChannelTxn channelTxn)⟩

/-- `execute_proposal`: execute the proposal's transaction for its output. -/
def executeProposal (stm : ChannelStm) (proposal : ChannelTransactionProposal) :
    Except Failure (ChannelTransactionPayloadBody × Signature × TransactionOutput) := do
  let (payloadBody, payloadBodySignature) ←
    buildAndSignChannelTxnPayloadBody libra stm proposal.channelTxn
  let output ← Failure.lift
    (libra.execute stm.channelState stm.witness.data.writeSet payloadBody proposal.channelTxn)
  pure (payloadBody, payloadBodySignature, output)

/-- `verify_proposal`. -/
def verifyProposal (stm : ChannelStm) (proposal : ChannelTransactionProposal) :
    Except Failure Unit := do
  let channelTxn := proposal.channelTxn
  if stm.channelAddress ≠ channelTxn.channelAddress then
    throw (.error "invalid channel address")
  let csn ← channelSequenceNumber libra stm
  -- `checked_sub(1).unwrap_or(0)`
  let smallestAllowed := if csn = 0 then 0 else csn - 1
  if ¬ (smallestAllowed ≤ channelTxn.channelSequenceNumber ∧
      channelTxn.channelSequenceNumber ≤ csn) then
    throw (.error "check channel_sequence_number fail.")
  if !libra.verify proposal.proposerPublicKey (libra.hashChannelTxn channelTxn)
      proposal.proposerSignature then
    throw (.error "signature verification failed")
  if !channelTxn.operator.isOpen then
    if !stm.participantAddresses.contains channelTxn.proposer then
      throw (.error "proposer does not belong to the channel")

/-- `verify_txn_sigs`. -/
def verifyTxnSigs (stm : ChannelStm) (pendingTxn : PendingTransaction)
    (sigs : ChannelTransactionSigs) : Except Failure Unit := do
  let (payloadBody, _) ←
    buildAndSignChannelTxnPayloadBody libra stm pendingTxn.proposal.channelTxn
  if !libra.verify sigs.publicKey (libra.hashPayloadBody payloadBody) sigs.channelPayloadSignature then
    throw (.error "signature verification failed")
  let output := pendingTxn.output
  let ws := if output.isTravelTxn then [] else output.writeSet
  let csn ← channelSequenceNumber libra stm
  let witnessDataHash := libra.hashWitnessData ⟨csn + 1, ws⟩
  if witnessDataHash ≠ sigs.witnessDataHash then
    throw (.error "next witness hash mismatched")
  if !libra.verify sigs.publicKey sigs.witnessDataHash sigs.witnessDataSignature then
    throw (.error "signature verification failed")
  if output.isTravelTxn then
    match sigs.travelOutputWitnessSignature with
    | none => throw (.error "travel txn should have signer\x27s signature on output")
    | some signature =>
        if !libra.verify sigs.publicKey (libra.hashWitnessData ⟨csn + 1, output.writeSet⟩)
            signature then
          throw (.error "signature verification failed")

/-- `generate_txn_sigs`: this account's signatures on a transaction and its output. -/
def generateTxnSigs (stm : ChannelStm) (channelTxn : ChannelTransaction)
    (output : TransactionOutput) : Except Failure ChannelTransactionSigs := do
  let (_, payloadBodySignature) ← buildAndSignChannelTxnPayloadBody libra stm channelTxn
  let ws := if output.isTravelTxn then [] else output.writeSet
  let csn ← channelSequenceNumber libra stm
  let witnessDataHash := libra.hashWitnessData ⟨csn + 1, ws⟩
  let witnessDataSignature := libra.sign stm.keypair.privateKey witnessDataHash
  let travelOutputWitnessSignature := if output.isTravelTxn then
      some (libra.sign stm.keypair.privateKey (libra.hashWitnessData ⟨csn + 1, output.writeSet⟩))
    else none
  pure ⟨stm.accountAddress, stm.keypair.publicKey, payloadBodySignature, witnessDataHash,
    witnessDataSignature, travelOutputWitnessSignature⟩

/-- `handle_new_proposal`: a proposal below the channel sequence number is refused; with no
pending transaction the proposal is verified and executed into a `Created` one; otherwise the
pending transaction must be the same proposal. -/
def handleNewProposal (stm : ChannelStm) (pendingTxn : Option PendingTransaction)
    (proposal : ChannelTransactionProposal) : Except Failure PendingTransaction := do
  let csn ← channelSequenceNumber libra stm
  if proposal.channelTxn.channelSequenceNumber < csn then
    throw (.error "invalid channel proposal, proposal channel_sequence_number < local channel_sequence_number")
  match pendingTxn with
  | none =>
      verifyProposal libra stm proposal
      let (_, _, output) ← executeProposal libra stm proposal
      pure ((PendingTransaction.new proposal output .empty).setLifecycle .created)
  | some pending =>
      if libra.hashChannelTxn pending.proposal.channelTxn ≠ libra.hashChannelTxn proposal.channelTxn then
        throw (.error "already exists a different pending proposal")
      pure pending

/-- `handle_proposal_signature`: the first signature of an address is verified and added; it
moves a `Created` transaction to `Negotiating` and may bring a `Negotiating` one to `Agreed`.
In any later lifecycle a new signature reaches `unreachable!()`. -/
def handleProposalSignature (stm : ChannelStm) (pendingTxn : PendingTransaction)
    (proposalId : HashValue) (sigs : ChannelTransactionSigs) :
    Except Failure PendingTransaction := do
  let proposalLifecycle := pendingTxn.lifecycle
  if libra.hashChannelTxn pendingTxn.proposal.channelTxn ≠ proposalId then
    throw (.error "proposal txn hash mismatched")
  if (pendingTxn.getSignature sigs.address).isNone then
    verifyTxnSigs libra stm pendingTxn sigs
    let pendingTxn := pendingTxn.addSignature sigs
    match proposalLifecycle with
    | .created => pure (pendingTxn.setLifecycle .negotiating)
    | .negotiating => pure (pendingTxn.tryReachConsensus stm.participantAddresses).1
    | _ => throw (.panic "internal error: entered unreachable code")
  else pure pendingTxn

/-- `handle_apply_proposal`: apply off chain once every participant agreed on a transaction that
need not travel; otherwise travel. -/
def handleApplyProposal (pendingTxn : PendingTransaction) : PendingTransaction :=
  if pendingTxn.consensusReached && !pendingTxn.output.isTravelTxn then pendingTxn.setApplying
  else pendingTxn.setTravelling

/-- `can_auto_sign_pending_proposal`: the transaction leaves this participant's channel
resources as the latest witness write set has them. -/
def canAutoSignPendingProposal (stm : ChannelStm) (pendingTxn : PendingTransaction) : Bool :=
  !isParticipantChannelResourceModified libra.participantOf stm.witness.data.writeSet
    pendingTxn.output.writeSet stm.accountAddress

/-- `build_signed_txn` with `build_chain_txn`: the travel transaction carrying the payload, the
participants' keys and their signatures in address order; it is authorized when every
participant signed. -/
def buildSignedTxn (stm : ChannelStm) (pendingTxn : PendingTransaction) :
    Except Failure TravelTransaction := do
  let channelTxn := pendingTxn.proposal.channelTxn
  let (payloadBody, _) ← buildAndSignChannelTxnPayloadBody libra stm channelTxn
  let sigs := stm.participantAddresses.keys.map pendingTxn.signatures.find?
  let participantKeys := stm.participantAddresses.keys.foldl
    (fun keys addr => match pendingTxn.signatures.find? addr with
      | some s => keys.insert addr s.publicKey
      | none => keys)
    stm.participantKeys
  pure ⟨channelTxn.proposer, channelTxn.sequenceNumber,
    payloadBody.witness.data.channelSequenceNumber, channelTxn.proposer,
    participantKeys.values, sigs.all Option.isSome⟩

end ChannelStm

/-- A libra to run the channel on small inputs: a transaction hashes to its proposer and a raw
travel transaction to its sender, every other hash is empty, a signature is the key followed by
the hash (so a key pair has equal halves), a mirror resource reads as channel sequence number
`0`, no path names a participant's channel resource, and the VM writes nothing. The channel
resource is at path `[1]`, where the bytes `[0]`, `[1]` and `[2]` read as opened, locked and
closed, and a lock at path `[2]` has time lock `0`. -/
def Libra.toy : Libra where
  hashChannelTxn t := t.proposer
  hashPayloadBody _ := []
  hashWitnessData _ := []
  sign sk h := sk ++ h
  verify pk h s := decide (s = pk ++ h)
  isValidIdentifier _ := true
  defaultAddress := []
  mirrorPath a := ⟨a, []⟩
  decodeMirror _ := some 0
  participantOf _ := none
  getScript _ _ := some []
  execute _ _ _ _ := .ok ⟨[], [], 0, 0, false⟩
  channelResourcePath a := ⟨a, [1]⟩
  decodeChannelResource b := some ⟨decide (b = [0]), decide (b = [1]), decide (b = [2])⟩
  lockedByPath a := ⟨a, [2]⟩
  decodeLockedBy _ := some ⟨0⟩
  coreCodeAddress := []
  accountModuleName := "LibraAccount"
  hashRawTxn t := t.sender

/-- `Libra.toy` whose VM writes `[9]` at path `[3]` of channel `[0]`, a path of participant
`[2]`'s channel resources. -/
def Libra.toyWrite : Libra :=
  { Libra.toy with
    participantOf := fun ap => if ap.path = [3] then some [2] else none
    execute := fun _ _ _ _ => .ok ⟨[(⟨[0], [3]⟩, .value [9])], [], 0, 0, false⟩ }

/-! ### Signatures agree

The signer and the verifier each rebuild the payload body and the witness data from their own
state. They rebuild the same ones when their states agree on what those read: the channel's
address, its state and the witness. -/

namespace ChannelStm

variable {libra : Libra}

/-- The channel sequence number reads only the witness, the channel state and the channel's
address. -/
theorem channelSequenceNumber_congr {stm₁ stm₂ : ChannelStm}
    (haddress : stm₂.channelAddress = stm₁.channelAddress)
    (hstate : stm₂.channelState = stm₁.channelState) (hwitness : stm₂.witness = stm₁.witness) :
    channelSequenceNumber libra stm₂ = channelSequenceNumber libra stm₁ := by
  rw [channelSequenceNumber, channelSequenceNumber, haddress, hstate, hwitness]

/-- The payload body of a transaction whose operation has an action: that action over the
channel's address and witness, signed with the state machine's key. -/
theorem buildAndSignChannelTxnPayloadBody_of_action {stm : ChannelStm}
    {channelTxn : ChannelTransaction} {action : ScriptAction}
    (h : channelOpToAction libra channelTxn.operator channelTxn.args = .ok action) :
    buildAndSignChannelTxnPayloadBody libra stm channelTxn =
      .ok (⟨stm.channelAddress, channelTxn.proposer, action, stm.witness⟩,
        libra.sign stm.keypair.privateKey
          (libra.hashPayloadBody ⟨stm.channelAddress, channelTxn.proposer, action, stm.witness⟩)) := by
  rw [buildAndSignChannelTxnPayloadBody, h]
  rfl

theorem buildAndSignChannelTxnPayloadBody_of_error {stm : ChannelStm}
    {channelTxn : ChannelTransaction} {e : Failure}
    (h : channelOpToAction libra channelTxn.operator channelTxn.args = .error e) :
    buildAndSignChannelTxnPayloadBody libra stm channelTxn = .error e := by
  rw [buildAndSignChannelTxnPayloadBody, h]
  rfl

/-- The signatures `generate_txn_sigs` gives, once the action and the channel sequence number
are known. -/
theorem generateTxnSigs_eq {stm : ChannelStm} {channelTxn : ChannelTransaction}
    {output : TransactionOutput} {action : ScriptAction} {csn : UInt64}
    (haction : channelOpToAction libra channelTxn.operator channelTxn.args = .ok action)
    (hcsn : channelSequenceNumber libra stm = .ok csn) :
    generateTxnSigs libra stm channelTxn output =
      .ok ⟨stm.accountAddress, stm.keypair.publicKey,
        libra.sign stm.keypair.privateKey
          (libra.hashPayloadBody ⟨stm.channelAddress, channelTxn.proposer, action, stm.witness⟩),
        libra.hashWitnessData ⟨csn + 1, if output.isTravelTxn then [] else output.writeSet⟩,
        libra.sign stm.keypair.privateKey
          (libra.hashWitnessData ⟨csn + 1, if output.isTravelTxn then [] else output.writeSet⟩),
        if output.isTravelTxn then
          some (libra.sign stm.keypair.privateKey (libra.hashWitnessData ⟨csn + 1, output.writeSet⟩))
        else none⟩ := by
  rw [generateTxnSigs, buildAndSignChannelTxnPayloadBody_of_action haction]
  simp only [bind, Except.bind, hcsn]
  rfl

theorem generated_sigs_verify {stm₁ stm₂ : ChannelStm} {pendingTxn : PendingTransaction}
    {sigs : ChannelTransactionSigs}
    (haddress : stm₂.channelAddress = stm₁.channelAddress)
    (hstate : stm₂.channelState = stm₁.channelState) (hwitness : stm₂.witness = stm₁.witness)
    (hkey : ∀ h, libra.verify stm₁.keypair.publicKey h (libra.sign stm₁.keypair.privateKey h) = true)
    (hgen : generateTxnSigs libra stm₁ pendingTxn.proposal.channelTxn pendingTxn.output = .ok sigs) :
    verifyTxnSigs libra stm₂ pendingTxn sigs = .ok () := by
  set channelTxn := pendingTxn.proposal.channelTxn
  -- the signer built an action and read a channel sequence number, or it gave no signatures
  cases haction : channelOpToAction libra channelTxn.operator channelTxn.args with
  | error e =>
    rw [generateTxnSigs, buildAndSignChannelTxnPayloadBody_of_error haction] at hgen
    cases hgen
  | ok action =>
    cases hcsn : channelSequenceNumber libra stm₁ with
    | error e =>
      rw [generateTxnSigs, buildAndSignChannelTxnPayloadBody_of_action haction] at hgen
      simp only [bind, Except.bind, hcsn] at hgen
      cases hgen
    | ok csn =>
      rw [generateTxnSigs_eq haction hcsn] at hgen
      cases hgen
      -- the verifier rebuilds the same body and reads the same sequence number
      rw [verifyTxnSigs, buildAndSignChannelTxnPayloadBody_of_action haction,
        channelSequenceNumber_congr haddress hstate hwitness, hcsn]
      cases htravel : pendingTxn.output.isTravelTxn <;>
        simp [bind, Except.bind, haddress, hwitness, hkey, htravel, pure, Except.pure]

end ChannelStm

/-- Two participants of a channel at its start, the second verifying what the first signs for
an open transaction that travels. -/
theorem ChannelStm.generated_sigs_verify_open :
    ChannelStm.generateTxnSigs Libra.toy (.new [0] [1] (SortedMap.ofList [([1], ()), ([2], ())]) ⟨[1], [1]⟩)
        ⟨0, [0], 0, .open, [], [1], 0, .fromSecs 0⟩ ⟨[], [], 0, 0, true⟩ =
      .ok ⟨[1], [1], [1], [], [1], some [1]⟩ ∧
    ChannelStm.verifyTxnSigs Libra.toy (.new [0] [2] (SortedMap.ofList [([1], ()), ([2], ())]) ⟨[2], [2]⟩)
        ⟨⟨⟨0, [0], 0, .open, [], [1], 0, .fromSecs 0⟩, [1], [1]⟩, ⟨[], [], 0, 0, true⟩, .empty,
          .negotiating⟩
        ⟨[1], [1], [1], [], [1], some [1]⟩ = .ok () :=
  ⟨rfl, @ChannelStm.generated_sigs_verify Libra.toy
    (.new [0] [1] (SortedMap.ofList [([1], ()), ([2], ())]) ⟨[1], [1]⟩)
    (.new [0] [2] (SortedMap.ofList [([1], ()), ([2], ())]) ⟨[2], [2]⟩) _ _ rfl rfl rfl
    (fun _ => by simp [Libra.toy, ChannelStm.new]) rfl⟩
