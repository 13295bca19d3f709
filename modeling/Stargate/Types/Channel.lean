import Stargate.Storage.ChannelDb
import Mathlib.Order.Lex
import Mathlib.Data.Prod.Lex

/-!
# Stargate.Types.Channel

The data of a channel (src/sgtypes/src): the off-chain channel transaction and its
proposal, the participants' signatures, the pending transaction with its lifecycle, the
committed (applied) transaction, the ledger info and transaction info a channel's ledger
stores, and the witness that carries the latest channel write set.

libra is not part of the repository. Its byte-string types (account addresses, hashes,
public keys, signatures) are byte lists; its write sets are lists of access paths with
their writes; the output of a transaction keeps what the channel code reads of it; a
travel transaction (a libra `SignedTransaction` with a channel payload) keeps the fields of
its payload the channel code reads. The hash functions are the fields of `Hashing`, a
parameter of the modules that use them.
-/

/-- An account address (libra's `AccountAddress`): its bytes, `ADDRESS_LENGTH` of them. -/
abbrev AccountAddress := List UInt8

/-- A hash (libra's `HashValue`). -/
abbrev HashValue := List UInt8

/-- An Ed25519 public key, by its bytes. -/
abbrev PublicKey := List UInt8

/-- An Ed25519 signature, by its bytes. -/
abbrev Signature := List UInt8

/-- libra's `AccessPath`: an account and a path under it. -/
structure AccessPath where
  address : AccountAddress
  path : List UInt8
  deriving DecidableEq, Repr

/-- The derived `Ord` of `AccessPath`: by address, then by path. -/
instance AccessPath.instLinearOrder : LinearOrder AccessPath :=
  LinearOrder.lift' (fun ap => toLex (ap.address, ap.path)) (fun a b h => by
    cases a
    cases b
    simp only [toLex_inj, Prod.mk.injEq] at h
    rw [h.1, h.2])

/-- libra's `WriteSet`: the writes of a transaction, in order. -/
abbrev WriteSet := List (AccessPath × WriteOp (List UInt8))

/-- `WriteSet::get`: the first write to an access path. -/
def WriteSet.get (ws : WriteSet) (ap : AccessPath) : Option (WriteOp (List UInt8)) :=
  (ws.find? (fun w => w.1 = ap)).map Prod.snd

/-- `WriteSet::get` is the first write to the path, as `lookup` finds it. -/
theorem WriteSet.get_eq_lookup [BEq AccessPath] [LawfulBEq AccessPath] (ws : WriteSet)
    (ap : AccessPath) : ws.get ap = ws.lookup ap := by
  induction ws with
  | nil => rfl
  | cons w ws ih =>
      obtain ⟨a, op⟩ := w
      by_cases h : a = ap
      · subst h
        simp [WriteSet.get]
      · have h' : (ap == a) = false := beq_false_of_ne (Ne.symm h)
        unfold WriteSet.get at ih ⊢
        rw [List.find?_cons_of_neg (by simpa using h), ih, List.lookup_cons, h']

/-- libra's `TransactionArgument`. -/
inductive TransactionArgument where
  | u64 (n : UInt64)
  | address (a : AccountAddress)
  | byteArray (b : List UInt8)
  | string (s : String)
  deriving DecidableEq, Repr

/-- `ChannelOp`: what a channel transaction does. -/
inductive ChannelOp where
  | open
  | execute (packageName scriptName : String)
  | action (moduleAddress : AccountAddress) (moduleName functionName : String)
  | close
  deriving DecidableEq, Repr

/-- `ChannelOp::is_open`. -/
def ChannelOp.isOpen : ChannelOp → Bool
  | .open => true
  | _ => false

/-- Rust's `Duration`: whole seconds and the nanoseconds below one second. -/
structure Duration where
  secs : UInt64
  nanos : Fin 1000000000
  deriving DecidableEq, Repr

/-- `Duration::from_secs`. -/
def Duration.fromSecs (secs : UInt64) : Duration := ⟨secs, 0⟩

/-- `Duration::as_secs`: the whole seconds; the nanoseconds are dropped. -/
def Duration.asSecs (d : Duration) : UInt64 := d.secs

/-- `ChannelTransaction`: an off-chain transaction of a channel. -/
structure ChannelTransaction where
  /-- The chain version the transaction executes at. -/
  version : UInt64
  channelAddress : AccountAddress
  channelSequenceNumber : UInt64
  operator : ChannelOp
  args : List TransactionArgument
  proposer : AccountAddress
  /-- The proposer's account sequence number. -/
  sequenceNumber : UInt64
  expirationTime : Duration
  deriving DecidableEq, Repr

/-- `ChannelTransactionProposal`: a channel transaction signed by its proposer. -/
structure ChannelTransactionProposal where
  channelTxn : ChannelTransaction
  proposerPublicKey : PublicKey
  proposerSignature : Signature
  deriving DecidableEq, Repr

/-- `ChannelTransactionSigs`: one participant's signatures on a proposal. -/
structure ChannelTransactionSigs where
  /-- The signer. -/
  address : AccountAddress
  publicKey : PublicKey
  channelPayloadSignature : Signature
  /-- Hash of the witness data the signer computed for the transaction's output. -/
  witnessDataHash : HashValue
  witnessDataSignature : Signature
  travelOutputWitnessSignature : Option Signature
  deriving DecidableEq, Repr

/-- `SignedChannelTransaction`: a channel transaction with every participant's signatures. -/
structure SignedChannelTransaction where
  rawTx : ChannelTransaction
  signatures : SortedMap AccountAddress ChannelTransactionSigs
  deriving DecidableEq

/-- libra's `TransactionOutput`, as far as the channel code reads it. -/
structure TransactionOutput where
  writeSet : WriteSet
  events : List (List UInt8)
  gasUsed : UInt64
  majorStatus : UInt64
  /-- Whether the output must be committed on chain (`is_travel_txn`). -/
  isTravelTxn : Bool
  deriving DecidableEq

/-- `ProposalLifecycle`: how far a pending proposal has gone. -/
inductive ProposalLifecycle where
  | created
  | negotiating
  | agreed
  | applying
  | traveling
  deriving DecidableEq, Repr

/-- The discriminant of a lifecycle (`Created = 0`, then in declaration order), which the
derived `PartialOrd` compares. -/
def ProposalLifecycle.toNat : ProposalLifecycle → Nat
  | .created => 0
  | .negotiating => 1
  | .agreed => 2
  | .applying => 3
  | .traveling => 4

instance ProposalLifecycle.instLT : LT ProposalLifecycle := ⟨fun a b => a.toNat < b.toNat⟩

instance ProposalLifecycle.instLE : LE ProposalLifecycle := ⟨fun a b => a.toNat ≤ b.toNat⟩

instance ProposalLifecycle.decLt (a b : ProposalLifecycle) : Decidable (a < b) := inferInstanceAs (Decidable (_ < _))

instance ProposalLifecycle.decLe (a b : ProposalLifecycle) : Decidable (a ≤ b) := inferInstanceAs (Decidable (_ ≤ _))

/-- `PendingTransaction`: a proposal being negotiated, the output of executing it, and the
signatures collected so far. -/
structure PendingTransaction where
  proposal : ChannelTransactionProposal
  output : TransactionOutput
  signatures : SortedMap AccountAddress ChannelTransactionSigs
  lifecycle : ProposalLifecycle
  deriving DecidableEq

/-- The channel payload of a travel transaction (libra's `ChannelTransactionPayload`), with
the sender and sequence number of the `SignedTransaction` carrying it. -/
structure TravelTransaction where
  sender : AccountAddress
  sequenceNumber : UInt64
  /-- The channel sequence number of the payload's witness. -/
  channelSequenceNumber : UInt64
  proposer : AccountAddress
  publicKeys : List PublicKey
  /-- Whether every participant signed the payload (`is_authorized`). -/
  isAuthorized : Bool
  deriving DecidableEq

/-- `AppliedChannelTxn`: a committed channel transaction. -/
inductive AppliedChannelTxn where
  /-- Applied off chain, with every participant's signature. -/
  | offchain (t : SignedChannelTransaction)
  /-- Committed on chain. -/
  | travel (t : TravelTransaction)
  deriving DecidableEq

namespace AppliedChannelTxn

/-- `AppliedChannelTxn::channel_sequence_number`. -/
def channelSequenceNumber : AppliedChannelTxn → UInt64
  | offchain t => t.rawTx.channelSequenceNumber
  | travel t => t.channelSequenceNumber

/-- `AppliedChannelTxn::participant_keys`: the signers' keys, in address order. -/
def participantKeys : AppliedChannelTxn → List PublicKey
  | offchain t => t.signatures.values.map (·.publicKey)
  | travel t => t.publicKeys

/-- `AppliedChannelTxn::proposer`. -/
def proposer : AppliedChannelTxn → AccountAddress
  | offchain t => t.rawTx.proposer
  | travel t => t.proposer

/-- `AppliedChannelTxn::travel` (the name of the constructor is taken). -/
def isTravel : AppliedChannelTxn → Bool
  | offchain _ => false
  | travel _ => true

end AppliedChannelTxn

/-- libra's `WitnessData`: the channel sequence number a write set brings the channel to. -/
structure WitnessData where
  channelSequenceNumber : UInt64
  writeSet : WriteSet
  deriving DecidableEq

/-- libra's `Witness`: the latest channel write set with the participants' signatures on it. -/
structure Witness where
  data : WitnessData
  signatures : List Signature
  deriving DecidableEq

/-- `Witness::default()`. -/
def Witness.default : Witness := ⟨⟨0, []⟩, []⟩

/-- `LedgerInfo` of a channel's ledger. -/
structure LedgerInfo where
  version : UInt64
  transactionAccumulatorHash : HashValue
  epoch : UInt64
  timestampUsecs : UInt64
  deriving DecidableEq, Repr

/-- `ChannelTransactionInfo`: what the transaction accumulator commits to per transaction. -/
structure ChannelTransactionInfo where
  signedTransactionHash : HashValue
  writeSetHash : HashValue
  eventRootHash : HashValue
  majorStatus : UInt64
  travel : Bool
  gasUsed : UInt64
  deriving DecidableEq, Repr

/-- `WriteSetItem`: one write of a write set, as the write-set schema stores it. -/
abbrev WriteSetItem := AccessPath × WriteOp (List UInt8)

/-- `ChannelTransactionToCommit`. -/
structure ChannelTransactionToCommit where
  signedChannelTxn : AppliedChannelTxn
  writeSet : WriteSet
  events : List (List UInt8)
  majorStatus : UInt64
  gasUsed : UInt64
  deriving DecidableEq

/-- The hash functions of libra's crypto library the channel ledger uses, and the root of its
Merkle accumulators as a function of the leaves (`InMemoryAccumulator` and
`MerkleAccumulator` compute the same root from the same leaves). -/
structure Hashing where
  appliedTxn : AppliedChannelTxn → HashValue
  writeSetItem : WriteSetItem → HashValue
  txnInfo : ChannelTransactionInfo → HashValue
  txnAccumulatorRoot : List HashValue → HashValue
  writeSetAccumulatorRoot : List HashValue → HashValue

/-- Hash functions that send everything to the empty hash. -/
def Hashing.zero : Hashing := ⟨fun _ => [], fun _ => [], fun _ => [], fun _ => [], fun _ => []⟩
