import Stargate.Types.Channel

/-!
# Stargate.Types.PendingTxn

The methods of `PendingTransaction` (src/sgtypes/src/pending_txn.rs): a signature is added
only for an address that has none yet, and `try_reach_consensus` moves a negotiating
transaction to `Agreed` when its signers are exactly the participants (as many signatures as
participants, and every participant among them). Every `&mut self` method is a function
returning the updated transaction.
-/

namespace PendingTransaction

/-- `PendingTransaction::new`: no lifecycle is given, so it starts `Negotiating`. -/
def new (proposal : ChannelTransactionProposal) (output : TransactionOutput)
    (signatures : SortedMap AccountAddress ChannelTransactionSigs) : PendingTransaction :=
  ⟨proposal, output, signatures, .negotiating⟩

/-- `add_signature`: the first signature of an address is kept. -/
def addSignature (p : PendingTransaction) (sig : ChannelTransactionSigs) : PendingTransaction :=
  if p.signatures.contains sig.address then p
  else { p with signatures := p.signatures.insert sig.address sig }

def setApplying (p : PendingTransaction) : PendingTransaction := { p with lifecycle := .applying }

def setTravelling (p : PendingTransaction) : PendingTransaction :=
  { p with lifecycle := .traveling }

def setLifecycle (p : PendingTransaction) (state : ProposalLifecycle) : PendingTransaction :=
  { p with lifecycle := state }

def getSignature (p : PendingTransaction) (address : AccountAddress) :
    Option ChannelTransactionSigs :=
  p.signatures.find? address

/-- `newer_than`: by the derived `PartialOrd` of the lifecycle. -/
def newerThan (p other : PendingTransaction) : Bool := decide (other.lifecycle < p.lifecycle)

def isNegotiating (p : PendingTransaction) : Bool := p.lifecycle = .negotiating

def consensusReached (p : PendingTransaction) : Bool := decide (ProposalLifecycle.agreed ≤ p.lifecycle)

/-- Whether the signers are the participants, as `try_reach_consensus` tests it. -/
def signedByAll (p : PendingTransaction) (participants : SortedSet AccountAddress) : Bool :=
  p.signatures.size = participants.size && participants.keys.all p.signatures.contains

/-- `try_reach_consensus`: the updated transaction and whether consensus is reached. -/
def tryReachConsensus (p : PendingTransaction) (participants : SortedSet AccountAddress) :
    PendingTransaction × Bool :=
  let p := if p.lifecycle = .negotiating && p.signedByAll participants then
      p.setLifecycle .agreed
    else p
  (p, p.consensusReached)

/-! ### Signatures -/

@[simp] theorem proposal_addSignature (p : PendingTransaction) (sig : ChannelTransactionSigs) :
    (p.addSignature sig).proposal = p.proposal := by
  unfold addSignature
  split <;> rfl

@[simp] theorem output_addSignature (p : PendingTransaction) (sig : ChannelTransactionSigs) :
    (p.addSignature sig).output = p.output := by
  unfold addSignature
  split <;> rfl

@[simp] theorem lifecycle_addSignature (p : PendingTransaction) (sig : ChannelTransactionSigs) :
    (p.addSignature sig).lifecycle = p.lifecycle := by
  unfold addSignature
  split <;> rfl

/-! ### Lifecycle -/

@[simp] theorem newerThan_self (p : PendingTransaction) : p.newerThan p = false :=
  decide_eq_false (Nat.lt_irrefl _)

/-- A transaction no newer than another has a lifecycle no later than the other's. -/
theorem lifecycle_le_of_newerThan_eq_false {p q : PendingTransaction} (h : p.newerThan q = false) :
    p.lifecycle ≤ q.lifecycle := by
  have h' : ¬ q.lifecycle.toNat < p.lifecycle.toNat := of_decide_eq_false h
  show p.lifecycle.toNat ≤ q.lifecycle.toNat
  omega

/-! ### Consensus -/

@[simp] theorem proposal_tryReachConsensus (p : PendingTransaction)
    (participants : SortedSet AccountAddress) :
    (p.tryReachConsensus participants).1.proposal = p.proposal := by
  unfold tryReachConsensus
  split <;> rfl

@[simp] theorem signatures_tryReachConsensus (p : PendingTransaction)
    (participants : SortedSet AccountAddress) :
    (p.tryReachConsensus participants).1.signatures = p.signatures := by
  unfold tryReachConsensus
  split <;> rfl

@[simp] theorem output_tryReachConsensus (p : PendingTransaction)
    (participants : SortedSet AccountAddress) :
    (p.tryReachConsensus participants).1.output = p.output := by
  unfold tryReachConsensus
  split <;> rfl

theorem lifecycle_tryReachConsensus (p : PendingTransaction)
    (participants : SortedSet AccountAddress) :
    (p.tryReachConsensus participants).1.lifecycle =
      if p.lifecycle = .negotiating ∧ p.signedByAll participants = true then .agreed
      else p.lifecycle := by
  unfold tryReachConsensus
  by_cases h : p.lifecycle = .negotiating ∧ p.signedByAll participants = true
  · simp [h, setLifecycle]
  · rw [if_neg h, if_neg (by simpa using h)]

/-- The signers are the participants exactly when `try_reach_consensus`'s test passes: as many
signatures as participants, and every participant among the signers. -/
theorem signedByAll_iff (p : PendingTransaction) (participants : SortedSet AccountAddress) :
    p.signedByAll participants = true ↔
      ∀ a, p.signatures.contains a = true ↔ participants.contains a = true := by
  have hkeys : ∀ (m : SortedMap AccountAddress ChannelTransactionSigs) a,
      m.contains a = true ↔ a ∈ m.keys := fun m a => by
    rw [SortedMap.contains_eq, SortedMap.mem_keys_iff]
  have hset : ∀ a, participants.contains a = true ↔ a ∈ participants.keys := fun a => by
    rw [SortedMap.contains_eq, SortedMap.mem_keys_iff]
  have hlen : ∀ {ν : Type} (m : SortedMap AccountAddress ν), m.size = m.keys.length := fun m => by
    simp [SortedMap.size, SortedMap.keys]
  simp only [signedByAll, Bool.and_eq_true, decide_eq_true_eq, List.all_eq_true]
  constructor
  · -- every participant signed, and there are no more signers than participants
    rintro ⟨hsize, hall⟩ a
    have hsub : participants.keys ⊆ p.signatures.keys := fun x hx => (hkeys _ x).mp (hall x hx)
    have hperm : participants.keys.Perm p.signatures.keys :=
      (participants.keys_nodup.subperm hsub).perm_of_length_le (by rw [← hlen, ← hlen, hsize])
    rw [hkeys, hset, hperm.mem_iff]
  · intro h
    refine ⟨?_, fun a ha => (h a).mpr ((hset a).mpr ha)⟩
    have hperm : participants.keys.Perm p.signatures.keys :=
      (List.perm_ext_iff_of_nodup participants.keys_nodup p.signatures.keys_nodup).mpr fun a => by
        rw [← hkeys, ← hset, h]
    rw [hlen, hlen, hperm.length_eq]

end PendingTransaction
