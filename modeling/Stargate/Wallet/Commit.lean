import Stargate.Wallet.TxApplier
import Stargate.Lib.ExceptState

/-!
# Stargate.Wallet.Commit

`TxApplier::apply` and `ChannelStore::save_tx` (src/sgwallet/src/tx_applier.rs,
src/sgstorage/src/channel_store.rs) as the code runs them: statement by statement over the state
they write, the shared storage and the applier with its store. `Stargate.Wallet.TxApplier`
models each as a function to its result. Here each write stands where the source makes it,
between the fallible steps, so a failure keeps every write made before it.

`save_tx` builds its whole write batch from what it reads and writes nothing while it does
(`saveTxBatch`). It then commits the batch: RocksDB writes a batch whole or not at all, and
`writeError` says whether the write fails. Only then does it set its caches. `apply` sets its
applied trees after `save_tx` returns. No fallible step follows a write, so the run is the
functional model committed whole or not at all (`run_saveTx`, `run_apply`). `apply` either
fails with the ledger as it was, or succeeds with the ledger advanced by exactly the
transaction (`apply_atomic`).
-/

open ExceptState

/-- A computation over a channel's ledger that may fail with an error's message. -/
abbrev LedgerM := ExceptT String (StateM ChannelLedger)

namespace ChannelStore

variable (codec : AddressCodec) (hashing : Hashing)

/-- The part of `save_tx` before its commit: the version check, and the write batch of the
participant keys, the transaction with its info, the checked ledger info and the cleared pending
transaction. -/
def saveTxBatch (s : ChannelStore) (db : SgStorage) (tx : ChannelTransactionToCommit)
    (version : UInt64) (ledgerInfo : Option LedgerInfo) (clearPendingTxn : Bool) :
    Result SchemaBatch := do
  if ledgerInfo.any (·.version ≠ version) then
    throw "Transaction batch not applicable"
  let updated := updatedPublicKeys s.participantKeys.toList tx.signedChannelTxn.participantKeys
  let b := { SchemaBatch.new with participantPublicKey := putPublicKeys codec updated }
  let (newLedgerHash, b) ← saveTxImpl hashing s.participant db tx version b
  let b ← checkLedgerInfo newLedgerHash b ledgerInfo
  pure (if clearPendingTxn then PendingTxnStore.clear b else b)

/-- The functional `save_tx` is its batch, committed, with the caches set. -/
theorem saveTx_eq_saveTxBatch (s : ChannelStore) (db : SgStorage)
    (tx : ChannelTransactionToCommit) (version : UInt64) (ledgerInfo : Option LedgerInfo)
    (clear : Bool) :
    saveTx codec hashing s db tx version ledgerInfo clear =
      (saveTxBatch codec hashing s db tx version ledgerInfo clear).map fun b =>
        ({ s with
            latestLedgerInfo := ledgerInfo.or s.latestLedgerInfo
            participantKeys := s.participantKeys.append
              (updatedPublicKeys s.participantKeys.toList tx.signedChannelTxn.participantKeys)
            latestWitness := some (generateWitness tx.signedChannelTxn tx.writeSet)
            pendingTxn := if clear then none else s.pendingTxn },
          writeSchemas s.participant db b) := by
  unfold saveTx saveTxBatch
  dsimp only
  split
  · rfl
  · cases saveTxImpl hashing s.participant db tx version _ with
    | error e => rfl
    | ok r =>
        obtain ⟨newLedgerHash, b⟩ := r
        simp only [Result.ok_bind]
        cases checkLedgerInfo newLedgerHash b ledgerInfo <;> rfl

end ChannelStore

namespace ChannelLedger

variable (codec : AddressCodec) (hashing : Hashing)

/-- A change to the channel's store, the applier's `store`. -/
def modifyStore (f : ChannelStore → ChannelStore) : LedgerM Unit :=
  modify fun l => { l with applier := { l.applier with store := f l.applier.store } }

/-- `ChannelStore::commit`: `write_schemas` of the batch under the store's participant. With
`writeError` the write fails and writes nothing. -/
def commit (writeError : Option String) (b : SchemaBatch) : LedgerM Unit :=
  match writeError with
  | some e => throw e
  | none => modify fun l => { l with db := writeSchemas l.applier.store.participant l.db b }

/-- `ChannelStore::save_tx`, statement by statement. -/
def saveTx (writeError : Option String) (tx : ChannelTransactionToCommit) (version : UInt64)
    (ledgerInfo : Option LedgerInfo) (clearPendingTxn : Bool) : LedgerM Unit := do
  let l ← get
  let witness := generateWitness tx.signedChannelTxn tx.writeSet
  let updated := ChannelStore.updatedPublicKeys l.applier.store.participantKeys.toList
    tx.signedChannelTxn.participantKeys
  let b ← ExceptState.ofExcept
    (l.applier.store.saveTxBatch codec hashing l.db tx version ledgerInfo clearPendingTxn)
  commit writeError b
  -- once everything is persisted, the in-memory caches
  modifyStore fun s => { s with latestLedgerInfo := ledgerInfo.or s.latestLedgerInfo }
  modifyStore fun s => { s with participantKeys := s.participantKeys.append updated }
  modifyStore fun s => { s with latestWitness := some witness }
  if clearPendingTxn then
    modifyStore fun s => { s with pendingTxn := none }

/-- `TxApplier::apply`, statement by statement. -/
def apply (now : UInt64) (writeError : Option String) (tx : ChannelTransactionToCommit) :
    LedgerM Unit := do
  let t := (← get).applier
  let channelSeqNumber := tx.signedChannelTxn.channelSequenceNumber
  if channelSeqNumber.toNat ≠ t.appliedTrees.txAccumulator.length then
    throw "tx channel seq number mismatched"
  let writeSetTree := hashing.writeSetAccumulatorRoot (tx.writeSet.map hashing.writeSetItem)
  let travel := tx.signedChannelTxn.isTravel
  let txnInfo : ChannelTransactionInfo :=
    ⟨hashing.appliedTxn tx.signedChannelTxn, writeSetTree, zeroHash, tx.majorStatus, travel,
      tx.gasUsed⟩
  let newTxnAccumulator := t.appliedTrees.txAccumulator ++ [hashing.txnInfo txnInfo]
  let newEpoch := if travel then channelSeqNumber else t.appliedTrees.epoch
  let ledgerInfo : LedgerInfo :=
    ⟨channelSeqNumber, hashing.txnAccumulatorRoot newTxnAccumulator, newEpoch, now⟩
  saveTx codec hashing writeError tx channelSeqNumber (some ledgerInfo) true
  modify fun l => { l with applier := { l.applier with appliedTrees := ⟨newEpoch, newTxnAccumulator⟩ } }

/-! ### The run is the functional model, committed whole or not at all -/

/-- `save_tx` fails with the ledger as it was, or commits the functional model's storage and
caches. -/
theorem run_saveTx (writeError : Option String) (tx : ChannelTransactionToCommit)
    (version : UInt64) (ledgerInfo : Option LedgerInfo) (clear : Bool) (l : ChannelLedger) :
    run (saveTx codec hashing writeError tx version ledgerInfo clear) l =
      match l.applier.store.saveTx codec hashing l.db tx version ledgerInfo clear, writeError with
      | .ok (s, db), none => (.ok (), ⟨db, { l.applier with store := s }⟩)
      | .ok _, some e => (.error e, l)
      | .error e, _ => (.error e, l) := by
  rw [ChannelStore.saveTx_eq_saveTxBatch]
  unfold saveTx
  rw [run_get_bind]
  dsimp only
  rw [run_ofExcept_bind]
  -- the batch is built from what is read and writes nothing; the caches follow the commit
  cases l.applier.store.saveTxBatch codec hashing l.db tx version ledgerInfo clear with
  | error e => rfl
  | ok b =>
      cases writeError with
      | some e => rfl
      | none => cases clear <;> rfl

/-- `apply` fails with the ledger as it was, or commits the functional model's result. -/
theorem run_apply (now : UInt64) (writeError : Option String) (tx : ChannelTransactionToCommit)
    (l : ChannelLedger) :
    run (apply codec hashing now writeError tx) l =
      match TxApplier.apply codec hashing now l.applier l.db tx, writeError with
      | .ok (a, db), none => (.ok (), ⟨db, a⟩)
      | .ok _, some e => (.error e, l)
      | .error e, _ => (.error e, l) := by
  unfold apply
  rw [run_get_bind]
  dsimp only
  by_cases hcsn : tx.signedChannelTxn.channelSequenceNumber.toNat =
      l.applier.appliedTrees.txAccumulator.length
  · rw [if_neg (not_not.mpr hcsn), run_bind, run_saveTx,
      TxApplier.apply_eq codec hashing now l.applier l.db tx hcsn]
    unfold ChannelStore.transactionInfo
    -- the applied trees are set after `save_tx` returns, and only when it succeeded
    cases l.applier.store.saveTx codec hashing l.db tx _ _ true with
    | error e => rfl
    | ok r => cases writeError <;> rfl
  · rw [if_pos hcsn, run_throw_bind, TxApplier.apply_of_mismatch codec hashing now l.applier l.db tx hcsn]

/-! ### Atomicity -/

/-- The ledger info `apply` hands to `save_tx`: the transaction's channel sequence number, the
root of the accumulator with the transaction's info appended, and the epoch, moved to the
channel sequence number by a travel transaction. -/
abbrev nextLedgerInfo (now : UInt64) (l : ChannelLedger) (tx : ChannelTransactionToCommit) :
    LedgerInfo :=
  ⟨tx.signedChannelTxn.channelSequenceNumber,
    hashing.txnAccumulatorRoot (l.applier.appliedTrees.txAccumulator ++
      [hashing.txnInfo (ChannelStore.transactionInfo hashing tx)]),
    if tx.signedChannelTxn.isTravel then tx.signedChannelTxn.channelSequenceNumber
    else l.applier.appliedTrees.epoch, now⟩

/-- The ledger advanced by exactly one transaction and its batch: the batch written, the
store's ledger info, participant keys and witness set from the transaction and its pending
transaction cleared, and the applier's accumulator and epoch moved past it. -/
def committed (now : UInt64) (l : ChannelLedger) (tx : ChannelTransactionToCommit)
    (b : SchemaBatch) : ChannelLedger :=
  let s := l.applier.store
  let li := nextLedgerInfo hashing now l tx
  ⟨writeSchemas s.participant l.db b,
    ⟨⟨li.epoch, l.applier.appliedTrees.txAccumulator ++
        [hashing.txnInfo (ChannelStore.transactionInfo hashing tx)]⟩,
      { s with
        latestLedgerInfo := some li
        participantKeys := s.participantKeys.append
          (ChannelStore.updatedPublicKeys s.participantKeys.toList
            tx.signedChannelTxn.participantKeys)
        latestWitness := some (generateWitness tx.signedChannelTxn tx.writeSet)
        pendingTxn := none }⟩⟩

/-- Committing a transaction is atomic: `apply` fails with the storage, every cache of the
store and the applied trees as they were, or it succeeds with the transaction's batch written
and the caches and applied trees advanced by exactly the transaction. -/
theorem apply_atomic (now : UInt64) (writeError : Option String)
    (tx : ChannelTransactionToCommit) (l : ChannelLedger) :
    (∃ e, run (apply codec hashing now writeError tx) l = (.error e, l)) ∨
      ∃ b, l.applier.store.saveTxBatch codec hashing l.db tx
          tx.signedChannelTxn.channelSequenceNumber (some (nextLedgerInfo hashing now l tx)) true =
          .ok b ∧
        run (apply codec hashing now writeError tx) l = (.ok (), committed hashing now l tx b) := by
  rw [run_apply]
  by_cases hcsn : tx.signedChannelTxn.channelSequenceNumber.toNat =
      l.applier.appliedTrees.txAccumulator.length
  · rw [TxApplier.apply_eq codec hashing now l.applier l.db tx hcsn,
      ChannelStore.saveTx_eq_saveTxBatch]
    cases hb : l.applier.store.saveTxBatch codec hashing l.db tx
        tx.signedChannelTxn.channelSequenceNumber (some (nextLedgerInfo hashing now l tx)) true with
    | error e => exact .inl ⟨e, rfl⟩
    | ok b =>
        cases writeError with
        | some e => exact .inl ⟨e, rfl⟩
        | none => exact .inr ⟨b, rfl, rfl⟩
  · rw [TxApplier.apply_of_mismatch codec hashing now l.applier l.db tx hcsn]
    exact .inl ⟨_, rfl⟩

variable (participants : SortedSet AccountAddress)

end ChannelLedger
