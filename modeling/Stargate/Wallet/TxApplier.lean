import Stargate.Storage.ChannelStore
import Stargate.Lib.Transition

/-!
# Stargate.Wallet.TxApplier

`TxApplier` (src/sgwallet/src/tx_applier.rs) commits a channel's transactions: it keeps its
own in-memory transaction accumulator and epoch, builds each transaction's info and the
ledger info, and hands them to `ChannelStore::save_tx`, which rebuilds the same info and
appends it to the accumulator in storage.

`InMemoryAccumulator` is kept by its leaves, as the storage's accumulator is
(`Stargate.Storage.Stores`); its root is `Hashing.txnAccumulatorRoot` of the leaves. The
timestamp of the ledger info (`get_current_timestamp`) is an argument.

A channel's ledger (`ChannelLedger`) is the shared storage and the channel's applier, whose
store the channel shares. Its steps are the applier's `apply`, the channel's
`save_pending_txn` and `clear_pending_txn`, a batch that another channel over the same
storage commits under its own address, and a restart, which builds a new store
(`ChannelStore::new`) and a new applier from what is stored.

The main result, `ChannelLedger.accumulators_agree`: in every run of the ledger the
applier's accumulator holds exactly the leaves stored for its participant, so `apply` of any
transaction either fails its channel sequence number check or succeeds, and `save_tx` never
fails its root check.
-/

open SortedMap BigEndian

/-- `AppliedTrees`: the epoch and the transaction accumulator, by its leaves. -/
structure AppliedTrees where
  epoch : UInt64
  txAccumulator : List HashValue

/-- `TxApplier`. -/
structure TxApplier where
  appliedTrees : AppliedTrees
  store : ChannelStore

namespace TxApplier

variable (codec : AddressCodec) (hashing : Hashing)

/-- `TxApplier::new`: the accumulator and epoch of the store's startup info, or the genesis
ones. -/
def new (store : ChannelStore) (db : SgStorage) : Result TxApplier := do
  let startupInfo ← store.getStartupInfo db
  let (frozenSubtreesInAccumulator, numLeavesInAccumulator, epoch) :=
    match startupInfo with
    | some info =>
        (info.ledgerFrozenSubtreeHashes, info.latestVersion.toNat + 1, info.ledgerInfo.epoch)
    | none => ([], 0, 0)
  if frozenSubtreesInAccumulator.length ≠ numLeavesInAccumulator then
    throw "the startup info read from storage should be valid"
  pure ⟨⟨epoch, frozenSubtreesInAccumulator⟩, store⟩

/-- `TxApplier::apply`. -/
def apply (now : UInt64) (t : TxApplier) (db : SgStorage) (tx : ChannelTransactionToCommit) :
    Result (TxApplier × SgStorage) := do
  let channelSeqNumber := tx.signedChannelTxn.channelSequenceNumber
  if channelSeqNumber.toNat ≠ t.appliedTrees.txAccumulator.length then
    throw "tx channel seq number mismatched"
  let writeSetTree := hashing.writeSetAccumulatorRoot (tx.writeSet.map hashing.writeSetItem)
  let travel := tx.signedChannelTxn.isTravel
  let txnInfo : ChannelTransactionInfo :=
    ⟨hashing.appliedTxn tx.signedChannelTxn, writeSetTree, zeroHash, tx.majorStatus, travel,
      tx.gasUsed⟩
  let newTxnAccumulator := t.appliedTrees.txAccumulator ++ [hashing.txnInfo txnInfo]
  let newEpoch := if travel then channelSeqNumber else t.appliedTrees.epoch
  let ledgerInfo : LedgerInfo :=
    ⟨channelSeqNumber, hashing.txnAccumulatorRoot newTxnAccumulator, newEpoch, now⟩
  let (store, db) ← t.store.saveTx codec hashing db tx channelSeqNumber (some ledgerInfo) true
  pure (⟨⟨newEpoch, newTxnAccumulator⟩, store⟩, db)

/-! ### What `new` and `apply` do to the accumulator -/

/-- A new applier keeps the store it is given, and its accumulator holds the leaves that
are stored. -/
theorem new_inv {s : ChannelStore} {db : SgStorage} {t : TxApplier} (h : new s db = .ok t) :
    t.store = s ∧ LedgerStore.readLeaves s.participant db t.appliedTrees.txAccumulator.length =
      some t.appliedTrees.txAccumulator := by
  obtain ⟨startupInfo, hinfo, h⟩ := Except.bind_eq_ok.mp h
  cases startupInfo with
  | none =>
      cases h
      exact ⟨rfl, LedgerStore.readLeaves_zero _ _⟩
  | some info =>
      have hfrozen := ChannelStore.getStartupInfo_frozen hinfo
      -- `InMemoryAccumulator::new` accepts the frozen leaves, whose count it checks
      simp only [ne_eq] at h
      split at h
      · cases h
      · next hlen =>
          cases h
          refine ⟨rfl, ?_⟩
          rw [not_not.mp hlen]
          exact hfrozen

/-- At the next channel sequence number, `apply` is `save_tx` of the transaction with the
ledger info over the accumulator with the transaction's info appended, and its epoch moved
to the channel sequence number of a travel transaction. -/
theorem apply_eq (now : UInt64) (t : TxApplier) (db : SgStorage) (tx : ChannelTransactionToCommit)
    (hcsn : tx.signedChannelTxn.channelSequenceNumber.toNat = t.appliedTrees.txAccumulator.length) :
    apply codec hashing now t db tx =
      (t.store.saveTx codec hashing db tx tx.signedChannelTxn.channelSequenceNumber
        (some ⟨tx.signedChannelTxn.channelSequenceNumber,
          hashing.txnAccumulatorRoot (t.appliedTrees.txAccumulator ++
            [hashing.txnInfo (ChannelStore.transactionInfo hashing tx)]),
          if tx.signedChannelTxn.isTravel then tx.signedChannelTxn.channelSequenceNumber
          else t.appliedTrees.epoch, now⟩) true).map fun r =>
        (⟨⟨if tx.signedChannelTxn.isTravel then tx.signedChannelTxn.channelSequenceNumber
            else t.appliedTrees.epoch,
          t.appliedTrees.txAccumulator ++ [hashing.txnInfo (ChannelStore.transactionInfo hashing tx)]⟩,
          r.1⟩, r.2) := by
  simp only [apply, hcsn, ne_eq, not_true_eq_false, if_false, ChannelStore.transactionInfo]
  cases t.store.saveTx codec hashing db tx tx.signedChannelTxn.channelSequenceNumber _ true <;> rfl

/-- `apply` of the transaction at the next channel sequence number succeeds when the
applier's accumulator holds the stored leaves, and it appends one leaf to both. -/
theorem apply_ok (now : UInt64) (t : TxApplier) (db : SgStorage) (tx : ChannelTransactionToCommit)
    (hcsn : tx.signedChannelTxn.channelSequenceNumber.toNat = t.appliedTrees.txAccumulator.length)
    (hleaves : LedgerStore.readLeaves t.store.participant db t.appliedTrees.txAccumulator.length =
      some t.appliedTrees.txAccumulator) :
    ∃ a db', apply codec hashing now t db tx = .ok (a, db') ∧
      a.store.participant = t.store.participant ∧
      LedgerStore.readLeaves t.store.participant db' a.appliedTrees.txAccumulator.length =
        some a.appliedTrees.txAccumulator := by
  rw [← hcsn] at hleaves
  -- the ledger info `apply` builds claims the root `save_tx` computes
  obtain ⟨s', db', hsave, hpart, -, -, hacc, -⟩ := ChannelStore.saveTx_ok codec hashing t.store db tx
    tx.signedChannelTxn.channelSequenceNumber
    (some ⟨tx.signedChannelTxn.channelSequenceNumber,
      hashing.txnAccumulatorRoot (t.appliedTrees.txAccumulator ++
        [hashing.txnInfo (ChannelStore.transactionInfo hashing tx)]),
      if tx.signedChannelTxn.isTravel then tx.signedChannelTxn.channelSequenceNumber
      else t.appliedTrees.epoch, now⟩) true hleaves (fun x hx => by cases hx; exact ⟨rfl, rfl⟩)
  rw [apply_eq codec hashing now t db tx hcsn, hsave]
  refine ⟨_, _, rfl, hpart, ?_⟩
  simp only [List.length_append, List.length_singleton, ← hcsn]
  exact LedgerStore.readLeaves_insert _ hacc hleaves

/-- `apply` fails its own check exactly when the channel sequence number is not the number of
leaves. -/
theorem apply_of_mismatch (now : UInt64) (t : TxApplier) (db : SgStorage)
    (tx : ChannelTransactionToCommit)
    (hcsn : tx.signedChannelTxn.channelSequenceNumber.toNat ≠ t.appliedTrees.txAccumulator.length) :
    apply codec hashing now t db tx = .error "tx channel seq number mismatched" := by
  simp only [apply, hcsn, ne_eq, not_false_eq_true, if_true]
  rfl

theorem new_fresh (participant : AccountAddress) :
    new (ChannelStore.fresh participant) SgStorage.empty =
      .ok ⟨⟨0, []⟩, ChannelStore.fresh participant⟩ := rfl

/-- A successful `apply` over an applier whose accumulator holds the stored leaves keeps them
agreeing. -/
theorem apply_inv {now : UInt64} {t a : TxApplier} {db db' : SgStorage}
    {tx : ChannelTransactionToCommit} (h : apply codec hashing now t db tx = .ok (a, db'))
    (hleaves : LedgerStore.readLeaves t.store.participant db t.appliedTrees.txAccumulator.length =
      some t.appliedTrees.txAccumulator) :
    a.store.participant = t.store.participant ∧
      LedgerStore.readLeaves t.store.participant db' a.appliedTrees.txAccumulator.length =
        some a.appliedTrees.txAccumulator := by
  by_cases hcsn : tx.signedChannelTxn.channelSequenceNumber.toNat =
      t.appliedTrees.txAccumulator.length
  · obtain ⟨a', db'', h', hpart, hleaves'⟩ := apply_ok codec hashing now t db tx hcsn hleaves
    rw [h] at h'
    cases h'
    exact ⟨hpart, hleaves'⟩
  · rw [apply_of_mismatch codec hashing now t db tx hcsn] at h
    cases h

/-- A committed transaction clears the pending transaction, in the cache and in storage, and
the store caches the witness over the committed write set. -/
theorem apply_caches {now : UInt64} {t a : TxApplier} {db db' : SgStorage}
    {tx : ChannelTransactionToCommit} (h : apply codec hashing now t db tx = .ok (a, db')) :
    a.store.participant = t.store.participant ∧ a.store.pendingTxn = none ∧
      a.store.latestWitness = some (generateWitness tx.signedChannelTxn tx.writeSet) ∧
      PendingTxnStore.getPendingTxn t.store.participant db' = none := by
  unfold apply at h
  dsimp only at h
  split at h
  · cases h
  obtain ⟨⟨store, db''⟩, hsave, h⟩ := Except.bind_eq_ok.mp h
  cases h
  obtain ⟨hpart, hpending, hwitness, hstored⟩ := ChannelStore.saveTx_inv codec hashing hsave
  exact ⟨hpart, hpending, hwitness, hstored⟩

end TxApplier

/-- A channel's ledger: the shared storage and the channel's applier. -/
structure ChannelLedger where
  db : SgStorage
  applier : TxApplier

namespace ChannelLedger

variable (codec : AddressCodec) (hashing : Hashing) (participants : SortedSet AccountAddress)

/-- A ledger as a channel starts it: a store built over what is stored, and its applier. -/
def Init (l : ChannelLedger) : Prop :=
  ∃ participant db s, ChannelStore.new codec participants participant db = .ok (s, l.db) ∧
    TxApplier.new s l.db = .ok l.applier

/-- One step of a channel's ledger. -/
inductive Step : ChannelLedger → ChannelLedger → Prop
  /-- `TxApplier::apply` succeeds. -/
  | apply {l : ChannelLedger} {a : TxApplier} {db : SgStorage} (now : UInt64)
      (tx : ChannelTransactionToCommit) :
      TxApplier.apply codec hashing now l.applier l.db tx = .ok (a, db) → Step l ⟨db, a⟩
  /-- `ChannelStore::save_pending_txn(txn, true)`. -/
  | savePendingTxn {l : ChannelLedger} (txn : PendingTransaction) :
      Step l ⟨(l.applier.store.savePendingTxn l.db txn true).2,
        { l.applier with store := (l.applier.store.savePendingTxn l.db txn true).1 }⟩
  /-- `ChannelStore::clear_pending_txn`. -/
  | clearPendingTxn {l : ChannelLedger} :
      Step l ⟨(l.applier.store.clearPendingTxn l.db).2,
        { l.applier with store := (l.applier.store.clearPendingTxn l.db).1 }⟩
  /-- Another channel over the shared storage commits a batch under its own address. -/
  | otherChannel {l : ChannelLedger} (participant : AccountAddress) (b : SchemaBatch) :
      ¬ participant <+: l.applier.store.participant →
      ¬ l.applier.store.participant <+: participant →
      Step l ⟨writeSchemas participant l.db b, l.applier⟩
  /-- A restart: a new store over what is stored, and a new applier over it. -/
  | restart {l : ChannelLedger} {s : ChannelStore} {db : SgStorage} {a : TxApplier} :
      ChannelStore.new codec participants l.applier.store.participant l.db = .ok (s, db) →
      TxApplier.new s db = .ok a → Step l ⟨db, a⟩

/-- The applier's accumulator holds exactly the leaves stored for its participant. -/
def AccumulatorsAgree (l : ChannelLedger) : Prop :=
  LedgerStore.readLeaves l.applier.store.participant l.db l.applier.appliedTrees.txAccumulator.length =
    some l.applier.appliedTrees.txAccumulator

theorem accumulatorsAgree_init {l : ChannelLedger} (h : Init codec participants l) :
    AccumulatorsAgree l := by
  obtain ⟨participant, db, s, -, happlier⟩ := h
  obtain ⟨hstore, hleaves⟩ := TxApplier.new_inv happlier
  unfold AccumulatorsAgree
  rw [hstore]
  exact hleaves

/-- Every step keeps the accumulators agreeing: `apply` appends to both, the pending
transaction's writes do not touch the accumulator, and a restart reads it back. -/
theorem accumulatorsAgree_step {l l' : ChannelLedger} (h : Step codec hashing participants l l')
    (hl : AccumulatorsAgree l) : AccumulatorsAgree l' := by
  cases h with
  | apply now tx happly =>
      obtain ⟨hpart, hleaves⟩ := TxApplier.apply_inv codec hashing happly hl
      unfold AccumulatorsAgree
      rw [hpart]
      exact hleaves
  | savePendingTxn txn =>
      unfold AccumulatorsAgree
      rw [LedgerStore.readLeaves_of_txnAccumulator_eq _ _
        (ChannelStore.txnAccumulator_savePendingTxn _ _ _ _)]
      exact hl
  | clearPendingTxn =>
      unfold AccumulatorsAgree
      rw [LedgerStore.readLeaves_of_txnAccumulator_eq _ _
        (ChannelStore.txnAccumulator_clearPendingTxn _ _)]
      exact hl
  | otherChannel participant b h₁ h₂ =>
      unfold AccumulatorsAgree
      rw [LedgerStore.readLeaves_writeSchemas_of_disjoint _ _ _ _ h₁ h₂]
      exact hl
  | restart hnew happlier =>
      obtain ⟨hstore, hleaves⟩ := TxApplier.new_inv happlier
      unfold AccumulatorsAgree
      rw [hstore]
      exact hleaves

theorem accumulatorsAgree_of_reachable {l : ChannelLedger}
    (h : Reachable (Init codec participants) (Step codec hashing participants) l) :
    AccumulatorsAgree l :=
  h.invariant AccumulatorsAgree (fun _ h0 => accumulatorsAgree_init codec participants h0)
    (fun _ _ hl hs => accumulatorsAgree_step codec hashing participants hs hl)

/-- In every run of a channel's ledger, restarts included, the applier's accumulator holds
the stored leaves, and `apply` of any transaction either fails its channel sequence number
check or succeeds: the root `save_tx` computes always matches the ledger info's. -/
theorem accumulators_agree {l : ChannelLedger}
    (h : Reachable (Init codec participants) (Step codec hashing participants) l) :
    LedgerStore.readLeaves l.applier.store.participant l.db
        l.applier.appliedTrees.txAccumulator.length = some l.applier.appliedTrees.txAccumulator ∧
      ∀ now tx, TxApplier.apply codec hashing now l.applier l.db tx =
          .error "tx channel seq number mismatched" ∨
        ∃ a db, TxApplier.apply codec hashing now l.applier l.db tx = .ok (a, db) := by
  have hagree := accumulatorsAgree_of_reachable codec hashing participants h
  refine ⟨hagree, fun now tx => ?_⟩
  by_cases hcsn : tx.signedChannelTxn.channelSequenceNumber.toNat =
      l.applier.appliedTrees.txAccumulator.length
  · obtain ⟨a, db, happly, -⟩ := TxApplier.apply_ok codec hashing now l.applier l.db tx hcsn hagree
    exact .inr ⟨a, db, happly⟩
  · exact .inl (TxApplier.apply_of_mismatch codec hashing now l.applier l.db tx hcsn)

theorem accumulators_agree_fresh :
    Reachable (Init AddressCodec.raw .empty) (Step AddressCodec.raw Hashing.zero .empty)
        ⟨SgStorage.empty, ⟨⟨0, []⟩, ChannelStore.fresh [1]⟩⟩ ∧
      LedgerStore.readLeaves [1] SgStorage.empty 0 = some [] ∧
      ∀ now tx, TxApplier.apply AddressCodec.raw Hashing.zero now
          ⟨⟨0, []⟩, ChannelStore.fresh [1]⟩ SgStorage.empty tx =
          .error "tx channel seq number mismatched" ∨
        ∃ a db, TxApplier.apply AddressCodec.raw Hashing.zero now
          ⟨⟨0, []⟩, ChannelStore.fresh [1]⟩ SgStorage.empty tx = .ok (a, db) :=
  have h : Reachable (Init AddressCodec.raw .empty) (Step AddressCodec.raw Hashing.zero .empty)
      ⟨SgStorage.empty, ⟨⟨0, []⟩, ChannelStore.fresh [1]⟩⟩ :=
    .init ⟨[1], SgStorage.empty, _, ChannelStore.new_empty _ _, TxApplier.new_fresh _⟩
  ⟨h, accumulators_agree _ _ _ h⟩

end ChannelLedger
