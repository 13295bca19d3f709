import Stargate.Storage.Stores

/-!
# Stargate.Storage.ChannelStore

`ChannelStore` (src/sgstorage/src/channel_store.rs): a channel's stores over its
`ChannelDB`, with four in-memory caches, the latest ledger info (held by `LedgerStore`),
the latest witness, the pending transaction and the participants' public keys.

Two paths compute every cached value. `ChannelStore::new` loads them from the database
(`LedgerStore::bootstrap`, `load_public_keys`, `load_pending_txn`, `load_witness`);
`save_tx`, `save_pending_txn` and `clear_pending_txn` set them from the data they commit.
A panic (`expect`, `unwrap_or_else(panic!)`) is an `Err` here: the store is not built.

The caches live behind `Arc<RwLock<..>>` and every clone of a store shares them, so a
channel has one `ChannelStore` value here, threaded through every operation together with
the shared storage.
-/

open SortedMap BigEndian

/-- `generate_witness`: the committed write set at the next channel sequence number, with the
participants' signatures on it when the transaction was applied off chain. -/
def generateWitness (txn : AppliedChannelTxn) (writeSet : WriteSet) : Witness :=
  let witnessSignatures := match txn with
    | .offchain t => t.signatures.values.map (·.witnessDataSignature)
    | .travel _ => []
  ⟨⟨txn.channelSequenceNumber + 1, writeSet⟩, witnessSignatures⟩

/-- `StartupInfo`, with the accumulator's frozen subtrees given by its leaves. -/
structure StartupInfo where
  ledgerInfo : LedgerInfo
  latestVersion : UInt64
  ledgerFrozenSubtreeHashes : List HashValue

/-- A `ChannelStore`: its database's participant and its caches. -/
structure ChannelStore where
  participant : AccountAddress
  latestLedgerInfo : Option LedgerInfo
  latestWitness : Option Witness
  pendingTxn : Option PendingTransaction
  participantKeys : SortedMap AccountAddress (Option PublicKey)

namespace ChannelStore

variable (codec : AddressCodec) (hashing : Hashing)

/-- `load_public_keys`: every entry of the participant-key schema, keys decoded. -/
def loadPublicKeys (participant : AccountAddress) (db : SgStorage) :
    Result (SortedMap AccountAddress (Option PublicKey)) :=
  let it := (ChannelDB.iter participant db.participantPublicKey).seekToFirst
  if it.1 then
    it.2.toList.foldlM
      (fun keys kv => match codec.decode kv.1 with
        | some addr => .ok (keys.insert addr kv.2)
        | none => .error "invalid key")
      .empty
  else .ok .empty

/-- `load_witness`: the witness of the transaction at the latest ledger info's version. -/
def loadWitness (participant : AccountAddress) (db : SgStorage) :
    Option LedgerInfo → Result (Option Witness)
  | none => .ok none
  | some ledgerInfo => do
      let ws ← ChannelWriteSetStore.getWriteSetByVersion participant db ledgerInfo.version
      let txn ← ChannelTransactionStore.getTransaction participant db ledgerInfo.version
      pure (some (generateWitness txn ws))

/-- The batch `bootstrap` writes when no participant key is stored: `None` for each. -/
def initialKeys (participants : SortedSet AccountAddress) : SchemaBatch :=
  { SchemaBatch.new with
    participantPublicKey := participants.keys.foldl
      (fun rows addr => rows.insert (codec.encode addr) (.value none)) .empty }

/-- `ChannelStore::new`, with `bootstrap`. -/
def new (participants : SortedSet AccountAddress) (participant : AccountAddress)
    (db : SgStorage) : Result (ChannelStore × SgStorage) := do
  let ledgerInfo ← LedgerStore.bootstrap participant db
  let keys ← loadPublicKeys codec participant db
  let pendingTxn := PendingTxnStore.getPendingTxn participant db
  let witness ← loadWitness participant db ledgerInfo
  if keys.toList.isEmpty then
    let db := writeSchemas participant db (initialKeys codec participants)
    let keys ← loadPublicKeys codec participant db
    pure (⟨participant, ledgerInfo, witness, pendingTxn, keys⟩, db)
  else
    pure (⟨participant, ledgerInfo, witness, pendingTxn, keys⟩, db)

/-- The key updates of `save_tx`: the cached keys, in address order, zipped with the
transaction's keys; each key that is not already cached as it is. -/
def updatedPublicKeys (cached : List (AccountAddress × Option PublicKey))
    (newKeys : List PublicKey) : SortedMap AccountAddress (Option PublicKey) :=
  (cached.zip newKeys).foldl
    (fun acc e => match e.1.2 with
      | some old => if old = e.2 then acc else acc.insert e.1.1 (some e.2)
      | none => acc.insert e.1.1 (some e.2))
    .empty

/-- The participant-key rows of `save_tx`'s batch. -/
def putPublicKeys (updated : SortedMap AccountAddress (Option PublicKey)) :
    Rows (Option PublicKey) :=
  updated.toList.foldl (fun rows e => rows.insert (codec.encode e.1) (.value e.2)) .empty

/-- `save_tx_impl`: the write set, the transaction and its info; returns the new root of the
transaction accumulator. -/
def saveTxImpl (participant : AccountAddress) (db : SgStorage) (tx : ChannelTransactionToCommit)
    (version : UInt64) (b : SchemaBatch) : Result (HashValue × SchemaBatch) :=
  let (writeSetRootHash, b) := ChannelWriteSetStore.putWriteSet hashing version tx.writeSet b
  let txHash := hashing.appliedTxn tx.signedChannelTxn
  let travel := tx.signedChannelTxn.isTravel
  let b := ChannelTransactionStore.putTransaction version tx.signedChannelTxn b
  let txInfo : ChannelTransactionInfo :=
    ⟨txHash, writeSetRootHash, zeroHash, tx.majorStatus, travel, tx.gasUsed⟩
  LedgerStore.putTxInfo participant hashing db version txInfo b

/-- The ledger-info part of `save_tx`: the root check, then the ledger info's row. -/
def checkLedgerInfo (newLedgerHash : HashValue) (b : SchemaBatch) :
    Option LedgerInfo → Result SchemaBatch
  | none => .ok b
  | some x =>
      if newLedgerHash ≠ x.transactionAccumulatorHash then
        .error "Root hash calculated doesn\x27t match expected."
      else .ok (LedgerStore.putLedgerInfo x b)

/-- `ChannelStore::save_tx`. -/
def saveTx (s : ChannelStore) (db : SgStorage) (tx : ChannelTransactionToCommit)
    (version : UInt64) (ledgerInfo : Option LedgerInfo) (clearPendingTxn : Bool) :
    Result (ChannelStore × SgStorage) := do
  if ledgerInfo.any (·.version ≠ version) then
    throw "Transaction batch not applicable"
  let witness := generateWitness tx.signedChannelTxn tx.writeSet
  let updated := updatedPublicKeys s.participantKeys.toList tx.signedChannelTxn.participantKeys
  let b := { SchemaBatch.new with participantPublicKey := putPublicKeys codec updated }
  let (newLedgerHash, b) ← saveTxImpl hashing s.participant db tx version b
  let b ← checkLedgerInfo newLedgerHash b ledgerInfo
  let b := if clearPendingTxn then PendingTxnStore.clear b else b
  let db := writeSchemas s.participant db b
  pure ({ s with
      latestLedgerInfo := ledgerInfo.or s.latestLedgerInfo
      participantKeys := s.participantKeys.append updated
      latestWitness := some witness
      pendingTxn := if clearPendingTxn then none else s.pendingTxn }, db)

/-- `ChannelStore::save_pending_txn`. -/
def savePendingTxn (s : ChannelStore) (db : SgStorage) (pendingTxn : PendingTransaction)
    (persist : Bool) : ChannelStore × SgStorage :=
  let db := if persist then
      writeSchemas s.participant db (PendingTxnStore.savePendingTxn pendingTxn SchemaBatch.new)
    else db
  ({ s with pendingTxn := some pendingTxn }, db)

/-- `ChannelStore::clear_pending_txn`. -/
def clearPendingTxn (s : ChannelStore) (db : SgStorage) : ChannelStore × SgStorage :=
  ({ s with pendingTxn := none }, writeSchemas s.participant db (PendingTxnStore.clear SchemaBatch.new))

/-- `ChannelStore::get_startup_info`. -/
def getStartupInfo (s : ChannelStore) (db : SgStorage) : Result (Option StartupInfo) :=
  match s.latestLedgerInfo with
  | none => .ok none
  | some ledgerInfo => do
      let (latestVersion, _) ← LedgerStore.getLatestTransactionInfo s.participant db
      let frozen ← LedgerStore.getLedgerFrozenSubtreeHashes s.participant db latestVersion
      pure (some ⟨ledgerInfo, latestVersion, frozen⟩)

/-- `ChannelStore::get_transaction_by_channel_seq_number`: the transaction at a version, with
its info and its proof towards the latest ledger info. -/
def getTransactionByChannelSeqNumber (s : ChannelStore) (db : SgStorage)
    (channelSequenceNumber : UInt64) : Result AppliedChannelTxn := do
  let ledgerInfo ← match s.latestLedgerInfo with
    | some ledgerInfo => .ok ledgerInfo
    | none => .error "Genesis LedgerInfo"
  let _ ← LedgerStore.getTransactionInfo s.participant db channelSequenceNumber
  let _ ← LedgerStore.getTransactionProof s.participant db channelSequenceNumber ledgerInfo.version
  ChannelTransactionStore.getTransaction s.participant db channelSequenceNumber

/-- `ChannelStore::participant_addresses`: the addresses of the cached keys. -/
def participantAddresses (s : ChannelStore) : SortedSet AccountAddress :=
  SortedMap.ofList (s.participantKeys.keys.map fun a => (a, ()))

/-- `ChannelStore::get_participant_keys`: the cached keys that are set. -/
def getParticipantKeys (s : ChannelStore) : SortedMap AccountAddress PublicKey :=
  SortedMap.ofList (s.participantKeys.toList.filterMap fun e => e.2.map fun k => (e.1, k))

/-! ### What each operation does -/

/-- The `ChannelTransactionInfo` that `save_tx_impl` builds for a transaction. -/
def transactionInfo (tx : ChannelTransactionToCommit) : ChannelTransactionInfo :=
  ⟨hashing.appliedTxn tx.signedChannelTxn,
    hashing.writeSetAccumulatorRoot (tx.writeSet.map hashing.writeSetItem), zeroHash,
    tx.majorStatus, tx.signedChannelTxn.isTravel, tx.gasUsed⟩

/-- `save_tx` succeeds when the accumulator holds the leaves before `version` and the ledger
info, if any, claims `version` and the root over them and the transaction's info: it then
appends the info's hash as leaf `version`, writes the ledger info under its epoch and sets
the cached ledger info and witness. -/
theorem saveTx_ok (s : ChannelStore) (db : SgStorage) (tx : ChannelTransactionToCommit)
    (version : UInt64) (ledgerInfo : Option LedgerInfo) (clear : Bool) {leaves : List HashValue}
    (hleaves : LedgerStore.readLeaves s.participant db version.toNat = some leaves)
    (hinfo : ∀ x ∈ ledgerInfo, x.version = version ∧ x.transactionAccumulatorHash =
      hashing.txnAccumulatorRoot (leaves ++ [hashing.txnInfo (transactionInfo hashing tx)])) :
    ∃ s' db', saveTx codec hashing s db tx version ledgerInfo clear = .ok (s', db') ∧
      s'.participant = s.participant ∧ s'.latestLedgerInfo = ledgerInfo.or s.latestLedgerInfo ∧
      s'.latestWitness = some (generateWitness tx.signedChannelTxn tx.writeSet) ∧
      db'.txnAccumulator = db.txnAccumulator.insert (prefixKey s.participant (encodeU64 version))
        (hashing.txnInfo (transactionInfo hashing tx)) ∧
      db'.ledgerInfo = (ledgerInfo.map fun x =>
        db.ledgerInfo.insert (prefixKey s.participant (encodeU64 x.epoch)) x).getD db.ledgerInfo ∧
      db'.participantPublicKey = ChannelDB.writeSchemas s.participant db.participantPublicKey
        (putPublicKeys codec (updatedPublicKeys s.participantKeys.toList
          tx.signedChannelTxn.participantKeys)) := by
  cases ledgerInfo with
  | none =>
      cases clear <;>
      simp [saveTx, saveTxImpl, LedgerStore.putTxInfo, ChannelWriteSetStore.putWriteSet,
        ChannelTransactionStore.putTransaction, hleaves, checkLedgerInfo, writeSchemas,
        SchemaBatch.new, PendingTxnStore.clear, transactionInfo, WriteOp.apply, prefixKey]
  | some x =>
      -- the version check and the root check both pass
      obtain ⟨hversion, hroot⟩ := hinfo x rfl
      cases clear <;>
      simp [saveTx, saveTxImpl, LedgerStore.putTxInfo, ChannelWriteSetStore.putWriteSet,
        ChannelTransactionStore.putTransaction, hleaves, checkLedgerInfo, hversion, hroot,
        writeSchemas, SchemaBatch.new, PendingTxnStore.clear, LedgerStore.putLedgerInfo,
        transactionInfo, WriteOp.apply, prefixKey]

theorem pendingTxn_saveTxImpl {participant : AccountAddress} {db : SgStorage}
    {tx : ChannelTransactionToCommit} {version : UInt64} {b b' : SchemaBatch} {h : HashValue}
    (hb : saveTxImpl hashing participant db tx version b = .ok (h, b')) :
    b'.pendingTxn = b.pendingTxn := by
  unfold saveTxImpl LedgerStore.putTxInfo at hb
  cases hr : LedgerStore.readLeaves participant db version.toNat with
  | none => simp [hr] at hb
  | some leaves =>
      simp only [hr, Except.ok.injEq, Prod.mk.injEq] at hb
      rw [← hb.2]
      rfl

theorem pendingTxn_checkLedgerInfo {h : HashValue} {b b' : SchemaBatch} {li : Option LedgerInfo}
    (hb : checkLedgerInfo h b li = .ok b') : b'.pendingTxn = b.pendingTxn := by
  cases li with
  | none =>
      cases hb
      rfl
  | some x =>
      by_cases hx : h = x.transactionAccumulatorHash
      · simp only [checkLedgerInfo, hx, ne_eq, not_true_eq_false, if_false, Except.ok.injEq] at hb
        rw [← hb]
        rfl
      · simp [checkLedgerInfo, hx] at hb

/-- What a successful `save_tx` leaves in the caches and in the pending-transaction rows. -/
theorem saveTx_inv {s s' : ChannelStore} {db db' : SgStorage} {tx : ChannelTransactionToCommit}
    {version : UInt64} {ledgerInfo : Option LedgerInfo} {clear : Bool}
    (h : saveTx codec hashing s db tx version ledgerInfo clear = .ok (s', db')) :
    s'.participant = s.participant ∧
      s'.pendingTxn = (if clear then none else s.pendingTxn) ∧
      s'.latestWitness = some (generateWitness tx.signedChannelTxn tx.writeSet) ∧
      PendingTxnStore.getPendingTxn s.participant db' =
        (if clear then none else PendingTxnStore.getPendingTxn s.participant db) := by
  unfold saveTx at h
  dsimp only at h
  split at h
  · cases h
  obtain ⟨⟨newLedgerHash, b⟩, hb, h⟩ := Except.bind_eq_ok.mp h
  obtain ⟨b', hb', h⟩ := Except.bind_eq_ok.mp h
  cases h
  have hrows : b'.pendingTxn = .empty :=
    (pendingTxn_checkLedgerInfo hb').trans (pendingTxn_saveTxImpl hashing hb)
  refine ⟨rfl, rfl, rfl, ?_⟩
  cases clear with
  | true => simp [PendingTxnStore.getPendingTxn, ChannelDB.get, writeSchemas, PendingTxnStore.clear, hrows, WriteOp.apply]
  | false => simp [PendingTxnStore.getPendingTxn, ChannelDB.get, writeSchemas, hrows]

/-- A successful `save_tx` moves its key updates into the cached keys. -/
theorem participantKeys_saveTx {s s' : ChannelStore} {db db' : SgStorage}
    {tx : ChannelTransactionToCommit} {version : UInt64} {ledgerInfo : Option LedgerInfo}
    {clear : Bool} (h : saveTx codec hashing s db tx version ledgerInfo clear = .ok (s', db')) :
    s'.participantKeys = s.participantKeys.append
      (updatedPublicKeys s.participantKeys.toList tx.signedChannelTxn.participantKeys) := by
  unfold saveTx at h
  dsimp only at h
  split at h
  · cases h
  obtain ⟨_, -, h⟩ := Except.bind_eq_ok.mp h
  obtain ⟨_, -, h⟩ := Except.bind_eq_ok.mp h
  cases h
  rfl

/-- `get_participant_keys` reads the cached keys that are set. -/
theorem find?_getParticipantKeys (s : ChannelStore) (a : AccountAddress) :
    s.getParticipantKeys.find? a = (s.participantKeys.find? a).bind id := by
  have hnodup : (s.participantKeys.toList.reverse.map Prod.fst).Nodup := by
    rw [List.map_reverse, List.nodup_reverse]
    exact s.participantKeys.keys_nodup
  rw [getParticipantKeys, find?_ofList, ← List.filterMap_reverse, lookup_filterMap_some hnodup,
    lookup_reverse s.participantKeys.keys_nodup]
  rfl

@[simp] theorem participant_savePendingTxn (s : ChannelStore) (db : SgStorage)
    (p : PendingTransaction) (persist : Bool) :
    (s.savePendingTxn db p persist).1.participant = s.participant := rfl

@[simp] theorem pendingTxn_savePendingTxn (s : ChannelStore) (db : SgStorage)
    (p : PendingTransaction) (persist : Bool) :
    (s.savePendingTxn db p persist).1.pendingTxn = some p := rfl

@[simp] theorem participant_clearPendingTxn (s : ChannelStore) (db : SgStorage) :
    (s.clearPendingTxn db).1.participant = s.participant := rfl

@[simp] theorem pendingTxn_clearPendingTxn (s : ChannelStore) (db : SgStorage) :
    (s.clearPendingTxn db).1.pendingTxn = none := rfl

/-- With `persist`, the saved transaction is stored; a cleared one is removed from storage. -/
theorem stored_savePendingTxn (s : ChannelStore) (db : SgStorage) (p : PendingTransaction) :
    PendingTxnStore.getPendingTxn s.participant (s.savePendingTxn db p true).2 = some p :=
  PendingTxnStore.getPendingTxn_savePendingTxn _ _ _

theorem stored_clearPendingTxn (s : ChannelStore) (db : SgStorage) :
    PendingTxnStore.getPendingTxn s.participant (s.clearPendingTxn db).2 = none :=
  PendingTxnStore.getPendingTxn_clear _ _

/-- A batch with rows only for the pending transaction leaves the accumulator as it is. -/
theorem txnAccumulator_savePendingTxn (s : ChannelStore) (db : SgStorage)
    (txn : PendingTransaction) (persist : Bool) :
    (s.savePendingTxn db txn persist).2.txnAccumulator = db.txnAccumulator := by
  cases persist <;> rfl

theorem txnAccumulator_clearPendingTxn (s : ChannelStore) (db : SgStorage) :
    (s.clearPendingTxn db).2.txnAccumulator = db.txnAccumulator := rfl

/-- What `ChannelStore::new` builds: the caches `bootstrap` loads, over a database that differs
from the one given at most by the initial participant keys. -/
theorem new_inv {participants : SortedSet AccountAddress} {participant : AccountAddress}
    {db db' : SgStorage} {s : ChannelStore}
    (h : new codec participants participant db = .ok (s, db')) :
    ∃ ledgerInfo witness, LedgerStore.bootstrap participant db = .ok ledgerInfo ∧
      loadWitness participant db ledgerInfo = .ok witness ∧
      s.participant = participant ∧ s.latestLedgerInfo = ledgerInfo ∧
      s.latestWitness = witness ∧ s.pendingTxn = PendingTxnStore.getPendingTxn participant db ∧
      (db' = db ∨ db' = writeSchemas participant db (initialKeys codec participants)) := by
  obtain ⟨ledgerInfo, hboot, h⟩ := Except.bind_eq_ok.mp h
  obtain ⟨keys, -, h⟩ := Except.bind_eq_ok.mp h
  obtain ⟨witness, hwitness, h⟩ := Except.bind_eq_ok.mp h
  refine ⟨ledgerInfo, witness, hboot, hwitness, ?_⟩
  -- with no stored key the initial keys are written and loaded again
  split at h
  · obtain ⟨keys', -, h⟩ := Except.bind_eq_ok.mp h
    cases h
    exact ⟨rfl, rfl, rfl, rfl, .inr rfl⟩
  · cases h
    exact ⟨rfl, rfl, rfl, rfl, .inl rfl⟩

/-- With nothing stored in the participant-key column family, no key is loaded. -/
theorem loadPublicKeys_of_empty {participant : AccountAddress} {db : SgStorage}
    (h : db.participantPublicKey = .empty) : loadPublicKeys codec participant db = .ok .empty := by
  unfold loadPublicKeys
  rw [h]
  rfl

/-- The startup info carries the first `latest_version + 1` stored leaves. -/
theorem getStartupInfo_frozen {s : ChannelStore} {db : SgStorage} {info : StartupInfo}
    (h : s.getStartupInfo db = .ok (some info)) :
    LedgerStore.readLeaves s.participant db (info.latestVersion.toNat + 1) =
      some info.ledgerFrozenSubtreeHashes := by
  unfold getStartupInfo at h
  split at h
  · cases h
  · obtain ⟨⟨latestVersion, _⟩, -, h⟩ := Except.bind_eq_ok.mp h
    obtain ⟨frozen, hfrozen, h⟩ := Except.bind_eq_ok.mp h
    cases h
    unfold LedgerStore.getLedgerFrozenSubtreeHashes at hfrozen
    split at hfrozen
    · next leaves hleaves =>
        cases hfrozen
        exact hleaves
    · cases hfrozen

/-- The store `ChannelStore::new` builds over storage that holds nothing. -/
def fresh (participant : AccountAddress) : ChannelStore :=
  ⟨participant, none, none, none, .empty⟩

theorem new_empty (participant : AccountAddress) :
    new codec .empty participant SgStorage.empty = .ok (fresh participant, SgStorage.empty) := rfl

end ChannelStore
