import Stargate.Types.Channel
import Stargate.Lib.ExceptState

/-!
# Stargate.Storage.Stores

The schema stores a channel's `ChannelStore` is built from (src/sgstorage/src:
`ledger_info_store`, `channel_transaction_store`, `channel_write_set_store`,
`pending_txn_store`), over the column families of the shared storage, each read and
written through `ChannelDB` of one participant.

Keys are the schemas' encodings: big-endian `u64` for epochs and versions, big-endian
`(u64, u64)` for write-set items, the lcs encoding of `"pending"` for the pending
transaction and an `AddressCodec` (lcs, which is part of libra) for participant keys.

The transaction accumulator (libra's `MerkleAccumulator` over `LedgerStore` as its hash
reader) is kept by its leaves: the column family maps the big-endian index of each leaf to
its hash. `Accumulator::append` at `n` existing leaves reads the frozen subtrees of the first
`n` leaves, which exist exactly when those leaves were written, and its root is
`Hashing.txnAccumulatorRoot` of the leaves. The column families nothing here reads back
(`TransactionByAccountSchema`, `ChannelWriteSetAccumulatorSchema`) are left out.
-/

open SortedMap BigEndian

/-- The column families of the shared storage that a channel's stores use. -/
structure SgStorage where
  /-- `LedgerInfoSchema` (`DEFAULT_CF_NAME`), keyed by epoch. -/
  ledgerInfo : ColumnFamily LedgerInfo
  /-- `ChannelTransactionInfoSchema`, keyed by version. -/
  txnInfo : ColumnFamily ChannelTransactionInfo
  /-- `ChannelTransactionAccumulatorSchema`, by leaf index. -/
  txnAccumulator : ColumnFamily HashValue
  /-- `AppliedChannelTransactionSchema`, keyed by version. -/
  appliedTxn : ColumnFamily AppliedChannelTxn
  /-- `ChannelWriteSetSchema`, keyed by (version, index). -/
  writeSet : ColumnFamily WriteSetItem
  /-- `PendingTransactionSchema`. -/
  pendingTxn : ColumnFamily PendingTransaction
  /-- `ParticipantPublicKeySchema`, keyed by address. -/
  participantPublicKey : ColumnFamily (Option PublicKey)

/-- The storage with every column family empty. -/
def SgStorage.empty : SgStorage :=
  ⟨.empty, .empty, .empty, .empty, .empty, .empty, .empty⟩

/-- A `SchemaBatch`: the rows to write, per column family. -/
structure SchemaBatch where
  ledgerInfo : Rows LedgerInfo
  txnInfo : Rows ChannelTransactionInfo
  txnAccumulator : Rows HashValue
  appliedTxn : Rows AppliedChannelTxn
  writeSet : Rows WriteSetItem
  pendingTxn : Rows PendingTransaction
  participantPublicKey : Rows (Option PublicKey)

/-- `SchemaBatch::new()`. -/
def SchemaBatch.new : SchemaBatch :=
  ⟨.empty, .empty, .empty, .empty, .empty, .empty, .empty⟩

/-- `ChannelDB::write_schemas` of a whole batch: one atomic write to every column family. -/
def writeSchemas (participant : AccountAddress) (db : SgStorage) (b : SchemaBatch) : SgStorage where
  ledgerInfo := ChannelDB.writeSchemas participant db.ledgerInfo b.ledgerInfo
  txnInfo := ChannelDB.writeSchemas participant db.txnInfo b.txnInfo
  txnAccumulator := ChannelDB.writeSchemas participant db.txnAccumulator b.txnAccumulator
  appliedTxn := ChannelDB.writeSchemas participant db.appliedTxn b.appliedTxn
  writeSet := ChannelDB.writeSchemas participant db.writeSet b.writeSet
  pendingTxn := ChannelDB.writeSchemas participant db.pendingTxn b.pendingTxn
  participantPublicKey := ChannelDB.writeSchemas participant db.participantPublicKey
    b.participantPublicKey

/-- The lcs encoding of an account address (`ParticipantPublicKeySchema`'s key codec), with
the decoding that inverts it. -/
structure AddressCodec where
  encode : AccountAddress → List UInt8
  decode : List UInt8 → Option AccountAddress
  decode_encode : ∀ a, decode (encode a) = some a

/-- Addresses as their own bytes. -/
def AddressCodec.raw : AddressCodec := ⟨id, some, fun _ => rfl⟩

/-- A store operation's result: `Err` carries the error's message. -/
abbrev Result (α : Type) := Except String α

@[simp] theorem Result.ok_bind {α β : Type} (a : α) (f : α → Result β) :
    (Except.ok a >>= f : Result β) = f a := rfl

@[simp] theorem Result.error_bind {α β : Type} (e : String) (f : α → Result β) :
    (Except.error e >>= f : Result β) = .error e := rfl

/-- How an operation fails: an `Err` returned to the caller, or a panic that stops the task
running it (a channel's actor, or the node's task handling a message). -/
inductive Failure where
  | error (message : String)
  | panic (message : String)
  deriving DecidableEq, Repr

/-- Lift a store result: its `Err` is returned. -/
def Failure.lift {α : Type} (r : Result α) : Except Failure α := r.mapError .error

@[simp] theorem Failure.lift_ok {α : Type} (a : α) : Failure.lift (.ok a : Result α) = .ok a := rfl

@[simp] theorem Failure.lift_error {α : Type} (e : String) :
    Failure.lift (.error e : Result α) = .error (.error e) := rfl

theorem Failure.lift_eq_ok {α : Type} {r : Result α} {a : α} :
    Failure.lift r = .ok a ↔ r = .ok a := by
  cases r <;> simp

/-- A lifted store result never panics: a computation going on from it panics only where what
follows does. -/
theorem Failure.lift_bind_ne_panic {α β : Type} (r : Result α) {f : α → Except Failure β}
    {message : String} (hf : ∀ a, f a ≠ .error (.panic message)) :
    (Failure.lift r >>= f) ≠ .error (.panic message) := by
  cases r with
  | error e =>
      intro h
      cases h
  | ok a => exact hf a

/-- `HashValue::default()`, the all-zero hash. -/
def zeroHash : HashValue := List.replicate 32 0

/-! ### `LedgerStore` -/

namespace LedgerStore

variable (participant : AccountAddress)

/-- `LedgerStore::bootstrap`: `seek_to_last` over the ledger infos, and the entry there is the
latest ledger info (a key that does not decode is the `expect` failing). -/
def bootstrap (db : SgStorage) : Result (Option LedgerInfo) :=
  match (ChannelDB.iter participant db.ledgerInfo).seekToLast.2.next with
  | none => .ok none
  | some (kv, _) =>
      match decodeU64 kv.1 with
      | some _ => .ok (some kv.2)
      | none => .error "Reading latest ledger info from DB should work."

/-- For an address of `0xFF` bytes, `bootstrap` finds no ledger info, whatever is stored under
its epoch keys. -/
theorem bootstrap_all_ff (n : Nat) (db : SgStorage)
    (hkeys : ∀ e ∈ db.ledgerInfo.toList, List.replicate n 255 <+: e.1 → n + 2 ≤ e.1.length) :
    bootstrap (List.replicate n 255) db = .ok none := by
  unfold bootstrap
  rw [ChannelDB.next_seekToLast_all_ff n _ hkeys]

/-- `LedgerStore::put_ledger_info`. -/
def putLedgerInfo (ledgerInfo : LedgerInfo) (b : SchemaBatch) : SchemaBatch :=
  { b with ledgerInfo := b.ledgerInfo.insert (encodeU64 ledgerInfo.epoch) (.value ledgerInfo) }

/-- The first `n` leaves of the transaction accumulator, when they all exist. -/
def readLeaves (db : SgStorage) (n : Nat) : Option (List HashValue) :=
  (List.range n).mapM fun i => ChannelDB.get participant db.txnAccumulator (encodeU64 (UInt64.ofNat i))

theorem readLeaves_zero (db : SgStorage) : readLeaves participant db 0 = some [] := rfl

theorem readLeaves_succ (db : SgStorage) (n : Nat) :
    readLeaves participant db (n + 1) =
      (readLeaves participant db n).bind fun leaves =>
        (ChannelDB.get participant db.txnAccumulator (encodeU64 (UInt64.ofNat n))).map
          fun h => leaves ++ [h] := by
  unfold readLeaves
  rw [List.range_succ, List.mapM_append]
  simp only [List.mapM_cons, List.mapM_nil, bind_pure_comp, map_pure]
  -- both sides read the first `n` leaves, then the leaf at `n`
  cases List.mapM (fun i => ChannelDB.get participant db.txnAccumulator (encodeU64 (UInt64.ofNat i)))
      (List.range n) <;>
    cases ChannelDB.get participant db.txnAccumulator (encodeU64 (UInt64.ofNat n)) <;> rfl

/-- The first `n` leaves read the same from two column families that agree on them. -/
theorem readLeaves_congr {db db' : SgStorage} {n : Nat}
    (h : ∀ i < n, ChannelDB.get participant db'.txnAccumulator (encodeU64 (UInt64.ofNat i)) =
      ChannelDB.get participant db.txnAccumulator (encodeU64 (UInt64.ofNat i))) :
    readLeaves participant db' n = readLeaves participant db n := by
  induction n with
  | zero => rfl
  | succ n ih =>
      rw [readLeaves_succ, readLeaves_succ, ih fun i hi => h i (by omega), h n (by omega)]

/-- The leaves read only the accumulator's column family. -/
theorem readLeaves_of_txnAccumulator_eq {db db' : SgStorage} (n : Nat)
    (h : db'.txnAccumulator = db.txnAccumulator) :
    readLeaves participant db' n = readLeaves participant db n := by
  unfold readLeaves
  rw [h]

/-- Another participant's batch leaves the leaves as they are, when neither address is a
prefix of the other. -/
theorem readLeaves_writeSchemas_of_disjoint {other : AccountAddress} (db : SgStorage)
    (b : SchemaBatch) (n : Nat) (h₁ : ¬ other <+: participant) (h₂ : ¬ participant <+: other) :
    readLeaves participant (writeSchemas other db b) n = readLeaves participant db n := by
  refine readLeaves_congr participant fun i _ => ?_
  apply ChannelDB.find?_writeSchemas_of_not_prefix
  -- a prefix of `participant ++ key` is a prefix of `participant` or extends it
  intro hother
  rcases List.prefix_or_prefix_of_prefix hother (List.prefix_append participant _) with h | h
  · exact h₁ h
  · exact h₂ h

/-- Writing the leaf at index `v` after `v` leaves appends it. -/
theorem readLeaves_insert {db db' : SgStorage} {v : UInt64} {h : HashValue}
    {leaves : List HashValue}
    (hdb : db'.txnAccumulator = db.txnAccumulator.insert (prefixKey participant (encodeU64 v)) h)
    (hleaves : readLeaves participant db v.toNat = some leaves) :
    readLeaves participant db' (v.toNat + 1) = some (leaves ++ [h]) := by
  -- the new key differs from every earlier leaf's key: indices below `2^64` encode apart
  have hget : ∀ i, i ≤ v.toNat →
      ChannelDB.get participant db'.txnAccumulator (encodeU64 (UInt64.ofNat i)) =
        if i = v.toNat then some h
        else ChannelDB.get participant db.txnAccumulator (encodeU64 (UInt64.ofNat i)) := by
    intro i hi
    have hi' : (UInt64.ofNat i).toNat = i :=
      UInt64.toNat_ofNat_of_lt' (Nat.lt_of_le_of_lt hi (UInt64.toNat_lt_size v))
    rw [ChannelDB.get, hdb, find?_insert]
    by_cases hiv : i = v.toNat
    · subst hiv
      simp [UInt64.ofNat_toNat]
    · rw [if_neg, if_neg hiv]
      · rfl
      intro heq
      apply hiv
      rw [← hi', encodeU64_injective (List.append_cancel_left heq)]
  have hinit : readLeaves participant db' v.toNat = some leaves := by
    rw [← hleaves]
    exact readLeaves_congr participant fun i hi => by
      rw [hget i (le_of_lt hi), if_neg (ne_of_lt hi)]
  rw [readLeaves_succ, hinit, hget _ le_rfl, if_pos rfl]
  rfl

/-- `LedgerStore::put_tx_info`: append the info's hash to the accumulator of `version` leaves
(reading its frozen subtrees), write the info and the new leaf, and return the new root. -/
def putTxInfo (hashing : Hashing) (db : SgStorage) (version : UInt64)
    (txInfo : ChannelTransactionInfo) (b : SchemaBatch) : Result (HashValue × SchemaBatch) :=
  let txInfoHash := hashing.txnInfo txInfo
  match readLeaves participant db version.toNat with
  | none => .error "does not exist."
  | some leaves =>
      .ok (hashing.txnAccumulatorRoot (leaves ++ [txInfoHash]),
        { b with
          txnInfo := b.txnInfo.insert (encodeU64 version) (.value txInfo)
          txnAccumulator := b.txnAccumulator.insert (encodeU64 version) (.value txInfoHash) })

/-- `LedgerStore::get_latest_transaction_info_option`: `seek_to_last` over the transaction
infos. -/
def getLatestTransactionInfoOption (db : SgStorage) :
    Result (Option (UInt64 × ChannelTransactionInfo)) :=
  match (ChannelDB.iter participant db.txnInfo).seekToLast.2.next with
  | none => .ok none
  | some (kv, _) =>
      match decodeU64 kv.1 with
      | some version => .ok (some (version, kv.2))
      | none => .error "invalid key"

/-- `LedgerStore::get_latest_transaction_info`. -/
def getLatestTransactionInfo (db : SgStorage) : Result (UInt64 × ChannelTransactionInfo) := do
  match ← getLatestTransactionInfoOption participant db with
  | some info => .ok info
  | none => .error "Genesis TransactionInfo."

/-- `LedgerStore::get_transaction_info`. -/
def getTransactionInfo (db : SgStorage) (version : UInt64) : Result ChannelTransactionInfo :=
  match ChannelDB.get participant db.txnInfo (encodeU64 version) with
  | some info => .ok info
  | none => .error s!"No TransactionInfo at version {version}"

/-- `LedgerStore::get_transaction_proof`: `Accumulator::get_proof` of leaf `version` in the
accumulator of `ledger_version + 1` leaves, which reads that accumulator's frozen subtrees. -/
def getTransactionProof (db : SgStorage) (version ledgerVersion : UInt64) :
    Result (List HashValue) :=
  if ledgerVersion.toNat + 1 ≤ version.toNat then .error "invalid leaf index"
  else match readLeaves participant db (ledgerVersion.toNat + 1) with
    | some leaves => .ok leaves
    | none => .error "does not exist."

/-- `LedgerStore::get_ledger_frozen_subtree_hashes`: the accumulator of `version + 1` leaves,
by its leaves. -/
def getLedgerFrozenSubtreeHashes (db : SgStorage) (version : UInt64) : Result (List HashValue) :=
  match readLeaves participant db (version.toNat + 1) with
  | some leaves => .ok leaves
  | none => .error "does not exist."

end LedgerStore

/-! ### `ChannelTransactionStore` -/

namespace ChannelTransactionStore

variable (participant : AccountAddress)

/-- `ChannelTransactionStore::get_transaction`. -/
def getTransaction (db : SgStorage) (version : UInt64) : Result AppliedChannelTxn :=
  match ChannelDB.get participant db.appliedTxn (encodeU64 version) with
  | some txn => .ok txn
  | none => .error s!"Txn {version}"

/-- `ChannelTransactionStore::put_transaction`. -/
def putTransaction (version : UInt64) (transaction : AppliedChannelTxn) (b : SchemaBatch) :
    SchemaBatch :=
  { b with appliedTxn := b.appliedTxn.insert (encodeU64 version) (.value transaction) }

end ChannelTransactionStore

/-! ### `ChannelWriteSetStore` -/

namespace ChannelWriteSetStore

variable (participant : AccountAddress)

/-- The rows `put_write_set` adds: each item at `(version, index)`, from index `idx` on. -/
def putItems (version : UInt64) : Rows WriteSetItem → Nat → WriteSet → Rows WriteSetItem
  | rows, _, [] => rows
  | rows, idx, item :: rest =>
      putItems version (rows.insert (encodeU64Pair (version, UInt64.ofNat idx)) (.value item))
        (idx + 1) rest

/-- `ChannelWriteSetStore::put_write_set`: the items of the write set and the root of the
accumulator over their hashes. -/
def putWriteSet (hashing : Hashing) (version : UInt64) (writeSet : WriteSet) (b : SchemaBatch) :
    HashValue × SchemaBatch :=
  (hashing.writeSetAccumulatorRoot (writeSet.map hashing.writeSetItem),
    { b with writeSet := putItems version b.writeSet 0 writeSet })

/-- The loop of `get_write_set_by_version`: items while their key's version is `version`. -/
def collectVersion (version : UInt64) : List (List UInt8 × WriteSetItem) → Result WriteSet
  | [] => .ok []
  | (key, item) :: rest =>
      match decodeU64Pair key with
      | none => .error "invalid key"
      | some (ver, _) =>
          if ver ≠ version then .ok [] else (item :: ·) <$> collectVersion version rest

/-- `ChannelWriteSetStore::get_write_set_by_version`: seek to `(version, 0)` and collect. -/
def getWriteSetByVersion (db : SgStorage) (version : UInt64) : Result WriteSet :=
  collectVersion version
    ((ChannelDB.iter participant db.writeSet).seek (encodeU64Pair (version, 0))).2.toList

end ChannelWriteSetStore

/-! ### `PendingTxnStore` -/

namespace PendingTxnStore

/-- The lcs encoding of `PENDING_TXN_KEY = "pending"`: its length, then its bytes. -/
def pendingTxnKey : List UInt8 := [7, 112, 101, 110, 100, 105, 110, 103]

/-- `PendingTxnStore::get_pending_txn`. -/
def getPendingTxn (participant : AccountAddress) (db : SgStorage) : Option PendingTransaction :=
  ChannelDB.get participant db.pendingTxn pendingTxnKey

/-- `PendingTxnStore::clear`. -/
def clear (b : SchemaBatch) : SchemaBatch :=
  { b with pendingTxn := b.pendingTxn.insert pendingTxnKey .deletion }

/-- `PendingTxnStore::save_pending_txn`. -/
def savePendingTxn (pendingTxn : PendingTransaction) (b : SchemaBatch) : SchemaBatch :=
  { b with pendingTxn := b.pendingTxn.insert pendingTxnKey (.value pendingTxn) }

/-- A saved pending transaction is read back, and a cleared one is gone. -/
@[simp] theorem getPendingTxn_savePendingTxn (participant : AccountAddress) (db : SgStorage)
    (p : PendingTransaction) :
    getPendingTxn participant (writeSchemas participant db (savePendingTxn p SchemaBatch.new)) =
      some p := by
  simp [getPendingTxn, ChannelDB.get, writeSchemas, savePendingTxn, SchemaBatch.new, WriteOp.apply]

@[simp] theorem getPendingTxn_clear (participant : AccountAddress) (db : SgStorage) :
    getPendingTxn participant (writeSchemas participant db (clear SchemaBatch.new)) = none := by
  simp [getPendingTxn, ChannelDB.get, writeSchemas, clear, SchemaBatch.new, WriteOp.apply]

end PendingTxnStore
