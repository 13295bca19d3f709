import Stargate.Wallet.TxApplier

/-!
# Stargate.Wallet.Recovery

What a channel recovers from storage after a restart, against what its store has cached.
`LedgerStore::bootstrap` finds the latest ledger info by `seek_to_last` over the participant's
range, which seeks backwards from `prefix_next` of the address (`Stargate.Storage.ChannelDb`).
For an address of `0xFF` bytes that seek stands below the range, so a channel of such a
participant commits its first transaction and then loads neither the ledger info nor the
witness it has cached.
-/

open SortedMap BigEndian

namespace TxApplier

variable (codec : AddressCodec) (hashing : Hashing)

/-- A fresh channel of an all-`0xFF` participant commits its first transaction: the store
caches the ledger info and the witness, while `bootstrap` over the storage finds no ledger
info. -/
theorem apply_fresh_all_ff (n : Nat) (now : UInt64) (tx : ChannelTransactionToCommit)
    (hcsn : tx.signedChannelTxn.channelSequenceNumber = 0) :
    ∃ a db, apply codec hashing now ⟨⟨0, []⟩, ChannelStore.fresh (List.replicate n 255)⟩
        SgStorage.empty tx = .ok (a, db) ∧
      a.store.latestLedgerInfo.isSome ∧ a.store.latestWitness.isSome ∧
      LedgerStore.bootstrap (List.replicate n 255) db = .ok none ∧
      db.participantPublicKey = .empty := by
  let t₀ : TxApplier := ⟨⟨0, []⟩, ChannelStore.fresh (List.replicate n 255)⟩
  have hcsn' : tx.signedChannelTxn.channelSequenceNumber.toNat =
      t₀.appliedTrees.txAccumulator.length := by
    simp [hcsn, t₀]
  have hleaves : LedgerStore.readLeaves (List.replicate n 255) SgStorage.empty
      tx.signedChannelTxn.channelSequenceNumber.toNat = some [] := by
    rw [hcsn']
    rfl
  obtain ⟨s', db', hsave, -, hli, hwitness, -, hledger, hkeys⟩ := ChannelStore.saveTx_ok codec
    hashing t₀.store SgStorage.empty tx tx.signedChannelTxn.channelSequenceNumber
    (some ⟨tx.signedChannelTxn.channelSequenceNumber,
      hashing.txnAccumulatorRoot ([] ++ [hashing.txnInfo (ChannelStore.transactionInfo hashing tx)]),
      if tx.signedChannelTxn.isTravel then tx.signedChannelTxn.channelSequenceNumber else 0, now⟩)
    true hleaves (fun x hx => by cases hx; exact ⟨rfl, rfl⟩)
  have happly := apply_eq codec hashing now t₀ SgStorage.empty tx hcsn'
  rw [hsave] at happly
  refine ⟨_, db', happly, by simp [hli], by simp [hwitness], ?_, ?_⟩
  · -- the one ledger info is stored under the address and the eight bytes of its epoch
    apply LedgerStore.bootstrap_all_ff
    intro e he _
    rw [hledger] at he
    rcases mem_insertList he with rfl | he
    · simp [prefixKey, t₀, ChannelStore.fresh]
    · cases he
  · -- a fresh store caches no key, so the transaction updates none
    rw [hkeys]
    rfl

end TxApplier

variable (codec : AddressCodec) (hashing : Hashing)

theorem bootstrap_after_apply_all_ff (n : Nat) (now : UInt64) (tx : ChannelTransactionToCommit)
    (hcsn : tx.signedChannelTxn.channelSequenceNumber = 0) :
    ∃ s db₀ t a db, ChannelStore.new codec .empty (List.replicate n 255) SgStorage.empty =
        .ok (s, db₀) ∧ TxApplier.new s db₀ = .ok t ∧
      TxApplier.apply codec hashing now t db₀ tx = .ok (a, db) ∧
      a.store.latestLedgerInfo.isSome ∧ LedgerStore.bootstrap (List.replicate n 255) db = .ok none := by
  obtain ⟨a, db, happly, hli, -, hboot, -⟩ := TxApplier.apply_fresh_all_ff codec hashing n now tx hcsn
  exact ⟨_, _, _, a, db, ChannelStore.new_empty codec _, TxApplier.new_fresh _, happly, hli, hboot⟩

theorem bootstrap_after_apply_all_ff_travel :
    (AppliedChannelTxn.travel ⟨[], 0, 0, [], [], true⟩).channelSequenceNumber = 0 ∧
      ∃ s db₀ t a db, ChannelStore.new AddressCodec.raw .empty (List.replicate 16 255)
          SgStorage.empty = .ok (s, db₀) ∧ TxApplier.new s db₀ = .ok t ∧
        TxApplier.apply AddressCodec.raw Hashing.zero 0 t db₀
          ⟨.travel ⟨[], 0, 0, [], [], true⟩, [], [], 0, 0⟩ = .ok (a, db) ∧
        a.store.latestLedgerInfo.isSome ∧
        LedgerStore.bootstrap (List.replicate 16 255) db = .ok none :=
  ⟨rfl, bootstrap_after_apply_all_ff AddressCodec.raw Hashing.zero 16 0 _ rfl⟩

theorem new_after_apply_all_ff (n : Nat) (now : UInt64) (tx : ChannelTransactionToCommit)
    (hcsn : tx.signedChannelTxn.channelSequenceNumber = 0) :
    ∃ s db₀ t a db s' db', ChannelStore.new codec .empty (List.replicate n 255) SgStorage.empty =
        .ok (s, db₀) ∧ TxApplier.new s db₀ = .ok t ∧
      TxApplier.apply codec hashing now t db₀ tx = .ok (a, db) ∧
      ChannelStore.new codec .empty (List.replicate n 255) db = .ok (s', db') ∧
      a.store.latestLedgerInfo.isSome ∧ a.store.latestWitness.isSome ∧
      s'.latestLedgerInfo = none ∧ s'.latestWitness = none := by
  obtain ⟨a, db, happly, hli, hwitness, hboot, hkeys⟩ :=
    TxApplier.apply_fresh_all_ff codec hashing n now tx hcsn
  -- the restart loads no ledger info, hence no witness, and no key
  have hnew : ChannelStore.new codec .empty (List.replicate n 255) db =
      .ok (⟨List.replicate n 255, none, none,
          PendingTxnStore.getPendingTxn (List.replicate n 255) db, .empty⟩,
        writeSchemas (List.replicate n 255) db (ChannelStore.initialKeys codec .empty)) := by
    have hkeys' : (writeSchemas (List.replicate n 255) db
        (ChannelStore.initialKeys codec .empty)).participantPublicKey = .empty := by
      rw [← hkeys]
      rfl
    simp only [ChannelStore.new, hboot, Result.ok_bind, ChannelStore.loadPublicKeys_of_empty codec hkeys,
      ChannelStore.loadPublicKeys_of_empty codec hkeys']
    rfl
  exact ⟨_, _, _, a, db, _, _, ChannelStore.new_empty codec _, TxApplier.new_fresh _, happly, hnew,
    hli, hwitness, rfl, rfl⟩

theorem new_after_apply_all_ff_travel :
    (AppliedChannelTxn.travel ⟨[], 0, 0, [], [], true⟩).channelSequenceNumber = 0 ∧
      ∃ s db₀ t a db s' db', ChannelStore.new AddressCodec.raw .empty (List.replicate 16 255)
          SgStorage.empty = .ok (s, db₀) ∧ TxApplier.new s db₀ = .ok t ∧
        TxApplier.apply AddressCodec.raw Hashing.zero 0 t db₀
          ⟨.travel ⟨[], 0, 0, [], [], true⟩, [], [], 0, 0⟩ = .ok (a, db) ∧
        ChannelStore.new AddressCodec.raw .empty (List.replicate 16 255) db = .ok (s', db') ∧
        a.store.latestLedgerInfo.isSome ∧ a.store.latestWitness.isSome ∧
        s'.latestLedgerInfo = none ∧ s'.latestWitness = none :=
  ⟨rfl, new_after_apply_all_ff AddressCodec.raw Hashing.zero 16 0 _ rfl⟩
