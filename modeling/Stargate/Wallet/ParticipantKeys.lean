import Stargate.Wallet.ChannelStm
import Stargate.Storage.ChannelStore

/-!
# Stargate.Wallet.ParticipantKeys

Which public key `ChannelStore::save_tx` caches for each participant
(src/sgstorage/src/channel_store.rs, src/sgtypes/src/applied_channel_txn.rs,
src/sgwallet/src/channel/channel_stm.rs).

`save_tx` walks the cached keys, in address order, zipped with the transaction's
`participant_keys()`, and writes every key that is not cached as it is. The zip pairs the two
lists by position, not by address. It pairs each address with its own key when the
transaction's keys are those of a map over the same addresses (`find?_append_updatedPublicKeys`):
an off-chain transaction signed by exactly the participants (`offchain_keys_recorded`), or a
travel transaction whose `build_chain_txn` placed a key for every participant
(`travel_keys_recorded_of_complete`).

`build_chain_txn` places a key for a participant when the channel already knows it or the
participant signed. A travel transaction may be signed by fewer than all participants (a solo
transaction, which `Channel` applies with `ApplySoloTxn`), and at channel sequence number `0`
the check that every participant has a key is commented out (elsewhere it is a
`debug_assert!`). The travel transaction then carries fewer keys than there are participants,
and the zip gives each key to the participant at its position: a key moves to another
participant's address, and the participant that signed keeps none
(`travel_keys_shifted`).
-/

open SortedMap

namespace ChannelStore

section KeyLoop

variable {κ β : Type} [LinearOrder κ] [DecidableEq β]

/-- One step of `save_tx`'s key loop over a cached entry and the key paired with it: a key
already cached as it is is skipped, any other is written. -/
def updateKey (acc : SortedMap κ (Option β)) (e : (κ × Option β) × β) : SortedMap κ (Option β) :=
  match e.1.2 with
  | some old => if old = e.2 then acc else acc.insert e.1.1 (some e.2)
  | none => acc.insert e.1.1 (some e.2)

theorem find?_updateKey (acc : SortedMap κ (Option β)) (e : (κ × Option β) × β) (a : κ) :
    (updateKey acc e).find? a =
      if a = e.1.1 ∧ e.1.2 ≠ some e.2 then some (some e.2) else acc.find? a := by
  obtain ⟨⟨a', old⟩, k⟩ := e
  cases old with
  | none => by_cases ha : a = a' <;> simp [updateKey, ha]
  | some o =>
      by_cases hsame : o = k
      · subst hsame
        simp [updateKey]
      · by_cases ha : a = a' <;> simp [updateKey, hsame, ha]

/-- The key loop over cached entries zipped with the keys of entries on the same addresses, in
the same order: an address ends with its own key, written only where the cache did not already
hold it. -/
theorem find?_foldl_updateKey {ν : Type} (g : ν → β) :
    ∀ (cached : List (κ × Option β)) (placed : List (κ × ν)),
      cached.map Prod.fst = placed.map Prod.fst → (cached.map Prod.fst).Nodup →
      ∀ acc a, ((cached.zip (placed.map fun e => g e.2)).foldl updateKey acc).find? a =
        if (placed.lookup a).map (fun v => some (g v)) = cached.lookup a then acc.find? a
        else (placed.lookup a).map fun v => some (g v) := by
  intro cached
  induction cached with
  | nil =>
      intro placed hkeys _ acc a
      cases placed with
      | nil => simp
      | cons _ _ => simp at hkeys
  | cons e es ih =>
      intro placed hkeys hnodup acc a
      cases placed with
      | nil => simp at hkeys
      | cons p ps =>
          simp only [List.map_cons, List.cons.injEq] at hkeys
          obtain ⟨hhead, hrest⟩ := hkeys
          obtain ⟨he, hes⟩ := List.nodup_cons.mp hnodup
          rw [List.map_cons, List.zip_cons_cons, List.foldl_cons, ih ps hrest hes, find?_updateKey,
            lookup_cons_ite, lookup_cons_ite, ← hhead]
          by_cases ha : a = e.1
          · -- the head's address occurs in neither tail, so the rest of the loop skips it
            subst ha
            have hnone : es.lookup e.1 = none := lookup_eq_none_of_not_mem_keys he
            have hnone' : ps.lookup e.1 = none := lookup_eq_none_of_not_mem_keys (hrest ▸ he)
            by_cases hold : e.2 = some (g p.2) <;> simp [hnone, hnone', hold, eq_comm]
          · simp [ha]

end KeyLoop

theorem updatedPublicKeys_eq_foldl (cached : List (AccountAddress × Option PublicKey))
    (newKeys : List PublicKey) :
    updatedPublicKeys cached newKeys = (cached.zip newKeys).foldl updateKey .empty := by
  unfold updatedPublicKeys
  congr 1
  funext acc e
  -- the two loops' bodies are one match, compiled separately
  rcases e with ⟨⟨a, _ | old⟩, k⟩ <;> rfl

/-- `save_tx`'s key updates, for keys given as those of a map on the cached addresses: each
address whose key differs from the cached one, with its key. -/
theorem find?_updatedPublicKeys {ν : Type} (m : SortedMap AccountAddress (Option PublicKey))
    (placed : SortedMap AccountAddress ν) (g : ν → PublicKey) (hkeys : m.keys = placed.keys)
    (a : AccountAddress) :
    (updatedPublicKeys m.toList (placed.values.map g)).find? a =
      if (placed.find? a).map (fun v => some (g v)) = m.find? a then none
      else (placed.find? a).map fun v => some (g v) := by
  rw [updatedPublicKeys_eq_foldl, values, List.map_map]
  exact find?_foldl_updateKey g m.toList placed.toList hkeys m.keys_nodup .empty a

/-- With the key updates moved into the cache, every address of the map holds the map's key, and
no other address has an entry. -/
theorem find?_append_updatedPublicKeys {ν : Type} (m : SortedMap AccountAddress (Option PublicKey))
    (placed : SortedMap AccountAddress ν) (g : ν → PublicKey) (hkeys : m.keys = placed.keys)
    (a : AccountAddress) :
    (m.append (updatedPublicKeys m.toList (placed.values.map g))).find? a =
      (placed.find? a).map fun v => some (g v) := by
  rw [find?_append, find?_updatedPublicKeys m placed g hkeys]
  split_ifs with hsame
  · rw [hsame]
    rfl
  · cases hplaced : placed.find? a with
    | none =>
        -- an address the map does not hold is not cached either
        have hcached : m.find? a = none := by
          rw [← Option.not_isSome_iff_eq_none, ← mem_keys_iff, hkeys, mem_keys_iff, hplaced]
          simp
        rw [hplaced, hcached] at hsame
        exact absurd rfl hsame
    | some v => rfl

variable (codec : AddressCodec) (hashing : Hashing)

/-- `save_tx` of an off-chain transaction whose signatures are on exactly the cached addresses:
each participant's key is the one it signed with, and no other address has a key. A participant
whose key was cached as it is gets no update. -/
theorem offchain_keys_recorded {s s' : ChannelStore} {db db' : SgStorage}
    {tx : ChannelTransactionToCommit} {t : SignedChannelTransaction} {version : UInt64}
    {ledgerInfo : Option LedgerInfo} {clear : Bool} (htx : tx.signedChannelTxn = .offchain t)
    (hsigners : t.signatures.keys = s.participantKeys.keys)
    (h : saveTx codec hashing s db tx version ledgerInfo clear = .ok (s', db'))
    (a : AccountAddress) :
    s'.getParticipantKeys.find? a = (t.signatures.find? a).map (·.publicKey) ∧
      (s.participantKeys.find? a = (t.signatures.find? a).map (some ·.publicKey) →
        (updatedPublicKeys s.participantKeys.toList tx.signedChannelTxn.participantKeys).find? a =
          none) := by
  have hkeys := find?_append_updatedPublicKeys s.participantKeys t.signatures
    ChannelTransactionSigs.publicKey hsigners.symm a
  constructor
  · rw [find?_getParticipantKeys, participantKeys_saveTx codec hashing h, htx,
      AppliedChannelTxn.participantKeys, hkeys]
    cases t.signatures.find? a <;> rfl
  · intro hsame
    rw [htx, AppliedChannelTxn.participantKeys,
      find?_updatedPublicKeys s.participantKeys t.signatures _ hsigners.symm, if_pos hsame.symm]

/-- `[2]`'s new store for the channel `[9]` of `[1]` and `[2]` saves an off-chain transaction
that `[1]` signed with the key `[3]` and `[2]` with the key `[4]`. -/
theorem offchain_keys_recorded_signed_by_both :
    ∃ t : SignedChannelTransaction, ∃ store db store' db',
      t = ⟨⟨0, [9], 0, .open, [], [2], 0, .fromSecs 0⟩,
        .ofList [([1], ⟨[1], [3], [], [], [], none⟩), ([2], ⟨[2], [4], [], [], [], none⟩)]⟩ ∧
      ChannelStore.new AddressCodec.raw (.ofList [([1], ()), ([2], ())]) [2] SgStorage.empty =
          .ok (store, db) ∧
        saveTx AddressCodec.raw Hashing.zero store db ⟨.offchain t, [], [], 0, 0⟩ 0 none true =
          .ok (store', db') ∧
        store'.getParticipantKeys.find? [1] = (t.signatures.find? [1]).map (·.publicKey) ∧
        (store.participantKeys.find? [1] = (t.signatures.find? [1]).map (some ·.publicKey) →
          (updatedPublicKeys store.participantKeys.toList
            (AppliedChannelTxn.offchain t).participantKeys).find? [1] = none) :=
  ⟨_, _, _, _, _, rfl, rfl, (and_iff_left_of_imp fun hsave =>
    offchain_keys_recorded AddressCodec.raw Hashing.zero (by rfl) (by rfl) hsave [1]).mpr rfl⟩

end ChannelStore

namespace ChannelStm

/-- The keys `build_chain_txn` places in a travel transaction: the channel's known keys, with
the key of each participant that signed the pending transaction. -/
def placedKeys (stm : ChannelStm) (pendingTxn : PendingTransaction) :
    SortedMap AccountAddress PublicKey :=
  stm.participantAddresses.keys.foldl
    (fun keys addr => match pendingTxn.signatures.find? addr with
      | some s => keys.insert addr s.publicKey
      | none => keys)
    stm.participantKeys

/-- A travel transaction carries the placed keys, in address order. -/
theorem publicKeys_buildSignedTxn {libra : Libra} {stm : ChannelStm}
    {pendingTxn : PendingTransaction} {t : TravelTransaction}
    (h : buildSignedTxn libra stm pendingTxn = .ok t) :
    t.publicKeys = (placedKeys stm pendingTxn).values := by
  unfold buildSignedTxn at h
  obtain ⟨⟨_, _⟩, -, h⟩ := Except.bind_eq_ok.mp h
  cases h
  rfl

end ChannelStm

/-- The participants `[1]` and `[2]`. -/
def ChannelStm.soloParticipants : SortedSet AccountAddress := .ofList [([1], ()), ([2], ())]

/-- The channel `[9]` of `[1]` and `[2]`, as `[2]`'s state machine holds it before the channel
is open: no participant's key is known. -/
def ChannelStm.soloOpen : ChannelStm := .new [9] [2] ChannelStm.soloParticipants ⟨[5], [5]⟩

namespace ChannelStore

variable (codec : AddressCodec) (hashing : Hashing)

/-- `save_tx` of a travel transaction whose `build_chain_txn` placed a key for every cached
participant: each participant's key is the one placed for it, and no other address has a
key. -/
theorem travel_keys_recorded_of_complete {libra : Libra} {stm : ChannelStm}
    {pendingTxn : PendingTransaction} {t : TravelTransaction} {s s' : ChannelStore}
    {db db' : SgStorage} {tx : ChannelTransactionToCommit} {version : UInt64}
    {ledgerInfo : Option LedgerInfo} {clear : Bool}
    (hbuild : stm.buildSignedTxn libra pendingTxn = .ok t) (htx : tx.signedChannelTxn = .travel t)
    (hcomplete : (stm.placedKeys pendingTxn).keys = s.participantKeys.keys)
    (h : saveTx codec hashing s db tx version ledgerInfo clear = .ok (s', db'))
    (a : AccountAddress) :
    s'.getParticipantKeys.find? a = (stm.placedKeys pendingTxn).find? a := by
  have hkeys := find?_append_updatedPublicKeys s.participantKeys (stm.placedKeys pendingTxn) id
    hcomplete.symm a
  rw [List.map_id] at hkeys
  rw [find?_getParticipantKeys, participantKeys_saveTx codec hashing h, htx,
    AppliedChannelTxn.participantKeys, ChannelStm.publicKeys_buildSignedTxn hbuild, hkeys]
  cases (stm.placedKeys pendingTxn).find? a <;> rfl

/-- `[2]` commits the opening of channel `[9]` that `[1]` signed with the key `[4]` and `[2]`
with the key `[5]`: a key is placed for both, and `[1]` gets the key placed for it. -/
theorem travel_keys_recorded_of_complete_both_signed :
    ∃ pendingTxn : PendingTransaction, ∃ t store db store' db',
      pendingTxn = ⟨⟨⟨0, [9], 0, .open, [], [2], 0, .fromSecs 0⟩, [5], []⟩, ⟨[], [], 0, 0, true⟩,
        .ofList [([1], ⟨[1], [4], [], [], [], none⟩), ([2], ⟨[2], [5], [], [], [], none⟩)],
        .traveling⟩ ∧
      ChannelStm.buildSignedTxn Libra.toy ChannelStm.soloOpen pendingTxn = .ok t ∧
      ChannelStore.new AddressCodec.raw ChannelStm.soloParticipants [2] SgStorage.empty =
        .ok (store, db) ∧
      saveTx AddressCodec.raw Hashing.zero store db ⟨.travel t, [], [], 0, 0⟩ 0 none true =
        .ok (store', db') ∧
      store'.getParticipantKeys.find? [1] = (ChannelStm.soloOpen.placedKeys pendingTxn).find? [1] :=
  ⟨_, _, _, _, _, _, rfl, rfl, rfl, (and_iff_left_of_imp fun hsave =>
    @travel_keys_recorded_of_complete AddressCodec.raw Hashing.zero Libra.toy _ _ _ _ _ _ _ _ _ _ _
      (by rfl) (by rfl) (by rfl) hsave [1]).mpr rfl⟩

end ChannelStore

/-- A transaction opening channel `[9]`, proposed by `[2]` and signed by `[2]` alone, with the key
`[5]`. -/
def PendingTransaction.soloOpen : PendingTransaction :=
  ⟨⟨⟨0, [9], 0, .open, [], [2], 0, .fromSecs 0⟩, [5], []⟩, ⟨[], [], 0, 0, true⟩,
    .ofList [([2], ⟨[2], [5], [], [], [], none⟩)], .traveling⟩

/-- Committing the solo opening transaction on `[2]`'s new store: `build_chain_txn` placed the
key `[5]` for `[2]` and none for `[1]`, and the travel transaction carries the one key. `save_tx`
pairs it with the first cached address: afterwards `[1]` has the key `[5]` and `[2]` has
none. -/
theorem travel_keys_shifted :
    ∃ t store db store' db',
      ChannelStm.buildSignedTxn Libra.toy ChannelStm.soloOpen PendingTransaction.soloOpen =
          .ok t ∧
        (ChannelStm.soloOpen.placedKeys PendingTransaction.soloOpen).find? [1] = none ∧
        (ChannelStm.soloOpen.placedKeys PendingTransaction.soloOpen).find? [2] = some [5] ∧
        ChannelStore.new AddressCodec.raw ChannelStm.soloParticipants [2] SgStorage.empty =
          .ok (store, db) ∧
        ChannelStore.saveTx AddressCodec.raw Hashing.zero store db ⟨.travel t, [], [], 0, 0⟩ 0
          none true = .ok (store', db') ∧
        store'.getParticipantKeys.find? [1] = some [5] ∧
        store'.getParticipantKeys.find? [2] = none :=
  ⟨_, _, _, _, _, rfl, rfl, rfl, rfl, rfl, rfl, rfl⟩
