import Stargate.Storage.Stores

/-!
# Stargate.Storage.WriteSets

The write sets of a channel's transactions in storage
(src/sgstorage/src/channel_write_set_store/mod.rs,
src/sgstorage/src/schema/channel_write_set_schema/mod.rs). `put_write_set` writes item `i` of the
write set of version `v` at the key `(v, i)`, each number in eight big-endian bytes.
`get_write_set_by_version` seeks to `(v, 0)` and collects items until a key's version is not
`v`.

Pair keys sort as the pairs do (`BigEndian.encodeU64Pair_lt_iff`). The keys of one version are
therefore contiguous and in index order, and every key of a later version follows them
(`seek_versionRows`). Committing a write set and reading its version back gives the write set,
whatever write sets are stored at other versions (`write_set_round_trip`).
-/

open SortedMap BigEndian

namespace ChannelWriteSetStore

/-- The rows of a write set at `version` from index `idx` on, as a list: the keys
`put_write_set` writes, and the item at each. -/
def versionRows (version : UInt64) : Nat → WriteSet → List (List UInt8 × WriteSetItem)
  | _, [] => []
  | idx, item :: rest =>
      (encodeU64Pair (version, UInt64.ofNat idx), item) :: versionRows version (idx + 1) rest

/-- Keys of write-set rows at versions other than `version`. -/
def OtherVersions (version : UInt64) (keys : List (List UInt8)) : Prop :=
  ∀ k ∈ keys, ∃ ver idx, k = encodeU64Pair (ver, idx) ∧ ver ≠ version

/-- Below `2^64`, `as u64` keeps the order of indices. -/
theorem ofNat_lt_ofNat {i j : Nat} (hj : j < UInt64.size) (h : i < j) :
    UInt64.ofNat i < UInt64.ofNat j := by
  rw [UInt64.lt_iff_toNat_lt, UInt64.toNat_ofNat', UInt64.toNat_ofNat']
  have hsize : UInt64.size = 2 ^ 64 := rfl
  rw [Nat.mod_eq_of_lt (by omega), Nat.mod_eq_of_lt (by omega)]
  exact h

/-- `put_write_set`'s rows are the rows of the write set, inserted in index order. -/
theorem putItems_eq (version : UInt64) (rows : Rows WriteSetItem) (idx : Nat)
    (writeSet : WriteSet) :
    putItems version rows idx writeSet =
      ((versionRows version idx writeSet).map fun e => (e.1, WriteOp.value e.2)).foldl
        (fun m e => m.insert e.1 e.2) rows := by
  induction writeSet generalizing rows idx with
  | nil => rfl
  | cons item rest ih => exact ih _ _

theorem mem_versionRows {version : UInt64} {idx : Nat} {writeSet : WriteSet}
    {e : List UInt8 × WriteSetItem} (h : e ∈ versionRows version idx writeSet) :
    ∃ i, idx ≤ i ∧ i < idx + writeSet.length ∧ e.1 = encodeU64Pair (version, UInt64.ofNat i) := by
  induction writeSet generalizing idx with
  | nil => cases h
  | cons item rest ih =>
      rcases List.mem_cons.mp h with rfl | h
      · exact ⟨idx, le_refl _, by simp, rfl⟩
      · obtain ⟨i, hlo, hhi, he⟩ := ih h
        exact ⟨i, by omega, by simp only [List.length_cons]; omega, he⟩

/-- While the indices stay below `2^64`, the rows of a write set come in increasing key order. -/
theorem sorted_versionRows {version : UInt64} {idx : Nat} {writeSet : WriteSet}
    (hsize : idx + writeSet.length ≤ UInt64.size) :
    (versionRows version idx writeSet).Pairwise (fun a b => a.1 < b.1) := by
  induction writeSet generalizing idx with
  | nil => exact .nil
  | cons item rest ih =>
      simp only [List.length_cons] at hsize
      refine List.Pairwise.cons (fun e he => ?_) (ih (by omega))
      obtain ⟨i, hlo, hhi, he⟩ := mem_versionRows he
      rw [he, encodeU64Pair_lt_iff]
      exact .inr ⟨rfl, ofNat_lt_ofNat (by omega) (by omega)⟩

/-- The first key of a version sorts at or below every key of that version. -/
theorem encodeU64Pair_zero_le (version idx : UInt64) :
    encodeU64Pair (version, 0) ≤ encodeU64Pair (version, idx) := by
  refine not_lt.mp fun h => ?_
  rcases encodeU64Pair_lt_iff.mp h with h | ⟨-, h⟩
  · exact UInt64.lt_irrefl _ h
  · exact UInt64.not_lt_zero h

/-- A key at another version that sorts at or above the first key of `version` is at a later
version, so it sorts above every key of `version`. -/
theorem lt_of_zero_le {version ver idx idx' : UInt64} (hne : ver ≠ version)
    (hle : encodeU64Pair (version, 0) ≤ encodeU64Pair (ver, idx)) :
    encodeU64Pair (version, idx') < encodeU64Pair (ver, idx) := by
  have hnlt : ¬ ver < version := fun h =>
    not_lt.mpr hle (encodeU64Pair_lt_iff.mpr (.inl h))
  have hlt : version < ver := by
    rw [UInt64.lt_iff_toNat_lt] at hnlt ⊢
    have := UInt64.toNat_inj.not.mpr hne
    omega
  exact encodeU64Pair_lt_iff.mpr (.inl hlt)

/-! ### Reading a version -/

/-- The loop reads the rows of a write set, and stops at whatever follows when the next key is
at another version. -/
theorem collectVersion_versionRows_append {version : UInt64} {rest : List (List UInt8 × WriteSetItem)}
    (hrest : collectVersion version rest = .ok []) :
    ∀ (idx : Nat) (writeSet : WriteSet),
      collectVersion version (versionRows version idx writeSet ++ rest) = .ok writeSet
  | _, [] => hrest
  | idx, item :: items => by
      rw [versionRows, List.cons_append, collectVersion, decodeU64Pair_encodeU64Pair]
      simp only [ne_eq, not_true_eq_false, if_false]
      rw [collectVersion_versionRows_append hrest (idx + 1) items]
      rfl

/-- Rows at other versions end the loop at once. -/
theorem collectVersion_of_otherVersions {version : UInt64} :
    ∀ {rows : List (List UInt8 × WriteSetItem)}, OtherVersions version (rows.map Prod.fst) →
      collectVersion version rows = .ok []
  | [], _ => rfl
  | (k, item) :: rest, h => by
      obtain ⟨ver, idx, rfl, hne⟩ := h k List.mem_cons_self
      rw [collectVersion, decodeU64Pair_encodeU64Pair]
      simp only [ne_eq, hne, not_false_eq_true, if_true]

/-- A batch and a database that hold only other versions hold only other versions once the batch
is written. -/
theorem otherVersions_writeRows {version : UInt64} {m : ColumnFamily WriteSetItem}
    {rows : Rows WriteSetItem} (hm : OtherVersions version m.keys)
    (hrows : OtherVersions version rows.keys) : OtherVersions version (writeRows m rows).keys := by
  intro k hk
  rw [mem_keys_iff, ChannelDB.find?_writeRows] at hk
  -- a key holds a value after the write only if the batch or the database had it
  cases hr : rows.find? k with
  | some op =>
      refine hrows k ((mem_keys_iff rows k).mpr ?_)
      rw [hr]
      rfl
  | none =>
      rw [hr] at hk
      exact hm k ((mem_keys_iff m k).mpr hk)

/-- After a batch with a write set's rows is written, each key holds the write set's item, or what
the rest of the batch and the database leave there. -/
theorem find?_writeRows_putItems {version : UInt64} {writeSet : WriteSet}
    (hsize : writeSet.length ≤ UInt64.size) (m : ColumnFamily WriteSetItem)
    (rows : Rows WriteSetItem) (k : List UInt8) :
    (writeRows m (putItems version rows 0 writeSet)).find? k =
      ((ofList (versionRows version 0 writeSet)).find? k).or ((writeRows m rows).find? k) := by
  have hsorted := @sorted_versionRows version 0 writeSet (by omega)
  have hnodup : ((versionRows version 0 writeSet).map Prod.fst).Nodup :=
    (List.pairwise_map.mpr hsorted).imp ne_of_lt
  have hnodup' : (((versionRows version 0 writeSet).map
      fun e => (e.1, WriteOp.value e.2)).map Prod.fst).Nodup := by
    rw [List.map_map]
    exact hnodup
  rw [ChannelDB.find?_writeRows, putItems_eq, find?_foldl_insert, lookup_reverse hnodup',
    lookup_map_value, find?_ofList, lookup_reverse hnodup, ChannelDB.find?_writeRows]
  exact ChannelDB.elim_or_map_value _ _ _

/-- From the first key of `version` on, the rows are the write set's and then the rows of later
versions. -/
theorem seek_versionRows {n n₀ : ColumnFamily WriteSetItem} {version : UInt64}
    {writeSet : WriteSet} (hsize : writeSet.length ≤ UInt64.size)
    (hother : OtherVersions version n₀.keys)
    (hn : ∀ k, n.find? k = ((ofList (versionRows version 0 writeSet)).find? k).or (n₀.find? k)) :
    n.seek (encodeU64Pair (version, 0)) =
      versionRows version 0 writeSet ++ n₀.seek (encodeU64Pair (version, 0)) := by
  refine seek_of_find?_eq (@sorted_versionRows version 0 writeSet (by omega)) (fun e he => ?_)
    (fun e he e' he' => ?_) hn
  · obtain ⟨i, -, -, he⟩ := mem_versionRows he
    rw [he]
    exact encodeU64Pair_zero_le version _
  · -- the rows of `n₀` from the first key of `version` on are at later versions
    obtain ⟨i, -, -, he⟩ := mem_versionRows he
    obtain ⟨he', hle⟩ := List.mem_filter.mp he'
    obtain ⟨ver, idx, hkey, hne⟩ := hother e'.1 (List.mem_map_of_mem he')
    rw [he, hkey]
    rw [hkey] at hle
    exact lt_of_zero_le hne (of_decide_eq_true hle)

/-- A write set committed at a version reads back from it item for item, in order, whatever write
sets the database and the rest of the batch hold at other versions. The indices of a write set
stay below `2^64` (`idx as u64` does not wrap). -/
theorem write_set_round_trip (hashing : Hashing) (participant : AccountAddress) (db : SgStorage)
    (b : SchemaBatch) (version : UInt64) (writeSet : WriteSet)
    (hsize : writeSet.length ≤ UInt64.size)
    (hstored : OtherVersions version (restrict participant db.writeSet).keys)
    (hbatch : OtherVersions version b.writeSet.keys) :
    getWriteSetByVersion participant
        (writeSchemas participant db (putWriteSet hashing version writeSet b).2) version =
      .ok writeSet := by
  have hother := otherVersions_writeRows hstored hbatch
  unfold getWriteSetByVersion
  rw [ChannelSchemaIterator.toList_seek]
  show collectVersion version ((restrict participant (ChannelDB.writeSchemas participant
    db.writeSet (putItems version b.writeSet 0 writeSet))).seek (encodeU64Pair (version, 0))) = _
  rw [ChannelDB.restrict_writeSchemas,
    seek_versionRows hsize hother (find?_writeRows_putItems hsize _ b.writeSet)]
  refine collectVersion_versionRows_append (collectVersion_of_otherVersions fun k hk => ?_) 0 writeSet
  -- what follows the write set are rows at other versions
  obtain ⟨e, he, rfl⟩ := List.mem_map.mp hk
  exact hother e.1 (List.mem_map_of_mem (List.mem_filter.mp he).1)

/-- The storage of `[1]` with a write set of one item committed at version `1` and another at
version `3`. -/
def neighbours : SgStorage :=
  writeSchemas [1] SgStorage.empty
    (putWriteSet Hashing.zero 3 [(⟨[1], [3]⟩, .deletion)]
      (putWriteSet Hashing.zero 1 [(⟨[1], [1]⟩, .deletion)] SchemaBatch.new).2).2

/-- A write set of two items committed at version `2` between the versions `1` and `3` reads back
from version `2`. -/
theorem write_set_round_trip_between :
    OtherVersions 2 (restrict [1] neighbours.writeSet).keys ∧
      OtherVersions 2 SchemaBatch.new.writeSet.keys ∧
      getWriteSetByVersion [1]
          (writeSchemas [1] neighbours
            (putWriteSet Hashing.zero 2 [(⟨[1], [2]⟩, .deletion), (⟨[1], [5]⟩, .value [7])]
              SchemaBatch.new).2) 2 =
        .ok [(⟨[1], [2]⟩, .deletion), (⟨[1], [5]⟩, .value [7])] := by
  have hkeys : (restrict [1] neighbours.writeSet).keys = [encodeU64Pair (1, 0), encodeU64Pair (3, 0)] :=
    rfl
  have hstored : OtherVersions 2 (restrict [1] neighbours.writeSet).keys := by
    rw [hkeys]
    intro k hk
    rcases List.mem_pair.mp hk with rfl | rfl
    · exact ⟨1, 0, rfl, by decide⟩
    · exact ⟨3, 0, rfl, by decide⟩
  have hbatch : OtherVersions 2 SchemaBatch.new.writeSet.keys := fun _ hk => absurd hk List.not_mem_nil
  exact ⟨hstored, hbatch, write_set_round_trip Hashing.zero [1] neighbours SchemaBatch.new 2 _
    (by decide) hstored hbatch⟩

end ChannelWriteSetStore
