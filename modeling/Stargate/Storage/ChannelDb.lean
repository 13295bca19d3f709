import Stargate.Lib.OrderedStore

/-!
# Stargate.Storage.ChannelDb

The per-channel view of the shared storage (src/sgstorage/src/channel_db.rs,
src/sgstorage/src/utils.rs).

All channels of a node share one RocksDB instance. A `ChannelDB` is the shared storage
together with one participant address `p`: every key it writes is `prefix_key(p, key)`,
and its `ChannelSchemaIterator` reads the shared column family through a raw iterator,
stopping as soon as the raw key no longer starts with `p`.

A column family is a `SortedMap` from raw keys to values; the value codec is applied the
same way by a channel database and by a standalone one, so values are held decoded. The
standalone database a channel database should behave as is `restrict p cf`, read through
the cursor contract of `Stargate.Lib.OrderedStore` (the `SchemaIterator` documentation in
src/sgstorage/src/schema_db.rs).

Main results:

* `write_schemas` of `ChannelDB p` is that of the standalone store, and touches no key
  outside `p`'s range (`restrict_writeSchemas`, `find?_writeSchemas_of_not_prefix`);
* `ChannelSchemaIterator.toList` is what the iterator yields through `next` until it returns
  `None`; after `seek k` it is what the standalone iterator yields (`toList_seek`);
* `seek_to_last` seeks backwards from `prefix_next(p)`. When every byte of `p` is `0xFF`,
  `prefix_next(p)` is `p ++ [0]`, which lies below every key of `p`'s range, and the
  iterator yields nothing although `p`'s range is not empty (`seekToLast_all_ff`).
-/

open SortedMap

/-! ### `prefix_next` -/

/-- The carry loop of `prefix_next`, run over the buffer from its last byte (so on the
reversed bytes): a byte below `0xFF` is incremented and the loop stops with `not_full`
set; a `0xFF` byte (where `checked_add(1)` fails) becomes `0` and the loop goes on. -/
def prefixNextRev : List UInt8 → List UInt8 × Bool
  | [] => ([], false)
  | d :: ds =>
      if d < 255 then ((d + 1) :: ds, true)
      else
        let r := prefixNextRev ds
        (0 :: r.1, r.2)

/-- `prefix_next`: the bytes with the carry loop applied, or, when every byte overflowed,
the original bytes followed by `0`. -/
def prefixNext (data : List UInt8) : List UInt8 :=
  let r := prefixNextRev data.reverse
  if r.2 then r.1.reverse else data ++ [0]

example : prefixNext [0, 1, 2, 3] = [0, 1, 2, 4] := by decide
example : prefixNext [0, 1, 2, 255] = [0, 1, 3, 0] := by decide
example : prefixNext [255, 255, 255, 255] = [255, 255, 255, 255, 0] := by decide

theorem prefixNextRev_replicate (n : Nat) :
    prefixNextRev (List.replicate n 255) = (List.replicate n 0, false) := by
  induction n with
  | zero => rfl
  | succ n ih =>
      rw [List.replicate_succ, prefixNextRev, if_neg (by decide), ih]
      rfl

section PrefixNext

variable {p : List UInt8}

/-- When every byte of `p` is `0xFF`, `prefix_next(p)` is `p` followed by `0`. -/
theorem prefixNext_replicate (n : Nat) :
    prefixNext (List.replicate n 255) = List.replicate n 255 ++ [0] := by
  simp [prefixNext, List.reverse_replicate, prefixNextRev_replicate]

end PrefixNext

/-- Every key of the all-`0xFF` range that is at least two bytes longer than the address sorts
above `prefix_next` of it. -/
theorem prefixNext_replicate_lt {n : Nat} {x : List UInt8} (hx : List.replicate n 255 <+: x)
    (hlen : n + 2 ≤ x.length) : prefixNext (List.replicate n 255) < x := by
  obtain ⟨k, rfl⟩ := hx
  rw [prefixNext_replicate, ListOrder.append_lt_append_iff]
  -- the schema key has two bytes at least, and `[0]` is below all such keys
  rcases k with _ | ⟨a, _ | ⟨b, rest⟩⟩
  · simp at hlen
  · simp at hlen
  · rw [ListOrder.cons_lt_cons_iff]
    by_cases ha : (0 : UInt8) = a
    · exact .inr ⟨ha, List.Lex.nil⟩
    · exact .inl (lt_of_le_of_ne UInt8.zero_le ha)

/-! ### Keys, reads and writes -/

/-- A column family of the shared storage: raw keys, values as their schema decodes them. -/
abbrev ColumnFamily (ν : Type) := SortedMap (List UInt8) ν

/-- `prefix_key`: the participant's address followed by the schema key. -/
def prefixKey (pre key : List UInt8) : List UInt8 := pre ++ key

/-- A write of a `SchemaBatch` row (schemadb's `WriteOp`). -/
inductive WriteOp (ν : Type) where
  | value (v : ν)
  | deletion
  deriving DecidableEq, Repr

/-- The value a write leaves at its key: none after a deletion. -/
def WriteOp.value? {ν : Type} : WriteOp ν → Option ν
  | .value v => some v
  | .deletion => none

/-- Perform a row's write at a raw key. -/
def WriteOp.apply {κ ν : Type} [LinearOrder κ] (m : SortedMap κ ν) (k : κ) : WriteOp ν →
    SortedMap κ ν
  | .value v => m.insert k v
  | .deletion => m.erase k

/-- The rows of one column family in a `SchemaBatch`: the last write to each key. -/
abbrev Rows (ν : Type) := SortedMap (List UInt8) (WriteOp ν)

/-- What a standalone database does with a batch: every row's write at its own key. -/
def writeRows {ν : Type} (m : ColumnFamily ν) (rows : Rows ν) : ColumnFamily ν :=
  rows.toList.foldl (fun m r => WriteOp.apply m r.1 r.2) m

namespace ChannelDB

variable {ν : Type}

/-- `ChannelDB::get`. -/
def get (participant : List UInt8) (cf : ColumnFamily ν) (key : List UInt8) : Option ν :=
  cf.find? (prefixKey participant key)

/-- `ChannelDB::put`. -/
def put (participant : List UInt8) (cf : ColumnFamily ν) (key : List UInt8) (value : ν) :
    ColumnFamily ν :=
  cf.insert (prefixKey participant key) value

/-- `ChannelDB::write_schemas`, on one column family: every row at its prefixed key. -/
def writeSchemas (participant : List UInt8) (cf : ColumnFamily ν) (rows : Rows ν) :
    ColumnFamily ν :=
  rows.toList.foldl (fun cf r => WriteOp.apply cf (prefixKey participant r.1) r.2) cf

@[simp] theorem writeSchemas_empty (participant : List UInt8) (cf : ColumnFamily ν) :
    writeSchemas participant cf .empty = cf := rfl

@[simp] theorem writeSchemas_single (participant : List UInt8) (cf : ColumnFamily ν)
    (key : List UInt8) (op : WriteOp ν) :
    writeSchemas participant cf (SortedMap.empty.insert key op) =
      op.apply cf (prefixKey participant key) := rfl

theorem restrict_apply_prefixKey (participant : List UInt8) (cf : ColumnFamily ν)
    (key : List UInt8) (op : WriteOp ν) :
    restrict participant (op.apply cf (prefixKey participant key)) =
      op.apply (restrict participant cf) key := by
  cases op with
  | value v => exact restrict_insert_of_prefix participant cf key v
  | deletion => exact restrict_erase_of_prefix participant cf key

theorem find?_apply_of_ne {κ : Type} [LinearOrder κ] (m : SortedMap κ ν) {k k' : κ}
    (op : WriteOp ν) (hk : k' ≠ k) : (op.apply m k).find? k' = m.find? k' := by
  cases op with
  | value v => simp [WriteOp.apply, hk]
  | deletion => simp [WriteOp.apply, hk]

theorem find?_apply_self {κ : Type} [LinearOrder κ] (m : SortedMap κ ν) (k : κ) (op : WriteOp ν) :
    (op.apply m k).find? k = op.value? := by
  cases op with
  | value v => simp [WriteOp.apply, WriteOp.value?]
  | deletion => simp [WriteOp.apply, WriteOp.value?]

/-- Rows with distinct keys written one by one: each key ends with its row's value, or keeps
what it had when no row names it. -/
theorem find?_foldl_apply {κ : Type} [LinearOrder κ] (k : κ) :
    ∀ (l : List (κ × WriteOp ν)) (m : SortedMap κ ν), (l.map Prod.fst).Nodup →
      (l.foldl (fun m r => WriteOp.apply m r.1 r.2) m).find? k =
        (l.lookup k).elim (m.find? k) WriteOp.value?
  | [], _, _ => rfl
  | r :: rs, m, hnodup => by
      obtain ⟨hr, hrs⟩ := List.nodup_cons.mp hnodup
      rw [List.foldl_cons, find?_foldl_apply k rs _ hrs, lookup_cons_ite]
      by_cases hk : k = r.1
      · -- the row for `k` is this one; no later row has its key
        subst hk
        have hnone : rs.lookup r.1 = none := lookup_eq_none_of_not_mem_keys hr
        rw [hnone, if_pos rfl, Option.elim_none, find?_apply_self]
        rfl
      · rw [if_neg hk]
        cases rs.lookup k with
        | some op => rfl
        | none => exact find?_apply_of_ne m r.2 hk

/-- A batch write on a standalone database: each key holds the value of the batch's row for it,
or what it held when the batch has no row for it. -/
theorem find?_writeRows (m : ColumnFamily ν) (rows : Rows ν) (k : List UInt8) :
    (writeRows m rows).find? k = (rows.find? k).elim (m.find? k) WriteOp.value? :=
  find?_foldl_apply k rows.toList m rows.keys_nodup

/-- Values written ahead of a batch's other rows: the values where there are some, the rest
where not. -/
theorem elim_or_map_value (x : Option ν) (y : Option (WriteOp ν)) (z : Option ν) :
    ((x.map WriteOp.value).or y).elim z WriteOp.value? = x.or (y.elim z WriteOp.value?) := by
  cases x <;> rfl

/-- `write_schemas` on a channel database is the standalone batch write on `p`'s range. -/
theorem restrict_writeSchemas (participant : List UInt8) (cf : ColumnFamily ν) (rows : Rows ν) :
    restrict participant (writeSchemas participant cf rows) =
      writeRows (restrict participant cf) rows := by
  unfold writeSchemas writeRows
  induction rows.toList generalizing cf with
  | nil => rfl
  | cons r rs ih => rw [List.foldl_cons, List.foldl_cons, ih, restrict_apply_prefixKey]

/-- `write_schemas` on a channel database leaves every key outside `p`'s range as it was. -/
theorem find?_writeSchemas_of_not_prefix (participant : List UInt8) (cf : ColumnFamily ν)
    (rows : Rows ν) {k : List UInt8} (hk : ¬ participant <+: k) :
    (writeSchemas participant cf rows).find? k = cf.find? k := by
  unfold writeSchemas
  induction rows.toList generalizing cf with
  | nil => rfl
  | cons r rs ih =>
      rw [List.foldl_cons, ih, find?_apply_of_ne]
      rintro rfl
      exact hk (List.prefix_append participant r.1)

end ChannelDB

/-! ### `ChannelSchemaIterator` -/

/-- A `ChannelSchemaIterator`: the column family its raw RocksDB iterator reads, the
entries that raw iterator goes on to yield, and the participant whose range it reads. -/
structure ChannelSchemaIterator (ν : Type) where
  db : ColumnFamily ν
  dbIter : List (List UInt8 × ν)
  participantAddress : List UInt8

namespace ChannelSchemaIterator

variable {ν : Type}

/-- `next`: when the raw iterator is valid and its key starts with the participant's address
(`is_in_valid_range`), the entry with the address read off its key (`decode_kv`), and the
raw iterator advanced; otherwise `None`. -/
def next (it : ChannelSchemaIterator ν) : Option ((List UInt8 × ν) × ChannelSchemaIterator ν) :=
  match it.dbIter with
  | [] => none
  | e :: rest =>
      if underPrefix it.participantAddress e then
        some (stripPrefix it.participantAddress e, { it with dbIter := rest })
      else none

/-- Everything the iterator yields through `next` until `next` returns `None`. -/
def toList (it : ChannelSchemaIterator ν) : List (List UInt8 × ν) :=
  yieldUnder it.participantAddress it.dbIter

theorem toList_of_next_none {it : ChannelSchemaIterator ν} (h : it.next = none) :
    it.toList = [] := by
  unfold next at h
  unfold toList
  split at h
  · next hc => rw [hc]; rfl
  · next e rest hc =>
      split at h
      · cases h
      · next he => rw [hc, yieldUnder_cons_of_neg _ he]

/-- Whether a raw cursor stands in the participant's range: the in-range test of `seek`
and `seek_for_prev`. -/
def inRange (participant : List UInt8) : List (List UInt8 × ν) → Bool
  | [] => false
  | e :: _ => underPrefix participant e

/-- `seek_to_first`: seek the raw iterator to the participant's address; returns whether
the raw iterator is valid. -/
def seekToFirst (it : ChannelSchemaIterator ν) : Bool × ChannelSchemaIterator ν :=
  let c := it.db.seek it.participantAddress
  (!c.isEmpty, { it with dbIter := c })

/-- `seek_to_last`: seek the raw iterator backwards from `prefix_next` of the address;
returns whether the raw iterator is valid. -/
def seekToLast (it : ChannelSchemaIterator ν) : Bool × ChannelSchemaIterator ν :=
  let c := it.db.seekForPrev (prefixNext it.participantAddress)
  (!c.isEmpty, { it with dbIter := c })

/-- `seek`: seek the raw iterator to the prefixed key; returns whether it stands in range. -/
def seek (it : ChannelSchemaIterator ν) (seekKey : List UInt8) : Bool × ChannelSchemaIterator ν :=
  let c := it.db.seek (it.participantAddress ++ seekKey)
  (inRange it.participantAddress c, { it with dbIter := c })

/-- `seek_for_prev`: seek the raw iterator backwards from the prefixed key; returns whether
it stands in range. -/
def seekForPrev (it : ChannelSchemaIterator ν) (seekKey : List UInt8) :
    Bool × ChannelSchemaIterator ν :=
  let c := it.db.seekForPrev (it.participantAddress ++ seekKey)
  (inRange it.participantAddress c, { it with dbIter := c })

/-! ### Against the standalone iterator -/

/-- After `seek k` the iterator yields what the standalone iterator yields after `seek k`. -/
theorem toList_seek (it : ChannelSchemaIterator ν) (k : List UInt8) :
    (it.seek k).2.toList = (restrict it.participantAddress it.db).seek k :=
  yieldUnder_seek it.participantAddress k it.db

end ChannelSchemaIterator

namespace ChannelDB

variable {ν : Type}

/-- `ChannelDB::iter`: a fresh iterator over the column family, sought to the first key. -/
def iter (participant : List UInt8) (cf : ColumnFamily ν) : ChannelSchemaIterator ν :=
  (ChannelSchemaIterator.seekToFirst ⟨cf, [], participant⟩).2

/-- For an address of `0xFF` bytes, `seek_to_last` stands below the address's range whenever
every key in the range is at least two bytes longer than the address (every schema key is):
the channel iterator yields nothing, whatever the column family holds. -/
theorem next_seekToLast_all_ff (n : Nat) (cf : ColumnFamily ν)
    (hkeys : ∀ e ∈ cf.toList, List.replicate n 255 <+: e.1 → n + 2 ≤ e.1.length) :
    (iter (List.replicate n 255) cf).seekToLast.2.next = none := by
  unfold ChannelSchemaIterator.next
  simp only [iter, ChannelSchemaIterator.seekToFirst, ChannelSchemaIterator.seekToLast,
    seekForPrev]
  -- the raw iterator stands on the last entry at or below `prefix_next(p)`, if any
  cases hlast : (cf.atMost (prefixNext (List.replicate n 255))).getLast? with
  | none => rfl
  | some e =>
      have he := mem_atMost.mp (List.mem_of_getLast? hlast)
      have hout : ¬ underPrefix (List.replicate n 255) e = true := fun hunder => by
        have hpre := (underPrefix_iff _ e).mp hunder
        exact absurd he.2 (not_le.mpr (prefixNext_replicate_lt hpre (hkeys e he.1 hpre)))
      simp only [hout]
      rfl

/-- An address of `0xFF` bytes and one entry in its range, at key `0` (as `LedgerInfoSchema`
writes epoch `0`): the channel iterator yields nothing after `seek_to_last`, where the
standalone iterator yields the entry. -/
theorem seekToLast_all_ff (n : Nat) (v : ν) :
    (iter (List.replicate n 255)
        (SortedMap.empty.insert (List.replicate n 255 ++ BigEndian.encodeU64 0) v)).seekToLast.2.toList
        = [] ∧
      (restrict (List.replicate n 255)
        (SortedMap.empty.insert (List.replicate n 255 ++ BigEndian.encodeU64 0) v)).seekToLast
        = [(BigEndian.encodeU64 0, v)] := by
  -- the one entry of the column family
  have hcf : (SortedMap.empty.insert (List.replicate n 255 ++ BigEndian.encodeU64 0) v).toList =
      [(List.replicate n 255 ++ BigEndian.encodeU64 0, v)] := rfl
  constructor
  · -- the one key is eight bytes longer than the address
    apply ChannelSchemaIterator.toList_of_next_none
    apply next_seekToLast_all_ff
    intro e he _
    rw [hcf, List.mem_singleton] at he
    simp [he]
  · simp [restrict, seekToLast, hcf, underPrefix_append]

end ChannelDB
