import Stargate.Wallet.Channel

/-!
# Stargate.Wallet.ChannelSpec

What each handler of the channel actor does. A handler reads the cached pending transaction,
runs it through the state machine and writes once, at its end, through `save_pending_txn`,
`clear_pending_txn` or `apply`; so a handler that fails leaves the channel as it was
(`handle_error`). One inversion lemma per handler (`run_execute` .. `run_applyPendingTxn`)
says what its successful run computed and wrote, and one per state-machine call says what it
returns. The actor's invariants (`Stargate.Wallet.ChannelRun`) are derived from these and never
unfold a handler.
-/

open ExceptState

/-! ### The state machine's calls -/

namespace ChannelStm

variable (libra : Libra) {stm : ChannelStm}

/-- `handle_new_proposal` keeps a pending transaction of the same hash, or, with none, builds a
`Created` one with no signature from the executed proposal. -/
theorem handleNewProposal_ok {pending : Option PendingTransaction}
    {proposal : ChannelTransactionProposal} {p' : PendingTransaction}
    (h : stm.handleNewProposal libra pending proposal = .ok p') :
    (∃ p, pending = some p ∧ p' = p ∧
      libra.hashChannelTxn p.proposal.channelTxn = libra.hashChannelTxn proposal.channelTxn) ∨
    (pending = none ∧ p'.proposal = proposal ∧ p'.signatures = .empty ∧
      p'.lifecycle = .created ∧
      ∃ body sig, stm.executeProposal libra proposal = .ok (body, sig, p'.output)) := by
  obtain ⟨csn, -, h⟩ := Except.bind_eq_ok.mp h
  dsimp only at h
  split at h
  · cases h
  cases pending with
  | none =>
      obtain ⟨⟨⟩, -, h⟩ := Except.bind_eq_ok.mp h
      obtain ⟨⟨body, sig, output⟩, hexec, h⟩ := Except.bind_eq_ok.mp h
      cases h
      exact .inr ⟨rfl, rfl, rfl, rfl, body, sig, hexec⟩
  | some p =>
      by_cases hhash : libra.hashChannelTxn p.proposal.channelTxn =
          libra.hashChannelTxn proposal.channelTxn
      · simp only [hhash, ne_eq, not_true_eq_false, if_false] at h
        exact .inl ⟨p, rfl, (Except.ok.inj h).symm, hhash⟩
      · simp only [hhash, ne_eq, not_false_eq_true, if_true] at h
        exact nomatch h

/-- What `handle_proposal_signature` can return: the transaction itself when the signer has
signed already, or else, for a verified signature, the transaction with it added, moved from
`Created` to `Negotiating` or through `try_reach_consensus`. -/
theorem handleProposalSignature_ok {p q : PendingTransaction} {proposalId : HashValue}
    {sigs : ChannelTransactionSigs}
    (h : stm.handleProposalSignature libra p proposalId sigs = .ok q) :
    libra.hashChannelTxn p.proposal.channelTxn = proposalId ∧
      ((p.getSignature sigs.address).isSome ∧ q = p ∨
        p.getSignature sigs.address = none ∧ stm.verifyTxnSigs libra p sigs = .ok () ∧
          (p.lifecycle = .created ∧ q = (p.addSignature sigs).setLifecycle .negotiating ∨
            p.lifecycle = .negotiating ∧
              q = ((p.addSignature sigs).tryReachConsensus stm.participantAddresses).1)) := by
  unfold handleProposalSignature at h
  dsimp only at h
  split at h
  · cases h
  next hhash =>
  refine ⟨not_not.mp hhash, ?_⟩
  split at h
  · next hnone =>
      obtain ⟨⟨⟩, hverify, h⟩ := Except.bind_eq_ok.mp h
      have hnone' : p.getSignature sigs.address = none := Option.isNone_iff_eq_none.mp hnone
      refine .inr ⟨hnone', hverify, ?_⟩
      cases hlc : p.lifecycle <;> rw [hlc] at h <;> cases h
      · exact .inl ⟨rfl, rfl⟩
      · exact .inr ⟨rfl, rfl⟩
  · next hsome =>
      cases h
      exact .inl ⟨Option.ne_none_iff_isSome.mp (by simpa using hsome), rfl⟩

theorem proposal_of_handleProposalSignature {p q : PendingTransaction} {proposalId : HashValue}
    {sigs : ChannelTransactionSigs}
    (h : stm.handleProposalSignature libra p proposalId sigs = .ok q) :
    q.proposal = p.proposal ∧ q.output = p.output := by
  obtain ⟨-, ⟨-, rfl⟩ | ⟨-, -, ⟨-, rfl⟩ | ⟨-, rfl⟩⟩⟩ := handleProposalSignature_ok libra h
  · exact ⟨rfl, rfl⟩
  · simp [PendingTransaction.setLifecycle]
  · simp

/-- A transaction `handle_proposal_signature` returns `Agreed` is the one it was given, or
every participant has signed it. -/
theorem allSigned_of_handleProposalSignature {p q : PendingTransaction} {proposalId : HashValue}
    {sigs : ChannelTransactionSigs}
    (h : stm.handleProposalSignature libra p proposalId sigs = .ok q)
    (hq : q.lifecycle = .agreed) :
    q = p ∨ ∀ a, stm.participantAddresses.contains a = true → q.signatures.contains a = true := by
  obtain ⟨-, ⟨-, rfl⟩ | ⟨-, -, ⟨-, rfl⟩ | ⟨hneg, rfl⟩⟩⟩ := handleProposalSignature_ok libra h
  · exact .inl rfl
  · cases hq
  · -- `try_reach_consensus` agreed: its test passed
    right
    rw [PendingTransaction.lifecycle_tryReachConsensus] at hq
    split_ifs at hq with hall
    · intro a ha
      rw [PendingTransaction.signatures_tryReachConsensus]
      exact ((PendingTransaction.signedByAll_iff _ _).mp hall.2 a).mpr ha
    · simp [hneg] at hq

/-- The output of an executed proposal is what the VM returned for it. -/
theorem execute_of_executeProposal {proposal : ChannelTransactionProposal}
    {body : ChannelTransactionPayloadBody} {sig : Signature} {output : TransactionOutput}
    (h : stm.executeProposal libra proposal = .ok (body, sig, output)) :
    ∃ body', libra.execute stm.channelState stm.witness.data.writeSet body' proposal.channelTxn =
      .ok output := by
  unfold executeProposal at h
  obtain ⟨⟨body', sig'⟩, -, h⟩ := Except.bind_eq_ok.mp h
  obtain ⟨output', houtput, h⟩ := Except.bind_eq_ok.mp h
  cases h
  exact ⟨_, Failure.lift_eq_ok.mp houtput⟩

/-- A proposal `can_auto_sign_pending_proposal` accepts writes to this participant's channel
resources only what the latest witness write set already holds at the same path. -/
theorem get_of_canAutoSignPendingProposal {p : PendingTransaction}
    (h : stm.canAutoSignPendingProposal libra p = true)
    (hnodup : (stm.witness.data.writeSet.map Prod.fst).Nodup)
    {w : AccessPath × WriteOp (List UInt8)} (hw : w ∈ p.output.writeSet)
    (hself : libra.participantOf w.1 = some stm.accountAddress) :
    stm.witness.data.writeSet.get w.1 = some w.2 := by
  unfold canAutoSignPendingProposal isParticipantChannelResourceModified at h
  simp only [Bool.not_eq_true', List.any_eq_false] at h
  have hw' := h w hw
  simp only [hself, decide_true, Bool.true_and, Bool.not_eq_true', decide_eq_false_iff_not,
    not_not] at hw'
  rw [SortedMap.find?_ofList, SortedMap.lookup_reverse (by simpa using hnodup)] at hw'
  have hmap : stm.witness.data.writeSet.map (fun w => (w.1, w.2)) = stm.witness.data.writeSet := by
    simp
  rw [hmap] at hw'
  rw [WriteSet.get_eq_lookup, ← hw']
  -- the two lookups differ only in the (lawful) equality test on paths
  congr
  exact Subsingleton.elim _ _

/-- `handle_apply_proposal` applies off chain exactly a transaction that reached consensus and
need not travel. -/
theorem handleApplyProposal_applying {p : PendingTransaction}
    (h : (handleApplyProposal p).lifecycle = .applying) :
    p.consensusReached = true ∧ p.output.isTravelTxn = false := by
  unfold handleApplyProposal at h
  split at h
  · next hcons => simpa using hcons
  · cases h

/-- `handle_apply_proposal` moves only the lifecycle. -/
@[simp] theorem proposal_handleApplyProposal (p : PendingTransaction) :
    (handleApplyProposal p).proposal = p.proposal := by
  unfold handleApplyProposal
  split <;> rfl

@[simp] theorem output_handleApplyProposal (p : PendingTransaction) :
    (handleApplyProposal p).output = p.output := by
  unfold handleApplyProposal
  split <;> rfl

@[simp] theorem signatures_handleApplyProposal (p : PendingTransaction) :
    (handleApplyProposal p).signatures = p.signatures := by
  unfold handleApplyProposal
  split <;> rfl

end ChannelStm

namespace Channel

variable (codec : AddressCodec) (hashing : Hashing) (libra : Libra)

@[simp] theorem stm_setStore (ch : Channel) (store : ChannelStore) (db : SgStorage) :
    (ch.setStore store db).stm = ch.stm := rfl

@[simp] theorem store_setStore (ch : Channel) (store : ChannelStore) (db : SgStorage) :
    (ch.setStore store db).store = store := rfl

@[simp] theorem db_setStore (ch : Channel) (store : ChannelStore) (db : SgStorage) :
    (ch.setStore store db).db = db := rfl

@[simp] theorem pendingTxn_setStore (ch : Channel) (store : ChannelStore) (db : SgStorage) :
    (ch.setStore store db).pendingTxn = store.pendingTxn := rfl

/-! ### Writes -/

/-- `save_pending_txn` writes the transaction unless the cached one is the same, and fails,
writing nothing, when the cached one is newer. -/
theorem run_savePendingTxn (p : PendingTransaction) (ch : Channel) :
    run (savePendingTxn p) ch =
      match ch.pendingTxn with
      | some cur =>
          if cur = p then (.ok (), ch)
          else if cur.newerThan p then (.error (.error "cannot save pending txn, state invalid"), ch)
          else (.ok (), ch.setStore (ch.store.savePendingTxn ch.db p true).1
            (ch.store.savePendingTxn ch.db p true).2)
      | none => (.ok (), ch.setStore (ch.store.savePendingTxn ch.db p true).1
          (ch.store.savePendingTxn ch.db p true).2) := by
  simp only [savePendingTxn, run_get_bind]
  cases ch.pendingTxn with
  | none => rfl
  | some cur =>
      by_cases hcur : cur = p
      · simp [hcur]
      · by_cases hnewer : cur.newerThan p = true
        · simp [hcur, hnewer]
        · simp [hcur, hnewer]

theorem savePendingTxn_ok {p : PendingTransaction} {ch ch' : Channel} {u : Unit}
    (h : run (savePendingTxn p) ch = (.ok u, ch')) :
    ch.pendingTxn = some p ∧ ch' = ch ∨
      (∀ cur, ch.pendingTxn = some cur → cur.newerThan p = false) ∧
        ch' = ch.setStore (ch.store.savePendingTxn ch.db p true).1
          (ch.store.savePendingTxn ch.db p true).2 := by
  rw [run_savePendingTxn] at h
  cases hcur : ch.pendingTxn with
  | none =>
      rw [hcur] at h
      cases h
      exact .inr ⟨fun _ h => (nomatch h), rfl⟩
  | some cur =>
      simp only [hcur] at h
      by_cases heq : cur = p
      · rw [if_pos heq] at h
        cases h
        exact .inl ⟨congrArg some heq, rfl⟩
      · rw [if_neg heq] at h
        by_cases hnewer : cur.newerThan p = true
        · rw [if_pos hnewer] at h
          cases h
        · rw [if_neg hnewer] at h
          cases h
          refine .inr ⟨fun c hc => ?_, rfl⟩
          cases hc
          simpa using hnewer

/-- After a successful `save_pending_txn` the channel caches the transaction, which is not
older than the one it cached before. -/
theorem pendingTxn_of_savePendingTxn {p : PendingTransaction} {ch ch' : Channel} {u : Unit}
    (h : run (savePendingTxn p) ch = (.ok u, ch')) :
    ch'.pendingTxn = some p ∧ ch'.stm = ch.stm ∧
      ∀ cur, ch.pendingTxn = some cur → cur.newerThan p = false := by
  rcases savePendingTxn_ok h with ⟨hp, rfl⟩ | ⟨hcur, rfl⟩
  · refine ⟨hp, rfl, fun cur hc => ?_⟩
    rw [hp] at hc
    cases hc
    exact PendingTransaction.newerThan_self _
  · exact ⟨rfl, rfl, hcur⟩

theorem savePendingTxn_error {p : PendingTransaction} {ch ch' : Channel} {e : Failure}
    (h : run (savePendingTxn p) ch = (.error e, ch')) : ch' = ch := by
  rw [run_savePendingTxn] at h
  cases hcur : ch.pendingTxn with
  | none =>
      rw [hcur] at h
      cases h
  | some cur =>
      simp only [hcur] at h
      split_ifs at h <;> cases h
      rfl

theorem run_clearPendingTxn (ch : Channel) :
    run clearPendingTxn ch =
      (.ok (), ch.setStore (ch.store.clearPendingTxn ch.db).1 (ch.store.clearPendingTxn ch.db).2) :=
  rfl

/-- `Channel::apply` fails and writes nothing, or commits the transaction with its
signatures through the applier and moves the state machine to the committed witness. -/
theorem run_apply {now : UInt64} {channelTxn : ChannelTransaction}
    {txnOutput : TransactionOutput}
    {signatures : SortedMap AccountAddress ChannelTransactionSigs} {ch ch' : Channel}
    {r : Except Failure Unit}
    (h : run (apply codec hashing now channelTxn txnOutput signatures) ch = (r, ch')) :
    (∃ e, r = .error e ∧ ch' = ch) ∨
      ∃ a db, TxApplier.apply codec hashing now ch.txApplier ch.db
          ⟨.offchain ⟨channelTxn, signatures⟩, txnOutput.writeSet, txnOutput.events,
            txnOutput.majorStatus, txnOutput.gasUsed⟩ = .ok (a, db) ∧ r = .ok () ∧
        ch' = ⟨ch.stm.advanceState none (a.store.latestWitness.getD Witness.default)
          a.store.getParticipantKeys, db, a⟩ := by
  simp only [apply, liftStm, run_get_bind] at h
  rcases run_ofExcept_bind_eq h with ⟨e, -, rfl, rfl⟩ | ⟨⟨a, db⟩, happly, h⟩
  · exact .inl ⟨e, rfl, rfl⟩
  rw [run_set] at h
  cases h
  exact .inr ⟨a, db, Failure.lift_eq_ok.mp happly, rfl, rfl⟩

/-- `check_applied` only reads. -/
theorem checkApplied_state {n : UInt64} {ch ch' : Channel}
    {r : Except Failure (Option AppliedChannelTxn)}
    (h : run (checkApplied n) ch = (r, ch')) : ch' = ch := by
  simp only [checkApplied, liftStm, run_get_bind] at h
  rcases run_ofExcept_bind_eq h with ⟨e, -, -, rfl⟩ | ⟨info, -, h⟩
  · rfl
  cases info with
  | none =>
      cases h
      rfl
  | some info =>
      dsimp only at h
      split at h
      · cases h
        rfl
      · rw [run_map, run_ofExcept] at h
        cases h
        rfl

/-! ### Handlers -/

/-- `Handler<Execute>` fails and writes nothing, or proposes, signs its own proposal and saves
it. -/
theorem run_execute {chain : ChainSnapshot} {op : ChannelOp} {args : List TransactionArgument}
    {ch ch' : Channel}
    {r : Except Failure (ChannelTransactionProposal × ChannelTransactionSigs × TransactionOutput)}
    (h : run (execute libra chain op args) ch = (r, ch')) :
    (∃ e, r = .error e ∧ ch' = ch) ∨
      ∃ proposal pendingTxn mySignature q,
        ch.stm.generateProposal libra chain op args = .ok proposal ∧
        ch.stm.handleNewProposal libra ch.pendingTxn proposal = .ok pendingTxn ∧
        ch.stm.generateTxnSigs libra pendingTxn.proposal.channelTxn pendingTxn.output =
          .ok mySignature ∧
        ch.stm.handleProposalSignature libra pendingTxn
          (libra.hashChannelTxn pendingTxn.proposal.channelTxn) mySignature = .ok q ∧
        run (savePendingTxn q) ch = (.ok (), ch') ∧ r = .ok (q.proposal, mySignature, q.output) := by
  simp only [execute, liftStm, run_get_bind] at h
  rcases run_ofExcept_bind_eq h with ⟨e, -, rfl, rfl⟩ | ⟨proposal, hproposal, h⟩
  · exact .inl ⟨e, rfl, rfl⟩
  rcases run_ofExcept_bind_eq h with ⟨e, -, rfl, rfl⟩ | ⟨pendingTxn, hpending, h⟩
  · exact .inl ⟨e, rfl, rfl⟩
  rcases run_ofExcept_bind_eq h with ⟨e, -, rfl, rfl⟩ | ⟨mySignature, hsig, h⟩
  · exact .inl ⟨e, rfl, rfl⟩
  rcases run_ofExcept_bind_eq h with ⟨e, -, rfl, rfl⟩ | ⟨q, hq, h⟩
  · exact .inl ⟨e, rfl, rfl⟩
  rcases run_bind_eq h with ⟨e, hsave, rfl⟩ | ⟨⟨⟩, ch'', hsave, h⟩
  · exact .inl ⟨e, rfl, savePendingTxn_error hsave⟩
  rw [run_pure] at h
  cases h
  exact .inr ⟨proposal, pendingTxn, mySignature, q, hproposal, hpending, hsig, hq, hsave, rfl⟩

/-- The pending path of `Handler<CollectProposalWithSigs>`: the participant's signatures are
taken, this participant's own are added only in the auto-sign branch, and the result is
saved. -/
theorem run_collectPendingProposal {proposal : ChannelTransactionProposal}
    {sigs : ChannelTransactionSigs} {ch ch' : Channel}
    {r : Except Failure (Option ChannelTransactionSigs)}
    (h : run (collectPendingProposal libra proposal sigs) ch = (r, ch')) :
    (∃ e, r = .error e ∧ ch' = ch) ∨
      ∃ pendingTxn q₁ q, ch.stm.handleNewProposal libra ch.pendingTxn proposal = .ok pendingTxn ∧
        ch.stm.handleProposalSignature libra pendingTxn
          (libra.hashChannelTxn pendingTxn.proposal.channelTxn) sigs = .ok q₁ ∧
        ((!q₁.signatures.contains ch.accountAddress &&
              ch.stm.canAutoSignPendingProposal libra q₁) = false ∧ q = q₁ ∨
          (!q₁.signatures.contains ch.accountAddress &&
              ch.stm.canAutoSignPendingProposal libra q₁) = true ∧
            ∃ mySignature,
              ch.stm.generateTxnSigs libra q₁.proposal.channelTxn q₁.output = .ok mySignature ∧
              ch.stm.handleProposalSignature libra q₁ (libra.hashChannelTxn q₁.proposal.channelTxn)
                mySignature = .ok q) ∧
        run (savePendingTxn q) ch = (.ok (), ch') ∧ r = .ok (q.getSignature ch.accountAddress) := by
  simp only [collectPendingProposal, liftStm, run_get_bind] at h
  rcases run_ofExcept_bind_eq h with ⟨e, -, rfl, rfl⟩ | ⟨pendingTxn, hpending, h⟩
  · exact .inl ⟨e, rfl, rfl⟩
  rcases run_ofExcept_bind_eq h with ⟨e, -, rfl, rfl⟩ | ⟨q₁, hq₁, h⟩
  · exact .inl ⟨e, rfl, rfl⟩
  split at h
  · -- the auto-sign branch signs too
    rename_i hauto
    rcases run_ofExcept_bind_eq h with ⟨e, -, rfl, rfl⟩ | ⟨mySignature, hsig, h⟩
    · exact .inl ⟨e, rfl, rfl⟩
    rcases run_ofExcept_bind_eq h with ⟨e, -, rfl, rfl⟩ | ⟨q, hq, h⟩
    · exact .inl ⟨e, rfl, rfl⟩
    rcases run_bind_eq h with ⟨e, hsave, rfl⟩ | ⟨⟨⟩, ch'', hsave, h⟩
    · exact .inl ⟨e, rfl, savePendingTxn_error hsave⟩
    rw [run_pure] at h
    cases h
    exact .inr ⟨pendingTxn, q₁, q, hpending, hq₁, .inr ⟨hauto, mySignature, hsig, hq⟩, hsave, rfl⟩
  · rename_i hauto
    rw [run_pure_bind] at h
    rcases run_bind_eq h with ⟨e, hsave, rfl⟩ | ⟨⟨⟩, ch'', hsave, h⟩
    · exact .inl ⟨e, rfl, savePendingTxn_error hsave⟩
    rw [run_pure] at h
    cases h
    exact .inr ⟨pendingTxn, q₁, q₁, hpending, hq₁, .inl ⟨by simpa using hauto, rfl⟩, hsave, rfl⟩

/-- `Handler<CollectProposalWithSigs>` answers a committed proposal without writing, or goes on
to `collectPendingProposal`. -/
theorem run_collectProposalWithSigs {proposal : ChannelTransactionProposal}
    {sigs : ChannelTransactionSigs} {ch ch' : Channel}
    {r : Except Failure (Option ChannelTransactionSigs)}
    (h : run (collectProposalWithSigs libra proposal sigs) ch = (r, ch')) :
    ch' = ch ∨ run (collectPendingProposal libra proposal sigs) ch = (r, ch') := by
  simp only [collectProposalWithSigs] at h
  rcases run_bind_eq h with ⟨e, happlied, -⟩ | ⟨applied, ch'', happlied, h⟩
  · exact .inl (checkApplied_state happlied)
  obtain rfl := checkApplied_state happlied
  rcases applied with _ | t | t
  · exact .inr h
  · -- committed off chain: answered with this participant's signature on it
    dsimp only at h
    split at h
    · rw [run_throw_bind] at h
      cases h
      exact .inl rfl
    · rw [run_get_bind] at h
      split at h
      · rw [run_pure] at h
        cases h
        exact .inl rfl
      · rw [run_throw] at h
        cases h
        exact .inl rfl
  · dsimp only at h
    rw [run_throw] at h
    cases h
    exact .inl rfl

/-- `Handler<GrantProposal>` signs the cached transaction, one not yet agreed, and saves it. -/
theorem run_grantProposal {channelTxnId : HashValue} {ch ch' : Channel}
    {r : Except Failure ChannelTransactionSigs}
    (h : run (grantProposal libra channelTxnId) ch = (r, ch')) :
    (∃ e, r = .error e ∧ ch' = ch) ∨
      ∃ p mySignature q, ch.pendingTxn = some p ∧
        channelTxnId = libra.hashChannelTxn p.proposal.channelTxn ∧ p.consensusReached = false ∧
        ch.stm.generateTxnSigs libra p.proposal.channelTxn p.output = .ok mySignature ∧
        ch.stm.handleProposalSignature libra p (libra.hashChannelTxn p.proposal.channelTxn)
          mySignature = .ok q ∧
        run (savePendingTxn q) ch = (.ok (), ch') ∧ r = .ok mySignature := by
  simp only [grantProposal, liftStm, run_get_bind] at h
  cases hp : ch.pendingTxn with
  | none =>
      simp only [hp, run_throw_bind] at h
      cases h
      exact .inl ⟨_, rfl, rfl⟩
  | some p =>
      simp only [hp, run_pure_bind] at h
      split at h
      · rw [run_throw_bind] at h
        cases h
        exact .inl ⟨_, rfl, rfl⟩
      rename_i hid
      split at h
      · rw [run_throw_bind] at h
        cases h
        exact .inl ⟨_, rfl, rfl⟩
      rename_i hcons
      rcases run_ofExcept_bind_eq h with ⟨e, -, rfl, rfl⟩ | ⟨mySignature, hsig, h⟩
      · exact .inl ⟨e, rfl, rfl⟩
      rcases run_ofExcept_bind_eq h with ⟨e, -, rfl, rfl⟩ | ⟨q, hq, h⟩
      · exact .inl ⟨e, rfl, rfl⟩
      rcases run_bind_eq h with ⟨e, hsave, rfl⟩ | ⟨⟨⟩, ch'', hsave, h⟩
      · exact .inl ⟨e, rfl, savePendingTxn_error hsave⟩
      rw [run_pure] at h
      cases h
      exact .inr ⟨p, mySignature, q, rfl, not_not.mp hid, by simpa using hcons, hsig, hq, hsave, rfl⟩

/-- `Handler<CancelPendingTxn>` clears only a cached transaction not yet agreed. -/
theorem run_cancelPendingTxn {channelTxnId : HashValue} {ch ch' : Channel}
    {r : Except Failure Bool}
    (h : run (cancelPendingTxn libra channelTxnId) ch = (r, ch')) :
    (∃ e, r = .error e ∧ ch' = ch) ∨
      ∃ p, ch.pendingTxn = some p ∧ channelTxnId = libra.hashChannelTxn p.proposal.channelTxn ∧
        p.consensusReached = false ∧
        ch' = ch.setStore (ch.store.clearPendingTxn ch.db).1 (ch.store.clearPendingTxn ch.db).2 ∧
        r = .ok p.proposal.channelTxn.operator.isOpen := by
  simp only [cancelPendingTxn, run_get_bind] at h
  cases hp : ch.pendingTxn with
  | none =>
      simp only [hp, run_throw_bind] at h
      cases h
      exact .inl ⟨_, rfl, rfl⟩
  | some p =>
      simp only [hp, run_pure_bind] at h
      split at h
      · rw [run_throw_bind] at h
        cases h
        exact .inl ⟨_, rfl, rfl⟩
      rename_i hid
      split at h
      · rw [run_throw_bind] at h
        cases h
        exact .inl ⟨_, rfl, rfl⟩
      rename_i hcons
      rw [run_bind_of_ok (run_clearPendingTxn ch), run_pure] at h
      cases h
      exact .inr ⟨p, rfl, not_not.mp hid, by simpa using hcons, rfl, rfl⟩

/-- `Handler<ApplyPendingTxn>` takes a `Negotiating` or `Agreed` transaction: it commits an
agreed one that need not travel, and otherwise keeps it as travelling, the proposer having
submitted it. -/
theorem run_applyPendingTxn {now : UInt64} {submit : Result Unit} {ch ch' : Channel}
    {r : Except Failure (Option (AccountAddress × UInt64))}
    (h : run (applyPendingTxn codec hashing libra now submit) ch = (r, ch')) :
    (∃ e, r = .error e ∧ ch' = ch) ∨
      ∃ p, ch.pendingTxn = some p ∧ (p.lifecycle = .negotiating ∨ p.lifecycle = .agreed) ∧
        ((ChannelStm.handleApplyProposal p).lifecycle = .applying ∧
            run (apply codec hashing now p.proposal.channelTxn p.output p.signatures) ch =
              (.ok (), ch') ∧ r = .ok none ∨
          (ChannelStm.handleApplyProposal p).lifecycle = .traveling ∧
            (ch.accountAddress = p.proposal.channelTxn.proposer →
              (∃ txn, ch.stm.buildSignedTxn libra (ChannelStm.handleApplyProposal p) = .ok txn) ∧
                submit = .ok ()) ∧
            run (savePendingTxn (ChannelStm.handleApplyProposal p)) ch = (.ok (), ch') ∧
            r = .ok (some (p.proposal.channelTxn.proposer, p.proposal.channelTxn.sequenceNumber))) := by
  simp only [applyPendingTxn, liftStm, run_get_bind] at h
  cases hp : ch.pendingTxn with
  | none =>
      simp only [hp, run_throw_bind] at h
      cases h
      exact .inl ⟨_, rfl, rfl⟩
  | some p =>
      simp only [hp, run_pure_bind] at h
      split at h
      · rw [run_throw_bind] at h
        cases h
        exact .inl ⟨_, rfl, rfl⟩
      rename_i hlc
      have hlc' := not_not.mp hlc
      split at h
      · -- `Applying`: commit off chain
        rename_i happlying
        rcases run_bind_eq h with ⟨e, happly, rfl⟩ | ⟨⟨⟩, ch'', happly, h⟩
        · rcases run_apply codec hashing happly with ⟨-, -, rfl⟩ | ⟨-, -, -, hr, -⟩
          · exact .inl ⟨e, rfl, rfl⟩
          · cases hr
        rw [run_pure] at h
        cases h
        simp only [ChannelStm.proposal_handleApplyProposal, ChannelStm.output_handleApplyProposal,
          ChannelStm.signatures_handleApplyProposal] at happly
        exact .inr ⟨p, rfl, hlc', .inl ⟨happlying, happly, rfl⟩⟩
      · -- `Traveling`: the proposer submits it, then it is kept as travelling
        rename_i htraveling
        split at h
        · rename_i hproposer
          rcases run_ofExcept_bind_eq h with ⟨e, -, rfl, rfl⟩ | ⟨txn, htxn, h⟩
          · exact .inl ⟨e, rfl, rfl⟩
          rcases run_ofExcept_bind_eq h with ⟨e, -, rfl, rfl⟩ | ⟨⟨⟩, hsubmit, h⟩
          · exact .inl ⟨e, rfl, rfl⟩
          rcases run_bind_eq h with ⟨e, hsave, rfl⟩ | ⟨⟨⟩, ch'', hsave, h⟩
          · exact .inl ⟨e, rfl, savePendingTxn_error hsave⟩
          rw [run_pure] at h
          cases h
          exact .inr ⟨p, rfl, hlc', .inr ⟨htraveling,
            fun _ => ⟨⟨txn, htxn⟩, Failure.lift_eq_ok.mp hsubmit⟩, hsave, by simp⟩⟩
        · rename_i hproposer
          rcases run_bind_eq h with ⟨e, hsave, rfl⟩ | ⟨⟨⟩, ch'', hsave, h⟩
          · exact .inl ⟨e, rfl, savePendingTxn_error hsave⟩
          rw [run_pure] at h
          cases h
          exact .inr ⟨p, rfl, hlc', .inr ⟨htraveling,
            fun hself => absurd (by simpa using hself) hproposer, hsave, by simp⟩⟩
      · rw [run_throw] at h
        cases h
        exact .inl ⟨_, rfl, rfl⟩

/-- A handler that fails leaves the channel as it was: each writes once, at its end. -/
theorem handle_error {m : Message} {ch ch' : Channel} {e : Failure}
    (h : run (handle codec hashing libra m) ch = (.error e, ch')) : ch' = ch := by
  cases m with
  | execute chain op args =>
      rw [handle] at h
      obtain ⟨r, hr, he⟩ := run_bind_pure_eq h
      rcases run_execute libra hr with ⟨-, -, rfl⟩ | ⟨_, _, _, _, -, -, -, -, -, rfl⟩
      · rfl
      · cases he
  | collectProposalWithSigs proposal sigs =>
      rw [handle] at h
      obtain ⟨r, hr, he⟩ := run_bind_pure_eq h
      rcases run_collectProposalWithSigs libra hr with rfl | hr
      · rfl
      rcases run_collectPendingProposal libra hr with ⟨-, -, rfl⟩ | ⟨_, _, _, -, -, -, -, rfl⟩
      · rfl
      · cases he
  | grantProposal channelTxnId =>
      rw [handle] at h
      obtain ⟨r, hr, he⟩ := run_bind_pure_eq h
      rcases run_grantProposal libra hr with ⟨-, -, rfl⟩ | ⟨_, _, _, -, -, -, -, -, -, rfl⟩
      · rfl
      · cases he
  | cancelPendingTxn channelTxnId =>
      rw [handle] at h
      obtain ⟨r, hr, he⟩ := run_bind_pure_eq h
      rcases run_cancelPendingTxn libra hr with ⟨-, -, rfl⟩ | ⟨_, -, -, -, -, rfl⟩
      · rfl
      · cases he
  | applyPendingTxn now submit =>
      rw [handle] at h
      obtain ⟨r, hr, he⟩ := run_bind_pure_eq h
      rcases run_applyPendingTxn codec hashing libra hr with
        ⟨-, -, rfl⟩ | ⟨_, -, -, ⟨-, -, rfl⟩ | ⟨-, -, -, rfl⟩⟩
      · rfl
      · cases he
      · cases he

end Channel
