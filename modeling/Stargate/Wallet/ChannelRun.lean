import Stargate.Wallet.ChannelSpec
import Stargate.Lib.Transition

/-!
# Stargate.Wallet.ChannelRun

The channel actor over whole runs: the states a channel reaches from a fresh load by any
sequence of messages (`Reachable (Init codec) (Next codec hashing libra)`), and what holds in
each of them and along every run.

`step_cases` says once what a step can do: leave the channel as it was, save a transaction
signed (`SignStep`) from the cached one or from a new proposal, clear one that is not agreed,
commit one off chain, or save it as travelling. The invariants are derived from it: the
pending transaction keeps its proposal and never goes back in its lifecycle
(`pendingTxn_of_step`), an `Agreed` one carries every participant's signature
(`agreedSigned_of_reachable`), the stored one is the cached one (`pendingTxn_persisted`), and
the write sets a participant auto-signs against have one write per path.

From them: along a run a pending transaction keeps its proposal and its lifecycle only moves
forward (`pending_lifecycle_monotone`); `ApplyPendingTxn` commits off chain only a transaction
every participant signed (`offchain_commit_needs_all_signatures`); and a proposal auto-signed
writes to this participant's resources only values it already reads
(`autoSign_reads_unchanged`). Two runs close the module: signatures that arrive after the
proposer sent its transaction on chain reach an `unreachable!()`, and a key outside the
channel can sign (`signature_after_travel_unreachable`).
-/

open ExceptState

namespace ChannelStm

variable (libra : Libra) (stm : ChannelStm)

/-- One signature taken by `handle_proposal_signature`. -/
def SignStep (p q : PendingTransaction) : Prop :=
  ∃ proposalId sigs, stm.handleProposalSignature libra p proposalId sigs = .ok q

/-- An `Agreed` transaction carries a signature of every participant. -/
def AgreedSigned (participants : SortedSet AccountAddress) (p : PendingTransaction) : Prop :=
  p.lifecycle = .agreed → ∀ a, participants.contains a = true → p.signatures.contains a = true

variable {libra stm}

/-- Signatures keep the proposal and its output. -/
theorem proposal_of_signs {p q : PendingTransaction}
    (h : Relation.ReflTransGen (SignStep libra stm) p q) :
    q.proposal = p.proposal ∧ q.output = p.output :=
  h.preserves (fun t => t.proposal = p.proposal ∧ t.output = p.output)
    (fun _ _ ⟨hp, ho⟩ ⟨_, _, hs⟩ => by
      obtain ⟨hp', ho'⟩ := proposal_of_handleProposalSignature libra hs
      exact ⟨hp'.trans hp, ho'.trans ho⟩)
    ⟨rfl, rfl⟩

theorem agreedSigned_of_signs {p q : PendingTransaction}
    (h : Relation.ReflTransGen (SignStep libra stm) p q)
    (hp : AgreedSigned stm.participantAddresses p) : AgreedSigned stm.participantAddresses q := by
  refine h.preserves (AgreedSigned stm.participantAddresses) ?_ hp
  rintro t t' ht ⟨_, _, hs⟩ hagreed
  rcases allSigned_of_handleProposalSignature libra hs hagreed with rfl | hall
  · exact ht hagreed
  · exact hall

end ChannelStm

namespace Channel

variable (codec : AddressCodec) (hashing : Hashing) (libra : Libra)

/-- The transactions a handler signs from: the cached one, or the one `handle_new_proposal`
builds. -/
def Proposed (ch : Channel) (p : PendingTransaction) : Prop :=
  ch.pendingTxn = some p ∨ ∃ proposal, ch.stm.handleNewProposal libra ch.pendingTxn proposal = .ok p

/-! ### What a step can do -/

/-- Every step of the actor is one of five: it leaves the channel as it was, saves a
transaction signed from the cached one or from a new proposal, clears a cached transaction
that is not agreed, commits the cached one off chain, or saves it as travelling. -/
theorem step_cases {ch ch' : Channel} {m : Message} (h : Step codec hashing libra ch m ch') :
    ch' = ch ∨
      (∃ p q, Proposed libra ch p ∧ Relation.ReflTransGen (ChannelStm.SignStep libra ch.stm) p q ∧
        run (savePendingTxn q) ch = (.ok (), ch')) ∨
      (∃ p, ch.pendingTxn = some p ∧ p.consensusReached = false ∧
        ch' = ch.setStore (ch.store.clearPendingTxn ch.db).1 (ch.store.clearPendingTxn ch.db).2) ∨
      (∃ p now, ch.pendingTxn = some p ∧
        run (apply codec hashing now p.proposal.channelTxn p.output p.signatures) ch =
          (.ok (), ch')) ∨
      (∃ p, ch.pendingTxn = some p ∧ (ChannelStm.handleApplyProposal p).lifecycle = .traveling ∧
        run (savePendingTxn (ChannelStm.handleApplyProposal p)) ch = (.ok (), ch')) := by
  obtain ⟨r, hrun, -⟩ := h
  cases m with
  | execute chain op args =>
      rw [handle] at hrun
      obtain ⟨r', hr', -⟩ := run_bind_pure_eq hrun
      rcases run_execute libra hr' with ⟨-, -, rfl⟩ | ⟨proposal, p, _, q, -, hp, -, hq, hsave, -⟩
      · exact .inl rfl
      · exact .inr (.inl ⟨p, q, .inr ⟨proposal, hp⟩, .single ⟨_, _, hq⟩, hsave⟩)
  | collectProposalWithSigs proposal sigs =>
      rw [handle] at hrun
      obtain ⟨r', hr', -⟩ := run_bind_pure_eq hrun
      rcases run_collectProposalWithSigs libra hr' with rfl | hr'
      · exact .inl rfl
      rcases run_collectPendingProposal libra hr' with
        ⟨-, -, rfl⟩ | ⟨p, q₁, q, hp, hq₁, ⟨-, hq⟩ | ⟨-, _, -, hq⟩, hsave, -⟩
      · exact .inl rfl
      · exact .inr (.inl ⟨p, q, .inr ⟨proposal, hp⟩, .single ⟨_, _, hq ▸ hq₁⟩, hsave⟩)
      · -- the auto-sign branch signs twice
        exact .inr (.inl ⟨p, q, .inr ⟨proposal, hp⟩, (Relation.ReflTransGen.single ⟨_, _, hq₁⟩).tail
          ⟨_, _, hq⟩, hsave⟩)
  | grantProposal channelTxnId =>
      rw [handle] at hrun
      obtain ⟨r', hr', -⟩ := run_bind_pure_eq hrun
      rcases run_grantProposal libra hr' with ⟨-, -, rfl⟩ | ⟨p, _, q, hp, -, -, -, hq, hsave, -⟩
      · exact .inl rfl
      · exact .inr (.inl ⟨p, q, .inl hp, .single ⟨_, _, hq⟩, hsave⟩)
  | cancelPendingTxn channelTxnId =>
      rw [handle] at hrun
      obtain ⟨r', hr', -⟩ := run_bind_pure_eq hrun
      rcases run_cancelPendingTxn libra hr' with ⟨-, -, rfl⟩ | ⟨p, hp, -, hcons, rfl, -⟩
      · exact .inl rfl
      · exact .inr (.inr (.inl ⟨p, hp, hcons, rfl⟩))
  | applyPendingTxn now submit =>
      rw [handle] at hrun
      obtain ⟨r', hr', -⟩ := run_bind_pure_eq hrun
      rcases run_applyPendingTxn codec hashing libra hr' with
        ⟨-, -, rfl⟩ | ⟨p, hp, -, ⟨-, happly, -⟩ | ⟨htravel, -, hsave, -⟩⟩
      · exact .inl rfl
      · exact .inr (.inr (.inr (.inl ⟨p, now, hp, happly⟩)))
      · exact .inr (.inr (.inr (.inr ⟨p, hp, htravel, hsave⟩)))

/-- A commit leaves no pending transaction, in the cache or in storage, and keeps the state
machine's participants and account. -/
theorem apply_ok {now : UInt64} {channelTxn : ChannelTransaction} {txnOutput : TransactionOutput}
    {signatures : SortedMap AccountAddress ChannelTransactionSigs} {ch ch' : Channel}
    (h : run (apply codec hashing now channelTxn txnOutput signatures) ch = (.ok (), ch')) :
    ch'.pendingTxn = none ∧ ch'.store.participant = ch.store.participant ∧
      PendingTxnStore.getPendingTxn ch'.store.participant ch'.db = none ∧
      ch'.stm.participantAddresses = ch.stm.participantAddresses ∧
      ch'.stm.accountAddress = ch.stm.accountAddress ∧
      ch'.stm.witness = generateWitness (.offchain ⟨channelTxn, signatures⟩) txnOutput.writeSet := by
  rcases run_apply codec hashing h with ⟨_, he, -⟩ | ⟨a, db, happly, -, rfl⟩
  · cases he
  obtain ⟨hpart, hpending, hwitness, hstored⟩ := TxApplier.apply_caches codec hashing happly
  refine ⟨hpending, hpart, ?_, rfl, rfl, ?_⟩
  · show PendingTxnStore.getPendingTxn a.store.participant db = none
    rw [hpart]
    exact hstored
  · show (a.store.latestWitness.getD Witness.default) = _
    rw [hwitness]
    rfl

/-- A step keeps the state machine's participants and account. -/
theorem stm_of_step {ch ch' : Channel} {m : Message} (h : Step codec hashing libra ch m ch') :
    ch'.stm.participantAddresses = ch.stm.participantAddresses ∧
      ch'.stm.accountAddress = ch.stm.accountAddress := by
  rcases step_cases codec hashing libra h with
    rfl | ⟨_, q, -, -, hsave⟩ | ⟨_, -, -, rfl⟩ | ⟨_, _, -, happly⟩ | ⟨_, -, -, hsave⟩
  · exact ⟨rfl, rfl⟩
  · rw [(pendingTxn_of_savePendingTxn hsave).2.1]
    exact ⟨rfl, rfl⟩
  · exact ⟨rfl, rfl⟩
  · obtain ⟨-, -, -, hpart, hacc, -⟩ := apply_ok codec hashing happly
    exact ⟨hpart, hacc⟩
  · rw [(pendingTxn_of_savePendingTxn hsave).2.1]
    exact ⟨rfl, rfl⟩

/-- The transaction a handler signs from, when one is cached, is the cached one. -/
theorem proposed_of_pendingTxn {ch : Channel} {p p₀ : PendingTransaction}
    (hp : ch.pendingTxn = some p) (hp₀ : Proposed libra ch p₀) : p₀ = p := by
  rcases hp₀ with hp₀ | ⟨proposal, hnew⟩
  · rw [hp] at hp₀
    exact (Option.some.inj hp₀).symm
  · rcases ChannelStm.handleNewProposal_ok libra hnew with ⟨p', hp', rfl, -⟩ | ⟨hnone, -⟩
    · rw [hp] at hp'
      exact (Option.some.inj hp').symm
    · rw [hp] at hnone
      cases hnone

/-- A step from a cached transaction to a cached transaction keeps its proposal and does not
move its lifecycle back. -/
theorem pendingTxn_of_step {ch ch' : Channel} {m : Message} {p q : PendingTransaction}
    (h : Step codec hashing libra ch m ch') (hp : ch.pendingTxn = some p)
    (hq : ch'.pendingTxn = some q) : q.proposal = p.proposal ∧ p.lifecycle ≤ q.lifecycle := by
  rcases step_cases codec hashing libra h with
    rfl | ⟨p₀, q', hp₀, hsigns, hsave⟩ | ⟨_, -, -, rfl⟩ | ⟨_, _, -, happly⟩ | ⟨p', hp', -, hsave⟩
  · rw [hp] at hq
    cases hq
    exact ⟨rfl, Nat.le_refl _⟩
  · -- a saved transaction: signed from the cached one, and not older than it
    obtain ⟨hq', -, hnewer⟩ := pendingTxn_of_savePendingTxn hsave
    rw [hq'] at hq
    cases hq
    rw [proposed_of_pendingTxn libra hp hp₀] at hsigns
    exact ⟨(ChannelStm.proposal_of_signs hsigns).1,
      PendingTransaction.lifecycle_le_of_newerThan_eq_false (hnewer p hp)⟩
  · simp at hq
  · rw [(apply_ok codec hashing happly).1] at hq
    cases hq
  · obtain ⟨hq', -, hnewer⟩ := pendingTxn_of_savePendingTxn hsave
    rw [hq'] at hq
    cases hq
    obtain rfl : p = p' := Option.some.inj (hp.symm.trans hp')
    exact ⟨ChannelStm.proposal_handleApplyProposal p,
      PendingTransaction.lifecycle_le_of_newerThan_eq_false (hnewer p hp)⟩

/-! ### Invariants over runs -/

/-- A fresh channel caches and stores no pending transaction, and its state machine holds the
default witness. -/
theorem init_facts {ch : Channel} (h : Init codec ch) :
    ch.pendingTxn = none ∧ PendingTxnStore.getPendingTxn ch.store.participant ch.db = none ∧
      ch.stm.witness = Witness.default := by
  obtain ⟨participants, channelAddress, accountAddress, keypair, h⟩ := h
  obtain ⟨⟨store, db⟩, hnew, h⟩ := Except.bind_eq_ok.mp h
  obtain ⟨t, ht, h⟩ := Except.bind_eq_ok.mp h
  cases h
  obtain ⟨hstore, -⟩ := TxApplier.new_inv ht
  obtain ⟨-, -, -, -, hpart, -, -, hpending, hdb⟩ := ChannelStore.new_inv codec hnew
  refine ⟨?_, ?_, rfl⟩
  · show t.store.pendingTxn = none
    rw [hstore, hpending]
    rfl
  · show PendingTxnStore.getPendingTxn t.store.participant db = none
    -- neither storage has a pending-transaction row
    rw [hstore, hpart]
    rcases hdb with rfl | rfl <;> rfl

/-- Every participant signed an `Agreed` cached transaction. -/
def AgreedSigned (ch : Channel) : Prop :=
  ∀ p, ch.pendingTxn = some p → ChannelStm.AgreedSigned ch.stm.participantAddresses p

/-- A transaction signed from what a handler starts from is signed by every participant once
agreed, if the cached one was. -/
theorem agreedSigned_of_proposed {ch : Channel} {p q : PendingTransaction}
    (hinv : AgreedSigned ch) (hp : Proposed libra ch p)
    (hsigns : Relation.ReflTransGen (ChannelStm.SignStep libra ch.stm) p q) :
    ChannelStm.AgreedSigned ch.stm.participantAddresses q := by
  refine ChannelStm.agreedSigned_of_signs hsigns ?_
  rcases hp with hp | ⟨proposal, hnew⟩
  · exact hinv p hp
  · rcases ChannelStm.handleNewProposal_ok libra hnew with ⟨p', hp', rfl, -⟩ | ⟨-, -, -, hcreated, -⟩
    · exact hinv p hp'
    · -- a new proposal starts `Created`
      intro hagreed
      rw [hcreated] at hagreed
      cases hagreed

theorem agreedSigned_step {ch ch' : Channel} {m : Message} (hinv : AgreedSigned ch)
    (h : Step codec hashing libra ch m ch') : AgreedSigned ch' := by
  have hparts := (stm_of_step codec hashing libra h).1
  intro q hq
  rw [hparts]
  rcases step_cases codec hashing libra h with
    rfl | ⟨p, q', hp, hsigns, hsave⟩ | ⟨_, -, -, rfl⟩ | ⟨_, _, -, happly⟩ | ⟨p, -, htravel, hsave⟩
  · exact hinv q hq
  · obtain ⟨hq', -, -⟩ := pendingTxn_of_savePendingTxn hsave
    rw [hq'] at hq
    cases hq
    exact agreedSigned_of_proposed libra hinv hp hsigns
  · simp at hq
  · rw [(apply_ok codec hashing happly).1] at hq
    cases hq
  · -- a travelling transaction is not `Agreed`
    obtain ⟨hq', -, -⟩ := pendingTxn_of_savePendingTxn hsave
    rw [hq'] at hq
    cases hq
    intro hagreed
    rw [htravel] at hagreed
    cases hagreed

theorem agreedSigned_of_reachable {ch : Channel}
    (h : Reachable (Init codec) (Next codec hashing libra) ch) : AgreedSigned ch :=
  h.invariant AgreedSigned
    (fun _ hinit p hp => by
      rw [(init_facts codec hinit).1] at hp
      cases hp)
    (fun _ _ hinv ⟨_, hstep⟩ => agreedSigned_step codec hashing libra hinv hstep)

/-- The stored pending transaction is the cached one. -/
def Persisted (ch : Channel) : Prop :=
  PendingTxnStore.getPendingTxn ch.store.participant ch.db = ch.pendingTxn

theorem persisted_of_savePendingTxn {ch ch' : Channel} {q : PendingTransaction}
    (hinv : Persisted ch) (hsave : run (savePendingTxn q) ch = (.ok (), ch')) : Persisted ch' := by
  rcases savePendingTxn_ok hsave with ⟨-, rfl⟩ | ⟨-, rfl⟩
  · exact hinv
  · exact ChannelStore.stored_savePendingTxn _ _ _

theorem persisted_step {ch ch' : Channel} {m : Message} (hinv : Persisted ch)
    (h : Step codec hashing libra ch m ch') : Persisted ch' := by
  rcases step_cases codec hashing libra h with
    rfl | ⟨_, _, -, -, hsave⟩ | ⟨_, -, -, rfl⟩ | ⟨_, _, -, happly⟩ | ⟨_, -, -, hsave⟩
  · exact hinv
  · exact persisted_of_savePendingTxn hinv hsave
  · exact ChannelStore.stored_clearPendingTxn _ _
  · obtain ⟨hpending, -, hstored, -⟩ := apply_ok codec hashing happly
    unfold Persisted
    rw [hpending, hstored]
  · exact persisted_of_savePendingTxn hinv hsave

/-- The write sets a participant auto-signs against have one write per path: the latest
witness's, and the cached transaction's output, which the witness becomes on a commit. -/
def WriteSetsNodup (ch : Channel) : Prop :=
  (ch.stm.witness.data.writeSet.map Prod.fst).Nodup ∧
    ∀ p, ch.pendingTxn = some p → (p.output.writeSet.map Prod.fst).Nodup

theorem writeSetsNodup_of_savePendingTxn {ch ch' : Channel} {q : PendingTransaction}
    (hinv : WriteSetsNodup ch) (hq : (q.output.writeSet.map Prod.fst).Nodup)
    (hsave : run (savePendingTxn q) ch = (.ok (), ch')) : WriteSetsNodup ch' := by
  obtain ⟨hq', hstm, -⟩ := pendingTxn_of_savePendingTxn hsave
  refine ⟨hstm ▸ hinv.1, fun p hp => ?_⟩
  rw [hq'] at hp
  cases hp
  exact hq

section WriteSets

-- the VM writes each path at most once
variable (hvm : ∀ cs ws body txn output,
  libra.execute cs ws body txn = .ok output → (output.writeSet.map Prod.fst).Nodup)
include hvm

theorem outputNodup_of_proposed {ch : Channel} {p : PendingTransaction}
    (hinv : WriteSetsNodup ch) (hp : Proposed libra ch p) : (p.output.writeSet.map Prod.fst).Nodup := by
  rcases hp with hp | ⟨proposal, hnew⟩
  · exact hinv.2 p hp
  · rcases ChannelStm.handleNewProposal_ok libra hnew with
      ⟨p', hp', rfl, -⟩ | ⟨-, -, -, -, body, sig, hexec⟩
    · exact hinv.2 p hp'
    · -- a new proposal's output is the VM's
      obtain ⟨_, hvm'⟩ := ChannelStm.execute_of_executeProposal libra hexec
      exact hvm _ _ _ _ _ hvm'

theorem writeSetsNodup_step {ch ch' : Channel} {m : Message} (hinv : WriteSetsNodup ch)
    (h : Step codec hashing libra ch m ch') : WriteSetsNodup ch' := by
  rcases step_cases codec hashing libra h with
    rfl | ⟨p, q, hp, hsigns, hsave⟩ | ⟨_, -, -, rfl⟩ | ⟨p, _, hp, happly⟩ | ⟨p, hp, -, hsave⟩
  · exact hinv
  · refine writeSetsNodup_of_savePendingTxn hinv ?_ hsave
    rw [(ChannelStm.proposal_of_signs hsigns).2]
    exact outputNodup_of_proposed libra hvm hinv hp
  · exact ⟨hinv.1, fun p hp => by simp at hp⟩
  · -- a commit makes the transaction's output the witness write set
    obtain ⟨hpending, -, -, -, -, hwitness⟩ := apply_ok codec hashing happly
    refine ⟨?_, fun q hq => by rw [hpending] at hq; cases hq⟩
    rw [hwitness]
    exact hinv.2 p hp
  · refine writeSetsNodup_of_savePendingTxn hinv ?_ hsave
    rw [ChannelStm.output_handleApplyProposal]
    exact hinv.2 p hp

theorem writeSetsNodup_of_reachable {ch : Channel}
    (h : Reachable (Init codec) (Next codec hashing libra) ch) : WriteSetsNodup ch :=
  h.invariant WriteSetsNodup
    (fun _ hinit => by
      obtain ⟨hpending, -, hwitness⟩ := init_facts codec hinit
      refine ⟨?_, fun p hp => by rw [hpending] at hp; cases hp⟩
      rw [hwitness]
      exact List.nodup_nil)
    (fun _ _ hinv ⟨_, hstep⟩ => writeSetsNodup_step codec hashing libra hvm hinv hstep)

end WriteSets

/-! ### The lifecycle of a pending transaction -/

/-- Along every run in which a transaction stays pending, it keeps its proposal and its
lifecycle only moves forward; and every handler that returns `Err` leaves the channel, its
cached and its stored pending transaction included, as it was. -/
theorem pending_lifecycle_monotone :
    (∀ (ch ch' : Channel) (p q : PendingTransaction),
      Relation.ReflTransGen (fun a b => Next codec hashing libra a b ∧ a.pendingTxn.isSome ∧
        b.pendingTxn.isSome) ch ch' →
      ch.pendingTxn = some p → ch'.pendingTxn = some q →
        q.proposal = p.proposal ∧ p.lifecycle ≤ q.lifecycle) ∧
    ∀ (m : Message) (ch ch' : Channel) (e : String),
      run (handle codec hashing libra m) ch = (.error (.error e), ch') → ch' = ch := by
  refine ⟨fun ch ch' p q hrun hp hq => ?_, fun m ch ch' e h => handle_error codec hashing libra h⟩
  -- induction on the run, over the last step, from the transaction cached before it
  induction hrun generalizing q with
  | refl =>
      rw [hp] at hq
      cases hq
      exact ⟨rfl, Nat.le_refl _⟩
  | tail _ hbc ih =>
      obtain ⟨⟨m, hstep⟩, hb, -⟩ := hbc
      obtain ⟨r, hr⟩ := Option.isSome_iff_exists.mp hb
      obtain ⟨hrp, hpr⟩ := ih r hr
      obtain ⟨hqr, hrq⟩ := pendingTxn_of_step codec hashing libra hstep hr hq
      exact ⟨hqr.trans hrp, Nat.le_trans hpr hrq⟩

/-! ### Off-chain commits -/

/-- A transaction handed to `ApplyPendingTxn` that reached consensus is `Agreed`. -/
theorem agreed_of_consensusReached {p : PendingTransaction}
    (hlc : p.lifecycle = .negotiating ∨ p.lifecycle = .agreed) (hcons : p.consensusReached = true) :
    p.lifecycle = .agreed := by
  rcases hlc with hneg | hagreed
  · rw [PendingTransaction.consensusReached, hneg] at hcons
    exact absurd hcons (by decide)
  · exact hagreed

/-- In every reachable state, `ApplyPendingTxn` commits off chain only a pending transaction
that every participant signed and whose output need not travel; and a transaction that reached
consensus is neither cleared by `CancelPendingTxn` nor replaced by one of another hash. -/
theorem offchain_commit_needs_all_signatures {ch : Channel}
    (hreach : Reachable (Init codec) (Next codec hashing libra) ch) :
    (∀ now submit ch', run (applyPendingTxn codec hashing libra now submit) ch = (.ok none, ch') →
      ∃ p, ch.pendingTxn = some p ∧ p.output.isTravelTxn = false ∧
        (∀ a, ch.stm.participantAddresses.contains a = true → p.signatures.contains a = true) ∧
        ∃ a db, TxApplier.apply codec hashing now ch.txApplier ch.db
            ⟨.offchain ⟨p.proposal.channelTxn, p.signatures⟩, p.output.writeSet, p.output.events,
              p.output.majorStatus, p.output.gasUsed⟩ = .ok (a, db) ∧
          ch'.txApplier = a ∧ ch'.db = db) ∧
    ∀ p, ch.pendingTxn = some p → p.consensusReached = true →
      ∀ m ch', Step codec hashing libra ch m ch' →
        (∀ channelTxnId, m = .cancelPendingTxn channelTxnId → ch'.pendingTxn = some p) ∧
        ∀ q, ch'.pendingTxn = some q →
          libra.hashChannelTxn q.proposal.channelTxn = libra.hashChannelTxn p.proposal.channelTxn := by
  constructor
  · intro now submit ch' h
    rcases run_applyPendingTxn codec hashing libra h with
      ⟨_, he, -⟩ | ⟨p, hp, hlc, ⟨happlying, happly, -⟩ | ⟨-, -, -, hr⟩⟩
    · cases he
    · -- the `Applying` branch: consensus, hence `Agreed`, hence signed by every participant
      obtain ⟨hcons, htravel⟩ := ChannelStm.handleApplyProposal_applying happlying
      have hagreed := agreed_of_consensusReached hlc hcons
      have hall := agreedSigned_of_reachable codec hashing libra hreach p hp hagreed
      rcases run_apply codec hashing happly with ⟨_, he, -⟩ | ⟨a, db, hcommit, -, rfl⟩
      · cases he
      · exact ⟨p, hp, htravel, hall, a, db, hcommit, rfl, rfl⟩
    · cases hr
  · intro p hp hcons m ch' hstep
    refine ⟨?_, fun q hq => ?_⟩
    · -- `CancelPendingTxn` refuses a transaction that reached consensus
      rintro channelTxnId rfl
      obtain ⟨r, hrun, -⟩ := hstep
      rw [handle] at hrun
      obtain ⟨r', hr', -⟩ := run_bind_pure_eq hrun
      rcases run_cancelPendingTxn libra hr' with ⟨-, -, rfl⟩ | ⟨p', hp', -, hfalse, -⟩
      · exact hp
      · obtain rfl : p = p' := Option.some.inj (hp.symm.trans hp')
        rw [hcons] at hfalse
        cases hfalse
    · rw [(pendingTxn_of_step codec hashing libra hstep hp hq).1]

/-- A state of a two-party channel after `[2]` auto-signed `[1]`'s proposal, where it is `Agreed`. -/
theorem offchain_commit_needs_all_signatures_agreed :
    ∃ ch, Reachable (Init AddressCodec.raw) (Next AddressCodec.raw Hashing.zero Libra.toy) ch ∧
      (∃ p, ch.pendingTxn = some p ∧ p.lifecycle = .agreed) ∧
      (∀ now submit ch',
        run (applyPendingTxn AddressCodec.raw Hashing.zero Libra.toy now submit) ch =
          (.ok none, ch') →
        ∃ p, ch.pendingTxn = some p ∧ p.output.isTravelTxn = false ∧
          (∀ a, ch.stm.participantAddresses.contains a = true → p.signatures.contains a = true) ∧
          ∃ a db, TxApplier.apply AddressCodec.raw Hashing.zero now ch.txApplier ch.db
              ⟨.offchain ⟨p.proposal.channelTxn, p.signatures⟩, p.output.writeSet, p.output.events,
                p.output.majorStatus, p.output.gasUsed⟩ = .ok (a, db) ∧
            ch'.txApplier = a ∧ ch'.db = db) ∧
      ∀ p, ch.pendingTxn = some p → p.consensusReached = true →
        ∀ m ch', Step AddressCodec.raw Hashing.zero Libra.toy ch m ch' →
          (∀ channelTxnId, m = .cancelPendingTxn channelTxnId → ch'.pendingTxn = some p) ∧
          ∀ q, ch'.pendingTxn = some q →
            Libra.toy.hashChannelTxn q.proposal.channelTxn =
              Libra.toy.hashChannelTxn p.proposal.channelTxn :=
  ⟨_, .step (.init ⟨SortedMap.ofList [([1], ()), ([2], ())], [0], [2], ⟨[2], [2]⟩, rfl⟩)
      ⟨.collectProposalWithSigs ⟨⟨0, [0], 0, .open, [], [1], 0, .fromSecs 0⟩, [1], [1, 1]⟩
        ⟨[1], [1], [1], [], [1], none⟩, .ok (), rfl, fun _ h => by cases h⟩,
    ⟨_, rfl, rfl⟩,
    offchain_commit_needs_all_signatures AddressCodec.raw Hashing.zero Libra.toy
      (.step (.init ⟨SortedMap.ofList [([1], ()), ([2], ())], [0], [2], ⟨[2], [2]⟩, rfl⟩)
        ⟨.collectProposalWithSigs ⟨⟨0, [0], 0, .open, [], [1], 0, .fromSecs 0⟩, [1], [1, 1]⟩
          ⟨[1], [1], [1], [], [1], none⟩, .ok (), rfl, fun _ h => by cases h⟩)⟩

/-! ### Auto-signing -/

/-- In every reachable state, a transaction `can_auto_sign_pending_proposal` accepts writes to
this participant's channel resources only the writes the latest witness holds at those paths,
so `access_local` reads each written value there already. Assumed: the VM writes each path at
most once. -/
theorem autoSign_reads_unchanged
    (hvm : ∀ cs ws body txn output,
      libra.execute cs ws body txn = .ok output → (output.writeSet.map Prod.fst).Nodup)
    {ch : Channel} (hreach : Reachable (Init codec) (Next codec hashing libra) ch)
    {p : PendingTransaction} (hauto : ch.stm.canAutoSignPendingProposal libra p = true) :
    ∀ w ∈ p.output.writeSet, libra.participantOf w.1 = some ch.accountAddress →
      ch.stm.witness.data.writeSet.get w.1 = some w.2 ∧
      accessLocal ch.stm.witness.data.writeSet ch.stm.channelState w.1 = .ok w.2.value? := by
  -- the latest witness has one write per path, so its `get` is the write auto-signing compared
  have hnodup := (writeSetsNodup_of_reachable codec hashing libra hvm hreach).1
  intro w hw hown
  have hget := ChannelStm.get_of_canAutoSignPendingProposal libra hauto hnodup hw hown
  exact ⟨hget, accessLocal_of_get hget⟩

/-- Participant `[2]` of a two-party channel approves `[1]`'s proposal with `GrantProposal` and
commits it; a later proposal writing the same value to `[2]`'s resource is auto-signed. -/
theorem autoSign_reads_unchanged_after_grant :
    (∀ cs ws body txn output, Libra.toyWrite.execute cs ws body txn = .ok output →
      (output.writeSet.map Prod.fst).Nodup) ∧
    ∃ ch, Reachable (Init AddressCodec.raw) (Next AddressCodec.raw Hashing.zero Libra.toyWrite) ch ∧
      ch.stm.canAutoSignPendingProposal Libra.toyWrite
          ⟨⟨⟨0, [0], 1, .action [0] "M" "g", [], [1], 1, .fromSecs 0⟩, [1], [1, 1]⟩,
            ⟨[(⟨[0], [3]⟩, .value [9])], [], 0, 0, false⟩, .empty, .negotiating⟩ = true ∧
      ∀ w ∈ ([(⟨[0], [3]⟩, .value [9])] : WriteSet),
        Libra.toyWrite.participantOf w.1 = some ch.accountAddress →
          ch.stm.witness.data.writeSet.get w.1 = some w.2 ∧
          accessLocal ch.stm.witness.data.writeSet ch.stm.channelState w.1 = .ok w.2.value? :=
  have hvm : ∀ cs ws body txn output, Libra.toyWrite.execute cs ws body txn = .ok output →
      (output.writeSet.map Prod.fst).Nodup := fun _ _ _ _ _ h => by
    cases h
    decide
  have hreach : Reachable (Init AddressCodec.raw) (Next AddressCodec.raw Hashing.zero Libra.toyWrite) _ :=
    .step (.step (.step (.init ⟨SortedMap.ofList [([1], ()), ([2], ())], [0], [2], ⟨[2], [2]⟩, rfl⟩)
      ⟨.collectProposalWithSigs ⟨⟨0, [0], 0, .action [0] "M" "f", [], [1], 0, .fromSecs 0⟩, [1],
          [1, 1]⟩ ⟨[1], [1], [1], [], [1], none⟩, .ok (), rfl, fun _ h => by cases h⟩)
      ⟨.grantProposal [1], .ok (), rfl, fun _ h => by cases h⟩)
      ⟨.applyPendingTxn 0 (.ok ()), .ok (), rfl, fun _ h => by cases h⟩
  ⟨hvm, _, hreach, rfl, @autoSign_reads_unchanged AddressCodec.raw Hashing.zero Libra.toyWrite hvm _
    hreach ⟨⟨⟨0, [0], 1, .action [0] "M" "g", [], [1], 1, .fromSecs 0⟩, [1], [1, 1]⟩,
      ⟨[(⟨[0], [3]⟩, .value [9])], [], 0, 0, false⟩, .empty, .negotiating⟩ rfl⟩

/-! ### Signatures after travel, and from outside the channel -/

/-- Two runs of a two-party channel over participants `[1]` and `[2]`. In the first, `[1]` executes
a proposal and sends it on chain (`ApplyPendingTxn` on a transaction still `Negotiating`, what
`force_travel_txn` does) before `[2]` signs; the honest signatures of `[2]` then reach the
`unreachable!()` of `handle_proposal_signature` and the actor panics. In the second, a
keypair `[3]` outside the channel signs `[1]`'s proposal; `verify_txn_sigs` checks the key and
not the address, so the pending transaction holds a signature keyed by `[3]`. -/
theorem signature_after_travel_unreachable :
    (∃ ch₀ ch₁ ch₂ : Channel, ∃ p : PendingTransaction, ∃ sigs : ChannelTransactionSigs,
      Init AddressCodec.raw ch₀ ∧
      Step AddressCodec.raw Hashing.zero Libra.toy ch₀ (.execute ⟨0, some 0, 0⟩ .open []) ch₁ ∧
      Step AddressCodec.raw Hashing.zero Libra.toy ch₁ (.applyPendingTxn 0 (.ok ())) ch₂ ∧
      ch₂.pendingTxn = some p ∧ p.lifecycle = .traveling ∧
      ch₂.stm.participantAddresses.contains [2] = true ∧ p.signatures.contains [2] = false ∧
      (ChannelStm.new ch₂.stm.channelAddress [2] ch₂.stm.participantAddresses
          ⟨[2], [2]⟩).generateTxnSigs Libra.toy p.proposal.channelTxn p.output = .ok sigs ∧
      run (handle AddressCodec.raw Hashing.zero Libra.toy
          (.collectProposalWithSigs p.proposal sigs)) ch₂ =
        (.error (.panic "internal error: entered unreachable code"), ch₂)) ∧
    ∃ ch₀ ch₁ ch₂ : Channel, ∃ p q : PendingTransaction, ∃ sigs : ChannelTransactionSigs,
      Init AddressCodec.raw ch₀ ∧
      Step AddressCodec.raw Hashing.zero Libra.toy ch₀ (.execute ⟨0, some 0, 0⟩ .open []) ch₁ ∧
      ch₁.pendingTxn = some p ∧
      (ChannelStm.new ch₁.stm.channelAddress [3] ch₁.stm.participantAddresses
          ⟨[3], [3]⟩).generateTxnSigs Libra.toy p.proposal.channelTxn p.output = .ok sigs ∧
      Step AddressCodec.raw Hashing.zero Libra.toy ch₁ (.collectProposalWithSigs p.proposal sigs)
        ch₂ ∧
      ch₂.pendingTxn = some q ∧ q.signatures.contains [3] = true ∧
      ch₂.stm.participantAddresses.contains [3] = false :=
  ⟨⟨_, _, _, _, _, ⟨SortedMap.ofList [([1], ()), ([2], ())], [0], [1], ⟨[1], [1]⟩, rfl⟩,
    ⟨.ok (), rfl, fun _ h => by cases h⟩, ⟨.ok (), rfl, fun _ h => by cases h⟩,
    rfl, rfl, rfl, rfl, rfl, rfl⟩,
    ⟨_, _, _, _, _, _, ⟨SortedMap.ofList [([1], ()), ([2], ())], [0], [1], ⟨[1], [1]⟩, rfl⟩,
      ⟨.ok (), rfl, fun _ h => by cases h⟩, rfl, rfl, ⟨.ok (), rfl, fun _ h => by cases h⟩,
      rfl, rfl, rfl⟩⟩

end Channel
