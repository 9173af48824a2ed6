import Mathlib.Data.Finset.Card
import PocketLedger.Proofs.SessionOutputs
import PocketLedger.Proofs.SessionChain

/-!
# The transactions that a session knows

Two paths lead into the table of transactions: registering a transaction, and accepting a block
with it. Both overwrite what is there under the id. The table always holds the latest of the
transactions that came with an id, and nothing is ever taken out of it; that an earlier one is
replaced shows only if the contents of two of them collide.
-/

namespace PocketLedger

/-! ## What an operation makes known -/

namespace Occurrence

/-- The transactions that became known: the one that was registered, and those of the block that
was accepted, in order. -/
def learned (occurrence : Occurrence) : List Transaction :=
  occurrence.registered ++ occurrence.accepted.flatMap fun placed => placed.block.transactions

/-- An operation that fails makes nothing known. -/
theorem learned_of_failed {occurrence : Occurrence} {error : SessionError}
    (failed : occurrence.step.result = .error error) : occurrence.learned = [] := by
  rw [learned, registered_of_failed failed, accepted_of_failed failed]
  rfl

/-- The table holds the latest of what became known, and what it held before under all other
ids. -/
theorem Effect.transaction?_eq {occurrence : Occurrence} (effect : occurrence.Effect)
    (id : Digest) :
    occurrence.step.state.chain.transaction? id =
      (occurrence.learned.reverse.find? fun tx => tx.id = id).or
        (occurrence.before.chain.transaction? id) := by
  cases effect with
  | quiet _ _ registered accepted chain => simp [learned, registered, accepted, chain]
  | listens listener operation =>
    obtain ⟨session, _⟩ := occurrence
    cases operation
    rfl
  | registers tx _ _ registered accepted chain =>
    rw [chain, Chain.transaction?_register, learned, registered, accepted]
    by_cases same : tx.id = id
    · simp [same]
    · simp [same]
  | accepts block height _ _ registered accepted _ _ chain =>
    rw [chain, Chain.transaction?_extend, learned, registered, accepted]
    simp

end Occurrence

/-! ## Runs -/

/-- The transactions that became known in a run, in order. -/
def learnedIn (run : List Occurrence) : List Transaction := run.flatMap Occurrence.learned

@[simp]
theorem learnedIn_concat (run : List Occurrence) (last : Occurrence) :
    learnedIn (run ++ [last]) = learnedIn run ++ last.learned := by
  simp [learnedIn]

namespace Session

/-- The table of a session holds the latest of what became known in its run. -/
theorem transaction?_performAll (config : SessionConfig) (operations : List Operation)
    (id : Digest) :
    ((start config).performAll operations).chain.transaction? id =
      (learnedIn ((start config).occurrences operations)).reverse.find? fun tx => tx.id = id := by
  induction operations using List.reverseRecOn with
  | nil => simp [start, Chain.start, Chain.transaction?, learnedIn, occurrences, performAll]
  | append_singleton operations last ih =>
    have step := (Occurrence.effect ⟨(start config).performAll operations, last⟩).transaction?_eq id
    rw [ih] at step
    rw [performAll_concat, occurrences_concat, learnedIn_concat, List.reverse_append,
      List.find?_append]
    exact step

/-- What is known by some moment of a run is part of what is known after it. -/
theorem learnedIn_subset {earlier operations : List Operation} (moment : earlier <+: operations)
    (session : Session) :
    learnedIn (session.occurrences earlier) ⊆ learnedIn (session.occurrences operations) := by
  obtain ⟨later, rfl⟩ := moment
  rw [occurrences_append, learnedIn, learnedIn, List.flatMap_append]
  exact List.subset_append_left _ _

/-- An id is known exactly if a transaction with it became known. -/
theorem isSome_transaction?_iff (config : SessionConfig) (operations : List Operation)
    (id : Digest) :
    (((start config).performAll operations).chain.transaction? id).isSome ↔
      ∃ tx ∈ learnedIn ((start config).occurrences operations), tx.id = id := by
  rw [transaction?_performAll, List.find?_isSome]
  simp

/-- What is known under an id became known and has the id. -/
theorem learned_of_transaction? {config : SessionConfig} {operations : List Operation}
    {id : Digest} {tx : Transaction}
    (known : ((start config).performAll operations).chain.transaction? id = some tx) :
    tx ∈ learnedIn ((start config).occurrences operations) ∧ tx.id = id := by
  rw [transaction?_performAll] at known
  have mem := List.mem_of_find?_eq_some known
  exact ⟨List.mem_reverse.mp mem, by simpa using List.find?_some known⟩

/-- The table has one entry for each id that became known. -/
theorem transactionCount_performAll (config : SessionConfig) (operations : List Operation) :
    ((start config).performAll operations).chain.transactionCount =
      ((learnedIn ((start config).occurrences operations)).map Transaction.id).toFinset.card := by
  have keys : ((learnedIn ((start config).occurrences operations)).map Transaction.id).toFinset =
      ((start config).performAll operations).chain.transactions.keys.toFinset := by
    ext id
    rw [List.mem_toFinset, List.mem_toFinset, Std.ExtTreeMap.mem_keys,
      Std.ExtTreeMap.mem_iff_isSome_getElem?, List.mem_map]
    exact (isSome_transaction?_iff config operations id).symm
  rw [keys, List.toFinset_card_of_nodup Std.ExtTreeMap.nodup_keys, Std.ExtTreeMap.length_keys]
  rfl

/-- After any run, an id is known exactly if a transaction with it was registered or came in an
accepted block. What is known under an id is one of these transactions, and equal to every other
of them that it does not collide with. What is known stays known, each id counts once, and
operations that fail add nothing. -/
theorem table_knows_registered_and_accepted (config : SessionConfig)
    (operations : List Operation) :
    let run := (start config).occurrences operations
    let session := (start config).performAll operations
    (∀ id, (session.chain.transaction? id).isSome ↔ ∃ tx ∈ learnedIn run, tx.id = id) ∧
    (∀ id tx, session.chain.transaction? id = some tx →
      tx ∈ learnedIn run ∧ tx.id = id ∧
        ∀ other ∈ learnedIn run, other.id = id →
          ¬ Digest.Collision (Digest.message tx.content) (Digest.message other.content) →
            tx = other) ∧
    (∀ earlier, earlier <+: operations → ∀ id,
      (((start config).performAll earlier).chain.transaction? id).isSome →
        (session.chain.transaction? id).isSome) ∧
    session.chain.transactionCount = ((learnedIn run).map Transaction.id).toFinset.card ∧
    ∀ occurrence ∈ run, ∀ error, occurrence.step.result = .error error →
      occurrence.learned = [] ∧
        occurrence.step.state.chain.transactions = occurrence.before.chain.transactions := by
  intro run session
  refine ⟨isSome_transaction?_iff config operations, ?_, ?_,
    transactionCount_performAll config operations, ?_⟩
  · intro id tx known
    obtain ⟨learned, ofId⟩ := learned_of_transaction? known
    refine ⟨learned, ofId, ?_⟩
    intro other _ otherId apart
    exact ((Transaction.id_eq_iff tx other).mp (ofId.trans otherId.symm)).resolve_right apart
  · intro earlier moment id known
    obtain ⟨tx, learned, ofId⟩ := (isSome_transaction?_iff config earlier id).mp known
    exact (isSome_transaction?_iff config operations id).mpr
      ⟨tx, learnedIn_subset moment (start config) learned, ofId⟩
  · intro occurrence _ error failed
    exact ⟨Occurrence.learned_of_failed failed,
      congrArg Chain.transactions (occurrence.effect.unchanged_of_failed failed).1⟩

/-- A transaction that is registered and then comes in a block, after a block that is refused,
beside one that is never registered and comes twice. -/
theorem table_knows_registered_and_accepted_twice :
    let owner := Owner.address "o"
    let made := (start .default).nextGeneration owner
    let other := (start .default).counted.nextGeneration owner
    let block : Block :=
      ⟨⟨Block.defaultVersion, Digest.zero, Digest.zero, 7, 0, 0⟩, [other, made, other]⟩
    let operations : List Operation :=
      [.generation "a" owner, .newBlock 7 [], .acceptBlock block]
    ((start .default).performAll operations).chain.transaction? made.id = some made ∧
      (((start .default).performAll operations).chain.transaction? other.id).isSome ∧
      ((start .default).performAll operations).chain.transactionCount = 2 := by
  intro owner made other block operations
  have differ : made.id ≠ other.id := first_generations_differ
  have learned : learnedIn ((start .default).occurrences operations) =
      [made, other, made, other] := rfl
  obtain ⟨known, identified, _, count, _⟩ := table_knows_registered_and_accepted .default operations
  rw [learned] at known identified count
  refine ⟨?_, (known other.id).mpr ⟨other, by simp, rfl⟩, ?_⟩
  · obtain ⟨tx, found⟩ := Option.isSome_iff_exists.mp ((known made.id).mpr ⟨made, by simp, rfl⟩)
    obtain ⟨mem, ofId, same⟩ := identified made.id tx found
    have apart : ¬ Digest.Collision (Digest.message tx.content) (Digest.message made.content) := by
      have either : tx = made ∨ tx = other := by grind
      rcases either with rfl | rfl
      · exact fun collision => collision.1 rfl
      · exact absurd ofId.symm differ
    rw [found, same made (by simp) rfl apart]
  · rw [count]
    simp [differ]

end Session
end PocketLedger
