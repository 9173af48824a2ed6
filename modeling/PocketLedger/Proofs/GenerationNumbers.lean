import PocketLedger.Proofs.Registration
import PocketLedger.Proofs.SessionChain
import PocketLedger.Proofs.TransactionIdentity

/-!
# The numbers of generation transactions

A session counts its generation transactions when they are begun, so the count goes up by one
with each of them and with nothing else, whatever becomes of them. The number is in the marker,
the marker in the content, and the content tells the transaction. No two of one session are
therefore alike, not even for the same owner.
-/

namespace PocketLedger

/-- Transactions of different contents have different ids, unless the contents collide. -/
theorem Transaction.id_ne_or_collision {left right : Transaction}
    (contents : left.content ≠ right.content) : left.id ≠ right.id ∨
      Digest.Collision (Digest.message left.content) (Digest.message right.content) := by
  by_cases ids : left.id = right.id
  · right
    apply ((id_eq_iff left right).mp ids).resolve_left
    exact fun same => contents (congrArg content same)
  · exact .inl ids

/-- A generation transaction is one more than all that were begun before it. -/
theorem Operation.countP_generates_lt {operations : List Operation} {earlier later : Nat}
    (before : earlier < later) {operation : Operation}
    (there : operations[earlier]? = some operation) (generates : operation.generates = true) :
    (operations.take earlier).countP Operation.generates <
      (operations.take later).countP Operation.generates := by
  have next : (operations.take (earlier + 1)).countP Operation.generates =
      (operations.take earlier).countP Operation.generates + 1 := by
    rw [List.take_add_one, there, List.countP_append]
    simp [generates]
  have upTo : (operations.take (earlier + 1)).Sublist (operations.take later) :=
    (List.take_prefix_take_left before).sublist
  calc (operations.take earlier).countP Operation.generates
    _ < (operations.take (earlier + 1)).countP Operation.generates := by omega
    _ ≤ (operations.take later).countP Operation.generates := upTo.countP_le

namespace Session

/-! ## The transactions -/

/-- What the next generation transaction of a run is. -/
theorem nextGeneration_performAll (config : SessionConfig) (operations : List Operation)
    (owner : Owner) :
    ((start config).performAll operations).nextGeneration owner = ⟨Transaction.currentVersion,
      [⟨OutPoint.null, marker (operations.countP Operation.generates + 1), Input.finalSequence⟩],
      [⟨config.reward, owner⟩], 0⟩ := by
  rw [nextGeneration, performAll_generations, performAll_config]
  simp only [start, Nat.zero_add]

/-- Generation transactions of different numbers have different contents. -/
theorem nextGeneration_content_ne {left right : Session}
    (numbers : left.generations ≠ right.generations) (leftOwner rightOwner : Owner) :
    (left.nextGeneration leftOwner).content ≠ (right.nextGeneration rightOwner).content := by
  intro same
  have inputs := congrArg Transaction.inputs (Transaction.content_injective same)
  have markers := congrArg Input.unlockingScript (List.cons.inj inputs).1
  exact numbers (Nat.succ.inj (marker_injective markers))

/-- The occurrences of generation transactions in a run. -/
theorem occurrence_of_generates {config : SessionConfig} {operations : List Operation}
    {position : Nat} {occurrence : Occurrence}
    (there : ((start config).occurrences operations)[position]? = some occurrence)
    (generates : occurrence.operation.generates = true) :
    operations[position]? = some occurrence.operation ∧
      occurrence.before.generations = (operations.take position).countP Operation.generates ∧
      ∃ owner, occurrence.built = [occurrence.before.nextGeneration owner] := by
  rw [getElem?_occurrences, Option.map_eq_some_iff] at there
  obtain ⟨operation, found, rfl⟩ := there
  refine ⟨found, ?_, ?_⟩
  · rw [performAll_generations]
    exact Nat.zero_add _
  · cases operation with
    | generation name owner => exact ⟨owner, built_generation _ name owner⟩
    | listen | add | ordinary | buildBlock | buildBlockOn | acceptBlock | newBlock =>
      cases generates

/-- Two generation transactions of a run were begun at different counts. -/
theorem generations_ne_of_position_ne {config : SessionConfig} {operations : List Operation}
    {position other : Nat} {left right : Occurrence} (distinct : position ≠ other)
    (leftThere : ((start config).occurrences operations)[position]? = some left)
    (rightThere : ((start config).occurrences operations)[other]? = some right)
    (leftGenerates : left.operation.generates = true)
    (rightGenerates : right.operation.generates = true) :
    left.before.generations ≠ right.before.generations := by
  obtain ⟨leftFound, leftNumber, _⟩ := occurrence_of_generates leftThere leftGenerates
  obtain ⟨rightFound, rightNumber, _⟩ := occurrence_of_generates rightThere rightGenerates
  rcases Nat.lt_or_gt_of_ne distinct with before | after
  · have lower := Operation.countP_generates_lt before leftFound leftGenerates
    omega
  · have lower := Operation.countP_generates_lt after rightFound rightGenerates
    omega

/-- A generation transaction that succeeds is the next one of its session. -/
theorem eq_of_generation_ok {session : Session} {name : String} {owner : Owner}
    {named : NamedTransaction} (succeeded : (session.generation name owner).result = .ok named) :
    named = ⟨name, session.nextGeneration owner⟩ := by
  rw [generation_eq] at succeeded
  revert succeeded
  cases (add _ _).result with
  | error error => nofun
  | ok value => exact fun succeeded => (Except.ok.inj succeeded).symm

/-- In every run the generation transactions are numbered in order, those that come to nothing
included, and each number is a word if there are fewer than `2 ^ 64` of them. Each has the null
outpoint as its only input, with the number in the marker, and pays the reward to the given owner
only. Any two have different contents, and different ids unless these contents collide. -/
theorem generations_told_apart (config : SessionConfig) (operations : List Operation) :
    let run := (start config).occurrences operations
    (∀ position before name owner, run[position]? = some ⟨before, .generation name owner⟩ →
      let number := (operations.take position).countP Operation.generates + 1
      let tx : Transaction := ⟨1, [⟨OutPoint.null, marker number, Input.finalSequence⟩],
        [⟨config.reward, owner⟩], 0⟩
      (operations.countP Operation.generates < UInt64.size → number < UInt64.size) ∧
        Occurrence.built ⟨before, .generation name owner⟩ = [tx] ∧
        ∀ named, (before.generation name owner).result = .ok named → named = ⟨name, tx⟩) ∧
    ∀ (position other : Nat) (left right : Occurrence), position ≠ other →
      run[position]? = some left → run[other]? = some right →
      left.operation.generates = true → right.operation.generates = true →
      ∀ tx ∈ left.built, ∀ another ∈ right.built, tx.content ≠ another.content ∧
        (tx.id ≠ another.id ∨
          Digest.Collision (Digest.message tx.content) (Digest.message another.content)) := by
  intro run
  constructor
  · intro position before name owner there number tx
    rw [getElem?_occurrences, Option.map_eq_some_iff] at there
    obtain ⟨operation, found, same⟩ := there
    cases same
    have next : nextGeneration _ owner = tx :=
      nextGeneration_performAll config (operations.take position) owner
    refine ⟨?_, ?_, ?_⟩
    · intro few
      have atMost := Operation.countP_generates_lt (List.getElem?_eq_some_iff.mp found).1 found rfl
      rw [List.take_length] at atMost
      omega
    · rw [built_generation, next]
    · intro named succeeded
      rw [← next]
      exact eq_of_generation_ok succeeded
  · intro position other left right distinct leftThere rightThere leftGenerates rightGenerates
    have numbers :=
      generations_ne_of_position_ne distinct leftThere rightThere leftGenerates rightGenerates
    obtain ⟨_, _, leftOwner, leftBuilt⟩ := occurrence_of_generates leftThere leftGenerates
    obtain ⟨_, _, rightOwner, rightBuilt⟩ := occurrence_of_generates rightThere rightGenerates
    intro tx mem another anotherMem
    rw [leftBuilt, List.mem_singleton] at mem
    rw [rightBuilt, List.mem_singleton] at anotherMem
    subst mem anotherMem
    have contents := nextGeneration_content_ne numbers leftOwner rightOwner
    exact ⟨contents, Transaction.id_ne_or_collision contents⟩

/-- A generation transaction fails, since it was registered before it was made, and the next one
is told apart from it. -/
theorem generations_told_apart_after_failure :
    let owner := Owner.address "o"
    let made := (start .default).nextGeneration owner
    let operations : List Operation :=
      [.add ⟨"x", made⟩, .generation "a" owner, .generation "b" owner]
    ∃ failing next : Occurrence, ((start .default).occurrences operations)[1]? = some failing ∧
      ((start .default).occurrences operations)[2]? = some next ∧
      failing.step.result = .error (.unspent (.duplicate ⟨made.id, 0⟩)) ∧
      ∀ tx ∈ failing.built, ∀ another ∈ next.built, tx.content ≠ another.content := by
  intro owner made operations
  let failing : Occurrence :=
    ⟨(start .default).performAll [.add ⟨"x", made⟩], .generation "a" owner⟩
  let next : Occurrence := ⟨(start .default).performAll
    [.add ⟨"x", made⟩, .generation "a" owner], .generation "b" owner⟩
  have first : ((start .default).occurrences operations)[1]? = some failing :=
    getElem?_occurrences _ operations 1
  have second : ((start .default).occurrences operations)[2]? = some next :=
    getElem?_occurrences _ operations 2
  have again : failing.before.nextGeneration owner = made :=
    nextGeneration_performAll .default [.add ⟨"x", made⟩] owner
  have added : (Unspent.empty.addOutputs made).result = .ok () :=
    (Unspent.addOutputs_ok_iff _ _).mpr ⟨by decide, fun _ _ => Unspent.get?_empty _⟩
  have unspent : failing.before.unspent = (Unspent.empty.addOutputs made).state :=
    add_unspent (start .default) ⟨"x", made⟩
  have present : (failing.before.unspent.get? ⟨made.id, 0⟩).isSome := by
    rw [unspent]
    exact Unspent.isSome_of_addOutputs_ok added Nat.zero_lt_one
  have refused : (failing.before.counted.unspent.addOutputs made).result =
      .error (.duplicate ⟨made.id, 0⟩) := by
    obtain ⟨_, _, adds⟩ := failing.before.unspent.exists_addsUpTo made
    have bound : (0 : UInt32).toNat < made.outputs.length := Nat.zero_lt_one
    exact (adds.stops_at_least bound present fun _ below => absurd below UInt32.not_lt_zero).2
  refine ⟨failing, next, first, second, ?_, ?_⟩
  · have failed := add_result_of_error failing.before.counted ⟨"a", made⟩ refused
    rw [Occurrence.step, perform_generation, again, failed]
    rfl
  · intro tx mem another anotherMem
    exact ((generations_told_apart .default operations).2 1 2 failing next (by decide) first second
      rfl rfl tx mem another anotherMem).1

end Session
end PocketLedger
