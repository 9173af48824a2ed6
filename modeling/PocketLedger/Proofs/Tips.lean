import PocketLedger.Proofs.HeaderIdentity
import PocketLedger.Proofs.SessionChain
import Mathlib.Data.List.Nodup

/-!
# Tips never come back

Nothing is looked up before a block is accepted: it only has to name the tip. Yet no block is
accepted twice and no tip comes back. Two blocks of one id and one version name one previous
block, so a tip that repeats makes the tip before it repeat, and so on back to the genesis.
-/

namespace PocketLedger

/-! ## Histories -/

namespace Chain

/-- Accepted blocks whose ids can be told apart: they have one version, their headers do not
collide, and none has the id of the genesis. -/
structure ToldApart (genesis : Digest) (history : List PlacedBlock) : Prop where
  one_version : ∀ left ∈ history, ∀ right ∈ history,
    left.block.header.version = right.block.header.version
  collision_free : ∀ left ∈ history, ∀ right ∈ history, ¬ Digest.Collision
    (Digest.message left.block.header.content) (Digest.message right.block.header.content)
  genesis_apart : ∀ placed ∈ history, placed.block.id ≠ genesis

/-- The tips that a history went through, the genesis first. -/
def tips (genesis : Digest) (history : List PlacedBlock) : List Digest :=
  genesis :: history.map fun placed => placed.block.id

namespace ToldApart

variable {genesis : Digest} {history : List PlacedBlock}

theorem mono (apart : ToldApart genesis history) {part : List PlacedBlock}
    (subset : part ⊆ history) : ToldApart genesis part where
  one_version left leftMem right rightMem :=
    apart.one_version left (subset leftMem) right (subset rightMem)
  collision_free left leftMem right rightMem :=
    apart.collision_free left (subset leftMem) right (subset rightMem)
  genesis_apart placed mem := apart.genesis_apart placed (subset mem)

/-- Blocks of one id are on the same block. -/
theorem previous_eq (apart : ToldApart genesis history) {left right : PlacedBlock}
    (leftMem : left ∈ history) (rightMem : right ∈ history)
    (ids : left.block.id = right.block.id) :
    left.block.header.previous = right.block.header.previous := by
  have contents : left.block.header.content = right.block.header.content :=
    ((Digest.ofContent_eq_iff _ _).mp ids).resolve_right
      (apart.collision_free left leftMem right rightMem)
  exact ((Header.content_eq_iff_of_version
    (apart.one_version left leftMem right rightMem)).mp contents).1

end ToldApart

/-- The tip after a block. -/
theorem tipAfter_take_succ {history : List PlacedBlock} {position : Nat} {placed : PlacedBlock}
    (there : history[position]? = some placed) (genesis : Digest) :
    tipAfter genesis (history.take (position + 1)) = placed.block.id := by
  rw [List.take_add_one, there]
  exact tipAfter_concat genesis _ placed

theorem getElem?_tips {history : List PlacedBlock} {position : Nat}
    (bound : position ≤ history.length) (genesis : Digest) :
    (tips genesis history)[position]? = some (tipAfter genesis (history.take position)) := by
  cases position with
  | zero => rfl
  | succ position =>
    have there : history[position]? = some history[position] := List.getElem?_eq_getElem bound
    rw [tips, List.getElem?_cons_succ, List.getElem?_map, there, tipAfter_take_succ there]
    rfl

namespace Holds

variable {genesisHeight : UInt64} {genesis : Digest} {history : List PlacedBlock} {chain : Chain}

/-- A later tip differs from an earlier one. The induction is on the earlier: two equal tips
above the genesis have blocks on equal tips. -/
theorem tipAfter_ne (holds : Holds genesisHeight genesis history chain)
    (apart : ToldApart genesis history) {earlier later : Nat} (order : earlier < later)
    (bound : later ≤ history.length) :
    tipAfter genesis (history.take earlier) ≠ tipAfter genesis (history.take later) := by
  induction earlier generalizing later with
  | zero =>
    obtain ⟨before, rfl⟩ : ∃ before, later = before + 1 := ⟨later - 1, by omega⟩
    have there : history[before]? = some history[before] := List.getElem?_eq_getElem bound
    rw [tipAfter_take_succ there]
    exact (apart.genesis_apart _ (List.getElem_mem _)).symm
  | succ earlier ih =>
    obtain ⟨before, rfl⟩ : ∃ before, later = before + 1 := ⟨later - 1, by omega⟩
    have left : history[earlier]? = some history[earlier] := List.getElem?_eq_getElem (by omega)
    have right : history[before]? = some history[before] := List.getElem?_eq_getElem bound
    rw [tipAfter_take_succ left, tipAfter_take_succ right]
    intro ids
    have previous := apart.previous_eq (List.getElem_mem _) (List.getElem_mem _) ids
    rw [holds.previous_at earlier _ left, holds.previous_at before _ right] at previous
    exact ih (by omega) (by omega) previous

/-- No tip comes back. -/
theorem nodup_tips (holds : Holds genesisHeight genesis history chain)
    (apart : ToldApart genesis history) : (tips genesis history).Nodup := by
  rw [List.nodup_iff_getElem?_ne_getElem?]
  intro earlier later order bound
  have within : later ≤ history.length := by
    simpa [tips, Nat.lt_succ_iff] using bound
  rw [getElem?_tips within, getElem?_tips (by omega)]
  exact fun same => holds.tipAfter_ne apart order within (Option.some.inj same)

/-- What an accepted block is on is the tip no more. -/
theorem previous_ne_tip (holds : Holds genesisHeight genesis history chain)
    (apart : ToldApart genesis history) {placed : PlacedBlock} (mem : placed ∈ history) :
    placed.block.header.previous ≠ chain.tip := by
  obtain ⟨position, there⟩ := List.mem_iff_getElem?.mp mem
  have bound : position < history.length := (List.getElem?_eq_some_iff.mp there).1
  have tip : chain.tip = tipAfter genesis (history.take history.length) := by
    rw [List.take_length]
    exact holds.tip_eq
  rw [holds.previous_at position placed there, tip]
  exact holds.tipAfter_ne apart bound (Nat.le_refl _)

/-- An accepted block is found by its id. -/
theorem blockById?_of_mem (holds : Holds genesisHeight genesis history chain)
    (apart : ToldApart genesis history) {placed : PlacedBlock} (mem : placed ∈ history) :
    chain.blockById? placed.block.id = some placed := by
  obtain ⟨position, there⟩ := List.mem_iff_getElem?.mp mem
  refine (holds.blockById?_eq_some_iff _ _).mpr ⟨position, ⟨⟨placed, there, rfl⟩, ?_⟩, there⟩
  intro later other after found ids
  have bound : later < history.length := (List.getElem?_eq_some_iff.mp found).1
  refine holds.tipAfter_ne apart (Nat.succ_lt_succ after) bound ?_
  rw [tipAfter_take_succ there, tipAfter_take_succ found, ids]

end Holds
end Chain

/-! ## Runs -/

namespace Session

/-- In a run that accepts blocks which can be told apart, no tip comes back and no block is
accepted twice. At every moment an accepted block is found by its id, at its height, and any
block beside it, on what it is on, is refused for not being on the tip. What the session builds
itself has one version at every moment. -/
theorem tips_never_repeat (config : SessionConfig) (operations : List Operation)
    (apart : Chain.ToldApart config.genesis
      (acceptedIn ((start config).occurrences operations))) :
    let accepted := acceptedIn ((start config).occurrences operations)
    (Chain.tips config.genesis accepted).Nodup ∧
      (accepted.map PlacedBlock.block).Nodup ∧
      ∀ earlier, earlier <+: operations →
        let session := (start config).performAll earlier
        let acceptedBefore := acceptedIn ((start config).occurrences earlier)
        session.chain.tip = Chain.tipAfter config.genesis acceptedBefore ∧
          (∀ now previous transactions block,
            session.buildBlockOn now previous transactions = .ok block →
              block.header.version = config.blockVersion) ∧
          ∀ placed ∈ acceptedBefore,
            session.chain.blockById? placed.block.id = some placed ∧
              ∀ block : Block, block.header.previous = placed.block.header.previous →
                session.acceptBlock block = .failed session
                  (.block (.notOnTip session.chain.tip block.header.previous)) := by
  intro accepted
  have nodup : (Chain.tips config.genesis accepted).Nodup :=
    (chain_holds config operations).nodup_tips apart
  refine ⟨nodup, ?_, ?_⟩
  · have ids : (accepted.map fun placed => placed.block.id).Nodup := (List.nodup_cons.mp nodup).2
    refine List.Nodup.of_map Block.id ?_
    rw [List.map_map]
    exact ids
  · intro earlier moment session acceptedBefore
    have holds := chain_holds config earlier
    have apartBefore := apart.mono (acceptedIn_subset moment (start config))
    refine ⟨holds.tip_eq, ?_, ?_⟩
    · intro now previous transactions block built
      rw [version_of_buildBlockOn built]
      exact congrArg SessionConfig.blockVersion (performAll_config (start config) earlier)
    · intro placed mem
      refine ⟨holds.blockById?_of_mem apartBefore mem, fun block beside => ?_⟩
      apply acceptBlock_of_offTip
      rw [beside]
      exact holds.previous_ne_tip apartBefore mem

/-- The ids of two blocks, the second on the first, and of the zero genesis. -/
theorem ids_from_zero_differ :
    [Digest.zero, Header.id ⟨4, Digest.zero, Digest.zero, 0, 0, 0⟩,
      Header.id ⟨4, Header.id ⟨4, Digest.zero, Digest.zero, 0, 0, 0⟩, Digest.zero, 0, 0, 0⟩].Nodup := by
  decide +kernel

/-- Two blocks on each other, a block beside the first and the first once more. -/
theorem tips_never_repeat_beside_and_again :
    let first : Block := ⟨⟨4, Digest.zero, Digest.zero, 0, 0, 0⟩, []⟩
    let beside : Block := ⟨⟨4, Digest.zero, Digest.zero, 0, 0, 1⟩, []⟩
    let second : Block := ⟨⟨4, first.id, Digest.zero, 0, 0, 0⟩, []⟩
    let operations : List Operation :=
      [.acceptBlock first, .acceptBlock beside, .acceptBlock second, .acceptBlock first]
    Chain.ToldApart Digest.zero (acceptedIn ((start .default).occurrences operations)) ∧
      acceptedIn ((start .default).occurrences operations) = [⟨1, first⟩, ⟨2, second⟩] ∧
      [Digest.zero, first.id, second.id].Nodup ∧
      (∀ placed ∈ [⟨1, first⟩, ⟨2, second⟩],
        ((start .default).performAll operations).chain.blockById? placed.block.id = some placed) ∧
      ∃ tip, ((start .default).performAll operations).acceptBlock beside =
        .failed ((start .default).performAll operations) (.block (.notOnTip tip Digest.zero)) := by
  intro first beside second operations
  have ids : [Digest.zero, first.id, second.id].Nodup := ids_from_zero_differ
  have notFirst : Digest.zero ≠ first.id := by simp_all
  have notSecond : Digest.zero ≠ second.id := by simp_all
  have differ : first.id ≠ second.id := by simp_all
  have accepted : acceptedIn ((start .default).occurrences operations) =
      [⟨1, first⟩, ⟨2, second⟩] := by
    rw [acceptedIn_of_onTip rfl (by decide),
      acceptedIn_of_offTip (by rw [extended_tip]; exact notFirst),
      acceptedIn_of_onTip (by rw [extended_tip]) (by decide),
      acceptedIn_of_offTip (by rw [extended_tip]; exact notSecond)]
    rfl
  have apart : Chain.ToldApart Digest.zero
      (acceptedIn ((start .default).occurrences operations)) := by
    rw [accepted]
    constructor
    case one_version => simp [first, second]
    case collision_free =>
      simp only [List.mem_cons, List.not_mem_nil, or_false, forall_eq_or_imp, forall_eq]
      exact ⟨⟨fun same => same.1 rfl, fun same => differ same.2⟩,
        fun same => differ same.2.symm, fun same => same.1 rfl⟩
    case genesis_apart => simp [notFirst.symm, notSecond.symm]
  obtain ⟨nodup, _, moments⟩ := tips_never_repeat .default operations apart
  obtain ⟨_, _, found⟩ := moments operations (List.prefix_refl operations)
  rw [accepted] at found nodup
  exact ⟨apart, accepted, nodup, fun placed mem => (found placed mem).1,
    _, (found ⟨1, first⟩ List.mem_cons_self).2 beside rfl⟩

end Session
end PocketLedger
