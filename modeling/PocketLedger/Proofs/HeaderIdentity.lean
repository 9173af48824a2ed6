import PocketLedger.Block.Basic
import PocketLedger.Proofs.Digest

/-!
# What a block id says about the header

The content of a header runs its six fields together. The digests in it have a fixed width, but
nothing marks the end of the version, of the timestamp and of the target, so one text can be
cut into fields in more than one way. `Header.Recut` lists the ways in which two headers come
to share a content; any other two headers with one id collide.
-/

namespace PocketLedger.Header

open Text (outline)

/-- The digits of the timestamp, the target and the nonce, run together. -/
def figures (header : Header) : List Char :=
  outline header.timestamp ++ outline header.target ++ outline header.nonce

/-- The content after the version. -/
def afterVersion (header : Header) : List Char :=
  header.previous.hex ++ (header.merkleRoot.hex ++ header.figures)

/-- One content, cut into fields in two ways. -/
inductive Recut (left right : Header) : Prop where
  /-- Digits move between the numbers at the end. -/
  | figures (version : left.version = right.version) (previous : left.previous = right.previous)
      (merkleRoot : left.merkleRoot = right.merkleRoot) (figures : left.figures = right.figures)
      (widths : (outline left.timestamp).length ≠ (outline right.timestamp).length ∨
        (outline left.target).length ≠ (outline right.target).length)
  /-- Digits move into the version, and everything after it moves up. -/
  | intoVersion (moved : List Char) (someMoved : moved ≠ [])
      (version : outline right.version = outline left.version ++ moved)
      (afterVersion : left.afterVersion = moved ++ right.afterVersion)
  /-- Digits move out of the version. -/
  | outOfVersion (moved : List Char) (someMoved : moved ≠ [])
      (version : outline left.version = outline right.version ++ moved)
      (afterVersion : right.afterVersion = moved ++ left.afterVersion)

theorem content_eq (header : Header) :
    header.content = outline header.version ++ header.afterVersion := by
  simp [content, afterVersion, figures]

/-- What follows the version is read back, up to the digits at the end. -/
theorem afterVersion_eq_iff (left right : Header) :
    left.afterVersion = right.afterVersion ↔ left.previous = right.previous ∧
      left.merkleRoot = right.merkleRoot ∧ left.figures = right.figures := by
  constructor
  · intro same
    obtain ⟨previous, afterPrevious⟩ := Digest.hex_append_inj same
    obtain ⟨roots, figures⟩ := Digest.hex_append_inj afterPrevious
    exact ⟨previous, roots, figures⟩
  · rintro ⟨previous, roots, figures⟩
    rw [afterVersion, afterVersion, previous, roots, figures]

/-- Headers of one version have one content exactly if they agree in both digests and in the
digits at the end. -/
theorem content_eq_iff_of_version {left right : Header} (versions : left.version = right.version) :
    left.content = right.content ↔ left.previous = right.previous ∧
      left.merkleRoot = right.merkleRoot ∧ left.figures = right.figures := by
  rw [content_eq, content_eq, versions, List.append_cancel_left_eq, afterVersion_eq_iff]

/-- The digits at the end determine the numbers if the first two are as wide. -/
theorem numbers_eq_of_figures {left right : Header} (same : left.figures = right.figures)
    (timestampWidth : (outline left.timestamp).length = (outline right.timestamp).length)
    (targetWidth : (outline left.target).length = (outline right.target).length) :
    left.timestamp = right.timestamp ∧ left.target = right.target ∧ left.nonce = right.nonce := by
  unfold figures at same
  rw [List.append_assoc, List.append_assoc] at same
  obtain ⟨timestamps, afterTimestamp⟩ := List.append_inj same timestampWidth
  obtain ⟨targets, nonces⟩ := List.append_inj afterTimestamp targetWidth
  exact ⟨Text.outline_injective timestamps, Text.outline_injective targets,
    Text.outline_injective nonces⟩

/-- Headers of one version and one content are equal, or their last numbers are cut anew. -/
theorem eq_or_recut_of_version {left right : Header} (versions : left.version = right.version)
    (same : left.content = right.content) : left = right ∨ Recut left right := by
  obtain ⟨previous, roots, figures⟩ := (content_eq_iff_of_version versions).mp same
  by_cases widths : (outline left.timestamp).length = (outline right.timestamp).length ∧
      (outline left.target).length = (outline right.target).length
  · obtain ⟨timestamps, targets, nonces⟩ := numbers_eq_of_figures figures widths.1 widths.2
    left
    cases left; cases right
    simp_all
  · right
    exact .figures versions previous roots figures (Decidable.not_and_iff_not_or_not.mp widths)

/-- Headers share a content exactly if they are equal or one is a recut of the other. -/
theorem content_eq_iff_eq_or_recut (left right : Header) :
    left.content = right.content ↔ left = right ∨ Recut left right := by
  constructor
  · intro same
    have split := same
    rw [content_eq, content_eq, List.append_eq_append_iff] at split
    rcases split with ⟨moved, version, rest⟩ | ⟨moved, version, rest⟩
    · by_cases noneMoved : moved = []
      · rw [noneMoved, List.append_nil] at version
        exact eq_or_recut_of_version (Text.outline_injective version.symm) same
      · exact .inr (.intoVersion moved noneMoved version rest)
    · by_cases noneMoved : moved = []
      · rw [noneMoved, List.append_nil] at version
        exact eq_or_recut_of_version (Text.outline_injective version) same
      · exact .inr (.outOfVersion moved noneMoved version rest)
  · rintro (rfl | recut)
    · rfl
    · cases recut with
      | figures version previous merkleRoot figures _ =>
        exact (content_eq_iff_of_version version).mpr ⟨previous, merkleRoot, figures⟩
      | intoVersion moved _ version rest =>
        rw [content_eq, content_eq, version, rest, List.append_assoc]
      | outOfVersion moved _ version rest =>
        rw [content_eq, content_eq, version, rest, List.append_assoc]

/-- A recut is a different header. -/
theorem Recut.ne {left right : Header} (recut : Recut left right) : left ≠ right := by
  rintro rfl
  cases recut with
  | figures _ _ _ _ widths => exact widths.elim (fun h => h rfl) (fun h => h rfl)
  | intoVersion moved someMoved version _ => exact someMoved (List.self_eq_append_right.mp version)
  | outOfVersion moved someMoved version _ => exact someMoved (List.self_eq_append_right.mp version)

/-- Different headers share their content exactly if one is a recut of the other, and their id
exactly if, besides, their contents may collide. -/
theorem content_and_id_identify_unless_recut (left right : Header) :
    (left.content = right.content ↔ left = right ∨ Recut left right) ∧
      ¬ (left = right ∧ Recut left right) ∧
        (left.id = right.id ↔ left = right ∨ Recut left right ∨
          Digest.Collision (Digest.message left.content) (Digest.message right.content)) := by
  refine ⟨content_eq_iff_eq_or_recut left right, fun both => both.2.ne both.1, ?_⟩
  rw [← or_assoc, ← content_eq_iff_eq_or_recut]
  exact Digest.ofContent_eq_iff left.content right.content

/-- Two headers that share the content `4 00…00 00…00 1111` and with it the id. -/
theorem one_content_two_headers :
    (⟨4, Digest.zero, Digest.zero, 1, 1, 11⟩ : Header) ≠ ⟨4, Digest.zero, Digest.zero, 11, 1, 1⟩ ∧
      content ⟨4, Digest.zero, Digest.zero, 1, 1, 11⟩ =
        content ⟨4, Digest.zero, Digest.zero, 11, 1, 1⟩ ∧
      id ⟨4, Digest.zero, Digest.zero, 1, 1, 11⟩ =
        id ⟨4, Digest.zero, Digest.zero, 11, 1, 1⟩ := by
  have same : content ⟨4, Digest.zero, Digest.zero, 1, 1, 11⟩ =
      content ⟨4, Digest.zero, Digest.zero, 11, 1, 1⟩ := by decide
  exact ⟨by decide, same, congrArg Digest.ofContent same⟩

end PocketLedger.Header
