import VllmEngine.Hashing.BlockContent
import VllmEngine.Hashing.Session
import VllmEngine.Shared.Run

set_option autoImplicit false

namespace VllmEngine

open HashChain List Nat

variable {H : Type}

variable (hasher : Hasher H) {hashBlockSize : Nat} {left right : Request H}
  {before after : Request H}

def HashedFromScratch (hashBlockSize : Nat) (request : Request H) : Prop :=
  request.blockHashes = requestBlockHasher hasher hashBlockSize { request with blockHashes := [] }

instance [DecidableEq H] (hasher : Hasher H) (hashBlockSize : Nat) (request : Request H) :
    Decidable (HashedFromScratch hasher hashBlockSize request) :=
  inferInstanceAs (Decidable (_ = _))

theorem hashedFromScratch_iff
    (positive : 0 < hashBlockSize) {request : Request H} (sorted : MmSorted request.mmFeatures) :
    HashedFromScratch hasher hashBlockSize request ↔
      request.blockHashes = chain hasher.hashFunction hasher.noneHash
        (blockContents hasher hashBlockSize request request.mmFeatures 0
          (request.numTokens / hashBlockSize)) := by
  have scratch := @requestBlockHasher_eq_chain H hasher
    { request with blockHashes := [] } hashBlockSize positive sorted
  rw [HashedFromScratch, scratch]
  rfl

section Lists

variable {A : Type}

theorem take_succ_mul (list : List A) (size count : Nat) :
    list.take ((count + 1) * size) =
      list.take (count * size) ++ list.extract (count * size) ((count + 1) * size) := by
  rw [extract_eq_take_drop, ← take_add]
  congr 1
  rw [succ_mul]
  omega

theorem take_eq_iff_blocks_eq (left right : List A) (size count : Nat) :
    left.take (count * size) = right.take (count * size) ↔
      ∀ index < count, left.extract (index * size) ((index + 1) * size) =
        right.extract (index * size) ((index + 1) * size) := by
  induction count with
  | zero => simp
  | succ count ih =>
    constructor
    · intro same
      have before : left.take (count * size) = right.take (count * size) := by
        have := congrArg (take (count * size)) same
        simpa [take_take, succ_mul] using this
      intro index within
      rcases Nat.lt_succ_iff_lt_or_eq.mp within with earlier | rfl
      · exact ih.mp before index earlier
      · rw [take_succ_mul, take_succ_mul, before] at same
        exact append_cancel_left same
    · intro blocks
      rw [take_succ_mul, take_succ_mul, blocks count (lt_succ_self count),
        ih.mpr fun index within => blocks index (lt_succ_of_lt within)]

end Lists

theorem packExtraKeys_injective : Function.Injective packExtraKeys := by
  intro left right same
  cases left <;> cases right <;> simp_all [packExtraKeys]

structure SameIdentity (left right : Request H) : Prop where
  lora : left.loraRequest = right.loraRequest
  salt : left.cacheSalt = right.cacheSalt
  embeds : left.promptEmbeds = right.promptEmbeds

theorem blockExtraKeys_eq_iff
    (same : SameIdentity left right) (items items' : List MultiModalFeatureSpec)
    (startTokenIdx endTokenIdx : Nat) :
    blockExtraKeys hasher left items startTokenIdx endTokenIdx =
        blockExtraKeys hasher right items' startTokenIdx endTokenIdx ↔
      overlapKeys items startTokenIdx endTokenIdx =
        overlapKeys items' startTokenIdx endTokenIdx := by
  simp [blockExtraKeys, packExtraKeys_injective.eq_iff, genLoraExtraHashKeys, cacheSaltKeys,
    genPromptEmbedsExtraHashKeys, same.lora, same.salt, same.embeds]

theorem blockContents_eq_iff (hashBlockSize : Nat)
    (same : SameIdentity left right) (items items' : List MultiModalFeatureSpec)
    (first count : Nat) :
    blockContents hasher hashBlockSize left items first count =
        blockContents hasher hashBlockSize right items' first count ↔
      ∀ index, first ≤ index → index < first + count →
        left.allTokenIds.extract (index * hashBlockSize) ((index + 1) * hashBlockSize) =
            right.allTokenIds.extract (index * hashBlockSize) ((index + 1) * hashBlockSize) ∧
          overlapKeys items (index * hashBlockSize) ((index + 1) * hashBlockSize) =
            overlapKeys items' (index * hashBlockSize) ((index + 1) * hashBlockSize) := by
  simp only [blockContents, map_inj_left, mem_range'_1, blockContent, Prod.mk.injEq,
    blockExtraKeys_eq_iff hasher same, and_imp]

theorem hashedFromScratch_congr (positive : 0 < hashBlockSize) (sorted : MmSorted left.mmFeatures)
    (tokens : left.allTokenIds = right.allTokenIds)
    (features : left.mmFeatures = right.mmFeatures) (hashes : left.blockHashes = right.blockHashes)
    (same : SameIdentity left right) :
    HashedFromScratch hasher hashBlockSize left ↔ HashedFromScratch hasher hashBlockSize right := by
  have contents := (blockContents_eq_iff hasher hashBlockSize same left.mmFeatures
    right.mmFeatures 0 (left.numTokens / hashBlockSize)).mpr
      fun index _ _ => ⟨by rw [tokens], by rw [features]⟩
  rw [hashedFromScratch_iff hasher positive sorted,
    hashedFromScratch_iff hasher positive (features ▸ sorted), contents, hashes,
    Request.numTokens, Request.numTokens, tokens]

def KeepsHashedBlocks (hashBlockSize hashed : Nat) (before after : Request H) : Prop :=
  after.allTokenIds.take (hashed * hashBlockSize) =
      before.allTokenIds.take (hashed * hashBlockSize) ∧
    ∀ index < hashed,
      overlapKeys after.mmFeatures (index * hashBlockSize) ((index + 1) * hashBlockSize) =
        overlapKeys before.mmFeatures (index * hashBlockSize) ((index + 1) * hashBlockSize)

def OnlyLastInNewBlocks (hashBlockSize hashed numTokens : Nat)
    (features : List MultiModalFeatureSpec) : Prop :=
  ∀ index, hashed ≤ index → (index + 1) * hashBlockSize ≤ numTokens → ∀ feature ∈ features.dropLast,
      ¬ feature.Overlaps (index * hashBlockSize) ((index + 1) * hashBlockSize)

theorem overlapKeys_last_eq_iff (features : List MultiModalFeatureSpec)
    (startTokenIdx endTokenIdx : Nat) :
    overlapKeys features.getLast?.toList startTokenIdx endTokenIdx =
        overlapKeys features startTokenIdx endTokenIdx ↔
      ∀ feature ∈ features.dropLast, ¬ feature.Overlaps startTokenIdx endTokenIdx := by
  rw [← overlapKeys_eq_nil]
  cases features using reverseRecOn with
  | nil => simp [overlapKeys]
  | append_singleton front last => simp [overlapKeys_append]

theorem SameIdentity.refl (request : Request H) : SameIdentity request request := ⟨rfl, rfl, rfl⟩

theorem newContents_eq_iff (positive : 0 < hashBlockSize) (after : Request H) :
    blockContents hasher hashBlockSize after (checkedItems after) after.blockHashes.length
          (after.numTokens / hashBlockSize - after.blockHashes.length) =
        blockContents hasher hashBlockSize after after.mmFeatures after.blockHashes.length
          (after.numTokens / hashBlockSize - after.blockHashes.length) ↔
      (after.blockHashes ≠ [] →
        OnlyLastInNewBlocks hashBlockSize after.blockHashes.length after.numTokens
          after.mmFeatures) := by
  rw [blockContents_eq_iff hasher hashBlockSize (SameIdentity.refl after)]
  cases empty : after.blockHashes.isEmpty with
  | true =>
    have none : after.blockHashes = [] := by simpa using empty
    simp [checkedItems, none]
  | false =>
    have some : after.blockHashes ≠ [] := by simpa using empty
    simp only [checkedItems, empty, Bool.false_eq_true, if_false, overlapKeys_last_eq_iff,
      true_and, some, ne_eq, not_false_eq_true, forall_const]
    refine forall_congr' fun index => forall_congr' fun lower => ?_
    have range : index < after.blockHashes.length +
          (after.numTokens / hashBlockSize - after.blockHashes.length) ↔
        (index + 1) * hashBlockSize ≤ after.numTokens := by
      rw [← le_div_iff_mul_le positive]
      omega
    rw [range]

theorem oldContents_eq_iff (hashBlockSize hashed : Nat) (same : SameIdentity before after) :
    blockContents hasher hashBlockSize before before.mmFeatures 0 hashed =
        blockContents hasher hashBlockSize after after.mmFeatures 0 hashed ↔
      KeepsHashedBlocks hashBlockSize hashed before after := by
  rw [blockContents_eq_iff hasher hashBlockSize same, KeepsHashedBlocks, take_eq_iff_blocks_eq,
    ← forall₂_and]
  refine forall_congr' fun index => ?_
  simp only [zero_le, zero_add, forall_const]
  refine forall_congr' fun _ => ?_
  rw [eq_comm, eq_comm (a := overlapKeys before.mmFeatures _ _)]

theorem KeepsHashedBlocks.le_numBlocks (positive : 0 < hashBlockSize)
    (keeps : KeepsHashedBlocks hashBlockSize (before.numTokens / hashBlockSize) before after) :
    before.numTokens / hashBlockSize ≤ after.numTokens / hashBlockSize := by
  have lengths := congrArg length keeps.1
  have full := div_mul_le_self before.numTokens hashBlockSize
  rw [le_div_iff_mul_le positive]
  simp only [length_take, Request.numTokens] at *
  omega

theorem updateBlockHashes_fromScratch_iff {hasher : Hasher H}
    (injective : Function.Injective hasher.hashFunction) (positive : 0 < hashBlockSize)
    (hashed : HashedFromScratch hasher hashBlockSize before)
    (sortedBefore : MmSorted before.mmFeatures) (sortedAfter : MmSorted after.mmFeatures)
    (kept : after.blockHashes = before.blockHashes) (same : SameIdentity before after) :
    HashedFromScratch hasher hashBlockSize (after.updateBlockHashes hasher hashBlockSize) ↔
      KeepsHashedBlocks hashBlockSize before.blockHashes.length before after ∧
        (before.blockHashes ≠ [] →
          OnlyLastInNewBlocks hashBlockSize before.blockHashes.length after.numTokens
            after.mmFeatures) := by
  rw [hashedFromScratch_iff hasher positive sortedBefore] at hashed
  have count : before.blockHashes.length = before.numTokens / hashBlockSize := by
    rw [hashed]; simp
  have appended : (after.updateBlockHashes hasher hashBlockSize).blockHashes =
      chain hasher.hashFunction hasher.noneHash
        (blockContents hasher hashBlockSize before before.mmFeatures 0
            (before.numTokens / hashBlockSize) ++
          blockContents hasher hashBlockSize after (checkedItems after) after.blockHashes.length
            (after.numTokens / hashBlockSize - after.blockHashes.length)) := by
    rw [chain_append, ← hashed, ← kept]
    exact congrArg _ (requestBlockHasher_eq_chain hasher positive sortedAfter)
  have scratch := @hashedFromScratch_iff H hasher hashBlockSize positive
    (after.updateBlockHashes hasher hashBlockSize) sortedAfter
  rw [scratch, appended, (chain_injective injective hasher.noneHash).eq_iff, ← kept,
    ← newContents_eq_iff hasher positive, kept, count,
    ← oldContents_eq_iff hasher hashBlockSize _ same]
  by_cases fits : before.numTokens / hashBlockSize ≤ after.numTokens / hashBlockSize
  · have split : blockContents hasher hashBlockSize after after.mmFeatures 0
          (after.numTokens / hashBlockSize) =
        blockContents hasher hashBlockSize after after.mmFeatures 0
            (before.numTokens / hashBlockSize) ++
          blockContents hasher hashBlockSize after after.mmFeatures
            (before.numTokens / hashBlockSize)
            (after.numTokens / hashBlockSize - before.numTokens / hashBlockSize) := by
      conv_lhs => rw [← add_sub_of_le fits]
      simp [blockContents, ← range'_append_1]
    change _ = blockContents hasher hashBlockSize after after.mmFeatures 0
      (after.numTokens / hashBlockSize) ↔ _
    rw [split]
    constructor
    · intro equal
      exact append_inj equal (by simp)
    · rintro ⟨old, new⟩
      rw [old, new]
  · -- Fewer blocks than hashes: the stale hashes alone refute the equality.
    constructor
    · intro equal
      have lengths := congrArg length equal
      simp only [length_append, blockContents_length] at lengths
      change _ = after.numTokens / hashBlockSize at lengths
      omega
    · rintro ⟨old, _⟩
      have keeps := (oldContents_eq_iff hasher hashBlockSize _ same).mp old
      exact absurd (keeps.le_numBlocks positive) fits

end VllmEngine
