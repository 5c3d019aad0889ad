import VllmEngine.Hashing.MultiModal
import VllmEngine.Shared.HashChain

set_option autoImplicit false

namespace VllmEngine

open HashChain

variable {H : Type}

abbrev BlockContent := List TokenId × Option (List ExtraKey)

variable (hasher : Hasher H) {items : List MultiModalFeatureSpec} {request : Request H}
  {hashBlockSize : Nat}

def blockExtraKeys (request : Request H) (items : List MultiModalFeatureSpec)
    (startTokenIdx endTokenIdx : Nat) : Option (List ExtraKey) :=
  packExtraKeys (genLoraExtraHashKeys request ++ overlapKeys items startTokenIdx endTokenIdx ++
    cacheSaltKeys request startTokenIdx ++
    genPromptEmbedsExtraHashKeys hasher request startTokenIdx endTokenIdx)

def blockContent (hashBlockSize : Nat) (request : Request H)
    (items : List MultiModalFeatureSpec) (index : Nat) : BlockContent :=
  (request.allTokenIds.extract (index * hashBlockSize) ((index + 1) * hashBlockSize),
    blockExtraKeys hasher request items (index * hashBlockSize) ((index + 1) * hashBlockSize))

def blockContents (hashBlockSize : Nat) (request : Request H)
    (items : List MultiModalFeatureSpec) (first count : Nat) : List BlockContent :=
  (List.range' first count).map (blockContent hasher hashBlockSize request items)

@[simp] theorem blockContents_length (hashBlockSize : Nat)
    (request : Request H) (items : List MultiModalFeatureSpec) (first count : Nat) :
    (blockContents hasher hashBlockSize request items first count).length = count := by
  simp [blockContents]

theorem blockContents_getElem? (hashBlockSize : Nat) (request : Request H)
    (items : List MultiModalFeatureSpec) {first count index : Nat} (within : index < count) :
    (blockContents hasher hashBlockSize request items first count)[index]? =
      some (blockContent hasher hashBlockSize request items (first + index)) := by
  simp [blockContents, within]

theorem hashBlocksFrom_eq_chain (positive : 0 < hashBlockSize)
    (sorted : MmSorted request.mmFeatures) (fuel index : Nat) (mmIdx : Int) (parent : Option H)
    (enough : request.numTokens / hashBlockSize ≤ index + fuel)
    (tracks : TracksItems request.mmFeatures items mmIdx (index * hashBlockSize)) :
    hashBlocksFrom hasher hashBlockSize request fuel (index * hashBlockSize) mmIdx parent =
      chain hasher.hashFunction (parent.getD hasher.noneHash)
        (blockContents hasher hashBlockSize request items index
          (request.numTokens / hashBlockSize - index)) := by
  induction fuel generalizing index mmIdx parent with
  | zero =>
    have none : request.numTokens / hashBlockSize - index = 0 := by omega
    simp [hashBlocksFrom, blockContents, none]
  | succ fuel ih =>
    have stop : index * hashBlockSize + hashBlockSize = (index + 1) * hashBlockSize :=
      (Nat.succ_mul index hashBlockSize).symm
    have full : (index + 1) * hashBlockSize ≤ request.numTokens ↔
        index + 1 ≤ request.numTokens / hashBlockSize := by
      rw [Nat.le_div_iff_mul_le positive]
    simp only [hashBlocksFrom, stop]
    split
    next short =>
      have none : request.numTokens / hashBlockSize - index = 0 := by
        omega
      simp [blockContents, none]
    next complete =>
      have count : request.numTokens / hashBlockSize - index =
          request.numTokens / hashBlockSize - (index + 1) + 1 := by
        omega
      obtain ⟨keys, later⟩ := genMmExtraHashKeys_tracks sorted
        (Nat.mul_le_mul_right hashBlockSize (Nat.le_add_right index 1)) tracks
      simp only [generateBlockHashExtraKeys, keys]
      rw [ih (index + 1) _ _ (by omega) later, count]
      unfold blockContents
      rw [List.range'_succ, List.map_cons, chain_cons]
      rfl

def checkedItems (request : Request H) : List MultiModalFeatureSpec :=
  if request.blockHashes.isEmpty then request.mmFeatures else request.mmFeatures.getLast?.toList

theorem requestBlockHasher_eq_chain (positive : 0 < hashBlockSize)
    (sorted : MmSorted request.mmFeatures) :
    requestBlockHasher hasher hashBlockSize request =
      chain hasher.hashFunction (request.blockHashes.getLast?.getD hasher.noneHash)
        (blockContents hasher hashBlockSize request (checkedItems request)
          request.blockHashes.length
          (request.numTokens / hashBlockSize - request.blockHashes.length)) := by
  simp only [requestBlockHasher]
  split
  next short =>
    have few : request.numTokens / hashBlockSize ≤ request.blockHashes.length := by
      rw [← Nat.lt_succ_iff, Nat.div_lt_iff_lt_mul positive]
      simpa [Nat.succ_mul] using short
    simp [blockContents, Nat.sub_eq_zero_of_le few]
  next =>
    apply hashBlocksFrom_eq_chain hasher positive sorted
    · exact (Nat.div_le_self _ _).trans (Nat.le_add_left _ _)
    · cases empty : request.blockHashes with
      | nil => simpa [checkedItems, empty] using tracksItems_all request.mmFeatures 0
      | cons head tail =>
        simpa [checkedItems, empty, positive] using tracksItems_last request.mmFeatures _

end VllmEngine
