import VllmEngine.Hashing.FreeDigest
import VllmEngine.Hashing.Incremental

set_option autoImplicit false

namespace VllmEngine

open HashChain Run Request

variable {H : Type}

-- A session update may drop tokens whose block is already hashed, or bring a feature into such a
-- block; both appends and updates may complete a block that meets a feature before the last.
def Mutation.KeepsHashes (hashBlockSize : Nat) (request : Request H) : Mutation → Prop
  | .appendOutputTokenIds tokenIds =>
    request.blockHashes ≠ [] → OnlyLastInNewBlocks hashBlockSize request.blockHashes.length
        (request.numTokens + tokenIds.length) request.mmFeatures
  | .updateRequestAsSession update =>
    (request.keptTokenIds ++ update.tokens).take (request.blockHashes.length * hashBlockSize) =
        request.allTokenIds.take (request.blockHashes.length * hashBlockSize) ∧
      (∀ index < request.blockHashes.length, ∀ feature ∈ update.features,
        ¬ (feature.shift request.keptTokenIds.length).Overlaps (index * hashBlockSize)
          ((index + 1) * hashBlockSize)) ∧
      (request.blockHashes ≠ [] → OnlyLastInNewBlocks hashBlockSize request.blockHashes.length
          (request.keptTokenIds.length + update.tokens.length)
          (request.mmFeatures ++ update.features.map (·.shift request.keptTokenIds.length)))
  | .setNumComputedTokens _ => True

theorem keepsHashedBlocks_append (hashBlockSize hashed : Nat) (request : Request H)
    (tokenIds : List TokenId) (within : hashed * hashBlockSize ≤ request.numTokens) :
    KeepsHashedBlocks hashBlockSize hashed request (request.appendTokens tokenIds) := by
  refine ⟨?_, fun _ _ => rfl⟩
  exact List.take_append_of_le_length within

variable {hasher : Hasher H} {hashBlockSize : Nat} {request : Request H}
  {feature : MultiModalFeatureSpec} {startTokenIdx endTokenIdx : Nat}

theorem HashedFromScratch.hashed_le (positive : 0 < hashBlockSize)
    (sorted : MmSorted request.mmFeatures) (hashed : HashedFromScratch hasher hashBlockSize request)
    :
    request.blockHashes.length * hashBlockSize ≤ request.numTokens := by
  rw [(hashedFromScratch_iff hasher positive sorted).mp hashed]
  simpa using Nat.div_mul_le_self request.numTokens hashBlockSize

theorem step_hashedFromScratch_iff (injective : Function.Injective hasher.hashFunction)
    (positive : 0 < hashBlockSize) {next : Request H} {mutation : Mutation}
    (taken : mutation.step hasher hashBlockSize request = .ok next)
    (sorted : MmSorted request.mmFeatures) (sortedNext : MmSorted next.mmFeatures)
    (hashed : HashedFromScratch hasher hashBlockSize request) :
    HashedFromScratch hasher hashBlockSize next ↔
      mutation.KeepsHashes hashBlockSize request := by
  cases mutation with
  | appendOutputTokenIds tokenIds =>
    simp only [Mutation.step, Except.ok.injEq] at taken
    subst taken
    have kept := keepsHashedBlocks_append hashBlockSize request.blockHashes.length request tokenIds
      (hashed.hashed_le positive sorted)
    have result := @updateBlockHashes_fromScratch_iff H hashBlockSize request
      (request.appendTokens tokenIds) hasher injective positive hashed sorted sorted rfl ⟨rfl, rfl, rfl⟩
    rw [and_iff_right kept] at result
    apply result.trans
    simp only [Mutation.KeepsHashes, numTokens, appendTokens, List.length_append]
  | updateRequestAsSession update =>
    simp only [Mutation.step, updateRequestAsSession] at taken
    cases prompt : request.promptTokenIds with
    | none => simp [prompt] at taken
    | some promptTokenIds =>
      simp only [prompt, Except.ok.injEq] at taken
      subst taken
      have result := @updateBlockHashes_fromScratch_iff H hashBlockSize request
        (request.sessionLists promptTokenIds update) hasher injective positive hashed sorted sortedNext rfl
        ⟨rfl, rfl, rfl⟩
      have unread := hashedFromScratch_congr hasher positive sortedNext
        (show _ = ((request.sessionLists promptTokenIds update).updateBlockHashes hasher
          hashBlockSize).allTokenIds from rfl) rfl rfl ⟨rfl, rfl, rfl⟩
      apply (unread.trans result).trans
      simp [Mutation.KeepsHashes, KeepsHashedBlocks, numTokens, sessionLists, overlapKeys_append,
        overlapKeys_eq_nil, and_assoc]
  | setNumComputedTokens numComputedTokens =>
    simp only [Mutation.step, Except.ok.injEq] at taken
    subst taken
    simp only [Mutation.KeepsHashes, iff_true]
    exact (@hashedFromScratch_congr H hasher hashBlockSize request
      { request with numComputedTokens := numComputedTokens } positive sorted rfl rfl rfl
      ⟨rfl, rfl, rfl⟩).mp hashed

theorem create_hashedFromScratch {args : RequestArgs}
    (created : create hasher hashBlockSize args = .ok request) :
    HashedFromScratch hasher hashBlockSize request := by
  simp only [create, bind, Except.bind] at created
  split at created
  · simp at created
  · simp only [pure, Except.pure, Except.ok.injEq] at created
    subst created
    simp [HashedFromScratch, updateBlockHashes, unhashed]

def CarriesOverlaps (hasher : Hasher H) (hashBlockSize : Nat) (request : Request H) : Prop :=
  ∃ contents : List BlockContent,
    request.blockHashes = chain hasher.hashFunction hasher.noneHash contents ∧
      ∀ index content, contents[index]? = some content → ∀ feature ∈ request.mmFeatures,
        feature.Overlaps (index * hashBlockSize) ((index + 1) * hashBlockSize) →
          ∃ keys, content.2 = some keys ∧ feature.key (index * hashBlockSize) ∈ keys

theorem blockExtraKeys_mem (hasher : Hasher H) (request : Request H)
    {items : List MultiModalFeatureSpec} (member : feature ∈ items)
    (overlaps : feature.Overlaps startTokenIdx endTokenIdx) :
    ∃ keys, blockExtraKeys hasher request items startTokenIdx endTokenIdx = some keys ∧
      feature.key startTokenIdx ∈ keys := by
  have present : feature.key startTokenIdx ∈ overlapKeys items startTokenIdx endTokenIdx :=
    List.mem_map_of_mem (List.mem_filter.mpr ⟨member, by simpa using overlaps⟩)
  simp only [blockExtraKeys, packExtraKeys]
  split
  next empty =>
    simp only [List.isEmpty_iff, List.append_eq_nil_iff] at empty
    simp [empty.1.1.2] at present
  next => exact ⟨_, rfl, by simp [present]⟩

theorem HashedFromScratch.carriesOverlaps (positive : 0 < hashBlockSize)
    (sorted : MmSorted request.mmFeatures) (hashed : HashedFromScratch hasher hashBlockSize request)
    :
    CarriesOverlaps hasher hashBlockSize request := by
  refine ⟨_, (hashedFromScratch_iff hasher positive sorted).mp hashed, ?_⟩
  intro index content present feature member overlaps
  have within : index < request.numTokens / hashBlockSize := by
    have := (List.getElem?_eq_some_iff.mp present).1
    simpa using this
  rw [blockContents_getElem? _ _ _ _ within, Option.some.injEq] at present
  subst present
  simpa [blockContent] using blockExtraKeys_mem hasher request member overlaps

theorem incremental_hashing_iff {hasher : Hasher H}
    (injective : Function.Injective hasher.hashFunction) {hashBlockSize : Nat}
    (positive : 0 < hashBlockSize) {args : RequestArgs} {request : Request H}
    (created : Request.create hasher hashBlockSize args = .ok request) {mutations : List Mutation}
    (sorted : Always (Mutation.step hasher hashBlockSize)
      (fun state => MmSorted state.mmFeatures) request mutations) :
    Always (Mutation.step hasher hashBlockSize)
        (fun state => HashedFromScratch hasher hashBlockSize state ∧
          CarriesOverlaps hasher hashBlockSize state) request mutations ↔
      Meets (Mutation.step hasher hashBlockSize) (Mutation.KeepsHashes hashBlockSize) request
        mutations := by
  apply always_iff_meets _ sorted
  · have hashed := create_hashedFromScratch created
    exact ⟨hashed, hashed.carriesOverlaps positive sorted.start⟩
  · intro state mutation _ next taken sortedState sortedNext holds
    rw [← step_hashedFromScratch_iff injective positive taken sortedState sortedNext holds.1]
    exact and_iff_left_of_imp fun hashed => hashed.carriesOverlaps positive sortedNext

def imageArgs (images : List MultiModalFeatureSpec) : RequestArgs :=
  { requestId := 0
    promptTokenIds := some [1, 2, 3, 4, 5, 6]
    promptEmbeds := none
    mmFeatures := some images
    loraRequest := none
    cacheSalt := none }

def imageRequest (images : List MultiModalFeatureSpec) : Request FreeDigest :=
  (Request.unhashed (imageArgs images) 6).updateBlockHashes freeHasher 4

theorem incremental_hashing_one_image :
    Always (Mutation.step freeHasher 4)
      (fun state => HashedFromScratch freeHasher 4 state ∧ CarriesOverlaps freeHasher 4 state)
      (imageRequest [⟨"a", 4, 2⟩]) [.appendOutputTokenIds [7, 8]] := by
  have sorted : Always (Mutation.step freeHasher 4) (fun state => MmSorted state.mmFeatures)
      (imageRequest [⟨"a", 4, 2⟩]) [.appendOutputTokenIds [7, 8]] := by
    refine ⟨by decide, fun next taken => ?_⟩
    cases taken
    exact (by decide : MmSorted [⟨"a", 4, 2⟩])
  apply (@incremental_hashing_iff _ _ freeHasher_injective 4 (by decide)
    (imageArgs [⟨"a", 4, 2⟩]) _ rfl _ sorted).mpr
  refine ⟨fun _ _ _ index _ _ feature member => ?_, fun _ _ => trivial⟩
  simp [imageArgs, unhashed, updateBlockHashes] at member

-- Two images in the unfinished block of the prompt: the append hashes only the second one into it.
theorem incremental_hashing_two_images :
    MmSorted [⟨"a", 4, 1⟩, ⟨"b", 5, 1⟩] ∧
      ¬ Always (Mutation.step freeHasher 4) (HashedFromScratch freeHasher 4)
        (imageRequest [⟨"a", 4, 1⟩, ⟨"b", 5, 1⟩]) [.appendOutputTokenIds [7, 8]] := by
  refine ⟨by decide, fun run => ?_⟩
  have final := (run.2 _ rfl).start
  exact absurd final (by decide)

end VllmEngine
