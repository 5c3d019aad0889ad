import VllmEngine.Hashing.RunHashes

set_option autoImplicit false

namespace VllmEngine

open HashChain Run

variable {H : Type}

structure Request.TextOnly (request : Request H) : Prop where
  features : request.mmFeatures = []
  embeds : request.promptEmbeds = none

def Mutation.TextOnly : Mutation → Prop
  | .updateRequestAsSession update => update.features = []
  | _ => True

def textExtraKeys (request : Request H) (startTokenIdx : Nat) : Option (List ExtraKey) :=
  packExtraKeys (genLoraExtraHashKeys request ++ cacheSaltKeys request startTokenIdx)

def chainedHash (hasher : Hasher H) (hashBlockSize : Nat) (request : Request H) : Nat → H
  | 0 => hashBlockTokens hasher none (request.allTokenIds.extract 0 hashBlockSize)
      (textExtraKeys request 0)
  | index + 1 =>
    hashBlockTokens hasher (some (chainedHash hasher hashBlockSize request index))
      (request.allTokenIds.extract ((index + 1) * hashBlockSize) ((index + 2) * hashBlockSize))
      (textExtraKeys request ((index + 1) * hashBlockSize))

variable (hasher : Hasher H) {request : Request H} {hashBlockSize : Nat} {mutation : Mutation}

def DescribesTokens (hashBlockSize : Nat) (request : Request H) : Prop :=
  request.blockHashes.length = request.numTokens / hashBlockSize ∧
    ∀ index digest, request.blockHashes[index]? = some digest →
      digest = chainedHash hasher hashBlockSize request index

def Mutation.KeepsHashedTokens (hashBlockSize : Nat) (request : Request H) : Mutation → Prop
  | .updateRequestAsSession update =>
    (request.keptTokenIds ++ update.tokens).take (request.blockHashes.length * hashBlockSize) =
      request.allTokenIds.take (request.blockHashes.length * hashBlockSize)
  | _ => True

instance (hashBlockSize : Nat) (request : Request H) (mutation : Mutation) :
    Decidable (mutation.KeepsHashedTokens hashBlockSize request) :=
  match mutation with
  | .updateRequestAsSession _ => inferInstanceAs (Decidable (_ = _))
  | .appendOutputTokenIds _ => .isTrue trivial
  | .setNumComputedTokens _ => .isTrue trivial

theorem textOnly_blockExtraKeys (text : request.TextOnly) (startTokenIdx endTokenIdx : Nat) :
    blockExtraKeys hasher request request.mmFeatures startTokenIdx endTokenIdx =
      textExtraKeys request startTokenIdx := by
  simp [blockExtraKeys, textExtraKeys, text.features, genPromptEmbedsExtraHashKeys, text.embeds,
    overlapKeys]

theorem chain_getElem?_chainedHash (hashBlockSize : Nat)
    (text : request.TextOnly) {count index : Nat} (within : index < count) :
    (chain hasher.hashFunction hasher.noneHash
        (blockContents hasher hashBlockSize request request.mmFeatures 0 count))[index]? =
      some (chainedHash hasher hashBlockSize request index) := by
  induction index with
  | zero =>
    rw [chain_getElem?_zero, blockContents_getElem? _ _ _ _ within]
    simp [blockContent, textOnly_blockExtraKeys hasher text, chainedHash, hashBlockTokens]
  | succ index ih =>
    rw [chain_getElem?_succ (ih (by omega)) (blockContents_getElem? _ _ _ _ within)]
    simp only [blockContent, textOnly_blockExtraKeys hasher text, chainedHash, hashBlockTokens,
      Nat.zero_add, Option.getD_some]

theorem describesTokens_iff (positive : 0 < hashBlockSize) (text : request.TextOnly) :
    DescribesTokens hasher hashBlockSize request ↔
      HashedFromScratch hasher hashBlockSize request := by
  have sorted : MmSorted request.mmFeatures := by simp [text.features, MmSorted]
  rw [hashedFromScratch_iff hasher positive sorted]
  constructor
  · rintro ⟨count, digests⟩
    apply List.ext_getElem?
    intro index
    by_cases within : index < request.numTokens / hashBlockSize
    · rw [chain_getElem?_chainedHash hasher hashBlockSize text within]
      rw [← count] at within
      rw [List.getElem?_eq_getElem within, digests index _ (List.getElem?_eq_getElem within)]
    · rw [List.getElem?_eq_none (by omega), List.getElem?_eq_none (by simpa using within)]
  · intro hashed
    refine ⟨by rw [hashed]; simp, fun index digest present => ?_⟩
    have within : index < request.numTokens / hashBlockSize := by
      have := (List.getElem?_eq_some_iff.mp present).1
      rw [hashed] at this
      simpa using this
    rw [hashed, chain_getElem?_chainedHash hasher hashBlockSize text within] at present
    exact (Option.some.inj present).symm

theorem textOnly_keepsHashes_iff (text : request.TextOnly) (plain : mutation.TextOnly) :
    mutation.KeepsHashes hashBlockSize request ↔
      mutation.KeepsHashedTokens hashBlockSize request := by
  cases mutation with
  | appendOutputTokenIds tokenIds =>
    simp [Mutation.KeepsHashes, Mutation.KeepsHashedTokens, OnlyLastInNewBlocks, text.features]
  | updateRequestAsSession update =>
    have none : update.features = [] := plain
    simp [Mutation.KeepsHashes, Mutation.KeepsHashedTokens, OnlyLastInNewBlocks, text.features,
      none]
  | setNumComputedTokens numComputedTokens => rfl

theorem step_textOnly {hasher : Hasher H} {request next : Request H} (plain : mutation.TextOnly)
    (taken : mutation.step hasher hashBlockSize request = .ok next)
    (text : request.TextOnly) : next.TextOnly := by
  cases mutation with
  | appendOutputTokenIds tokenIds =>
    cases taken
    exact ⟨text.features, text.embeds⟩
  | updateRequestAsSession update =>
    have none : update.features = [] := plain
    simp only [Mutation.step, Request.updateRequestAsSession] at taken
    split at taken
    · simp at taken
    · cases taken
      exact ⟨by simp [Request.updateBlockHashes, Request.sessionLists, text.features, none],
        text.embeds⟩
  | setNumComputedTokens numComputedTokens =>
    cases taken
    exact ⟨text.features, text.embeds⟩

theorem block_hashes_describe_tokens_iff {hasher : Hasher H}
    (injective : Function.Injective hasher.hashFunction) {hashBlockSize : Nat}
    (positive : 0 < hashBlockSize) {args : RequestArgs} {request : Request H}
    (created : Request.create hasher hashBlockSize args = .ok request)
    (text : request.TextOnly) {mutations : List Mutation}
    (plain : ∀ mutation ∈ mutations, mutation.TextOnly) :
    Always (Mutation.step hasher hashBlockSize) (DescribesTokens hasher hashBlockSize) request
        mutations ↔
      Meets (Mutation.step hasher hashBlockSize) (Mutation.KeepsHashedTokens hashBlockSize)
        request mutations := by
  have texts : Always (Mutation.step hasher hashBlockSize) Request.TextOnly request mutations :=
    always_of_kept (fun _ mutation member _ taken => step_textOnly (plain mutation member) taken)
      text
  have sorted {state : Request H} (text : state.TextOnly) : MmSorted state.mmFeatures := by
    simp [text.features, MmSorted]
  apply always_iff_meets _ texts
  · exact (describesTokens_iff hasher positive text).mpr (create_hashedFromScratch created)
  · intro state mutation member next taken textState textNext describes
    rw [describesTokens_iff hasher positive textNext,
      ← textOnly_keepsHashes_iff textState (plain mutation member)]
    apply step_hashedFromScratch_iff injective positive taken (sorted textState) (sorted textNext)
    exact (describesTokens_iff hasher positive textState).mp describes

def sessionArgs : RequestArgs :=
  { requestId := 0
    promptTokenIds := some [1, 2, 3]
    promptEmbeds := none
    mmFeatures := none
    loraRequest := none
    cacheSalt := none }

def sessionRequest : Request FreeDigest :=
  (Request.unhashed sessionArgs 3).updateBlockHashes freeHasher 4

def sampledThenExtended (update : List TokenId) : List Mutation :=
  [.appendOutputTokenIds [9], .setNumComputedTokens 3,
    .updateRequestAsSession { mmFeatures := none, promptTokenIds := some update }]

theorem block_hashes_describe_same_token :
    Always (Mutation.step freeHasher 4) (DescribesTokens freeHasher 4) sessionRequest
      (sampledThenExtended [9, 5]) := by
  apply (@block_hashes_describe_tokens_iff _ _ freeHasher_injective 4 (by decide) sessionArgs
    sessionRequest rfl ⟨rfl, rfl⟩ (sampledThenExtended [9, 5]) ?_).mpr
  · refine ⟨fun _ _ => trivial, fun next taken => ?_⟩
    cases taken
    refine ⟨fun _ _ => trivial, fun next taken => ?_⟩
    cases taken
    refine ⟨fun _ _ => ?_, fun _ _ => trivial⟩
    decide
  · simp [sampledThenExtended, Mutation.TextOnly, StreamingUpdate.features]

-- The update replaces the discarded token 9 by 5; the first hash still describes the 9.
theorem block_hashes_describe_discarded_token :
    ¬ Always (Mutation.step freeHasher 4) (DescribesTokens freeHasher 4) sessionRequest
      (sampledThenExtended [5]) := by
  intro run
  have final := ((((run.2 _ rfl).2 _ rfl).2 _ rfl).start).2 0 _ rfl
  revert final
  decide

end VllmEngine
