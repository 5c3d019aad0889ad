import VllmEngine.Hashing.BlockHash

set_option autoImplicit false

namespace VllmEngine

variable {H : Type}

def lengthFromPromptTokenIdsOrEmbeds (promptTokenIds : Option (List TokenId))
    (promptEmbeds : Option (List Bytes)) : Except PyError Nat :=
  match promptTokenIds, promptEmbeds with
  | none, none => .error (.valueError "Neither prompt_token_ids nor prompt_embeds were defined.")
  | none, some embeds => .ok embeds.length
  | some tokens, none => .ok tokens.length
  | some tokens, some embeds =>
    if embeds.length ≠ tokens.length then
      .error (.valueError s!"Prompt token ids and prompt embeds had different lengths prompt_token_ids={tokens.length} prompt_embeds={embeds.length}")
    else .ok tokens.length

structure RequestArgs where
  requestId : RequestId
  promptTokenIds : Option (List TokenId)
  promptEmbeds : Option (List Bytes)
  mmFeatures : Option (List MultiModalFeatureSpec)
  loraRequest : Option LoRARequest
  cacheSalt : Option String
  deriving DecidableEq, Repr

namespace Request

def updateBlockHashes (hasher : Hasher H) (hashBlockSize : Nat) (request : Request H) :
    Request H :=
  { request with
    blockHashes := request.blockHashes ++ requestBlockHasher hasher hashBlockSize request }

def unhashed (args : RequestArgs) (numPromptTokens : Nat) : Request H :=
  { requestId := args.requestId
    promptTokenIds := args.promptTokenIds
    promptEmbeds := args.promptEmbeds
    numPromptTokens := numPromptTokens
    outputTokenIds := []
    allTokenIds := args.promptTokenIds.getD (List.replicate numPromptTokens 0)
    numComputedTokens := 0
    cacheSalt := args.cacheSalt
    mmFeatures := args.mmFeatures.getD []
    loraRequest := args.loraRequest
    blockHashes := [] }

def create (hasher : Hasher H) (hashBlockSize : Nat) (args : RequestArgs) :
    Except PyError (Request H) := do
  let numPromptTokens ← lengthFromPromptTokenIdsOrEmbeds args.promptTokenIds args.promptEmbeds
  return (unhashed args numPromptTokens).updateBlockHashes hasher hashBlockSize

def appendTokens (request : Request H) (tokenIds : List TokenId) : Request H :=
  { request with
    outputTokenIds := request.outputTokenIds ++ tokenIds
    allTokenIds := request.allTokenIds ++ tokenIds }

def appendOutputTokenIds (hasher : Hasher H) (hashBlockSize : Nat) (request : Request H)
    (tokenIds : List TokenId) : Request H :=
  (request.appendTokens tokenIds).updateBlockHashes hasher hashBlockSize

end Request

def MultiModalFeatureSpec.shift (base : Nat) (feature : MultiModalFeatureSpec) :
    MultiModalFeatureSpec :=
  { feature with mmPosition := { feature.mmPosition with offset := feature.offset + base } }

namespace StreamingUpdate

def tokens (update : StreamingUpdate) : List TokenId := update.promptTokenIds.getD []

def features (update : StreamingUpdate) : List MultiModalFeatureSpec := update.mmFeatures.getD []

end StreamingUpdate

namespace Request

def keptTokenIds (session : Request H) : List TokenId :=
  session.allTokenIds.take session.numComputedTokens

def sessionLists (session : Request H) (promptTokenIds : List TokenId) (update : StreamingUpdate) :
    Request H :=
  let keptOutputTokens :=
    session.allTokenIds.extract session.numPromptTokens session.numComputedTokens
  { session with
    outputTokenIds := []
    promptTokenIds := some (promptTokenIds ++ keptOutputTokens ++ update.tokens)
    allTokenIds := session.keptTokenIds ++ update.tokens
    mmFeatures := session.mmFeatures ++ update.features.map (·.shift session.keptTokenIds.length) }

def updateRequestAsSession (hasher : Hasher H) (hashBlockSize : Nat) (session : Request H)
    (update : StreamingUpdate) : Except PyError (Request H) :=
  match session.promptTokenIds with
  | none => .error .assertionError
  | some promptTokenIds =>
    let hashed :=
      (session.sessionLists promptTokenIds update).updateBlockHashes hasher hashBlockSize
    .ok { hashed with numPromptTokens := (hashed.promptTokenIds.getD []).length }

end Request

-- The scheduler moves `num_computed_tokens` freely.
inductive Mutation where
  | appendOutputTokenIds (tokenIds : List TokenId)
  | updateRequestAsSession (update : StreamingUpdate)
  | setNumComputedTokens (numComputedTokens : Nat)
  deriving DecidableEq, Repr

def Mutation.step (hasher : Hasher H) (hashBlockSize : Nat) (request : Request H) :
    Mutation → Except PyError (Request H)
  | .appendOutputTokenIds tokenIds =>
    .ok (request.appendOutputTokenIds hasher hashBlockSize tokenIds)
  | .updateRequestAsSession update => request.updateRequestAsSession hasher hashBlockSize update
  | .setNumComputedTokens numComputedTokens =>
    .ok { request with numComputedTokens := numComputedTokens }

end VllmEngine
