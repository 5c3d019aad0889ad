import VllmEngine.Hashing.Request

set_option autoImplicit false

namespace VllmEngine

-- A LoRA name or salt, a multimodal pair, or the digest of a prompt-embedding slice.
inductive ExtraKey where
  | text (value : String)
  | mm (identifier : String) (offset : Int)
  | digest (value : Bytes)
  deriving DecidableEq, Repr

-- The caching hash function on its tuple argument, `NONE_HASH`, and SHA-256.
structure Hasher (H : Type) where
  hashFunction : H × List TokenId × Option (List ExtraKey) → H
  noneHash : H
  sha256 : Bytes → Bytes

variable {H : Type}

def mmKeysFrom (startTokenIdx endTokenIdx : Nat) :
    List MultiModalFeatureSpec → Nat → List ExtraKey × Nat
  | [], currMmIdx => ([], currMmIdx)
  | feature :: rest, currMmIdx =>
    if endTokenIdx > feature.offset then
      if startTokenIdx ≥ feature.stop then
        mmKeysFrom startTokenIdx endTokenIdx rest (currMmIdx + 1)
      else
        let key := ExtraKey.mm feature.identifier ((feature.offset : Int) - startTokenIdx)
        if endTokenIdx ≥ feature.stop then
          let (keys, nextMmIdx) := mmKeysFrom startTokenIdx endTokenIdx rest (currMmIdx + 1)
          (key :: keys, nextMmIdx)
        else
          ([key], currMmIdx)
    else
      ([], currMmIdx)

-- A negative index counts from the end; only -1 is ever passed.
def firstMmIdx (features : List MultiModalFeatureSpec) (startMmIdx : Int) : Nat :=
  (if startMmIdx < 0 then (features.length : Int) + startMmIdx else startMmIdx).toNat

def genMmExtraHashKeys (request : Request H) (startTokenIdx endTokenIdx : Nat)
    (startMmIdx : Int) : List ExtraKey × Int :=
  match request.mmFeatures.getLast? with
  | none => ([], startMmIdx)
  | some last =>
    if last.stop ≤ startTokenIdx then
      ([], startMmIdx)
    else
      let first := firstMmIdx request.mmFeatures startMmIdx
      let (keys, nextMmIdx) :=
        mmKeysFrom startTokenIdx endTokenIdx (request.mmFeatures.drop first) first
      (keys, nextMmIdx)

def genLoraExtraHashKeys (request : Request H) : List ExtraKey :=
  match request.loraRequest with
  | none => []
  | some lora => [.text lora.loraName]

def cacheSaltKeys (request : Request H) (startTokenIdx : Nat) : List ExtraKey :=
  match request.cacheSalt with
  | none => []
  | some salt => if startTokenIdx = 0 ∧ salt ≠ "" then [.text salt] else []

variable (hasher : Hasher H)

-- The per-request memo of the digests is left out: `prompt_embeds` never changes.
def genPromptEmbedsExtraHashKeys (request : Request H)
    (startTokenIdx endTokenIdx : Nat) : List ExtraKey :=
  match request.promptEmbeds with
  | none => []
  | some embeds => [.digest (hasher.sha256 (embeds.extract startTokenIdx endTokenIdx).flatten)]

def packExtraKeys (extraKeys : List ExtraKey) : Option (List ExtraKey) :=
  if extraKeys.isEmpty then none else some extraKeys

def generateBlockHashExtraKeys (request : Request H)
    (startTokenIdx endTokenIdx : Nat) (startMmIdx : Int) : Option (List ExtraKey) × Int :=
  let (mmExtraKeys, newStartMmIdx) :=
    genMmExtraHashKeys request startTokenIdx endTokenIdx startMmIdx
  let extraKeys := genLoraExtraHashKeys request ++ mmExtraKeys ++
    cacheSaltKeys request startTokenIdx ++
    genPromptEmbedsExtraHashKeys hasher request startTokenIdx endTokenIdx
  (packExtraKeys extraKeys, newStartMmIdx)

def hashBlockTokens (parentBlockHash : Option H)
    (currBlockTokenIds : List TokenId) (extraKeys : Option (List ExtraKey)) : H :=
  hasher.hashFunction (parentBlockHash.getD hasher.noneHash, currBlockTokenIds, extraKeys)

def hashBlocksFrom (hasher : Hasher H) (hashBlockSize : Nat) (request : Request H) :
    Nat → Nat → Int → Option H → List H
  | 0, _, _, _ => []
  | fuel + 1, startTokenIdx, currMmIdx, prevBlockHash =>
    let endTokenIdx := startTokenIdx + hashBlockSize
    if endTokenIdx > request.numTokens then []
    else
      let (extraKeys, nextMmIdx) :=
        generateBlockHashExtraKeys hasher request startTokenIdx endTokenIdx currMmIdx
      let blockTokens := request.allTokenIds.extract startTokenIdx endTokenIdx
      let blockHash := hashBlockTokens hasher prevBlockHash blockTokens extraKeys
      blockHash :: hashBlocksFrom hasher hashBlockSize request fuel endTokenIdx nextMmIdx
        (some blockHash)

def requestBlockHasher (hashBlockSize : Nat) (request : Request H) : List H :=
  let startTokenIdx := request.blockHashes.length * hashBlockSize
  if startTokenIdx + hashBlockSize > request.numTokens then []
  else
    let currMmIdx : Int := if startTokenIdx > 0 then -1 else 0
    hashBlocksFrom hasher hashBlockSize request request.numTokens startTokenIdx currMmIdx
      request.blockHashes.getLast?

end VllmEngine
