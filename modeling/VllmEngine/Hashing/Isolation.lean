import VllmEngine.Hashing.RunHashes

set_option autoImplicit false

namespace VllmEngine

open HashChain Request ExtraKey List

variable {H : Type} {startTokenIdx : Nat} {keys keys' : List ExtraKey} {request : Request H}

namespace Request

def loraName (request : Request H) : Option String := request.loraRequest.map (·.loraName)

-- An empty salt counts as no salt.
def effectiveSalt (request : Request H) : Option String := request.cacheSalt.filter (· ≠ "")

end Request

def textKeys (text : Option String) : List ExtraKey := text.toList.map .text

theorem genLoraExtraHashKeys_eq (request : Request H) :
    genLoraExtraHashKeys request = textKeys request.loraName := by
  cases lora : request.loraRequest <;>
    simp [genLoraExtraHashKeys, textKeys, loraName, lora]

theorem cacheSaltKeys_zero (request : Request H) :
    cacheSaltKeys request 0 = textKeys request.effectiveSalt := by
  cases salt : request.cacheSalt with
  | none => simp [cacheSaltKeys, textKeys, effectiveSalt, salt]
  | some value =>
    by_cases empty : value = "" <;>
      simp [cacheSaltKeys, textKeys, effectiveSalt, salt, empty, Option.filter_some]

theorem cacheSaltKeys_pos (request : Request H) (later : 0 < startTokenIdx) :
    cacheSaltKeys request startTokenIdx = [] := by
  cases salt : request.cacheSalt <;> simp [cacheSaltKeys, salt, later.ne']

def OnlyMm (keys : List ExtraKey) : Prop := ∀ key ∈ keys, ∃ identifier offset, key = .mm identifier offset

theorem overlapKeys_onlyMm (features : List MultiModalFeatureSpec)
    (startTokenIdx endTokenIdx : Nat) : OnlyMm (overlapKeys features startTokenIdx endTokenIdx) := by
  intro key member
  obtain ⟨_, _, rfl⟩ := mem_map.mp member
  exact ⟨_, _, rfl⟩

theorem OnlyMm.text_not_mem {keys : List ExtraKey} (only : OnlyMm keys) (value : String) :
    text value ∉ keys := by
  intro member
  obtain ⟨_, _, same⟩ := only _ member
  simp at same

theorem OnlyMm.append_text_inj (only : OnlyMm keys)
    (only' : OnlyMm keys') {salt salt' : Option String}
    (same : keys ++ textKeys salt = keys' ++ textKeys salt') : keys = keys' ∧ salt = salt' := by
  cases salt with
  | none =>
    cases salt' with
    | none => simpa [textKeys] using same
    | some value =>
      have : text value ∈ keys := by
        have := congrArg (text value ∈ ·) same
        simpa [textKeys] using this
      exact absurd this (only.text_not_mem value)
  | some value =>
    cases salt' with
    | none =>
      have : text value ∈ keys' := by
        have := congrArg (text value ∈ ·) same
        simpa [textKeys] using this
      exact absurd this (only'.text_not_mem value)
    | some value' =>
      obtain ⟨front, back⟩ := List.append_inj' same rfl
      exact ⟨front, by simpa [textKeys] using back⟩

-- One text that is read as an adapter name and as a salt.
def ReadTwice (keys : List ExtraKey) (lora salt lora' salt' : Option String) : Prop :=
  keys = [] ∧ ∃ value, lora = some value ∧ salt = none ∧ lora' = none ∧ salt' = some value

theorem firstBlockKeys_inj (only : OnlyMm keys)
    (only' : OnlyMm keys') {lora lora' salt salt' : Option String}
    (same : textKeys lora ++ (keys ++ textKeys salt) = textKeys lora' ++ (keys' ++ textKeys salt')) :
    keys = keys' ∧ ((lora = lora' ∧ salt = salt') ∨ ReadTwice keys lora salt lora' salt' ∨
      ReadTwice keys lora' salt' lora salt) := by
  have mixed {keys keys' : List ExtraKey} (only : OnlyMm keys) (only' : OnlyMm keys')
      {value : String} {salt salt' : Option String}
      (same : text value :: (keys ++ textKeys salt) = keys' ++ textKeys salt') :
      keys = [] ∧ keys' = [] ∧ salt = none ∧ salt' = some value := by
    cases keys' with
    | nil =>
      cases salt' with
      | none => simp [textKeys] at same
      | some value' =>
        cases salt <;> simp_all [textKeys]
    | cons head tail =>
      obtain ⟨_, _, rfl⟩ := only' head (by simp)
      simp at same
  cases lora with
  | none =>
    cases lora' with
    | none =>
      obtain ⟨rfl, rfl⟩ := only.append_text_inj only' (by simpa [textKeys] using same)
      exact ⟨rfl, .inl ⟨rfl, rfl⟩⟩
    | some value' =>
      obtain ⟨rfl, rfl, rfl, rfl⟩ := mixed only' only (by simpa [textKeys] using same.symm)
      exact ⟨rfl, .inr (.inr ⟨rfl, value', rfl, rfl, rfl, rfl⟩)⟩
  | some value =>
    cases lora' with
    | none =>
      obtain ⟨rfl, rfl, rfl, rfl⟩ := mixed only only' (by simpa [textKeys] using same)
      exact ⟨rfl, .inr (.inl ⟨rfl, value, rfl, rfl, rfl, rfl⟩)⟩
    | some value' =>
      simp only [textKeys, Option.toList_some, map_cons, cons_append, List.cons.injEq, text.injEq] at same
      obtain ⟨rfl, rest⟩ := same
      obtain ⟨rfl, rfl⟩ := only.append_text_inj only' rest
      exact ⟨rfl, .inl ⟨rfl, rfl⟩⟩

structure Agree (hashBlockSize : Nat) (left right : Request H) (index : Nat) : Prop where
  tokens : left.allTokenIds.take ((index + 1) * hashBlockSize) =
    right.allTokenIds.take ((index + 1) * hashBlockSize)
  lora : left.loraName = right.loraName
  salt : left.effectiveSalt = right.effectiveSalt
  items : ∀ block ≤ index,
    overlapKeys left.mmFeatures (block * hashBlockSize) ((block + 1) * hashBlockSize) =
      overlapKeys right.mmFeatures (block * hashBlockSize) ((block + 1) * hashBlockSize)

def NamedAsSalt (left right : Request H) : Prop :=
  ∃ value, left.loraName = some value ∧ left.effectiveSalt = none ∧
    right.loraName = none ∧ right.effectiveSalt = some value

def LoraSaltClash (hashBlockSize : Nat) (left right : Request H) (index : Nat) : Prop :=
  index = 0 ∧ left.allTokenIds.take hashBlockSize = right.allTokenIds.take hashBlockSize ∧
    overlapKeys left.mmFeatures 0 hashBlockSize = [] ∧
    overlapKeys right.mmFeatures 0 hashBlockSize = [] ∧
    (NamedAsSalt left right ∨ NamedAsSalt right left)

section

variable (hasher : Hasher H) (plain : request.promptEmbeds = none)
  (items : List MultiModalFeatureSpec)

include plain

theorem blockExtraKeys_zero (endTokenIdx : Nat) :
    blockExtraKeys hasher request items 0 endTokenIdx = packExtraKeys (textKeys request.loraName ++
        (overlapKeys items 0 endTokenIdx ++ textKeys request.effectiveSalt)) := by
  simp [blockExtraKeys, genLoraExtraHashKeys_eq, cacheSaltKeys_zero, genPromptEmbedsExtraHashKeys,
    plain]

theorem blockExtraKeys_pos (later : 0 < startTokenIdx) (endTokenIdx : Nat) :
    blockExtraKeys hasher request items startTokenIdx endTokenIdx =
      packExtraKeys (textKeys request.loraName ++
        (overlapKeys items startTokenIdx endTokenIdx ++ textKeys none)) := by
  simp [blockExtraKeys, genLoraExtraHashKeys_eq, cacheSaltKeys_pos request later,
    genPromptEmbedsExtraHashKeys, plain, textKeys]

end

section

variable {hasher : Hasher H} {hashBlockSize : Nat} {left right : Request H} {index : Nat}

def SameContent (hasher : Hasher H) (hashBlockSize : Nat) (left right : Request H)
    (index : Nat) : Prop :=
  blockContent hasher hashBlockSize left left.mmFeatures index =
    blockContent hasher hashBlockSize right right.mmFeatures index

theorem laterBlock_agrees (positive : 0 < hashBlockSize) (plain : left.promptEmbeds = none)
    (plain' : right.promptEmbeds = none) (later : 0 < index)
    (same : SameContent hasher hashBlockSize left right index) :
    left.loraName = right.loraName ∧
      overlapKeys left.mmFeatures (index * hashBlockSize) ((index + 1) * hashBlockSize) =
        overlapKeys right.mmFeatures (index * hashBlockSize) ((index + 1) * hashBlockSize) := by
  have start : 0 < index * hashBlockSize := Nat.mul_pos later positive
  have keys := congrArg Prod.snd same
  simp only [blockContent, blockExtraKeys_pos hasher plain _ start,
    blockExtraKeys_pos hasher plain' _ start, packExtraKeys_injective.eq_iff] at keys
  obtain ⟨items, ⟨lora, _⟩ | ⟨_, _, _, _, _, salt⟩ | ⟨_, _, _, _, _, salt⟩⟩ :=
    firstBlockKeys_inj (overlapKeys_onlyMm _ _ _) (overlapKeys_onlyMm _ _ _) keys
  · exact ⟨lora, items⟩
  · simp at salt
  · simp at salt

theorem firstBlock_agrees (plain : left.promptEmbeds = none) (plain' : right.promptEmbeds = none)
    (same : SameContent hasher hashBlockSize left right 0) :
    overlapKeys left.mmFeatures 0 hashBlockSize = overlapKeys right.mmFeatures 0 hashBlockSize ∧
      ((left.loraName = right.loraName ∧ left.effectiveSalt = right.effectiveSalt) ∨
        overlapKeys left.mmFeatures 0 hashBlockSize = [] ∧
          (NamedAsSalt left right ∨ NamedAsSalt right left)) := by
  have keys := congrArg Prod.snd same
  simp only [blockContent, Nat.zero_mul, Nat.zero_add, Nat.one_mul, blockExtraKeys_zero hasher plain,
    blockExtraKeys_zero hasher plain', packExtraKeys_injective.eq_iff] at keys
  obtain ⟨items, agree | ⟨none, clash⟩ | ⟨none, clash⟩⟩ :=
    firstBlockKeys_inj (overlapKeys_onlyMm _ _ _) (overlapKeys_onlyMm _ _ _) keys
  · exact ⟨items, .inl agree⟩
  · exact ⟨items, .inr ⟨none, .inl clash⟩⟩
  · exact ⟨items, .inr ⟨none, .inr clash⟩⟩

theorem sameContents_agree (positive : 0 < hashBlockSize) (plain : left.promptEmbeds = none)
    (plain' : right.promptEmbeds = none)
    (same : ∀ block ≤ index, SameContent hasher hashBlockSize left right block)
    (apart : ¬ LoraSaltClash hashBlockSize left right index) :
    Agree hashBlockSize left right index := by
  have tokens : left.allTokenIds.take ((index + 1) * hashBlockSize) =
      right.allTokenIds.take ((index + 1) * hashBlockSize) :=
    (take_eq_iff_blocks_eq _ _ _ _).mpr fun block within =>
      congrArg Prod.fst (same block (Nat.le_of_lt_succ within))
  obtain ⟨first, identity⟩ := firstBlock_agrees plain plain' (same 0 (Nat.zero_le index))
  have both : left.loraName = right.loraName ∧ left.effectiveSalt = right.effectiveSalt := by
    rcases identity with agree | ⟨none, clash⟩
    · exact agree
    · -- Any later block names the adapter alone, so only block 0 by itself can be misread.
      by_cases zero : index = 0
      · subst zero
        exact absurd ⟨rfl, by simpa using tokens, none, first ▸ none, clash⟩ apart
      · have lora := (laterBlock_agrees positive plain plain' Nat.one_pos
          (same 1 (Nat.one_le_iff_ne_zero.mpr zero))).1
        rcases clash with ⟨value, named, _, unnamed, _⟩ | ⟨value, named, _, unnamed, _⟩
        · simp [named, unnamed] at lora
        · simp [named, unnamed] at lora
  refine ⟨tokens, both.1, both.2, fun block within => ?_⟩
  rcases Nat.eq_zero_or_pos block with rfl | later
  · simpa using first
  · exact (laterBlock_agrees positive plain plain' later (same block within)).2

theorem clash_sameContent (plain : left.promptEmbeds = none) (plain' : right.promptEmbeds = none)
    (clash : LoraSaltClash hashBlockSize left right index) :
    SameContent hasher hashBlockSize left right 0 := by
  obtain ⟨_, tokens, none, none', named⟩ := clash
  simp only [SameContent, blockContent, Nat.zero_mul, Nat.zero_add, Nat.one_mul,
    blockExtraKeys_zero hasher plain, blockExtraKeys_zero hasher plain', none, none',
    Prod.mk.injEq]
  refine ⟨by simpa using tokens, ?_⟩
  rcases named with ⟨value, lora, salt, lora', salt'⟩ | ⟨value, lora, salt, lora', salt'⟩ <;>
    simp [lora, salt, lora', salt', textKeys]

theorem clash_not_agree (clash : LoraSaltClash hashBlockSize left right index) :
    ¬ Agree hashBlockSize left right index := by
  intro agree
  have lora := agree.lora
  obtain ⟨_, _, _, _, named⟩ := clash
  rcases named with ⟨value, name, _, name', _⟩ | ⟨value, name, _, name', _⟩ <;>
    simp [name, name'] at lora

theorem contents_eq_of_digest_eq (injective : Function.Injective hasher.hashFunction)
    (positive : 0 < hashBlockSize) (sorted : MmSorted left.mmFeatures)
    (sorted' : MmSorted right.mmFeatures) (hashed : HashedFromScratch hasher hashBlockSize left)
    (hashed' : HashedFromScratch hasher hashBlockSize right)
    (present : index < left.blockHashes.length) (present' : index < right.blockHashes.length)
    (equal : left.blockHashes[index]? = right.blockHashes[index]?) :
    ∀ block ≤ index, SameContent hasher hashBlockSize left right block := by
  have chained := (hashedFromScratch_iff hasher positive sorted).mp hashed
  have chained' := (hashedFromScratch_iff hasher positive sorted').mp hashed'
  have count : index < left.numTokens / hashBlockSize := by
    rw [chained] at present; simpa using present
  have count' : index < right.numTokens / hashBlockSize := by
    rw [chained'] at present'; simpa using present'
  obtain ⟨digest, leftDigest⟩ : ∃ digest, left.blockHashes[index]? = some digest :=
    ⟨_, getElem?_eq_getElem present⟩
  have rightDigest := equal.symm.trans leftDigest
  rw [chained] at leftDigest
  rw [chained'] at rightDigest
  have same := (take_eq_of_digest_eq injective leftDigest rightDigest).2
  intro block within
  have content := congrArg (·[block]?) same
  simp only [getElem?_take, Nat.lt_succ_of_le within, if_true] at content
  rw [blockContents_getElem? _ _ _ _ (by omega), blockContents_getElem? _ _ _ _ (by omega),
    Option.some.injEq] at content
  simpa [SameContent] using content

theorem digest_eq_of_content (positive : 0 < hashBlockSize) (sorted : MmSorted left.mmFeatures)
    (sorted' : MmSorted right.mmFeatures) (hashed : HashedFromScratch hasher hashBlockSize left)
    (hashed' : HashedFromScratch hasher hashBlockSize right)
    (present : 0 < left.blockHashes.length) (present' : 0 < right.blockHashes.length)
    (same : SameContent hasher hashBlockSize left right 0) :
    left.blockHashes[0]? = right.blockHashes[0]? := by
  have chained := (hashedFromScratch_iff hasher positive sorted).mp hashed
  have chained' := (hashedFromScratch_iff hasher positive sorted').mp hashed'
  have count : 0 < left.numTokens / hashBlockSize := by
    rw [chained] at present; simpa using present
  have count' : 0 < right.numTokens / hashBlockSize := by
    rw [chained'] at present'; simpa using present'
  rw [chained, chained', chain_getElem?_zero, chain_getElem?_zero,
    blockContents_getElem? _ _ _ _ count, blockContents_getElem? _ _ _ _ count']
  exact congrArg _ (congrArg some same)

end

theorem create_promptEmbeds {hasher : Hasher H} {hashBlockSize : Nat} {args : RequestArgs}
    (created : create hasher hashBlockSize args = .ok request) :
    request.promptEmbeds = args.promptEmbeds := by
  simp only [create, bind, Except.bind] at created
  split at created
  · simp at created
  · simp only [pure, Except.pure, Except.ok.injEq] at created
    subst created
    rfl

theorem isolation_iff {hasher : Hasher H} (injective : Function.Injective hasher.hashFunction)
    {hashBlockSize : Nat} (positive : 0 < hashBlockSize) {args args' : RequestArgs}
    {left right : Request H} (created : Request.create hasher hashBlockSize args = .ok left)
    (created' : Request.create hasher hashBlockSize args' = .ok right)
    (plain : args.promptEmbeds = none) (plain' : args'.promptEmbeds = none)
    (sorted : MmSorted left.mmFeatures) (sorted' : MmSorted right.mmFeatures) {index : Nat}
    (present : index < left.blockHashes.length) (present' : index < right.blockHashes.length) :
    (left.blockHashes[index]? = right.blockHashes[index]? → Agree hashBlockSize left right index) ↔
      ¬ LoraSaltClash hashBlockSize left right index := by
  have embeds : left.promptEmbeds = none := (create_promptEmbeds created).trans plain
  have embeds' : right.promptEmbeds = none := (create_promptEmbeds created').trans plain'
  have hashed := create_hashedFromScratch created
  have hashed' := create_hashedFromScratch created'
  constructor
  · intro isolated clash
    obtain rfl : index = 0 := clash.1
    apply clash_not_agree clash
    apply isolated
    exact digest_eq_of_content positive sorted sorted' hashed hashed' present present'
      (clash_sameContent embeds embeds' clash)
  · intro apart equal
    exact sameContents_agree positive embeds embeds'
      (contents_eq_of_digest_eq injective positive sorted sorted' hashed hashed' present present'
        equal) apart

def tenantArgs (loraRequest : Option LoRARequest) (cacheSalt : Option String) : RequestArgs :=
  { requestId := 0
    promptTokenIds := some [1, 2, 3, 4]
    promptEmbeds := none
    mmFeatures := none
    loraRequest := loraRequest
    cacheSalt := cacheSalt }

def tenantRequest (loraRequest : Option LoRARequest) (cacheSalt : Option String) :
    Request FreeDigest :=
  (Request.unhashed (tenantArgs loraRequest cacheSalt) 4).updateBlockHashes freeHasher 4

theorem isolation_one_tenant :
    Agree 4 (tenantRequest (some ⟨"x", 1⟩) (some "y")) (tenantRequest (some ⟨"x", 1⟩) (some "y"))
      0 := by
  apply (@isolation_iff _ _ freeHasher_injective 4 (by decide)
    (tenantArgs (some ⟨"x", 1⟩) (some "y")) (tenantArgs (some ⟨"x", 1⟩) (some "y")) _ _ rfl rfl rfl
    rfl (by decide) (by decide) 0 (by decide) (by decide)).mpr
  · rintro ⟨_, _, _, _, ⟨_, _, salt, _⟩ | ⟨_, _, salt, _⟩⟩
    · exact absurd salt (by decide)
    · exact absurd salt (by decide)
  · rfl

def soundtrackRequest (audio : String) : Request FreeDigest :=
  (Request.unhashed
    { tenantArgs none none with mmFeatures := some [⟨"video", 0, 12⟩, ⟨audio, 0, 12⟩] }
    4).updateBlockHashes freeHasher 4

-- An adapter that is named like a salt, and items that overlap, of which only the first one that
-- ends behind the block is hashed into it.
theorem not_isolated :
    ((tenantRequest (some ⟨"x", 1⟩) none).blockHashes[0]? =
        (tenantRequest none (some "x")).blockHashes[0]? ∧
      ¬ Agree 4 (tenantRequest (some ⟨"x", 1⟩) none) (tenantRequest none (some "x")) 0) ∧
    (soundtrackRequest "a").blockHashes[0]? = (soundtrackRequest "b").blockHashes[0]? ∧
      ¬ Agree 4 (soundtrackRequest "a") (soundtrackRequest "b") 0 := by
  refine ⟨⟨by decide, fun agree => ?_⟩, by decide, fun agree => ?_⟩
  · exact absurd agree.lora (by decide)
  · exact absurd (agree.items 0 le_rfl) (by decide)

end VllmEngine
