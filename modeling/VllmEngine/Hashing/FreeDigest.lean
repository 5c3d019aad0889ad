import VllmEngine.Hashing.BlockHash

set_option autoImplicit false

namespace VllmEngine

inductive FreeDigest where
  | seed
  | block (parent : FreeDigest) (tokenIds : List TokenId) (extraKeys : Option (List ExtraKey))
  deriving DecidableEq, Repr

def freeHasher : Hasher FreeDigest where
  hashFunction := fun (parent, tokenIds, extraKeys) => .block parent tokenIds extraKeys
  noneHash := .seed
  sha256 := id

theorem freeHasher_injective : Function.Injective freeHasher.hashFunction := by
  rintro ⟨_, _, _⟩ ⟨_, _, _⟩ same
  simpa [freeHasher] using same

end VllmEngine
