import VllmEngine.Hashing.Request
import VllmEngine.Shared.Outcome
import VllmEngine.Shared.Rows

set_option autoImplicit false

namespace VllmEngine

open Function

variable {A : Type}

-- The slice is cut off at the width, and numpy broadcasts a single value.
def assignSlice (width : Nat) (row : Nat → A) (start stop : Nat) (values : List A) :
    Except PyError (Nat → A) :=
  if values.length = min stop width - start then
    .ok fun position =>
      if start ≤ position ∧ position < min stop width then
        values.getD (position - start) (row position)
      else row position
  else
    match values with
    | [value] => .ok fun position =>
      if start ≤ position ∧ position < min stop width then value else row position
    | _ => .error (.valueError "could not broadcast input array")

def fillSlice (width : Nat) (row : Nat → A) (start stop : Nat) (value : A) : Nat → A :=
  fun position =>
    if start ≤ position ∧ position < min stop width then value else row position

def copyFront (count : Nat) (source target : Nat → A) : Nat → A :=
  fun position => if position < count then source position else target position

section

variable {A : Type} {width start stop : Nat} {row changed : Nat → A} {values : List A}

theorem assignSlice_outside (assigned : assignSlice width row start stop values = .ok changed)
    {position : Nat} (outside : position < start ∨ stop ≤ position) :
    changed position = row position := by
  have out : ¬(start ≤ position ∧ position < min stop width) := by omega
  unfold assignSlice at assigned
  split at assigned
  · rw [← Except.ok.inj assigned]
    exact if_neg out
  · split at assigned
    · rw [← Except.ok.inj assigned]
      exact if_neg out
    · cases assigned

theorem assignSlice_inside
    (assigned : assignSlice width row start (start + values.length) values = .ok changed)
    {offset : Nat} {value : A} (within : start + offset < width)
    (found : values[offset]? = some value) : changed (start + offset) = value := by
  have short : offset < values.length := (List.getElem?_eq_some_iff.mp found).1
  have inside : start ≤ start + offset ∧ start + offset < min (start + values.length) width := by
    omega
  unfold assignSlice at assigned
  split at assigned
  · rw [← Except.ok.inj assigned]
    dsimp only
    rw [if_pos inside, Nat.add_sub_cancel_left, List.getD_eq_getElem?_getD, found]
    rfl
  · split at assigned
    · rw [← Except.ok.inj assigned]
      dsimp only
      rw [if_pos inside]
      have first : offset = 0 := by
        simp only [List.length_singleton] at short
        omega
      subst first
      exact Option.some.inj found
    · cases assigned

@[simp] theorem copyFront_lt {count position : Nat} (source target : Nat → A)
    (front : position < count) : copyFront count source target position = source position :=
  if_pos front

end

structure BlockTable where
  blocksPerKvBlock : Nat
  maxNumBlocksPerReq : Nat
  blockTable : Nat → Nat → Nat
  numBlocksPerRow : Nat → Nat

namespace BlockTable

def mapToKernelBlocks (blockIds : List Nat) (blocksPerKvBlock : Nat) : List Nat :=
  if blocksPerKvBlock = 1 then blockIds
  else blockIds.flatMap fun blockId =>
    (List.range blocksPerKvBlock).map (blockId * blocksPerKvBlock + ·)

variable (table : BlockTable)

def appendRow (blockIds : List Nat) (row : Nat) : Except PyError BlockTable := do
  if blockIds.isEmpty then return table
  else
    let blockIds := mapToKernelBlocks blockIds table.blocksPerKvBlock
    let start := table.numBlocksPerRow row
    let changed ← assignSlice table.maxNumBlocksPerReq (table.blockTable row) start
      (start + blockIds.length) blockIds
    return { table with
      blockTable := update table.blockTable row changed
      numBlocksPerRow := update table.numBlocksPerRow row (start + blockIds.length) }

def addRow (blockIds : List Nat) (row : Nat) : Except PyError BlockTable :=
  appendRow { table with numBlocksPerRow := update table.numBlocksPerRow row 0 }
    blockIds row

def clearRow (row : Nat) : BlockTable :=
  { table with
    blockTable := update table.blockTable row
      (copyFront (table.numBlocksPerRow row) (fun _ => 0) (table.blockTable row))
    numBlocksPerRow := update table.numBlocksPerRow row 0 }

def moveRow (source target : Nat) : BlockTable :=
  let numBlocks := table.numBlocksPerRow source
  let blockTable := update table.blockTable target
    (copyFront numBlocks (table.blockTable source) (table.blockTable target))
  { table with
    blockTable := update blockTable source
      (copyFront numBlocks (fun _ => 0) (blockTable source))
    numBlocksPerRow :=
      update (update table.numBlocksPerRow target numBlocks) source 0 }

def swapRow (source target : Nat) : BlockTable :=
  { table with
    blockTable := Rows.swap table.blockTable source target
    numBlocksPerRow := Rows.swap table.numBlocksPerRow source target }

def kernelRow (blockIds : List Nat) : List Nat :=
  mapToKernelBlocks blockIds table.blocksPerKvBlock

end BlockTable

end VllmEngine
