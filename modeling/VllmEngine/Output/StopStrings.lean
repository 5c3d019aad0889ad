import VllmEngine.Output.Detokenizer

set_option autoImplicit false

namespace VllmEngine

open List

variable {stop : List (List Char)} {text more stopStr other : List Char} {offset i j : Nat}

def EndsBeyond (offset : Nat) (text stopStr : List Char) (i : Nat) : Prop :=
  OccursAt stopStr text i ∧ offset < i + stopStr.length

def NoneBeyond (stop : List (List Char)) (offset : Nat) (text : List Char) : Prop :=
  ∀ stopStr ∈ stop, ∀ i, ¬EndsBeyond offset text stopStr i

structure Chosen (stop : List (List Char)) (offset : Nat) (text stopStr : List Char) (i : Nat) :
    Prop where
  ends : EndsBeyond offset text stopStr i
  split : ∃ before after, stop = before ++ stopStr :: after ∧
    (∀ other ∈ before, ∀ j, EndsBeyond offset text other j →
      i + stopStr.length < j + other.length) ∧
    ∀ other ∈ after, ∀ j, EndsBeyond offset text other j → i + stopStr.length ≤ j + other.length
  first : ∀ j, EndsBeyond offset text stopStr j → i ≤ j

namespace EndsBeyond

theorem append (ends : EndsBeyond offset text stopStr i) :
    EndsBeyond offset (text ++ more) stopStr i :=
  ⟨ends.1.append, ends.2⟩

theorem of_append (ends : EndsBeyond offset (text ++ more) stopStr i) :
    EndsBeyond offset text stopStr i ∨ text.length < i + stopStr.length := by
  by_cases inside : i + stopStr.length ≤ text.length
  · exact .inl ⟨ends.1.of_append inside, ends.2⟩
  · exact .inr (by omega)

theorem le_length (ends : EndsBeyond offset text stopStr i) :
    i + stopStr.length ≤ text.length :=
  ends.1.add_length_le

end EndsBeyond

namespace Chosen

section

variable (chosen : Chosen stop offset text stopStr i)

include chosen

theorem least (member : other ∈ stop) (ends : EndsBeyond offset text other j) :
    i + stopStr.length ≤ j + other.length := by
  obtain ⟨_, _, rfl, ahead, behind⟩ := chosen.split
  rcases List.mem_append.mp member with earlier | later
  · exact (ahead other earlier j ends).le
  · rcases List.mem_cons.mp later with rfl | later
    · have := chosen.first j ends
      omega
    · exact behind other later j ends

theorem member : stopStr ∈ stop := by
  obtain ⟨_, _, rfl, -⟩ := chosen.split
  simp

theorem not_noneBeyond :
    ¬NoneBeyond stop offset text :=
  fun absent => absent stopStr chosen.member i chosen.ends

theorem unique (chosen' : Chosen stop offset text other j) : stopStr = other ∧ i = j := by
  have same_end : i + stopStr.length = j + other.length :=
    le_antisymm (chosen.least chosen'.member chosen'.ends)
      (chosen'.least chosen.member chosen.ends)
  obtain ⟨before, _, stop_eq, ahead, -⟩ := chosen.split
  obtain ⟨_, _, stop_eq', ahead', -⟩ := chosen'.split
  -- Neither stands before the other in the list: it would have to end strictly later.
  have same : stopStr = other := by
    rw [stop_eq, append_eq_append_iff] at stop_eq'
    rcases stop_eq' with ⟨skipped, rfl, tail_eq⟩ | ⟨skipped, rfl, tail_eq⟩
    · cases skipped with
      | nil => exact (List.cons.inj tail_eq).1
      | cons head skipped =>
        obtain ⟨rfl, -⟩ := List.cons.inj tail_eq
        have := ahead' stopStr (by simp) i chosen.ends
        omega
    · cases skipped with
      | nil => exact (List.cons.inj tail_eq).1.symm
      | cons head skipped =>
        obtain ⟨rfl, -⟩ := List.cons.inj tail_eq
        have := ahead other (by simp) j chosen'.ends
        omega
  subst same
  exact ⟨rfl, by omega⟩

theorem append :
    Chosen stop offset (text ++ more) stopStr i := by
  have bound := chosen.ends.le_length
  obtain ⟨before, after, stop_eq, ahead, behind⟩ := chosen.split
  refine ⟨chosen.ends.append, ⟨before, after, stop_eq, ?_, ?_⟩, ?_⟩
  · intro other member j ends
    rcases ends.of_append with old | beyond
    · exact ahead other member j old
    · omega
  · intro other member j ends
    rcases ends.of_append with old | beyond
    · exact behind other member j old
    · omega
  · intro j ends
    rcases ends.of_append with old | beyond
    · exact chosen.first j old
    · omega

theorem of_offset {offset' : Nat} (later : offset' ≤ offset)
    (nothing : ∀ other ∈ stop, ∀ j, EndsBeyond offset' text other j →
      EndsBeyond offset text other j) : Chosen stop offset' text stopStr i := by
  have member := chosen.member
  obtain ⟨before, after, stop_eq, ahead, behind⟩ := chosen.split
  refine ⟨⟨chosen.ends.1, lt_of_le_of_lt later chosen.ends.2⟩, ⟨before, after, stop_eq, ?_, ?_⟩, ?_⟩
  · intro other mem j ends
    exact ahead other mem j (nothing other (by simp [stop_eq, mem]) j ends)
  · intro other mem j ends
    exact behind other mem j (nothing other (by simp [stop_eq, mem]) j ends)
  · intro j ends
    exact chosen.first j (nothing stopStr member j ends)

end

end Chosen

section Search

variable {newCharCount : Nat} {best : Option StopMatch} {seen : List (List Char)}

theorem pyFind_window (nonempty : stopStr ≠ []) (fresh : 0 < newCharCount)
    (within : newCharCount ≤ text.length) :
    (pyFind text stopStr (1 - (newCharCount : Int) - stopStr.length) = -1 ∧
      ∀ i, ¬EndsBeyond (text.length - newCharCount) text stopStr i) ∨
    ∃ i : Nat, pyFind text stopStr (1 - (newCharCount : Int) - stopStr.length) = i ∧
      EndsBeyond (text.length - newCharCount) text stopStr i ∧
      ∀ j, EndsBeyond (text.length - newCharCount) text stopStr j → i ≤ j := by
  have long := List.length_pos_iff.mpr nonempty
  have start : pyIndex text.length (1 - (newCharCount : Int) - stopStr.length) =
      text.length - newCharCount + 1 - stopStr.length := by
    have negative : (1 - (newCharCount : Int) - stopStr.length) < 0 := by omega
    rw [pyIndex, if_pos negative]
    omega
  have bound : text.length - newCharCount + 1 - stopStr.length ≤ text.length := by omega
  have shift : ∀ {k}, OccursAt stopStr
      (text.drop (text.length - newCharCount + 1 - stopStr.length)) k ↔
      OccursAt stopStr text (text.length - newCharCount + 1 - stopStr.length + k) :=
    OccursAt.drop _ bound
  cases found : findIndex stopStr
      (text.drop (text.length - newCharCount + 1 - stopStr.length)) with
  | none =>
    refine .inl ⟨by simp [pyFind, start, found], fun i ends => ?_⟩
    have beyond := ends.2
    apply findIndex_eq_none.mp found (i - (text.length - newCharCount + 1 - stopStr.length))
    rw [shift, Nat.add_sub_cancel' (by omega)]
    exact ends.1
  | some k =>
    obtain ⟨occurs, first⟩ := findIndex_eq_some.mp found
    refine .inr ⟨text.length - newCharCount + 1 - stopStr.length + k,
      by simp [pyFind, start, found], ⟨shift.mp occurs, by omega⟩, fun j ends => ?_⟩
    by_contra earlier
    have beyond := ends.2
    apply first (j - (text.length - newCharCount + 1 - stopStr.length)) (by omega)
    rw [shift, Nat.add_sub_cancel' (by omega)]
    exact ends.1

def Searched (stop : List (List Char)) (offset : Nat) (text : List Char) :
    Option StopMatch → Prop
  | none => NoneBeyond stop offset text
  | some best => best.endIndex = best.stopIndex + best.stopStr.length ∧
    Chosen stop offset text best.stopStr best.stopIndex

theorem Chosen.concat {offset i : Nat} {best : List Char}
    (chosen : Chosen seen offset text best i)
    (later : ∀ j, EndsBeyond offset text stopStr j → i + best.length ≤ j + stopStr.length) :
    Chosen (seen ++ [stopStr]) offset text best i := by
  obtain ⟨before, after, rfl, ahead, behind⟩ := chosen.split
  refine ⟨chosen.ends, ⟨before, after ++ [stopStr], by simp, ahead, ?_⟩, chosen.first⟩
  intro other member j ends
  rcases List.mem_append.mp member with old | new
  · exact behind other old j ends
  · rw [List.mem_singleton.mp new] at ends ⊢
    exact later j ends

theorem Searched.better
    (searched : Searched seen (text.length - newCharCount) text best) (nonempty : stopStr ≠ [])
    (fresh : 0 < newCharCount) (within : newCharCount ≤ text.length) :
    Searched (seen ++ [stopStr]) (text.length - newCharCount) text
      (StopMatch.better text newCharCount best stopStr) := by
  rcases pyFind_window nonempty fresh within with ⟨missing, absent⟩ | ⟨i, found, ends, first⟩
  · simp only [StopMatch.better, missing]
    cases best with
    | none =>
      intro other member
      rcases List.mem_append.mp member with old | new
      · exact searched other old
      · rwa [List.mem_singleton.mp new]
    | some best =>
      exact ⟨searched.1, searched.2.concat fun j ends => absurd ends (absent j)⟩
  · have present : (i : Int) ≠ -1 := by omega
    simp only [StopMatch.better, found, Int.toNat_natCast]
    cases best with
    | none =>
      refine ⟨rfl, ends, ⟨seen, [], rfl, ?_, by simp⟩, first⟩
      intro other member j other_ends
      exact absurd other_ends (searched other member j)
    | some best =>
      obtain ⟨end_eq, chosen⟩ := searched
      by_cases sooner : i + stopStr.length < best.endIndex
      · simp only [sooner]
        refine ⟨rfl, ends, ⟨seen, [], rfl, ?_, by simp⟩, first⟩
        intro other member j other_ends
        have least := chosen.least member other_ends
        simp only
        omega
      · simp only [sooner]
        refine ⟨end_eq, chosen.concat fun j other_ends => ?_⟩
        have := first j other_ends
        omega

theorem searched_foldl (searched : Searched seen (text.length - newCharCount) text best)
    (nonempty : ∀ stopStr ∈ stop, stopStr ≠ []) (fresh : 0 < newCharCount)
    (within : newCharCount ≤ text.length) :
    Searched (seen ++ stop) (text.length - newCharCount) text
      (stop.foldl (StopMatch.better text newCharCount) best) := by
  induction stop generalizing seen best with
  | nil => simpa using searched
  | cons stopStr stop ih =>
    have next := searched.better (nonempty stopStr (by simp)) fresh within
    have rest := ih next fun other member => nonempty other (mem_cons_of_mem _ member)
    simpa using rest

def truncated (includeInOutput : Bool) (text stopStr : List Char) (i : Nat) : List Char :=
  text.take (if includeInOutput then i + stopStr.length else i)

theorem checkStopStrings_spec (stop : List (List Char)) (includeInOutput : Bool)
    (nonempty : ∀ stopStr ∈ stop, stopStr ≠ []) (within : offset ≤ text.length) :
    (checkStopStrings text (text.length - offset) stop includeInOutput = none ∧
      NoneBeyond stop offset text) ∨
    ∃ stopStr i truncateTo, checkStopStrings text (text.length - offset) stop includeInOutput =
        some (stopStr, truncateTo) ∧ Chosen stop offset text stopStr i ∧
      (if truncateTo ≠ -1 then pySlice text 0 truncateTo else text) =
        truncated includeInOutput text stopStr i := by
  by_cases idle : text.length - offset = 0 ∨ stop = []
  · refine .inl ⟨by rw [checkStopStrings, if_pos idle], fun stopStr member i ends => ?_⟩
    have bound := ends.le_length
    have beyond := ends.2
    rcases idle with _ | rfl
    · omega
    · simp at member
  · have offset_eq : text.length - (text.length - offset) = offset := by omega
    have initial : Searched [] (text.length - (text.length - offset)) text none :=
      fun stopStr member => by simp at member
    have searched := searched_foldl initial nonempty (by omega) (Nat.sub_le _ _)
    rw [nil_append, offset_eq] at searched
    cases best : stop.foldl (StopMatch.better text (text.length - offset)) none with
    | none =>
      rw [best] at searched
      exact .inl ⟨by simp only [checkStopStrings, idle, if_false, best], searched⟩
    | some found =>
      rw [best] at searched
      obtain ⟨end_eq, chosen⟩ := searched
      have bound := chosen.ends.le_length
      right
      simp only [checkStopStrings, idle, if_false, best]
      cases includeInOutput with
      | true =>
        by_cases whole : found.endIndex ≥ text.length
        · refine ⟨_, _, -1, by simp only [whole, if_true], chosen, ?_⟩
          simp only [ne_eq, not_true_eq_false, if_false, truncated, if_true]
          exact (take_of_length_le (by omega)).symm
        · refine ⟨_, _, found.endIndex, by simp only [whole, if_true, if_false], chosen, ?_⟩
          have natural : (found.endIndex : Int) ≠ -1 := by omega
          have slice := pySlice_natCast (Nat.zero_le text.length) (Nat.le_of_lt (not_le.mp whole))
          simp only [truncated, ← end_eq]
          simpa using slice
      | false =>
        refine ⟨_, _, found.stopIndex, by simp only [Bool.false_eq_true, if_false], chosen, ?_⟩
        have natural : (found.stopIndex : Int) ≠ -1 := by omega
        have slice := pySlice_natCast (Nat.zero_le text.length) (show found.stopIndex ≤ text.length
          by omega)
        simp only [truncated]
        simpa using slice

end Search

namespace BaseIncrementalDetokenizer

variable {Token : Type} {detokenizer : BaseIncrementalDetokenizer Token} {tokens : List Token}

def textOf (detokenizer : BaseIncrementalDetokenizer Token) (tokens : List Token) : List Char :=
  tokens.flatMap detokenizer.decodeNext

def boundary (detokenizer : BaseIncrementalDetokenizer Token) (tokens : List Token) : Nat :=
  (detokenizer.textOf (tokens.take detokenizer.minTokens)).length

theorem textOf_append (tokens more : List Token) :
    detokenizer.textOf (tokens ++ more) = detokenizer.textOf tokens ++ detokenizer.textOf more :=
  flatMap_append

theorem boundary_le : detokenizer.boundary tokens ≤ (detokenizer.textOf tokens).length := by
  have whole := congrArg (List.length ∘ detokenizer.textOf)
    (take_append_drop detokenizer.minTokens tokens)
  simp only [Function.comp, textOf_append, length_append] at whole
  rw [boundary]
  omega

theorem boundary_of_le (few : tokens.length ≤ detokenizer.minTokens) :
    detokenizer.boundary tokens = (detokenizer.textOf tokens).length := by
  rw [boundary, take_of_length_le few]

def after (detokenizer : BaseIncrementalDetokenizer Token) (tokens : List Token) :
    BaseIncrementalDetokenizer Token :=
  { detokenizer with tokenIds := tokens, outputText := detokenizer.textOf tokens }

theorem countSkipped_nil : detokenizer.countSkipped [] = detokenizer := by
  simp [countSkipped]

theorem decodeTokens (tokens newTokenIds : List Token) {offset : Nat}
    (reached : tokens.length ≤ detokenizer.minTokens ∧ 0 < detokenizer.minTokens →
      offset = (detokenizer.textOf tokens).length) :
    newTokenIds.foldl decodeToken (detokenizer.after tokens, offset) =
      (detokenizer.after (tokens ++ newTokenIds),
        if tokens.length < detokenizer.minTokens then detokenizer.boundary (tokens ++ newTokenIds)
        else offset) := by
  induction newTokenIds generalizing tokens offset with
  | nil =>
    by_cases few : tokens.length < detokenizer.minTokens
    · simp only [foldl_nil, append_nil, few, if_true, boundary_of_le few.le]
      rw [reached ⟨few.le, by omega⟩]
    · simp [few]
  | cons token newTokenIds ih =>
    have decoded : decodeToken (detokenizer.after tokens, offset) token =
        (detokenizer.after (tokens ++ [token]),
          if tokens.length < detokenizer.minTokens then
            (detokenizer.textOf (tokens ++ [token])).length else offset) := by
      have text_eq : detokenizer.textOf tokens ++ detokenizer.decodeNext token =
          detokenizer.textOf (tokens ++ [token]) := by simp [textOf]
      by_cases few : tokens.length < detokenizer.minTokens
      · have counted : detokenizer.minTokens ≠ 0 ∧ tokens.length + 1 ≤ detokenizer.minTokens :=
          ⟨by omega, few⟩
        simp [decodeToken, after, numOutputTokens, text_eq, few, counted]
      · have counted : ¬(detokenizer.minTokens ≠ 0 ∧ tokens.length + 1 ≤ detokenizer.minTokens) :=
          fun counted => few counted.2
        simp only [decodeToken, after, numOutputTokens, text_eq, few, if_false, length_append,
          length_singleton, counted]
    rw [foldl_cons, decoded, ih]
    · simp only [append_assoc]
      -- Whether the boundary lies in the rest of the call, at its first token, or before it.
      by_cases more : tokens.length + 1 < detokenizer.minTokens
      · simp [more, show tokens.length < detokenizer.minTokens by omega]
      · by_cases few : tokens.length < detokenizer.minTokens
        · have exact_ : (tokens ++ [token]).length = detokenizer.minTokens := by
            rw [length_append, length_singleton]
            omega
          have taken : (tokens ++ token :: newTokenIds).take detokenizer.minTokens =
              tokens ++ [token] := by
            have split_eq : tokens ++ token :: newTokenIds = (tokens ++ [token]) ++ newTokenIds := by
              simp
            rw [split_eq, ← exact_, take_left]
          simp [more, boundary, taken]
        · simp [more, few]
    · rintro ⟨few, -⟩
      rw [length_append, length_singleton] at few
      simp [show tokens.length < detokenizer.minTokens by omega]

theorem boundary_append (more : List Token) (enough : detokenizer.minTokens ≤ tokens.length) :
    detokenizer.boundary (tokens ++ more) = detokenizer.boundary tokens := by
  rw [boundary, boundary, take_append_of_le_length enough]

def Quiet (detokenizer : BaseIncrementalDetokenizer Token) (tokens : List Token) : Prop :=
  NoneBeyond detokenizer.stop (detokenizer.boundary tokens) (detokenizer.textOf tokens)

inductive Gives (detokenizer : BaseIncrementalDetokenizer Token) (tokens : List Token) :
    Option (List Char) → List Char → Prop
  | none (quiet : detokenizer.Quiet tokens) :
    Gives detokenizer tokens none (detokenizer.textOf tokens)
  | stop {stopStr : List Char} {i : Nat}
    (chosen : Chosen detokenizer.stop (detokenizer.boundary tokens) (detokenizer.textOf tokens)
      stopStr i) :
    Gives detokenizer tokens (some stopStr)
      (truncated detokenizer.includeStopStrInOutput (detokenizer.textOf tokens) stopStr i)

namespace Gives

variable {stopString stopString' : Option (List Char)} {outputText outputText' : List Char}

theorem unique (gives : detokenizer.Gives tokens stopString outputText)
    (gives' : detokenizer.Gives tokens stopString' outputText') :
    stopString = stopString' ∧ outputText = outputText' := by
  cases gives with
  | none quiet =>
    cases gives' with
    | none => exact ⟨rfl, rfl⟩
    | stop chosen => exact absurd quiet chosen.not_noneBeyond
  | stop chosen =>
    cases gives' with
    | none quiet => exact absurd quiet chosen.not_noneBeyond
    | stop chosen' =>
      obtain ⟨rfl, rfl⟩ := chosen.unique chosen'
      exact ⟨rfl, rfl⟩

theorem append {stopStr : List Char} (more : List Token)
    (gives : detokenizer.Gives tokens (some stopStr) outputText) :
    detokenizer.Gives (tokens ++ more) (some stopStr) outputText := by
  cases gives with
  | @stop _ i chosen =>
    have bound := chosen.ends.le_length
    have beyond := chosen.ends.2
    have enough : detokenizer.minTokens ≤ tokens.length := by
      by_contra few
      rw [boundary_of_le (by omega)] at beyond
      omega
    have kept : truncated detokenizer.includeStopStrInOutput (detokenizer.textOf tokens) stopStr i =
        truncated detokenizer.includeStopStrInOutput (detokenizer.textOf (tokens ++ more)) stopStr
          i := by
      rw [truncated, truncated, textOf_append, take_append_of_le_length]
      split <;> omega
    rw [kept]
    apply stop
    rw [boundary_append more enough, textOf_append]
    exact chosen.append

end Gives

section Calls

variable (nonempty : ∀ stopStr ∈ detokenizer.stop, stopStr ≠ [])

include nonempty

theorem evaluateStop_gives (skipped : List Token) {offset : Nat}
    (above : detokenizer.boundary tokens ≤ offset)
    (within : offset ≤ (detokenizer.textOf tokens).length)
    (nothing : ∀ stopStr ∈ detokenizer.stop, ∀ i,
      EndsBeyond (detokenizer.boundary tokens) (detokenizer.textOf tokens) stopStr i →
        EndsBeyond offset (detokenizer.textOf tokens) stopStr i) :
    let result := ((detokenizer.after tokens).countSkipped skipped).evaluateStop offset
    detokenizer.Gives tokens result.1 result.2.outputText ∧
      (result.1 = none → result.2 = (detokenizer.after tokens).countSkipped skipped) := by
  by_cases evaluated :
      detokenizer.stop ≠ [] ∧ (tokens ++ skipped).length > detokenizer.minTokens
  · rcases checkStopStrings_spec detokenizer.stop detokenizer.includeStopStrInOutput nonempty within
      with ⟨checked, absent⟩ | ⟨stopStr, i, _, checked, chosen, left⟩
    · simp only [evaluateStop, after, countSkipped, numOutputTokens, evaluated, if_true, checked, ne_eq,
        not_false_eq_true, implies_true, and_true]
      exact .none fun stopStr member i ends => absent stopStr member i (nothing stopStr member i ends)
    · simp only [evaluateStop, after, countSkipped, numOutputTokens, evaluated, checked, ne_eq]
      have gives := Gives.stop (chosen.of_offset above nothing)
      rw [← left] at gives
      split at gives
      · rename_i cut
        simpa [cut] using gives
      · rename_i cut
        simpa [cut] using gives
  · have quiet : detokenizer.Quiet tokens := by
      intro stopStr member i ends
      have bound := ends.le_length
      have beyond := ends.2
      have few : tokens.length ≤ detokenizer.minTokens := by
        by_contra many
        exact evaluated ⟨ne_nil_of_mem member, by rw [length_append]; omega⟩
      rw [boundary_of_le few] at beyond
      omega
    simp only [evaluateStop, after, countSkipped, numOutputTokens, evaluated, if_false, implies_true, and_true]
    exact .none quiet

section

variable (quiet : detokenizer.Quiet tokens)

include quiet

theorem decoded_gives (newTokenIds skipped : List Token) :
    let decoded := newTokenIds.foldl decodeToken
      (detokenizer.after tokens, (detokenizer.after tokens).outputText.length)
    let result := (decoded.1.countSkipped skipped).evaluateStop decoded.2
    detokenizer.Gives (tokens ++ newTokenIds) result.1 result.2.outputText ∧ (result.1 = none →
        result.2 = (detokenizer.after (tokens ++ newTokenIds)).countSkipped skipped) := by
  have start : (detokenizer.after tokens).outputText.length =
      (detokenizer.textOf tokens).length := rfl
  rw [start, decodeTokens tokens newTokenIds fun _ => rfl]
  apply evaluateStop_gives nonempty
  · split
    · exact le_rfl
    · rename_i many
      rw [boundary_append newTokenIds (by omega)]
      exact boundary_le
  · split
    · exact boundary_le
    · simp [textOf_append]
  · intro stopStr member i ends
    split
    · exact ends
    · rename_i many
      rw [boundary_append newTokenIds (by omega), textOf_append] at ends
      rcases ends.of_append with old | beyond
      · exact absurd old (quiet stopStr member i)
      · rw [textOf_append]
        exact ⟨ends.1, beyond⟩

theorem update_gives (newTokenIds : List Token) :
    let result := (detokenizer.after tokens).update newTokenIds false
    detokenizer.Gives (tokens ++ newTokenIds) result.1 result.2.outputText ∧
      (result.1 = none → result.2 = detokenizer.after (tokens ++ newTokenIds)) := by
  by_cases empty : newTokenIds = []
  · simp only [update, empty, if_true, append_nil, implies_true, and_true]
    exact .none quiet
  · have gives := decoded_gives nonempty quiet newTokenIds []
    simpa only [update, empty, if_false, Bool.false_eq_true, false_and, countSkipped_nil] using gives

theorem update_gives_stopTerminated
    {newTokenIds : List Token} (some_new : newTokenIds ≠ [])
    (excluded : detokenizer.includeStopStrInOutput = false) :
    let result := (detokenizer.after tokens).update newTokenIds true
    detokenizer.Gives (tokens ++ newTokenIds.dropLast) result.1 result.2.outputText := by
  have gives := decoded_gives nonempty quiet newTokenIds.dropLast newTokenIds.getLast?.toList
  have excluded' : (detokenizer.after tokens).includeStopStrInOutput = false := excluded
  simpa only [update, some_new, if_false, excluded', Bool.not_false, and_self, if_true] using gives.1

end

def shown (detokenizer : BaseIncrementalDetokenizer Token) (stopTerminated : Bool)
    (groups : List (List Token)) : List Token :=
  if stopTerminated ∧ !detokenizer.includeStopStrInOutput then groups.flatten.dropLast
  else groups.flatten

theorem updates_gives (stopTerminated : Bool) {groups : List (List Token)}
    (grouped : stopTerminated = true → [] ∉ groups) (quiet : detokenizer.Quiet tokens) :
    let result := (detokenizer.after tokens).updates stopTerminated groups
    detokenizer.Gives (tokens ++ detokenizer.shown stopTerminated groups) result.1
      result.2.outputText := by
  induction groups generalizing tokens with
  | nil =>
    have none_shown : detokenizer.shown stopTerminated [] = [] := by simp [shown]
    rw [none_shown, append_nil]
    exact .none quiet
  | cons newTokenIds groups ih =>
    cases groups with
    | nil =>
      by_cases skips : stopTerminated = true ∧ detokenizer.includeStopStrInOutput = false
      · have some_new : newTokenIds ≠ [] := by
          rintro rfl
          exact grouped skips.1 (by simp)
        simpa [shown, skips.1, skips.2, updates] using
          update_gives_stopTerminated nonempty quiet some_new skips.2
      · have unskipped : (detokenizer.after tokens).update newTokenIds stopTerminated =
            (detokenizer.after tokens).update newTokenIds false := by
          have included : (detokenizer.after tokens).includeStopStrInOutput =
            detokenizer.includeStopStrInOutput := rfl
          cases stopTerminated <;> simp_all [update]
        have all_shown : detokenizer.shown stopTerminated [newTokenIds] = newTokenIds := by
          cases stopTerminated <;> simp_all [shown]
        rw [updates, unskipped, all_shown]
        exact (update_gives nonempty quiet newTokenIds).1
    | cons group groups =>
      have shown_cons : detokenizer.shown stopTerminated (newTokenIds :: group :: groups) =
          newTokenIds ++ detokenizer.shown stopTerminated (group :: groups) := by
        cases stopTerminated with
        | false => simp [shown]
        | true =>
          have some_group : group ≠ [] := by
            rintro rfl
            exact grouped rfl (by simp)
          simp only [shown, flatten_cons]
          split
          · rw [dropLast_append_of_ne_nil (by simp [some_group])]
          · rfl
      have first := update_gives nonempty quiet newTokenIds
      rw [shown_cons, ← append_assoc, updates]
      -- Either the first call stops, and the rest does not matter, or the rest goes on from it.
      rcases outcome : (detokenizer.after tokens).update newTokenIds false with ⟨stopped, state⟩
      rw [outcome] at first
      cases stopped with
      | some stopString => exact first.1.append _
      | none =>
        have continued : state = detokenizer.after (tokens ++ newTokenIds) := first.2 rfl
        subst continued
        have still_quiet : detokenizer.Quiet (tokens ++ newTokenIds) := by
          cases first.1 with
          | none quiet => exact quiet
        exact ih (fun terminated member => grouped terminated (mem_cons_of_mem _ member))
          still_quiet

end Calls

theorem after_nil (fresh : detokenizer.tokenIds = [] ∧ detokenizer.outputText = []) :
    detokenizer.after [] = detokenizer := by
  cases detokenizer
  simp_all [after, textOf]

theorem quiet_nil : detokenizer.Quiet [] := by
  intro stopStr member i ends
  have bound : i + stopStr.length ≤ 0 := ends.le_length
  have beyond := ends.2
  omega

theorem updates_grouping (detokenizer : BaseIncrementalDetokenizer Token)
    (fresh : detokenizer.tokenIds = [] ∧ detokenizer.outputText = [])
    (nonempty : ∀ stopStr ∈ detokenizer.stop, stopStr ≠ [])
    (stopTerminated : Bool) (groups groups' : List (List Token))
    (same : groups.flatten = groups'.flatten)
    (grouped : stopTerminated = true → [] ∉ groups ∧ [] ∉ groups') :
    (detokenizer.updates stopTerminated groups).1 = (detokenizer.updates stopTerminated groups').1 ∧
      (detokenizer.updates stopTerminated groups).2.outputText =
        (detokenizer.updates stopTerminated groups').2.outputText := by
  have start := after_nil fresh
  have gives := updates_gives nonempty stopTerminated (fun terminated => (grouped terminated).1)
    quiet_nil
  have gives' := updates_gives nonempty stopTerminated (fun terminated => (grouped terminated).2)
    quiet_nil
  have shown_eq : detokenizer.shown stopTerminated groups =
      detokenizer.shown stopTerminated groups' := by
    rw [shown, shown, same]
  rw [start, shown_eq] at gives
  rw [start] at gives'
  exact gives.unique gives'

def stopper : BaseIncrementalDetokenizer Nat where
  stop := [['T', 'O', 'P'], ['S', 'T', 'O']]
  minTokens := 1
  includeStopStrInOutput := false
  decodeNext
    | 0 => ['x']
    | 1 => ['S', 'T']
    | _ => ['O', 'P', 'y']
  tokenIds := []
  outputText := []

theorem updates_grouping_stopper :
    (stopper.updates false [[0], [1], [2, 0]]).1 = (stopper.updates false [[0, 1, 2], [0]]).1 ∧
      (stopper.updates false [[0], [1], [2, 0]]).2.outputText =
        (stopper.updates false [[0, 1, 2], [0]]).2.outputText :=
  updates_grouping stopper (by decide) (by decide) false _ _ (by decide) (by decide)

example : (stopper.updates false [[0], [1], [2, 0]]).1 = some ['S', 'T', 'O'] := by decide

end BaseIncrementalDetokenizer

end VllmEngine
