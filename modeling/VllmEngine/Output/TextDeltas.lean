import VllmEngine.Output.StopStrings
import VllmEngine.Shared.Arith

set_option autoImplicit false

namespace VllmEngine

variable {Token : Type} {detokenizer : BaseIncrementalDetokenizer Token} {tokens more : List Token}

namespace BaseIncrementalDetokenizer

variable {stopStr : List Char}

theorem length_le_stopBufferLength (member : stopStr ∈ detokenizer.stop)
    (excluded : detokenizer.includeStopStrInOutput = false) :
    stopStr.length ≤ detokenizer.stopBufferLength + 1 := by
  have longest := le_foldr_max (List.mem_map_of_mem member : stopStr.length ∈ _)
  rw [stopBufferLength, if_pos ⟨List.ne_nil_of_mem member, by simp [excluded]⟩]
  omega

theorem Quiet.lt_end {i : Nat} (quiet : detokenizer.Quiet tokens)
    (chosen : Chosen detokenizer.stop (detokenizer.boundary (tokens ++ more))
      (detokenizer.textOf (tokens ++ more)) stopStr i) :
    (detokenizer.textOf tokens).length < i + stopStr.length := by
  by_contra inside
  have grown : detokenizer.boundary tokens ≤ detokenizer.boundary (tokens ++ more) := by
    rw [boundary, boundary, List.take_append, textOf_append, List.length_append]
    exact Nat.le_add_right _ _
  have ends := chosen.ends
  rw [textOf_append] at ends
  exact quiet stopStr chosen.member i ⟨ends.1.of_append (by omega), by have := ends.2; omega⟩

theorem Gives.keeps (quiet : detokenizer.Quiet tokens) {stopString : Option (List Char)}
    {outputText : List Char} (gives : detokenizer.Gives (tokens ++ more) stopString outputText)
    {offset : Nat}
    (held : offset ≤ (detokenizer.textOf tokens).length - detokenizer.stopBufferLength) :
    offset ≤ outputText.length ∧
      outputText.take offset = (detokenizer.textOf tokens).take offset := by
  have within : offset ≤ (detokenizer.textOf tokens).length := by omega
  cases gives with
  | none =>
    rw [textOf_append, List.length_append, List.take_append_of_le_length within]
    exact ⟨by omega, rfl⟩
  | @stop stopStr i chosen =>
    have beyond := quiet.lt_end chosen
    have bound := chosen.ends.le_length
    have kept : offset ≤ if detokenizer.includeStopStrInOutput then i + stopStr.length else i := by
      split
      · omega
      · next excluded =>
        have short := length_le_stopBufferLength chosen.member (by simpa using excluded)
        omega
    rw [truncated, List.length_take, List.take_take, Nat.min_eq_left kept, textOf_append,
      List.take_append_of_le_length within, ← textOf_append]
    exact ⟨by omega, rfl⟩

theorem update_gives_any (nonempty : ∀ stopStr ∈ detokenizer.stop, stopStr ≠ [])
    (quiet : detokenizer.Quiet tokens) (newTokenIds : List Token) (stopTerminated : Bool) :
    ∃ more, detokenizer.Gives (tokens ++ more)
      ((detokenizer.after tokens).update newTokenIds stopTerminated).1
      ((detokenizer.after tokens).update newTokenIds stopTerminated).2.outputText := by
  by_cases skips : newTokenIds ≠ [] ∧ stopTerminated ∧ detokenizer.includeStopStrInOutput = false
  · obtain ⟨new, rfl, excluded⟩ := skips
    exact ⟨_, update_gives_stopTerminated nonempty quiet new excluded⟩
  · have same : (detokenizer.after tokens).update newTokenIds stopTerminated =
        (detokenizer.after tokens).update newTokenIds false := by
      simp only [update]
      grind [after]
    rw [same]
    exact ⟨_, (update_gives nonempty quiet newTokenIds).1⟩

end BaseIncrementalDetokenizer

namespace TextStream

open BaseIncrementalDetokenizer

theorem finished_delta {stream : TextStream Token}
    (within : stream.lastOutputTextOffset ≤ stream.outputText.length) :
    (stream.getNextOutputText true true).1 =
      stream.outputText.drop stream.lastOutputTextOffset := by
  rw [getNextOutputText]
  by_cases more : stream.lastOutputTextOffset < stream.outputText.length
  · simp [more, pySlice_natCast within le_rfl]
  · simp [more, List.drop_eq_nil_of_le (Nat.le_of_not_lt more)]

theorem unfinished_delta (stream : TextStream Token)
    (held : stream.lastOutputTextOffset ≤ stream.outputText.length - stream.stopBufferLength) :
    ∃ delta, stream.getNextOutputText false true = (delta,
        { stream with
          lastOutputTextOffset := stream.outputText.length - stream.stopBufferLength }) ∧
      stream.outputText.take stream.lastOutputTextOffset ++ delta =
        stream.outputText.take (stream.outputText.length - stream.stopBufferLength) := by
  rw [getNextOutputText]
  rcases Nat.lt_or_eq_of_le held with more | same
  · have length : (stream.outputText.length : Int) - stream.stopBufferLength =
        ((stream.outputText.length - stream.stopBufferLength : Nat) : Int) := by omega
    have front : stream.outputText.take stream.lastOutputTextOffset =
        (stream.outputText.take (stream.outputText.length - stream.stopBufferLength)).take
          stream.lastOutputTextOffset := by
      rw [List.take_take, Nat.min_eq_left held]
    refine ⟨_, by simp [length, more]; rfl, ?_⟩
    rw [pySlice_natCast (by omega) (by omega), front, List.take_append_drop]
  · refine ⟨[], ?_, by rw [same, List.append_nil]⟩
    have stays : ¬(stream.lastOutputTextOffset : Int) <
        stream.outputText.length - stream.stopBufferLength := by omega
    simp [stays, ← same]

theorem last_delta (quiet : detokenizer.Quiet tokens) {offset : Nat}
    (held : offset ≤ (detokenizer.textOf tokens).length - detokenizer.stopBufferLength)
    {updated : BaseIncrementalDetokenizer Token} {stopString : Option (List Char)}
    (gives : detokenizer.Gives (tokens ++ more) stopString updated.outputText) :
    (detokenizer.textOf tokens).take offset ++
      (getNextOutputText ⟨updated, offset⟩ true true).1 = updated.outputText := by
  obtain ⟨within, same⟩ := gives.keeps quiet held
  rw [finished_delta within, ← same, List.take_append_drop]

theorem deltas_flatten (nonempty : ∀ stopStr ∈ detokenizer.stop, stopStr ≠ [])
    (stopTerminated : Bool) {first : List Token} {rest : List (List Token)} {offset : Nat}
    (quiet : detokenizer.Quiet tokens)
    (held : offset ≤ (detokenizer.textOf tokens).length - detokenizer.stopBufferLength) :
    let result := deltas ⟨detokenizer.after tokens, offset⟩ stopTerminated (first :: rest)
    (detokenizer.textOf tokens).take offset ++ result.1.flatten = result.2.outputText ∧
      result.2 = ((detokenizer.after tokens).updates stopTerminated (first :: rest)).2 := by
  induction rest generalizing tokens first offset with
  | nil =>
    obtain ⟨_, gives⟩ := update_gives_any nonempty quiet first stopTerminated
    simpa [deltas, updates] using last_delta quiet held gives
  | cons group groups ih =>
    obtain ⟨gives, continued⟩ := update_gives nonempty quiet first
    rw [deltas, updates]
    cases updated : (detokenizer.after tokens).update first false with
    | mk stopString next =>
      rw [updated] at gives continued
      cases stopString with
      | some stopStr => simpa [updated] using last_delta quiet held gives
      | none =>
        obtain rfl := continued rfl
        cases gives with
        | none later =>
          have grown : offset ≤ (detokenizer.textOf (tokens ++ first)).length -
              detokenizer.stopBufferLength := by
            rw [textOf_append, List.length_append]
            omega
          obtain ⟨_, made, front⟩ :=
            unfinished_delta ⟨detokenizer.after (tokens ++ first), offset⟩ grown
          obtain ⟨text, final⟩ := ih later le_rfl
          have same := ((Gives.none later).keeps quiet held).2
          simp only [made]
          refine ⟨?_, final⟩
          rw [List.flatten_cons, ← List.append_assoc, ← same]
          exact (congrArg (· ++ _) front).trans text

theorem deltas_final (detokenizer : BaseIncrementalDetokenizer Token)
    (fresh : detokenizer.tokenIds = [] ∧ detokenizer.outputText = [])
    (nonempty : ∀ stopStr ∈ detokenizer.stop, stopStr ≠ []) (stopTerminated : Bool)
    (groups : List (List Token)) :
    (deltas ⟨detokenizer, 0⟩ stopTerminated groups).1.flatten =
        (detokenizer.updates stopTerminated groups).2.outputText ∧
      (deltas ⟨detokenizer, 0⟩ stopTerminated groups).2 =
        (detokenizer.updates stopTerminated groups).2 := by
  cases groups with
  | nil => simp [deltas, updates, fresh.2]
  | cons first rest =>
    obtain ⟨text, final⟩ := deltas_flatten nonempty stopTerminated quiet_nil (Nat.zero_le _)
    rw [after_nil fresh] at text final
    exact ⟨by simpa [final] using text, final⟩

theorem deltas_final_stopper :
    (deltas ⟨stopper, 0⟩ false [[0], [1], [2, 0]]).1.flatten =
        (stopper.updates false [[0], [1], [2, 0]]).2.outputText ∧
      (deltas ⟨stopper, 0⟩ false [[0], [1], [2, 0]]).2 =
        (stopper.updates false [[0], [1], [2, 0]]).2 :=
  deltas_final stopper (by decide) (by decide) false _

example : (deltas ⟨stopper, 0⟩ false [[0], [1], [2, 0]]).1 = [[], ['x'], []] := by decide

end TextStream

end VllmEngine
