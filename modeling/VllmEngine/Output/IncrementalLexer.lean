import Mathlib

set_option autoImplicit false

namespace VllmEngine

abbrev Terminal := String

def contentTerminal : Terminal := "__CONTENT__"

-- A terminal definition; those of a `ParserEngineConfig` are all literals.
structure TerminalDef where
  name : Terminal
  isLiteral : Bool
  literal : List Char
  patternLength : Nat

structure LexToken where
  terminal : Terminal
  value : List Char
  deriving DecidableEq

structure LexerShape where
  literalStrings : List (List Char × Terminal)
  hasOnlyLiterals : Bool

namespace LexerShape

def ofTerminals (terminals : List TerminalDef) : LexerShape :=
  let sorted := terminals.mergeSort fun left right =>
    if left.isLiteral = right.isLiteral then right.patternLength ≤ left.patternLength
    else left.isLiteral
  { literalStrings := sorted.filterMap fun terminal =>
      if terminal.isLiteral then some (terminal.literal, terminal.name) else none
    hasOnlyLiterals := terminals.all TerminalDef.isLiteral }

variable (shape : LexerShape)

def literalFirstChars : List Char :=
  shape.literalStrings.filterMap fun literal => literal.1.head?

def prefixSet : List (List Char) :=
  shape.literalStrings.flatMap fun literal =>
    (List.range' 1 (literal.1.length - 1)).map literal.1.take

def literalsByFirst (first : Char) : List (List Char × Terminal) :=
  shape.literalStrings.filter fun literal => literal.1.head? = some first

def longerMatch (buffer : List Char) (bestMatch : Option (List Char × Terminal))
    (literal : List Char × Terminal) : Option (List Char × Terminal) :=
  if literal.1 <+: buffer ∧ (bestMatch.all fun best => best.1.length < literal.1.length) then
    some literal
  else
    bestMatch

def bestMatch (buffer : List Char) : Option (List Char × Terminal) :=
  match buffer with
  | [] => none
  | first :: _ => (shape.literalsByFirst first).foldl (longerMatch buffer) none

def startsLiteral (text : List Char) : Bool :=
  shape.literalStrings.any fun literal =>
    let checkLen := min text.length literal.1.length
    text.take checkLen == literal.1.take checkLen

def contentLength : List Char → Nat
  | [] => 0
  | first :: rest =>
    if first ∈ shape.literalFirstChars ∧ shape.startsLiteral (first :: rest) then 0
    else contentLength rest + 1

def findContentBoundary (buffer : List Char) : Nat :=
  1 + shape.contentLength buffer.tail

def drainLoop (final : Bool) : Nat → List Char → List LexToken × List Char
  | 0, buffer => ([], buffer)
  | _ + 1, [] => ([], [])
  | fuel + 1, first :: rest =>
    let buffer := first :: rest
    if shape.hasOnlyLiterals ∧ shape.literalFirstChars ≠ [] ∧
        ∀ char ∈ buffer, char ∉ shape.literalFirstChars then
      ([⟨contentTerminal, buffer⟩], [])
    else if buffer ∈ shape.prefixSet ∧ !final then
      match shape.bestMatch buffer with
      | none => ([], buffer)
      | some best =>
        if (shape.literalsByFirst first).any fun literal =>
            best.1.length < literal.1.length ∧ buffer <+: literal.1 then
          ([], buffer)
        else
          let drained := drainLoop final fuel (buffer.drop best.1.length)
          (⟨best.2, best.1⟩ :: drained.1, drained.2)
    else
      match shape.bestMatch buffer with
      | some best =>
        let drained := drainLoop final fuel (buffer.drop best.1.length)
        (⟨best.2, best.1⟩ :: drained.1, drained.2)
      | none =>
        let contentEnd := shape.findContentBoundary buffer
        let drained := drainLoop final fuel (buffer.drop contentEnd)
        (⟨contentTerminal, buffer.take contentEnd⟩ :: drained.1, drained.2)

def drain (final : Bool) (buffer : List Char) : List LexToken × List Char :=
  shape.drainLoop final buffer.length buffer

end LexerShape

structure IncrementalLexer where
  shape : LexerShape
  buffer : List Char

namespace IncrementalLexer

variable (lexer : IncrementalLexer)

def feed (text : List Char) : List LexToken × IncrementalLexer :=
  if lexer.buffer = [] ∧ lexer.shape.hasOnlyLiterals ∧ lexer.shape.literalFirstChars ≠ [] ∧
      ∀ char ∈ text, char ∉ lexer.shape.literalFirstChars then
    ([⟨contentTerminal, text⟩], lexer)
  else
    let drained := lexer.shape.drain false (lexer.buffer ++ text)
    (drained.1, { lexer with buffer := drained.2 })

def flush : List LexToken × IncrementalLexer :=
  let drained := lexer.shape.drain true lexer.buffer
  let rest := if drained.2 = [] then [] else [⟨contentTerminal, drained.2⟩]
  (drained.1 ++ rest, { lexer with buffer := [] })

end IncrementalLexer

end VllmEngine
