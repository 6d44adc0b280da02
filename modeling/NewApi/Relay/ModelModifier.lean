import NewApi.Utils.TrimSpace

/-!
# Model modifiers

A model name may end in a chain of `@key:value` segments (`relaykit/relayconvert/reasoning`).
-/

namespace NewApi.Relay

structure ModelModifier where
  key : String
  value : String
deriving DecidableEq

structure ModelModifierSpec where
  base : String
  modifiers : List ModelModifier
deriving DecidableEq

/-- A letter, then letters, digits, `_` and `-`. -/
def isModifierKey : List Char → Bool
  | [] => false
  | c :: rest => c.isAlpha && rest.all fun r => r.isAlphanum || r = '_' || r = '-'

def parseModelModifierSegment (segment : List Char) : Option ModelModifier :=
  match segment.span (· ≠ ':') with
  | (key, _ :: value) =>
    if isModifierKey key then some ⟨String.ofList (key.map Char.toLower), String.ofList value⟩
    else none
  | (_, []) => none

/-- Removes the trailing chain of modifiers, unless nothing stands before it. -/
def parseModelModifiers (modelName : String) : ModelModifierSpec :=
  let parts := modelName.toList.splitOn '@'
  let modifiers := (parts.tail.reverse.map parseModelModifierSegment).takeWhile Option.isSome
  let base := ['@'].intercalate (parts.take (parts.length - modifiers.length))
  if modifiers = [] ∨ base = [] then ⟨modelName, []⟩
  else ⟨String.ofList base, modifiers.reverse.filterMap id⟩

/-- The settings that say which names end in a suffix: the names that are left alone, and the base
name that an enabled legacy alias stands for. -/
structure SuffixSettings where
  shouldPreserveThinkingSuffix : String → Bool
  parseLegacyModelSuffix : String → Option String

def SuffixSettings.baseModelName (settings : SuffixSettings) (modelName : String) : String :=
  if settings.shouldPreserveThinkingSuffix modelName then modelName
  else
    let base := (parseModelModifiers modelName).base
    if settings.shouldPreserveThinkingSuffix base then base
    else (settings.parseLegacyModelSuffix base).getD base

end NewApi.Relay
