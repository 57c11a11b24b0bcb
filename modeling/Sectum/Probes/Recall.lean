import Sectum.Adapters.Base
import Sectum.Spec.Text

/-! `sectum_ai.probes._recall`: whether a model still reproduces a phrase, as recall and not as a
guess. -/

namespace Sectum

open Py

def minContinuationChars : Nat := 6

/-- The similarity page that a marker scan reads. -/
def fingerprintQueryK : Nat := 50

section Scramble

variable [Unicode]

def isAscii (c : Char) : Bool := c.toNat < 128

def rotate13 (c : Char) : Char :=
  let base := if 'A' ≤ c ∧ c ≤ 'Z' then 'A'.toNat else 'a'.toNat
  Char.ofNat (base + (c.toNat - base + 13) % 26)

def rotateDigit (c : Char) : Char := Char.ofNat ('0'.toNat + (c.toNat - '0'.toNat + 5) % 10)

/-- The loop of `scramble`; `rotated` are the letters outside ASCII still to be handed out. -/
def scrambleChars : List Char → List Char → List Char
  | _, [] => []
  | rotated, c :: cs =>
    if isAscii c && Unicode.isAlpha c then rotate13 c :: scrambleChars rotated cs
    else if isAscii c && c.isDigit then rotateDigit c :: scrambleChars rotated cs
    else if Unicode.isAlpha c then rotated.headD c :: scrambleChars rotated.tail cs
    else c :: scrambleChars rotated cs

/-- A prefix of the same shape that identifies nobody. -/
def scramble (text : String) : Option String :=
  let others := text.toList.filter fun c => Unicode.isAlpha c && !isAscii c
  let rotated := others.drop 1 ++ others.take 1
  let control := String.ofList (scrambleChars rotated text.toList)
  if control = text then none else some control

/-- The prefix that a continuation check prompts with, and the normalized suffix. -/
def continuationSplit (phrase : String) : Option (String × String) :=
  let tokens := split phrase
  let (pre, suffix) :=
    if 2 ≤ tokens.length then
      let cut := max 1 (tokens.length / 2)
      (join " " (tokens.take cut), join " " (tokens.drop cut))
    else if '@' ∈ phrase.toList then
      let localPart := String.ofList (phrase.toList.takeWhile (· ≠ '@'))
      let domain := String.ofList ((phrase.toList.dropWhile (· ≠ '@')).drop 1)
      let cut := max 1 (localPart.length / 3)
      (sliceTo cut localPart, sliceFrom cut localPart ++ "@" ++ domain)
    else
      let cut := max 1 (phrase.length / 3)
      (sliceTo cut phrase, sliceFrom cut phrase)
  if (strip suffix).length < minContinuationChars ∨ scramble pre = none then none
  else some (pre, normalizeForMatch suffix)

end Scramble

section Model

variable {σ : Type} [Unicode] [Uuid4 σ] (model : ModelAdapter σ) (target : UUID)

def hasBaseControl (model : ModelAdapter σ) : Bool :=
  model.supports .perTenantAdapter && !model.supports .sharedWeights

/-- The completion of a prompt carries the needle, and those of the controls do not. -/
def reproduced (prompt needle : String) : Call σ Raised Bool := fun world =>
  match model.infer target prompt world with
  | (.error e, world) => (.error e, world)
  | (.ok completion, world) =>
    if !residualPresent needle completion then (.ok false, world)
    else
      match scramble prompt with
      | none => (.ok false, world)
      | some control =>
        match model.infer target control world with
        | (.error e, world) => (.error e, world)
        | (.ok controlCompletion, world) =>
          if residualPresent needle controlCompletion then (.ok false, world)
          else if normalizeForMatch prompt = needle ∧
              residualPresent control controlCompletion = true then (.ok false, world)
          else if hasBaseControl model then
            let (stranger, world) := Uuid4.uuid4 world
            Call.map (fun base => !residualPresent needle base) (model.infer stranger prompt) world
          else (.ok true, world)

/-- Whether the model still reproduces the phrase for the tenant, controls applied. -/
def contentRecalled (phrase : String) : Call σ Raised Bool := fun world =>
  match reproduced model target phrase (normalizeForMatch phrase) world with
  | (.error e, world) => (.error e, world)
  | (.ok true, world) => (.ok true, world)
  | (.ok false, world) =>
    match continuationSplit phrase with
    | none => (.ok false, world)
    | some (pre, suffix) => reproduced model target pre suffix world

end Model

end Sectum
