import Sectum.Probes.Recall
import Sectum.Spec.TextAscii

/-! A model that stored nothing answers from the prompt alone.  With a tenant that trained nothing to
compare with, none of its phrases is recalled; without one, an echo is told from recall by the scrambled
prompt.  For the whole phrase that is enough, as the echo of the scrambled phrase restates it; for its
continuation it fails where the trailing part of a phrase stands in its leading part. -/

namespace Sectum

open Py

section Prompts

variable {σ : Type} [Unicode]

/-- The completion of a prompt, whoever asks and whenever. -/
def AnswersByPrompt (model : ModelAdapter σ) (complete : String → String) : Prop :=
  ∀ tenant prompt world, ∃ after, model.infer tenant prompt world = (.ok (complete prompt), after)

/-- Restates the prompt between two fixed texts. -/
def echo (before after prompt : String) : String := before ++ prompt ++ after

/-- Whether the needle is in the completion of a prompt and not in that of its scrambled form, which
`counts` besides. -/
def toldApart (complete : String → String) (prompt needle : String) (counts : String → Bool) : Bool :=
  residualPresent needle (complete prompt) &&
    (scramble prompt).any fun control => !residualPresent needle (complete control) && counts control

/-- The completion of the scrambled prompt does not restate it. -/
def unrestated (complete : String → String) (control : String) : Bool :=
  !residualPresent control (complete control)

/-- Whether a completion of the whole phrase passes for recall before the base tenant is asked. -/
def passesWhole (complete : String → String) (phrase : String) : Bool :=
  toldApart complete phrase (normalizeForMatch phrase) (unrestated complete)

/-- Whether a completion of the leading part passes for it.  A restated prompt counts against it only
where the two parts are the same text. -/
def passesOn (complete : String → String) (phrase : String) : Bool :=
  (continuationSplit phrase).any fun (leading, trailing) => toldApart complete leading trailing
    fun control => normalizeForMatch leading ≠ trailing || unrestated complete control

section Echo

omit [Unicode] in
theorem ofNat_ascii : ∀ n < 123, (Char.ofNat n).toNat < 128 := by decide

omit [Unicode] in
theorem rotate13_ascii (c : Char) : (rotate13 c).toNat < 128 := by
  unfold rotate13
  dsimp only
  split
  · show (Char.ofNat (65 + (c.toNat - 65 + 13) % 26)).toNat < 128
    exact ofNat_ascii _ (by omega)
  · show (Char.ofNat (97 + (c.toNat - 97 + 13) % 26)).toNat < 128
    exact ofNat_ascii _ (by omega)

omit [Unicode] in
theorem rotateDigit_ascii (c : Char) : (rotateDigit c).toNat < 128 := by
  show (Char.ofNat (48 + (c.toNat - 48 + 5) % 10)).toNat < 128
  exact ofNat_ascii _ (by omega)

/-- The scrambled form of an ASCII text is an ASCII text of the same length. -/
theorem scrambleChars_ascii {text : List Char} (h : ∀ c ∈ text, c.toNat < 128) (rotated : List Char) :
    (∀ c ∈ scrambleChars rotated text, c.toNat < 128) ∧
      (scrambleChars rotated text).length = text.length := by
  induction text generalizing rotated with
  | nil => exact ⟨List.forall_mem_nil _, rfl⟩
  | cons c text ih =>
    obtain ⟨hc, htext⟩ := List.forall_mem_cons.mp h
    have hletter : isAscii c = true := decide_eq_true hc
    unfold scrambleChars
    rw [hletter, Bool.true_and, Bool.true_and]
    split
    · exact ⟨List.forall_mem_cons.mpr ⟨rotate13_ascii c, (ih htext rotated).1⟩,
        congrArg Nat.succ (ih htext rotated).2⟩
    · rename_i halpha
      split
      · exact ⟨List.forall_mem_cons.mpr ⟨rotateDigit_ascii c, (ih htext rotated).1⟩,
          congrArg Nat.succ (ih htext rotated).2⟩
      · exact ⟨List.forall_mem_cons.mpr ⟨hc, (ih htext rotated).1⟩,
          congrArg Nat.succ (ih htext rotated).2⟩

theorem scramble_ascii {text control : String} (h : IsAsciiText text)
    (hscramble : scramble text = some control) : IsAsciiText control ∧ control ≠ "" := by
  unfold scramble at hscramble
  dsimp only at hscramble
  split at hscramble
  · cases hscramble
  · rename_i hchanged
    obtain rfl := Option.some.inj hscramble
    have hchars := scrambleChars_ascii h
    refine ⟨fun c hc => (hchars _).1 c (by rwa [String.toList_ofList] at hc), fun hempty => ?_⟩
    -- An empty text is its own scrambled form.
    have hnil := congrArg String.toList hempty
    rw [String.toList_ofList] at hnil
    have hlength := (hchars _).2.symm.trans (congrArg List.length hnil)
    have htext : text = "" := String.toList_injective (List.length_eq_zero_iff.mp hlength)
    exact hchanged (hempty.trans htext.symm)

/-- An echo of the whole phrase never passes: of an ASCII phrase, the echo of its scrambled form
restates it. -/
theorem passesWhole_echo (hascii : Unicode.OnAscii) {phrase after : String} (before : String)
    (hphrase : IsAsciiText phrase) (hafter : BeginsAscii after) :
    passesWhole (echo before after) phrase = false := by
  unfold passesWhole toldApart
  cases hscramble : scramble phrase with
  | none => rw [Option.any_none, Bool.and_false]
  | some control =>
    obtain ⟨hcontrol, hne⟩ := scramble_ascii hphrase hscramble
    have hshown : residualPresent control (echo before after control) = true := by
      rw [echo, String.append_assoc]
      exact residualPresent_within hascii before hcontrol hne hafter
    rw [Option.any_some, unrestated, hshown, Bool.not_true, Bool.and_false, Bool.and_false]

end Echo

section Answers

variable [Uuid4 σ] {model : ModelAdapter σ} {complete : String → String}
  (h : AnswersByPrompt model complete) (target : UUID)
include h

theorem reproduced_of_prompt (prompt needle : String) (world : σ) :
    ∃ after, reproduced model target prompt needle world =
      (.ok (toldApart complete prompt needle (fun control => normalizeForMatch prompt ≠ needle ||
        unrestated complete control) && !hasBaseControl model), after) := by
  obtain ⟨afterPrompt, hprompt⟩ := h target prompt world
  unfold reproduced toldApart unrestated
  rw [hprompt]
  cases hneedle : residualPresent needle (complete prompt) with
  | false => exact ⟨afterPrompt, by simp [hneedle]⟩
  | true =>
    cases hscramble : scramble prompt with
    | none => exact ⟨afterPrompt, by simp [hneedle]⟩
    | some control =>
      obtain ⟨afterControl, hcontrol⟩ := h target control afterPrompt
      simp only [hneedle, Bool.not_true, Bool.false_eq_true, if_false, Bool.true_and, hcontrol,
        Option.any_some]
      cases hfound : residualPresent needle (complete control) with
      | true => exact ⟨afterControl, by simp⟩
      | false =>
        by_cases hrestated : normalizeForMatch prompt = needle ∧
            residualPresent control (complete control) = true
        · exact ⟨afterControl, by simp [hrestated]⟩
        · have hcounts : (decide (normalizeForMatch prompt ≠ needle) ||
              !residualPresent control (complete control)) = true := by
            rw [Bool.or_eq_true, decide_eq_true_iff, Bool.not_eq_true', ← Bool.not_eq_true]
            exact not_and_or.mp hrestated
          cases hbase : hasBaseControl model with
          | false => exact ⟨afterControl, by rw [hcounts]; simp [hrestated]⟩
          | true =>
            -- The tenant that trained nothing gives the same completion.
            obtain ⟨afterBase, hstranger⟩ :=
              h (Uuid4.uuid4 afterControl).1 prompt (Uuid4.uuid4 afterControl).2
            refine ⟨afterBase, ?_⟩
            simp [hrestated, Call.map_ok hstranger, hneedle]

/-- The phrase is its own needle, so that a restated prompt counts against it. -/
theorem reproduced_whole (phrase : String) (world : σ) :
    ∃ after, reproduced model target phrase (normalizeForMatch phrase) world =
      (.ok (passesWhole complete phrase && !hasBaseControl model), after) := by
  obtain ⟨after, hreproduced⟩ :=
    reproduced_of_prompt h target phrase (normalizeForMatch phrase) world
  refine ⟨after, hreproduced.trans ?_⟩
  simp [passesWhole]

theorem contentRecalled_of_prompt (phrase : String) (world : σ) :
    ∃ after, contentRecalled model target phrase world =
      (.ok ((passesWhole complete phrase || passesOn complete phrase) && !hasBaseControl model),
        after) := by
  obtain ⟨afterWhole, hwhole⟩ := reproduced_whole h target phrase world
  unfold contentRecalled passesOn
  rw [hwhole]
  cases hverdict : passesWhole complete phrase && !hasBaseControl model with
  | true =>
    obtain ⟨hpasses, hbase⟩ := Bool.and_eq_true_iff.mp hverdict
    exact ⟨afterWhole, by simp [hpasses, hbase]⟩
  | false =>
    cases hsplit : continuationSplit phrase with
    | none => exact ⟨afterWhole, by simpa using hverdict⟩
    | some parts =>
      obtain ⟨leading, trailing⟩ := parts
      obtain ⟨after, hcontinued⟩ := reproduced_of_prompt h target leading trailing afterWhole
      refine ⟨after, ?_⟩
      dsimp only
      rw [hcontinued]
      simp only [Option.any_some]
      rw [Bool.and_or_distrib_right, hverdict, Bool.false_or]

end Answers

/-- An echo is never taken for recall exactly where the model has a base control or neither the whole
phrase nor its continuation passes for recall; and with a base control nothing that the prompt alone
decides is. -/
theorem contentRecalled_of_echo [Uuid4 σ] (model : ModelAdapter σ) (target : UUID) (phrase : String)
    (world : σ) :
    (∀ before after, AnswersByPrompt model (echo before after) →
      ((∃ later, contentRecalled model target phrase world = (.ok false, later)) ↔
        hasBaseControl model = true ∨ passesWhole (echo before after) phrase = false ∧
          passesOn (echo before after) phrase = false)) ∧
    ∀ complete, AnswersByPrompt model complete → hasBaseControl model = true →
      ∃ later, contentRecalled model target phrase world = (.ok false, later) := by
  constructor
  · intro before after h
    obtain ⟨later, hrecalled⟩ := contentRecalled_of_prompt h target phrase world
    rw [hrecalled]
    cases hasBaseControl model <;> cases passesWhole (echo before after) phrase <;>
      cases passesOn (echo before after) phrase <;> simp
  · intro complete h hbase
    obtain ⟨later, hrecalled⟩ := contentRecalled_of_prompt h target phrase world
    exact ⟨later, by rw [hrecalled, hbase, Bool.not_true, Bool.and_false]⟩

end Prompts

section Sample

attribute [local instance] Unicode.ascii

@[reducible] def fixedUuid4 : Uuid4 Unit := ⟨fun world => (⟨0⟩, world)⟩

attribute [local instance] fixedUuid4

/-- A model without adapters that restates its prompt. -/
def echoModel : ModelAdapter Unit where
  capabilities := []
  infer _ prompt world := (.ok (echo "no record of " "." prompt), world)
  delete _ world := (.ok (), world)

theorem echoModel_answers : AnswersByPrompt echoModel (echo "no record of " ".") :=
  fun _ _ world => ⟨world, rfl⟩

/-- A model of adapters that knows how a name goes on. -/
def worldModel : ModelAdapter Unit where
  capabilities := [.perTenantAdapter]
  infer _ _ world := (.ok "Hussein Obama", world)
  delete _ world := (.ok (), world)

theorem prompt_alone_not_recalled :
    (∃ later, contentRecalled echoModel ⟨1⟩ "alice.brown@example.com" () = (.ok false, later)) ∧
      ∃ later, contentRecalled worldModel ⟨1⟩ "Barack Hussein Obama" () = (.ok false, later) :=
  ⟨((contentRecalled_of_echo echoModel ⟨1⟩ "alice.brown@example.com" ()).1 _ _
      echoModel_answers).mpr (.inr ⟨by decide +kernel, by decide +kernel⟩),
    (contentRecalled_of_echo worldModel ⟨1⟩ "Barack Hussein Obama" ()).2
      (fun _ => "Hussein Obama") (fun _ _ world => ⟨world, rfl⟩) rfl⟩

/-- The trailing part stands in the leading one. -/
theorem echo_of_double_name_recalled : AnswersByPrompt echoModel (echo "no record of " ".") ∧
    contentRecalled echoModel ⟨1⟩ "Johnson-Peterson Peterson" () = (.ok true, ()) ∧
    ¬ ∃ later, contentRecalled echoModel ⟨1⟩ "Johnson-Peterson Peterson" () = (.ok false, later) := by
  obtain ⟨later, hrecalled⟩ :=
    contentRecalled_of_prompt echoModel_answers ⟨1⟩ "Johnson-Peterson Peterson" ()
  have hpasses : ((passesWhole (echo "no record of " ".") "Johnson-Peterson Peterson" ||
      passesOn (echo "no record of " ".") "Johnson-Peterson Peterson") &&
        !hasBaseControl echoModel) = true := by decide +kernel
  rw [hpasses] at hrecalled
  refine ⟨echoModel_answers, hrecalled, fun h => ?_⟩
  obtain ⟨later', hrecalled'⟩ := h
  rw [hrecalled] at hrecalled'
  cases hrecalled'

end Sample

end Sectum
