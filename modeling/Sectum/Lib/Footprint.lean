import Mathlib.Data.Set.Basic
import Sectum.Lib.Raise

/-! Calls on a world of several components: which components decide what a call comes to, and which of
them it may change. -/

namespace Py

variable {ι : Type} {state : ι → Type} {ε α β : Type} {uses writes : Set ι}

/-- Two worlds have some components in common. -/
def AgreeOn (uses : Set ι) (w w' : ∀ i, state i) : Prop := ∀ i ∈ uses, w i = w' i

/-- A call that the components in `uses` decide, and that changes none but those in `writes`. -/
structure Call.Within (uses writes : Set ι) (call : Call (∀ i, state i) ε α) : Prop where
  answer {w w' : ∀ i, state i} : AgreeOn uses w w' → (call w).1 = (call w').1
  keeps {w w' : ∀ i, state i} : AgreeOn uses w w' → AgreeOn uses (call w).2 (call w').2
  frame {i : ι} : i ∉ writes → ∀ w, (call w).2 i = w i

namespace Call.Within

theorem lift (result : Except ε α) :
    (Call.lift result : Call (∀ i, state i) ε α).Within uses writes where
  answer _ := rfl
  keeps hagree := hagree
  frame _ _ := rfl

theorem raise (e : ε) : (Call.raise e : Call (∀ i, state i) ε α).Within uses writes := lift (.error e)

theorem pure (a : α) : (Call.pure a : Call (∀ i, state i) ε α).Within uses writes := lift (.ok a)

theorem bind {call : Call (∀ i, state i) ε α} {next : α → Call (∀ i, state i) ε β}
    (h : call.Within uses writes) (hnext : ∀ a, (next a).Within uses writes) :
    (call.bind next).Within uses writes := by
  have hboth : ∀ w w', AgreeOn uses w w' → (call.bind next w).1 = (call.bind next w').1 ∧
      AgreeOn uses (call.bind next w).2 (call.bind next w').2 := by
    intro w w' hagree
    have hanswer := h.answer hagree
    have hkeeps := h.keeps hagree
    unfold Call.bind
    generalize call w = first at hanswer hkeeps ⊢
    generalize call w' = second at hanswer hkeeps ⊢
    rcases first with ⟨e | a, after⟩ <;> rcases second with ⟨e' | a', after'⟩
    · exact ⟨congrArg Except.error (Except.error.inj hanswer), hkeeps⟩
    · cases hanswer
    · cases hanswer
    · obtain rfl := Except.ok.inj hanswer
      exact ⟨(hnext a).answer hkeeps, (hnext a).keeps hkeeps⟩
  refine ⟨fun hagree => (hboth _ _ hagree).1, fun hagree => (hboth _ _ hagree).2, fun {i} hi w => ?_⟩
  have hframe := h.frame hi w
  unfold Call.bind
  generalize call w = first at hframe ⊢
  rcases first with ⟨e | a, after⟩
  · exact hframe
  · exact ((hnext a).frame hi after).trans hframe

theorem map {call : Call (∀ i, state i) ε α} (h : call.Within uses writes) (f : α → β) :
    (call.map f).Within uses writes := by
  have heq : call.map f = call.bind fun a => Call.pure (f a) := by
    funext w
    unfold Call.map Call.bind
    rcases call w with ⟨e | a, after⟩ <;> rfl
  rw [heq]
  exact bind h fun a => pure (f a)

/-- More components may decide a call, and it may change more of these. -/
theorem mono {call : Call (∀ i, state i) ε α} {uses' writes' : Set ι} (h : call.Within uses writes)
    (huses : uses ⊆ uses') (hwrites : writes ⊆ writes') (hsub : writes ⊆ uses) :
    call.Within uses' writes' where
  answer hagree := h.answer fun i hi => hagree i (huses hi)
  keeps {w w'} hagree i hi := by
    by_cases hmem : i ∈ uses
    · exact h.keeps (fun i hi => hagree i (huses hi)) i hmem
    · have hkept : i ∉ writes := fun hi => hmem (hsub hi)
      rw [h.frame hkept, h.frame hkept]
      exact hagree i hi
  frame hi := h.frame fun hmem => hi (hwrites hmem)

end Call.Within

end Py
