import Mathlib.Data.List.Forall2
import Mathlib.Data.List.Infix

/-! Computations that may raise an exception: values of `Except`, and calls that also change a
world, which they do whether they return or raise. -/

namespace Py

/-- The exceptions that the modelled code raises of itself. -/
inductive PyError
  | valueError (message : String)
  | keyError (key : String)
  | validationError (field : String)
  | configError (message : String)
  deriving DecidableEq, Repr

/-- The exceptions of the standard library.  A `UnicodeError`, `binascii.Error` or `JSONDecodeError`
is a `ValueError`. -/
inductive Exn
  | attributeError
  | keyError
  | osError
  | overflowError
  | recursionError
  | typeError
  | valueError
  deriving DecidableEq, Repr

def orRaise {α : Type} (result : Option α) (e : Exn) : Except Exn α :=
  match result with
  | some a => .ok a
  | none => .error e

theorem orRaise_eq_ok {α : Type} {result : Option α} {e : Exn} {a : α} :
    orRaise result e = .ok a ↔ result = some a := by
  cases result with
  | none => exact ⟨nofun, nofun⟩
  | some b => exact ⟨fun h => congrArg some (Except.ok.inj h), fun h => congrArg _ (Option.some.inj h)⟩

section Except

variable {ε α β : Type}

theorem bind_eq_ok {x : Except ε α} {f : α → Except ε β} {b : β} :
    (x >>= f) = .ok b ↔ ∃ a, x = .ok a ∧ f a = .ok b := by
  constructor
  · intro h
    cases x with
    | error e => cases h
    | ok a => exact ⟨a, rfl, h⟩
  · rintro ⟨a, rfl, h⟩
    exact h

theorem exists_bind_ok {x : Except ε α} {f : α → Except ε β} {a : α} (h : x = .ok a)
    (hf : ∃ b, f a = .ok b) : ∃ b, x >>= f = .ok b := by
  rw [h]
  exact hf

theorem map_eq_ok {x : Except ε α} {f : α → β} {b : β} :
    x.map f = .ok b ↔ ∃ a, x = .ok a ∧ f a = b := by
  cases x with
  | error e =>
    constructor
    · intro h
      cases h
    · rintro ⟨a, h, -⟩
      cases h
  | ok a =>
    constructor
    · intro h
      exact ⟨a, rfl, Except.ok.inj h⟩
    · rintro ⟨a', h, rfl⟩
      rw [Except.ok.inj h]
      rfl

theorem mapError_eq_ok {ε' : Type} {x : Except ε α} {f : ε → ε'} {a : α} :
    x.mapError f = .ok a ↔ x = .ok a := by
  cases x <;> simp [Except.mapError]

theorem mapM_eq_ok {f : α → Except ε β} {xs : List α} {ys : List β} :
    xs.mapM f = .ok ys ↔ List.Forall₂ (fun x y => f x = .ok y) xs ys := by
  induction xs generalizing ys with
  | nil =>
    rw [List.mapM_nil, List.forall₂_nil_left_iff]
    exact ⟨fun h => (Except.ok.inj h).symm, fun h => h ▸ rfl⟩
  | cons x xs ih =>
    rw [List.mapM_cons, List.forall₂_cons_left_iff, bind_eq_ok]
    constructor
    · rintro ⟨y, hy, hrest⟩
      obtain ⟨ys', hys', hpure⟩ := bind_eq_ok.mp hrest
      exact ⟨y, ys', hy, ih.mp hys', (Except.ok.inj hpure).symm⟩
    · rintro ⟨y, ys', hy, hys', rfl⟩
      exact ⟨y, hy, bind_eq_ok.mpr ⟨ys', ih.mpr hys', rfl⟩⟩

theorem mapM_congr {f g : α → Except ε β} {xs : List α} (h : ∀ x ∈ xs, f x = g x) :
    xs.mapM f = xs.mapM g := by
  induction xs with
  | nil => rfl
  | cons x xs ih =>
    obtain ⟨hx, hxs⟩ := List.forall_mem_cons.mp h
    rw [List.mapM_cons, List.mapM_cons, hx, ih hxs]

/-- The answers about a list are all there and all good when each is. -/
theorem mapM_all {f : α → Except ε β} {good : β → Prop} {xs : List α} :
    (∃ ys, xs.mapM f = .ok ys ∧ ∀ y ∈ ys, good y) ↔ ∀ x ∈ xs, ∃ y, f x = .ok y ∧ good y := by
  constructor
  · rintro ⟨ys, hys, hgood⟩ x hx
    obtain ⟨i, hi, rfl⟩ := List.getElem_of_mem hx
    have hforall := mapM_eq_ok.mp hys
    have hi' : i < ys.length := hforall.length_eq ▸ hi
    exact ⟨ys[i], hforall.get hi hi', hgood _ (List.getElem_mem hi')⟩
  · intro h
    induction xs with
    | nil => exact ⟨[], rfl, nofun⟩
    | cons x xs ih =>
      obtain ⟨hx, hxs⟩ := List.forall_mem_cons.mp h
      obtain ⟨y, hy, hgood⟩ := hx
      obtain ⟨ys, hys, hall⟩ := ih hxs
      exact ⟨y :: ys, mapM_eq_ok.mpr (.cons hy (mapM_eq_ok.mp hys)),
        List.forall_mem_cons.mpr ⟨hgood, hall⟩⟩

theorem exists_mapM_ok {f : α → Except ε β} {xs : List α} :
    (∃ ys, xs.mapM f = .ok ys) ↔ ∀ x ∈ xs, ∃ y, f x = .ok y := by
  have hall := @mapM_all _ _ _ f (fun _ => True) xs
  simpa using hall

/-- The exceptions that a computation may raise are among `caught`. -/
def RaisesOnly (caught : List ε) (result : Except ε α) : Prop :=
  ∀ e, result = .error e → e ∈ caught

@[simp] theorem raisesOnly_ok (caught : List ε) (a : α) : RaisesOnly caught (.ok a) := nofun

@[simp] theorem raisesOnly_error {caught : List ε} {e : ε} :
    RaisesOnly caught (.error e : Except ε α) ↔ e ∈ caught := by
  simp [RaisesOnly]

theorem RaisesOnly.mono {caught caught' : List ε} {result : Except ε α}
    (h : RaisesOnly caught result) (hsub : caught ⊆ caught') : RaisesOnly caught' result :=
  fun e he => hsub (h e he)

theorem raisesOnly_orRaise {α : Type} {caught : List Exn} {e : Exn} (h : e ∈ caught)
    (result : Option α) : RaisesOnly caught (orRaise result e) := by
  cases result with
  | some a => exact raisesOnly_ok caught a
  | none => exact raisesOnly_error.mpr h

theorem raisesOnly_bind {caught : List ε} {result : Except ε α} {next : α → Except ε β} :
    RaisesOnly caught (result >>= next) ↔
      RaisesOnly caught result ∧ ∀ a, result = .ok a → RaisesOnly caught (next a) := by
  cases result with
  | ok a => simp [bind, Except.bind]
  | error e => simp [bind, Except.bind]

theorem raisesOnly_map {caught : List ε} {result : Except ε α} {f : α → β} :
    RaisesOnly caught (result.map f) ↔ RaisesOnly caught result := by
  cases result <;> simp [Except.map]

theorem raisesOnly_mapM {caught : List ε} {f : α → Except ε β} {xs : List α}
    (h : ∀ x ∈ xs, RaisesOnly caught (f x)) : RaisesOnly caught (xs.mapM f) := by
  induction xs with
  | nil => simp [pure, Except.pure]
  | cons x xs ih =>
    rw [List.mapM_cons, raisesOnly_bind]
    refine ⟨h x List.mem_cons_self, fun y _ => raisesOnly_bind.mpr ⟨?_, fun ys _ => ?_⟩⟩
    · exact ih fun x' hx' => h x' (List.mem_cons_of_mem x hx')
    · exact raisesOnly_ok caught (y :: ys)

end Except

/-- A call to a world: what it answers or raises, and the world that it leaves. -/
abbrev Call (σ ε α : Type) := σ → Except ε α × σ

variable {σ ε α β γ : Type}

def Call.map (f : α → β) (call : Call σ ε α) : Call σ ε β := fun world =>
  match call world with
  | (.ok a, after) => (.ok (f a), after)
  | (.error e, after) => (.error e, after)

theorem Call.map_ok {f : α → β} {call : Call σ ε α} {world after : σ} {a : α}
    (h : call world = (.ok a, after)) : call.map f world = (.ok (f a), after) := by
  rw [Call.map, h]

theorem Call.map_error {f : α → β} {call : Call σ ε α} {world after : σ} {e : ε}
    (h : call world = (.error e, after)) : call.map f world = (.error e, after) := by
  rw [Call.map, h]

theorem Call.map_eq_ok {f : α → β} {call : Call σ ε α} {world after : σ} {b : β} :
    call.map f world = (.ok b, after) ↔ ∃ a, call world = (.ok a, after) ∧ f a = b := by
  unfold Call.map
  rcases call world with ⟨_ | a, after'⟩
  · simp
  · simp only [Prod.mk.injEq, Except.ok.injEq]
    constructor
    · rintro ⟨rfl, rfl⟩
      exact ⟨a, ⟨rfl, rfl⟩, rfl⟩
    · rintro ⟨a', ⟨rfl, rfl⟩, rfl⟩
      exact ⟨rfl, rfl⟩

def Call.pure (a : α) : Call σ ε α := fun world => (.ok a, world)

def Call.raise (e : ε) : Call σ ε α := fun world => (.error e, world)

/-- A computation that does not look at the world. -/
def Call.lift (result : Except ε α) : Call σ ε α := fun world => (result, world)

def Call.bind (call : Call σ ε α) (next : α → Call σ ε β) : Call σ ε β := fun world =>
  match call world with
  | (.ok a, after) => next a after
  | (.error e, after) => (.error e, after)

theorem Call.bind_eq_ok {call : Call σ ε α} {next : α → Call σ ε β} {world after : σ} {b : β} :
    call.bind next world = (.ok b, after) ↔
      ∃ a between, call world = (.ok a, between) ∧ next a between = (.ok b, after) := by
  unfold Call.bind
  rcases call world with ⟨_ | a, between⟩
  · simp
  · constructor
    · exact fun h => ⟨a, between, rfl, h⟩
    · rintro ⟨a', between', heq, h⟩
      obtain ⟨ha, rfl⟩ := Prod.mk.inj heq
      obtain rfl := Except.ok.inj ha
      exact h

theorem Call.lift_eq_ok {result : Except ε α} {world after : σ} {a : α} :
    Call.lift result world = (.ok a, after) ↔ result = .ok a ∧ world = after := by
  unfold Call.lift
  rw [Prod.mk.injEq]

theorem Call.lift_ok_bind (a : α) (next : α → Call σ ε β) :
    (Call.lift (.ok a)).bind next = next a := rfl

theorem Call.bind_cases (call : Call σ ε α) (next : α → Call σ ε β) (world : σ) :
    (∃ e, call.bind next world = (.error e, (call world).2)) ∨
      ∃ a, call.bind next world = next a (call world).2 := by
  unfold Call.bind
  rcases call world with ⟨e | a, after⟩
  · exact Or.inl ⟨e, rfl⟩
  · exact Or.inr ⟨a, rfl⟩

theorem Call.map_state (f : α → β) (call : Call σ ε α) (world : σ) :
    (call.map f world).2 = (call world).2 := by
  unfold Call.map
  rcases call world with ⟨e | a, after⟩ <;> rfl

/-- What the call answers, where it does. -/
def Call.Answers (good : α → Prop) (call : Call σ ε α) : Prop :=
  ∀ world a after, call world = (.ok a, after) → good a

theorem Call.Answers.raise {good : α → Prop} (e : ε) :
    (Call.raise e : Call σ ε α).Answers good := nofun

theorem Call.Answers.bind {good : β → Prop} {call : Call σ ε α} {next : α → Call σ ε β}
    (h : ∀ a, (next a).Answers good) : (call.bind next).Answers good := by
  intro world b after hcall
  obtain ⟨a, between, -, hnext⟩ := Call.bind_eq_ok.mp hcall
  exact h a between b after hnext

theorem Call.Answers.map {good : β → Prop} {call : Call σ ε α} {f : α → β} (h : ∀ a, good (f a)) :
    (call.map f).Answers good := by
  intro world b after hcall
  obtain ⟨a, -, rfl⟩ := Call.map_eq_ok.mp hcall
  exact h a

/-- The call returns, from every world. -/
def Call.Returns (call : Call σ ε α) : Prop := ∀ world, ∃ a after, call world = (.ok a, after)

theorem Call.Returns.pure (a : α) : (Call.pure a : Call σ ε α).Returns :=
  fun world => ⟨a, world, rfl⟩

theorem Call.Returns.bind {call : Call σ ε α} {next : α → Call σ ε β} (h : call.Returns)
    (hnext : ∀ a, (next a).Returns) : (call.bind next).Returns := by
  intro world
  obtain ⟨a, between, hcall⟩ := h world
  obtain ⟨b, after, hb⟩ := hnext a between
  exact ⟨b, after, Call.bind_eq_ok.mpr ⟨a, between, hcall, hb⟩⟩

theorem Call.Returns.map {call : Call σ ε α} (h : call.Returns) (f : α → β) :
    (call.map f).Returns := by
  intro world
  obtain ⟨a, after, hcall⟩ := h world
  exact ⟨f a, after, Call.map_ok hcall⟩

theorem Call.Returns.lift {result : Except ε α} (h : ∃ a, result = .ok a) :
    (Call.lift result : Call σ ε α).Returns := by
  obtain ⟨a, rfl⟩ := h
  exact fun world => ⟨a, world, rfl⟩

theorem Call.Returns.lift_bind {result : Except ε α} {next : α → Call σ ε β}
    (h : ∃ a, result = .ok a) (hnext : ∀ a, (next a).Returns) :
    ((Call.lift result).bind next).Returns := by
  obtain ⟨a, rfl⟩ := h
  rw [Call.lift_ok_bind]
  exact hnext a

/-- What a sequence of calls came to: the answers before the first exception, that exception, and
the world afterwards. -/
structure Asked (σ ε α β : Type) where
  answers : List (α × β)
  raised : Option ε
  world : σ

/-- Asks about each of a list in turn, until a call raises. -/
def askAll (ask : α → Call σ ε β) : List α → σ → Asked σ ε α β
  | [], world => ⟨[], none, world⟩
  | x :: xs, world =>
    match ask x world with
    | (.error e, after) => ⟨[], some e, after⟩
    | (.ok answer, after) =>
      let rest := askAll ask xs after
      ⟨(x, answer) :: rest.answers, rest.raised, rest.world⟩

theorem askAll_cons_ok {ask : α → Call σ ε β} {x : α} {world after : σ} {answer : β}
    (h : ask x world = (.ok answer, after)) (xs : List α) :
    askAll ask (x :: xs) world =
      ⟨(x, answer) :: (askAll ask xs after).answers, (askAll ask xs after).raised,
        (askAll ask xs after).world⟩ := by
  rw [askAll, h]

theorem askAll_cons_error {ask : α → Call σ ε β} {x : α} {world after : σ} {e : ε}
    (h : ask x world = (.error e, after)) (xs : List α) :
    askAll ask (x :: xs) world = ⟨[], some e, after⟩ := by
  rw [askAll, h]

theorem askAll_isPrefix (ask : α → Call σ ε β) (xs : List α) (world : σ) :
    (askAll ask xs world).answers.map Prod.fst <+: xs := by
  induction xs generalizing world with
  | nil => simp [askAll]
  | cons x xs ih =>
    rcases hx : ask x world with ⟨e | answer, after⟩
    · simp [askAll_cons_error hx]
    · obtain ⟨rest, hrest⟩ := ih after
      exact ⟨rest, by simp [askAll_cons_ok hx, hrest]⟩

theorem askAll_length_le (ask : α → Call σ ε β) (xs : List α) (world : σ) :
    (askAll ask xs world).answers.length ≤ xs.length := by
  simpa using (askAll_isPrefix ask xs world).length_le

/-- Calls that did not raise answered about the whole list. -/
theorem askAll_complete {ask : α → Call σ ε β} {xs : List α} {world : σ}
    (h : (askAll ask xs world).raised = none) :
    (askAll ask xs world).answers.map Prod.fst = xs := by
  induction xs generalizing world with
  | nil => rfl
  | cons x xs ih =>
    rcases hx : ask x world with ⟨e | answer, after⟩
    · rw [askAll_cons_error hx] at h
      cases h
    · rw [askAll_cons_ok hx] at h ⊢
      rw [List.map_cons, ih h]

theorem askAll_append_raised {ask : α → Call σ ε β} {xs : List α} {world : σ} {e : ε}
    (h : (askAll ask xs world).raised = some e) (ys : List α) :
    askAll ask (xs ++ ys) world = askAll ask xs world := by
  induction xs generalizing world with
  | nil => cases h
  | cons x xs ih =>
    rcases hx : ask x world with ⟨e' | answer, after⟩
    · rw [List.cons_append, askAll_cons_error hx, askAll_cons_error hx]
    · rw [askAll_cons_ok hx] at h
      rw [List.cons_append, askAll_cons_ok hx, askAll_cons_ok hx, ih h]

theorem askAll_append {ask : α → Call σ ε β} {xs : List α} {world : σ}
    (h : (askAll ask xs world).raised = none) (ys : List α) :
    askAll ask (xs ++ ys) world =
      ⟨(askAll ask xs world).answers ++ (askAll ask ys (askAll ask xs world).world).answers,
        (askAll ask ys (askAll ask xs world).world).raised,
        (askAll ask ys (askAll ask xs world).world).world⟩ := by
  induction xs generalizing world with
  | nil => rfl
  | cons x xs ih =>
    rcases hx : ask x world with ⟨e | answer, after⟩
    · rw [askAll_cons_error hx] at h
      cases h
    · rw [askAll_cons_ok hx] at h
      rw [List.cons_append, askAll_cons_ok hx, askAll_cons_ok hx, ih h, List.cons_append]

/-- Those that got the answer. -/
def Asked.answering [DecidableEq β] (asked : Asked σ ε α β) (answer : β) : List α :=
  (asked.answers.filter fun pair => pair.2 = answer).map Prod.fst

@[simp] theorem Asked.answering_cons [DecidableEq β] (x : α) (first answer : β)
    (rest : Asked σ ε α β) :
    Asked.answering ⟨(x, first) :: rest.answers, rest.raised, rest.world⟩ answer =
      if first = answer then x :: rest.answering answer else rest.answering answer := by
  unfold answering
  rw [List.filter_cons]
  split <;> simp_all

@[simp] theorem Asked.answering_append [DecidableEq β] (first rest : Asked σ ε α β) (answer : β) :
    Asked.answering ⟨first.answers ++ rest.answers, rest.raised, rest.world⟩ answer =
      first.answering answer ++ rest.answering answer := by
  unfold answering
  rw [List.filter_append, List.map_append]

theorem Asked.mem_answering [DecidableEq β] {asked : Asked σ ε α β} {answer : β} {x : α} :
    x ∈ asked.answering answer ↔ (x, answer) ∈ asked.answers := by
  unfold answering
  rw [List.mem_map]
  constructor
  · rintro ⟨⟨x', answer'⟩, hpair, rfl⟩
    obtain ⟨hmem, hanswer⟩ := List.mem_filter.mp hpair
    obtain rfl : answer' = answer := by simpa using hanswer
    exact hmem
  · exact fun h => ⟨(x, answer), List.mem_filter.mpr ⟨h, by simp⟩, rfl⟩

theorem Asked.answering_subset [DecidableEq β] {ask : α → Call σ ε β} {xs : List α} {world : σ}
    {answer : β} : (askAll ask xs world).answering answer ⊆ xs := by
  intro x hx
  exact (askAll_isPrefix ask xs world).subset
    (List.mem_map_of_mem (Asked.mem_answering.mp hx))

/-- `R` holds of each of a list in turn, between the worlds before and after it. -/
inductive Each (R : α → σ → σ → Prop) : List α → σ → σ → Prop
  | nil (world : σ) : Each R [] world world
  | cons {x : α} {xs : List α} {world between after : σ} (hx : R x world between)
      (hxs : Each R xs between after) : Each R (x :: xs) world after

theorem Each.congr {R R' : α → σ → σ → Prop} {xs : List α} {world after : σ}
    (h : ∀ x ∈ xs, ∀ world after, R x world after ↔ R' x world after) :
    Each R xs world after ↔ Each R' xs world after := by
  induction xs generalizing world with
  | nil => exact ⟨fun | .nil _ => .nil _, fun | .nil _ => .nil _⟩
  | cons x xs ih =>
    have ih' : ∀ between, Each R xs between after ↔ Each R' xs between after := fun between =>
      ih fun y hy => h y (List.mem_cons_of_mem x hy)
    constructor
    · rintro (_ | ⟨hx, hxs⟩)
      exact .cons ((h x List.mem_cons_self _ _).mp hx) ((ih' _).mp hxs)
    · rintro (_ | ⟨hx, hxs⟩)
      exact .cons ((h x List.mem_cons_self _ _).mpr hx) ((ih' _).mpr hxs)

theorem each_pure {P : α → Prop} {xs : List α} {world after : σ} :
    Each (fun x world after => after = world ∧ P x) xs world after ↔
      after = world ∧ ∀ x ∈ xs, P x := by
  induction xs generalizing world with
  | nil =>
    constructor
    · rintro (_ | _)
      exact ⟨rfl, by simp⟩
    · rintro ⟨rfl, -⟩
      exact .nil _
  | cons x xs ih =>
    constructor
    · rintro (_ | ⟨⟨rfl, hx⟩, hxs⟩)
      obtain ⟨rfl, hrest⟩ := ih.mp hxs
      exact ⟨rfl, List.forall_mem_cons.mpr ⟨hx, hrest⟩⟩
    · rintro ⟨rfl, hall⟩
      obtain ⟨hx, hrest⟩ := List.forall_mem_cons.mp hall
      exact .cons ⟨rfl, hx⟩ (ih.mpr ⟨rfl, hrest⟩)

/-- Every answer is `answer` exactly when each call in turn gives it. -/
theorem askAll_eq_each {ask : α → Call σ ε β} {xs : List α} {world after : σ} {answer : β} :
    ((askAll ask xs world).raised = none ∧ (askAll ask xs world).world = after ∧
      ∀ pair ∈ (askAll ask xs world).answers, pair.2 = answer) ↔
      Each (fun x world after => ask x world = (.ok answer, after)) xs world after := by
  induction xs generalizing world with
  | nil =>
    constructor
    · rintro ⟨-, rfl, -⟩
      exact .nil world
    · rintro (_ | _)
      exact ⟨rfl, rfl, by simp [askAll]⟩
  | cons x xs ih =>
    rcases hx : ask x world with ⟨e | first, between⟩
    · rw [askAll_cons_error hx]
      constructor
      · rintro ⟨h, -, -⟩
        cases h
      · rintro (_ | ⟨h, -⟩)
        rw [hx] at h
        cases h
    · rw [askAll_cons_ok hx]
      constructor
      · rintro ⟨hraised, hworld, hall⟩
        have hfirst : first = answer := hall (x, first) List.mem_cons_self
        subst hfirst
        exact .cons hx (ih.mp ⟨hraised, hworld, fun pair hp =>
          hall pair (List.mem_cons_of_mem _ hp)⟩)
      · rintro (_ | ⟨h, hrest⟩)
        rw [hx] at h
        obtain ⟨hfirst, rfl⟩ := Prod.mk.inj h
        obtain rfl := Except.ok.inj hfirst
        obtain ⟨hraised, hworld, hall⟩ := ih.mpr hrest
        refine ⟨hraised, hworld, fun pair hp => ?_⟩
        rcases List.mem_cons.mp hp with rfl | hp
        · rfl
        · exact hall pair hp

end Py
