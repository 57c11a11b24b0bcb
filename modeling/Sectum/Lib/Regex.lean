import Mathlib.Data.List.Infix

/-! Patterns of Python's `re`, of the kind that looks at most one character back, and the order in
which a backtracking matcher tries what they match. The characters are of any type. -/

namespace Py

inductive Re (α : Type)
  | empty
  | one (p : α → Bool)
  /-- `(?<!p)`. -/
  | notAfter (p : α → Bool)
  /-- `p{least,}`. -/
  | many (p : α → Bool) (least : Nat)
  | seq (first second : Re α)
  | alt (left right : Re α)

variable {α : Type}

section Last

/-- The character before what follows `w`, when `prev` is before `w`. -/
def lastOf (prev : Option α) (w : List α) : Option α := w.getLast?.or prev

@[simp] theorem lastOf_nil (prev : Option α) : lastOf prev [] = prev := rfl

theorem lastOf_append (prev : Option α) (w w' : List α) :
    lastOf prev (w ++ w') = lastOf (lastOf prev w) w' := by
  simp [lastOf, List.getLast?_append, Option.or_assoc]

@[simp] theorem lastOf_cons (prev : Option α) (c : α) (w : List α) :
    lastOf prev (c :: w) = lastOf (some c) w := lastOf_append prev [c] w

end Last

namespace Re

def literal [DecidableEq α] (w : List α) : Re α :=
  w.foldr (fun c rest => .seq (.one (· = c)) rest) .empty

/-- `p{count}`. -/
def times (p : α → Bool) : Nat → Re α
  | 0 => .empty
  | count + 1 => .seq (.one p) (times p count)

/-- The texts that a pattern matches behind `prev`. -/
def Matches : Re α → Option α → List α → Prop
  | empty, _, w => w = []
  | one p, _, w => ∃ c, w = [c] ∧ p c = true
  | notAfter p, prev, w => w = [] ∧ ∀ c ∈ prev, p c = false
  | many p least, _, w => least ≤ w.length ∧ ∀ c ∈ w, p c = true
  | seq first second, prev, w =>
    ∃ x y, w = x ++ y ∧ first.Matches prev x ∧ second.Matches (lastOf prev x) y
  | alt left right, prev, w => left.Matches prev w ∨ right.Matches prev w

/-- The beginnings of a text of which every character is in a class, the longest first. -/
def runsOf (p : α → Bool) : List α → List (List α)
  | [] => [[]]
  | c :: cs => if p c then (runsOf p cs).map (c :: ·) ++ [[]] else [[]]

/-- What a pattern matches at the beginning of a text, in the order in which it is tried. -/
def tries : Re α → Option α → List α → List (List α)
  | empty, _, _ => [[]]
  | one p, _, text =>
    match text with
    | [] => []
    | c :: _ => if p c then [[c]] else []
  | notAfter p, prev, _ => if prev.all (!p ·) then [[]] else []
  | many p least, _, text => (runsOf p text).filter (least ≤ ·.length)
  | seq first second, prev, text =>
    (first.tries prev text).flatMap fun x =>
      (second.tries (lastOf prev x) (text.drop x.length)).map (x ++ ·)
  | alt left right, prev, text => left.tries prev text ++ right.tries prev text

theorem mem_runsOf {p : α → Bool} {text w : List α} :
    w ∈ runsOf p text ↔ w <+: text ∧ ∀ c ∈ w, p c = true := by
  induction text generalizing w with
  | nil =>
    rw [runsOf, List.mem_singleton, List.prefix_nil]
    constructor
    · rintro rfl
      simp
    · exact And.left
  | cons c cs ih =>
    rw [runsOf]
    cases w with
    | nil => split <;> simp
    | cons d w =>
      have hcons : d :: w <+: c :: cs ↔ d = c ∧ w <+: cs := List.cons_prefix_cons
      split
      · rename_i hc
        simp only [List.mem_append, List.mem_map, List.cons.injEq, List.mem_singleton, reduceCtorEq,
          or_false, ih, hcons, List.forall_mem_cons]
        constructor
        · rintro ⟨w', ⟨hbegins, hall⟩, rfl, rfl⟩
          exact ⟨⟨rfl, hbegins⟩, hc, hall⟩
        · rintro ⟨⟨rfl, hbegins⟩, -, hall⟩
          exact ⟨w, ⟨hbegins, hall⟩, rfl, rfl⟩
      · rename_i hc
        simp only [List.mem_singleton, reduceCtorEq, hcons, List.forall_mem_cons, false_iff]
        rintro ⟨⟨rfl, -⟩, hd, -⟩
        exact hc hd

theorem pairwise_runsOf (p : α → Bool) (text : List α) :
    (runsOf p text).Pairwise fun x y => y.length < x.length := by
  induction text with
  | nil => simp [runsOf]
  | cons c cs ih =>
    rw [runsOf]
    split
    · rw [List.pairwise_append, List.pairwise_map]
      exact ⟨ih.imp fun h => by simpa using h, by simp, by simp⟩
    · simp

/-- The matcher tries every match, and nothing else. -/
theorem mem_tries {re : Re α} {prev : Option α} {text w : List α} :
    w ∈ re.tries prev text ↔ w <+: text ∧ re.Matches prev w := by
  induction re generalizing prev text w with
  | empty =>
    simp only [tries, Matches, List.mem_singleton]
    exact ⟨fun h => ⟨h ▸ List.nil_prefix, h⟩, And.right⟩
  | one p =>
    simp only [tries, Matches]
    cases text with
    | nil =>
      refine iff_of_false List.not_mem_nil ?_
      rintro ⟨hbegins, d, rfl, -⟩
      simp at hbegins
    | cons c cs =>
      simp only
      split
      · rename_i hc
        rw [List.mem_singleton]
        constructor
        · rintro rfl
          exact ⟨by simp, c, rfl, hc⟩
        · rintro ⟨hbegins, d, rfl, -⟩
          rw [(List.cons_prefix_cons.mp hbegins).1]
      · rename_i hc
        refine iff_of_false List.not_mem_nil ?_
        rintro ⟨hbegins, d, rfl, hd⟩
        rw [(List.cons_prefix_cons.mp hbegins).1] at hd
        exact hc hd
  | notAfter p =>
    simp only [tries, Matches]
    have hiff : prev.all (!p ·) = true ↔ ∀ c ∈ prev, p c = false := by
      cases prev <;> simp
    split
    · rename_i h
      rw [List.mem_singleton]
      exact ⟨fun hw => ⟨hw ▸ List.nil_prefix, hw, hiff.mp h⟩, fun hw => hw.2.1⟩
    · rename_i h
      exact iff_of_false List.not_mem_nil fun hw => h (hiff.mpr hw.2.2)
  | many p least =>
    simp only [tries, Matches, List.mem_filter, mem_runsOf, decide_eq_true_eq]
    tauto
  | seq first second ihfirst ihsecond =>
    simp only [tries, Matches, List.mem_flatMap, List.mem_map, ihfirst, ihsecond]
    constructor
    · rintro ⟨x, ⟨⟨rest, rfl⟩, hx⟩, y, ⟨hy, hmatch⟩, rfl⟩
      rw [List.drop_left] at hy
      exact ⟨(List.prefix_append_right_inj x).mpr hy, x, y, rfl, hx, hmatch⟩
    · rintro ⟨⟨rest, rfl⟩, x, y, rfl, hx, hmatch⟩
      refine ⟨x, ⟨⟨y ++ rest, by simp⟩, hx⟩, y, ⟨?_, hmatch⟩, rfl⟩
      simp
  | alt left right ihleft ihright =>
    simp only [tries, Matches, List.mem_append, ihleft, ihright]
    tauto

section Literal

variable [DecidableEq α]

theorem matches_literal {word : List α} {prev : Option α} {w : List α} :
    (literal word).Matches prev w ↔ w = word := by
  induction word generalizing prev w with
  | nil => exact Iff.rfl
  | cons c word ih =>
    have hcons : literal (c :: word) = .seq (.one (· = c)) (literal word) := rfl
    simp only [hcons, Matches, decide_eq_true_eq, ih]
    constructor
    · rintro ⟨x, y, rfl, ⟨d, rfl, rfl⟩, rfl⟩
      rfl
    · rintro rfl
      exact ⟨[c], word, rfl, ⟨c, rfl, rfl⟩, rfl⟩

end Literal

/-! What the classes of a pattern say about the texts that it matches. -/

section Classes

/-- No class of the pattern has one of the characters. -/
def avoids (marks : List α) : Re α → Bool
  | empty => true
  | one p => marks.all (!p ·)
  | notAfter _ => true
  | many p _ => marks.all (!p ·)
  | seq first second => first.avoids marks && second.avoids marks
  | alt left right => left.avoids marks && right.avoids marks

/-- The least length of what the pattern matches. -/
def shortest : Re α → Nat
  | empty => 0
  | one _ => 1
  | notAfter _ => 0
  | many _ least => least
  | seq first second => first.shortest + second.shortest
  | alt left right => min left.shortest right.shortest

/-- What the pattern matches does not begin with one of the characters. -/
def headAvoids (marks : List α) : Re α → Bool
  | empty => true
  | one p => marks.all (!p ·)
  | notAfter _ => true
  | many p _ => marks.all (!p ·)
  | seq first second => first.headAvoids marks && (0 < first.shortest || second.headAvoids marks)
  | alt left right => left.headAvoids marks && right.headAvoids marks

/-- `prev` is as good as the beginning of the text. -/
def ignores (prev : α) : Re α → Bool
  | notAfter p => !p prev
  | seq first second => first.ignores prev && second.ignores prev
  | alt left right => left.ignores prev && right.ignores prev
  | _ => true

variable {marks : List α} {re : Re α} {prev : Option α} {w : List α}

theorem notMem_of_all {p : α → Bool} (h : marks.all (!p ·) = true) (hw : ∀ c ∈ w, p c = true) :
    ∀ c ∈ marks, c ∉ w := by
  intro c hc hmem
  have := List.all_eq_true.mp h c hc
  simp [hw c hmem] at this

theorem Matches.notMem (hmatch : re.Matches prev w) (h : re.avoids marks = true) :
    ∀ c ∈ marks, c ∉ w := by
  induction re generalizing prev w with
  | empty =>
    have hnil : w = [] := hmatch
    simp [hnil]
  | one p =>
    obtain ⟨d, rfl, hd⟩ := hmatch
    exact notMem_of_all h (by simpa using hd)
  | notAfter p =>
    have hnil : w = [] := hmatch.1
    simp [hnil]
  | many p least => exact notMem_of_all h hmatch.2
  | seq first second ihfirst ihsecond =>
    obtain ⟨x, y, rfl, hx, hy⟩ := hmatch
    obtain ⟨hfirst, hsecond⟩ := Bool.and_eq_true_iff.mp h
    intro c hc hmem
    rcases List.mem_append.mp hmem with hmem | hmem
    · exact ihfirst hx hfirst c hc hmem
    · exact ihsecond hy hsecond c hc hmem
  | alt left right ihleft ihright =>
    obtain ⟨hleft, hright⟩ := Bool.and_eq_true_iff.mp h
    rcases hmatch with hmatch | hmatch
    · exact ihleft hmatch hleft
    · exact ihright hmatch hright

theorem Matches.shortest_le (hmatch : re.Matches prev w) : re.shortest ≤ w.length := by
  induction re generalizing prev w with
  | empty => exact Nat.zero_le _
  | one p =>
    obtain ⟨d, rfl, -⟩ := hmatch
    exact Nat.le_refl 1
  | notAfter p => exact Nat.zero_le _
  | many p least => exact hmatch.1
  | seq first second ihfirst ihsecond =>
    obtain ⟨x, y, rfl, hx, hy⟩ := hmatch
    have := ihfirst hx
    have := ihsecond hy
    simp only [shortest, List.length_append]
    omega
  | alt left right ihleft ihright =>
    simp only [shortest]
    rcases hmatch with hmatch | hmatch
    · have := ihleft hmatch
      omega
    · have := ihright hmatch
      omega

theorem Matches.head_notMem (hmatch : re.Matches prev w) (h : re.headAvoids marks = true) :
    ∀ c ∈ w.head?, c ∉ marks := by
  have hclass {p : α → Bool} {w : List α} (h : marks.all (!p ·) = true)
      (hw : ∀ c ∈ w, p c = true) : ∀ c ∈ w.head?, c ∉ marks :=
    fun c hc hmem => notMem_of_all h hw c hmem (List.mem_of_mem_head? hc)
  induction re generalizing prev w with
  | empty =>
    have hnil : w = [] := hmatch
    simp [hnil]
  | one p =>
    obtain ⟨d, rfl, hd⟩ := hmatch
    exact hclass h (by simpa using hd)
  | notAfter p =>
    have hnil : w = [] := hmatch.1
    simp [hnil]
  | many p least => exact hclass h hmatch.2
  | seq first second ihfirst ihsecond =>
    obtain ⟨x, y, rfl, hx, hy⟩ := hmatch
    obtain ⟨hfirst, hsecond⟩ := Bool.and_eq_true_iff.mp h
    cases x with
    | nil =>
      have hzero : ¬0 < first.shortest := Nat.not_lt.mpr hx.shortest_le
      exact ihsecond hy (by simpa [hzero] using hsecond)
    | cons d x => simpa using ihfirst hx hfirst
  | alt left right ihleft ihright =>
    obtain ⟨hleft, hright⟩ := Bool.and_eq_true_iff.mp h
    rcases hmatch with hmatch | hmatch
    · exact ihleft hmatch hleft
    · exact ihright hmatch hright

theorem matches_of_ignores {c : α} (h : re.ignores c = true) :
    re.Matches (some c) w ↔ re.Matches none w := by
  induction re generalizing w with
  | empty => exact Iff.rfl
  | one p => exact Iff.rfl
  | notAfter p => simpa [Matches, ignores] using fun _ => h
  | many p least => exact Iff.rfl
  | seq first second ihfirst ihsecond =>
    obtain ⟨hfirst, hsecond⟩ := Bool.and_eq_true_iff.mp h
    simp only [Matches, ihfirst hfirst]
    refine exists_congr fun x => exists_congr fun y => and_congr Iff.rfl (and_congr Iff.rfl ?_)
    cases x with
    | nil => exact ihsecond hsecond
    | cons d x => simp
  | alt left right ihleft ihright =>
    obtain ⟨hleft, hright⟩ := Bool.and_eq_true_iff.mp h
    simp only [Matches, ihleft hleft, ihright hright]

end Classes

end Re

end Py
