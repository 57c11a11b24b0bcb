import Mathlib.Data.List.Induction
import Sectum.Lib.Dict

/-! Records merged by key in first-seen order: one pass keeps the record of each key in a dictionary
and the keys in a list, and merges a later record of a key into the one kept. -/

namespace KeyedMerge

open Py

section EraseDups

variable {κ : Type*} [DecidableEq κ]

theorem eraseDups_concat (xs : List κ) (x : κ) :
    (xs ++ [x]).eraseDups = if x ∈ xs then xs.eraseDups else xs.eraseDups ++ [x] := by
  rw [List.eraseDups_append]
  by_cases h : x ∈ xs
  · simp [List.removeAll, h]
  · simp [List.removeAll, h, List.eraseDups_cons]

theorem nodup_eraseDups (xs : List κ) : xs.eraseDups.Nodup := by
  induction xs using List.reverseRecOn with
  | nil => simp
  | append_singleton xs x ih =>
    rw [eraseDups_concat]
    by_cases h : x ∈ xs
    · rwa [if_pos h]
    · rw [if_neg h, ← List.concat_eq_append]
      exact ih.concat fun hx => h (List.mem_eraseDups.mp hx)

theorem eraseDups_of_nodup {xs : List κ} (h : xs.Nodup) : xs.eraseDups = xs := by
  induction xs using List.reverseRecOn with
  | nil => rfl
  | append_singleton xs x ih =>
    obtain ⟨hxs, -, hfresh⟩ := List.nodup_append.mp h
    have hx : x ∉ xs := fun hmem => hfresh x hmem x (List.mem_singleton_self x) rfl
    rw [eraseDups_concat, if_neg hx, ih hxs]

theorem eraseDups_map {ι : Type*} [DecidableEq ι] {f : ι → κ} {xs : List ι}
    (hf : ∀ x ∈ xs, ∀ y ∈ xs, f x = f y → x = y) :
    (xs.map f).eraseDups = xs.eraseDups.map f := by
  induction xs using List.reverseRecOn with
  | nil => rfl
  | append_singleton xs x ih =>
    have hprefix : ∀ y ∈ xs, ∀ z ∈ xs, f y = f z → y = z := fun y hy z hz =>
      hf y (List.mem_append_left _ hy) z (List.mem_append_left _ hz)
    have hseen : f x ∈ xs.map f ↔ x ∈ xs := by
      constructor
      · intro hmem
        obtain ⟨y, hy, hxy⟩ := List.mem_map.mp hmem
        rw [← hf y (List.mem_append_left _ hy) x (List.mem_append_right _ List.mem_cons_self) hxy]
        exact hy
      · exact List.mem_map_of_mem
    rw [List.map_append, List.map_singleton, eraseDups_concat, eraseDups_concat, ih hprefix]
    by_cases h : x ∈ xs
    · rw [if_pos (hseen.mpr h), if_pos h]
    · rw [if_neg (mt hseen.mp h), if_neg h, List.map_append, List.map_singleton]

theorem eraseDups_append_eraseDups (xs ys : List κ) :
    (xs.eraseDups ++ ys).eraseDups = (xs ++ ys).eraseDups := by
  have hmem : ∀ y, xs.eraseDups.elem y = xs.elem y := by
    intro y
    rw [Bool.eq_iff_iff, List.elem_iff, List.elem_iff, List.mem_eraseDups]
  rw [List.eraseDups_append, List.eraseDups_append, eraseDups_of_nodup (nodup_eraseDups xs)]
  simp only [List.removeAll, hmem]

end EraseDups

variable {α κ : Type*} [DecidableEq κ] (key : α → κ) (merge : α → α → α)

def step (state : Dict κ α × List κ) (x : α) : Dict κ α × List κ :=
  match state.1.lookup (key x) with
  | none => (state.1.set (key x) x, state.2 ++ [key x])
  | some kept => (state.1.set (key x) (merge kept x), state.2)

def collect (xs : List α) : Dict κ α × List κ := xs.foldl (step key merge) (∅, [])

/-- The records kept, in first-seen order of their keys. -/
def values (xs : List α) : List α :=
  (collect key merge xs).2.filterMap (collect key merge xs).1.lookup

/-- The record that the records of key `k` merge to, from the left. -/
def merged (k : κ) (xs : List α) : Option α :=
  match xs.filter fun x => key x = k with
  | [] => none
  | x :: rest => some (rest.foldl merge x)

theorem merged_concat (k : κ) (xs : List α) (x : α) :
    merged key merge k (xs ++ [x]) =
      if key x = k then
        some (match merged key merge k xs with | none => x | some kept => merge kept x)
      else merged key merge k xs := by
  unfold merged
  rw [List.filter_append]
  by_cases h : key x = k
  · cases hs : xs.filter fun x => key x = k <;> simp [h]
  · simp [h]

/-- What the pass holds after `xs`: each key's merge, and the keys seen, each once. -/
structure Holds (xs : List α) (state : Dict κ α × List κ) : Prop where
  lookup : ∀ k, state.1.lookup k = merged key merge k xs
  nodup : state.2.Nodup
  mem : ∀ k, k ∈ state.2 ↔ ∃ x ∈ xs, key x = k

theorem merged_eq_none {k : κ} {xs : List α} :
    merged key merge k xs = none ↔ ¬∃ x ∈ xs, key x = k := by
  unfold merged
  cases hs : xs.filter fun x => key x = k with
  | nil =>
    have := List.filter_eq_nil_iff.mp hs
    simpa using this
  | cons x rest =>
    have hx : x ∈ xs.filter fun x => key x = k := by rw [hs]; exact List.mem_cons_self
    simp only [reduceCtorEq, false_iff, not_not]
    exact ⟨x, (List.mem_filter.mp hx).1, by simpa using (List.mem_filter.mp hx).2⟩

theorem Holds.step {xs : List α} {state : Dict κ α × List κ} (h : Holds key merge xs state)
    (x : α) : Holds key merge (xs ++ [x]) (step key merge state x) := by
  have hlook := h.lookup (key x)
  have hvalue : ∀ v k, (state.1.set (key x) v).lookup k =
      if key x = k then some v else merged key merge k xs := by
    intro v k
    by_cases hk : key x = k
    · subst hk
      simp
    · rw [Dict.lookup_set_ne _ _ (Ne.symm hk), h.lookup, if_neg hk]
  unfold KeyedMerge.step
  cases hs : state.1.lookup (key x) with
  | none =>
    rw [hs] at hlook
    have hfresh := (merged_eq_none key merge).mp hlook.symm
    refine ⟨fun k => ?_, ?_, fun k => ?_⟩
    · rw [hvalue, merged_concat]
      by_cases hk : key x = k
      · subst hk
        simp [← hlook]
      · simp [hk]
    · rw [List.nodup_append]
      refine ⟨h.nodup, by simp, fun a ha b hb => ?_⟩
      obtain rfl := List.mem_singleton.mp hb
      rintro rfl
      exact hfresh ((h.mem _).mp ha)
    · simp [h.mem, or_and_right, exists_or, eq_comm (a := k)]
  | some kept =>
    rw [hs] at hlook
    refine ⟨fun k => ?_, h.nodup, fun k => ?_⟩
    · rw [hvalue, merged_concat]
      by_cases hk : key x = k
      · subst hk
        simp [← hlook]
      · simp [hk]
    · have hseen : ∃ y ∈ xs, key y = key x := by
        by_contra hno
        rw [(merged_eq_none key merge).mpr hno] at hlook
        cases hlook
      rw [h.mem]
      constructor
      · rintro ⟨y, hy, rfl⟩
        exact ⟨y, List.mem_append_left _ hy, rfl⟩
      · rintro ⟨y, hy, rfl⟩
        rcases List.mem_append.mp hy with hy | hy
        · exact ⟨y, hy, rfl⟩
        · obtain rfl := List.mem_singleton.mp hy
          exact hseen

theorem collect_holds (xs : List α) : Holds key merge xs (collect key merge xs) := by
  induction xs using List.reverseRecOn with
  | nil => exact ⟨fun k => by simp [collect, merged], by simp [collect], by simp [collect]⟩
  | append_singleton xs x ih =>
    rw [collect, List.foldl_append]
    exact ih.step key merge x

theorem merged_append (k : κ) (xs ys : List α) :
    merged key merge k (xs ++ ys) = match merged key merge k xs with
      | none => merged key merge k ys
      | some kept => some ((ys.filter fun y => key y = k).foldl merge kept) := by
  unfold merged
  rw [List.filter_append]
  cases xs.filter fun x => key x = k with
  | nil => rfl
  | cons x rest => simp [List.foldl_append]

theorem collect_order (xs : List α) : (collect key merge xs).2 = (xs.map key).eraseDups := by
  induction xs using List.reverseRecOn with
  | nil => rfl
  | append_singleton xs x ih =>
    have hseen : merged key merge (key x) xs = none ↔ ¬∃ y ∈ xs, key y = key x :=
      merged_eq_none key merge
    rw [← (collect_holds key merge xs).lookup (key x), ← List.mem_map] at hseen
    rw [collect, List.foldl_append, List.map_append, List.map_singleton, eraseDups_concat, ← ih]
    show (step key merge (collect key merge xs) x).2 = _
    unfold step
    cases hs : (collect key merge xs).1.lookup (key x) with
    | none => rw [if_neg (hseen.mp hs)]
    | some kept =>
      rw [if_pos]
      by_contra hfresh
      rw [hseen.mpr hfresh] at hs
      cases hs

theorem values_eq (xs : List α) :
    values key merge xs = (xs.map key).eraseDups.filterMap fun k => merged key merge k xs := by
  rw [values, collect_order]
  congr 1
  funext k
  exact (collect_holds key merge xs).lookup k

section KeyPreserving

variable (hkey : ∀ a b, key a = key b → key (merge a b) = key a)
include hkey

omit [DecidableEq κ] in
theorem key_foldl {x : α} {rest : List α} (h : ∀ y ∈ rest, key y = key x) :
    key (rest.foldl merge x) = key x := by
  induction rest generalizing x with
  | nil => rfl
  | cons y rest ih =>
    have hy : key (merge x y) = key x := hkey x y (h y List.mem_cons_self).symm
    rw [List.foldl_cons, ih fun z hz => ?_, hy]
    rw [hy]
    exact h z (List.mem_cons_of_mem _ hz)

theorem key_of_merged {k : κ} {xs : List α} {y : α} (h : merged key merge k xs = some y) :
    key y = k := by
  unfold merged at h
  cases hs : xs.filter fun x => key x = k with
  | nil => simp [hs] at h
  | cons x rest =>
    have hmem : ∀ z ∈ x :: rest, key z = k := fun z hz => by
      rw [← hs] at hz
      simpa using (List.mem_filter.mp hz).2
    rw [hs] at h
    obtain rfl := Option.some.inj h
    have hx := hmem x List.mem_cons_self
    rw [key_foldl key merge hkey fun z hz => ?_, hx]
    rw [hmem z (List.mem_cons_of_mem _ hz), hx]

theorem mem_values {xs : List α} {y : α} :
    y ∈ values key merge xs ↔ merged key merge (key y) xs = some y := by
  have hc := collect_holds key merge xs
  rw [values, List.mem_filterMap]
  constructor
  · rintro ⟨k, -, hk⟩
    rw [hc.lookup] at hk
    rwa [key_of_merged key merge hkey hk]
  · intro h
    refine ⟨key y, ?_, by rw [hc.lookup, h]⟩
    rw [hc.mem]
    by_contra hno
    rw [(merged_eq_none key merge).mpr hno] at h
    cases h

theorem exists_mem_values {xs : List α} {x : α} (hx : x ∈ xs) :
    ∃ y ∈ values key merge xs, key y = key x := by
  cases hm : merged key merge (key x) xs with
  | none => exact absurd ⟨x, hx, rfl⟩ ((merged_eq_none key merge).mp hm)
  | some y =>
    have hy := key_of_merged key merge hkey hm
    exact ⟨y, (mem_values key merge hkey).mpr (by rw [hy, hm]), hy⟩

/-- What one more record of the key preserves holds of all the key's records and of the one kept
for them. -/
theorem values_induct {P : List α → α → Prop} (hone : ∀ x, P [x] x)
    (hmore : ∀ group kept x, key x = key kept → P group kept → P (group ++ [x]) (merge kept x))
    {xs : List α} {y : α} (hy : y ∈ values key merge xs) :
    P (xs.filter fun x => key x = key y) y := by
  have hfold : ∀ (rest : List α) (x : α), (∀ z ∈ rest, key z = key x) →
      P (x :: rest) (rest.foldl merge x) := by
    intro rest
    induction rest using List.reverseRecOn with
    | nil => exact fun x _ => hone x
    | append_singleton rest z ih =>
      intro x hall
      have hrest : ∀ w ∈ rest, key w = key x := fun w hw => hall w (List.mem_append_left _ hw)
      have hz := hall z (List.mem_append_right _ (List.mem_singleton_self z))
      rw [List.foldl_append, ← List.cons_append]
      exact hmore _ _ z (by rw [key_foldl key merge hkey hrest, hz]) (ih x hrest)
  have hm := (mem_values key merge hkey).mp hy
  unfold merged at hm
  cases hs : xs.filter fun x => key x = key y with
  | nil => simp [hs] at hm
  | cons x rest =>
    have hmem : ∀ z ∈ x :: rest, key z = key y := fun z hz => by
      rw [← hs] at hz
      simpa using (List.mem_filter.mp hz).2
    rw [hs] at hm
    obtain rfl := Option.some.inj hm
    apply hfold rest x
    intro z hz
    rw [hmem z (List.mem_cons_of_mem _ hz), hmem x List.mem_cons_self]

/-- A property that a merge has exactly when one of its two records has it is a property of the
kept record exactly when it is one of some record of that key. -/
theorem values_absorb {P : α → Prop}
    (hP : ∀ a b, key a = key b → (P (merge a b) ↔ P a ∨ P b)) {xs : List α} {y : α}
    (hy : y ∈ values key merge xs) : P y ↔ ∃ x ∈ xs, key x = key y ∧ P x := by
  have hgroup : P y ↔ ∃ x ∈ xs.filter fun x => key x = key y, P x := by
    apply values_induct key merge hkey (P := fun group kept => P kept ↔ ∃ x ∈ group, P x)
      (fun x => by simp) ?_ hy
    intro group kept x hx ih
    rw [hP kept x hx.symm, ih]
    simp [or_and_right, exists_or]
  rw [hgroup]
  simp [and_assoc]

theorem keys_values (xs : List α) : (values key merge xs).map key = (xs.map key).eraseDups := by
  have hseen : ∀ order : List κ, (∀ k ∈ order, ∃ x ∈ xs, key x = k) →
      (order.filterMap fun k => merged key merge k xs).map key = order := by
    intro order
    induction order with
    | nil => intro _; rfl
    | cons k order ih =>
      intro hall
      cases hm : merged key merge k xs with
      | none => exact absurd (hall k List.mem_cons_self) ((merged_eq_none key merge).mp hm)
      | some y =>
        rw [List.filterMap_cons, hm, List.map_cons, key_of_merged key merge hkey hm,
          ih fun k hk => hall k (List.mem_cons_of_mem _ hk)]
  rw [values_eq]
  apply hseen
  intro k hk
  simpa using List.mem_eraseDups.mp hk

theorem filter_values (k : κ) (xs : List α) :
    (values key merge xs).filter (fun x => key x = k) = (merged key merge k xs).toList := by
  have hnodup : (values key merge xs).Nodup := by
    apply List.Nodup.of_map key
    rw [keys_values key merge hkey]
    exact nodup_eraseDups _
  have hmem : ∀ y, y ∈ (values key merge xs).filter (fun x => key x = k) ↔
      y ∈ (merged key merge k xs).toList := by
    intro y
    rw [List.mem_filter, mem_values key merge hkey, Option.mem_toList, decide_eq_true_eq]
    constructor
    · rintro ⟨hy, rfl⟩
      exact hy
    · intro hy
      obtain rfl := key_of_merged key merge hkey hy
      exact ⟨hy, rfl⟩
  have hone : (merged key merge k xs).toList.Nodup := by
    cases merged key merge k xs <;> simp
  have hperm := (List.perm_ext_iff_of_nodup (hnodup.filter _) hone).mpr hmem
  cases hm : merged key merge k xs with
  | none =>
    rw [hm] at hperm
    exact hperm.eq_nil
  | some y =>
    rw [hm] at hperm
    exact List.perm_singleton.mp hperm

theorem merged_values (k : κ) (xs : List α) :
    merged key merge k (values key merge xs) = merged key merge k xs := by
  rw [merged, filter_values key merge hkey]
  cases merged key merge k xs <;> rfl

/-- A pass over what an earlier pass kept, and then over more records, is one pass over all. -/
theorem values_values_append (xs ys : List α) :
    values key merge (values key merge xs ++ ys) = values key merge (xs ++ ys) := by
  rw [values_eq, values_eq _ _ (xs ++ ys), List.map_append, List.map_append,
    keys_values key merge hkey, eraseDups_append_eraseDups]
  congr 1
  funext k
  rw [merged_append, merged_append, merged_values key merge hkey]

end KeyPreserving

end KeyedMerge
