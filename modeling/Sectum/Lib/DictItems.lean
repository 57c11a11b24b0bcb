import Sectum.Lib.Dict

/-! The items of a dictionary after an update, and what an update does to the items of some of the
keys. -/

namespace Py

variable {κ ν : Type*} [DecidableEq κ]

/-- What `d[key] = value` does to the items. -/
def putItem (key : κ) (value : ν) (items : List (κ × ν)) : List (κ × ν) :=
  if key ∈ items.map Prod.fst then
    items.map fun item => if item.1 = key then (key, value) else item
  else items ++ [(key, value)]

namespace Dict

omit [DecidableEq κ] in
theorem mem_iff_mem_items {d : Dict κ ν} {key : κ} : key ∈ d ↔ key ∈ d.items.map Prod.fst := by
  rw [← keys_eq_items, AList.mem_keys]

theorem kreplace_items {l : List (Sigma fun _ : κ => ν)} {key : κ} (value : ν) (h : l.NodupKeys) :
    ((l.kreplace key value).map fun entry => (entry.1, entry.2)) =
      (l.map fun entry => (entry.1, entry.2)).map fun item =>
        if item.1 = key then (key, value) else item := by
  induction l with
  | nil => rfl
  | cons entry l ih =>
    obtain ⟨k, v⟩ := entry
    have hfresh : k ∉ l.keys := (List.nodupKeys_cons.mp h).1
    unfold List.kreplace at ih ⊢
    by_cases hk : key = k
    · subst hk
      rw [List.lookmap_cons_some _ _ (by simp; rfl)]
      simp only [List.map_cons, List.map_map, if_true]
      refine congrArg _ (List.map_congr_left fun item hitem => ?_)
      have hne : item.1 ≠ key := by
        rintro rfl
        exact hfresh (List.mem_map_of_mem hitem)
      simp [hne]
    · rw [List.lookmap_cons_none _ _ (by simp [hk])]
      simp only [List.map_cons, if_neg (Ne.symm hk)]
      exact congrArg _ (ih (List.nodupKeys_cons.mp h).2)

theorem items_set (d : Dict κ ν) (key : κ) (value : ν) :
    (d.set key value).items = putItem key value d.items := by
  unfold putItem
  by_cases h : key ∈ d
  · rw [if_pos (mem_iff_mem_items.mp h), set, dif_pos h]
    exact kreplace_items value d.nodupKeys
  · rw [if_neg (mt mem_iff_mem_items.mpr h), items_set_of_notMem h]

theorem items_erase (d : Dict κ ν) (key : κ) :
    items (d.erase key) = d.items.filter fun item => item.1 ≠ key := by
  obtain ⟨entries, hnodup⟩ := d
  change ((entries.kerase key).map fun entry => (entry.1, entry.2)) =
    (entries.map fun entry => (entry.1, entry.2)).filter fun item => item.1 ≠ key
  induction entries with
  | nil => rfl
  | cons entry entries ih =>
    obtain ⟨hfresh, hrest⟩ := List.nodupKeys_cons.mp hnodup
    by_cases hk : key = entry.1
    · subst hk
      rw [List.kerase_cons_eq rfl, List.map_cons, List.filter_cons_of_neg (by simp)]
      rw [List.filter_eq_self.mpr]
      intro item hitem
      obtain ⟨other, hother, rfl⟩ := List.mem_map.mp hitem
      have hne : other.1 ≠ entry.1 := by
        intro heq
        exact hfresh (heq ▸ List.mem_map_of_mem hother)
      simpa using hne
    · rw [List.kerase_cons_ne hk, List.map_cons, ih hrest, List.map_cons,
        List.filter_cons_of_pos (by simpa using Ne.symm hk)]

end Dict

section Filter

variable {p : κ → Bool} {key : κ} {value : ν} {items : List (κ × ν)}

theorem filter_putItem (h : p key = true) :
    (putItem key value items).filter (fun item => p item.1) =
      putItem key value (items.filter fun item => p item.1) := by
  have hmem : key ∈ (items.filter fun item => p item.1).map Prod.fst ↔
      key ∈ items.map Prod.fst := by
    simp only [List.mem_map, List.mem_filter]
    constructor
    · rintro ⟨item, ⟨hitem, -⟩, rfl⟩
      exact ⟨item, hitem, rfl⟩
    · rintro ⟨item, hitem, rfl⟩
      exact ⟨item, ⟨hitem, h⟩, rfl⟩
  unfold putItem
  rw [if_congr hmem rfl rfl]
  split
  · rw [List.filter_map]
    refine congrArg _ (List.filter_congr fun item _ => ?_)
    by_cases hk : item.1 = key
    · simp [hk]
    · simp [hk]
  · rw [List.filter_append, List.filter_cons_of_pos (by simpa using h), List.filter_nil]

theorem filter_putItem_of_not (h : p key = false) :
    (putItem key value items).filter (fun item => p item.1) =
      items.filter fun item => p item.1 := by
  unfold putItem
  split
  · rw [List.filter_map]
    have hkept : (items.filter ((fun item => p item.1) ∘
        fun item => if item.1 = key then (key, value) else item)) =
        items.filter fun item => p item.1 := by
      refine List.filter_congr fun item _ => ?_
      by_cases hk : item.1 = key <;> simp [hk]
    rw [hkept]
    refine (List.map_congr_left fun item hitem => ?_).trans (List.map_id _)
    have hne : item.1 ≠ key := by
      intro hk
      rw [List.mem_filter, hk, h] at hitem
      exact Bool.false_ne_true hitem.2
    rw [if_neg hne, id]
  · rw [List.filter_append, List.filter_cons_of_neg (by simp [h]), List.filter_nil,
      List.append_nil]

end Filter

end Py
