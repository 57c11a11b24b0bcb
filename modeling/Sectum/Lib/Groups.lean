import Mathlib.Algebra.Group.Action.Defs
import Mathlib.Algebra.BigOperators.Group.Finset.Basic
import Mathlib.Algebra.Order.BigOperators.Group.Finset
import Mathlib.Data.Finset.Dedup
import Sectum.Lib.Dict

/-! A list grouped by a key: how many groups it has, how many of them hold an item of some kind, and
the dictionary that a fold over the list makes of that. -/

namespace Py

variable {α κ : Type} [DecidableEq κ]

/-- How many keys the items have. -/
def groupCount (key : α → κ) (items : List α) : Nat := (items.map key).toFinset.card

section Counts

variable {key : α → κ} {items : List α}

theorem groupCount_perm {others : List α} (h : items.Perm others) :
    groupCount key items = groupCount key others :=
  congrArg Finset.card (List.toFinset_eq_of_perm _ _ (h.map key))

theorem groupCount_le_length : groupCount key items ≤ items.length := by
  have h := (items.map key).toFinset_card_le
  rw [List.length_map] at h
  exact h

theorem groupCount_pos : 0 < groupCount key items ↔ items ≠ [] := by
  rw [groupCount, Finset.card_pos, List.toFinset_nonempty_iff, Ne, List.map_eq_nil_iff]

/-- Both counts of the items: group by group, and all of them. -/
theorem sum_groups (key : α → κ) (items : List α) :
    ∑ k ∈ (items.map key).toFinset, (items.countP fun a => key a = k) = items.length := by
  have hcount (k : κ) : (items.countP fun a => key a = k) = (items.map key).count k := by
    rw [List.count, List.countP_map]
    rfl
  simp only [hcount]
  rw [List.sum_toFinset_count_eq_length, List.length_map]

/-- Groups of at most `size` items each hold at most that many times as many items. -/
theorem length_le_groups {size : Nat}
    (h : ∀ item ∈ items, (items.countP fun a => key a = key item) ≤ size) :
    items.length ≤ size * groupCount key items := by
  rw [← sum_groups key items, Nat.mul_comm, groupCount, ← smul_eq_mul]
  apply Finset.sum_le_card_nsmul
  intro k hk
  obtain ⟨item, hitem, rfl⟩ := List.mem_map.mp (List.mem_toFinset.mp hk)
  exact h item hitem

theorem length_eq_groups {size : Nat}
    (h : ∀ item ∈ items, (items.countP fun a => key a = key item) = size) :
    items.length = size * groupCount key items := by
  rw [← sum_groups key items, Nat.mul_comm, groupCount, ← smul_eq_mul]
  apply Finset.sum_eq_card_nsmul
  intro k hk
  obtain ⟨item, hitem, rfl⟩ := List.mem_map.mp (List.mem_toFinset.mp hk)
  exact h item hitem

end Counts

section Flags

variable {d : Dict κ Bool}

omit [DecidableEq κ] in
theorem Dict.nodup_keys_items (d : Dict κ Bool) : (d.items.map Prod.fst).Nodup := by
  rw [← Dict.keys_eq_items]
  exact d.nodupKeys

/-- The entries of a dictionary are as many as the keys that it has. -/
theorem Dict.length_items {key : α → κ} {items : List α}
    (h : ∀ k, k ∈ d ↔ ∃ a ∈ items, key a = k) : d.items.length = groupCount key items := by
  rw [← List.length_map Prod.fst, ← List.toFinset_card_of_nodup d.nodup_keys_items, groupCount]
  congr 1
  ext k
  rw [List.mem_toFinset, List.mem_toFinset, ← Dict.keys_eq_items, ← AList.mem_keys, h, List.mem_map]

/-- The entries that are set are as many as the keys of the items that set one. -/
theorem Dict.countP_items {key : α → κ} {items : List α} {p : α → Bool}
    (h : ∀ k, d.lookup k = some true ↔ ∃ a ∈ items, p a = true ∧ key a = k) :
    (d.items.map Prod.snd).countP id = groupCount key (items.filter p) := by
  have hnodup : ((d.items.filter Prod.snd).map Prod.fst).Nodup :=
    d.nodup_keys_items.sublist (List.filter_sublist.map _)
  have hcount : (d.items.map Prod.snd).countP id = ((d.items.filter Prod.snd).map Prod.fst).length := by
    rw [List.countP_map, List.length_map, List.countP_eq_length_filter]
    rfl
  rw [hcount, ← List.toFinset_card_of_nodup hnodup, groupCount]
  congr 1
  ext k
  simp only [List.mem_toFinset, List.mem_map, List.mem_filter, and_assoc]
  rw [← h, ← Dict.mem_items]
  simp

end Flags

end Py
