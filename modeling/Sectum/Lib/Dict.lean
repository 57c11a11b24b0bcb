import Mathlib.Data.List.AList
import Mathlib.Data.List.Dedup
import Mathlib.Data.List.MinMax
import Mathlib.Data.List.Sort

/-! Python dictionaries as association lists with distinct keys, in insertion order, and the sorted
list of a set. -/

namespace Py

/-- A `dict` with keys in `κ` and values in `ν`. -/
abbrev Dict (κ ν : Type*) := AList fun _ : κ => ν

namespace Dict

variable {κ ν : Type*}

/-- `d.items()`. -/
def items (d : Dict κ ν) : List (κ × ν) := d.entries.map fun entry => (entry.1, entry.2)

theorem keys_eq_items (d : Dict κ ν) : d.keys = d.items.map Prod.fst := by
  unfold items AList.keys List.keys
  rw [List.map_map]
  rfl

variable [DecidableEq κ]

/-- `d[key] = value`: a key that is there keeps its place. -/
def set (d : Dict κ ν) (key : κ) (value : ν) : Dict κ ν :=
  if h : key ∈ d then d.replace key value
  else
    ⟨d.entries ++ [⟨key, value⟩], by
      have hfresh : key ∉ d.entries.map Sigma.fst := h
      have hnodup : (d.entries.map Sigma.fst).Nodup := d.nodupKeys
      unfold List.NodupKeys List.keys
      rw [List.map_append]
      exact hnodup.append (List.nodup_singleton key) (by simpa using hfresh)⟩

/-- A dictionary display: a later entry for a key replaces the value of an earlier one. -/
def ofItems (entries : List (κ × ν)) : Dict κ ν :=
  entries.foldl (fun d entry => d.set entry.1 entry.2) ∅

/-- `d.setdefault(key, value)`: a key that is there keeps its value. -/
def setdefault (d : Dict κ ν) (key : κ) (value : ν) : Dict κ ν :=
  if key ∈ d then d else d.set key value

def firstBy (key : ν → κ) (values : List ν) : Dict κ ν :=
  values.foldl (fun d value => d.setdefault (key value) value) ∅

/-- `d.get(key, default)`. -/
def getD (d : Dict κ ν) (key : κ) (default : ν) : ν := (d.lookup key).getD default

theorem mem_items {d : Dict κ ν} {key : κ} {value : ν} :
    (key, value) ∈ d.items ↔ d.lookup key = some value := by
  rw [← Option.mem_def, AList.mem_lookup_iff]
  constructor
  · intro h
    obtain ⟨⟨k, v⟩, hmem, heq⟩ := List.mem_map.mp h
    cases heq
    exact hmem
  · exact fun h => List.mem_map.mpr ⟨⟨key, value⟩, h, rfl⟩

theorem mem_iff_lookup {d : Dict κ ν} {key : κ} : key ∈ d ↔ ∃ value, d.lookup key = some value := by
  rw [← AList.lookup_isSome, Option.isSome_iff_exists]

theorem lookup_erase_eq (d : Dict κ ν) (key key' : κ) :
    (d.erase key).lookup key' = if key' = key then none else d.lookup key' := by
  by_cases h : key' = key
  · subst h
    simp
  · rw [AList.lookup_erase_ne h, if_neg h]

theorem dlookup_ne (l : List (Sigma fun _ : κ => ν)) {key key' : κ} (value : ν) (h : key' ≠ key) :
    List.dlookup key' (⟨key, value⟩ :: l) = l.dlookup key' :=
  List.dlookup_cons_ne l (⟨key, value⟩ : Sigma fun _ : κ => ν) h

theorem dlookup_kreplace {l : List (Sigma fun _ : κ => ν)} {key : κ} (value : ν)
    (h : key ∈ l.keys) (key' : κ) :
    (l.kreplace key value).dlookup key' = if key' = key then some value else l.dlookup key' := by
  induction l with
  | nil => simp at h
  | cons entry l ih =>
    obtain ⟨k, v⟩ := entry
    unfold List.kreplace at ih ⊢
    by_cases hk : key = k
    · subst hk
      rw [List.lookmap_cons_some _ _ (by simp; rfl)]
      by_cases hkey : key' = key
      · subst hkey
        simp
      · rw [if_neg hkey, dlookup_ne l value hkey, dlookup_ne l v hkey]
    · rw [List.lookmap_cons_none _ _ (by simp [hk])]
      have hrest : key ∈ List.keys l := by simpa [hk] using h
      by_cases hkey : key' = k
      · subst hkey
        simp [Ne.symm hk]
      · rw [dlookup_ne _ v hkey, dlookup_ne _ v hkey, ih hrest]

theorem lookup_set (d : Dict κ ν) (key key' : κ) (value : ν) :
    (d.set key value).lookup key' = if key' = key then some value else d.lookup key' := by
  unfold set
  split
  · exact dlookup_kreplace value ‹_› key'
  · rename_i hfresh
    unfold AList.lookup
    rw [List.dlookup_append]
    by_cases hkey : key' = key
    · subst hkey
      have hnone : d.entries.dlookup key' = none := AList.lookup_eq_none.mpr hfresh
      simp [hnone]
    · rw [if_neg hkey, dlookup_ne [] value hkey]
      simp

@[simp] theorem lookup_set_self (d : Dict κ ν) (key : κ) (value : ν) :
    (d.set key value).lookup key = some value := by
  rw [lookup_set, if_pos rfl]

theorem lookup_set_ne (d : Dict κ ν) {key key' : κ} (value : ν) (h : key' ≠ key) :
    (d.set key value).lookup key' = d.lookup key' := by
  rw [lookup_set, if_neg h]

theorem mem_set {d : Dict κ ν} {key key' : κ} {value : ν} :
    key' ∈ d.set key value ↔ key' = key ∨ key' ∈ d := by
  rw [mem_iff_lookup, lookup_set, mem_iff_lookup]
  by_cases h : key' = key <;> simp [h]

theorem items_set_of_notMem {d : Dict κ ν} {key : κ} (h : key ∉ d) (value : ν) :
    (d.set key value).items = d.items ++ [(key, value)] := by
  rw [set, dif_neg h]
  simp [items]

theorem mem_of_lookup_ofItems {entries : List (κ × ν)} {key : κ} {value : ν}
    (h : (ofItems entries).lookup key = some value) : (key, value) ∈ entries := by
  have hrun : ∀ (entries : List (κ × ν)) (d : Dict κ ν),
      (entries.foldl (fun d entry => d.set entry.1 entry.2) d).lookup key = some value →
        d.lookup key = some value ∨ (key, value) ∈ entries := by
    intro entries
    induction entries with
    | nil => exact fun d h => Or.inl h
    | cons entry entries ih =>
      intro d h
      rcases ih _ h with hset | hmem
      · rw [lookup_set] at hset
        split at hset
        · rename_i heq
          rw [heq, ← Option.some.inj hset]
          exact Or.inr List.mem_cons_self
        · exact Or.inl hset
      · exact Or.inr (List.mem_cons_of_mem _ hmem)
  rcases hrun entries ∅ h with hempty | hmem
  · cases hempty
  · exact hmem

theorem mem_ofItems {entries : List (κ × ν)} {key : κ} (h : key ∈ ofItems entries) :
    ∃ value, (key, value) ∈ entries := by
  obtain ⟨value, hvalue⟩ := mem_iff_lookup.mp h
  exact ⟨value, mem_of_lookup_ofItems hvalue⟩

theorem mem_ofItems_of_mem {entries : List (κ × ν)} {entry : κ × ν} (h : entry ∈ entries) :
    entry.1 ∈ ofItems entries := by
  have hrun : ∀ (entries : List (κ × ν)) (d : Dict κ ν), entry.1 ∈ d ∨ entry ∈ entries →
      entry.1 ∈ entries.foldl (fun d entry => d.set entry.1 entry.2) d := by
    intro entries
    induction entries with
    | nil => exact fun d h => h.resolve_right List.not_mem_nil
    | cons first entries ih =>
      intro d h
      refine ih _ ?_
      rcases h with h | h
      · exact .inl (mem_set.mpr (.inr h))
      · rcases List.mem_cons.mp h with rfl | h
        · exact .inl (mem_set.mpr (.inl rfl))
        · exact .inr h
  exact hrun entries ∅ (.inr h)

theorem items_ofItems {entries : List (κ × ν)} (h : (entries.map Prod.fst).Nodup) :
    (ofItems entries).items = entries := by
  have hrun : ∀ (entries : List (κ × ν)) (d : Dict κ ν), (entries.map Prod.fst).Nodup →
      (∀ entry ∈ entries, entry.1 ∉ d) →
        (entries.foldl (fun d entry => d.set entry.1 entry.2) d).items = d.items ++ entries := by
    intro entries
    induction entries with
    | nil => simp
    | cons entry entries ih =>
      intro d hnodup hfresh
      rw [List.map_cons, List.nodup_cons] at hnodup
      rw [List.foldl_cons, ih _ hnodup.2 ?_, items_set_of_notMem (hfresh entry List.mem_cons_self)]
      · simp
      · intro later hlater hmem
        rcases mem_set.mp hmem with heq | hmem
        · exact hnodup.1 (heq ▸ List.mem_map_of_mem hlater)
        · exact hfresh later (List.mem_cons_of_mem _ hlater) hmem
  have hempty : (∅ : Dict κ ν).items = [] := rfl
  rw [ofItems, hrun entries ∅ h (by simp), hempty, List.nil_append]

theorem lookup_ofItems {entries : List (κ × ν)} (h : (entries.map Prod.fst).Nodup) {key : κ}
    {value : ν} : (ofItems entries).lookup key = some value ↔ (key, value) ∈ entries := by
  rw [← mem_items, items_ofItems h]

/-- A display that gives each of a list of distinct keys a value of its own. -/
theorem lookup_ofItems_map {keys : List κ} (h : keys.Nodup) (f : κ → ν) (key : κ) :
    (ofItems (keys.map fun key => (key, f key))).lookup key =
      if key ∈ keys then some (f key) else none := by
  have hkeys : ((keys.map fun key => (key, f key)).map Prod.fst).Nodup := by
    simpa [Function.comp_def] using h
  split
  · rename_i hmem
    rw [lookup_ofItems hkeys]
    exact List.mem_map.mpr ⟨key, hmem, rfl⟩
  · rename_i hmem
    rw [Option.eq_none_iff_forall_ne_some]
    intro value hvalue
    obtain ⟨key', hkey', heq⟩ := List.mem_map.mp ((lookup_ofItems hkeys).mp hvalue)
    obtain ⟨rfl, -⟩ := Prod.mk.inj heq
    exact hmem hkey'

theorem lookup_setdefault (d : Dict κ ν) (key key' : κ) (value : ν) :
    (d.setdefault key value).lookup key' =
      (d.lookup key').or (if key' = key then some value else none) := by
  unfold setdefault
  split
  · rename_i hmem
    by_cases h : key' = key
    · subst h
      obtain ⟨old, hold⟩ := mem_iff_lookup.mp hmem
      rw [hold, Option.some_or]
    · rw [if_neg h, Option.or_none]
  · rename_i hfresh
    rw [lookup_set]
    by_cases h : key' = key
    · subst h
      rw [if_pos rfl, if_pos rfl, AList.lookup_eq_none.mpr hfresh, Option.none_or]
    · rw [if_neg h, if_neg h, Option.or_none]

theorem lookup_firstBy (key : ν → κ) (values : List ν) (key' : κ) :
    (firstBy key values).lookup key' = values.find? fun value => key' = key value := by
  have hrun : ∀ (values : List ν) (d : Dict κ ν),
      (values.foldl (fun d value => d.setdefault (key value) value) d).lookup key' =
        (d.lookup key').or (values.find? fun value => key' = key value) := by
    intro values
    induction values with
    | nil => simp
    | cons value values ih =>
      intro d
      rw [List.foldl_cons, ih, lookup_setdefault, Option.or_assoc, List.find?_cons]
      by_cases h : key' = key value <;> simp [h]
  rw [firstBy, hrun]
  rfl

/-- Where keys do not repeat, every value is the first of its key. -/
theorem lookup_firstBy_of_nodup {key : ν → κ} {values : List ν} (hnodup : (values.map key).Nodup)
    {value : ν} (hvalue : value ∈ values) :
    (firstBy key values).lookup (key value) = some value := by
  rw [lookup_firstBy]
  cases hfind : values.find? fun other => key value = key other with
  | none => exact absurd (List.find?_eq_none.mp hfind value hvalue) (by simp)
  | some first =>
    have hkey : key value = key first := by simpa using List.find?_some hfind
    rw [List.inj_on_of_nodup_map hnodup (List.mem_of_find?_eq_some hfind) hvalue hkey.symm]

end Dict

section Sets

variable {α : Type*} [LinearOrder α]

/-- `sorted(set(values))`. -/
def sortedSet (values : List α) : List α := values.dedup.insertionSort (· ≤ ·)

theorem mem_sortedSet {values : List α} {a : α} : a ∈ sortedSet values ↔ a ∈ values := by
  unfold sortedSet
  rw [List.mem_insertionSort, List.mem_dedup]

theorem sortedSet_eq_nil {values : List α} : sortedSet values = [] ↔ ∀ a, a ∉ values := by
  rw [List.eq_nil_iff_forall_not_mem]
  exact forall_congr' fun a => not_congr mem_sortedSet

theorem sortedSet_filter_eq_nil {values : List α} {p : α → Bool} :
    sortedSet (values.filter p) = [] ↔ ∀ a ∈ values, p a = false := by
  rw [sortedSet_eq_nil]
  simp

theorem pairwise_sortedSet (values : List α) : (sortedSet values).Pairwise (· < ·) := by
  have hnodup : (sortedSet values).Nodup :=
    (List.perm_insertionSort (· ≤ ·) values.dedup).nodup_iff.mpr (List.nodup_dedup values)
  have hsorted : (sortedSet values).Pairwise (· ≤ ·) := List.pairwise_insertionSort (· ≤ ·) _
  exact (hsorted.and hnodup).imp fun h => lt_of_le_of_ne h.1 h.2

/-- The adjacent values of a list in order: nothing is between them. -/
theorem mem_zip_tail {values : List α} (h : values.Pairwise (· < ·)) {lower upper : α} :
    (lower, upper) ∈ values.zip values.tail ↔ lower ∈ values ∧ upper ∈ values ∧ lower < upper ∧
      ∀ value ∈ values, value ≤ lower ∨ upper ≤ value := by
  induction values with
  | nil => simp
  | cons first values ih =>
    obtain ⟨hfirst, hvalues⟩ := List.pairwise_cons.mp h
    cases values with
    | nil =>
      refine iff_of_false (by simp) ?_
      rintro ⟨hlower, hupper, hlt, -⟩
      rw [List.mem_singleton.mp hlower, List.mem_singleton.mp hupper] at hlt
      exact lt_irrefl _ hlt
    | cons second values =>
      rw [List.tail_cons, List.zip_cons_cons, List.mem_cons, Prod.mk.injEq]
      have hih := ih hvalues
      rw [List.tail_cons] at hih
      rw [hih]
      have hsecond := hfirst second List.mem_cons_self
      have hleast : ∀ value ∈ second :: values, second ≤ value := by
        intro value hvalue
        rcases List.mem_cons.mp hvalue with rfl | hvalue
        · exact le_rfl
        · exact ((List.pairwise_cons.mp hvalues).1 value hvalue).le
      constructor
      · rintro (⟨rfl, rfl⟩ | ⟨hlower, hupper, hlt, hbetween⟩)
        · refine ⟨List.mem_cons_self, List.mem_cons_of_mem _ List.mem_cons_self, hsecond, ?_⟩
          intro value hvalue
          rcases List.mem_cons.mp hvalue with rfl | hvalue
          · exact .inl le_rfl
          · exact .inr (hleast value hvalue)
        · refine ⟨List.mem_cons_of_mem _ hlower, List.mem_cons_of_mem _ hupper, hlt, ?_⟩
          intro value hvalue
          rcases List.mem_cons.mp hvalue with rfl | hvalue
          · exact .inl (hfirst lower hlower).le
          · exact hbetween value hvalue
      · rintro ⟨hlower, hupper, hlt, hbetween⟩
        replace hupper : upper ∈ second :: values := by
          rcases List.mem_cons.mp hupper with rfl | hupper
          · rcases List.mem_cons.mp hlower with rfl | hlower
            · exact absurd hlt (lt_irrefl _)
            · exact absurd hlt (hfirst lower hlower).asymm
          · exact hupper
        rcases List.mem_cons.mp hlower with rfl | hlower
        · rcases hbetween second (by simp) with hle | hle
          · exact absurd hle (not_le.mpr hsecond)
          · exact .inl ⟨rfl, le_antisymm hle (hleast upper hupper)⟩
        · exact .inr ⟨hlower, hupper, hlt, fun value hvalue =>
            hbetween value (List.mem_cons_of_mem _ hvalue)⟩

/-- After a value that is not the last, the next one. -/
theorem exists_next {values : List α} (h : values.Pairwise (· < ·)) {lower above : α}
    (hlower : lower ∈ values) (habove : above ∈ values) (hlt : lower < above) :
    ∃ upper, (lower, upper) ∈ values.zip values.tail ∧ upper ≤ above := by
  have hne : (values.filter (lower < ·)).argmin id ≠ none := by
    rw [Ne, List.argmin_eq_none, List.filter_eq_nil_iff]
    intro hnone
    exact hnone above habove (decide_eq_true hlt)
  obtain ⟨upper, hupper⟩ := Option.ne_none_iff_exists'.mp hne
  have hleast : ∀ value ∈ values, lower < value → upper ≤ value := fun value hvalue hgreater =>
    List.le_of_mem_argmin (List.mem_filter.mpr ⟨hvalue, decide_eq_true hgreater⟩) hupper
  obtain ⟨hmem, hgreater⟩ := List.mem_filter.mp (List.argmin_mem hupper)
  refine ⟨upper, (mem_zip_tail h).mpr ⟨hlower, hmem, of_decide_eq_true hgreater, ?_⟩,
    hleast above habove hlt⟩
  intro value hvalue
  rcases le_or_gt value lower with hle | hgreater
  · exact .inl hle
  · exact .inr (hleast value hvalue hgreater)

end Sets

end Py
