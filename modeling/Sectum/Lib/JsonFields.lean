import Sectum.Lib.JsonAscii
import Sectum.Lib.JsonValue

/-! The fields of a document that is written and read back: each of them is as it was, but for the
order of its keys, and can be written alone. -/

namespace Py

open JsonText

theorem units_textOf {s : Units} (h : IsAscii s) : units (textOf s) = s := by
  have hcodes : ∀ {s : Units}, IsAscii s → codePoints s = s.map UInt16.toNat := by
    intro s h
    induction s with
    | nil => rfl
    | cons u s ih =>
      have hu := h u List.mem_cons_self
      have hs := ih fun v hv => h v (List.mem_cons_of_mem u hv)
      have hhigh : isHigh u = false := by
        simp only [isHigh, Bool.and_eq_false_iff, decide_eq_false_iff_not]
        omega
      cases s with
      | nil => rfl
      | cons v s => rw [codePoints, hhigh, hs]; rfl
  have hunit : ∀ u ∈ s, charUnits (Char.ofNat u.toNat) = [u] := by
    intro u hu
    have hall : ∀ n : Fin 0x80, charUnits (Char.ofNat n) = [n.val.toUInt16] := by decide +kernel
    rw [hall ⟨u.toNat, (h u hu).2⟩]
    simp
  rw [textOf, hcodes h, units, String.toList_ofList, List.map_map, List.flatMap_map]
  show s.flatMap (fun u => charUnits (Char.ofNat u.toNat)) = s
  rw [List.flatMap_congr hunit, List.flatMap_singleton']

section Keys

variable {α : Type}

theorem find?_key {entries : List (Units × α)} (hkeys : (entries.map Prod.fst).Nodup) {key : Units}
    {entry : Units × α} :
    entries.find? (fun other => other.1 = key) = some entry ↔ entry ∈ entries ∧ entry.1 = key := by
  constructor
  · intro h
    exact ⟨List.mem_of_find?_eq_some h, by simpa using List.find?_some h⟩
  · rintro ⟨hmem, rfl⟩
    induction entries with
    | nil => cases hmem
    | cons first rest ih =>
      rw [List.map_cons, List.nodup_cons] at hkeys
      rcases List.mem_cons.mp hmem with rfl | hrest
      · simp
      · have hne : first.1 ≠ entry.1 := by
          intro heq
          exact hkeys.1 (heq ▸ List.mem_map_of_mem hrest)
        rw [List.find?_cons_of_neg (by simpa using hne)]
        exact ih hkeys.2 hrest

theorem find?_key_perm {entries entries' : List (Units × α)} (h : entries.Perm entries')
    (hkeys : (entries.map Prod.fst).Nodup) (key : Units) :
    entries.find? (fun entry => entry.1 = key) = entries'.find? (fun entry => entry.1 = key) := by
  apply Option.ext
  intro entry
  rw [find?_key hkeys, find?_key ((h.map Prod.fst).nodup_iff.mp hkeys), h.mem_iff]

end Keys

namespace Json

theorem get_eq_some {value field : Json} {key : String} (h : value.get key = some field) :
    ∃ entries, value = .obj entries ∧ (units key, field) ∈ entries := by
  cases value with
  | obj entries =>
    obtain ⟨entry, hfind, rfl⟩ := Option.map_eq_some_iff.mp h
    have hkey : entry.1 = units key := by simpa using List.find?_some hfind
    exact ⟨entries, rfl, hkey ▸ List.mem_of_find?_eq_some hfind⟩
  | _ => cases h

variable [FloatText]

theorem WellFormed.object {entries : List (String × Json)} (hkeys : (entries.map Prod.fst).Nodup)
    (h : ∀ entry ∈ entries, entry.2.WellFormed) : (object entries).WellFormed := by
  refine .obj _ ?_ ?_
  · rw [List.map_map]
    show (entries.map (units ∘ Prod.fst)).Nodup
    rw [← List.map_map]
    exact hkeys.map units_injective
  · intro entry hentry
    obtain ⟨entry, hmem, rfl⟩ := List.mem_map.mp hentry
    exact h entry hmem

theorem WellFormed.get {value field : Json} {key : String} (hw : value.WellFormed)
    (h : value.get key = some field) : field.WellFormed := by
  obtain ⟨entries, rfl, hmem⟩ := get_eq_some h
  cases hw with
  | obj _ _ hentries => exact hentries _ hmem

/-- The order of the keys is no matter to a lookup. -/
theorem WellFormed.get_sorted {value : Json} (hw : value.WellFormed) (key : String) :
    value.sorted.get key = (value.get key).map Json.sorted := by
  cases hw with
  | obj entries hkeys =>
    have hperm := List.perm_insertionSort keyLE (entries.map sortedEntry)
    have hsorted : ((entries.map sortedEntry).map Prod.fst).Nodup := by
      rw [List.map_map]
      exact hkeys
    rw [Json.sorted, sortedEntries_eq, Json.get, Json.get,
      find?_key_perm hperm ((hperm.map Prod.fst).nodup_iff.mpr hsorted), List.find?_map,
      Option.map_map, Option.map_map]
    rfl
  | _ => rfl

end Json

namespace JsonText

variable [JsonLimits] {style : Style}

/-- Whether a document can be written does not depend on the order of its keys. -/
theorem refusal_sorted {value : Json} : ∀ {depth : Nat},
    refusal style depth value.sorted = none ↔ refusal style depth value = none := by
  induction value using Json.induction with
  | arr items ih =>
    intro depth
    rw [Json.sorted, Json.sortedItems_eq]
    cases depth with
    | zero => simp [refusal]
    | succ room =>
      simp only [refusal, Nat.succ_ne_zero, if_false, Nat.succ_sub_one, refusalItems_eq_none,
        List.forall_mem_map]
      exact forall₂_congr fun item hitem => ih item hitem
  | obj entries ih =>
    intro depth
    rw [Json.sorted, Json.sortedEntries_eq]
    cases depth with
    | zero => simp [refusal]
    | succ room =>
      simp only [refusal, Nat.succ_ne_zero, if_false, Nat.succ_sub_one, refusalEntries_eq_none,
        List.mem_insertionSort, List.forall_mem_map]
      exact forall₂_congr fun entry hentry => ih entry hentry
  | _ => rfl

theorem dumps_ok_iff [FloatText] {value : Json} :
    (∃ text, dumps style value = .ok text) ↔ refusal style JsonLimits.depth value = none := by
  rw [← refusal_sorted]
  constructor
  · rintro ⟨text, h⟩
    exact (dumps_eq_ok.mp h).1
  · intro h
    exact ⟨_, dumps_eq_ok.mpr ⟨h, rfl⟩⟩

theorem dumps_sorted [FloatText] (value : Json) : dumps style value.sorted = dumps style value := by
  unfold dumps
  rw [Json.sorted_sorted]

theorem refusal_mono {value : Json} : ∀ {depth depth' : Nat}, depth ≤ depth' →
    refusal style depth value = none → refusal style depth' value = none := by
  induction value using Json.induction with
  | arr items ih =>
    intro depth depth' hle h
    obtain ⟨room, rfl, hitems⟩ := refusal_arr style h
    obtain ⟨room', rfl⟩ : ∃ room', depth' = room' + 1 := ⟨depth' - 1, by omega⟩
    exact (refusalItems_eq_none style).mpr fun item hitem =>
      ih item hitem (by omega) (hitems item hitem)
  | obj entries ih =>
    intro depth depth' hle h
    obtain ⟨room, rfl, hentries⟩ := refusal_obj style h
    obtain ⟨room', rfl⟩ : ∃ room', depth' = room' + 1 := ⟨depth' - 1, by omega⟩
    exact (refusalEntries_eq_none style).mpr fun entry hentry =>
      ih entry hentry (by omega) (hentries entry hentry)
  | int n => exact fun _ h => h
  | float f => cases f <;> exact fun _ h => h
  | _ => exact fun _ _ => rfl

/-- What can be written in one style can be written in another that has all floats. -/
theorem refusal_style {style' : Style} (hnan : style'.allowNan = true) {value : Json} :
    ∀ {depth : Nat}, refusal style depth value = none → refusal style' depth value = none := by
  induction value using Json.induction with
  | arr items ih =>
    intro depth h
    obtain ⟨room, rfl, hitems⟩ := refusal_arr style h
    exact (refusalItems_eq_none style').mpr fun item hitem => ih item hitem (hitems item hitem)
  | obj entries ih =>
    intro depth h
    obtain ⟨room, rfl, hentries⟩ := refusal_obj style h
    exact (refusalEntries_eq_none style').mpr fun entry hentry =>
      ih entry hentry (hentries entry hentry)
  | int n => exact fun h => h
  | float f => cases f <;> simp [refusal, hnan]
  | _ => exact fun _ => rfl

/-- What keeps an object from being written keeps one of its fields from it. -/
theorem exists_of_refusalEntries {depth : Nat} {entries : List (Units × Json)} {e : Exn}
    (h : refusalEntries style depth entries = some e) :
    ∃ entry ∈ entries, refusal style depth entry.2 = some e := by
  induction entries with
  | nil => cases h
  | cons entry entries ih =>
    obtain ⟨key, value⟩ := entry
    rw [refusalEntries, Option.or_eq_some_iff] at h
    rcases h with hvalue | ⟨-, hrest⟩
    · exact ⟨_, List.mem_cons_self, hvalue⟩
    · obtain ⟨entry, hentry, he⟩ := ih hrest
      exact ⟨entry, List.mem_cons_of_mem _ hentry, he⟩

theorem exists_of_refusalItems {depth : Nat} {items : List Json} {e : Exn}
    (h : refusalItems style depth items = some e) :
    ∃ item ∈ items, refusal style depth item = some e := by
  induction items with
  | nil => cases h
  | cons item items ih =>
    rw [refusalItems, Option.or_eq_some_iff] at h
    rcases h with hitem | ⟨-, hrest⟩
    · exact ⟨item, List.mem_cons_self, hitem⟩
    · obtain ⟨other, hother, he⟩ := ih hrest
      exact ⟨other, List.mem_cons_of_mem _ hother, he⟩

theorem refusal_mem {value : Json} : ∀ {depth : Nat} {e : Exn}, refusal style depth value = some e →
    e ∈ [Exn.valueError, Exn.recursionError] := by
  induction value using Json.induction with
  | arr items ih =>
    intro depth e h
    rw [refusal] at h
    split at h
    · rw [← Option.some.inj h]
      simp
    · obtain ⟨item, hitem, he⟩ := exists_of_refusalItems h
      exact ih item hitem he
  | obj entries ih =>
    intro depth e h
    rw [refusal] at h
    split at h
    · rw [← Option.some.inj h]
      simp
    · obtain ⟨entry, hentry, he⟩ := exists_of_refusalEntries h
      exact ih entry hentry he
  | int n =>
    intro depth e h
    rw [refusal] at h
    split at h
    · rw [← Option.some.inj h]
      simp
    · cases h
  | float f =>
    intro depth e h
    cases f with
    | finite q => cases h
    | negativeZero => cases h
    | infinity negative =>
      rw [refusal] at h
      split at h
      · cases h
      · rw [← Option.some.inj h]
        simp
    | nan =>
      rw [refusal] at h
      split at h
      · cases h
      · rw [← Option.some.inj h]
        simp
  | _ =>
    intro depth e h
    cases h

theorem raisesOnly_dumps [FloatText] (value : Json) :
    RaisesOnly [.valueError, .recursionError] (dumps style value) := by
  unfold dumps
  split
  · rename_i e he
    exact raisesOnly_error.mpr (refusal_mem he)
  · exact raisesOnly_ok _ _

/-- An object is not too deep when there is room for it and its fields are not. -/
theorem raisesOnly_dumps_obj [FloatText] {room : Nat} (hdepth : JsonLimits.depth = room + 1)
    {entries : List (Units × Json)}
    (h : ∀ entry ∈ entries, refusal style room entry.2.sorted ≠ some .recursionError) :
    RaisesOnly [.valueError] (dumps style (.obj entries)) := by
  have hsorted : refusal style JsonLimits.depth (Json.obj entries).sorted ≠
      some .recursionError := by
    intro hrefused
    rw [hdepth, Json.sorted, Json.sortedEntries_eq] at hrefused
    obtain ⟨entry, hentry, he⟩ := exists_of_refusalEntries hrefused
    obtain ⟨field, hfield, rfl⟩ := List.mem_map.mp ((List.mem_insertionSort _).mp hentry)
    exact h field hfield he
  unfold dumps
  split
  · rename_i e he
    rcases List.mem_pair.mp (refusal_mem he) with rfl | rfl
    · simp
    · exact absurd he hsorted
  · exact raisesOnly_ok _ _

/-- A field of an object that can be written can be written alone. -/
theorem refusal_get {value field : Json} {key : String} {depth : Nat}
    (hget : value.get key = some field) (h : refusal style depth value = none) :
    refusal style depth field = none := by
  obtain ⟨entries, rfl, hmem⟩ := Json.get_eq_some hget
  obtain ⟨room, rfl, hentries⟩ := refusal_obj style h
  exact refusal_mono (by omega) (hentries _ hmem)

end JsonText

end Py
