import Sectum.Lib.JsonFields

/-! What `json.loads` accepts: it can be written again. -/

namespace Py

namespace JsonText

section Numbers

theorem isDigit_range {u : UInt16} (h : isDigit u = true) : 48 ≤ u.toNat ∧ u.toNat ≤ 57 := by
  simpa [isDigit] using h

/-- The integer part of a number is its sign and its digits. -/
theorem scanNumber_whole {text whole suffix rest : Units}
    (h : scanNumber text = some (whole, suffix, rest)) :
    ∃ sign digits, whole = sign ++ digits ∧ (sign = [] ∨ sign = [unit '-']) ∧ digits ≠ [] ∧
      ∀ u ∈ digits, isDigit u = true := by
  unfold scanNumber at h
  cases hwhole : scanWhole (scanMinus text).2 with
  | none =>
    rw [hwhole] at h
    cases h
  | some scanned =>
    obtain ⟨digits, after⟩ := scanned
    rw [hwhole] at h
    obtain ⟨rfl, -⟩ := Prod.mk.inj (Option.some.inj h)
    refine ⟨(scanMinus text).1, digits, rfl, ?_, ?_⟩
    · unfold scanMinus
      split
      · exact Or.inr rfl
      · exact Or.inl rfl
    · unfold scanWhole at hwhole
      split at hwhole
      · cases hwhole
      · split at hwhole
        · rename_i hzero
          obtain ⟨rfl, -⟩ := Prod.mk.inj (Option.some.inj hwhole)
          refine ⟨List.cons_ne_nil _ _, ?_⟩
          simp [hzero, isDigit, unit]
        · split at hwhole
          · rename_i hdigit
            obtain ⟨rfl, -⟩ := Prod.mk.inj (Option.some.inj hwhole)
            refine ⟨List.cons_ne_nil _ _, List.forall_mem_cons.mpr ⟨hdigit, fun u hu => ?_⟩⟩
            exact List.all_eq_true.mp List.all_takeWhile u hu
          · cases hwhole

/-- An integer has no more digits than its text. -/
theorem printNat_ofDigits {digits : Units} (hne : digits ≠ []) (h : ∀ u ∈ digits, isDigit u = true) :
    (printNat (Nat.ofDigits 10 (digits.reverse.map digitValue))).length ≤ digits.length := by
  have hlt : Nat.ofDigits 10 (digits.reverse.map digitValue) < 10 ^ digits.length := by
    have hbound := Nat.ofDigits_lt_base_pow_length (b := 10) (l := digits.reverse.map digitValue)
      (by decide) fun n hn => by
        obtain ⟨u, hu, rfl⟩ := List.mem_map.mp hn
        have hrange := isDigit_range (h u (List.mem_reverse.mp hu))
        unfold digitValue
        omega
    simpa using hbound
  unfold printNat
  split
  · exact List.length_pos_iff.mpr hne
  · rw [List.length_map, List.length_reverse]
    exact (Nat.digits_length_le_iff (by decide) _).mpr hlt

theorem printNat_parseWhole {text whole suffix rest : Units}
    (h : scanNumber text = some (whole, suffix, rest)) :
    (printNat (parseWhole whole).natAbs).length ≤ (whole.filter isDigit).length := by
  obtain ⟨sign, digits, rfl, hsign, hne, hdigits⟩ := scanNumber_whole h
  have hall : digits.filter isDigit = digits := List.filter_eq_self.mpr hdigits
  have hminus : scanMinus (sign ++ digits) = (sign, digits) := by
    rcases hsign with rfl | rfl
    · obtain ⟨u, digits, rfl⟩ := List.exists_cons_of_ne_nil hne
      rw [List.nil_append, scanMinus, if_neg]
      intro heq
      have hu := hdigits u List.mem_cons_self
      rw [Option.some.inj heq] at hu
      cases hu
    · rfl
  have hvalue : (parseWhole (sign ++ digits)).natAbs =
      Nat.ofDigits 10 (digits.reverse.map digitValue) := by
    unfold parseWhole
    rw [hminus]
    dsimp only
    split <;> simp
  have hfilter : ((sign ++ digits).filter isDigit).length = digits.length := by
    rw [List.filter_append, hall, List.length_append]
    rcases hsign with rfl | rfl
    · simp
    · have hnone : [unit '-'].filter isDigit = [] := rfl
      simp [hnone]
  rw [hvalue, hfilter]
  exact printNat_ofDigits hne hdigits

end Numbers

section Containers

variable {α : Type} {element : Units → Parsed α} {close : UInt16} {good : α → Prop}

theorem parseSeparated_all (h : ∀ text a rest, element text = .ok (a, rest) → good a) {fuel : Nat}
    {text rest : Units} {elements : List α}
    (hparse : parseSeparated element close fuel text = .ok (elements, rest)) :
    ∀ a ∈ elements, good a := by
  induction fuel generalizing text elements rest with
  | zero => cases hparse
  | succ fuel ih =>
    rw [parseSeparated] at hparse
    split at hparse
    · cases hparse
    · rename_i first after hfirst
      split at hparse
      · cases hparse
      · split at hparse
        · obtain ⟨rfl, -⟩ := Prod.mk.inj (Except.ok.inj hparse)
          simpa using h _ _ _ hfirst
        · split at hparse
          · obtain ⟨⟨others, last⟩, hothers, heq⟩ := map_eq_ok.mp hparse
            obtain ⟨rfl, -⟩ := Prod.mk.inj heq
            exact List.forall_mem_cons.mpr ⟨h _ _ _ hfirst, ih hothers⟩
          · cases hparse

theorem parseElements_all (h : ∀ text a rest, element text = .ok (a, rest) → good a)
    {text rest : Units} {elements : List α}
    (hparse : parseElements element close text = .ok (elements, rest)) :
    ∀ a ∈ elements, good a := by
  unfold parseElements at hparse
  split at hparse
  · cases hparse
  · split at hparse
    · obtain ⟨rfl, -⟩ := Prod.mk.inj (Except.ok.inj hparse)
      nofun
    · exact parseSeparated_all h hparse

end Containers

section Values

variable [JsonLimits] [FloatText] {style : Style}

/-- A word or a number that was read can be written. -/
theorem refusal_of_parseAtom (hnan : style.allowNan = true) {text rest : Units} {value : Json}
    (h : parseWord text = some (value, rest) ∨ parseNumber text = .ok (value, rest))
    (depth : Nat) : refusal style depth value = none := by
  rcases h with h | h
  · obtain ⟨word, hword, hread⟩ := List.exists_of_findSome?_eq_some h
    obtain ⟨after, -, heq⟩ := Option.map_eq_some_iff.mp hread
    obtain ⟨rfl, -⟩ := Prod.mk.inj heq
    simp only [words, List.mem_cons, List.not_mem_nil, or_false] at hword
    rcases hword with rfl | rfl | rfl | rfl | rfl | rfl <;> simp [refusal, hnan]
  · unfold parseNumber at h
    split at h
    · cases h
    · rename_i whole after hscan
      split at h
      · cases h
      · rename_i hdigits
        obtain ⟨rfl, -⟩ := Prod.mk.inj (Except.ok.inj h)
        have hle := printNat_parseWhole hscan
        rw [refusal, if_neg (by omega)]
    · obtain ⟨rfl, -⟩ := Prod.mk.inj (Except.ok.inj h)
      cases FloatText.parse _ <;> simp [refusal, hnan]

/-- What is read is a string, a word, a number or a container. -/
theorem parseValue_cases {depth : Nat} {text rest : Units} {value : Json}
    (h : parseValue depth text = .ok (value, rest)) :
    (∃ s, value = .str s) ∨
      (parseWord text = some (value, rest) ∨ parseNumber text = .ok (value, rest)) ∨
      ∃ room tail, depth = room + 1 ∧
        (parseObject (parseValue room) tail = .ok (value, rest) ∨
          parseArray (parseValue room) tail = .ok (value, rest)) := by
  rw [parseValue.eq_def] at h
  split at h
  · cases h
  · split at h
    · split at h
      · cases h
      · obtain ⟨rfl, -⟩ := Prod.mk.inj (Except.ok.inj h)
        exact Or.inl ⟨_, rfl⟩
    · split at h
      · split at h
        · cases h
        · exact Or.inr (Or.inr ⟨_, _, rfl, Or.inl h⟩)
      · split at h
        · split at h
          · cases h
          · exact Or.inr (Or.inr ⟨_, _, rfl, Or.inr h⟩)
        · split at h
          · rename_i hword
            rw [Except.ok.inj h] at hword
            exact Or.inr (Or.inl (Or.inl hword))
          · exact Or.inr (Or.inl (Or.inr h))

/-- What was read at a depth can be written at that depth. -/
theorem refusal_of_parseValue (hnan : style.allowNan = true) {depth : Nat} {text rest : Units}
    {value : Json} (h : parseValue depth text = .ok (value, rest)) :
    refusal style depth value = none := by
  induction depth generalizing text value rest with
  | zero =>
    obtain ⟨s, rfl⟩ | hatom | ⟨room, -, hroom, -⟩ := parseValue_cases h
    · rfl
    · exact refusal_of_parseAtom hnan hatom 0
    · cases hroom
  | succ depth ih =>
    obtain ⟨s, rfl⟩ | hatom | ⟨room, tail, hroom, hobject | harray⟩ := parseValue_cases h
    · rfl
    · exact refusal_of_parseAtom hnan hatom _
    · obtain rfl : depth = room := Nat.succ.inj hroom
      obtain ⟨⟨entries, after⟩, helements, heq⟩ := map_eq_ok.mp hobject
      obtain ⟨rfl, -⟩ := Prod.mk.inj heq
      have hentries : ∀ entry ∈ entries, refusal style depth entry.2 = none := by
        refine parseElements_all (fun text entry rest hentry => ?_) helements
        unfold parseEntry at hentry
        split at hentry
        · cases hentry
        · obtain ⟨⟨item, after⟩, hitem, heq⟩ := map_eq_ok.mp hentry
          obtain ⟨rfl, -⟩ := Prod.mk.inj heq
          exact ih hitem
      refine (refusalEntries_eq_none style).mpr fun entry hentry => ?_
      exact hentries entry (Dict.mem_of_lookup_ofItems (Dict.mem_items.mp hentry))
    · obtain rfl : depth = room := Nat.succ.inj hroom
      obtain ⟨⟨items, after⟩, helements, heq⟩ := map_eq_ok.mp harray
      obtain ⟨rfl, -⟩ := Prod.mk.inj heq
      have hitems : ∀ item ∈ items, refusal style depth item = none :=
        parseElements_all (fun _ _ _ hitem => ih hitem) helements
      exact (refusalItems_eq_none style).mpr hitems

theorem refusal_of_loads (hnan : style.allowNan = true) {text : Units} {value : Json}
    (h : loads text = .ok value) : refusal style JsonLimits.depth value = none := by
  unfold loads at h
  split at h
  · cases h
  · rename_i hparse
    split at h
    · rw [← Except.ok.inj h]
      exact refusal_of_parseValue hnan hparse
    · cases h

end Values

end JsonText

/-- What was read of bytes can be written. -/
theorem refusal_of_loadsOf [JsonLimits] [FloatText] {style : JsonText.Style}
    (hnan : style.allowNan = true) {data : Bytes} {value : Json} (h : loadsOf data = .ok value) :
    JsonText.refusal style JsonLimits.depth value = none := by
  unfold loadsOf loadsBytes at h
  split at h
  · cases h
  · cases h
  · rename_i hloads
    rw [← Except.ok.inj h]
    obtain ⟨text, -, htext⟩ := Option.map_eq_some_iff.mp hloads
    exact JsonText.refusal_of_loads hnan htext

end Py
