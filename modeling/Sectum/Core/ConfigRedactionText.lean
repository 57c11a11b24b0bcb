import Sectum.Core.ConfigRedaction

/-! What the three passes of `_scrub_config_secret_value` leave in a text. -/

namespace Sectum

open Py Py.Piece

section Classes

theorem redactedText_eq : redactedText =
    codePoint '<' :: (pointsOf "redacted" ++ [codePoint '>']) := by simp [redactedText, pointsOf]

theorem redactedText_ne_nil : redactedText ≠ [] := by simp [redactedText, pointsOf]

theorem redactedText_userinfo : ∀ c ∈ redactedText, isUserinfoPoint c = true :=
  List.all_eq_true.mp rfl

theorem redactedText_queryKey : ∀ c ∈ redactedText, isQueryKeyPoint c = true :=
  List.all_eq_true.mp rfl

theorem redactedText_queryValue : ∀ c ∈ redactedText, isQueryValuePoint c = true :=
  List.all_eq_true.mp rfl

/-- The mask has no character by which the patterns of URLs are delimited. -/
theorem notMem_redactedText : codePoint ':' ∉ redactedText ∧ codePoint '/' ∉ redactedText ∧
    codePoint '@' ∉ redactedText ∧ codePoint '=' ∉ redactedText ∧ codePoint '?' ∉ redactedText ∧
    codePoint '&' ∉ redactedText := by decide

variable {prev : Option CodePoint} {w : List CodePoint} {c : CodePoint}

theorem isQueryValuePoint_iff : isQueryValuePoint c = true ↔ c ∉ codePoint '&' :: spacePoints := by
  have hpoints : pointsOf "&" = [codePoint '&'] := by simp [pointsOf]
  simp [isQueryValuePoint, amongPoints, isSpacePoint, hpoints]

theorem isQueryKeyPoint_iff :
    isQueryKeyPoint c = true ↔ c ≠ codePoint '=' ∧ isQueryValuePoint c = true := by
  have hpoints : pointsOf "=&" = [codePoint '=', codePoint '&'] := by simp [pointsOf]
  rw [isQueryValuePoint_iff]
  simp [isQueryKeyPoint, amongPoints, isSpacePoint, hpoints, and_assoc]

theorem isUserinfoPoint_iff : isUserinfoPoint c = true ↔ c ≠ codePoint '/' ∧ c ∉ spacePoints := by
  have hpoints : pointsOf "/" = [codePoint '/'] := by simp [pointsOf]
  simp [isUserinfoPoint, amongPoints, isSpacePoint, hpoints, and_comm]

theorem credential_notMem (h : configSecretValueRe.Matches prev w) :
    ∀ c ∈ pointsOf "<>:@?&", c ∉ w :=
  h.notMem rfl

theorem credential_length (h : configSecretValueRe.Matches prev w) : redactedText.length < w.length :=
  calc redactedText.length < configSecretValueRe.shortest := by decide
    _ ≤ w.length := h.shortest_le

/-- A credential begins with a letter. -/
theorem credential_head (h : configSecretValueRe.Matches prev w) :
    ∀ c ∈ w.head?, c ∉ codePoint '/' :: codePoint '&' :: spacePoints :=
  h.head_notMem rfl

theorem matches_word {text : String} : (word text).Matches prev w ↔ w = pointsOf text :=
  Re.matches_literal

/-- Behind a mask a credential begins as at the beginning of a text. -/
theorem credential_behind_mask :
    configSecretValueRe.Matches (some (codePoint '>')) w ↔ configSecretValueRe.Matches none w :=
  Re.matches_of_ignores rfl

end Classes

/-! The first pass. -/

section Userinfo

variable {prev : Option CodePoint} {m : Found CodePoint} {text w x y z : List CodePoint}
  {ps : List (Piece CodePoint)} {c : CodePoint}

theorem pointsOf_scheme :
    pointsOf "://" = [codePoint ':', codePoint '/', codePoint '/'] := by simp [pointsOf]

theorem pointsOf_at : pointsOf "@" = [codePoint '@'] := by simp [pointsOf]

theorem urlUserinfo_matches : urlUserinfo.Matches prev m ↔ m.before = pointsOf "://" ∧
    (1 ≤ m.cut.length ∧ ∀ c ∈ m.cut, isUserinfoPoint c = true) ∧ m.after = pointsOf "@" :=
  ⟨fun h => ⟨matches_word.mp h.before, h.cut, matches_word.mp h.after⟩,
    fun h => ⟨matches_word.mpr h.1, h.2.1, matches_word.mpr h.2.2⟩⟩

theorem urlUserinfo_text (h : urlUserinfo.Matches prev m) : m.text =
    codePoint ':' :: codePoint '/' :: codePoint '/' :: (m.cut ++ [codePoint '@']) := by
  obtain ⟨hbefore, -, hafter⟩ := urlUserinfo_matches.mp h
  simp [Found.text, hbefore, hafter, pointsOf_scheme, pointsOf_at]

theorem urlUserinfo_masked (h : urlUserinfo.Matches prev m) :
    masked redactedText (m.pieces ++ ps) =
      codePoint ':' :: codePoint '/' :: codePoint '/' :: (redactedText ++ [codePoint '@']) ++
        masked redactedText ps := by
  obtain ⟨hbefore, -, hafter⟩ := urlUserinfo_matches.mp h
  simp [hbefore, hafter, pointsOf_scheme, pointsOf_at]

theorem scan_urlUserinfo (text : List CodePoint) :
    urlUserinfo.Scan none text (urlUserinfo.pieces text) :=
  Pattern.scan_pieces (fun prev m h => by simp [urlUserinfo_text h]) text

/-- What has no slash and is no scheme's colon was not touched. -/
theorem userinfo_beginning (h : urlUserinfo.Scan prev text ps) (hy : codePoint '/' ∉ y)
    (hps : masked redactedText ps = y ++ z) : ∃ rest, text = y ++ rest := by
  induction h generalizing y with
  | nil =>
    have hnil : y = [] := (List.append_eq_nil_iff.mp hps.symm).1
    exact ⟨[], by simp [hnil]⟩
  | keep _ _ ih =>
    cases y with
    | nil => exact ⟨_, rfl⟩
    | cons d y =>
      obtain ⟨rfl, htail⟩ := List.cons.inj hps
      obtain ⟨rest, rfl⟩ := ih (not_or.mp (mt List.mem_cons.mpr hy)).2 htail
      exact ⟨rest, rfl⟩
  | found hfind _ _ =>
    have hmatch := (Pattern.matches_of_find hfind).2
    rw [urlUserinfo_masked hmatch] at hps
    rw [urlUserinfo_text hmatch]
    cases y with
    | nil => exact ⟨_, rfl⟩
    | cons d y =>
      obtain ⟨rfl, htail⟩ := List.cons.inj hps
      cases y with
      | nil => exact ⟨_, rfl⟩
      | cons e y =>
        obtain ⟨rfl, -⟩ := List.cons.inj htail
        simp at hy

/-- A slash is where it was. -/
theorem userinfo_slash (h : urlUserinfo.Scan prev text ps)
    (hps : masked redactedText ps = codePoint '/' :: z) :
    ∃ text' ps', text = codePoint '/' :: text' ∧ masked redactedText ps' = z ∧
      urlUserinfo.Scan (some (codePoint '/')) text' ps' := by
  cases h with
  | nil => simp at hps
  | keep _ hrest =>
    obtain ⟨rfl, htail⟩ := List.cons.inj hps
    exact ⟨_, _, rfl, htail, hrest⟩
  | found hfind _ =>
    rw [urlUserinfo_masked (Pattern.matches_of_find hfind).2] at hps
    exact absurd (List.cons.inj hps).1 (by decide)

/-- Every userinfo that the first pass leaves is the mask. -/
theorem userinfo_masked (h : urlUserinfo.Scan prev text ps)
    (hps : masked redactedText ps = x ++ (pointsOf "://" ++ (w ++ codePoint '@' :: z)))
    (hw : 1 ≤ w.length ∧ ∀ c ∈ w, isUserinfoPoint c = true) : w = redactedText := by
  have hslash {w : List CodePoint} (hw : ∀ c ∈ w, isUserinfoPoint c = true) :
      codePoint '/' ∉ w ++ [codePoint '@'] := by
    intro hmem
    rcases List.mem_append.mp hmem with hmem | hmem
    · exact (isUserinfoPoint_iff.mp (hw _ hmem)).1 rfl
    · exact absurd (List.mem_singleton.mp hmem) (by decide)
  induction h generalizing x with
  | nil => simp at hps
  | @keep prev c cs ps hfind hrest ih =>
    cases x with
    | nil =>
      -- nothing was found at this scheme, although what follows was as it is now
      exfalso
      rw [pointsOf_scheme] at hps
      obtain ⟨rfl, htail⟩ := List.cons.inj hps
      obtain ⟨text1, ps1, rfl, htail, hrest⟩ := userinfo_slash hrest htail
      obtain ⟨text2, ps2, rfl, htail, hrest⟩ := userinfo_slash hrest htail
      obtain ⟨rest, rfl⟩ := userinfo_beginning hrest (hslash hw.2) (y := w ++ [codePoint '@'])
        (by simpa using htail)
      have hmatch : urlUserinfo.Matches prev ⟨pointsOf "://", w, pointsOf "@"⟩ :=
        urlUserinfo_matches.mpr ⟨rfl, hw, rfl⟩
      refine Pattern.find_eq_none.mp hfind _ hmatch ?_
      rw [urlUserinfo_text hmatch]
      exact ⟨rest, by simp⟩
    | cons e x => exact ih (List.cons.inj hps).2
  | @found prev m rest ps hfind hrest ih =>
    obtain ⟨-, hmatch⟩ := Pattern.matches_of_find hfind
    rw [urlUserinfo_masked hmatch] at hps
    cases x with
    | nil =>
      rw [pointsOf_scheme] at hps
      have htail : redactedText ++ codePoint '@' :: masked redactedText ps =
          w ++ codePoint '@' :: z := by simpa using hps
      obtain ⟨w', rfl, hbehind⟩ := append_split notMem_redactedText.2.2.1 htail
      cases w' with
      | nil => simp
      | cons d w' =>
        -- the match goes on to the last `@`
        exfalso
        obtain ⟨rfl, hlast⟩ := List.cons.inj hbehind
        have hw' : ∀ c ∈ w', isUserinfoPoint c = true := fun c hc => hw.2 c (by simp [hc])
        obtain ⟨rest, rfl⟩ := userinfo_beginning hrest (hslash hw') (y := w' ++ [codePoint '@'])
          (z := z) (by simpa using hlast)
        have hmatch' := urlUserinfo_matches.mp hmatch
        have hlonger : 1 ≤ (m.cut ++ codePoint '@' :: w').length ∧
            ∀ c ∈ m.cut ++ codePoint '@' :: w', isUserinfoPoint c = true := by
          refine ⟨by simp only [List.length_append, List.length_cons]; omega, fun c hc => ?_⟩
          rcases List.mem_append.mp hc with hc | hc
          · exact hmatch'.2.1.2 c hc
          · exact hw.2 c (List.mem_append_right _ hc)
        have hle := Pattern.length_le_of_find rfl hfind hlonger
          (matches_word.mpr rfl : urlUserinfo.after.Matches _ (pointsOf "@"))
          ⟨rest, by simp [Found.text, hmatch'.2.2, pointsOf_at]⟩
        simp at hle
    | cons e x =>
      rw [pointsOf_scheme] at hps
      obtain ⟨rfl, htail⟩ := List.cons.inj hps
      have hcolon : codePoint ':' ∉ codePoint '/' :: codePoint '/' ::
          (redactedText ++ [codePoint '@']) := by decide
      obtain ⟨x', rfl, hrest'⟩ := append_split hcolon htail
      exact ih (x := x') (by rw [pointsOf_scheme]; exact hrest')

end Userinfo

/-! The second pass. -/

section Query

variable {prev : Option CodePoint} {m : Found CodePoint} {text k v w x y z : List CodePoint}
  {ps before after : List (Piece CodePoint)} {a c d : CodePoint}

/-- `[?&][^=&\s]+`. -/
def IsQueryKey (a : CodePoint) (k : List CodePoint) : Prop :=
  amongPoints "?&" a = true ∧ 1 ≤ k.length ∧ ∀ c ∈ k, isQueryKeyPoint c = true

theorem IsQueryKey.notMem (h : IsQueryKey a k) : codePoint '=' ∉ a :: k := by
  intro hmem
  rcases List.mem_cons.mp hmem with rfl | hmem
  · exact absurd h.1 (by decide)
  · exact (isQueryKeyPoint_iff.mp (h.2.2 _ hmem)).1 rfl

theorem notMem_redactedText_of_among (h : amongPoints "?&" a = true) : a ∉ redactedText := by
  have hmem : a ∈ pointsOf "?&" := by simpa [amongPoints] using h
  have hpoints : pointsOf "?&" = [codePoint '?', codePoint '&'] := by simp [pointsOf]
  rw [hpoints] at hmem
  rcases List.mem_cons.mp hmem with rfl | hmem
  · exact notMem_redactedText.2.2.2.2.1
  · rw [List.mem_singleton.mp hmem]
    exact notMem_redactedText.2.2.2.2.2

theorem urlQueryValue_matches : urlQueryValue.Matches prev m ↔
    (∃ a k, m.before = a :: (k ++ [codePoint '=']) ∧ IsQueryKey a k) ∧
      (1 ≤ m.cut.length ∧ ∀ c ∈ m.cut, isQueryValuePoint c = true) ∧ m.after = [] := by
  have hequal : pointsOf "=" = [codePoint '='] := by simp [pointsOf]
  have hbefore : urlQueryValue.before.Matches prev m.before ↔
      ∃ a k, m.before = a :: (k ++ [codePoint '=']) ∧ IsQueryKey a k := by
    constructor
    · rintro ⟨x, y, hxy, ⟨a, rfl, ha⟩, k, rest, rfl, hk, equal, none, rfl, hword, rfl⟩
      refine ⟨a, k, ?_, ha, hk⟩
      have hword : equal = [codePoint '='] := (matches_word.mp hword).trans hequal
      simp [hxy, hword]
    · rintro ⟨a, k, hm, ha, hk⟩
      have hword (prev : Option CodePoint) : (word "=").Matches prev [codePoint '='] :=
        matches_word.mpr hequal.symm
      exact ⟨[a], k ++ [codePoint '='], hm, ⟨a, rfl, ha⟩, k, [codePoint '='], rfl, hk,
        [codePoint '='], [], (List.append_nil _).symm, hword _, rfl⟩
  exact ⟨fun h => ⟨hbefore.mp h.before, h.cut, h.after⟩,
    fun h => ⟨hbefore.mpr h.1, h.2.1, h.2.2⟩⟩

theorem urlQueryValue_ne_nil (h : urlQueryValue.Matches prev m) : m.text ≠ [] := by
  obtain ⟨⟨a, k, hbefore, -⟩, -⟩ := urlQueryValue_matches.mp h
  simp [Found.text, hbefore]

theorem scan_urlQueryValue (text : List CodePoint) :
    urlQueryValue.Scan none text (urlQueryValue.pieces text) :=
  Pattern.scan_pieces (fun _ _ h => urlQueryValue_ne_nil h) text

/-- The first character of a text is kept. -/
theorem query_head (h : urlQueryValue.Scan prev text ps) : ps.head? = text.head?.map kept := by
  cases h with
  | nil => rfl
  | keep => rfl
  | found hfind _ =>
    obtain ⟨⟨a, k, hbefore, -⟩, -⟩ :=
      urlQueryValue_matches.mp (Pattern.matches_of_find hfind).2
    simp [Found.pieces, Found.text, hbefore]

theorem head_render {f : List CodePoint → List CodePoint} (h : urlQueryValue.Scan prev text ps) :
    (render f ps).head? = text.head? := by
  have hhead := query_head h
  cases ps with
  | nil =>
    cases text with
    | nil => rfl
    | cons c text => simp at hhead
  | cons piece ps =>
    cases text with
    | nil => simp at hhead
    | cons c text =>
      obtain rfl : piece = kept c := by simpa using hhead
      rfl

/-- A value is cut to its end. -/
theorem query_maximal {rest : List CodePoint}
    (h : urlQueryValue.find prev (m.text ++ rest) = some m) :
    ∀ c ∈ rest.head?, isQueryValuePoint c = false := by
  intro c hc
  obtain ⟨rest, rfl⟩ : ∃ rest', rest = c :: rest' := List.head?_eq_some_iff.mp hc
  by_contra hvalue
  have hmatch := (urlQueryValue_matches.mp (Pattern.matches_of_find h).2).2
  have hlonger : 1 ≤ (m.cut ++ [c]).length ∧ ∀ d ∈ m.cut ++ [c], isQueryValuePoint d = true := by
    refine ⟨by simp, fun d hd => ?_⟩
    rcases List.mem_append.mp hd with hd | hd
    · exact hmatch.1.2 d hd
    · rw [List.mem_singleton.mp hd]
      simpa using hvalue
  have hle := Pattern.length_le_of_find rfl h hlonger
    (rfl : urlQueryValue.after.Matches _ []) ⟨rest, by simp [Found.text, hmatch.2]⟩
  simp at hle

/-- What follows a cut is kept, and cannot be part of a value. -/
theorem query_cut_followed (h : urlQueryValue.Scan prev text ps)
    (hps : ps = before ++ Piece.cut w :: after) :
    ∃ next : Option CodePoint, after.head? = next.map kept ∧
      ∀ c ∈ next, isQueryValuePoint c = false := by
  obtain ⟨x, m, rest, after', -, hfind, -, rfl, hrest⟩ := h.at_cut hps
  have hafter := (urlQueryValue_matches.mp (Pattern.matches_of_find hfind).2).2.2
  rw [hafter, List.map_nil, List.nil_append]
  exact ⟨rest.head?, query_head hrest, query_maximal hfind⟩

theorem query_key_beginning (h : urlQueryValue.Scan prev text ps) (hy : codePoint '=' ∉ y)
    (hps : masked redactedText ps = y ++ codePoint '=' :: d :: z)
    (hd : isQueryValuePoint d = true) :
    ∃ e rest, text = y ++ codePoint '=' :: e :: rest ∧ isQueryValuePoint e = true := by
  induction h generalizing y with
  | nil => simp at hps
  | keep _ hrest ih =>
    cases y with
    | nil =>
      obtain ⟨rfl, htail⟩ := List.cons.inj hps
      have hhead := head_render (f := fun _ => redactedText) hrest
      rw [htail] at hhead
      obtain ⟨rest, hrest'⟩ := List.head?_eq_some_iff.mp hhead.symm
      exact ⟨d, rest, by rw [hrest']; rfl, hd⟩
    | cons e y =>
      obtain ⟨rfl, htail⟩ := List.cons.inj hps
      obtain ⟨e, rest, rfl, he⟩ := ih (not_or.mp (mt List.mem_cons.mpr hy)).2 htail
      exact ⟨e, rest, rfl, he⟩
  | @found _ m rest ps hfind hrest ih =>
    obtain ⟨⟨a, k, hbefore, hkey⟩, ⟨hlength, hvalue⟩, hafter⟩ :=
      urlQueryValue_matches.mp (Pattern.matches_of_find hfind).2
    have hsplit : (a :: k) ++ codePoint '=' :: (redactedText ++ masked redactedText ps) =
        y ++ codePoint '=' :: d :: z := by
      simpa [hbefore, hafter] using hps
    obtain ⟨y', rfl, hbehind⟩ := append_split hkey.notMem hsplit
    cases y' with
    | nil =>
      obtain ⟨e, cut, hcut⟩ := List.exists_cons_of_length_pos hlength
      refine ⟨e, cut ++ rest, by simp [Found.text, hbefore, hcut, hafter], ?_⟩
      exact hvalue e (by simp [hcut])
    | cons e y' =>
      rw [← (List.cons.inj hbehind).1] at hy
      simp at hy

theorem takeWhile_run {P : CodePoint → Bool} (hv : ∀ c ∈ v, P c = true)
    (hz : ∀ c ∈ z.head?, P c = false) : (v ++ z).takeWhile P = v := by
  rw [List.takeWhile_append_of_pos hv]
  cases z with
  | nil => simp
  | cons c z => simp [hz c rfl]

/-- A value that ends where the next character is none is the whole run of such characters. -/
theorem run_unique {P : CodePoint → Bool} {v' z' : List CodePoint} (h : v ++ z = v' ++ z')
    (hv : ∀ c ∈ v, P c = true) (hv' : ∀ c ∈ v', P c = true) (hz : ∀ c ∈ z.head?, P c = false)
    (hz' : ∀ c ∈ z'.head?, P c = false) : v = v' := by
  rw [← takeWhile_run hv hz, h, takeWhile_run hv' hz']

/-- Every query value that the second pass leaves is the mask. -/
theorem query_masked (h : urlQueryValue.Scan prev text ps)
    (hps : masked redactedText ps = x ++ a :: (k ++ codePoint '=' :: (v ++ z)))
    (hkey : IsQueryKey a k) (hv : 1 ≤ v.length ∧ ∀ c ∈ v, isQueryValuePoint c = true)
    (hz : ∀ c ∈ z.head?, isQueryValuePoint c = false) : v = redactedText := by
  have hequal := hkey.notMem
  induction h generalizing x with
  | nil => simp at hps
  | @keep prev c cs ps hfind hrest ih =>
    cases x with
    | nil =>
      -- nothing was found at this key, although what follows was a key and a value
      exfalso
      obtain ⟨rfl, htail⟩ := List.cons.inj hps
      obtain ⟨d, v, rfl⟩ := List.exists_cons_of_length_pos hv.1
      obtain ⟨e, rest, rfl, he⟩ := query_key_beginning hrest
        (not_or.mp (mt List.mem_cons.mpr hequal)).2 htail (hv.2 d (by simp))
      have hmatch : urlQueryValue.Matches prev ⟨c :: (k ++ [codePoint '=']), [e], []⟩ :=
        urlQueryValue_matches.mpr ⟨⟨c, k, rfl, hkey⟩, ⟨by simp, by simpa using he⟩, rfl⟩
      exact Pattern.find_eq_none.mp hfind _ hmatch ⟨rest, by simp [Found.text]⟩
    | cons e x => exact ih (List.cons.inj hps).2
  | @found prev m rest ps hfind hrest ih =>
    obtain ⟨⟨a', k', hbefore, hkey'⟩, -, hafter⟩ :=
      urlQueryValue_matches.mp (Pattern.matches_of_find hfind).2
    have hsplit : (a' :: k') ++ codePoint '=' :: (redactedText ++ masked redactedText ps) =
        (x ++ a :: k) ++ codePoint '=' :: (v ++ z) := by
      simpa [hbefore, hafter] using hps
    obtain ⟨y, hy, hbehind⟩ := append_split hkey'.notMem hsplit
    cases y with
    | nil =>
      have hrun : v ++ z = redactedText ++ masked redactedText ps := (List.cons.inj hbehind).2.symm
      refine run_unique hrun hv.2 redactedText_queryValue hz ?_
      rw [head_render hrest]
      exact query_maximal hfind
    | cons e y =>
      -- the key is behind this match's `=`, and so behind its mask
      obtain ⟨rfl, htail⟩ := List.cons.inj hbehind
      rcases List.append_eq_append_iff.mp hy with ⟨gap, -, hgap⟩ | ⟨gap, -, hgap⟩
      · exact absurd (hgap ▸ List.mem_append_right gap (List.mem_cons_self)) hequal
      · cases gap with
        | nil =>
          have ha : codePoint '=' = a := (List.cons.inj hgap).1
          exact absurd (ha ▸ List.mem_cons_self) hequal
        | cons e gap =>
          obtain ⟨-, rfl⟩ := List.cons.inj hgap
          have hmask : redactedText ++ masked redactedText ps =
              gap ++ a :: (k ++ codePoint '=' :: (v ++ z)) := by simpa using htail
          obtain ⟨x', -, hps'⟩ := append_split (notMem_redactedText_of_among hkey.1) hmask
          exact ih hps'

end Query

end Sectum
