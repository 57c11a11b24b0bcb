import Sectum.Core.ConfigRedactionText

/-! When a scrubbed text has nothing left to scrub: each pass leaves no match of its own pattern
apart from the mask, and the matches of the three passes have to be apart from each other. -/

namespace Sectum

open Py Py.Piece

section Spans

/-- What is now a userinfo, in some pieces. -/
structure UserinfoSpan (ps span : List (Piece CodePoint)) : Prop where
  inside : ∃ before after, ps =
    before ++ ((pointsOf "://").map kept ++ (span ++ kept (codePoint '@') :: after))
  nonempty : span ≠ []
  of_kept : ∀ c, kept c ∈ span → isUserinfoPoint c = true

/-- What is now a query key and its value, in some pieces. -/
structure QuerySpan (ps : List (Piece CodePoint)) (a : CodePoint)
    (key value : List (Piece CodePoint)) : Prop where
  inside : ∃ before after,
    ps = before ++ kept a :: (key ++ kept (codePoint '=') :: (value ++ after)) ∧
      ∃ next : Option CodePoint, after.head? = next.map kept ∧
        ∀ c ∈ next, isQueryValuePoint c = false
  opens : amongPoints "?&" a = true
  key_nonempty : key ≠ []
  key_kept : ∀ c, kept c ∈ key → isQueryKeyPoint c = true
  value_nonempty : value ≠ []
  value_kept : ∀ c, kept c ∈ value → isQueryValuePoint c = true

/-- What the second pass finds in the text that it gets. -/
def queryPieces (text : List CodePoint) : List (Piece CodePoint) :=
  urlQueryValue.pieces (urlUserinfo.sub redactedText text)

/-- What the third pass finds in the text that it gets. -/
def credentialPieces (text : List CodePoint) : List (Piece CodePoint) :=
  configSecretValue.pieces (urlQueryValue.sub redactedText (urlUserinfo.sub redactedText text))

/-- No match of one pass reaches into a match of a later one. -/
structure Apart (text : List CodePoint) : Prop where
  /-- No userinfo has a query value in it. -/
  userinfo_query : ∀ span, UserinfoSpan (queryPieces text) span → ∀ w, cut w ∉ span
  /-- No userinfo has a credential in it, unless it is that credential. -/
  userinfo_credential : ∀ span, UserinfoSpan (credentialPieces text) span →
    (∃ w, span = [cut w]) ∨ ∀ w, cut w ∉ span
  /-- No query key has a credential in it, unless the value is the mask or another credential. -/
  key_credential : ∀ a key value, QuerySpan (credentialPieces text) a key value →
    (∃ w, cut w ∈ key) → (∃ w, value = [cut w]) ∨ value = redactedText.map kept
  /-- No credential directly follows another. -/
  credential_credential : ∀ before w more after,
    credentialPieces text = before ++ cut w :: (more.map kept ++ after) →
      ¬configSecretValueRe.Matches none more

end Spans

/-! What may be left in a text. -/

section Left

variable {text : List CodePoint}

def NoCredential (text : List CodePoint) : Prop :=
  ∀ x w z, text = x ++ (w ++ z) → ¬configSecretValueRe.Matches (lastOf none x) w

def UserinfoMasked (text : List CodePoint) : Prop :=
  ∀ x w z, text = x ++ (pointsOf "://" ++ (w ++ codePoint '@' :: z)) →
    (1 ≤ w.length ∧ ∀ c ∈ w, isUserinfoPoint c = true) → w = redactedText

def QueryMasked (text : List CodePoint) : Prop :=
  ∀ x a k v z, text = x ++ a :: (k ++ codePoint '=' :: (v ++ z)) → IsQueryKey a k →
    (1 ≤ v.length ∧ ∀ c ∈ v, isQueryValuePoint c = true) →
      (∀ c ∈ z.head?, isQueryValuePoint c = false) → v = redactedText

theorem noCredential_iff :
    NoCredential text ↔ ∀ m, ¬configSecretValue.Occurs m text := by
  constructor
  · rintro h m ⟨x, z, rfl, hmatch⟩
    have hbefore : m.before = [] := hmatch.before
    have hafter : m.after = [] := hmatch.after
    have hcut := hmatch.cut
    rw [hbefore] at hcut
    exact h x m.cut z (by simp [Found.text, hbefore, hafter]) hcut
  · rintro h x w z rfl hmatch
    exact h ⟨[], w, []⟩ ⟨x, z, by simp [Found.text], rfl, hmatch, rfl⟩

theorem userinfoMasked_iff :
    UserinfoMasked text ↔ ∀ m, urlUserinfo.Occurs m text → m.cut = redactedText := by
  constructor
  · rintro h m ⟨x, z, rfl, hmatch⟩
    obtain ⟨hbefore, hcut, hafter⟩ := urlUserinfo_matches.mp hmatch
    exact h x m.cut z (by simp [Found.text, hbefore, hafter, pointsOf_at]) hcut
  · rintro h x w z rfl hw
    exact h ⟨pointsOf "://", w, pointsOf "@"⟩
      ⟨x, z, by simp [Found.text, pointsOf_at], urlUserinfo_matches.mpr ⟨rfl, hw, rfl⟩⟩

end Left

/-! The third pass. -/

section Credential

variable {text w : List CodePoint}

theorem configSecretValue_ne_nil {prev : Option CodePoint} {m : Found CodePoint}
    (h : configSecretValue.Matches prev m) : m.text ≠ [] := by
  have hlength := credential_length h.cut
  intro hnil
  have : m.cut = [] := by simp_all [Found.text]
  simp [this] at hlength

theorem scan_configSecretValue (text : List CodePoint) :
    configSecretValue.Scan none text (configSecretValue.pieces text) :=
  Pattern.scan_pieces (fun _ _ h => configSecretValue_ne_nil h) text

theorem scan_queryPieces (text : List CodePoint) :
    urlQueryValue.Scan none (urlUserinfo.sub redactedText text) (queryPieces text) :=
  scan_urlQueryValue _

theorem scan_credentialPieces (text : List CodePoint) : configSecretValue.Scan none
    (urlQueryValue.sub redactedText (urlUserinfo.sub redactedText text)) (credentialPieces text) :=
  scan_configSecretValue _

theorem scrub_eq (text : List CodePoint) :
    scrubConfigSecretValue text = masked redactedText (credentialPieces text) := rfl

/-- What the third pass cuts is a credential. -/
theorem credential_of_cut (hcut : Piece.cut w ∈ credentialPieces text) :
    ∃ prev, configSecretValueRe.Matches prev w := by
  obtain ⟨m, ⟨x, z, -, hmatch⟩, rfl⟩ := (scan_credentialPieces text).occurs hcut
  exact ⟨_, hmatch.cut⟩

end Credential

/-! From pieces to texts and back. -/

section Render

variable {text w x z : List CodePoint} {ps span : List (Piece CodePoint)}
  {f : List CodePoint → List CodePoint}

theorem one_le_length_render (h : span ≠ []) (hf : ∀ w, cut w ∈ span → 1 ≤ (f w).length) :
    1 ≤ (render f span).length := by
  cases span with
  | nil => exact absurd rfl h
  | cons piece span =>
    cases piece with
    | kept c => simp
    | cut w =>
      have := hf w (by simp)
      simp only [render_cut, List.length_append]
      omega

theorem UserinfoSpan.render (h : UserinfoSpan ps span)
    (hf : ∀ w, cut w ∈ span → 1 ≤ (f w).length ∧ ∀ c ∈ f w, isUserinfoPoint c = true) :
    (∃ x z, Piece.render f ps =
      x ++ (pointsOf "://" ++ (Piece.render f span ++ codePoint '@' :: z))) ∧
      1 ≤ (Piece.render f span).length ∧ ∀ c ∈ Piece.render f span, isUserinfoPoint c = true := by
  obtain ⟨before, after, rfl⟩ := h.inside
  refine ⟨⟨Piece.render f before, Piece.render f after, by simp⟩, ?_, ?_⟩
  · exact one_le_length_render h.nonempty fun w hw => (hf w hw).1
  · exact forall_render h.of_kept fun w hw => (hf w hw).2

theorem UserinfoSpan.masked (h : UserinfoSpan ps span)
    (htext : UserinfoMasked (Piece.masked redactedText ps)) :
    Piece.masked redactedText span = redactedText := by
  obtain ⟨⟨x, z, heq⟩, hspan⟩ := h.render (f := fun _ => redactedText) fun _ _ =>
    ⟨by decide, redactedText_userinfo⟩
  exact htext _ _ _ heq hspan

/-- A userinfo of a text comes from one of the pieces, if no cut begins or ends in its
delimiters. -/
theorem userinfoSpan_of_render
    (h : Piece.render f ps = x ++ (pointsOf "://" ++ (w ++ codePoint '@' :: z)))
    (hcut : ∀ w, cut w ∈ ps → codePoint ':' ∉ f w ∧ codePoint '@' ∉ f w ∧
      ∃ c ∈ (f w).head?, c ≠ codePoint '/')
    (hw : 1 ≤ w.length ∧ ∀ c ∈ w, isUserinfoPoint c = true) :
    ∃ span, UserinfoSpan ps span ∧ Piece.render f span = w := by
  rw [pointsOf_scheme] at h
  obtain ⟨before, rest, rfl, -, hrest⟩ := render_split (fun w hw => (hcut w hw).1) h
  have hin {q : List (Piece CodePoint)}
      (hsub : ∀ piece ∈ q, piece ∈ before ++ kept (codePoint ':') :: rest) (w : List CodePoint) (hw : cut w ∈ q) := hcut w (hsub _ hw)
  obtain ⟨rest1, rfl, hrest1⟩ := render_head
    (fun w hw => (hin (fun _ hp => by simp [hp]) w hw).2.2) hrest
  obtain ⟨rest2, rfl, hrest2⟩ := render_head
    (fun w hw => (hin (fun _ hp => by simp [hp]) w hw).2.2) hrest1
  obtain ⟨span, after, rfl, rfl, -⟩ := render_split
    (fun w hw => (hin (q := rest2) (fun _ hp => by simp [hp]) w hw).2.1) hrest2
  refine ⟨span, ⟨⟨before, after, by simp [pointsOf_scheme]⟩, ?_, fun c hc => ?_⟩, rfl⟩
  · rintro rfl
    simp at hw
  · exact hw.2 c (mem_render_of_kept hc)

end Render

/-! The userinfos that the three passes leave. -/

section Userinfos

variable {prev : Option CodePoint} {text w : List CodePoint} {ps span : List (Piece CodePoint)}

theorem userinfoMasked_sub (text : List CodePoint) :
    UserinfoMasked (urlUserinfo.sub redactedText text) :=
  fun _ _ _ h hw => userinfo_masked (scan_urlUserinfo text) h hw

theorem mask_delimits : codePoint ':' ∉ redactedText ∧ codePoint '@' ∉ redactedText ∧
    ∃ c ∈ redactedText.head?, c ≠ codePoint '/' :=
  ⟨notMem_redactedText.1, notMem_redactedText.2.2.1, codePoint '<', by simp [redactedText_eq],
    by decide⟩

theorem credential_delimits (h : configSecretValueRe.Matches prev w) :
    codePoint ':' ∉ w ∧ codePoint '@' ∉ w ∧ ∃ c ∈ w.head?, c ≠ codePoint '/' := by
  have hnot := credential_notMem h
  have hne : w ≠ [] := by
    rintro rfl
    simpa using credential_length h
  obtain ⟨c, w, rfl⟩ := List.exists_cons_of_ne_nil hne
  refine ⟨hnot _ (by simp [pointsOf]), hnot _ (by simp [pointsOf]), c, rfl, ?_⟩
  exact fun heq => credential_head h c rfl (by simp [heq])

theorem credential_head_value (h : configSecretValueRe.Matches prev w) :
    ∃ c rest, w = c :: rest ∧ isQueryValuePoint c = true := by
  obtain ⟨-, -, c, hc, -⟩ := credential_delimits h
  obtain ⟨rest, rfl⟩ := List.head?_eq_some_iff.mp hc
  exact ⟨c, rest, rfl,
    isQueryValuePoint_iff.mpr (mt (List.mem_cons_of_mem _) (credential_head h c rfl))⟩

/-- A query value ends where a userinfo goes on, so that none is a whole userinfo. -/
theorem UserinfoSpan.ne_cut (h : UserinfoSpan ps span) (hscan : urlQueryValue.Scan prev text ps)
    (w : List CodePoint) : span ≠ [cut w] := by
  rintro rfl
  obtain ⟨before, after, hps⟩ := h.inside
  have hps' : ps = (before ++ (pointsOf "://").map kept) ++
      cut w :: kept (codePoint '@') :: after := by simp [hps]
  obtain ⟨next, hnext, hvalue⟩ := query_cut_followed hscan hps'
  cases next with
  | none => simp at hnext
  | some c =>
    obtain rfl : codePoint '@' = c := by simpa using hnext
    exact absurd (hvalue _ rfl) (by decide)

/-- With no userinfo across a query value, the second pass leaves the userinfos as they are. -/
theorem userinfoMasked_second
    (h : ∀ span, UserinfoSpan (queryPieces text) span → ∀ w, cut w ∉ span) :
    UserinfoMasked (urlQueryValue.sub redactedText (urlUserinfo.sub redactedText text)) := by
  intro x w z heq hw
  obtain ⟨span, hspan, rfl⟩ := userinfoSpan_of_render heq (fun _ _ => mask_delimits) hw
  have hnone := h span hspan
  obtain ⟨⟨x, z, heq⟩, hall⟩ := hspan.render (f := id) fun w hw => absurd hw (hnone w)
  rw [render_eq_original fun w hw => absurd hw (hnone w)]
  exact userinfoMasked_sub text x _ z ((scan_queryPieces text).original.symm.trans heq) hall

theorem Apart.userinfoMasked (h : Apart text) : UserinfoMasked (scrubConfigSecretValue text) := by
  intro x w z heq hw
  obtain ⟨span, hspan, rfl⟩ := userinfoSpan_of_render heq (fun _ _ => mask_delimits) hw
  rcases h.userinfo_credential span hspan with ⟨w, rfl⟩ | hnone
  · simp
  · obtain ⟨⟨x, z, heq⟩, hall⟩ := hspan.render (f := id) fun w hw => absurd hw (hnone w)
    rw [render_eq_original fun w hw => absurd hw (hnone w)]
    exact userinfoMasked_second h.userinfo_query x _ z
      ((scan_credentialPieces text).original.symm.trans heq) hall

theorem userinfo_credential_of (h : UserinfoMasked (scrubConfigSecretValue text))
    (hspan : UserinfoSpan (credentialPieces text) span) :
    (∃ w, span = [cut w]) ∨ ∀ w, cut w ∉ span :=
  masked_eq_mask redactedText_ne_nil (hspan.masked h)

/-- A userinfo across a query value has a mask inside, which the third pass does not cut. -/
theorem userinfo_query_of (h : UserinfoMasked (scrubConfigSecretValue text))
    (hspan : UserinfoSpan (queryPieces text) span) (w : List CodePoint) : cut w ∉ span := by
  intro hw
  obtain ⟨⟨x, z, heq⟩, hall⟩ := hspan.render (f := fun _ => redactedText) fun _ _ =>
    ⟨by decide, redactedText_userinfo⟩
  obtain ⟨span', hspan', hsame⟩ : ∃ span', UserinfoSpan (credentialPieces text) span' ∧
      original span' = masked redactedText span := by
    refine userinfoSpan_of_render (x := x) (z := z) ((scan_credentialPieces text).original.trans heq) ?_
      hall
    intro w hw
    obtain ⟨prev, hmatch⟩ := credential_of_cut hw
    exact credential_delimits hmatch
  have hmarked : codePoint '<' ∈ original span' := by
    rw [hsame]
    exact mem_render_of_cut hw (by simp [redactedText_eq])
  rcases userinfo_credential_of h hspan' with ⟨w', rfl⟩ | hnone
  · obtain ⟨before, after, hps⟩ := hspan'.inside
    have hmem : cut w' ∈ credentialPieces text := by simp [hps]
    obtain ⟨prev, hmatch⟩ := credential_of_cut hmem
    exact credential_notMem hmatch (codePoint '<') (by simp [pointsOf]) (by simpa using hmarked)
  · have hmask : masked redactedText span = redactedText := by
      rw [← hsame, ← render_eq_original (f := fun _ => redactedText) fun w hw => absurd hw (hnone w)]
      exact hspan'.masked h
    rcases masked_eq_mask redactedText_ne_nil hmask with ⟨w', rfl⟩ | hnone'
    · exact hspan.ne_cut (scan_queryPieces text) w' rfl
    · exact hnone' w hw

end Userinfos

/-! The credentials that the three passes leave. -/

section Credentials

variable {prev : Option CodePoint} {text w x y z : List CodePoint}
  {ps before after : List (Piece CodePoint)}

/-- A credential has nothing of a mask. -/
theorem credential_part (hps : masked redactedText ps = x ++ (y ++ z))
    (hmatch : configSecretValueRe.Matches prev y) :
    ∃ before after, ps = before ++ (y.map kept ++ after) ∧ masked redactedText before = x ∧
      masked redactedText after = z := by
  have hnot := credential_notMem hmatch
  exact masked_part redactedText_eq (hnot (codePoint '<') (by simp [pointsOf]))
    (hnot (codePoint '>') (by simp [pointsOf])) (credential_length hmatch) hps

theorem lastOf_masked (prev : Option CodePoint) (before : List (Piece CodePoint)) :
    lastOf prev (masked redactedText (before ++ [cut w])) = some (codePoint '>') := by
  have hends : masked redactedText (before ++ [cut w]) =
      (masked redactedText before ++ (codePoint '<' :: pointsOf "redacted")) ++ [codePoint '>'] := by
    simp [redactedText_eq]
  rw [hends, lastOf_append]
  rfl

/-- The second pass makes no credential: a cut goes to the end of its value, where none begins. -/
theorem noCredential_query (h : NoCredential text) :
    NoCredential (urlQueryValue.sub redactedText text) := by
  intro x y z heq hmatch
  have hscan := scan_urlQueryValue text
  obtain ⟨before, after, hps, rfl, -⟩ := credential_part heq hmatch
  rcases lastOf_render (f := fun _ => redactedText) none before with ⟨before, w, rfl⟩ | hlast
  · have hps' : urlQueryValue.pieces text = before ++ cut w :: (y.map kept ++ after) := by
      simpa using hps
    obtain ⟨next, hnext, hvalue⟩ := query_cut_followed hscan hps'
    obtain ⟨c, y, rfl, hc⟩ := credential_head_value hmatch
    cases next with
    | none => simp at hnext
    | some d =>
      obtain rfl : c = d := by simpa using hnext
      simp [hvalue c rfl] at hc
  · refine h (original before) y (original after) ?_ (hlast ▸ hmatch)
    rw [← hscan.original, hps]
    simp

theorem Apart.noCredential (h : Apart text) : NoCredential (scrubConfigSecretValue text) := by
  intro x y z heq hmatch
  rw [scrub_eq] at heq
  obtain ⟨before, after, hps, rfl, -⟩ := credential_part heq hmatch
  rcases lastOf_render (f := fun _ => redactedText) none before with ⟨before, w, rfl⟩ | hlast
  · rw [lastOf_masked, credential_behind_mask] at hmatch
    exact h.credential_credential before w y after (by simpa using hps) hmatch
  · -- the scan passed by, although what it passed was as it is now
    obtain ⟨c, y, rfl, -⟩ := credential_head_value hmatch
    have hps' : credentialPieces text = before ++ kept c :: (y.map kept ++ after) := hps
    have hnone := (scan_credentialPieces text).at_kept rfl rfl hps'
    rw [hlast] at hmatch
    have hmatch' : configSecretValue.Matches (lastOf none (original before)) ⟨[], c :: y, []⟩ :=
      ⟨rfl, hmatch, rfl⟩
    exact Pattern.find_eq_none.mp hnone _ hmatch' ⟨original after, by simp [Found.text]⟩

theorem credential_credential_of (h : NoCredential (scrubConfigSecretValue text))
    {more : List CodePoint}
    (hps : credentialPieces text = before ++ cut w :: (more.map kept ++ after)) :
    ¬configSecretValueRe.Matches none more := by
  intro hmatch
  refine h (masked redactedText (before ++ [cut w])) more (masked redactedText after) ?_ ?_
  · simp [scrub_eq, hps]
  · rw [lastOf_masked, credential_behind_mask]
    exact hmatch

end Credentials

/-! The query values that the three passes leave, which are what a second scrubbing may cut. -/

section Queries

variable {prev : Option CodePoint} {text w v z : List CodePoint} {a : CodePoint}
  {ps key value before after : List (Piece CodePoint)}

theorem queryMasked_sub (text : List CodePoint) : QueryMasked (urlQueryValue.sub redactedText text) :=
  fun _ _ _ _ _ h hkey hv hz => query_masked (scan_urlQueryValue text) h hkey hv hz

/-- Where a run of value characters ends in a text, it ends between the pieces. -/
theorem value_pieces (hps : masked redactedText ps = v ++ z)
    (hz : ∀ c ∈ z.head?, isQueryValuePoint c = false) :
    ∃ value after, ps = value ++ after ∧ masked redactedText value = v ∧
      masked redactedText after = z ∧
        ∃ next : Option CodePoint, after.head? = next.map kept ∧
          ∀ c ∈ next, isQueryValuePoint c = false := by
  cases z with
  | nil => exact ⟨ps, [], by simp, by simpa using hps, rfl, none, rfl, by simp⟩
  | cons c z =>
    have hc : isQueryValuePoint c = false := hz c rfl
    have hnot : c ∉ redactedText := by
      intro hmem
      simp [redactedText_queryValue c hmem] at hc
    obtain ⟨value, after, rfl, rfl, rfl⟩ := render_split (fun _ _ => hnot) hps
    exact ⟨value, kept c :: after, rfl, rfl, rfl, some c, rfl, by simpa using hc⟩

theorem QuerySpan.isQueryKey {f : List CodePoint → List CodePoint} (h : QuerySpan ps a key value)
    (hkey : ∀ w, cut w ∈ key → 1 ≤ (f w).length ∧ ∀ c ∈ f w, isQueryKeyPoint c = true) :
    IsQueryKey a (Piece.render f key) :=
  ⟨h.opens, one_le_length_render h.key_nonempty fun w hw => (hkey w hw).1,
    forall_render h.key_kept fun w hw => (hkey w hw).2⟩

/-- What follows a value ends it, whatever stands for the cuts. -/
theorem head_render_of_next {f : List CodePoint → List CodePoint} {next : Option CodePoint}
    (h : ps.head? = next.map kept) (hnext : ∀ c ∈ next, isQueryValuePoint c = false) :
    ∀ c ∈ (Piece.render f ps).head?, isQueryValuePoint c = false := by
  cases ps with
  | nil => simp
  | cons piece ps =>
    cases next with
    | none => simp at h
    | some c =>
      obtain rfl : piece = kept c := by simpa using h
      simpa using hnext

theorem key_credential_of (h : QueryMasked (scrubConfigSecretValue text))
    (hspan : QuerySpan (credentialPieces text) a key value) :
    (∃ w, value = [cut w]) ∨ value = redactedText.map kept := by
  have hone : 1 ≤ redactedText.length := by decide
  have hkey := hspan.isQueryKey (f := fun _ => redactedText) fun _ _ => ⟨hone, redactedText_queryKey⟩
  obtain ⟨before, after, hps, next, hnext, hvalue⟩ := hspan.inside
  have hmask : masked redactedText value = redactedText := by
    refine h (masked redactedText before) a _ _ (masked redactedText after) ?_ hkey ⟨?_, ?_⟩
      (head_render_of_next hnext hvalue)
    · rw [scrub_eq, hps]
      simp
    · exact one_le_length_render hspan.value_nonempty fun _ _ => hone
    · exact forall_render hspan.value_kept fun _ _ => redactedText_queryValue
  refine (masked_eq_mask redactedText_ne_nil hmask).imp_right fun hnone => ?_
  rw [eq_map_kept hnone, ← render_eq_original (f := fun _ => redactedText) fun w hw =>
    absurd hw (hnone w)]
  exact congrArg _ hmask

theorem head_dropWhile {P : CodePoint → Bool} (text : List CodePoint) :
    ∀ c ∈ (text.dropWhile P).head?, P c = false := by
  intro c hc
  have := List.head?_dropWhile_not P text
  rw [Option.mem_def.mp hc] at this
  simpa using this

/-- The query values that the third pass gets are masks. -/
theorem value_run (hps : credentialPieces text =
      before ++ kept a :: (key ++ kept (codePoint '=') :: (value ++ after)))
    (hspan : QuerySpan (credentialPieces text) a key value) (hkey : ∀ w, cut w ∉ key)
    (hcut : ∀ w, cut w ∈ value ++ after → ∃ prev, configSecretValueRe.Matches prev w) :
    (original (value ++ after)).takeWhile isQueryValuePoint = redactedText := by
  have hquery := hspan.isQueryKey (f := id) fun w hw => absurd hw (hkey w)
  refine queryMasked_sub (urlUserinfo.sub redactedText text) (original before) a (original key) _
    ((original (value ++ after)).dropWhile isQueryValuePoint) ?_ hquery ⟨?_, ?_⟩ (head_dropWhile _)
  · rw [List.takeWhile_append_dropWhile, ← (scan_credentialPieces text).original, hps]
    simp
  · obtain ⟨piece, value, rfl⟩ := List.exists_cons_of_ne_nil hspan.value_nonempty
    cases piece with
    | kept c => simp [hspan.value_kept c (by simp)]
    | cut w =>
      obtain ⟨prev, hmatch⟩ := hcut w (by simp)
      obtain ⟨c, w, rfl, hc⟩ := credential_head_value hmatch
      simp [hc]
  · exact fun c hc => List.mem_takeWhile_imp hc

/-- No credential begins in a mask, so that the third pass leaves it where it is. -/
theorem masked_run (hcut : ∀ w, cut w ∈ ps → ∃ prev, configSecretValueRe.Matches prev w)
    (hrun : (original ps).takeWhile isQueryValuePoint = redactedText) :
    (masked redactedText ps).takeWhile isQueryValuePoint = redactedText := by
  have hbegins : original ps = redactedText ++ (original ps).dropWhile isQueryValuePoint := by
    rw [← hrun, List.takeWhile_append_dropWhile]
  have hends : redactedText.getLast? = some (codePoint '>') := by
    rw [redactedText_eq, ← List.cons_append, List.getLast?_concat]
  have hinside : ∀ w, cut w ∈ ps → redactedText.length < w.length ∧
      ∀ d ∈ redactedText.getLast?, d ∉ w := by
    intro w hw
    obtain ⟨prev, hmatch⟩ := hcut w hw
    refine ⟨credential_length hmatch, fun d hd => ?_⟩
    obtain rfl : codePoint '>' = d := Option.some.inj (hends.symm.trans hd)
    exact credential_notMem hmatch (codePoint '>') (by simp [pointsOf])
  obtain ⟨tail, rfl, htail⟩ := original_beginning hinside hbegins
  rw [masked, render_append, render_map_kept]
  refine takeWhile_run redactedText_queryValue fun c hc => ?_
  have hnext := head_dropWhile (P := isQueryValuePoint) (original (redactedText.map kept ++ tail))
  rw [← htail] at hnext
  cases tail with
  | nil => simp at hc
  | cons piece tail =>
    cases piece with
    | kept d => exact hnext c (by simpa using hc)
    | cut w =>
      obtain ⟨prev, hmatch⟩ := hcut w (by simp)
      obtain ⟨d, w, rfl, hd⟩ := credential_head_value hmatch
      simp [hnext d (by simp)] at hd

theorem Apart.queryMasked (h : Apart text) : QueryMasked (scrubConfigSecretValue text) := by
  intro x a k v z heq hquery hv hz
  rw [scrub_eq] at heq
  obtain ⟨before, rest, hps, rfl, hrest⟩ :=
    render_split (fun _ _ => notMem_redactedText_of_among hquery.1) heq
  obtain ⟨key, rest, rfl, rfl, hvalues⟩ :=
    render_split (fun _ _ => notMem_redactedText.2.2.2.1) hrest
  obtain ⟨value, after, rfl, rfl, rfl, next, hnext, hends⟩ := value_pieces hvalues hz
  have hspan : QuerySpan (credentialPieces text) a key value := by
    refine ⟨⟨before, after, hps, next, hnext, hends⟩, hquery.1, ?_, ?_, ?_, ?_⟩
    · rintro rfl
      simpa using hquery.2.1
    · exact fun c hc => hquery.2.2 c (mem_render_of_kept hc)
    · rintro rfl
      simpa using hv.1
    · exact fun c hc => hv.2 c (mem_render_of_kept hc)
  by_cases hkey : ∃ w, cut w ∈ key
  · rcases h.key_credential a key value hspan hkey with ⟨w, rfl⟩ | rfl
    · simp
    · simp
  · have hcut : ∀ w, cut w ∈ value ++ after → ∃ prev, configSecretValueRe.Matches prev w := by
      intro w hw
      have hmem : cut w ∈ credentialPieces text := by
        rw [hps]
        simp [List.mem_append.mp hw]
      exact credential_of_cut hmem
    have hrun := masked_run hcut (value_run hps hspan (not_exists.mp hkey) hcut)
    rw [masked, render_append, takeWhile_run hv.2 hz] at hrun
    exact hrun

end Queries

/-! A text is scrubbed for good when no pattern finds anything in it but the mask. -/

section Scrubbed

variable {text : List CodePoint}

theorem urlUserinfo_sub_eq (h : UserinfoMasked text) :
    urlUserinfo.sub redactedText text = text := by
  refine Pattern.sub_eq_self (fun _ _ hm => by simp [urlUserinfo_text hm]) fun w hw => ?_
  obtain ⟨m, hm, rfl⟩ := (scan_urlUserinfo text).occurs hw
  exact userinfoMasked_iff.mp h m hm

theorem urlQueryValue_sub_eq (h : QueryMasked text) :
    urlQueryValue.sub redactedText text = text := by
  refine Pattern.sub_eq_self (fun _ _ => urlQueryValue_ne_nil) fun w hw => ?_
  obtain ⟨before, after, hps⟩ := List.append_of_mem hw
  obtain ⟨x, m, rest, after', htext, hfind, rfl, -⟩ := (scan_urlQueryValue text).at_cut hps
  obtain ⟨⟨a, k, hbefore, hkey⟩, hcut, hafter⟩ :=
    urlQueryValue_matches.mp (Pattern.matches_of_find hfind).2
  exact h x a k m.cut rest (by simp [htext, Found.text, hbefore, hafter]) hkey hcut
    (query_maximal hfind)

theorem configSecretValue_sub_eq (h : NoCredential text) :
    configSecretValue.sub redactedText text = text := by
  refine Pattern.sub_eq_self (fun _ _ => configSecretValue_ne_nil) fun w hw => ?_
  obtain ⟨m, hm, rfl⟩ := (scan_configSecretValue text).occurs hw
  exact absurd hm (noCredential_iff.mp h m)

/-- Where no userinfo and no credential is left, what a second scrubbing changes is a query value. -/
theorem scrub_eq_self_iff (huserinfo : UserinfoMasked text) (hcredential : NoCredential text) :
    scrubConfigSecretValue text = text ↔ QueryMasked text := by
  have hscrub : scrubConfigSecretValue text = urlQueryValue.sub redactedText text := by
    show configSecretValue.sub _ (urlQueryValue.sub _ (urlUserinfo.sub _ text)) = _
    rw [urlUserinfo_sub_eq huserinfo, configSecretValue_sub_eq (noCredential_query hcredential)]
  rw [hscrub]
  constructor
  · intro h
    exact h ▸ queryMasked_sub text
  · exact urlQueryValue_sub_eq

end Scrubbed

/-- A text in which the patterns find no credential, and no userinfo but the mask. -/
structure Redacted (text : List CodePoint) : Prop where
  credential : ∀ m, ¬configSecretValue.Occurs m text
  userinfo : ∀ m, urlUserinfo.Occurs m text → m.cut = redactedText

theorem redacted_iff {text : List CodePoint} :
    Redacted text ↔ NoCredential text ∧ UserinfoMasked text := by
  rw [noCredential_iff, userinfoMasked_iff]
  exact ⟨fun h => ⟨h.credential, h.userinfo⟩, fun h => ⟨h.1, h.2⟩⟩

/-- One scrubbing is enough exactly where the matches of the passes are apart. -/
theorem scrub_redacted_iff {text : List CodePoint} :
    (Redacted (scrubConfigSecretValue text) ∧
      scrubConfigSecretValue (scrubConfigSecretValue text) = scrubConfigSecretValue text) ↔
      Apart text := by
  rw [redacted_iff]
  constructor
  · rintro ⟨⟨hcredential, huserinfo⟩, hagain⟩
    have hquery := (scrub_eq_self_iff huserinfo hcredential).mp hagain
    exact
      { userinfo_query := fun _ hspan => userinfo_query_of huserinfo hspan
        userinfo_credential := fun _ hspan => userinfo_credential_of huserinfo hspan
        key_credential := fun _ _ _ hspan _ => key_credential_of hquery hspan
        credential_credential := fun _ _ _ _ => credential_credential_of hcredential }
  · intro h
    exact ⟨⟨h.noCredential, h.userinfoMasked⟩,
      (scrub_eq_self_iff h.userinfoMasked h.noCredential).mpr h.queryMasked⟩

end Sectum
