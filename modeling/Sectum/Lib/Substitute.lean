import Sectum.Lib.Regex

/-! `re.sub` with a pattern of three parts, of which the template keeps the outer two and replaces
the middle one by a fixed text, the mask. A text falls into the characters that are kept and the
parts that are cut, which the mask stands for in the result. -/

namespace Py

variable {α : Type}

structure Pattern (α : Type) where
  before : Re α := .empty
  cut : Re α
  after : Re α := .empty

inductive Piece (α : Type)
  | kept (c : α)
  | cut (w : List α)

namespace Piece

/-- The text of some pieces, with `f w` for what was cut. -/
def render (f : List α → List α) : List (Piece α) → List α
  | [] => []
  | kept c :: ps => c :: render f ps
  | cut w :: ps => f w ++ render f ps

abbrev original (ps : List (Piece α)) : List α := render id ps

abbrev masked (mask : List α) (ps : List (Piece α)) : List α := render (fun _ => mask) ps

end Piece

open Piece

/-- A match, by its three parts. -/
structure Found (α : Type) where
  before : List α
  cut : List α
  after : List α
  deriving DecidableEq

namespace Found

def text (m : Found α) : List α := m.before ++ (m.cut ++ m.after)

def pieces (m : Found α) : List (Piece α) :=
  m.before.map kept ++ Piece.cut m.cut :: m.after.map kept

end Found

namespace Pattern

/-- The matches at the beginning of a text, in the order in which they are tried. -/
def tries (p : Pattern α) (prev : Option α) (text : List α) : List (Found α) :=
  (p.before.tries prev text).flatMap fun x =>
    (p.cut.tries (lastOf prev x) (text.drop x.length)).flatMap fun y =>
      (p.after.tries (lastOf prev (x ++ y)) (text.drop (x.length + y.length))).map fun z => ⟨x, y, z⟩

/-- `p.match`, at a place behind `prev`. -/
def find (p : Pattern α) (prev : Option α) (text : List α) : Option (Found α) :=
  (p.tries prev text).head?

/-- The matches that `p.finditer` gives behind the next `skip` characters, which belong to the last
one. It is for patterns that do not match the empty text. -/
def piecesFrom (p : Pattern α) : Option α → Nat → List α → List (Piece α)
  | _, _, [] => []
  | _, skip + 1, c :: cs => p.piecesFrom (some c) skip cs
  | prev, 0, c :: cs =>
    match p.find prev (c :: cs) with
    | none => kept c :: p.piecesFrom (some c) 0 cs
    | some m => m.pieces ++ p.piecesFrom (some c) (m.text.length - 1) cs

def pieces (p : Pattern α) (text : List α) : List (Piece α) := p.piecesFrom none 0 text

/-- `p.sub(template, text)`. -/
def sub (p : Pattern α) (mask text : List α) : List α := masked mask (p.pieces text)

/-- `p` matches a text of which these are the three parts. -/
structure Matches (p : Pattern α) (prev : Option α) (m : Found α) : Prop where
  before : p.before.Matches prev m.before
  cut : p.cut.Matches (lastOf prev m.before) m.cut
  after : p.after.Matches (lastOf prev (m.before ++ m.cut)) m.after

/-- A match somewhere in a text, of which `p.search` finds the first. -/
def Occurs (p : Pattern α) (m : Found α) (text : List α) : Prop :=
  ∃ x z, text = x ++ (m.text ++ z) ∧ p.Matches (lastOf none x) m

/-- The pieces of what stands behind `prev`. -/
inductive Scan (p : Pattern α) : Option α → List α → List (Piece α) → Prop
  | nil (prev : Option α) : Scan p prev [] []
  | keep {prev : Option α} {c : α} {cs : List α} {ps : List (Piece α)}
      (hfind : p.find prev (c :: cs) = none) (hrest : Scan p (some c) cs ps) :
      Scan p prev (c :: cs) (kept c :: ps)
  | found {prev : Option α} {m : Found α} {rest : List α} {ps : List (Piece α)}
      (hfind : p.find prev (m.text ++ rest) = some m)
      (hrest : Scan p (lastOf prev m.text) rest ps) :
      Scan p prev (m.text ++ rest) (m.pieces ++ ps)

end Pattern

section Append

/-- Where an element that `a` lacks splits `a ++ b`, it splits `b`. -/
theorem append_split {c : α} {a b x y : List α} (ha : c ∉ a) (h : a ++ b = x ++ c :: y) :
    ∃ x', x = a ++ x' ∧ b = x' ++ c :: y := by
  induction a generalizing x with
  | nil => exact ⟨x, rfl, h⟩
  | cons d a ih =>
    obtain ⟨hd, ha⟩ := not_or.mp (mt List.mem_cons.mpr ha)
    cases x with
    | nil => exact absurd (List.cons.inj h).1.symm hd
    | cons e x =>
      have h : d = e ∧ a ++ b = x ++ c :: y := List.cons.inj h
      obtain ⟨x', hx, hb⟩ := ih ha h.2
      exact ⟨x', by rw [← h.1, hx, List.cons_append], hb⟩

end Append

namespace Piece

variable {f : List α → List α} {ps qs : List (Piece α)} {c : α} {mask w x y z : List α}

@[simp] theorem render_nil : render f ([] : List (Piece α)) = [] := rfl

@[simp] theorem render_kept : render f (kept c :: ps) = c :: render f ps := rfl

@[simp] theorem render_cut : render f (cut w :: ps) = f w ++ render f ps := rfl

@[simp] theorem render_append : render f (ps ++ qs) = render f ps ++ render f qs := by
  induction ps with
  | nil => rfl
  | cons piece ps ih => cases piece <;> simp [ih]

@[simp] theorem render_map_kept (w : List α) : render f (w.map kept) = w := by
  induction w with
  | nil => rfl
  | cons c w ih => simp [ih]

theorem render_eq_original (h : ∀ w, cut w ∈ ps → f w = w) : render f ps = original ps := by
  induction ps with
  | nil => rfl
  | cons piece ps ih =>
    have hps := ih fun w hw => h w (List.mem_cons_of_mem _ hw)
    cases piece with
    | kept c => simp [hps]
    | cut w => simp [hps, h w (by simp)]

/-- Without a cut, the pieces are the characters. -/
theorem eq_map_kept (h : ∀ w, cut w ∉ ps) : ps = (original ps).map kept := by
  induction ps with
  | nil => rfl
  | cons piece ps ih =>
    have hps := ih fun w hw => h w (List.mem_cons_of_mem _ hw)
    cases piece with
    | kept c => simpa using hps
    | cut w => exact absurd List.mem_cons_self (h w)

/-- What holds of the characters that are kept and of those that stand for a cut holds of all. -/
theorem forall_render {P : α → Prop} (hkept : ∀ c, kept c ∈ ps → P c)
    (hcut : ∀ w, cut w ∈ ps → ∀ c ∈ f w, P c) : ∀ c ∈ render f ps, P c := by
  induction ps with
  | nil => simp
  | cons piece ps ih =>
    have hps := ih (fun c hc => hkept c (List.mem_cons_of_mem _ hc))
      fun w hw => hcut w (List.mem_cons_of_mem _ hw)
    cases piece with
    | kept c => simpa using ⟨hkept c (by simp), hps⟩
    | cut w =>
      intro c hc
      rcases List.mem_append.mp hc with hc | hc
      · exact hcut w (by simp) c hc
      · exact hps c hc

theorem mem_render_of_kept (h : kept c ∈ ps) : c ∈ render f ps := by
  obtain ⟨before, after, rfl⟩ := List.append_of_mem h
  simp

theorem mem_render_of_cut (h : cut w ∈ ps) (hc : c ∈ f w) : c ∈ render f ps := by
  obtain ⟨before, after, rfl⟩ := List.append_of_mem h
  simp [hc]

/-- A character that no cut has was kept. -/
theorem render_split (hcut : ∀ w, cut w ∈ ps → c ∉ f w) (h : render f ps = x ++ c :: y) :
    ∃ before after, ps = before ++ kept c :: after ∧ render f before = x ∧ render f after = y := by
  induction ps generalizing x with
  | nil => simp at h
  | cons piece ps ih =>
    have hps := fun w hw => hcut w (List.mem_cons_of_mem _ hw)
    cases piece with
    | kept d =>
      cases x with
      | nil =>
        obtain ⟨rfl, htail⟩ := List.cons.inj h
        exact ⟨[], ps, rfl, rfl, htail⟩
      | cons e x =>
        obtain ⟨rfl, htail⟩ := List.cons.inj h
        obtain ⟨before, after, rfl, rfl, hafter⟩ := ih hps htail
        exact ⟨kept d :: before, after, rfl, rfl, hafter⟩
    | cut w =>
      obtain ⟨x', rfl, htail⟩ := append_split (hcut w (by simp)) h
      obtain ⟨before, after, rfl, rfl, hafter⟩ := ih hps htail
      exact ⟨cut w :: before, after, rfl, rfl, hafter⟩

/-- A character with which no cut begins was kept. -/
theorem render_head (hcut : ∀ w, cut w ∈ ps → ∃ d ∈ (f w).head?, d ≠ c) (h : render f ps = c :: y) :
    ∃ after, ps = kept c :: after ∧ render f after = y := by
  cases ps with
  | nil => simp at h
  | cons piece ps =>
    cases piece with
    | kept d =>
      obtain ⟨rfl, htail⟩ := List.cons.inj h
      exact ⟨ps, rfl, htail⟩
    | cut w =>
      obtain ⟨d, hd, hne⟩ := hcut w (by simp)
      obtain ⟨rest, hw⟩ := List.head?_eq_some_iff.mp hd
      rw [render_cut, hw] at h
      exact absurd (List.cons.inj h).1 hne

/-- A beginning that is shorter than each cut, and ends with a character that no cut has, was
kept. -/
theorem original_beginning
    (hcut : ∀ w, cut w ∈ ps → y.length < w.length ∧ ∀ d ∈ y.getLast?, d ∉ w)
    (h : original ps = y ++ z) : ∃ after, ps = y.map kept ++ after ∧ original after = z := by
  induction y generalizing ps with
  | nil => exact ⟨ps, rfl, h⟩
  | cons d y ih =>
    cases ps with
    | nil => simp at h
    | cons piece ps =>
      cases piece with
      | kept c =>
        obtain ⟨rfl, htail⟩ := List.cons.inj h
        have hcut' : ∀ w, cut w ∈ ps → y.length < w.length ∧ ∀ d ∈ y.getLast?, d ∉ w := by
          intro w hw
          obtain ⟨hlength, hlast⟩ := hcut w (List.mem_cons_of_mem _ hw)
          refine ⟨Nat.lt_of_succ_lt hlength, fun d hd => hlast d ?_⟩
          cases y with
          | nil => simp at hd
          | cons e y => rwa [List.getLast?_cons_cons]
        obtain ⟨after, rfl, hafter⟩ := ih hcut' htail
        exact ⟨after, rfl, hafter⟩
      | cut w =>
        exfalso
        obtain ⟨hlength, hlast⟩ := hcut w (by simp)
        have h : w ++ original ps = (d :: y) ++ z := h
        rcases List.append_eq_append_iff.mp h with ⟨gap, hgap, -⟩ | ⟨gap, hgap, -⟩
        · have := congrArg List.length hgap
          simp only [List.length_append] at this
          omega
        · have hmem := List.getLast?_eq_some_getLast (List.cons_ne_nil d y)
          exact hlast _ hmem (hgap ▸ List.mem_append_left gap (List.mem_of_getLast? hmem))

/-- A beginning without the first character of the mask was kept. -/
theorem masked_beginning {first : α} {more : List α} (hfirst : first ∉ y)
    (h : masked (first :: more) ps = y ++ z) :
    ∃ after, ps = y.map kept ++ after ∧ masked (first :: more) after = z := by
  induction y generalizing ps with
  | nil => exact ⟨ps, rfl, h⟩
  | cons d y ih =>
    obtain ⟨hd, hmore⟩ := not_or.mp (mt List.mem_cons.mpr hfirst)
    cases ps with
    | nil => simp at h
    | cons piece ps =>
      cases piece with
      | kept c =>
        obtain ⟨rfl, htail⟩ := List.cons.inj h
        obtain ⟨after, rfl, hafter⟩ := ih hmore htail
        exact ⟨after, rfl, hafter⟩
      | cut w => exact absurd (List.cons.inj h).1 hd

/-- A part that is longer than the mask and lacks its first and its last character was kept. -/
theorem masked_part {first last : α} {more : List α} (hmask : mask = first :: (more ++ [last]))
    (hfirst : first ∉ y) (hlast : last ∉ y) (hlength : mask.length < y.length)
    (h : masked mask ps = x ++ (y ++ z)) :
    ∃ before after, ps = before ++ (y.map kept ++ after) ∧ masked mask before = x ∧
      masked mask after = z := by
  induction ps generalizing x with
  | nil =>
    have hnil := congrArg List.length h
    simp only [render_nil, List.length_nil, List.length_append] at hnil
    omega
  | cons piece ps ih =>
    cases x with
    | nil =>
      rw [hmask] at h
      obtain ⟨after, hps, hafter⟩ := masked_beginning hfirst h
      exact ⟨[], after, hps, rfl, by rw [hmask, hafter]⟩
    | cons e x =>
      cases piece with
      | kept c =>
        obtain ⟨rfl, htail⟩ := List.cons.inj h
        obtain ⟨before, after, rfl, rfl, hafter⟩ := ih htail
        exact ⟨kept c :: before, after, rfl, rfl, hafter⟩
      | cut w =>
        have h : mask ++ masked mask ps = (e :: x) ++ (y ++ z) := h
        rcases List.append_eq_append_iff.mp h with ⟨x', hx, hrest⟩ | ⟨r, hr, hrest⟩
        · obtain ⟨before, after, rfl, rfl, hafter⟩ := ih hrest
          exact ⟨cut w :: before, after, rfl, hx.symm, hafter⟩
        · rcases List.eq_nil_or_concat r with rfl | ⟨r, d, rfl⟩
          · obtain ⟨before, after, rfl, hbefore, hafter⟩ := ih (x := []) hrest.symm
            have hx : masked mask (cut w :: before) = e :: x := by
              rw [List.append_nil] at hr
              rw [← hr]
              simp [hbefore]
            exact ⟨cut w :: before, after, rfl, hx, hafter⟩
          · -- the part begins inside the mask, and so has its last character or is shorter
            exfalso
            have hd : d = last := by
              have := congrArg List.getLast? (hmask.symm.trans hr)
              rw [← List.cons_append, List.concat_eq_append, ← List.append_assoc, List.getLast?_concat,
                List.getLast?_concat] at this
              exact (Option.some.inj this).symm
            rcases List.append_eq_append_iff.mp hrest with ⟨more', hr', -⟩ | ⟨more', hy, -⟩
            · have := congrArg List.length hr
              have := congrArg List.length hr'
              simp only [List.length_append, List.length_cons] at *
              omega
            · exact hlast (by simp [hy, hd])

/-- What is not behind a cut is behind the same character as before. -/
theorem lastOf_render (prev : Option α) (ps : List (Piece α)) :
    (∃ before w, ps = before ++ [cut w]) ∨ lastOf prev (render f ps) = lastOf prev (original ps) := by
  rcases List.eq_nil_or_concat ps with rfl | ⟨before, piece, rfl⟩
  · exact .inr rfl
  · cases piece with
    | kept c => exact .inr (by simp [lastOf_append])
    | cut w => exact .inl ⟨before, w, by simp⟩

theorem masked_eq_nil (hmask : mask ≠ []) : masked mask ps = [] ↔ ps = [] := by
  cases ps with
  | nil => simp
  | cons piece ps => cases piece <;> simp [hmask]

/-- The mask itself comes from one cut, or was there. -/
theorem masked_eq_mask (hmask : mask ≠ []) (h : masked mask ps = mask) :
    (∃ w, ps = [cut w]) ∨ ∀ w, cut w ∉ ps := by
  refine or_iff_not_imp_right.mpr fun hcut => ?_
  push Not at hcut
  obtain ⟨w, hw⟩ := hcut
  obtain ⟨before, after, rfl⟩ := List.append_of_mem hw
  have hlength : (masked mask before).length + (mask.length + (masked mask after).length) =
      mask.length := by simpa using congrArg List.length h
  have hbefore : masked mask before = [] := List.eq_nil_of_length_eq_zero (by omega)
  have hafter : masked mask after = [] := List.eq_nil_of_length_eq_zero (by omega)
  rw [masked_eq_nil hmask] at hbefore hafter
  exact ⟨w, by simp [hbefore, hafter]⟩

end Piece

namespace Found

variable {m : Found α} {mask : List α}

@[simp] theorem original_pieces : original m.pieces = m.text := by simp [pieces, text]

@[simp] theorem masked_pieces : masked mask m.pieces = m.before ++ (mask ++ m.after) := by
  simp [pieces]

end Found

namespace Pattern

variable {p : Pattern α} {prev : Option α} {text : List α} {m : Found α}

section Find

theorem mem_tries : m ∈ p.tries prev text ↔ m.text <+: text ∧ p.Matches prev m := by
  simp only [tries, List.mem_flatMap, List.mem_map, Re.mem_tries]
  constructor
  · rintro ⟨x, ⟨⟨t, rfl⟩, hx⟩, y, ⟨hy, hmatch⟩, z, ⟨hz, hafter⟩, rfl⟩
    rw [List.drop_left] at hy
    obtain ⟨t, rfl⟩ := hy
    rw [← List.length_append, ← List.append_assoc, List.drop_left] at hz
    obtain ⟨t, rfl⟩ := hz
    exact ⟨⟨t, by simp [Found.text]⟩, hx, hmatch, hafter⟩
  · rintro ⟨⟨t, rfl⟩, hmatch⟩
    obtain ⟨x, y, z⟩ := m
    refine ⟨x, ⟨⟨y ++ (z ++ t), by simp [Found.text]⟩, hmatch.before⟩, y, ⟨?_, hmatch.cut⟩, z,
      ⟨?_, hmatch.after⟩, rfl⟩
    · simp [Found.text]
    · simp [Found.text, ← List.drop_drop]

theorem find_eq_none : p.find prev text = none ↔ ∀ m, p.Matches prev m → ¬m.text <+: text := by
  rw [find, List.head?_eq_none_iff, List.eq_nil_iff_forall_not_mem]
  refine forall_congr' fun m => ?_
  rw [mem_tries]
  tauto

theorem matches_of_find (h : p.find prev text = some m) : m.text <+: text ∧ p.Matches prev m :=
  mem_tries.mp (List.mem_of_mem_head? h)

/-- A cut of the characters of a class is the longest that what is behind it admits. -/
theorem length_le_of_find {cls : α → Bool} {least : Nat} {y z : List α}
    (hp : p.cut = .many cls least) (h : p.find prev text = some m)
    (hy : least ≤ y.length ∧ ∀ c ∈ y, cls c = true)
    (hz : p.after.Matches (lastOf prev (m.before ++ y)) z)
    (htext : m.before ++ (y ++ z) <+: text) : y.length ≤ m.cut.length := by
  rw [find, tries, List.head?_flatMap, List.findSome?_eq_some_iff] at h
  obtain ⟨-, x, -, -, h, -⟩ := h
  rw [List.head?_flatMap, List.findSome?_eq_some_iff, hp] at h
  obtain ⟨longer, cut, shorter, hruns, h, hnone⟩ := h
  obtain ⟨z', -, rfl⟩ := List.mem_map.mp (List.mem_of_mem_head? h)
  obtain ⟨rest, rfl⟩ := htext
  have hmem : y ∈ longer ++ cut :: shorter := by
    rw [← hruns, Re.mem_tries]
    exact ⟨by simp, hy⟩
  rcases List.mem_append.mp hmem with hlonger | hshorter
  · have hempty := hnone y hlonger
    rw [List.head?_eq_none_iff, List.map_eq_nil_iff] at hempty
    have hz' : z ∈ p.after.tries (lastOf prev (x ++ y))
        ((x ++ (y ++ z) ++ rest).drop (x.length + y.length)) := by
      rw [Re.mem_tries]
      exact ⟨by simp [← List.drop_drop], hz⟩
    rw [hempty] at hz'
    cases hz'
  · have hpairwise := (Re.pairwise_runsOf cls ((x ++ (y ++ z) ++ rest).drop x.length)).filter
      (least ≤ ·.length)
    rw [show (Re.runsOf cls _).filter _ = longer ++ cut :: shorter from hruns] at hpairwise
    rcases List.mem_cons.mp hshorter with rfl | hshorter
    · exact Nat.le_refl _
    · exact ((List.pairwise_cons.mp (List.pairwise_append.mp hpairwise).2.1).1 y hshorter).le

end Find

section Scan

variable {ps before after : List (Piece α)} {w : List α} {c : α}

/-- The pieces of a text are those of the scan, for a pattern that does not match the empty text. -/
theorem scan_piecesFrom (hp : ∀ prev m, p.Matches prev m → m.text ≠ []) (prev : Option α)
    (skip : Nat) (text : List α) :
    Scan p (lastOf prev (text.take skip)) (text.drop skip) (p.piecesFrom prev skip text) := by
  induction text generalizing prev skip with
  | nil => simpa [piecesFrom] using Scan.nil prev
  | cons c cs ih =>
    cases skip with
    | succ skip => simpa [piecesFrom] using ih (some c) skip
    | zero =>
      rw [piecesFrom]
      split
      · rename_i hfind
        exact .keep hfind (by simpa using ih (some c) 0)
      · rename_i m hfind
        obtain ⟨⟨rest, hrest⟩, hmatch⟩ := matches_of_find hfind
        obtain ⟨d, tail, htext⟩ := List.exists_cons_of_ne_nil (hp prev m hmatch)
        have hcs : d = c ∧ tail ++ rest = cs := by simpa [htext] using hrest
        have hscan := ih (some c) (m.text.length - 1)
        rw [htext, List.length_cons, Nat.add_sub_cancel, ← hcs.2, List.take_left, List.drop_left]
          at hscan
        simp only [List.take_zero, lastOf_nil, List.drop_zero, ← hrest]
        refine .found (hrest.symm ▸ hfind) ?_
        rw [htext, lastOf_cons, hcs.1]
        simpa [htext, ← hcs.2] using hscan

theorem scan_pieces (hp : ∀ prev m, p.Matches prev m → m.text ≠ []) (text : List α) :
    Scan p none text (p.pieces text) := by
  simpa [pieces] using scan_piecesFrom hp none 0 text

theorem Scan.original (h : Scan p prev text ps) : original ps = text := by
  induction h with
  | nil => rfl
  | keep _ _ ih => simp [ih]
  | found _ _ ih => simp [ih]

/-- What was cut is the middle of a match, and the scan goes on behind that match. -/
theorem Scan.at_cut (h : Scan p prev text ps) (hps : ps = before ++ Piece.cut w :: after) :
    ∃ x m rest after', text = x ++ (m.text ++ rest) ∧
      p.find (lastOf prev x) (m.text ++ rest) = some m ∧ m.cut = w ∧
      after = m.after.map kept ++ after' ∧ Scan p (lastOf prev (x ++ m.text)) rest after' := by
  induction h generalizing before with
  | nil => simp at hps
  | @keep prev c cs ps _ _ ih =>
    cases before with
    | nil => simp at hps
    | cons piece before =>
      obtain ⟨x, m, rest, after', rfl, h⟩ := ih (List.cons.inj hps).2
      exact ⟨c :: x, m, rest, after', rfl, by simpa using h⟩
  | @found prev m rest ps hfind hrest ih =>
    have hkept (w' : List α) : Piece.cut w ∉ w'.map kept := by simp
    rw [Found.pieces, List.append_assoc] at hps
    obtain ⟨before', rfl, hcuts⟩ := append_split (hkept m.before) hps
    cases before' with
    | nil =>
      obtain ⟨hcut, hafter⟩ := List.cons.inj hcuts
      exact ⟨[], m, rest, ps, rfl, hfind, Piece.cut.inj hcut, hafter.symm, hrest⟩
    | cons piece before' =>
      obtain ⟨before', rfl, htail⟩ := append_split (hkept m.after) (List.cons.inj hcuts).2
      obtain ⟨x, m', rest', after', rfl, h⟩ := ih htail
      refine ⟨m.text ++ x, m', rest', after', by rw [List.append_assoc], ?_⟩
      rwa [List.append_assoc, lastOf_append, lastOf_append]

theorem Scan.occurs (h : Scan p none text ps) (hcut : Piece.cut w ∈ ps) :
    ∃ m, p.Occurs m text ∧ m.cut = w := by
  obtain ⟨before, after, hps⟩ := List.append_of_mem hcut
  obtain ⟨x, m, rest, after', htext, hfind, hw, -⟩ := h.at_cut hps
  exact ⟨m, ⟨x, rest, htext, (matches_of_find hfind).2⟩, hw⟩

/-- A text of which only masks are cut stays as it is. -/
theorem sub_eq_self {mask : List α} (hp : ∀ prev m, p.Matches prev m → m.text ≠ [])
    (h : ∀ w, Piece.cut w ∈ p.pieces text → w = mask) : p.sub mask text = text := by
  rw [sub, masked, render_eq_original fun w hw => (h w hw).symm, (scan_pieces hp text).original]

/-- Where matches are cut whole, what was kept begins no match. -/
theorem Scan.at_kept (hbefore : p.before = .empty) (hafter : p.after = .empty)
    (h : Scan p prev text ps) (hps : ps = before ++ kept c :: after) :
    p.find (lastOf prev (Piece.original before)) (c :: Piece.original after) = none := by
  induction h generalizing before with
  | nil => simp at hps
  | keep hfind hrest ih =>
    cases before with
    | nil =>
      obtain ⟨hc, rfl⟩ := List.cons.inj hps
      rw [← Piece.kept.inj hc, hrest.original]
      exact hfind
    | cons piece before =>
      obtain ⟨rfl, htail⟩ := List.cons.inj hps
      simpa using ih htail
  | @found prev m rest ps hfind hrest ih =>
    have hmatch := (matches_of_find hfind).2
    have hnil : m.before = [] ∧ m.after = [] := by
      have hb := hmatch.before
      have ha := hmatch.after
      rw [hbefore] at hb
      rw [hafter] at ha
      exact ⟨hb, ha⟩
    have hpieces : m.pieces = [Piece.cut m.cut] := by simp [Found.pieces, hnil]
    have htext : m.text = m.cut := by simp [Found.text, hnil]
    rw [hpieces] at hps
    cases before with
    | nil => simp at hps
    | cons piece before =>
      obtain ⟨rfl, htail⟩ := List.cons.inj hps
      simpa [htext, lastOf_append] using ih htail

end Scan

end Pattern

end Py
