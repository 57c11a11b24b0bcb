import Mathlib.Data.Nat.Bitwise
import Mathlib.Data.Nat.Log
import Mathlib.Data.Nat.Size
import Sectum.Lib.Sha256

/-! The Merkle tree of a list of leaves as RFC 6962 defines it, over any hash function: its root, the
audit path of a leaf, and what recomputing the root from a path shows.

A leaf is hashed behind the byte 0 and a node behind the byte 1.  A tree of `n` leaves splits at the
largest power of two below `n`.  A path runs from the leaf up. -/

namespace Merkle

open Py (Bytes)

/-- The largest power of two below `n`, for `n ≥ 2`. -/
def split (n : Nat) : Nat := 2 ^ Nat.log 2 (n - 1)

theorem split_pos (n : Nat) : 0 < split n := Nat.two_pow_pos _

theorem split_lt {n : Nat} (h : 2 ≤ n) : split n < n := by
  have hle : split n ≤ n - 1 := Nat.pow_log_le_self 2 (by omega)
  omega

theorem lt_two_mul_split {n : Nat} (h : 2 ≤ n) : n ≤ 2 * split n := by
  have hlt : n - 1 < 2 ^ (Nat.log 2 (n - 1) + 1) := Nat.lt_pow_succ_log_self (by decide) _
  unfold split
  omega

/-- Which side of a node its sibling is on. -/
inductive Side
  | left
  | right
  deriving DecidableEq, Repr

section Hash

variable (hash : Bytes → Bytes)

/-- `MTH`. -/
def treeHash (leaves : List Bytes) : Bytes :=
  if _two : 2 ≤ leaves.length then
    hash (1 :: (treeHash (leaves.take (split leaves.length)) ++
      treeHash (leaves.drop (split leaves.length))))
  else
    match leaves with
    | [] => hash []
    | leaf :: _ => hash (0 :: leaf)
termination_by leaves.length
decreasing_by
  · have := split_lt _two
    rw [List.length_take]
    omega
  · have := split_pos leaves.length
    rw [List.length_drop]
    omega

/-- `PATH`: the siblings on the way from a leaf to the root. -/
def auditPath (index : Nat) (leaves : List Bytes) : List Bytes :=
  if _two : 2 ≤ leaves.length then
    let k := split leaves.length
    if index < k then auditPath index (leaves.take k) ++ [treeHash hash (leaves.drop k)]
    else auditPath (index - k) (leaves.drop k) ++ [treeHash hash (leaves.take k)]
  else []
termination_by leaves.length
decreasing_by
  · have := split_lt _two
    rw [List.length_take]
    omega
  · have := split_pos leaves.length
    rw [List.length_drop]
    omega

/-- The byte strings that are hashed for the root of a tree. -/
def hashed (leaves : List Bytes) : List Bytes :=
  if _two : 2 ≤ leaves.length then
    let k := split leaves.length
    (1 :: (treeHash hash (leaves.take k) ++ treeHash hash (leaves.drop k))) ::
      (hashed (leaves.take k) ++ hashed (leaves.drop k))
  else
    match leaves with
    | [] => [[]]
    | leaf :: _ => [0 :: leaf]
termination_by leaves.length
decreasing_by
  · have := split_lt _two
    rw [List.length_take]
    omega
  · have := split_pos leaves.length
    rw [List.length_drop]
    omega

/-- What is hashed for a node, from its sibling and that of a child. -/
def joined : Side × Bytes → Bytes → Bytes
  | (.right, sibling), node => 1 :: (node ++ sibling)
  | (.left, sibling), node => 1 :: (sibling ++ node)

/-- The root that a path of siblings leads to. -/
def climb (path : List (Side × Bytes)) (node : Bytes) : Bytes :=
  path.foldl (fun node step => hash (joined step node)) node

/-- The byte strings that are hashed on the way. -/
def climbed : List (Side × Bytes) → Bytes → List Bytes
  | [], _ => []
  | step :: path, node => joined step node :: climbed path (hash (joined step node))

end Hash

/-- The sides that the siblings of a leaf are on, from the leaf up, in a tree of `n` leaves. -/
def sides (index n : Nat) : List Side :=
  if _two : 2 ≤ n then
    if index < split n then sides index (split n) ++ [.right]
    else sides (index - split n) (n - split n) ++ [.left]
  else []
termination_by n
decreasing_by
  · exact split_lt _two
  · have := split_pos n
    omega

section Equations

theorem sides_leaf (index : Nat) {n : Nat} (h : ¬2 ≤ n) : sides index n = [] := by
  rw [sides, dif_neg h]

theorem sides_left {index n : Nat} (h : 2 ≤ n) (hindex : index < split n) :
    sides index n = sides index (split n) ++ [.right] := by
  rw [sides, dif_pos h, if_pos hindex]

theorem sides_right {index n : Nat} (h : 2 ≤ n) (hindex : ¬index < split n) :
    sides index n = sides (index - split n) (n - split n) ++ [.left] := by
  rw [sides, dif_pos h, if_neg hindex]

variable (hash : Bytes → Bytes) {leaves : List Bytes}

theorem treeHash_leaf (leaf : Bytes) : treeHash hash [leaf] = hash (0 :: leaf) := by
  rw [treeHash, dif_neg (by simp)]

theorem treeHash_split (h : 2 ≤ leaves.length) :
    treeHash hash leaves = hash (1 :: (treeHash hash (leaves.take (split leaves.length)) ++
      treeHash hash (leaves.drop (split leaves.length)))) := by
  rw [treeHash, dif_pos h]

theorem hashed_leaf (leaf : Bytes) : hashed hash [leaf] = [0 :: leaf] := by
  rw [hashed, dif_neg (by simp)]

theorem hashed_split (h : 2 ≤ leaves.length) :
    hashed hash leaves = (1 :: (treeHash hash (leaves.take (split leaves.length)) ++
      treeHash hash (leaves.drop (split leaves.length)))) ::
        (hashed hash (leaves.take (split leaves.length)) ++
          hashed hash (leaves.drop (split leaves.length))) := by
  rw [hashed, dif_pos h]

theorem auditPath_leaf (index : Nat) (leaf : Bytes) : auditPath hash index [leaf] = [] := by
  rw [auditPath, dif_neg (by simp)]

theorem auditPath_left {index : Nat} (h : 2 ≤ leaves.length) (hindex : index < split leaves.length) :
    auditPath hash index leaves = auditPath hash index (leaves.take (split leaves.length)) ++
      [treeHash hash (leaves.drop (split leaves.length))] := by
  rw [auditPath, dif_pos h, if_pos hindex]

theorem auditPath_right {index : Nat} (h : 2 ≤ leaves.length)
    (hindex : ¬index < split leaves.length) :
    auditPath hash index leaves =
      auditPath hash (index - split leaves.length) (leaves.drop (split leaves.length)) ++
        [treeHash hash (leaves.take (split leaves.length))] := by
  rw [auditPath, dif_pos h, if_neg hindex]

theorem climb_append (path : List (Side × Bytes)) (step : Side × Bytes) (node : Bytes) :
    climb hash (path ++ [step]) node = hash (joined step (climb hash path node)) := by
  unfold climb
  rw [List.foldl_append]
  rfl

theorem climbed_append (path : List (Side × Bytes)) (step : Side × Bytes) (node : Bytes) :
    climbed hash (path ++ [step]) node =
      climbed hash path node ++ [joined step (climb hash path node)] := by
  induction path generalizing node with
  | nil => rfl
  | cons first path ih =>
    rw [List.cons_append, climbed, ih]
    rfl

/-- Every tree has the size of a hash. -/
theorem treeHash_length {size : Nat} (hsize : ∀ data, (hash data).length = size)
    (leaves : List Bytes) : (treeHash hash leaves).length = size := by
  rw [treeHash]
  split
  · exact hsize _
  · split
    · exact hsize _
    · exact hsize _

theorem climb_length {size : Nat} (hsize : ∀ data, (hash data).length = size)
    (path : List (Side × Bytes)) {node : Bytes} (hnode : node.length = size) :
    (climb hash path node).length = size := by
  induction path generalizing node with
  | nil => exact hnode
  | cons step path ih => exact ih (hsize _)

end Equations

section Induction

variable {leaves : List Bytes}

theorem length_take_split (h : 2 ≤ leaves.length) :
    (leaves.take (split leaves.length)).length = split leaves.length := by
  have := split_lt h
  rw [List.length_take]
  omega

theorem take_split_ne (h : 2 ≤ leaves.length) : leaves.take (split leaves.length) ≠ [] := by
  have := split_pos leaves.length
  exact List.ne_nil_of_length_pos (by rw [length_take_split h]; omega)

theorem drop_split_ne (h : 2 ≤ leaves.length) : leaves.drop (split leaves.length) ≠ [] := by
  have := split_lt h
  exact List.ne_nil_of_length_pos (by rw [List.length_drop]; omega)

/-- A property of every tree: of a leaf, and of a tree whose two subtrees have it. -/
theorem tree_induction {motive : (leaves : List Bytes) → leaves ≠ [] → Prop}
    (leaf : ∀ leaf, motive [leaf] (List.cons_ne_nil leaf []))
    (node : ∀ (leaves : List Bytes) (hne : leaves ≠ []) (h : 2 ≤ leaves.length),
      motive (leaves.take (split leaves.length)) (take_split_ne h) →
      motive (leaves.drop (split leaves.length)) (drop_split_ne h) → motive leaves hne)
    (leaves : List Bytes) (hne : leaves ≠ []) : motive leaves hne := by
  induction hn : leaves.length using Nat.strong_induction_on generalizing leaves with
  | _ n ih =>
    subst hn
    match leaves, hne with
    | [only], _ => exact leaf only
    | first :: second :: rest, hne =>
      have h : 2 ≤ (first :: second :: rest).length := by simp
      have hlt := split_lt h
      have hpos := split_pos (first :: second :: rest).length
      refine node _ hne h (ih _ ?_ _ _ rfl) (ih _ ?_ _ _ rfl)
      · rw [length_take_split h]
        exact hlt
      · rw [List.length_drop]
        omega

end Induction

section Paths

variable (hash : Bytes → Bytes)

/-- A path has one sibling for each side. -/
theorem auditPath_length {leaves : List Bytes} (hne : leaves ≠ []) (index : Nat) :
    (auditPath hash index leaves).length = (sides index leaves.length).length := by
  induction leaves, hne using tree_induction generalizing index with
  | leaf leaf => rw [auditPath_leaf, sides_leaf index (by simp)]; rfl
  | node leaves hne h ihtake ihdrop =>
    by_cases hindex : index < split leaves.length
    · rw [auditPath_left hash h hindex, sides_left h hindex, List.length_append, List.length_append,
        ihtake, length_take_split h]
      rfl
    · rw [auditPath_right hash h hindex, sides_right h hindex, List.length_append,
        List.length_append, ihdrop, List.length_drop]
      rfl

/-- The path of a leaf leads from it to the root. -/
theorem climb_auditPath {leaves : List Bytes} (hne : leaves ≠ []) {index : Nat} {leaf : Bytes}
    (hleaf : leaves[index]? = some leaf) :
    climb hash ((sides index leaves.length).zip (auditPath hash index leaves)) (hash (0 :: leaf)) =
      treeHash hash leaves := by
  induction leaves, hne using tree_induction generalizing index with
  | leaf only =>
    obtain ⟨rfl, rfl⟩ : index = 0 ∧ only = leaf := by
      cases index <;> simp_all
    rw [treeHash_leaf, auditPath_leaf, List.zip_nil_right]
    rfl
  | node leaves hne h ihtake ihdrop =>
    rw [treeHash_split hash h]
    by_cases hindex : index < split leaves.length
    · have hlength := auditPath_length hash (take_split_ne h) index
      rw [length_take_split h] at ihtake hlength
      rw [auditPath_left hash h hindex, sides_left h hindex, List.zip_append hlength.symm,
        List.zip_cons_cons, List.zip_nil_right, climb_append,
        ihtake (by rwa [List.getElem?_take_of_lt hindex])]
      rfl
    · have hlength := auditPath_length hash (drop_split_ne h) (index - split leaves.length)
      rw [List.length_drop] at ihdrop hlength
      rw [auditPath_right hash h hindex, sides_right h hindex, List.zip_append hlength.symm,
        List.zip_cons_cons, List.zip_nil_right, climb_append,
        ihdrop (by rwa [List.getElem?_drop, Nat.add_sub_cancel' (Nat.le_of_not_lt hindex)])]
      rfl

/-- Two distinct byte strings with one hash, of which one is among `xs` and the other among `ys`. -/
def Collides (xs ys : List Bytes) : Prop := ∃ x ∈ xs, ∃ y ∈ ys, x ≠ y ∧ hash x = hash y

variable {hash}

theorem Collides.mono {xs xs' ys ys' : List Bytes} (h : Collides hash xs ys) (hxs : xs ⊆ xs')
    (hys : ys ⊆ ys') : Collides hash xs' ys' := by
  obtain ⟨x, hx, y, hy, hne, heq⟩ := h
  exact ⟨x, hxs hx, y, hys hy, hne, heq⟩

variable {size : Nat} (hsize : ∀ data, (hash data).length = size)
include hsize

omit hsize in
/-- A node that hashes to that of a tree has its children, or it collides with it. -/
theorem joined_sound {side : Side} {sibling node left right : Bytes}
    (hleft : node.length = left.length) (hright : node.length = right.length)
    (h : hash (joined (side, sibling) node) = hash (1 :: (left ++ right))) {xs ys : List Bytes} :
    (match side with
      | .right => node = left
      | .left => node = right) ∨
      Collides hash (xs ++ [joined (side, sibling) node]) ((1 :: (left ++ right)) :: ys) := by
  by_cases heq : joined (side, sibling) node = 1 :: (left ++ right)
  · left
    cases side with
    | right => exact (List.append_inj (List.cons.inj heq).2 hleft).1
    | left => exact (List.append_inj' (List.cons.inj heq).2 hright).2
  · exact Or.inr ⟨_, List.mem_append_right _ (List.mem_singleton_self _), _, List.mem_cons_self,
      heq, h⟩

/-- A path of the right length, whatever its siblings, that leads from a body to the root of a tree:
the body is the leaf, or a collision shows among what was hashed. -/
theorem climb_sound {leaves : List Bytes} (hne : leaves ≠ []) {index : Nat}
    (hindex : index < leaves.length) {body : Bytes} {siblings : List Bytes}
    (hlength : siblings.length = (sides index leaves.length).length)
    (hroot : climb hash ((sides index leaves.length).zip siblings) (hash (0 :: body)) =
      treeHash hash leaves) :
    leaves[index]? = some body ∨
      Collides hash ((0 :: body) :: climbed hash ((sides index leaves.length).zip siblings)
        (hash (0 :: body))) (hashed hash leaves) := by
  induction leaves, hne using tree_induction generalizing index siblings with
  | leaf only =>
    obtain rfl : index = 0 := by simpa using hindex
    rw [sides_leaf 0 (by simp), List.zip_nil_left, treeHash_leaf] at hroot
    by_cases heq : body = only
    · exact Or.inl (by rw [heq]; rfl)
    · refine Or.inr ⟨0 :: body, List.mem_cons_self, 0 :: only, ?_, ?_, hroot⟩
      · rw [hashed_leaf]
        exact List.mem_singleton_self _
      · exact fun h => heq (List.cons.inj h).2
  | node leaves hne h ihtake ihdrop =>
    rw [treeHash_split hash h] at hroot
    rw [hashed_split hash h]
    by_cases hleft : index < split leaves.length
    · rw [sides_left h hleft] at hlength hroot ⊢
      obtain rfl | ⟨path, last, rfl⟩ := List.eq_nil_or_concat' siblings
      · simp at hlength
      have hpath : path.length = (sides index (split leaves.length)).length := by
        simpa using hlength
      rw [List.zip_append hpath.symm, List.zip_cons_cons, List.zip_nil_right] at hroot ⊢
      rw [climb_append] at hroot
      rw [climbed_append, ← List.cons_append]
      have hnode := climb_length hash hsize ((sides index (split leaves.length)).zip path)
        (hsize (0 :: body))
      rcases joined_sound (hnode.trans (treeHash_length hash hsize _).symm)
        (hnode.trans (treeHash_length hash hsize _).symm) hroot with heq | hcollides
      · rw [length_take_split h] at ihtake
        rcases ihtake hleft hpath heq with hleaf | hcollides
        · exact Or.inl (by rwa [List.getElem?_take_of_lt hleft] at hleaf)
        · exact Or.inr (hcollides.mono (List.subset_append_left _ _)
            (List.subset_cons_of_subset _ (List.subset_append_left _ _)))
      · exact Or.inr hcollides
    · rw [sides_right h hleft] at hlength hroot ⊢
      obtain rfl | ⟨path, last, rfl⟩ := List.eq_nil_or_concat' siblings
      · simp at hlength
      have hpath : path.length =
          (sides (index - split leaves.length) (leaves.length - split leaves.length)).length := by
        simpa using hlength
      rw [List.zip_append hpath.symm, List.zip_cons_cons, List.zip_nil_right] at hroot ⊢
      rw [climb_append] at hroot
      rw [climbed_append, ← List.cons_append]
      have hnode := climb_length hash hsize
        ((sides (index - split leaves.length) (leaves.length - split leaves.length)).zip path)
        (hsize (0 :: body))
      rcases joined_sound (hnode.trans (treeHash_length hash hsize _).symm)
        (hnode.trans (treeHash_length hash hsize _).symm) hroot with heq | hcollides
      · rw [List.length_drop] at ihdrop
        rcases ihdrop (by omega) hpath heq with hleaf | hcollides
        · exact Or.inl (by
            rwa [List.getElem?_drop, Nat.add_sub_cancel' (Nat.le_of_not_lt hleft)] at hleaf)
        · exact Or.inr (hcollides.mono (List.subset_append_left _ _)
            (List.subset_cons_of_subset _ (List.subset_append_right _ _)))
      · exact Or.inr hcollides

end Paths

section Bits

/-- `bin(n).count("1")`. -/
def bitCount (n : Nat) : Nat := n.bits.count true

/-- Where the sibling of a node of a full tree is: a bit of the index says which child it is. -/
def bitSide (index level : Nat) : Side := if index.testBit level then .left else .right

theorem bitCount_bit (b : Bool) (n : Nat) : bitCount (Nat.bit b n) = bitCount n + b.toNat := by
  unfold bitCount
  by_cases h : n = 0 → b = true
  · rw [Nat.bits_append_bit n b h, List.count_cons]
    cases b <;> rfl
  · obtain ⟨rfl, hb⟩ := Classical.not_imp.mp h
    obtain rfl : b = false := by simpa using hb
    rfl

theorem bitCount_two_pow_add {a x : Nat} (h : x < 2 ^ a) :
    bitCount (2 ^ a + x) = bitCount x + 1 := by
  induction a generalizing x with
  | zero =>
    obtain rfl : x = 0 := by simpa using h
    rfl
  | succ a ih =>
    have hdiv : x / 2 < 2 ^ a := by
      rw [pow_succ] at h
      omega
    have hx : x = Nat.bit (x % 2 == 1) (x / 2) := by
      rw [Nat.bit_val]
      rcases Nat.mod_two_eq_zero_or_one x with hmod | hmod <;> simp [hmod] <;> omega
    have hsum : 2 ^ (a + 1) + x = Nat.bit (x % 2 == 1) (2 ^ a + x / 2) := by
      rw [Nat.bit_val, pow_succ]
      rcases Nat.mod_two_eq_zero_or_one x with hmod | hmod <;> simp [hmod] <;> omega
    rw [hsum, bitCount_bit, ih hdiv]
    conv_rhs => rw [hx, bitCount_bit]
    omega

theorem split_eq {n m : Nat} (hlo : 2 ^ m < n) (hhi : n ≤ 2 ^ (m + 1)) : split n = 2 ^ m := by
  have hlog : Nat.log 2 (n - 1) = m := Nat.log_eq_of_pow_le_of_lt_pow (by omega) (by omega)
  rw [split, hlog]

theorem testBit_top {m x : Nat} (h : x < 2 ^ m) : (2 ^ m + x).testBit m = true := by
  rw [Nat.testBit_two_pow_add_eq, Nat.testBit_lt_two_pow h]
  rfl

theorem bitSide_right {m x : Nat} (h : x < 2 ^ m) : bitSide x m = .right := by
  rw [bitSide, Nat.testBit_lt_two_pow h]
  rfl

theorem bitSide_left {m x : Nat} (h : x < 2 ^ m) : bitSide (2 ^ m + x) m = .left := by
  rw [bitSide, testBit_top h]
  rfl

theorem bitSide_add {m x level : Nat} (h : level < m) :
    bitSide (2 ^ m + x) level = bitSide x level := by
  unfold bitSide
  rw [Nat.testBit_two_pow_add_gt h]

/-- In a full tree every bit of the index is a side. -/
theorem sides_two_pow {m index : Nat} (h : index < 2 ^ m) :
    sides index (2 ^ m) = (List.range m).map (bitSide index) := by
  induction m generalizing index with
  | zero => exact sides_leaf index (by simp)
  | succ m ih =>
    have hpos := Nat.two_pow_pos m
    have htwo : 2 ≤ 2 ^ (m + 1) := by
      rw [pow_succ]
      omega
    have hsplit : split (2 ^ (m + 1)) = 2 ^ m := split_eq (by rw [pow_succ]; omega) le_rfl
    rw [List.range_succ, List.map_append, List.map_singleton]
    by_cases hleft : index < 2 ^ m
    · rw [sides_left htwo (by rwa [hsplit]), hsplit, ih hleft, bitSide_right hleft]
    · obtain ⟨rest, rfl⟩ := Nat.exists_eq_add_of_le (Nat.le_of_not_lt hleft)
      have hrest : rest < 2 ^ m := by
        rw [pow_succ] at h
        omega
      have hsize : 2 ^ (m + 1) - 2 ^ m = 2 ^ m := by
        rw [pow_succ]
        omega
      rw [sides_right htwo (by rwa [hsplit]), hsplit, hsize, Nat.add_sub_cancel_left, ih hrest,
        bitSide_left hrest]
      refine congrArg (· ++ [Side.left]) (List.map_congr_left fun level hlevel => ?_)
      exact (bitSide_add (List.mem_range.mp hlevel)).symm

theorem xor_two_pow_add {m x y : Nat} (hx : x < 2 ^ m) (hy : y < 2 ^ m) :
    (2 ^ m + x) ^^^ (2 ^ m + y) = x ^^^ y := by
  apply Nat.eq_of_testBit_eq
  intro level
  rw [Nat.testBit_xor, Nat.testBit_xor]
  rcases Nat.lt_trichotomy level m with hlevel | rfl | hlevel
  · rw [Nat.testBit_two_pow_add_gt hlevel, Nat.testBit_two_pow_add_gt hlevel]
  · rw [Nat.testBit_two_pow_add_eq, Nat.testBit_two_pow_add_eq]
    cases x.testBit level <;> cases y.testBit level <;> rfl
  · have hpow : 2 ^ (m + 1) ≤ 2 ^ level := Nat.pow_le_pow_right (by decide) hlevel
    rw [pow_succ] at hpow
    rw [Nat.testBit_lt_two_pow (by omega), Nat.testBit_lt_two_pow (by omega),
      Nat.testBit_lt_two_pow (by omega), Nat.testBit_lt_two_pow (by omega)]

/-- The decomposition of a path into inner nodes and the right border: the index and that of the last
leaf part at the top inner level, and above it every sibling is a left one that a bit of the index
stands for. -/
theorem sides_eq {index n : Nat} (h : index < n) :
    sides index n =
      (List.range (index ^^^ (n - 1)).size).map (bitSide index) ++
        List.replicate (bitCount (index >>> (index ^^^ (n - 1)).size)) .left := by
  induction n using Nat.strong_induction_on generalizing index with
  | _ n ih =>
    by_cases htwo : 2 ≤ n
    · obtain ⟨m, hlo, hhi⟩ : ∃ m, 2 ^ m < n ∧ n ≤ 2 ^ (m + 1) := by
        refine ⟨Nat.log 2 (n - 1), split_lt htwo, ?_⟩
        rw [pow_succ]
        have := lt_two_mul_split htwo
        unfold split at this
        omega
      have hsplit := split_eq hlo hhi
      obtain ⟨rest, rfl⟩ := Nat.exists_eq_add_of_lt hlo
      have hrest : rest < 2 ^ m := by
        rw [pow_succ] at hhi
        omega
      have hlast : 2 ^ m + rest + 1 - 1 = 2 ^ m + rest := rfl
      by_cases hleft : index < 2 ^ m
      · have hsize : (index ^^^ (2 ^ m + rest)).size = m + 1 := by
          apply le_antisymm
          · apply Nat.size_le.mpr
            apply Nat.xor_lt_two_pow <;> rw [pow_succ] <;> omega
          · apply Nat.lt_size.mpr
            apply Nat.ge_two_pow_of_testBit
            rw [Nat.testBit_xor, Nat.testBit_lt_two_pow hleft, testBit_top hrest]
            rfl
        have hhigh : index >>> (m + 1) = 0 := by
          rw [Nat.shiftRight_eq_div_pow, Nat.div_eq_of_lt]
          rw [pow_succ]
          omega
        rw [hlast, hsize, hhigh, sides_left htwo (by rwa [hsplit]), hsplit, sides_two_pow hleft,
          List.range_succ, List.map_append, List.map_singleton, bitSide_right hleft]
        exact (List.append_nil _).symm
      · obtain ⟨j, rfl⟩ := Nat.exists_eq_add_of_le (Nat.le_of_not_lt hleft)
        have hj : j < rest + 1 := by omega
        have hsize : (j ^^^ rest).size ≤ m :=
          Nat.size_le.mpr (Nat.xor_lt_two_pow (by omega) hrest)
        have hhigh : (2 ^ m + j) >>> (j ^^^ rest).size =
            2 ^ (m - (j ^^^ rest).size) + j >>> (j ^^^ rest).size := by
          rw [Nat.shiftRight_eq_div_pow, Nat.shiftRight_eq_div_pow]
          conv_lhs => rw [← Nat.add_sub_cancel' hsize, pow_add,
            Nat.mul_add_div (Nat.two_pow_pos _)]
        have hbound : j >>> (j ^^^ rest).size < 2 ^ (m - (j ^^^ rest).size) := by
          rw [Nat.shiftRight_eq_div_pow]
          apply Nat.div_lt_of_lt_mul
          rw [← pow_add, Nat.add_sub_cancel' hsize]
          omega
        have hih := ih (rest + 1) (by omega) hj
        rw [hlast, xor_two_pow_add (by omega) hrest, hhigh, bitCount_two_pow_add hbound,
          List.replicate_succ', sides_right htwo (by rwa [hsplit]), hsplit,
          Nat.add_sub_cancel_left, show 2 ^ m + rest + 1 - 2 ^ m = rest + 1 by omega, hih,
          List.append_assoc]
        refine congrArg (· ++ _) (List.map_congr_left fun level hlevel => ?_)
        exact (bitSide_add (lt_of_lt_of_le (List.mem_range.mp hlevel) hsize)).symm
    · obtain rfl : n = 1 := by omega
      obtain rfl : index = 0 := by omega
      rw [sides_leaf 0 (by omega)]
      rfl

end Bits

end Merkle
