import Sectum.Evidence.Rekor

/-! The root recomputed from an inclusion proof is the one that the recursion over the tree leads to:
a path of the tree is accepted, and what is accepted is a leaf unless the hash collides. -/

namespace Sectum

open Py Merkle

namespace Rekor

section Fold

variable [Hashlib]

omit [Hashlib] in
theorem zip_range {α : Type} (f : Nat → Side) (values : List α) (default : α) {n : Nat}
    (h : values.length = n) :
    ((List.range n).map f).zip values = (List.range n).map fun i => (f i, values.getD i default) := by
  apply List.ext_getElem
  · simp [h]
  · intro i hi hi'
    have hlt : i < values.length := by simpa [h] using hi'
    simp [List.getD_eq_getElem?_getD, List.getElem?_eq_getElem hlt]

/-- The loop over the inner nodes climbs their sides. -/
theorem foldInner_eq (index : Nat) (hashes : List Bytes) (leaf : Bytes) {inner : Nat}
    (h : hashes.length = inner) : foldInner index inner hashes leaf =
      climb Hashlib.sha256 (((List.range inner).map (bitSide index)).zip hashes) leaf := by
  rw [zip_range (bitSide index) hashes [] h, climb, List.foldl_map, foldInner]
  congr 1
  funext node i
  unfold bitSide
  split <;> rfl

theorem foldInner_take (index inner : Nat) (hashes : List Bytes) (leaf : Bytes) :
    foldInner index inner (hashes.take inner) leaf = foldInner index inner hashes leaf := by
  unfold foldInner
  apply List.foldl_ext
  intro node i hi
  have hlt : i < inner := List.mem_range.mp hi
  rw [List.getD_eq_getElem?_getD, List.getD_eq_getElem?_getD, List.getElem?_take_of_lt hlt]

/-- The loop over the border climbs left siblings. -/
theorem foldBorder_eq (siblings : List Bytes) (node : Bytes) : foldBorder siblings node =
    climb Hashlib.sha256 ((List.replicate siblings.length .left).zip siblings) node := by
  induction siblings generalizing node with
  | nil => rfl
  | cons sibling siblings ih => exact ih _

/-- The two loops together climb the sides of the recursion. -/
theorem fold_eq {index size : Nat} (hindex : index < size) {hashes : List Bytes} (leaf : Bytes)
    (h : hashes.length = (index ^^^ (size - 1)).size +
      bitCount (index >>> (index ^^^ (size - 1)).size)) :
    foldBorder (hashes.drop (index ^^^ (size - 1)).size)
        (foldInner index (index ^^^ (size - 1)).size hashes leaf) =
      climb Hashlib.sha256 ((sides index size).zip hashes) leaf := by
  have hinner : (hashes.take (index ^^^ (size - 1)).size).length = (index ^^^ (size - 1)).size := by
    rw [List.length_take]
    omega
  have hborder : (hashes.drop (index ^^^ (size - 1)).size).length =
      bitCount (index >>> (index ^^^ (size - 1)).size) := by
    rw [List.length_drop]
    omega
  rw [← foldInner_take, foldBorder_eq, foldInner_eq index _ leaf hinner, hborder, sides_eq hindex]
  conv_rhs => rw [← List.take_append_drop (index ^^^ (size - 1)).size hashes]
  rw [List.zip_append (by rw [hinner, List.length_map, List.length_range])]
  exact (List.foldl_append ..).symm

end Fold

theorem sides_length {index size : Nat} (h : index < size) : (sides index size).length =
    (index ^^^ (size - 1)).size + bitCount (index >>> (index ^^^ (size - 1)).size) := by
  rw [sides_eq h, List.length_append, List.length_map, List.length_range, List.length_replicate]

section Stored

variable [Hashlib]

/-- What a proof of a leaf holds of the tree. -/
def inclusionProof (index : Nat) (leaves : List Bytes) : Json :=
  Json.object [("leaf_index", .int index), ("tree_size", .int leaves.length),
    ("hashes", .arr ((auditPath Hashlib.sha256 index leaves).map Json.base64))]

theorem auditHashes_inclusionProof (index : Nat) (leaves : List Bytes) :
    auditHashes (inclusionProof index leaves) = .ok (auditPath Hashlib.sha256 index leaves) := by
  have hdecoded : ∀ hashes : List Bytes,
      (hashes.map Json.base64).mapM (Json.b64decode false) = .ok hashes := by
    intro hashes
    rw [mapM_eq_ok, List.forall₂_map_left_iff, List.forall₂_same]
    exact fun hash _ => Json.b64decode_base64 false hash
  rw [auditHashes, inclusionProof, Json.item_object]
  exact hdecoded _

end Stored

section Root

variable [Hashlib] [Unicode] [Decimals] {proof bodyB64 : Json}

/-- When a proof is accepted, and what is then returned. -/
theorem rootFromInclusionProof_eq_ok {root : Bytes} :
    rootFromInclusionProof proof bodyB64 = .ok root ↔
      ∃ (index size : Nat) (hashes : List Bytes) (body : Bytes),
        leafIndex proof = .ok index ∧ treeSize proof = .ok size ∧
          auditHashes proof = .ok hashes ∧ bodyB64.b64decode false = .ok body ∧ index < size ∧
            hashes.length = (sides index size).length ∧
              climb Hashlib.sha256 ((sides index size).zip hashes) (hashLeaf body) = root := by
  unfold rootFromInclusionProof
  rw [bind_eq_ok]
  constructor
  · rintro ⟨⟨leafIndex', treeSize', hashes, leaf⟩, hread, hroot⟩
    obtain ⟨i, hindex, hread⟩ := bind_eq_ok.mp (guarded_eq_ok.mp hread)
    obtain ⟨n, hsize, hread⟩ := bind_eq_ok.mp hread
    obtain ⟨hashes', hhashes, hread⟩ := bind_eq_ok.mp hread
    obtain ⟨body, hbody, hread⟩ := bind_eq_ok.mp hread
    obtain ⟨rfl, rfl, rfl, rfl⟩ : i = leafIndex' ∧ n = treeSize' ∧ hashes' = hashes ∧
        hashLeaf body = leaf := by
      simpa [pure, Except.pure] using hread
    dsimp only at hroot
    split at hroot
    · cases hroot
    · rename_i hrange
      obtain ⟨hlow, hhigh⟩ := Classical.not_not.mp hrange
      obtain ⟨index, rfl⟩ := Int.eq_ofNat_of_zero_le hlow
      obtain ⟨size, rfl⟩ := Int.eq_ofNat_of_zero_le (hlow.trans hhigh.le)
      have hlt : index < size := by exact_mod_cast hhigh
      split at hroot
      · cases hroot
      · rename_i hcount
        have hlength := Classical.not_not.mp hcount
        refine ⟨index, size, hashes', body, hindex, hsize, hhashes, hbody, hlt, ?_, ?_⟩
        · rw [sides_length hlt]
          exact hlength
        · rw [← fold_eq hlt (hashLeaf body) hlength]
          exact Except.ok.inj hroot
  · rintro ⟨index, size, hashes, body, hindex, hsize, hhashes, hbody, hlt, hlength, hroot⟩
    rw [sides_length hlt] at hlength
    refine ⟨(index, size, hashes, hashLeaf body), guarded_eq_ok.mpr ?_, ?_⟩
    · rw [hindex, hsize, hhashes, hbody]
      rfl
    · have hrange : 0 ≤ (index : Int) ∧ (index : Int) < size := by omega
      dsimp only
      rw [if_neg (not_not.mpr hrange), Int.toNat_natCast, Int.toNat_natCast,
        if_neg (not_not.mpr hlength), fold_eq hlt (hashLeaf body) hlength, hroot]

/-- A proof that leads to the root of a tree is of a leaf of it, or the hash collides between what was
hashed for the proof and what is hashed for the tree. -/
theorem rootFromInclusionProof_sound {leaves : List Bytes}
    (hsize : treeSize proof = .ok leaves.length)
    (h : rootFromInclusionProof proof bodyB64 = .ok (treeHash Hashlib.sha256 leaves)) :
    ∃ (index : Nat) (hashes : List Bytes) (body : Bytes),
      leafIndex proof = .ok index ∧ auditHashes proof = .ok hashes ∧
        bodyB64.b64decode false = .ok body ∧
          (leaves[index]? = some body ∨
            Collides Hashlib.sha256
              ((0 :: body) ::
                climbed Hashlib.sha256 ((sides index leaves.length).zip hashes) (hashLeaf body))
              (hashed Hashlib.sha256 leaves)) := by
  obtain ⟨index, size, hashes, body, hindex, hsize', hhashes, hbody, hlt, hlength, hroot⟩ :=
    rootFromInclusionProof_eq_ok.mp h
  obtain rfl : leaves.length = size := by
    have heq := Except.ok.inj (hsize.symm.trans hsize')
    exact_mod_cast heq
  have hne : leaves ≠ [] := by
    rintro rfl
    exact absurd hlt (Nat.not_lt_zero index)
  exact ⟨index, hashes, body, hindex, hhashes, hbody,
    climb_sound Hashlib.sha256_length hne hlt hlength hroot⟩

end Root

section Sample

attribute [local instance] Hashlib.real Unicode.ascii Decimals.ascii

/-- The proof of the second of three leaves, the path of which goes left and then right. -/
theorem rootFromInclusionProof_sound_second :
    ∃ (index : Nat) (hashes : List Bytes) (body : Bytes),
      leafIndex (inclusionProof 1 [[1], [2], [3]]) = .ok index ∧
        auditHashes (inclusionProof 1 [[1], [2], [3]]) = .ok hashes ∧
          (Json.base64 [2]).b64decode false = .ok body ∧
            ([[1], [2], [3]][index]? = some body ∨
              Collides Hashlib.sha256
                ((0 :: body) :: climbed Hashlib.sha256 ((sides index 3).zip hashes) (hashLeaf body))
                (hashed Hashlib.sha256 [[1], [2], [3]])) := by
  apply rootFromInclusionProof_sound
  · rfl
  · have hne : [[1], [2], [3]] ≠ ([] : List Bytes) := List.cons_ne_nil _ _
    have hclimb : climb Hashlib.sha256
        ((sides 1 3).zip (auditPath Hashlib.sha256 1 [[1], [2], [3]])) (hashLeaf [2]) =
          treeHash Hashlib.sha256 [[1], [2], [3]] := climb_auditPath Hashlib.sha256 hne rfl
    exact rootFromInclusionProof_eq_ok.mpr ⟨1, 3, _, [2], rfl, rfl, auditHashes_inclusionProof 1 _,
      Json.b64decode_base64 false [2], by decide, auditPath_length Hashlib.sha256 hne 1, hclimb⟩

end Sample

section Path

variable [Hashlib] [Unicode] [Decimals] {proof bodyB64 : Json}

/-- The audit path of a leaf is accepted, and leads to the root of the tree. -/
theorem rootFromInclusionProof_complete {leaves : List Bytes} {index : Nat} {leaf : Bytes}
    (hleaf : leaves[index]? = some leaf) (hindex : leafIndex proof = .ok index)
    (hsize : treeSize proof = .ok leaves.length)
    (hhashes : auditHashes proof = .ok (auditPath Hashlib.sha256 index leaves))
    (hbody : bodyB64.b64decode false = .ok leaf) :
    rootFromInclusionProof proof bodyB64 = .ok (treeHash Hashlib.sha256 leaves) := by
  have hlt : index < leaves.length := (List.getElem?_eq_some_iff.mp hleaf).1
  have hne : leaves ≠ [] := List.ne_nil_of_length_pos (by omega)
  exact rootFromInclusionProof_eq_ok.mpr ⟨index, leaves.length, _, leaf, hindex, hsize, hhashes,
    hbody, hlt, auditPath_length Hashlib.sha256 hne index,
    climb_auditPath Hashlib.sha256 hne hleaf⟩

end Path

section Instances

attribute [local instance] Hashlib.real Unicode.ascii Decimals.ascii

theorem rootFromInclusionProof_second :
    rootFromInclusionProof (inclusionProof 1 [[1], [2], [3]]) (Json.base64 [2]) =
      .ok (treeHash Hashlib.sha256 [[1], [2], [3]]) :=
  rootFromInclusionProof_complete rfl rfl rfl (auditHashes_inclusionProof 1 _)
    (Json.b64decode_base64 false [2])

end Instances

end Rekor

end Sectum
