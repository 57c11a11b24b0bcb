import Mathlib.Logic.Encodable.Basic
import Mathlib.Logic.Equiv.List
import Sectum.Lib.JsonBytes
import Sectum.Lib.Raise

/-! `zipfile`: archives as the lists of their members. -/

namespace Py

/-- The exceptions of `zipfile`: of what is no archive, of a member that is encrypted, of one in a
compression method that is not supported, and of a stream that is damaged. -/
inductive ZipRaised
  | badZipFile
  | runtimeError
  | notImplementedError
  | zlibError
  | eofError
  | library (e : Exn)
  deriving DecidableEq, Repr

/-- A member of an archive: what reading it returns or raises. -/
structure Member where
  name : Units
  content : Except ZipRaised Bytes

abbrev Archive := List Member

namespace Archive

/-- `archive.namelist()`. -/
def namelist (archive : Archive) : List Units := archive.map Member.name

/-- `archive.read(name)`; of members with one name it is the last that counts. -/
def read (archive : Archive) (name : Units) : Except ZipRaised Bytes :=
  match archive.reverse.find? fun member => member.name = name with
  | some member => member.content
  | none => .error (.library .keyError)

/-- `{name: archive.read(name) for name in names}`, of distinct names. -/
def readAll (archive : Archive) (names : List Units) : Except ZipRaised (List (Units × Bytes)) :=
  names.mapM fun name => (archive.read name).map fun content => (name, content)

theorem read_of_mem {archive : Archive} (hnames : archive.namelist.Nodup) {member : Member}
    (h : member ∈ archive) : archive.read member.name = member.content := by
  unfold read
  cases hfind : archive.reverse.find? fun other => other.name = member.name with
  | none =>
    have hne := List.find?_eq_none.mp hfind member (List.mem_reverse.mpr h)
    simp at hne
  | some other =>
    have hname : other.name = member.name := by simpa using List.find?_some hfind
    have hother : other ∈ archive := List.mem_reverse.mp (List.mem_of_find?_eq_some hfind)
    rw [List.inj_on_of_nodup_map hnames hother h hname]

theorem exists_of_read {archive : Archive} {name : Units} {content : Bytes}
    (h : archive.read name = .ok content) : ⟨name, .ok content⟩ ∈ archive := by
  unfold read at h
  split at h
  · rename_i member hfind
    have hname : member.name = name := by simpa using List.find?_some hfind
    have hmem : member ∈ archive := List.mem_reverse.mp (List.mem_of_find?_eq_some hfind)
    rw [← hname, ← h]
    exact hmem
  · cases h

/-- What was read is the members of the names, in the order of the names. -/
theorem readAll_eq_ok {archive : Archive} {names : List Units} {members : List (Units × Bytes)} :
    archive.readAll names = .ok members ↔
      members.map Prod.fst = names ∧ ∀ member ∈ members, archive.read member.1 = .ok member.2 := by
  unfold readAll
  rw [mapM_eq_ok]
  constructor
  · intro h
    induction h with
    | nil => exact ⟨rfl, nofun⟩
    | cons hx _ ih =>
      obtain ⟨content, hread, rfl⟩ := map_eq_ok.mp hx
      exact ⟨by rw [List.map_cons, ih.1], List.forall_mem_cons.mpr ⟨hread, ih.2⟩⟩
  · rintro ⟨rfl, h⟩
    induction members with
    | nil => exact .nil
    | cons member members ih =>
      obtain ⟨hmember, hmembers⟩ := List.forall_mem_cons.mp h
      exact .cons (map_eq_ok.mpr ⟨member.2, hmember, rfl⟩) (ih hmembers)

/-- The archive of some members. -/
def ofMembers (members : List (Units × Bytes)) : Archive :=
  members.map fun member => ⟨member.1, .ok member.2⟩

theorem namelist_ofMembers (members : List (Units × Bytes)) :
    (ofMembers members).namelist = members.map Prod.fst := by
  unfold ofMembers namelist
  rw [List.map_map]
  rfl

theorem read_ofMembers {members : List (Units × Bytes)} (h : (members.map Prod.fst).Nodup)
    {member : Units × Bytes} (hmem : member ∈ members) :
    (ofMembers members).read member.1 = .ok member.2 := by
  have hnames : (ofMembers members).namelist.Nodup := by rwa [namelist_ofMembers]
  exact read_of_mem hnames (List.mem_map_of_mem hmem)

end Archive

/-- `zipfile.ZipFile(io.BytesIO(data))`.  Nothing is assumed of what it makes of bytes. -/
class Zipfile where
  openArchive : Bytes → Except ZipRaised Archive

/-- The archive that `writestr` makes of some members, as which `zipfile` opens it again: it is only
assumed that it does so where the names are distinct, ASCII, and short enough for their field. -/
class ZipWriter extends Zipfile where
  write : List (Units × Bytes) → Bytes
  open_write : ∀ {members : List (Units × Bytes)}, (members.map Prod.fst).Nodup →
    (∀ member ∈ members, IsAscii member.1 ∧ member.1.length < 0x10000) →
      openArchive (write members) = .ok (.ofMembers members)

section Counted

instance encodableUInt8 : Encodable UInt8 :=
  Encodable.ofLeftInverse UInt8.toNat Nat.toUInt8 fun byte => by simp

instance encodableUInt16 : Encodable UInt16 :=
  Encodable.ofLeftInverse UInt16.toNat Nat.toUInt16 fun u => by simp

/-- An archive that tells its members by its length. -/
@[reducible] def ZipWriter.counted : ZipWriter where
  write members := List.replicate (Encodable.encode members) 0
  openArchive data :=
    match Encodable.decode (α := List (Units × Bytes)) data.length with
    | some members => .ok (.ofMembers members)
    | none => .error .badZipFile
  open_write _ _ := by rw [List.length_replicate, Encodable.encodek]

end Counted

end Py
