import Sectum.Evidence.BundleSound
import Sectum.Spec.DumpSound

/-! A bundle that was built passes exactly when its pack verifies alone and what goes with it binds the
pack; and a manifest fixes the members of the bundles that pass with it. -/

namespace Sectum

open Py JsonText

section Built

theorem keys_nodup (members : Dict Units Bytes) : (members.items.map Prod.fst).Nodup := by
  rw [← Dict.keys_eq_items]
  exact members.nodupKeys

theorem payload_perm (members : Dict Units Bytes) (manifest : Bytes) :
    (payload members manifest).Perm (members.items ++ [(manifestMember, manifest)]) :=
  List.perm_insertionSort _ _

theorem written_nodup {members : Dict Units Bytes} {manifest : Bytes}
    {written : List (Units × Bytes)}
    (hwritten : written.Perm (members.items ++ [(manifestMember, manifest)]))
    (h : manifestMember ∉ members) : (written.map Prod.fst).Nodup := by
  rw [(hwritten.map Prod.fst).nodup_iff, List.map_append]
  refine (keys_nodup members).append (List.nodup_singleton _) ?_
  rw [← Dict.keys_eq_items]
  simpa [AList.mem_keys] using h

variable [Hashlib] [FloatText]

theorem bundleManifest_wellFormed (members : Dict Units Bytes) :
    (bundleManifest members).WellFormed := by
  apply Json.WellFormed.object
  · show ["evidence", "members"].Nodup
    decide
  · simp only [List.forall_mem_cons]
    refine ⟨.str _, .obj _ ?_ ?_, nofun⟩
    · rw [List.map_map]
      exact keys_nodup members
    · intro entry hentry
      obtain ⟨member, -, rfl⟩ := List.mem_map.mp hentry
      exact .str _

/-- The digests that the manifest of a bundle lists are the ones of its members. -/
theorem manifestDigests_bundleManifest [Unicode] (members : Dict Units Bytes) :
    ∃ digests, manifestDigests (bundleManifest members).sorted = .ok digests ∧
      ∀ entry, entry ∈ digests ↔
        ∃ member ∈ members.items, (member.1, Json.text (hexdigest member.2)) = entry := by
  have hw := bundleManifest_wellFormed members
  have hevidence : (bundleManifest members).sorted.get "evidence" = some (.str evidenceMember) := by
    rw [hw.get_sorted, bundleManifest, Json.get_object]
    rfl
  have hmembers : (bundleManifest members).sorted.get "members" = some (Json.sorted (.obj
      (members.items.map fun member => (member.1, .text (hexdigest member.2))))) := by
    rw [hw.get_sorted, bundleManifest, Json.get_object]
    rfl
  obtain ⟨fields, hfields⟩ : ∃ fields, (bundleManifest members).sorted = .obj fields := ⟨_, rfl⟩
  refine ⟨((members.items.map fun member => (member.1, Json.text (hexdigest member.2))).map
    Json.sortedEntry).insertionSort Json.keyLE, ?_, fun entry => ?_⟩
  · rw [Json.sorted, Json.sortedEntries_eq] at hmembers
    rw [hfields] at hevidence hmembers ⊢
    have hself : (Json.str evidenceMember).equalsText evidenceMember = true := by
      simp [Json.equalsText]
    unfold manifestDigests
    simp only [hevidence, hmembers, Option.getD_some, hself, Bool.not_true, Bool.false_eq_true,
      if_false]
  · rw [List.mem_insertionSort, List.map_map, List.mem_map]
    rfl

variable [JsonLimits]

theorem manifestBytes_read {members : Dict Units Bytes} {manifest : Bytes}
    (h : manifestBytes members = .ok manifest) :
    loadsOf manifest = .ok (bundleManifest members).sorted := by
  obtain ⟨text, htext, hencode⟩ := bind_eq_ok.mp h
  have hw := bundleManifest_wellFormed members
  have hnewline : ∀ u ∈ units "\n", isSpace u = true :=
    List.all_eq_true.mp (by decide +kernel)
  have hascii : IsAscii (text ++ units "\n") :=
    (isAscii_dumps rfl hw htext).append (isAscii_space hnewline)
  rw [encodeUtf8_ascii hascii] at hencode
  obtain rfl := Option.some.inj (orRaise_eq_ok.mp hencode)
  rw [loadsOf, loadsBytes_ascii hascii, loads_dumps_append hw htext hnewline]

/-- What the members of a bundle and their manifest are read as, in whatever order they are. -/
theorem readArchive_written [Unicode] {members : Dict Units Bytes} {manifest : Bytes}
    {written : List (Units × Bytes)}
    (hwritten : written.Perm (members.items ++ [(manifestMember, manifest)]))
    (hreserved : manifestMember ∉ members) (hmanifest : manifestBytes members = .ok manifest) :
    ∃ contents, readArchive (Archive.ofMembers written) = .ok (.ok contents) ∧
      (∀ name, contents.member name = members.lookup name) ∧
      contents.members.map Prod.fst ⊆ members.keys ∧
      ∀ entry, entry ∈ contents.digests ↔
        ∃ member ∈ members.items, (member.1, Json.text (hexdigest member.2)) = entry := by
  obtain ⟨digests, hdigests, hentries⟩ := manifestDigests_bundleManifest members
  have hnodup := written_nodup hwritten hreserved
  have hmem : ∀ {member}, member ∈ written ↔
      member ∈ members.items ∨ member = (manifestMember, manifest) := by
    intro member
    rw [hwritten.mem_iff, List.mem_append, List.mem_singleton]
  have hothers : ∀ {member}, member ∈ written.filter
      (fun member => member.1 ≠ manifestMember) ↔ member ∈ members.items := by
    intro member
    rw [List.mem_filter, hmem, decide_eq_true_eq]
    constructor
    · rintro ⟨hmember | rfl, hne⟩
      · exact hmember
      · exact absurd rfl hne
    · intro hmember
      refine ⟨Or.inl hmember, fun hname => hreserved ?_⟩
      apply AList.mem_keys.mpr
      rw [Dict.keys_eq_items, ← hname]
      exact List.mem_map_of_mem hmember
  refine ⟨⟨digests, written.filter fun member => member.1 ≠ manifestMember⟩,
    readArchive_eq_ok.mpr ⟨?_, manifest, _, ?_, manifestBytes_read hmanifest, hdigests, ?_⟩,
    fun name => ?_, ?_, hentries⟩
  · rwa [Archive.namelist_ofMembers]
  · exact Archive.read_ofMembers hnodup (hmem.mpr (Or.inr rfl))
  · rw [Archive.namelist_ofMembers, List.filter_map]
    refine Archive.readAll_eq_ok.mpr ⟨rfl, fun member hmember => ?_⟩
    exact Archive.read_ofMembers hnodup (List.mem_of_mem_filter hmember)
  · apply Option.ext
    intro raw
    rw [← Dict.mem_items, ← hothers, BundleContents.member, Option.map_eq_some_iff]
    have hkeys := hnodup.sublist (List.Sublist.map Prod.fst (List.filter_sublist
      (p := fun member : Units × Bytes => member.1 ≠ manifestMember)))
    constructor
    · rintro ⟨member, hfind, rfl⟩
      obtain ⟨hmember, rfl⟩ := (find?_key hkeys).mp hfind
      exact hmember
    · exact fun hmember => ⟨_, (find?_key hkeys).mpr ⟨hmember, rfl⟩, rfl⟩
  · intro name hname
    obtain ⟨member, hmember, rfl⟩ := List.mem_map.mp hname
    rw [Dict.keys_eq_items]
    exact List.mem_map_of_mem (hothers.mp hmember)

omit [FloatText] [JsonLimits] in
/-- The members of a bundle match the manifest that was built for them when they are known. -/
theorem membersMatch_built {members : Dict Units Bytes} {contents : BundleContents}
    (hlookup : ∀ name, contents.member name = members.lookup name)
    (hnames : contents.members.map Prod.fst ⊆ members.keys)
    (hentries : ∀ entry, entry ∈ contents.digests ↔
      ∃ member ∈ members.items, (member.1, Json.text (hexdigest member.2)) = entry)
    (hknown : ∀ name ∈ members, name ∈ knownMembers) : MembersMatch contents := by
  constructor
  · intro entry hentry
    obtain ⟨member, hmember, rfl⟩ := (hentries entry).mp hentry
    have hvalue := Dict.mem_items.mp hmember
    refine ⟨hknown _ (Dict.mem_iff_lookup.mpr ⟨_, hvalue⟩), member.2, (hlookup _).trans hvalue, ?_⟩
    simp [Json.text, Json.equalsText]
  · intro name hname
    obtain ⟨raw, hraw⟩ := Dict.mem_iff_lookup.mp (AList.mem_keys.mpr (hnames hname))
    exact List.mem_map_of_mem ((hentries _).mpr ⟨_, Dict.mem_items.mpr hraw, rfl⟩)

theorem buildBundle_eq_ok [ZipWriter] {members : Dict Units Bytes} {bundle : Bytes} :
    buildBundle members = .ok bundle ↔ evidenceMember ∈ members ∧ manifestMember ∉ members ∧
      ∃ manifest, manifestBytes members = .ok manifest ∧
        ZipWriter.write (payload members manifest) = bundle := by
  unfold buildBundle
  split
  · rename_i hmissing
    simp [hmissing]
  · rename_i hthere
    split
    · rename_i hreserved
      simp [hreserved]
    · rename_i hfree
      cases hbytes : manifestBytes members with
      | error e => simp
      | ok manifest => simp [not_not.mp hthere, hfree]

/-- Only an interpreter that does not let two containers nest keeps a manifest from being written. -/
theorem manifestBytes_ok (hdepth : 2 ≤ JsonLimits.depth) (members : Dict Units Bytes) :
    ∃ manifest, manifestBytes members = .ok manifest := by
  obtain ⟨room, hroom⟩ : ∃ room, JsonLimits.depth = room + 2 := ⟨JsonLimits.depth - 2, by omega⟩
  have hwritten : refusal indented JsonLimits.depth (bundleManifest members) = none := by
    rw [hroom]
    apply (refusalEntries_eq_none indented).mpr
    simp only [List.map_cons, List.map_nil, List.forall_mem_cons]
    refine ⟨rfl, (refusalEntries_eq_none indented).mpr fun entry hentry => ?_, nofun⟩
    obtain ⟨member, -, rfl⟩ := List.mem_map.mp hentry
    rfl
  obtain ⟨text, htext⟩ := dumps_ok_iff.mpr hwritten
  have hascii : IsAscii (text ++ units "\n") :=
    (isAscii_dumps rfl (bundleManifest_wellFormed members) htext).append
      (show IsAscii (units "\n") by decide +kernel)
  exact exists_bind_ok htext ⟨_, orRaise_eq_ok.mpr (encodeUtf8_ascii hascii)⟩

omit [Hashlib] [FloatText] [JsonLimits] in
/-- An archive that was written is opened as it was, where its members are known. -/
theorem open_written [ZipWriter] {members : Dict Units Bytes} {manifest : Bytes}
    {written : List (Units × Bytes)}
    (hwritten : written.Perm (members.items ++ [(manifestMember, manifest)]))
    (hreserved : manifestMember ∉ members) (hknown : ∀ name ∈ members, name ∈ knownMembers) :
    Zipfile.openArchive (ZipWriter.write written) = .ok (.ofMembers written) := by
  have hshort : ∀ name ∈ manifestMember :: knownMembers, IsAscii name ∧ name.length < 0x10000 := by
    exact List.forall_iff_forall_mem.mp (by decide +kernel)
  apply ZipWriter.open_write (written_nodup hwritten hreserved)
  intro member hmember
  apply hshort
  rw [hwritten.mem_iff, List.mem_append, List.mem_singleton] at hmember
  rcases hmember with hmember | rfl
  · exact List.mem_cons_of_mem _ (hknown _ (Dict.mem_iff_lookup.mpr ⟨_, Dict.mem_items.mp hmember⟩))
  · exact List.mem_cons_self

end Built

section Fixed

variable [JsonLimits] [FloatText] [Unicode]

/-- What was read of an archive is what its members hold. -/
theorem mem_of_readArchive {archive : Archive} {contents : BundleContents}
    (h : readArchive archive = .ok (.ok contents)) {member : Member} (hmember : member ∈ archive)
    (hname : member.name ≠ manifestMember) :
    ∃ raw, contents.member member.name = some raw ∧ member.content = .ok raw := by
  obtain ⟨hnodup, -, -, -, -, -, hread⟩ := readArchive_eq_ok.mp h
  obtain ⟨hnames, hcontents⟩ := Archive.readAll_eq_ok.mp hread
  have hlisted : member.name ∈ contents.members.map Prod.fst := by
    rw [hnames, List.mem_filter]
    exact ⟨List.mem_map_of_mem hmember, by simpa using hname⟩
  obtain ⟨entry, hentry, heq⟩ := List.mem_map.mp hlisted
  have hkeys : (contents.members.map Prod.fst).Nodup := hnames ▸ hnodup.filter _
  refine ⟨entry.2, ?_, ?_⟩
  · rw [BundleContents.member, (find?_key hkeys).mpr ⟨hentry, heq⟩]
    rfl
  · rw [← Archive.read_of_mem hnodup hmember, ← heq]
    exact hcontents entry hentry

theorem exists_of_member {archive : Archive} {contents : BundleContents}
    (h : readArchive archive = .ok (.ok contents)) {name : Units} {raw : Bytes}
    (hraw : contents.member name = some raw) : ⟨name, .ok raw⟩ ∈ archive := by
  obtain ⟨-, -, -, -, -, -, hread⟩ := readArchive_eq_ok.mp h
  obtain ⟨entry, hfind, rfl⟩ := Option.map_eq_some_iff.mp hraw
  have hname : entry.1 = name := by simpa using List.find?_some hfind
  rw [← hname]
  exact Archive.exists_of_read
    ((Archive.readAll_eq_ok.mp hread).2 entry (List.mem_of_find?_eq_some hfind))

variable [Hashlib]

/-- The members that match a manifest are members of every archive that matches it, unless the
digests of two contents collide. -/
theorem subset_of_match {archive archive' : Archive} {contents contents' : BundleContents}
    (h : readArchive archive = .ok (.ok contents)) (h' : readArchive archive' = .ok (.ok contents'))
    (hmanifest : archive.read manifestMember = archive'.read manifestMember)
    (hmatch : MembersMatch contents) (hmatch' : MembersMatch contents')
    (hcollision : ∀ name content content', ⟨name, .ok content⟩ ∈ archive →
      ⟨name, .ok content'⟩ ∈ archive' →
        Hashlib.sha256 content = Hashlib.sha256 content' → content = content') :
    archive ⊆ archive' := by
  obtain ⟨hnodup, raw, manifest, hraw, hloads, hdigests, -⟩ := readArchive_eq_ok.mp h
  obtain ⟨-, raw', manifest', hraw', hloads', hdigests', -⟩ := readArchive_eq_ok.mp h'
  obtain rfl : raw = raw' := Except.ok.inj (hraw.symm.trans (hmanifest.trans hraw'))
  obtain rfl : manifest = manifest' := Except.ok.inj (hloads.symm.trans hloads')
  have hsame : contents.digests = contents'.digests :=
    Except.ok.inj (hdigests.symm.trans hdigests')
  intro member hmember
  by_cases hname : member.name = manifestMember
  · have hcontent : member.content = .ok raw := by
      rw [← Archive.read_of_mem hnodup hmember, hname]
      exact hraw
    obtain ⟨name, content⟩ := member
    obtain rfl : name = manifestMember := hname
    obtain rfl : content = .ok raw := hcontent
    exact Archive.exists_of_read hraw'
  · obtain ⟨content, hcontent, hok⟩ := mem_of_readArchive h hmember hname
    obtain ⟨entry, hfind, heq⟩ := Option.map_eq_some_iff.mp hcontent
    have hlisted : member.name ∈ contents.digests.map Prod.fst := by
      apply hmatch.covered
      have hentry : entry.1 = member.name := by simpa using List.find?_some hfind
      rw [← hentry]
      exact List.mem_map_of_mem (List.mem_of_find?_eq_some hfind)
    obtain ⟨digest, hdigest, hkey⟩ := List.mem_map.mp hlisted
    obtain ⟨-, listed, hthere, hhash⟩ := hmatch.listed digest hdigest
    obtain ⟨-, listed', hthere', hhash'⟩ := hmatch'.listed digest (hsame ▸ hdigest)
    rw [hkey] at hthere hthere'
    obtain rfl : listed = content := Option.some.inj (hthere.symm.trans hcontent)
    have hhex : hexdigest listed = hexdigest listed' := by
      cases hvalue : digest.2 with
      | str text =>
        rw [hvalue] at hhash hhash'
        have htext : text = units (hexdigest listed) := by simpa [Json.equalsText] using hhash
        have htext' : text = units (hexdigest listed') := by simpa [Json.equalsText] using hhash'
        exact units_injective (htext.symm.trans htext')
      | _ =>
        rw [hvalue] at hhash
        cases hhash
    obtain ⟨name, content⟩ := member
    obtain rfl : content = .ok listed := hok
    have hother := exists_of_member h' hthere'
    rw [hcollision name listed listed' hmember hother (hexBytes_injective hhex)]
    exact hother

end Fixed

section Agreement

variable [JsonLimits] [FloatText] [Unicode] [Decimals] [Hashlib] [Cryptography] [Rfc3161]
  [Pydantic] [ZipWriter]

/-- The members of a bundle and their manifest pass in any order exactly when the pack verifies and the
other members bind it. -/
theorem verifyBundle_written {groundTruth : Option GroundTruthManifest} {options : VerifyOptions}
    {members : Dict Units Bytes} {manifest raw : Bytes} {written : List (Units × Bytes)}
    (hwritten : written.Perm (members.items ++ [(manifestMember, manifest)]))
    (hreserved : manifestMember ∉ members) (hmanifest : manifestBytes members = .ok manifest)
    (hraw : members.lookup evidenceMember = some raw) (hstamps : checkRawSchemaStamps raw = .ok none)
    (hknown : ∀ name ∈ members, name ∈ knownMembers) :
    Passes (verifyBundle (ZipWriter.write written) groundTruth options) ↔
      ∃ pack, Pydantic.validatePack raw = some pack ∧
        Passes (verifyPack pack groundTruth none options) ∧ MembersBind pack members.lookup := by
  obtain ⟨contents, hread, hlookup, hnames, hentries⟩ :=
    readArchive_written hwritten hreserved hmanifest
  have hmatch := membersMatch_built hlookup hnames hentries hknown
  have hmember : contents.member = members.lookup := funext hlookup
  rw [verifyBundle_passes]
  simp only [open_written hwritten hreserved hknown, Except.ok.injEq, exists_and_left,
    exists_eq_left', hread, verifyContents_passes, hmember, hraw, Option.some.injEq, hstamps,
    true_and]
  exact exists_congr fun pack => and_congr_right fun _ => and_iff_right hmatch

/-- A bundle of known members, of which the pack has the current stamps, passes exactly when the pack
verifies and the other members bind it.  Bundles with one manifest that both pass have the same
members, unless the digests of two contents collide. -/
theorem bundle_agrees (groundTruth : Option GroundTruthManifest) (options : VerifyOptions) :
    (∀ {members : Dict Units Bytes} {bundle raw : Bytes}, buildBundle members = .ok bundle →
      members.lookup evidenceMember = some raw → checkRawSchemaStamps raw = .ok none →
        (∀ name ∈ members, name ∈ knownMembers) →
          (Passes (verifyBundle bundle groundTruth options) ↔
            ∃ pack, Pydantic.validatePack raw = some pack ∧
              Passes (verifyPack pack groundTruth none options) ∧
                MembersBind pack members.lookup)) ∧
    ∀ {bundle bundle' : Bytes} {archive archive' : Archive},
      Zipfile.openArchive bundle = .ok archive → Zipfile.openArchive bundle' = .ok archive' →
        archive.read manifestMember = archive'.read manifestMember →
          Passes (verifyBundle bundle groundTruth options) → ∀ {groundTruth' options'},
            Passes (verifyBundle bundle' groundTruth' options') →
              archive.Perm archive' ∨ ∃ name content content',
                ⟨name, .ok content⟩ ∈ archive ∧ ⟨name, .ok content'⟩ ∈ archive' ∧
                  content ≠ content' ∧ Hashlib.sha256 content = Hashlib.sha256 content' := by
  constructor
  · intro members bundle raw hbuild hraw hstamps hknown
    obtain ⟨-, hreserved, manifest, hmanifest, rfl⟩ := buildBundle_eq_ok.mp hbuild
    exact verifyBundle_written (payload_perm members manifest) hreserved hmanifest hraw hstamps hknown
  · intro bundle bundle' archive archive' hopen hopen' hmanifest hpasses _ _ hpasses'
    obtain ⟨opened, contents, hopened, hread, hcontents⟩ := verifyBundle_passes.mp hpasses
    obtain ⟨opened', contents', hopened', hread', hcontents'⟩ := verifyBundle_passes.mp hpasses'
    obtain rfl : archive = opened := Except.ok.inj (hopen.symm.trans hopened)
    obtain rfl : archive' = opened' := Except.ok.inj (hopen'.symm.trans hopened')
    obtain ⟨-, -, -, -, -, hmatch, -⟩ := verifyContents_passes.mp hcontents
    obtain ⟨-, -, -, -, -, hmatch', -⟩ := verifyContents_passes.mp hcontents'
    by_cases hcollision : ∃ name content content', ⟨name, .ok content⟩ ∈ archive ∧
        ⟨name, .ok content'⟩ ∈ archive' ∧ content ≠ content' ∧
          Hashlib.sha256 content = Hashlib.sha256 content'
    · exact Or.inr hcollision
    · have hfree : ∀ name content content', ⟨name, .ok content⟩ ∈ archive →
          ⟨name, .ok content'⟩ ∈ archive' →
            Hashlib.sha256 content = Hashlib.sha256 content' → content = content' := by
        intro name content content' hmem hmem' hsha
        by_contra hne
        exact hcollision ⟨name, content, content', hmem, hmem', hne, hsha⟩
      have hsubset := subset_of_match hread hread' hmanifest hmatch hmatch' hfree
      have hsubset' := subset_of_match hread' hread hmanifest.symm hmatch' hmatch
        fun name content content' hmem hmem' hsha => (hfree name _ _ hmem' hmem hsha.symm).symm
      have hnodup := (readArchive_eq_ok.mp hread).1.of_map _
      have hnodup' := (readArchive_eq_ok.mp hread').1.of_map _
      exact Or.inl ((List.perm_ext_iff_of_nodup hnodup hnodup').mpr fun member =>
        ⟨fun h => hsubset h, fun h => hsubset' h⟩)

end Agreement

section Sample

/-- A pack with the current stamps is not refused for its JSON form. -/
theorem stamps_sorted [FloatText] [Unicode] {pack : EvidencePack}
    (hfloats : ∀ q ∈ pack.runResult.floats, FloatText.isFloat q)
    (hpack : schemaMajorMinor (units pack.schemaVersion) = schemaMajorMinor (units schemaVersion))
    (hrun : schemaMajorMinor (units pack.runResult.schemaVersion) =
      schemaMajorMinor (units schemaVersion)) :
    checkSchemaStamps (.ok pack.dump.sorted) = .ok none := by
  have hw := EvidencePack.dump_wellFormed hfloats
  have hwrun := RunResult.dump_wellFormed hfloats
  have hversion : pack.dump.sorted.get "schema_version" = some (.text pack.schemaVersion) := by
    rw [hw.get_sorted, EvidencePack.dump, Json.get_object]
    rfl
  have hresult : pack.dump.sorted.get "run_result" = some pack.runResult.dump.sorted := by
    rw [hw.get_sorted, EvidencePack.dump, Json.get_object]
    rfl
  have hstamp : pack.runResult.dump.sorted.get "schema_version" =
      some (.text pack.runResult.schemaVersion) := by
    rw [hwrun.get_sorted, RunResult.dump, Json.get_object]
    rfl
  obtain ⟨entries, hentries⟩ : ∃ entries, pack.dump.sorted = .obj entries := ⟨_, rfl⟩
  rw [hentries] at hversion hresult ⊢
  simp only [checkSchemaStamps, hversion, hresult, Option.bind_some, hstamp, stampRefused, Json.text,
    hpack, hrun, decide_true, if_true, Option.or_none]

theorem stamps_dump [JsonLimits] [FloatText] [Unicode] {pack : EvidencePack}
    (hfloats : ∀ q ∈ pack.runResult.floats, FloatText.isFloat q)
    (hpack : schemaMajorMinor (units pack.schemaVersion) = schemaMajorMinor (units schemaVersion))
    (hrun : schemaMajorMinor (units pack.runResult.schemaVersion) =
      schemaMajorMinor (units schemaVersion)) {text : Units}
    (htext : dumps compact pack.dump = .ok text) {raw : Bytes} (hraw : encodeUtf8 text = some raw) :
    checkRawSchemaStamps raw = .ok none := by
  obtain ⟨data, hdata, hloads⟩ :=
    loadsBytes_dumps rfl (EvidencePack.dump_wellFormed hfloats) htext
  obtain rfl : raw = data := Option.some.inj (hraw.symm.trans hdata)
  unfold checkRawSchemaStamps loadsOf
  rw [hloads]
  exact stamps_sorted hfloats hpack hrun

attribute [local instance] Hashlib.real Unicode.ascii Decimals.ascii JsonLimits.default
  FloatText.halves Rfc3161.missing Cryptography.missing ZipWriter.counted

/-- A pack that binds a PDF, before it is timestamped. -/
def unstampedPack : EvidencePack :=
  { runResult := sampleRun
    manifestHash := sampleRun.manifestHash
    pdfRef := some (hexdigest [7]) }

/-- A pack of the sample run that binds a PDF. -/
structure IsSample (pack : EvidencePack) : Prop where
  run : pack.runResult = sampleRun
  version : pack.schemaVersion = schemaVersion
  pdf : pack.pdfRef = some (hexdigest [7])

/-- Such a pack passes with its PDF, after a round trip through its JSON form. -/
theorem samplePack_passes : ∃ pack text, dumps compact pack.dump = .ok text ∧ IsSample pack ∧
    ∀ {groundTruth}, groundTruth = none ∨ groundTruth = some sampleManifest →
      Passes (verifyPack pack.reloaded groundTruth (some [7]) {}) := by
  have hfloats : ∀ q ∈ unstampedPack.runResult.floats, FloatText.isFloat q := sampleRun_floats
  obtain ⟨digest, hdigest⟩ := (attestedDigest_returns hfloats).mpr (by decide +kernel)
  obtain ⟨token, htoken⟩ : ∃ token, dumps compact (localToken digest ⟨0, some 0⟩) = .ok token :=
    dumps_ok_iff.mpr rfl
  let pack : EvidencePack := { unstampedPack with tsaToken := some (textOf token) }
  obtain ⟨text, htext⟩ : ∃ text, dumps compact pack.dump = .ok text := dumps_ok_iff.mpr rfl
  refine ⟨pack, text, htext, ⟨rfl, rfl, rfl⟩, fun {groundTruth} hgiven => ?_⟩
  have hcontent : attestedDigest pack.reloaded = .ok digest := by
    rw [attestedDigest, EvidencePack.content_reloaded]
    exact hdigest
  have hmanifest : ∀ manifest, groundTruth = some manifest →
      canonicalHash manifest.dump = .ok pack.reloaded.manifestHash := by
    have hhash : canonicalHash sampleManifest.dump = .ok sampleRun.manifestHash := by
      decide +kernel
    rintro manifest rfl
    obtain hnone | hsome := hgiven
    · cases hnone
    · rw [Option.some.inj hsome]
      exact hhash
  have hpdfRef : pack.reloaded.pdfRef = (some [7]).map hexdigest := by
    show some (hexdigest [7]) = some (hexdigest [7])
    rfl
  exact verifyPack_local htoken rfl hcontent (checkSchemaVersion_ok.mpr ⟨rfl, rfl⟩)
    (checkConsistency_ok.mpr rfl) (List.nil_subset _) rfl rfl rfl hmanifest hpdfRef rfl rfl

theorem reverse_ne_self {α : Type} {l : List α} (h : l.Nodup) (hlength : 2 ≤ l.length) :
    l.reverse ≠ l := by
  match l, h, hlength with
  | first :: second :: rest, h, _ =>
    intro hsame
    have hlast : (first :: second :: rest).getLast? = some first := by
      rw [← List.head?_reverse, hsame]
      rfl
    rw [List.getLast?_cons_cons] at hlast
    exact (List.nodup_cons.mp h).1 (List.mem_of_getLast? hlast)

/-- What a bundle holds of a pack that binds a PDF. -/
def sampleMembers (raw : Bytes) : Dict Units Bytes :=
  .ofItems [(evidenceMember, raw), (units "audit-pack.pdf", [7])]

theorem lookup_sampleMembers (raw : Bytes) (name : Units) : (sampleMembers raw).lookup name =
    if name = units "audit-pack.pdf" then some [7]
    else if name = evidenceMember then some raw else none := by
  simp [sampleMembers, Dict.ofItems, Dict.lookup_set]

theorem evidence_sampleMembers (raw : Bytes) :
    (sampleMembers raw).lookup evidenceMember = some raw := by
  have hne : evidenceMember ≠ units "audit-pack.pdf" := by decide +kernel
  rw [lookup_sampleMembers, if_neg hne, if_pos rfl]

theorem sampleMembers_known {raw : Bytes} : ∀ name ∈ sampleMembers raw, name ∈ knownMembers := by
  have hall : units "audit-pack.pdf" ∈ knownMembers ∧ evidenceMember ∈ knownMembers := by
    decide +kernel
  intro name hname
  obtain ⟨content, hcontent⟩ := Dict.mem_iff_lookup.mp hname
  rw [lookup_sampleMembers] at hcontent
  split at hcontent
  · rename_i heq
    exact heq ▸ hall.1
  · split at hcontent
    · rename_i heq
      exact heq ▸ hall.2
    · cases hcontent

theorem sampleMembers_absent {raw content : Bytes} {name : Units}
    (hname : name ∈ runMember :: dsseMember :: manifestMember :: intotoMembers) :
    (sampleMembers raw).lookup name ≠ some content := by
  have hothers : ∀ name ∈ runMember :: dsseMember :: manifestMember :: intotoMembers,
      name ≠ units "audit-pack.pdf" ∧ name ≠ evidenceMember := by
    decide +kernel
  rw [lookup_sampleMembers, if_neg (hothers name hname).1, if_neg (hothers name hname).2]
  exact nofun

theorem sampleMembers_unreserved {raw : Bytes} : manifestMember ∉ sampleMembers raw := by
  intro hmem
  obtain ⟨content, hcontent⟩ := Dict.mem_iff_lookup.mp hmem
  exact sampleMembers_absent (by simp) hcontent

theorem sampleMembers_bind [Pydantic] {pack : EvidencePack} {raw : Bytes}
    (hpdf : pack.pdfRef = some (hexdigest [7])) : MembersBind pack (sampleMembers raw).lookup := by
  have hpdfs : evidenceMember ∉ pdfMembers := by decide +kernel
  refine ⟨fun name hname content hcontent => ?_, fun _ => ?_, fun content hcontent => ?_,
    fun name hname content hcontent => ?_, fun content hcontent => ?_⟩
  · rw [lookup_sampleMembers] at hcontent
    split at hcontent
    · rw [← Option.some.inj hcontent]
      exact hpdf
    · split at hcontent
      · rename_i heq
        exact absurd (heq ▸ hname) hpdfs
      · cases hcontent
  · exact ⟨_, List.mem_cons_self, [7], by rw [lookup_sampleMembers, if_pos rfl]⟩
  · exact absurd hcontent (sampleMembers_absent (by simp))
  · exact absurd hcontent (sampleMembers_absent (by simp [hname]))
  · exact absurd hcontent (sampleMembers_absent (by simp))

/-- Two members or more, written in the other order, are another archive. -/
theorem archive_reverse_ne {written : List (Units × Bytes)} (hnodup : (written.map Prod.fst).Nodup)
    (hlength : 2 ≤ written.length) :
    Archive.ofMembers written.reverse ≠ Archive.ofMembers written := by
  intro hsame
  have hnames := congrArg Archive.namelist hsame
  rw [Archive.namelist_ofMembers, Archive.namelist_ofMembers, List.map_reverse] at hnames
  refine reverse_ne_self hnodup ?_ hnames
  rwa [List.length_map]

/-- A pack with its PDF beside it, in a bundle that passes, and its members in another order. -/
theorem bundle_agrees_pdf : ∃ (_ : Pydantic) (members : Dict Units Bytes) (bundle bundle' : Bytes)
    (archive archive' : Archive), buildBundle members = .ok bundle ∧
      members.lookup (units "audit-pack.pdf") = some [7] ∧
      Zipfile.openArchive bundle = .ok archive ∧ Zipfile.openArchive bundle' = .ok archive' ∧
      archive' ≠ archive ∧ Passes (verifyBundle bundle (some sampleManifest) {}) ∧
      Passes (verifyBundle bundle' none {}) ∧
      (archive.Perm archive' ∨ ∃ name content content', ⟨name, .ok content⟩ ∈ archive ∧
        ⟨name, .ok content'⟩ ∈ archive' ∧ content ≠ content' ∧
          Hashlib.sha256 content = Hashlib.sha256 content') := by
  obtain ⟨pack, text, htext, hsample, hverified⟩ := samplePack_passes
  have hfloats : ∀ q ∈ pack.runResult.floats, FloatText.isFloat q := by
    rw [hsample.run]
    exact sampleRun_floats
  obtain ⟨raw, hraw, -⟩ := loadsBytes_dumps rfl (EvidencePack.dump_wellFormed hfloats) htext
  have hstamps := stamps_dump hfloats (by rw [hsample.version]) (by rw [hsample.run]; rfl) htext hraw
  let pydantic : Pydantic :=
    ⟨fun run => ((dumps compact run.dump).toOption.getD []), fun _ => raw,
      fun data => if data = raw then some pack.reloaded else none⟩
  have hevidence := evidence_sampleMembers raw
  have hreserved : manifestMember ∉ sampleMembers raw := sampleMembers_unreserved
  have hknown : ∀ name ∈ sampleMembers raw, name ∈ knownMembers := sampleMembers_known
  have hbind : MembersBind pack.reloaded (sampleMembers raw).lookup := sampleMembers_bind hsample.pdf
  obtain ⟨manifest, hmanifest⟩ := manifestBytes_ok (by decide) (sampleMembers raw)
  have hbuild := buildBundle_eq_ok.mpr
    ⟨Dict.mem_iff_lookup.mpr ⟨raw, hevidence⟩, hreserved, manifest, hmanifest, rfl⟩
  have hperm := payload_perm (sampleMembers raw) manifest
  have hperm' := (payload (sampleMembers raw) manifest).reverse_perm.trans hperm
  have hnodup := written_nodup hperm hreserved
  have hlisted : (manifestMember, manifest) ∈ payload (sampleMembers raw) manifest :=
    hperm.mem_iff.mpr (List.mem_append_right _ (List.mem_singleton_self _))
  have hsame : (Archive.ofMembers (payload (sampleMembers raw) manifest)).read manifestMember =
      (Archive.ofMembers (payload (sampleMembers raw) manifest).reverse).read manifestMember := by
    rw [Archive.read_ofMembers hnodup hlisted, Archive.read_ofMembers
      (written_nodup hperm' hreserved) (List.mem_reverse.mpr hlisted)]
  have hlength : 2 ≤ (payload (sampleMembers raw) manifest).length := by
    have hpositive := List.length_pos_of_mem (Dict.mem_items.mpr hevidence)
    rw [hperm.length_eq, List.length_append, List.length_singleton]
    omega
  have hopen := open_written hperm hreserved hknown
  have hopen' := open_written hperm' hreserved hknown
  have hpasses := ((@bundle_agrees _ _ _ _ _ _ _ pydantic _ (some sampleManifest) {}).1 hbuild
    hevidence hstamps hknown).mpr ⟨pack.reloaded, if_pos rfl,
      (hverified (Or.inr rfl)).without_pdf, hbind⟩
  have hpasses' := (@verifyBundle_written _ _ _ _ _ _ _ pydantic _ none {} _ _ _ _ hperm' hreserved
    hmanifest hevidence hstamps hknown).mpr ⟨pack.reloaded, if_pos rfl,
      (hverified (Or.inl rfl)).without_pdf, hbind⟩
  exact ⟨pydantic, sampleMembers raw, _, _, _, _, hbuild,
    by rw [lookup_sampleMembers, if_pos rfl], hopen, hopen', archive_reverse_ne hnodup hlength,
    hpasses, hpasses', (@bundle_agrees _ _ _ _ _ _ _ pydantic _ (some sampleManifest) {}).2
      hopen hopen' hsame hpasses hpasses'⟩

end Sample

end Sectum
