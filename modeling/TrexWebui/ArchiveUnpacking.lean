import TrexWebui.ArchiveWriting
import TrexWebui.TreePaths

/-!
# Unpacking an archive

Unpacking creates each member in the order of the archive, a directory or a
file with its stored mode, and the directories above it that are not there
yet with mode 0755. It fails where a file would have to be a directory. The
theorem of this module is that an archive that `validate_archive` accepts
unpacks to a tree that `verify_payload_tree` accepts, with the digest of the
manifest in the archive, exactly if no regular file of it is above another
member; nothing in the validator checks that.
-/

namespace TrexWebui

open PyStr PyJson PosixPath Sha2 Checks

/-! ## Unpacking -/

def createdStat (owner : Stat) (mode size : Nat) : Stat := { owner with mode, size, nlink := 1 }

def TarMember.placed? (owner : Stat) (member : TarMember) : Option Placed :=
  match member.type with
  | .regular =>
    some (.file (createdStat owner (permissions member.mode) member.size.toNat) member.content)
  | .directory => some (.directory (createdStat owner (permissions member.mode) 0))
  | _ => none

def unpackInto (owner : Stat) : Node → List TarMember → Option Node
  | root, [] => some root
  | root, member :: rest => do
    let placed ← member.placed? owner
    let root ← place (createdStat owner 0o755 0) placed member.path root
    unpackInto owner root rest

/-- The tree of an archive, whose root is the top-level directory. -/
def unpack (owner : Stat) (members : List TarMember) : Option Node :=
  unpackInto owner (emptyDirectory (createdStat owner 0o755 0)) members

/-! ## The tree of an archive -/

def impliedStat (owner : Stat) : Stat := createdStat owner 0o755 0

/-- A regular file that another member would have to stand below. -/
def FileAbove (file other : TarMember) : Prop :=
  file.type = .regular ∧ file.path <+: other.path ∧ file.path ≠ other.path

instance (file other : TarMember) : Decidable (FileAbove file other) :=
  inferInstanceAs (Decidable (_ ∧ _ ∧ _))

/-- A tree that holds members and the directories above them. -/
structure Holds (owner : Stat) (members : List TarMember) (root : Node) : Prop where
  wellFormed : root.WellFormed
  directory : root.isDir = true
  listed : ∀ member ∈ members, ∃ placed, member.placed? owner = some placed
    ∧ root.info? member.path = some placed.info
  found : ∀ path info, root.info? path = some info →
    (∃ member ∈ members, member.path = path ∧ ∃ placed, member.placed? owner = some placed
      ∧ info = placed.info)
    ∨ info = .dir (impliedStat owner) ∧ (path = [] ∨ ∃ member ∈ members, path <+: member.path)

theorem placed?_of_valid (owner : Stat) {member : TarMember} (h : member.Valid) :
    ∃ placed, member.placed? owner = some placed
      ∧ (member.type = .directory → ∃ stat, placed = .directory stat)
      ∧ (member.type = .regular → ∃ stat content, placed = .file stat content) := by
  rcases h.type with htype | htype
  · refine ⟨_, by rw [TarMember.placed?, htype], ?_, fun _ => ⟨_, _, rfl⟩⟩
    rw [htype]
    exact fun h => absurd h (by decide)
  · refine ⟨_, by rw [TarMember.placed?, htype], fun _ => ⟨_, rfl⟩, ?_⟩
    rw [htype]
    exact fun h => absurd h (by decide)

theorem holds_empty (owner : Stat) : Holds owner [] (emptyDirectory (impliedStat owner)) where
  wellFormed := ⟨List.nodup_nil, fun _ h => absurd h List.not_mem_nil,
    fun _ h => absurd h List.not_mem_nil⟩
  directory := rfl
  listed := fun _ h => absurd h List.not_mem_nil
  found := fun path info h => by
    cases path with
    | nil => exact Or.inr ⟨(Option.some.inj h).symm, Or.inl rfl⟩
    | cons name path => simp [emptyDirectory, Node.info?, Node.at?] at h

theorem Holds.place {owner : Stat} {members : List TarMember} {root after : Node}
    (h : Holds owner members root) {member : TarMember} (hvalid : member.Valid)
    (hfresh : ∀ other ∈ members, other.path ≠ member.path) {placed : Placed}
    (hplaced : member.placed? owner = some placed)
    (hafter : TrexWebui.place (impliedStat owner) placed member.path root = some after) :
    Holds owner (members ++ [member]) after := by
  have hinfo := info?_place hafter
  constructor
  · exact wellFormed_place hafter (TarMember.isName_path hvalid.clean) h.wellFormed
  · cases hpath : member.path with
    | nil =>
        rw [hpath] at hafter
        cases root with
        | dir stat names child =>
            cases placed with
            | file stat content => cases hafter
            | directory stat =>
                obtain rfl := Option.some.inj hafter
                rfl
        | file stat content => cases hafter
        | symlink stat toDirectory => cases hafter
        | special stat => cases hafter
    | cons first path =>
        rw [hpath] at hafter
        cases root with
        | dir stat names child =>
            rw [TrexWebui.place] at hafter
            split_ifs at hafter
            · obtain ⟨node, -, rfl⟩ := Option.map_eq_some_iff.mp hafter
              rfl
            · obtain rfl := Option.some.inj hafter
              rfl
        | file stat content => cases hafter
        | symlink stat toDirectory => cases hafter
        | special stat => cases hafter
  · intro other hother
    rcases List.mem_append.mp hother with hother | hother
    · obtain ⟨placed', hplaced', hbefore⟩ := h.listed other hother
      refine ⟨placed', hplaced', ?_⟩
      rw [hinfo, infoAfter, if_neg (hfresh other hother), if_neg (by simp [hbefore]), hbefore]
    · rw [List.mem_singleton.mp hother]
      exact ⟨placed, hplaced, by rw [hinfo, infoAfter, if_pos rfl]⟩
  · intro path info hpath
    rw [hinfo, infoAfter] at hpath
    split_ifs at hpath with heq habove
    · exact Or.inl ⟨member, List.mem_append_right _ List.mem_cons_self, heq.symm, placed, hplaced,
        (Option.some.inj hpath).symm⟩
    · exact Or.inr ⟨(Option.some.inj hpath).symm,
        Or.inr ⟨member, List.mem_append_right _ List.mem_cons_self, habove.1⟩⟩
    · rcases h.found path info hpath with ⟨other, hother, hrest⟩ | ⟨hdir, hroot | ⟨other, hother, hp⟩⟩
      · exact Or.inl ⟨other, List.mem_append_left _ hother, hrest⟩
      · exact Or.inr ⟨hdir, Or.inl hroot⟩
      · exact Or.inr ⟨hdir, Or.inr ⟨other, List.mem_append_left _ hother, hp⟩⟩

theorem Holds.place_returns {owner : Stat} {members : List TarMember} {root : Node}
    (h : Holds owner members root) (hall : ∀ other ∈ members, other.Valid) {member : TarMember}
    (hvalid : member.Valid) (hfresh : ∀ other ∈ members, other.path ≠ member.path)
    (habove : ∀ other ∈ members, ¬ FileAbove other member ∧ ¬ FileAbove member other)
    {placed : Placed} (hplaced : member.placed? owner = some placed) :
    ∃ after, TrexWebui.place (impliedStat owner) placed member.path root = some after := by
  refine TrexWebui.place_returns (fun query hquery hne info hinfo => ?_) fun info hinfo => ?_
  · rcases h.found query info hinfo with ⟨other, hother, rfl, placed', hplaced', rfl⟩ | ⟨rfl, -⟩
    · rcases (hall other hother).type with htype | htype
      · exact absurd ⟨htype, hquery, hne⟩ (habove other hother).1
      · obtain ⟨placed'', heq, hdir, -⟩ := placed?_of_valid owner (hall other hother)
        obtain rfl := Option.some.inj (hplaced'.symm.trans heq)
        obtain ⟨stat, rfl⟩ := hdir htype
        exact ⟨stat, rfl⟩
    · exact ⟨_, rfl⟩
  · rcases h.found _ info hinfo with ⟨other, hother, heq, -⟩ | ⟨rfl, hbelow⟩
    · exact absurd heq (hfresh other hother)
    · refine ⟨⟨_, rfl⟩, ?_⟩
      have hdirectory : member.type = .directory := by
        rcases hbelow with hroot | ⟨other, hother, hleads⟩
        · exact hvalid.root hroot
        · rcases hvalid.type with htype | htype
          · exact absurd ⟨htype, hleads, (hfresh other hother).symm⟩ (habove other hother).2
          · exact htype
      obtain ⟨placed', heq, hdir, -⟩ := placed?_of_valid owner hvalid
      obtain rfl := Option.some.inj (hplaced.symm.trans heq)
      exact hdir hdirectory

theorem unpackInto_spec {owner : Stat} {members done : List TarMember} {root : Node}
    (h : Holds owner done root) (hall : ∀ member ∈ done ++ members, member.Valid)
    (hpaths : ((done ++ members).map TarMember.path).Nodup) :
    (∀ after, unpackInto owner root members = some after → Holds owner (done ++ members) after)
      ∧ ((∀ file ∈ done ++ members, ∀ other ∈ done ++ members, ¬ FileAbove file other) →
        ∃ after, unpackInto owner root members = some after) := by
  induction members generalizing done root with
  | nil =>
      rw [List.append_nil]
      exact ⟨fun after hafter => by rw [← Option.some.inj hafter]; exact h, fun _ => ⟨root, rfl⟩⟩
  | cons member members ih =>
      have hvalid : member.Valid := hall member (by simp)
      have hdone : ∀ other ∈ done, other.Valid := fun other hother =>
        hall other (List.mem_append_left _ hother)
      have hfresh : ∀ other ∈ done, other.path ≠ member.path := by
        intro other hother heq
        rw [List.map_append, List.nodup_append] at hpaths
        exact hpaths.2.2 _ (List.mem_map_of_mem hother) _ (by simp) heq
      have hsplit : done ++ member :: members = (done ++ [member]) ++ members := by simp
      obtain ⟨placed, hplaced, -⟩ := placed?_of_valid owner hvalid
      have hunfold : unpackInto owner root (member :: members)
          = (TrexWebui.place (impliedStat owner) placed member.path root).bind
              fun root => unpackInto owner root members := by
        rw [unpackInto, hplaced]
        rfl
      rw [hunfold]
      rw [hsplit] at hall hpaths ⊢
      constructor
      · intro after hafter
        obtain ⟨next, hnext, hafter⟩ := Option.bind_eq_some_iff.mp hafter
        exact (ih (h.place hvalid hfresh hplaced hnext) hall hpaths).1 after hafter
      · intro hnone
        obtain ⟨next, hnext⟩ := h.place_returns hdone hvalid hfresh
          (fun other hother => ⟨hnone other (by simp [hother]) member (by simp),
            hnone member (by simp) other (by simp [hother])⟩) hplaced
        rw [hnext]
        exact (ih (h.place hvalid hfresh hplaced hnext) hall hpaths).2 hnone

/-- Members unpack exactly if no file of them is above another, and then the tree holds them. -/
theorem unpack_spec (owner : Stat) {members : List TarMember}
    (hall : ∀ member ∈ members, member.Valid) (hpaths : (members.map TarMember.path).Nodup) :
    (∀ root, unpack owner members = some root → Holds owner members root)
      ∧ ((∃ root, unpack owner members = some root)
        ↔ ∀ file ∈ members, ∀ other ∈ members, ¬ FileAbove file other) := by
  obtain ⟨hholds, hreturns⟩ := @unpackInto_spec owner members [] _ (holds_empty owner)
    (by simpa using hall) (by simpa using hpaths)
  refine ⟨hholds, ⟨?_, hreturns⟩⟩
  rintro ⟨root, hroot⟩ file hfile other hother ⟨hregular, hleads, hne⟩
  have h : Holds owner members root := hholds root hroot
  obtain ⟨placed, hplaced, -, hisFile⟩ := placed?_of_valid owner (hall file hfile)
  obtain ⟨stat, content, rfl⟩ := hisFile hregular
  obtain ⟨placed', hplaced', hinfo⟩ := h.listed file hfile
  obtain rfl := Option.some.inj (hplaced.symm.trans hplaced')
  obtain ⟨_, -, hfound⟩ := h.listed other hother
  rw [info?_below_file hinfo hleads hne] at hfound
  cases hfound

/-! ## The payload of the tree -/

theorem Holds.sound {owner : Stat} {members : List TarMember} {root : Node}
    (h : Holds owner members root) : SoundEntry ([], root) :=
  ⟨fun _ hpart => absurd hpart List.not_mem_nil, h.wellFormed⟩

theorem info?_of_mem_descendants {root : Node} {entry : Located}
    (hentry : entry ∈ root.descendants []) :
    root.info? entry.1 = some entry.2.info ∧ entry.1 ≠ [] := by
  obtain ⟨below, hne, hpath, hat⟩ := mem_descendants_iff.mp hentry
  rw [List.nil_append] at hpath
  rw [hpath]
  exact ⟨by rw [Node.info?, hat]; rfl, hne⟩

def fileOf (path : List Str) (stat : Stat) (content : Bytes) : PayloadEntry where
  path := join path
  mode := octal (permissions stat.mode)
  size := content.length
  sha256 := hexdigest content

theorem payloadOf_file {path : List Str} {stat : Stat} {content : Bytes} {file : PayloadEntry} :
    payloadOf (path, .file stat content) = some file
      ↔ join path ≠ releaseManifestName ∧ file = fileOf path stat content := by
  by_cases hmanifest : join path = releaseManifestName
  · simp [payloadOf, Located.path, hmanifest]
  · simp [payloadOf, Located.path, hmanifest, fileOf, eq_comm]

theorem Holds.payloadOf_mem {owner : Stat} {members : List TarMember} {root : Node}
    (h : Holds owner members root) (hall : ∀ member ∈ members, member.Valid) {file : PayloadEntry} :
    file ∈ (root.descendants []).filterMap payloadOf
      ↔ file ∈ members.filterMap TarMember.file? := by
  have hlength : ∀ member ∈ members, member.type = .regular →
      member.content.length = member.size.toNat := by
    intro member hmember hregular
    have := (hall member hmember).read hregular
    omega
  constructor
  · intro hfile
    obtain ⟨⟨path, node⟩, hentry, hpayload⟩ := List.mem_filterMap.mp hfile
    obtain ⟨hinfo, -⟩ := info?_of_mem_descendants hentry
    cases node with
    | dir stat names child => cases hpayload
    | symlink stat toDirectory => cases hpayload
    | special stat => cases hpayload
    | file stat content =>
        obtain ⟨hmanifest, rfl⟩ := payloadOf_file.mp hpayload
        rcases h.found path _ hinfo with ⟨member, hmember, rfl, placed, hplaced, heq⟩ | ⟨heq, -⟩
        · rcases (hall member hmember).type with htype | htype
          · rw [TarMember.placed?, htype] at hplaced
            obtain rfl := Option.some.inj hplaced
            obtain ⟨rfl, rfl⟩ := Info.file.inj heq
            refine List.mem_filterMap.mpr ⟨member, hmember, ?_⟩
            have hname : member.path ≠ [releaseManifestName] := fun hpath =>
              hmanifest ((join_path_eq_manifest_iff (hall member hmember).clean).mpr hpath)
            rw [TarMember.file?, if_pos ⟨htype, hname⟩]
            simp [TarMember.payload, fileOf, createdStat, permissions_idem,
              hlength member hmember htype]
          · rw [TarMember.placed?, htype] at hplaced
            obtain rfl := Option.some.inj hplaced
            cases heq
        · cases heq
  · intro hfile
    obtain ⟨member, hmember, hentry⟩ := List.mem_filterMap.mp hfile
    rw [TarMember.file?] at hentry
    split_ifs at hentry with hcondition
    obtain rfl := Option.some.inj hentry
    obtain ⟨htype, hname⟩ := hcondition
    obtain ⟨placed, hplaced, hinfo⟩ := h.listed member hmember
    rw [TarMember.placed?, htype] at hplaced
    obtain rfl := Option.some.inj hplaced
    obtain ⟨node, hnode, hnodeInfo⟩ := Option.map_eq_some_iff.mp hinfo
    have hpath : member.path ≠ [] := fun hnil => by
      rw [(hall member hmember).root hnil] at htype
      cases htype
    cases node with
    | dir stat names child => cases hnodeInfo
    | symlink stat toDirectory => cases hnodeInfo
    | special stat => cases hnodeInfo
    | file stat content =>
        obtain ⟨rfl, rfl⟩ := Info.file.inj hnodeInfo
        have hmem := (@mem_descendants_iff root [] (member.path, _)).mpr
          ⟨member.path, hpath, (List.nil_append member.path).symm, hnode⟩
        have hmanifest : join member.path ≠ releaseManifestName := fun heq =>
          hname ((join_path_eq_manifest_iff (hall member hmember).clean).mp heq)
        refine List.mem_filterMap.mpr ⟨_, hmem, payloadOf_file.mpr ⟨hmanifest, ?_⟩⟩
        simp [TarMember.payload, fileOf, createdStat, permissions_idem, hlength member hmember htype]

theorem Holds.payloadFiles_eq {owner : Stat} {members : List TarMember} {root : Node}
    (h : Holds owner members root) (hall : ∀ member ∈ members, member.Valid)
    (hpaths : (members.map TarMember.path).Nodup) :
    payloadFiles root = sortByPath (members.filterMap TarMember.file?) := by
  have hfound := nodup_found h.wellFormed
  refine sortByPath_eq_of_perm ?_ hfound
  rw [List.perm_ext_iff_of_nodup (hfound.of_map _) ((nodup_entries hall hpaths).of_map _)]
  exact fun file => h.payloadOf_mem hall

/-! ## The entries of the tree -/

theorem safeMode_implied (owner : Stat) : SafeMode (impliedStat owner).mode := by
  change SafeMode 0o755
  decide

theorem Holds.admitted {owner : Stat} {members : List TarMember} {root : Node}
    (h : Holds owner members root) (hall : ∀ member ∈ members, member.Valid) :
    ∀ entry ∈ root.descendants [], Admitted entry := by
  rintro ⟨path, node⟩ hentry
  obtain ⟨hinfo, hpath⟩ := info?_of_mem_descendants hentry
  rcases h.found path node.info hinfo with
    ⟨member, hmember, rfl, placed, hplaced, heq⟩ | ⟨heq, hroot | ⟨member, hmember, hleads⟩⟩
  · have hvalid := hall member hmember
    obtain ⟨hprint, hlength⟩ := printable_of_leading hvalid hpath List.prefix_rfl
    refine ⟨hprint, hlength, ?_⟩
    rcases hvalid.type with htype | htype
    · rw [TarMember.placed?, htype] at hplaced
      obtain rfl := Option.some.inj hplaced
      cases node with
      | file stat content =>
          obtain ⟨rfl, rfl⟩ := Info.file.inj heq
          have hread := hvalid.read htype
          have hsize := hvalid.size htype
          refine Or.inr ⟨?_, ?_, safeMode_permissions hvalid.mode⟩
          · simp only [createdStat]
            omega
          · simp only [createdStat]
            omega
      | dir stat names child => cases heq
      | symlink stat toDirectory => cases heq
      | special stat => cases heq
    · rw [TarMember.placed?, htype] at hplaced
      obtain rfl := Option.some.inj hplaced
      cases node with
      | dir stat names child =>
          obtain rfl := Info.dir.inj heq
          exact safeMode_permissions hvalid.mode
      | file stat content => cases heq
      | symlink stat toDirectory => cases heq
      | special stat => cases heq
  · exact absurd hroot hpath
  · obtain ⟨hprint, hlength⟩ := printable_of_leading (hall member hmember) hpath hleads
    refine ⟨hprint, hlength, ?_⟩
    cases node with
    | dir stat names child =>
        obtain rfl := Info.dir.inj heq
        exact safeMode_implied owner
    | file stat content => cases heq
    | symlink stat toDirectory => cases heq
    | special stat => cases heq

theorem Holds.safeRoot {owner : Stat} {members : List TarMember} {root : Node}
    (h : Holds owner members root) (hall : ∀ member ∈ members, member.Valid) :
    SafeMode root.stat.mode := by
  have hdir := h.directory
  cases root with
  | file stat content => cases hdir
  | symlink stat toDirectory => cases hdir
  | special stat => cases hdir
  | dir stat names child =>
      rcases h.found [] (.dir stat) rfl with ⟨member, hmember, hpath, placed, hplaced, heq⟩ | ⟨heq, -⟩
      · have htype := (hall member hmember).root hpath
        rw [TarMember.placed?, htype] at hplaced
        obtain rfl := Option.some.inj hplaced
        obtain rfl := Info.dir.inj heq
        exact safeMode_permissions (hall member hmember).mode
      · obtain rfl := Info.dir.inj heq
        exact safeMode_implied owner

theorem named?_eq_at? (root : Node) (name : Str) : root.named? name = root.at? [name] := by
  cases root with
  | dir stat names child => rfl
  | file stat content => rfl
  | symlink stat toDirectory => rfl
  | special stat => rfl

theorem Holds.manifestFromTree_eq {owner : Stat} {members : List TarMember} {root : Node}
    (h : Holds owner members root) (hall : ∀ member ∈ members, member.Valid) {member : TarMember}
    (hmember : member ∈ members) (hregular : member.type = .regular)
    (hpath : member.path = [releaseManifestName]) {value : Value} {digest : Str}
    {expected : List PayloadEntry} (hvalue : strictJsonLoads member.content = .ok value)
    (hidentity : validatedPayloadIdentity value = .ok (digest, expected)) :
    manifestFromTree root = .ok (digest, expected) := by
  have hvalid := hall member hmember
  obtain ⟨hmode, hsize⟩ := hvalid.manifest hregular hpath
  obtain ⟨placed, hplaced, hinfo⟩ := h.listed member hmember
  rw [TarMember.placed?, hregular] at hplaced
  obtain rfl := Option.some.inj hplaced
  obtain ⟨node, hnode, hnodeInfo⟩ := Option.map_eq_some_iff.mp hinfo
  rw [hpath, ← named?_eq_at?] at hnode
  cases node with
  | dir stat names child => cases hnodeInfo
  | symlink stat toDirectory => cases hnodeInfo
  | special stat => cases hnodeInfo
  | file stat content =>
      obtain ⟨rfl, rfl⟩ := Info.file.inj hnodeInfo
      simp only [manifestFromTree, bind_eq_ok, orRefuse_eq_ok, hnode, Option.some.injEq,
        exists_eq_left', refuseIf_eq_ok, exists_const, hvalue, Except.ok.injEq, hidentity, and_true,
        not_not, not_lt, createdStat, permissions_idem]
      exact ⟨hmode, by omega⟩

def storedDigest (members : List TarMember) : Option Str := do
  let member ← members.find? fun member => member.path = [releaseManifestName]
  let value ← (strictJsonLoads member.content).toOption
  let manifest ← asDict value
  let identity ← asDict (get manifest (text "payload_identity"))
  asText (get identity (text "digest"))

theorem digest_of_validatedPayloadIdentity {value : Value} {digest : Str}
    {expected : List PayloadEntry} (h : validatedPayloadIdentity value = .ok (digest, expected)) :
    ∃ manifest identity, asDict value = some manifest
      ∧ asDict (get manifest (text "payload_identity")) = some identity
      ∧ asText (get identity (text "digest")) = some digest := by
  simp only [validatedPayloadIdentity, bind_eq_ok, orRefuse_eq_ok, refuseIf_eq_ok, exists_const,
    pure_eq_ok, textWith, Prod.mk.injEq] at h
  obtain ⟨fields, hfields, -, _, -, _, -, identity, hidentity, -, -, -, _, ⟨stored, hstored, -, rfl⟩,
    _, -, _, -, -, -, _, -, -, -, _, -, -, rfl, rfl⟩ := h
  exact ⟨fields, identity, hfields, hidentity, hstored⟩

theorem storedDigest_eq {members : List TarMember} (hpaths : (members.map TarMember.path).Nodup)
    {member : TarMember} (hmember : member ∈ members) (hpath : member.path = [releaseManifestName])
    {value : Value} {digest : Str} {expected : List PayloadEntry}
    (hvalue : strictJsonLoads member.content = .ok value)
    (hidentity : validatedPayloadIdentity value = .ok (digest, expected)) :
    storedDigest members = some digest := by
  obtain ⟨manifest, identity, hmanifest, hidentity, hdigest⟩ :=
    digest_of_validatedPayloadIdentity hidentity
  have hfind : members.find? (fun member => member.path = [releaseManifestName]) = some member := by
    cases hfound : members.find? fun member => member.path = [releaseManifestName] with
    | none =>
        have := List.find?_eq_none.mp hfound member hmember
        simp [hpath] at this
    | some other =>
        have hother : other.path = [releaseManifestName] := by
          have := List.find?_some hfound
          simpa using this
        rw [List.inj_on_of_nodup_map hpaths (List.mem_of_find?_eq_some hfound) hmember
          (hother.trans hpath.symm)]
  simp [storedDigest, hfind, hvalue, Except.toOption, hmanifest, hidentity, hdigest]

/-- An accepted archive unpacks to a tree that passes `verify_payload_tree` with the digest
of its manifest, exactly if no regular file of it is above another member. -/
theorem unpack_verifies_iff (owner : Stat) {members : List TarMember} {top : Str}
    (h : validateArchive members = .ok top) :
    (∃ root digest, unpack owner members = some root ∧ storedDigest members = some digest
        ∧ verifyPayloadTree root = .ok digest)
      ↔ ∀ file ∈ members, ∀ other ∈ members, ¬ FileAbove file other := by
  obtain ⟨digest, expected, haccepted⟩ := of_validateArchive h
  obtain ⟨hvalid, hpaths, hcount, hbytes, ⟨member, hmember, hregular, hpath, value, hvalue,
    hidentity⟩, hcompare⟩ := haccepted
  obtain ⟨hholds, hiff⟩ := unpack_spec owner hvalid hpaths
  rw [← hiff]
  constructor
  · rintro ⟨root, -, hroot, -⟩
    exact ⟨root, hroot⟩
  · rintro ⟨root, hroot⟩
    have htree := hholds root hroot
    have hfiles := htree.payloadFiles_eq hvalid hpaths
    refine ⟨root, digest, hroot, storedDigest_eq hpaths hmember hpath hvalue hidentity, ?_⟩
    have hscan : scanPayloadTree root = .ok (payloadFiles root) := by
      refine (scanPayloadTree_eq_ok htree.wellFormed).mpr ⟨⟨htree.directory, htree.safeRoot hvalid,
        htree.admitted hvalid, ?_, ?_⟩, rfl⟩
      · rw [hfiles, (sortByPath_perm _).length_eq]
        exact (List.length_filterMap_le _ _).trans hcount
      · rw [hfiles, totalSize_sortByPath]
        have := totalSize_entries_le hvalid
        omega
    simp only [verifyPayloadTree,
      htree.manifestFromTree_eq hvalid hmember hregular hpath hvalue hidentity, bind_eq_ok,
      Except.ok.injEq, exists_eq_left', pure_eq_ok, hscan, and_true]
    exact ⟨(), by rw [hfiles]; exact hcompare⟩

/-- An archive with `LICENSE` and `LICENSE/extra`, both regular files, is accepted, and there
is no tree to unpack it to. -/
theorem unpack_conflicting :
    validateArchive (sealArchive (text "release") (conflictingPaths.map emptyMember))
        = .ok (text "release")
      ∧ ∀ owner, unpack owner (sealArchive (text "release") (conflictingPaths.map emptyMember))
        = none := by
  have haccept := complete_conflictingPaths.sealable.validateArchive_eq
  refine ⟨haccept, fun owner => ?_⟩
  obtain ⟨digest, expected, haccepted⟩ := of_validateArchive haccept
  obtain ⟨-, hiff⟩ := unpack_spec owner haccepted.valid haccepted.paths
  by_contra hsome
  obtain ⟨root, hroot⟩ := Option.ne_none_iff_exists'.mp hsome
  have hlicense : ∀ file ∈ conflictingPaths,
      emptyMember file ∈ sealArchive (text "release") (conflictingPaths.map emptyMember) :=
    fun file hfile => List.mem_cons_of_mem _ (List.mem_map_of_mem hfile)
  refine hiff.mp ⟨root, hroot⟩ _ (hlicense (text "LICENSE", false) ?_) _
    (hlicense (text "LICENSE/extra", false) List.mem_cons_self) ?_
  · exact List.mem_cons_of_mem _ List.mem_cons_self
  · decide

theorem unpack_required :
    ∃ root digest, unpack (releaseStat 0 0)
        (sealArchive (text "release") (requiredPaths.map emptyMember)) = some root
      ∧ storedDigest (sealArchive (text "release") (requiredPaths.map emptyMember)) = some digest
      ∧ verifyPayloadTree root = .ok digest := by
  have hsealable := complete_requiredPaths.sealable
  refine (unpack_verifies_iff (releaseStat 0 0) hsealable.validateArchive_eq).mpr ?_
  have hpath : ∀ member ∈ sealArchive (text "release") (requiredPaths.map emptyMember),
      ∃ file ∈ requiredFiles, member.path = split file.1 := by
    refine List.forall_mem_cons.mpr ⟨⟨(releaseManifestName, false), List.mem_cons_self, ?_⟩, ?_⟩
    · rw [hsealable.manifest_path]
      decide
    · refine List.forall_mem_map.mpr fun file hfile => ⟨file, List.mem_cons_of_mem _ hfile, ?_⟩
      exact (emptyMember_path (complete_requiredPaths.clean file hfile)).2
  rintro file hfile other hother ⟨-, hleads, hne⟩
  obtain ⟨a, ha, hpatha⟩ := hpath file hfile
  obtain ⟨b, hb, hpathb⟩ := hpath other hother
  rw [hpatha, hpathb] at hleads hne
  exact hne (conflictingPaths_check.2.2 a ha b hb hleads)

end TrexWebui
