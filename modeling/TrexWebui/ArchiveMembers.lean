import Mathlib.Tactic.Ring
import TrexWebui.ArchiveSafety

/-!
# What the archive validator accepts

What one member contributes to the loop of `validate_archive`, what the loop
contributes over a list of members, and what is known of the members of an
archive that is accepted.
-/

namespace TrexWebui

open PyStr PyJson PosixPath Sha2 Checks

/-! ## Members -/

def TarMember.path (member : TarMember) : List Str := (split (rstripSlash member.name)).tail

def TarMember.plainName (member : TarMember) : Str := rstripSlash member.name

def TarMember.top (member : TarMember) : Str := (split member.plainName).headD []

def TarMember.payload (member : TarMember) : PayloadEntry where
  path := join member.path
  mode := octal (permissions member.mode)
  size := member.size.toNat
  sha256 := hexdigest member.content

def TarMember.file? (member : TarMember) : Option PayloadEntry :=
  if member.type = .regular ∧ member.path ≠ [releaseManifestName] then some member.payload else none

/-- What the validator checks of one member by itself. -/
structure TarMember.Valid (member : TarMember) : Prop where
  clean : Clean member.plainName
  printable : Printable member.name
  length : utf8Length member.plainName ≤ 4096
  type : member.type = .regular ∨ member.type = .directory
  mode : SafeMode member.mode
  root : member.path = [] → member.type = .directory
  read : member.type = .regular → (member.content.length : Int) = member.size
  size : member.type = .regular → member.size ≤ maxArchiveFileBytes
  manifest : member.type = .regular → member.path = [releaseManifestName] →
    permissions member.mode = 0o644 ∧ member.size ≤ maxReleaseManifestBytes

theorem TarMember.split_plainName (member : TarMember) :
    split member.plainName = member.top :: member.path := by
  obtain ⟨first, rest, h⟩ := List.exists_cons_of_ne_nil (split_ne_nil member.plainName)
  have h' : split (rstripSlash member.name) = first :: rest := h
  simp [TarMember.top, TarMember.path, h, h']

theorem TarMember.plainName_eq (member : TarMember) :
    member.plainName
      = if member.path = [] then member.top else member.top ++ slash :: join member.path := by
  rw [← join_split member.plainName, member.split_plainName]
  split_ifs with hpath
  · rw [hpath]
    simp [join, List.intercalate]
  · obtain ⟨next, rest, h⟩ := List.exists_cons_of_ne_nil hpath
    rw [h, join_cons_cons]

theorem TarMember.isName_path {member : TarMember} (h : Clean member.plainName) :
    ∀ part ∈ member.path, IsName part := fun part hpart =>
  h part (by rw [member.split_plainName]; exact List.mem_cons_of_mem _ hpart)

theorem TarMember.relativeName_eq (member : TarMember) :
    (if member.plainName ≠ member.top then member.plainName.drop (member.top.length + 1) else [])
      = join member.path := by
  rw [member.plainName_eq]
  by_cases hpath : member.path = []
  · simp [hpath, join]
  · have hne : member.top ++ slash :: join member.path ≠ member.top := by simp
    rw [if_neg hpath, if_pos hne]
    rw [show member.top ++ slash :: join member.path = (member.top ++ [slash]) ++ join member.path by
      simp]
    exact List.drop_left' (by simp)

theorem TarMember.plainName_eq_top_iff (member : TarMember) :
    member.plainName = member.top ↔ member.path = [] := by
  rw [member.plainName_eq]
  split_ifs with hpath <;> simp [hpath]

theorem join_path_eq_manifest_iff {member : TarMember} (h : Clean member.plainName) :
    join member.path = releaseManifestName ↔ member.path = [releaseManifestName] := by
  constructor
  · intro heq
    have hne : member.path ≠ [] := by
      rintro hnil
      rw [hnil] at heq
      exact absurd heq (by decide)
    refine join_injective (TarMember.isName_path h) (fun part hpart => ?_) hne (by simp) heq
    rw [List.mem_singleton.mp hpart]
    decide
  · intro heq
    rw [heq]
    rfl

theorem permissions_idem (mode : Nat) : permissions (permissions mode) = permissions mode :=
  Nat.mod_mod _ _

/-- The effect of one member on the variables of the loop. -/
structure Step (s s' : ArchiveScan) (member : TarMember) : Prop where
  valid : member.Valid
  fresh : member.plainName ∉ s.seen
  seen : s'.seen = member.plainName :: s.seen
  before : ∀ top ∈ s.topLevel, member.top = top
  top : s'.topLevel = some member.top
  bytes : s'.totalBytes = s.totalBytes + if member.type = .regular then member.size else 0
  bound : member.type = .regular → s'.totalBytes ≤ maxArchiveTotalBytes
  files : s'.actualFiles = s.actualFiles ++ member.file?.toList
  manifest : s'.manifestContent = if member.type = .regular ∧ member.path = [releaseManifestName]
    then some member.content else s.manifestContent

theorem payloadEntry_eq_ok {path : Str} {mode size : Nat} {digest : Str} {entry : PayloadEntry}
    (hclean : Clean path) : payloadEntry path mode size digest = .ok entry
      ↔ (Printable path ∧ utf8Length path ≤ 4096 ∧ SafeMode mode)
        ∧ entry = { path, mode := octal (permissions mode), size, sha256 := digest } := by
  simp only [payloadEntry, bind_eq_ok, normalizedPayloadPath_eq_ok, validatedMode_eq_ok, pure_eq_ok,
    rstripSlash_of_clean hclean]
  constructor
  · rintro ⟨_, ⟨rfl, -, hprint, hlength⟩, _, ⟨hmode, rfl⟩, rfl⟩
    exact ⟨⟨hprint, hlength, hmode⟩, rfl⟩
  · rintro ⟨⟨hprint, hlength, hmode⟩, rfl⟩
    exact ⟨_, ⟨rfl, hclean, hprint, hlength⟩, _, ⟨hmode, rfl⟩, rfl⟩

theorem of_validateFile {s s' : ArchiveScan} {member : TarMember} {name : Str}
    (hclean : Clean member.plainName)
    (h : validateFile s member name (join member.path) = .ok s') (hregular : member.type = .regular)
    (hpath : member.path ≠ []) :
    (member.size ≤ maxArchiveFileBytes ∧ (member.content.length : Int) = member.size
      ∧ (member.path = [releaseManifestName] →
          permissions member.mode = 0o644 ∧ member.size ≤ maxReleaseManifestBytes))
      ∧ s'.totalBytes = s.totalBytes + member.size ∧ s'.totalBytes ≤ maxArchiveTotalBytes
      ∧ s'.actualFiles = s.actualFiles ++ member.file?.toList
      ∧ s'.manifestContent = (if member.path = [releaseManifestName] then some member.content
          else s.manifestContent)
      ∧ s'.seen = s.seen ∧ s'.topLevel = s.topLevel ∧ s'.required = s.required := by
  have hjoin : Clean (join member.path) := clean_join hpath (TarMember.isName_path hclean)
  simp only [validateFile, bind_eq_ok, refuseIf_eq_ok, exists_const, not_or, not_lt, not_not] at h
  obtain ⟨⟨-, hsize⟩, htotal, hread, h⟩ := h
  by_cases hmanifest : member.path = [releaseManifestName]
  · have hname := (join_path_eq_manifest_iff hclean).mpr hmanifest
    rw [if_pos hname] at h
    simp only [bind_eq_ok, refuseIf_eq_ok, exists_const, not_not, not_lt, pure_eq_ok] at h
    obtain ⟨hmode, hlimit, rfl⟩ := h
    have htake : member.content.take (maxReleaseManifestBytes + 1) = member.content :=
      List.take_of_length_le (by omega)
    have hentry : member.file? = none := by simp [TarMember.file?, hmanifest]
    refine ⟨⟨hsize, hread, fun _ => ⟨hmode, hlimit⟩⟩, rfl, htotal, ?_, ?_, rfl, rfl, rfl⟩
    · simp [hentry]
    · simp [hmanifest, htake]
  · have hname := fun heq => hmanifest ((join_path_eq_manifest_iff hclean).mp heq)
    rw [if_neg hname, if_pos (clean_ne hjoin).1] at h
    simp only [bind_eq_ok, payloadEntry_eq_ok hjoin, pure_eq_ok] at h
    obtain ⟨_, ⟨-, rfl⟩, rfl⟩ := h
    have hentry : member.file? = some member.payload := by
      simp [TarMember.file?, hmanifest, hregular]
    refine ⟨⟨hsize, hread, fun h => absurd h hmanifest⟩, rfl, htotal, ?_, ?_, rfl, rfl, rfl⟩
    · rw [hentry]
      rfl
    · rw [if_neg hmanifest]

theorem of_validateMember {index : Nat} {s s' : ArchiveScan} {member : TarMember}
    (h : validateMember index s member = .ok s') :
    index ≤ maxArchiveEntries ∧ Step s s' member := by
  simp only [validateMember, bind_eq_ok, refuseIf_eq_ok, exists_const, not_lt,
    normalizedMemberName_eq_ok, validatedMode_eq_ok] at h
  obtain ⟨hindex, name, ⟨rfl, hclean, hprint, hlength⟩, hfresh, -, htop, hlink, hdevice, htype, _,
    ⟨hmode, -⟩, hroot, s₁, hfile, hrequired⟩ := h
  change Clean member.plainName at hclean
  have htopName : (parts member.plainName).headD [] = member.top := by
    rw [parts_of_relative (head_of_clean hclean), names_of_clean hclean]
    rfl
  change member.plainName ∉ s.seen at hfresh
  rw [show rstripSlash member.name = member.plainName from rfl, htopName] at htop hroot hfile hrequired
  rw [member.relativeName_eq] at hfile hrequired
  have htype' : member.type = .regular ∨ member.type = .directory := by
    by_contra hne
    exact htype (not_or.mp hne)
  have hrootDir : member.path = [] → member.type = .directory := by
    intro hpath
    by_contra hne
    exact hroot ⟨member.plainName_eq_top_iff.mpr hpath, hne⟩
  have hs' : s'.seen = s₁.seen ∧ s'.topLevel = s₁.topLevel ∧ s'.totalBytes = s₁.totalBytes
      ∧ s'.actualFiles = s₁.actualFiles ∧ s'.manifestContent = s₁.manifestContent := by
    cases hfind : s₁.required.find? fun file => file.1 = join member.path with
    | none =>
        rw [validateRequired, hfind] at hrequired
        obtain rfl := pure_eq_ok.mp hrequired
        exact ⟨rfl, rfl, rfl, rfl, rfl⟩
    | some file =>
        rw [validateRequired, hfind] at hrequired
        simp only [bind_eq_ok, refuseIf_eq_ok, exists_const, pure_eq_ok] at hrequired
        obtain ⟨-, -, rfl⟩ := hrequired
        exact ⟨rfl, rfl, rfl, rfl, rfl⟩
  obtain ⟨hseen', htop', hbytes', hfiles', hmanifest'⟩ := hs'
  have hbefore : ∀ top ∈ s.topLevel, member.top = top := by
    intro top hmem
    by_contra hne
    exact htop ⟨top, hmem, hne⟩
  refine ⟨hindex, ?_⟩
  rcases htype' with hregular | hdirectory
  · have hpath : member.path ≠ [] := fun hnil => by
      rw [hrootDir hnil] at hregular
      cases hregular
    rw [validateContent, if_pos hregular] at hfile
    obtain ⟨⟨hsize, hread, hmanifest⟩, hbytes, hbound, hfiles, hcontent, hseen, htopLevel, -⟩ :=
      of_validateFile hclean hfile hregular hpath
    exact { valid := ⟨hclean, hprint, hlength, Or.inl hregular, hmode, hrootDir, fun _ => hread,
              fun _ => hsize, fun _ => hmanifest⟩
            fresh := hfresh
            seen := by rw [hseen', hseen]
            before := hbefore
            top := by rw [htop', htopLevel]
            bytes := by rw [hbytes', hbytes, if_pos hregular]
            bound := fun _ => by rw [hbytes']; exact hbound
            files := by rw [hfiles', hfiles]
            manifest := by rw [hmanifest', hcontent]; simp [hregular] }
  · have hnot : member.type ≠ .regular := by rw [hdirectory]; decide
    rw [validateContent, if_neg hnot] at hfile
    obtain rfl := pure_eq_ok.mp hfile
    exact { valid := ⟨hclean, hprint, hlength, Or.inr hdirectory, hmode, hrootDir,
              fun h => absurd h hnot, fun h => absurd h hnot, fun h => absurd h hnot⟩
            fresh := hfresh
            seen := hseen'
            before := hbefore
            top := htop'
            bytes := by rw [hbytes', if_neg hnot, Int.add_zero]
            bound := fun h => absurd h hnot
            files := by rw [hfiles']; simp [TarMember.file?, hnot]
            manifest := by rw [hmanifest']; simp [hnot] }

def fileBytes (members : List TarMember) : Int :=
  (members.map fun member => if member.type = .regular then member.size else 0).sum

/-- The effect of the loop over a list of members. -/
structure Run (s s' : ArchiveScan) (members : List TarMember) : Prop where
  valid : ∀ member ∈ members, member.Valid
  fresh : ∀ member ∈ members, member.plainName ∉ s.seen
  nodup : (members.map TarMember.plainName).Nodup
  before : ∀ member ∈ members, ∀ top ∈ s.topLevel, member.top = top
  top : ∀ member ∈ members, s'.topLevel = some member.top
  bytes : s'.totalBytes = s.totalBytes + fileBytes members
  bound : s'.totalBytes = s.totalBytes ∨ s'.totalBytes ≤ maxArchiveTotalBytes
  files : s'.actualFiles = s.actualFiles ++ members.filterMap TarMember.file?
  manifest : s'.manifestContent = s.manifestContent ∨ ∃ member ∈ members, member.type = .regular
    ∧ member.path = [releaseManifestName] ∧ s'.manifestContent = some member.content

theorem of_validateMembers {members : List TarMember} {index : Nat} {s s' : ArchiveScan}
    (h : validateMembers index s members = .ok s') :
    (members ≠ [] → index + members.length ≤ maxArchiveEntries + 1) ∧ Run s s' members := by
  induction members generalizing index s with
  | nil =>
      rw [validateMembers, pure_eq_ok] at h
      subst h
      refine ⟨fun h => absurd rfl h, ?_⟩
      constructor <;> simp [fileBytes]
  | cons member members ih =>
      simp only [validateMembers, bind_eq_ok] at h
      obtain ⟨s₁, hfirst, hrest⟩ := h
      obtain ⟨hindex, hstep⟩ := of_validateMember hfirst
      obtain ⟨hcount, hrun⟩ := ih hrest
      have hfresh : ∀ other ∈ members, other.plainName ∉ member.plainName :: s.seen := by
        rw [← hstep.seen]
        exact hrun.fresh
      have htops : ∀ other ∈ members, other.top = member.top :=
        fun other hother => hrun.before other hother _ (by rw [hstep.top]; rfl)
      refine ⟨fun _ => ?_, ?_⟩
      · cases members with
        | nil => simp only [List.length_cons, List.length_nil]; omega
        | cons next members =>
            have := hcount (by simp)
            simp only [List.length_cons] at this ⊢
            omega
      · constructor
        · exact List.forall_mem_cons.mpr ⟨hstep.valid, hrun.valid⟩
        · exact List.forall_mem_cons.mpr ⟨hstep.fresh, fun other hother hmem =>
            hfresh other hother (List.mem_cons_of_mem _ hmem)⟩
        · rw [List.map_cons, List.nodup_cons]
          refine ⟨fun hmem => ?_, hrun.nodup⟩
          obtain ⟨other, hother, heq⟩ := List.mem_map.mp hmem
          exact hfresh other hother (by rw [heq]; exact List.mem_cons_self)
        · refine List.forall_mem_cons.mpr ⟨hstep.before, fun other hother top htop => ?_⟩
          rw [htops other hother]
          exact hstep.before top htop
        · refine List.forall_mem_cons.mpr ⟨?_, hrun.top⟩
          cases members with
          | nil =>
              rw [validateMembers, pure_eq_ok] at hrest
              rw [← hrest, hstep.top]
          | cons next members =>
              rw [hrun.top next List.mem_cons_self, htops next List.mem_cons_self]
        · rw [hrun.bytes, hstep.bytes, fileBytes, fileBytes, List.map_cons, List.sum_cons]
          ring
        · rcases hrun.bound with heq | hle
          · by_cases hregular : member.type = .regular
            · exact Or.inr (heq ▸ hstep.bound hregular)
            · refine Or.inl ?_
              rw [heq, hstep.bytes, if_neg hregular, Int.add_zero]
          · exact Or.inr hle
        · rw [hrun.files, hstep.files, List.filterMap_cons]
          cases member.file? <;> simp
        · rcases hrun.manifest with heq | ⟨other, hother, hregular, hpath, hcontent⟩
          · rw [heq, hstep.manifest]
            split_ifs with hmember
            · exact Or.inr ⟨member, List.mem_cons_self, hmember.1, hmember.2, rfl⟩
            · exact Or.inl rfl
          · exact Or.inr ⟨other, List.mem_cons_of_mem _ hother, hregular, hpath, hcontent⟩

/-- What the validator accepts. -/
structure Accepted (members : List TarMember) (digest : Str) (expected : List PayloadEntry) :
    Prop where
  valid : ∀ member ∈ members, member.Valid
  paths : (members.map TarMember.path).Nodup
  count : members.length ≤ maxArchiveEntries
  bytes : fileBytes members ≤ maxArchiveTotalBytes
  manifest : ∃ member ∈ members, member.type = .regular ∧ member.path = [releaseManifestName]
    ∧ ∃ value, strictJsonLoads member.content = .ok value
      ∧ validatedPayloadIdentity value = .ok (digest, expected)
  files : comparePayloadFiles expected (sortByPath (members.filterMap TarMember.file?)) = .ok ()

theorem of_validateArchive {members : List TarMember} {top : Str}
    (h : validateArchive members = .ok top) : ∃ digest expected, Accepted members digest expected := by
  simp only [validateArchive, bind_eq_ok, orRefuse_eq_ok, refuseIf_eq_ok, exists_const, pure_eq_ok,
    Prod.exists, readReleaseManifest] at h
  obtain ⟨s, hs, _, htop, -, content, hcontent, digest, expected, ⟨-, value, hvalue, hidentity⟩, _,
    hcompare, rfl⟩ := h
  obtain ⟨hcount, hrun⟩ := of_validateMembers hs
  have hmanifest : ∃ member ∈ members, member.type = .regular
      ∧ member.path = [releaseManifestName] ∧ member.content = content := by
    rcases hrun.manifest with heq | ⟨member, hmember, hregular, hpath, heq⟩
    · rw [heq] at hcontent
      cases hcontent
    · rw [heq] at hcontent
      exact ⟨member, hmember, hregular, hpath, Option.some.inj hcontent⟩
  obtain ⟨member, hmember, hregular, hpath, rfl⟩ := hmanifest
  refine ⟨digest, expected, hrun.valid, ?_, ?_, ?_, ⟨member, hmember, hregular, hpath, value, hvalue,
    hidentity⟩, ?_⟩
  · have hpairs := List.pairwise_map.mp hrun.nodup
    refine List.pairwise_map.mpr (hpairs.imp_of_mem fun {a b} ha hb hne heq => hne ?_)
    have htops : a.top = b.top :=
      Option.some.inj ((hrun.top a ha).symm.trans (hrun.top b hb))
    rw [a.plainName_eq, b.plainName_eq, htops, heq]
  · have := hcount (by rintro rfl; cases hmember)
    omega
  · have hbytes := hrun.bytes
    rcases hrun.bound with heq | hle
    · have hzero : ({} : ArchiveScan).totalBytes = 0 := rfl
      have : fileBytes members = 0 := by omega
      rw [this]
      decide
    · have hzero : ({} : ArchiveScan).totalBytes = 0 := rfl
      omega
  · rw [hrun.files] at hcompare
    exact hcompare

/-! ## The files of an archive -/

theorem TarMember.file?_eq_some {member : TarMember} {file : PayloadEntry}
    (h : member.file? = some file) : member.type = .regular ∧ file = member.payload := by
  rw [TarMember.file?] at h
  split_ifs at h with hcondition
  exact ⟨hcondition.1, (Option.some.inj h).symm⟩

theorem nodup_entries {members : List TarMember} (hall : ∀ member ∈ members, member.Valid)
    (hpaths : (members.map TarMember.path).Nodup) :
    (pathsOf (members.filterMap TarMember.file?)).Nodup := by
  have hpairs := List.pairwise_map.mp hpaths
  refine List.pairwise_map.mpr (List.pairwise_filterMap.mpr ?_)
  refine hpairs.imp_of_mem fun {a b} ha hb hne file hfile other hother heq => ?_
  obtain ⟨hrega, rfl⟩ := TarMember.file?_eq_some hfile
  obtain ⟨hregb, rfl⟩ := TarMember.file?_eq_some hother
  have hnil : ∀ member ∈ members, member.type = .regular → member.path ≠ [] := by
    intro member hmember hregular hpath
    rw [(hall member hmember).root hpath] at hregular
    cases hregular
  exact hne (join_injective (TarMember.isName_path (hall a ha).clean)
    (TarMember.isName_path (hall b hb).clean) (hnil a ha hrega) (hnil b hb hregb) heq)

theorem totalSize_entries_le {members : List TarMember} (hall : ∀ member ∈ members, member.Valid) :
    (totalSize (members.filterMap TarMember.file?) : Int) ≤ fileBytes members := by
  induction members with
  | nil => simp [totalSize, fileBytes]
  | cons member members ih =>
      obtain ⟨hvalid, hrest⟩ := List.forall_mem_cons.mp hall
      have hle := ih hrest
      rw [fileBytes, List.map_cons, List.sum_cons, ← fileBytes, List.filterMap_cons]
      cases hentry : member.file? with
      | none =>
          split_ifs with hregular
          · have := hvalid.read hregular
            simp only
            omega
          · simp only
            omega
      | some file =>
          obtain ⟨hregular, rfl⟩ := TarMember.file?_eq_some hentry
          have := hvalid.read hregular
          rw [if_pos hregular]
          simp only [totalSize, List.map_cons, List.sum_cons, TarMember.payload] at hle ⊢
          omega

theorem totalSize_sortByPath (files : List PayloadEntry) :
    totalSize (sortByPath files) = totalSize files :=
  ((sortByPath_perm files).map _).sum_eq

/-! ## Names of directories -/

theorem join_append {l m : List Str} (hl : l ≠ []) (hm : m ≠ []) :
    join (l ++ m) = join l ++ slash :: join m := by
  induction l with
  | nil => exact absurd rfl hl
  | cons first l ih =>
      cases l with
      | nil =>
          obtain ⟨next, m, rfl⟩ := List.exists_cons_of_ne_nil hm
          rw [List.singleton_append, join_cons_cons]
          simp [join, List.intercalate]
      | cons next l =>
          have hrest := ih (by simp)
          rw [List.cons_append, List.cons_append, join_cons_cons, join_cons_cons, ← List.cons_append,
            hrest]
          simp

theorem join_part {path query : List Str} (hquery : query ≠ []) (h : query <+: path) (top : Str) :
    join query <:+: join (top :: path) := by
  obtain ⟨below, rfl⟩ := h
  have htop : join (top :: (query ++ below)) = top ++ slash :: join (query ++ below) := by
    obtain ⟨first, query, rfl⟩ := List.exists_cons_of_ne_nil hquery
    exact join_cons_cons _ _ _
  rw [htop]
  cases below with
  | nil =>
      refine ⟨top ++ [slash], [], ?_⟩
      simp
  | cons next below =>
      refine ⟨top ++ [slash], slash :: join (next :: below), ?_⟩
      rw [join_append hquery (by simp)]
      simp

theorem utf8Length_of_part {part whole : Str} (h : part <:+: whole) :
    utf8Length part ≤ utf8Length whole := by
  obtain ⟨front, back, rfl⟩ := h
  simp only [utf8Length, List.flatMap_append, List.length_append]
  omega

/-- The path of a member, and of each directory above it, is printable and not too long. -/
theorem printable_of_leading {member : TarMember} (h : member.Valid) {query : List Str}
    (hquery : query ≠ []) (hleads : query <+: member.path) :
    Printable (join query) ∧ utf8Length (join query) ≤ 4096 := by
  have hpart : join query <:+: member.plainName := by
    rw [← join_split member.plainName, member.split_plainName]
    exact join_part hquery hleads member.top
  have hmem : ∀ c ∈ join query, c ∈ member.name := fun c hc =>
    (rstripSlash_leads member.name).subset (hpart.subset hc)
  obtain ⟨hback, hcontrol, hscalar⟩ := h.printable
  exact ⟨⟨fun hc => hback (hmem _ hc), fun c hc => hcontrol c (hmem c hc),
    fun c hc => hscalar c (hmem c hc)⟩, (utf8Length_of_part hpart).trans h.length⟩

theorem safeMode_permissions {mode : Nat} (h : SafeMode mode) : SafeMode (permissions mode) := by
  rw [SafeMode, permissions_idem]
  exact h

end TrexWebui
