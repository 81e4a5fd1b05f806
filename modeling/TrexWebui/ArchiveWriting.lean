import TrexWebui.ArchiveMembers
import TrexWebui.ManifestWriting

/-!
# Writing an archive

The converse of what the validator accepts: an archive of valid members of
one top-level directory, with new names and with all required files, is
accepted if its first member is a manifest that lists the other files.
-/

namespace TrexWebui

open PyStr PyJson PosixPath Sha2 Checks

/-! ## The required files -/

def requiredPaths : List (Str × Bool) := requiredFiles.tail

def conflictingPaths : List (Str × Bool) := (text "LICENSE/extra", false) :: requiredPaths

theorem conflictingPaths_check :
    (∀ file ∈ conflictingPaths, Clean file.1 ∧ Printable file.1 ∧ file.1.length ≤ 500
      ∧ file.1 ≠ releaseManifestName) ∧ (conflictingPaths.map (·.1)).Nodup
    ∧ ∀ file ∈ requiredFiles, ∀ other ∈ requiredFiles, split file.1 <+: split other.1 →
      split file.1 = split other.1 := by
  decide +kernel

theorem mem_requiredPaths {file : Str × Bool} (h : file ∈ requiredFiles)
    (hname : file.1 ≠ releaseManifestName) : file ∈ requiredPaths := by
  have hsplit : requiredFiles = (releaseManifestName, false) :: requiredPaths := rfl
  rw [hsplit] at h
  rcases List.mem_cons.mp h with rfl | h
  · exact absurd rfl hname
  · exact h

/-! ## The loop returns -/

def Fits (required : List (Str × Bool)) (member : TarMember) : Prop :=
  ∀ file ∈ required, file.1 = join member.path →
    member.type = .regular ∧ (file.2 = true → member.mode &&& 0o111 ≠ 0)

theorem validateFile_returns {s : ArchiveScan} {member : TarMember} {name : Str}
    (hvalid : member.Valid) (hregular : member.type = .regular)
    (hbytes : s.totalBytes + member.size ≤ maxArchiveTotalBytes) :
    ∃ s', validateFile s member name (join member.path) = .ok s' ∧ s'.required = s.required := by
  have hread := hvalid.read hregular
  have hsize := hvalid.size hregular
  have hpath : member.path ≠ [] := fun hnil => by
    rw [hvalid.root hnil] at hregular
    cases hregular
  have hclean : Clean (join member.path) := clean_join hpath (TarMember.isName_path hvalid.clean)
  simp only [validateFile, bind_eq_ok, refuseIf_eq_ok, exists_const, not_or, not_lt, not_not]
  by_cases hmanifest : member.path = [releaseManifestName]
  · obtain ⟨hmode, hlimit⟩ := hvalid.manifest hregular hmanifest
    have hname := (join_path_eq_manifest_iff hvalid.clean).mpr hmanifest
    simp only [if_pos hname, bind_eq_ok, refuseIf_eq_ok, exists_const, not_not, not_lt, pure_eq_ok]
    exact ⟨_, ⟨⟨by omega, hsize⟩, hbytes, hread, hmode, hlimit, rfl⟩, rfl⟩
  · have hname := fun heq => hmanifest ((join_path_eq_manifest_iff hvalid.clean).mp heq)
    obtain ⟨hprint, hlength⟩ := printable_of_leading hvalid hpath List.prefix_rfl
    simp only [if_neg hname, if_pos (clean_ne hclean).1, bind_eq_ok, payloadEntry_eq_ok hclean,
      pure_eq_ok]
    exact ⟨_, ⟨⟨by omega, hsize⟩, hbytes, hread, _, ⟨⟨hprint, hlength, hvalid.mode⟩, rfl⟩, rfl⟩, rfl⟩

theorem validateContent_returns {s : ArchiveScan} {member : TarMember} {name : Str}
    (hvalid : member.Valid)
    (hbytes : s.totalBytes + (if member.type = .regular then member.size else 0)
      ≤ maxArchiveTotalBytes) :
    ∃ s', validateContent s member name (join member.path) = .ok s' ∧ s'.required = s.required := by
  rw [validateContent]
  split_ifs at hbytes ⊢ with hregular
  · exact validateFile_returns hvalid hregular hbytes
  · exact ⟨s, rfl, rfl⟩

theorem filter_eq_self_of_find?_eq_none {required : List (Str × Bool)} {path : Str}
    (h : required.find? (fun file => file.1 = path) = none) :
    (required.filter fun file => file.1 ≠ path) = required := by
  refine List.filter_eq_self.mpr fun file hfile => ?_
  have := List.find?_eq_none.mp h file hfile
  simpa using this

theorem validateRequired_returns {s : ArchiveScan} {member : TarMember}
    (hfits : Fits s.required member) :
    ∃ s', validateRequired s member (join member.path) = .ok s'
      ∧ s'.required = s.required.filter fun file => file.1 ≠ join member.path := by
  rw [validateRequired]
  cases hfind : s.required.find? fun file => file.1 = join member.path with
  | none => exact ⟨s, rfl, (filter_eq_self_of_find?_eq_none hfind).symm⟩
  | some file =>
      obtain ⟨hregular, hexec⟩ := hfits file (List.mem_of_find?_eq_some hfind)
        (by simpa using List.find?_some hfind)
      simp only [bind_eq_ok, refuseIf_eq_ok, exists_const, pure_eq_ok]
      refine ⟨_, ⟨not_not.mpr hregular, ?_, rfl⟩, rfl⟩
      rintro ⟨hflag, hzero⟩
      exact hexec hflag hzero

theorem validateMember_returns {index : Nat} {s : ArchiveScan} {member : TarMember}
    (hindex : index ≤ maxArchiveEntries) (hvalid : member.Valid) (htop : IsSafeTop member.top)
    (hfresh : member.plainName ∉ s.seen) (hbefore : ∀ top ∈ s.topLevel, member.top = top)
    (hbytes : s.totalBytes + (if member.type = .regular then member.size else 0)
      ≤ maxArchiveTotalBytes)
    (hfits : Fits s.required member) :
    ∃ s', validateMember index s member = .ok s'
      ∧ s'.required = s.required.filter fun file => file.1 ≠ join member.path := by
  have htopName : (parts member.plainName).headD [] = member.top := by
    rw [parts_of_relative (head_of_clean hvalid.clean), names_of_clean hvalid.clean]
    rfl
  have hname : IsName member.top :=
    hvalid.clean _ (by rw [member.split_plainName]; exact List.mem_cons_self)
  let entered : ArchiveScan :=
    { s with seen := member.plainName :: s.seen, topLevel := some member.top }
  obtain ⟨s₁, hcontent, hsame⟩ := @validateContent_returns entered member
    member.plainName hvalid hbytes
  obtain ⟨s₂, hrequired, hleft⟩ := @validateRequired_returns s₁ member
    (by rw [hsame]; exact hfits)
  refine ⟨s₂, ?_, by rw [hleft, hsame]⟩
  have hlinks : ¬ (member.type = .symlink ∨ member.type = .hardlink)
      ∧ ¬ (member.type = .device ∨ member.type = .fifo)
      ∧ ¬ (member.type ≠ .regular ∧ member.type ≠ .directory) := by
    rcases hvalid.type with htype | htype <;> simp [htype]
  have hroot : ¬ (member.plainName = member.top ∧ member.type ≠ .directory) := by
    rintro ⟨heq, hne⟩
    exact hne (hvalid.root (member.plainName_eq_top_iff.mp heq))
  have honly : ¬ ∃ top ∈ s.topLevel, member.top ≠ top := by
    rintro ⟨top, hmem, hne⟩
    exact hne (hbefore top hmem)
  have hsafe : ¬ (¬ IsSafeTop member.top ∨ member.top = dot ∨ member.top = dotDot) := by
    simp [htop, hname.2.1, hname.2.2.1]
  simp only [validateMember, bind_eq_ok, refuseIf_eq_ok, exists_const, not_lt,
    normalizedMemberName_eq_ok, validatedMode_eq_ok]
  refine ⟨hindex, member.plainName, ⟨rfl, hvalid.clean, hvalid.printable, hvalid.length⟩, hfresh, ?_⟩
  rw [htopName, member.relativeName_eq]
  exact ⟨hsafe, honly, hlinks.1, hlinks.2.1, hlinks.2.2, _, ⟨hvalid.mode, rfl⟩, hroot, s₁, hcontent,
    hrequired⟩

theorem fileBytes_nonneg {members : List TarMember} (hvalid : ∀ member ∈ members, member.Valid) :
    0 ≤ fileBytes members :=
  (Int.natCast_nonneg _).trans (totalSize_entries_le hvalid)

theorem validateMembers_returns {members : List TarMember} {index : Nat} {s : ArchiveScan} {top : Str}
    (hcount : index + members.length ≤ maxArchiveEntries + 1)
    (hvalid : ∀ member ∈ members, member.Valid) (hsafe : IsSafeTop top)
    (htops : ∀ member ∈ members, member.top = top) (hbefore : ∀ before ∈ s.topLevel, before = top)
    (hfresh : ∀ member ∈ members, member.plainName ∉ s.seen)
    (hnodup : (members.map TarMember.plainName).Nodup)
    (hbytes : s.totalBytes + fileBytes members ≤ maxArchiveTotalBytes)
    (hfits : ∀ member ∈ members, Fits s.required member) :
    ∃ s', validateMembers index s members = .ok s'
      ∧ s'.required = s.required.filter fun file => ∀ member ∈ members, file.1 ≠ join member.path := by
  induction members generalizing index s with
  | nil => exact ⟨s, rfl, by simp⟩
  | cons member members ih =>
      obtain ⟨hfirst, hrest⟩ := List.forall_mem_cons.mp hvalid
      obtain ⟨htop, htopsRest⟩ := List.forall_mem_cons.mp htops
      obtain ⟨hnew, hnewRest⟩ := List.forall_mem_cons.mp hfresh
      obtain ⟨hfit, hfitRest⟩ := List.forall_mem_cons.mp hfits
      obtain ⟨hout, hnodupRest⟩ := List.nodup_cons.mp hnodup
      have hnonneg := fileBytes_nonneg hrest
      have hsplit : fileBytes (member :: members)
          = (if member.type = .regular then member.size else 0) + fileBytes members := by
        rw [fileBytes, List.map_cons, List.sum_cons, ← fileBytes]
      rw [hsplit] at hbytes
      rw [List.length_cons] at hcount
      have hindex : index ≤ maxArchiveEntries := by omega
      obtain ⟨s₁, hs₁, hleft⟩ := validateMember_returns (s := s) hindex hfirst (htop ▸ hsafe) hnew
        (fun before hmem => htop.trans (hbefore before hmem).symm) (by omega) hfit
      obtain ⟨-, hstep⟩ := of_validateMember hs₁
      have hbeforeNext : ∀ before ∈ s₁.topLevel, before = top := by
        rw [hstep.top]
        intro before hmem
        exact (Option.some.inj hmem).symm.trans htop
      have hfreshNext : ∀ other ∈ members, other.plainName ∉ s₁.seen := by
        intro other hother hmem
        rw [hstep.seen] at hmem
        rcases List.mem_cons.mp hmem with heq | hmem
        · exact hout (heq ▸ List.mem_map_of_mem hother)
        · exact hnewRest other hother hmem
      have hfitNext : ∀ other ∈ members, Fits s₁.required other := by
        intro other hother file hfile
        rw [hleft] at hfile
        exact hfitRest other hother file (List.mem_filter.mp hfile).1
      have hbytesNext : s₁.totalBytes + fileBytes members ≤ maxArchiveTotalBytes := by
        rw [hstep.bytes]
        omega
      obtain ⟨s', hs', hend⟩ := @ih (index + 1) s₁ (by omega) hrest htopsRest hbeforeNext hfreshNext
        hnodupRest hbytesNext hfitNext
      refine ⟨s', by rw [validateMembers, hs₁]; exact hs', ?_⟩
      rw [hend, hleft, List.filter_filter]
      exact List.filter_congr fun file _ => by simp [Bool.and_comm]

/-! ## Entries of a manifest -/

theorem ofOctal_octal (mode : Nat) : ofOctal (octal (permissions mode)) = permissions mode := by
  simp only [octal, ofOctal, List.foldl_cons, List.foldl_nil, permissions]
  omega

theorem isOctal_octal (mode : Nat) : IsOctal (octal mode) := by
  refine ⟨rfl, fun c hc => ?_⟩
  simp only [octal, List.mem_cons, List.not_mem_nil, or_false] at hc
  omega

theorem TarMember.Valid.listable {member : TarMember} (hvalid : member.Valid) {file : PayloadEntry}
    (h : member.file? = some file) : file.Listable ∧ file.stripped = file := by
  have hname : member.path ≠ [releaseManifestName] := by
    rintro heq
    simp [TarMember.file?, heq] at h
  obtain ⟨hregular, rfl⟩ := TarMember.file?_eq_some h
  have hpath : member.path ≠ [] := fun hnil => by
    rw [hvalid.root hnil] at hregular
    cases hregular
  have hclean : Clean (join member.path) := clean_join hpath (TarMember.isName_path hvalid.clean)
  have hstrip : rstripSlash member.payload.path = join member.path := rstripSlash_of_clean hclean
  obtain ⟨hprint, hlength⟩ := printable_of_leading hvalid hpath List.prefix_rfl
  have hmode : SafeMode (ofOctal member.payload.mode) := by
    change SafeMode (ofOctal (octal (permissions member.mode)))
    rw [ofOctal_octal]
    exact safeMode_permissions hvalid.mode
  have hsize : member.payload.size ≤ maxArchiveFileBytes := by
    have := hvalid.size hregular
    change member.size.toNat ≤ _
    omega
  refine ⟨⟨hstrip ▸ hclean, hprint, hstrip ▸ hlength, ?_, isOctal_octal _, hmode, hsize,
    isDigest_hexdigest _⟩, ?_⟩
  · rw [hstrip]
    exact fun heq => hname ((join_path_eq_manifest_iff hvalid.clean).mp heq)
  · rw [PayloadEntry.stripped, hstrip]
    rfl

/-! ## An archive under its manifest -/

def listedEntries (files : List TarMember) : List PayloadEntry :=
  sortByPath (files.filterMap TarMember.file?)

def listedDigest (files : List TarMember) : Str :=
  (payloadDigest (listedEntries files)).toOption.getD []

def listedManifest (files : List TarMember) : Bytes :=
  canonicalBytes (writtenManifest (listedEntries files) (listedDigest files))

def manifestMember (top : Str) (files : List TarMember) : TarMember where
  name := join [top, releaseManifestName]
  type := .regular
  mode := 0o644
  size := (listedManifest files).length
  content := listedManifest files

def sealArchive (top : Str) (files : List TarMember) : List TarMember :=
  manifestMember top files :: files

/-- Members that may follow a manifest. -/
structure Sealable (top : Str) (files : List TarMember) : Prop where
  safe : IsSafeTop top
  name : IsName top
  valid : ∀ member ∈ files, member.Valid
  tops : ∀ member ∈ files, member.top = top
  names : (files.map TarMember.plainName).Nodup
  manifest : ∀ member ∈ files, member.path ≠ [releaseManifestName]
  required : ∀ file ∈ requiredFiles, file.1 ≠ releaseManifestName →
    ∃ member ∈ files, file.1 = join member.path
  fits : ∀ member ∈ files, Fits requiredFiles member
  short : ∀ file ∈ listedEntries files, file.path.length ≤ 1000 ∧ file.size ≤ 1000
  count : files.length ≤ 1000
  bytes : fileBytes files ≤ 1000
  printable : Printable (join [top, releaseManifestName])
  length : utf8Length (join [top, releaseManifestName]) ≤ 4096

section

variable {top : Str} {files : List TarMember} (h : Sealable top files)
include h

theorem Sealable.listable {file : PayloadEntry} (hfile : file ∈ listedEntries files) :
    file.Listable ∧ file.stripped = file := by
  obtain ⟨member, hmember, hentry⟩ :=
    List.mem_filterMap.mp ((sortByPath_perm _).mem_iff.mp hfile)
  exact (h.valid member hmember).listable hentry

theorem Sealable.payloadDigest_eq : payloadDigest (listedEntries files) = .ok (listedDigest files) := by
  obtain ⟨digest, hdigest⟩ := payloadDigest_returns fun file hfile => (h.listable hfile).1
  rw [listedDigest, hdigest]
  rfl

theorem Sealable.length_listedEntries : (listedEntries files).length ≤ 1000 := by
  rw [listedEntries, (sortByPath_perm _).length_eq]
  exact (List.length_filterMap_le _ _).trans h.count

theorem Sealable.length_listedManifest :
    (listedManifest files).length ≤ maxReleaseManifestBytes := by
  have hbound := length_written_le (fun file hfile => (h.listable hfile).1) h.short
    (isDigest_of_payloadDigest h.payloadDigest_eq)
  have hcount := h.length_listedEntries
  have hmax : 8000000 ≤ maxReleaseManifestBytes := by decide
  refine hbound.trans (le_trans ?_ hmax)
  omega

theorem Sealable.split_manifestMember :
    split (manifestMember top files).plainName = [top, releaseManifestName] := by
  have hnames : ∀ part ∈ [top, releaseManifestName], IsName part := by
    have hname : IsName releaseManifestName := by decide
    simp [h.name, hname]
  have hclean : Clean (join [top, releaseManifestName]) := clean_join (by simp) hnames
  have hplain : (manifestMember top files).plainName = join [top, releaseManifestName] :=
    rstripSlash_of_clean hclean
  rw [hplain, split_join (by simp) fun part hpart => (hnames part hpart).2.2.2]

theorem Sealable.manifest_top : (manifestMember top files).top = top := by
  rw [TarMember.top, h.split_manifestMember]
  rfl

theorem Sealable.manifest_path : (manifestMember top files).path = [releaseManifestName] := by
  have hsplit := h.split_manifestMember
  rw [TarMember.split_plainName] at hsplit
  exact (List.cons.inj hsplit).2

theorem Sealable.manifest_valid : (manifestMember top files).Valid := by
  have hlength := h.length_listedManifest
  have hfile : maxReleaseManifestBytes ≤ maxArchiveFileBytes := by decide
  have hplain : (manifestMember top files).plainName = join [top, releaseManifestName] := by
    rw [TarMember.plainName_eq, h.manifest_path, h.manifest_top]
    rfl
  have hclean : Clean (manifestMember top files).plainName := by
    intro part hpart
    rw [h.split_manifestMember] at hpart
    rcases List.mem_pair.mp hpart with rfl | rfl
    · exact h.name
    · decide
  have hsize : ((listedManifest files).length : Int) ≤ maxReleaseManifestBytes := by omega
  refine ⟨hclean, h.printable, hplain ▸ h.length, Or.inl rfl, ?_, ?_, fun _ => rfl, fun _ => ?_,
    fun _ _ => ⟨rfl, hsize⟩⟩
  · change SafeMode 0o644
    decide
  · rw [h.manifest_path]
    exact fun heq => absurd heq (by simp)
  · change ((listedManifest files).length : Int) ≤ _
    omega

theorem Sealable.manifest_fits : Fits requiredFiles (manifestMember top files) := by
  intro file hfile heq
  refine ⟨rfl, fun hflag => ?_⟩
  rw [h.manifest_path] at heq
  have hsplit : requiredFiles = (releaseManifestName, false) :: requiredPaths := rfl
  rw [hsplit] at hfile
  rcases List.mem_cons.mp hfile with rfl | hfile
  · cases hflag
  · exact absurd heq (conflictingPaths_check.1 file (List.mem_cons_of_mem _ hfile)).2.2.2

theorem Sealable.listedEntries_ne_nil : listedEntries files ≠ [] := by
  obtain ⟨member, hmember, hname⟩ := h.required (text "LICENSE", false)
    (List.mem_cons_of_mem _ List.mem_cons_self) (by decide)
  have hfit := h.fits member hmember (text "LICENSE", false)
    (List.mem_cons_of_mem _ List.mem_cons_self) hname
  have hentry : member.file? = some member.payload := by
    rw [TarMember.file?, if_pos ⟨hfit.1, h.manifest member hmember⟩]
  intro hnil
  have hmem : member.payload ∈ listedEntries files :=
    (sortByPath_perm _).mem_iff.mpr (List.mem_filterMap.mpr ⟨member, hmember, hentry⟩)
  rw [hnil] at hmem
  cases hmem

theorem Sealable.nodup_listedEntries : (pathsOf (listedEntries files)).Nodup := by
  have hpaths : (files.map TarMember.path).Nodup := by
    have hpairs := List.pairwise_map.mp h.names
    refine List.pairwise_map.mpr (hpairs.imp_of_mem fun {a b} ha hb hne heq => hne ?_)
    rw [a.plainName_eq, b.plainName_eq, h.tops a ha, h.tops b hb, heq]
  exact ((sortByPath_perm _).map _).nodup_iff.mpr (nodup_entries h.valid hpaths)

theorem Sealable.readReleaseManifest_eq :
    readReleaseManifest (listedManifest files) = .ok (listedDigest files, listedEntries files) := by
  have hlistable : ∀ file ∈ listedEntries files, file.Listable := fun file hfile =>
    (h.listable hfile).1
  have hstripped : (listedEntries files).map PayloadEntry.stripped = listedEntries files := by
    refine (List.map_congr_left fun file hfile => (h.listable hfile).2).trans (List.map_id _)
  have hsorted : (pathsOf (listedEntries files)).Pairwise (· ≤ ·) :=
    List.pairwise_map.mpr (sorted_sortByPath _)
  have hcount : (listedEntries files).length ≤ maxArchiveEntries := by
    have hmax : 1000 ≤ maxArchiveEntries := by decide
    exact h.length_listedEntries.trans hmax
  have hsize : totalSize (listedEntries files) ≤ maxArchiveTotalBytes := by
    have hmax : 1000 ≤ maxArchiveTotalBytes := by decide
    have hle := totalSize_entries_le h.valid
    have hbytes := h.bytes
    rw [listedEntries, totalSize_sortByPath]
    omega
  have hidentity := validatedPayloadIdentity_written hlistable h.listedEntries_ne_nil hcount hsize
    (by rw [hstripped]; exact hsorted) (by rw [hstripped]; exact h.nodup_listedEntries)
    (by rw [hstripped]; exact h.payloadDigest_eq)
  have hloads := strictJsonLoads_canonicalBytes
    (readable_written hlistable hcount (isDigest_of_payloadDigest h.payloadDigest_eq))
  rw [hstripped] at hidentity
  have hne : listedManifest files ≠ [] := by
    intro hnil
    rw [listedManifest] at hnil
    rw [hnil] at hloads
    have hempty : (strictJsonLoads []).isOk = false := by decide
    rw [hloads] at hempty
    cases hempty
  simp only [readReleaseManifest, bind_eq_ok, refuseIf_eq_ok, exists_const, not_or, not_lt]
  exact ⟨⟨hne, h.length_listedManifest⟩, _, hloads, hidentity⟩

theorem Sealable.validateArchive_eq : validateArchive (sealArchive top files) = .ok top := by
  have hvalid : ∀ member ∈ sealArchive top files, member.Valid :=
    List.forall_mem_cons.mpr ⟨h.manifest_valid, h.valid⟩
  have htops : ∀ member ∈ sealArchive top files, member.top = top :=
    List.forall_mem_cons.mpr ⟨h.manifest_top, h.tops⟩
  have hnew : ∀ member ∈ files, (manifestMember top files).plainName ≠ member.plainName := by
    intro member hmember heq
    refine h.manifest member hmember ?_
    have hsplit := h.split_manifestMember
    rw [heq, TarMember.split_plainName] at hsplit
    exact (List.cons.inj hsplit).2
  have hnodup : ((sealArchive top files).map TarMember.plainName).Nodup := by
    rw [sealArchive, List.map_cons, List.nodup_cons]
    refine ⟨fun hmem => ?_, h.names⟩
    obtain ⟨member, hmember, heq⟩ := List.mem_map.mp hmem
    exact hnew member hmember heq.symm
  have hbytes : fileBytes (sealArchive top files) ≤ maxArchiveTotalBytes := by
    have hsplit : fileBytes (sealArchive top files)
        = ((listedManifest files).length : Int) + fileBytes files := rfl
    have hmax : maxReleaseManifestBytes + 1000 ≤ maxArchiveTotalBytes := by decide
    have hlength := h.length_listedManifest
    have hfiles := h.bytes
    rw [hsplit]
    omega
  have hcount : 1 + (sealArchive top files).length ≤ maxArchiveEntries + 1 := by
    have hmax : 1001 ≤ maxArchiveEntries := by decide
    have hlength := h.count
    rw [sealArchive, List.length_cons]
    omega
  obtain ⟨s, hs, hrequired⟩ := validateMembers_returns (s := {}) hcount hvalid h.safe htops
    (fun before hmem => absurd hmem (Option.not_mem_none before))
    (fun member _ => List.not_mem_nil) hnodup
    (by change 0 + _ ≤ _; rw [Int.zero_add]; exact hbytes)
    (List.forall_mem_cons.mpr ⟨h.manifest_fits, h.fits⟩)
  have hempty : s.required = [] := by
    rw [hrequired]
    refine List.filter_eq_nil_iff.mpr fun file hfile hnone => ?_
    have hnone := of_decide_eq_true hnone
    by_cases hname : file.1 = releaseManifestName
    · refine hnone _ List.mem_cons_self ?_
      rw [h.manifest_path, hname]
      rfl
    · obtain ⟨member, hmember, heq⟩ := h.required file hfile hname
      exact hnone member (List.mem_cons_of_mem _ hmember) heq
  obtain ⟨-, hrun⟩ := of_validateMembers hs
  have htop : s.topLevel = some top := by
    rw [hrun.top _ List.mem_cons_self, h.manifest_top]
  have hentry : (manifestMember top files).file? = none := by
    simp [TarMember.file?, h.manifest_path]
  have hfiles : s.actualFiles = files.filterMap TarMember.file? := by
    rw [hrun.files, sealArchive, List.filterMap_cons_none hentry]
    rfl
  have hcontent : s.manifestContent = some (listedManifest files) := by
    simp only [sealArchive, validateMembers, bind_eq_ok] at hs
    obtain ⟨s₁, hfirst, hrest⟩ := hs
    obtain ⟨-, hstep⟩ := of_validateMember hfirst
    obtain ⟨-, hrestRun⟩ := of_validateMembers hrest
    rcases hrestRun.manifest with heq | ⟨member, hmember, -, hpath, -⟩
    · rw [heq, hstep.manifest, if_pos ⟨rfl, h.manifest_path⟩]
      rfl
    · exact absurd hpath (h.manifest member hmember)
  have hsame := (comparePayloadFiles_eq_ok h.nodup_listedEntries h.nodup_listedEntries).mpr
    (List.Perm.refl _)
  simp only [validateArchive, hs, bind_eq_ok, Except.ok.injEq, exists_eq_left', orRefuse_eq_ok, htop,
    Option.some.injEq, refuseIf_eq_ok, exists_const, hempty, hcontent, h.readReleaseManifest_eq,
    hfiles, pure_eq_ok]
  exact ⟨not_not.mpr rfl, (), hsame, trivial⟩

end

/-! ## Archives of empty files -/

/-- An empty file in the directory `release`. -/
def emptyMember (file : Str × Bool) : TarMember where
  name := text "release/" ++ file.1
  type := .regular
  mode := if file.2 then 0o755 else 0o644
  size := 0
  content := []

theorem emptyMember_plainName {file : Str × Bool} (hclean : Clean file.1) :
    split (emptyMember file).plainName = text "release" :: split file.1
      ∧ (emptyMember file).plainName = (emptyMember file).name := by
  have hname : (emptyMember file).name = text "release" ++ slash :: file.1 := by
    have htext : text "release/" = text "release" ++ [slash] := by decide
    rw [emptyMember, htext, List.append_assoc]
    rfl
  have hsplit : split (emptyMember file).name = text "release" :: split file.1 := by
    have hrelease : split (text "release") = [text "release"] := by decide
    rw [hname, split, List.splitOn_append_cons_self, ← split, ← split, hrelease]
    rfl
  have hall : Clean (emptyMember file).name := by
    intro part hpart
    rw [hsplit] at hpart
    rcases List.mem_cons.mp hpart with rfl | hpart
    · decide
    · exact hclean part hpart
  have hplain : (emptyMember file).plainName = (emptyMember file).name := rstripSlash_of_clean hall
  exact ⟨hplain ▸ hsplit, hplain⟩

theorem emptyMember_path {file : Str × Bool} (hclean : Clean file.1) :
    (emptyMember file).top = text "release" ∧ (emptyMember file).path = split file.1 := by
  obtain ⟨hsplit, -⟩ := emptyMember_plainName hclean
  rw [TarMember.split_plainName] at hsplit
  exact List.cons.inj hsplit

theorem join_emptyMember {file : Str × Bool} (hclean : Clean file.1) :
    join (emptyMember file).path = file.1 := by
  rw [(emptyMember_path hclean).2, join_split]

theorem emptyMember_valid {file : Str × Bool} (hclean : Clean file.1) (hprintable : Printable file.1)
    (hlength : file.1.length ≤ 500) (hname : file.1 ≠ releaseManifestName) :
    (emptyMember file).Valid := by
  obtain ⟨hsplit, hplain⟩ := emptyMember_plainName hclean
  obtain ⟨-, hpath⟩ := emptyMember_path hclean
  have hmodes : SafeMode 0o755 ∧ SafeMode 0o644 := by decide
  have hmode : SafeMode (emptyMember file).mode := by
    obtain ⟨path, flag⟩ := file
    cases flag
    · exact hmodes.2
    · exact hmodes.1
  have hmanifest : (emptyMember file).path ≠ [releaseManifestName] := by
    intro heq
    refine hname ?_
    rw [← join_emptyMember hclean, heq]
    rfl
  have hrelease : Printable (text "release/") := by decide
  refine ⟨?_, ?_, ?_, Or.inl rfl, hmode, ?_, fun _ => rfl, fun _ => ?_,
    fun _ heq => absurd heq hmanifest⟩
  · intro part hpart
    rw [hsplit] at hpart
    rcases List.mem_cons.mp hpart with rfl | hpart
    · decide
    · exact hclean part hpart
  · refine ⟨fun hmem => ?_, fun c hc => ?_, fun c hc => ?_⟩
    · exact (List.mem_append.mp hmem).elim hrelease.1 hprintable.1
    · exact (List.mem_append.mp hc).elim (hrelease.2.1 c) (hprintable.2.1 c)
    · exact (List.mem_append.mp hc).elim (hrelease.2.2 c) (hprintable.2.2 c)
  · rw [hplain]
    refine (length_encode_le _).trans ?_
    have hshort : (text "release/").length = 8 := by decide
    have hsum : (emptyMember file).name.length = (text "release/").length + file.1.length :=
      List.length_append
    omega
  · rw [hpath]
    exact fun hnil => absurd hnil (split_ne_nil _)
  · exact Int.natCast_nonneg _

/-- Paths of empty files that an archive may hold, the required ones among them. -/
structure Complete (paths : List (Str × Bool)) : Prop where
  clean : ∀ file ∈ paths, Clean file.1
  printable : ∀ file ∈ paths, Printable file.1 ∧ file.1.length ≤ 500
  names : ∀ file ∈ paths, file.1 ≠ releaseManifestName
  nodup : (paths.map (·.1)).Nodup
  required : ∀ file ∈ requiredFiles, file.1 ≠ releaseManifestName → file ∈ paths
  count : paths.length ≤ 1000

theorem Complete.sealable {paths : List (Str × Bool)} (h : Complete paths) :
    Sealable (text "release") (paths.map emptyMember) := by
  have hvalid : ∀ file ∈ paths, (emptyMember file).Valid := fun file hfile =>
    emptyMember_valid (h.clean file hfile) (h.printable file hfile).1 (h.printable file hfile).2
      (h.names file hfile)
  have hlisted : ∀ file ∈ listedEntries (paths.map emptyMember), ∃ path ∈ paths,
      file = (emptyMember path).payload := by
    intro file hfile
    obtain ⟨member, hmember, hentry⟩ :=
      List.mem_filterMap.mp ((sortByPath_perm _).mem_iff.mp hfile)
    obtain ⟨path, hpath, rfl⟩ := List.mem_map.mp hmember
    exact ⟨path, hpath, (TarMember.file?_eq_some hentry).2⟩
  have hbytes : ∀ l : List (Str × Bool), fileBytes (l.map emptyMember) = 0 := by
    intro l
    induction l with
    | nil => rfl
    | cons file l ih =>
        rw [fileBytes, List.map_cons, List.map_cons, List.sum_cons, ← fileBytes, ih]
        rfl
  refine ⟨by decide, by decide, ?_, ?_, ?_, ?_, ?_, ?_, ?_, ?_, ?_, by decide, by decide⟩
  · exact List.forall_mem_map.mpr hvalid
  · exact List.forall_mem_map.mpr fun file hfile => (emptyMember_path (h.clean file hfile)).1
  · have hpairs := List.pairwise_map.mp h.nodup
    refine List.pairwise_map.mpr (List.pairwise_map.mpr (hpairs.imp_of_mem ?_))
    intro a b ha hb hne heq
    refine hne ?_
    rw [(emptyMember_plainName (h.clean a ha)).2, (emptyMember_plainName (h.clean b hb)).2] at heq
    exact List.append_cancel_left heq
  · refine List.forall_mem_map.mpr fun file hfile heq => h.names file hfile ?_
    rw [← join_emptyMember (h.clean file hfile), heq]
    rfl
  · intro file hfile hname
    have hmem := h.required file hfile hname
    exact ⟨_, List.mem_map_of_mem hmem, (join_emptyMember (h.clean file hmem)).symm⟩
  · refine List.forall_mem_map.mpr fun file hfile required hrequired heq => ⟨rfl, fun hflag => ?_⟩
    rw [join_emptyMember (h.clean file hfile)] at heq
    have hmem := h.required required hrequired (heq ▸ h.names file hfile)
    have hsame : required = file := List.inj_on_of_nodup_map h.nodup hmem hfile heq
    have hmode : (emptyMember file).mode = 0o755 := by
      rw [← hsame, emptyMember, if_pos hflag]
    rw [hmode]
    decide
  · intro file hfile
    obtain ⟨path, hpath, rfl⟩ := hlisted file hfile
    have hlength := (h.printable path hpath).2
    have hjoin : (emptyMember path).payload.path = path.1 := join_emptyMember (h.clean path hpath)
    rw [hjoin]
    exact ⟨by omega, Nat.zero_le _⟩
  · rw [List.length_map]
    exact h.count
  · rw [hbytes]
    decide

theorem complete_conflictingPaths : Complete conflictingPaths := by
  obtain ⟨hpaths, hnodup, -⟩ := conflictingPaths_check
  refine ⟨fun file hfile => (hpaths file hfile).1, fun file hfile => ?_, fun file hfile => ?_, hnodup,
    fun file hfile hname => List.mem_cons_of_mem _ (mem_requiredPaths hfile hname), ?_⟩
  · exact ⟨(hpaths file hfile).2.1, (hpaths file hfile).2.2.1⟩
  · exact (hpaths file hfile).2.2.2
  · simp [conflictingPaths, requiredPaths, requiredFiles]

theorem complete_requiredPaths : Complete requiredPaths := by
  have hall := complete_conflictingPaths
  have hmem : ∀ file ∈ requiredPaths, file ∈ conflictingPaths :=
    fun file hfile => List.mem_cons_of_mem _ hfile
  exact ⟨fun file hfile => hall.clean file (hmem file hfile),
    fun file hfile => hall.printable file (hmem file hfile),
    fun file hfile => hall.names file (hmem file hfile), hall.nodup.of_cons,
    fun file hfile hname => mem_requiredPaths hfile hname,
    (Nat.le_succ _).trans hall.count⟩

end TrexWebui
