import Mathlib.Data.Set.Function
import TrexWebui.ReleaseVerifiers

/-!
# The payload digest identifies the payload

The digest of a release is taken over a canonical text of its file list, and
the list has a digest of each file. So as long as SHA-256 has no collision
among the messages that are hashed, two manifests with one digest list the same
files, and two trees that the installer accepts for one digest have the same
files with the same modes and contents.

The files of a tree are all regular files below its root but the manifest, the
`.env` of an installed release and what is below its Python runtimes.
-/

namespace TrexWebui

open PyStr PyJson PosixPath Sha2 Checks

/-! ## The text of a file list -/

def CollisionFree (messages : Set Bytes) : Prop := Set.InjOn hexdigest messages

def hashedMaterial (files : List PayloadEntry) : Set Bytes :=
  fun material => canonicalJsonBytes (payloadMaterial files) = .ok material

theorem sortKeys_eq_of_canonicalJsonBytes {v w : Value} (hv : Readable v) (hw : Readable w)
    {material : Bytes} (h : canonicalJsonBytes v = .ok material)
    (h' : canonicalJsonBytes w = .ok material) : sortKeys v = sortKeys w := by
  obtain ⟨b, hb, hdecode, hloads⟩ := loads_dumps hv
  obtain ⟨b', hb', hdecode', hloads'⟩ := loads_dumps hw
  rw [canonicalJsonBytes, orRefuse_eq_ok] at h h'
  rw [hb] at h
  rw [hb'] at h'
  cases h
  cases h'
  rw [hdecode] at hdecode'
  rw [Option.some.inj hdecode', hloads'] at hloads
  exact (Except.ok.inj hloads).symm

theorem sortItems_value (files : List PayloadEntry) :
    sortItems (files.map PayloadEntry.value) = files.map payloadItem := by
  induction files with
  | nil => rfl
  | cons file files ih =>
      rw [List.map_cons, List.map_cons, sortItems, ih]
      congr 1

theorem sortKeys_payloadMaterial (files : List PayloadEntry) :
    sortKeys (payloadMaterial files)
      = .obj [(text "algorithm", .str payloadIdentityAlgorithm),
          (text "files", .arr (files.map payloadItem))] := by
  rw [← sortItems_value]
  rfl

theorem payloadItem_injective : Function.Injective payloadItem := by
  intro file other h
  simp only [payloadItem, Value.obj.injEq, List.cons.injEq, Prod.mk.injEq, Value.str.injEq,
    Value.int.injEq, Int.natCast_inj, true_and, and_true] at h
  obtain ⟨hmode, hpath, hdigest, hsize⟩ := h
  cases file
  cases other
  simp only at hmode hpath hdigest hsize
  rw [hmode, hpath, hdigest, hsize]

/-- File lists with one digest are the same, if their texts do not collide. -/
theorem files_eq_of_payloadDigest {files others : List PayloadEntry}
    (hfiles : ∀ file ∈ files, file.Encodable) (hothers : ∀ file ∈ others, file.Encodable)
    (hfree : CollisionFree (hashedMaterial files ∪ hashedMaterial others)) {digest : Str}
    (h : payloadDigest files = .ok digest) (h' : payloadDigest others = .ok digest) :
    files = others := by
  obtain ⟨material, hmaterial, hdigest⟩ := payloadDigest_eq_ok.mp h
  obtain ⟨material', hmaterial', hdigest'⟩ := payloadDigest_eq_ok.mp h'
  have hsame : material = material' :=
    hfree (Or.inl hmaterial) (Or.inr hmaterial') (hdigest.trans hdigest'.symm)
  subst hsame
  have hsorted := sortKeys_eq_of_canonicalJsonBytes (readable_payloadMaterial hfiles)
    (readable_payloadMaterial hothers) hmaterial hmaterial'
  rw [sortKeys_payloadMaterial, sortKeys_payloadMaterial] at hsorted
  simp only [Value.obj.injEq, List.cons.injEq, Prod.mk.injEq, Value.arr.injEq, true_and,
    and_true] at hsorted
  exact List.map_injective_iff.mpr payloadItem_injective hsorted

/-! ## The lists that the validators read -/

theorem validatedEntry_listed {item : Value} {entry : PayloadEntry}
    (h : validatedEntry item = .ok entry) :
    entry.Encodable ∧ (listedFile item).stripped = entry := by
  simp only [validatedEntry, bind_eq_ok, orRefuse_eq_ok, refuseIf_eq_ok, exists_const, pure_eq_ok,
    textWith, not_not] at h
  obtain ⟨fields, hfields, -, raw, hraw, path, hpath, -, -, _, ⟨mode, hmode, hoctal, rfl⟩, _, -, size,
    hsize, hrange, _, ⟨digest, hdigest, hisdigest, rfl⟩, rfl⟩ := h
  obtain ⟨rfl, -, ⟨-, -, hscalar⟩, -⟩ := normalizedPayloadPath_eq_ok.mp hpath
  refine ⟨PayloadEntry.encodable ?_ hoctal ?_ hisdigest, ?_⟩
  · intro c hc
    exact hscalar c ((rstripSlash_leads raw).subset hc)
  · rw [not_or, not_lt, not_lt] at hrange
    change size.toNat ≤ maxArchiveFileBytes
    omega
  · simp only [listedFile, PayloadEntry.stripped, hfields, hraw, hmode, hsize, hdigest,
      Option.getD_some]

theorem validatedFiles_listed {items : List Value} {total : Nat} {entries : List PayloadEntry}
    (h : validatedFiles total items = .ok entries) :
    (∀ file ∈ entries, file.Encodable)
      ∧ (items.map listedFile).map PayloadEntry.stripped = entries := by
  induction items generalizing total entries with
  | nil =>
      rw [validatedFiles, pure_eq_ok] at h
      subst h
      exact ⟨List.forall_mem_nil _, rfl⟩
  | cons item items ih =>
      simp only [validatedFiles, bind_eq_ok, refuseIf_eq_ok, exists_const, pure_eq_ok] at h
      obtain ⟨entry, hentry, -, rest, hrest, rfl⟩ := h
      obtain ⟨hencodable, hfirst⟩ := validatedEntry_listed hentry
      obtain ⟨hall, hmap⟩ := ih hrest
      refine ⟨List.forall_mem_cons.mpr ⟨hencodable, hall⟩, ?_⟩
      rw [List.map_cons, List.map_cons, hfirst, hmap]

theorem releaseEntry_encodable {item : Value} {entry : PayloadEntry}
    (h : releaseEntry item = .ok entry) : entry.Encodable := by
  simp only [releaseEntry, requireDigest, bind_eq_ok, orRefuse_eq_ok, refuseIf_eq_ok, exists_const,
    pure_eq_ok, textWith, not_not] at h
  obtain ⟨fields, -, -, path, hpath, -, _, ⟨mode, -, hoctal, rfl⟩, -, size, -, hrange, _,
    ⟨digest, -, hisdigest, rfl⟩, rfl⟩ := h
  simp only [normalizedReleasePath, bind_eq_ok, orRefuse_eq_ok, refuseIf_eq_ok, exists_const,
    pure_eq_ok] at hpath
  obtain ⟨raw, -, -, -, -, encoded, hencoded, -, rfl⟩ := hpath
  obtain ⟨hscalar, -⟩ := encode_eq_some_iff.mp hencoded
  refine PayloadEntry.encodable hscalar hoctal ?_ hisdigest
  rw [not_or, not_lt, not_lt] at hrange
  change size.toNat ≤ maxArchiveFileBytes
  omega

theorem releaseFiles_encodable {items : List Value} {total : Nat} {entries : List PayloadEntry}
    (h : releaseFiles total items = .ok entries) : ∀ file ∈ entries, file.Encodable := by
  induction items generalizing total entries with
  | nil =>
      rw [releaseFiles, pure_eq_ok] at h
      subst h
      exact List.forall_mem_nil _
  | cons item items ih =>
      simp only [releaseFiles, bind_eq_ok, refuseIf_eq_ok, exists_const, pure_eq_ok] at h
      obtain ⟨entry, hentry, -, rest, hrest, rfl⟩ := h
      exact List.forall_mem_cons.mpr ⟨releaseEntry_encodable hentry, ih hrest⟩

theorem of_manifestIdentity {host : StoreHost} {root : Node} {digest : Str}
    {files : List PayloadEntry} {bytes : Nat}
    (h : manifestIdentity host root = .ok (digest, files, bytes)) :
    (∀ file ∈ files, file.Encodable) ∧ payloadDigest files = .ok digest := by
  simp only [manifestIdentity, bind_eq_ok, orRefuse_eq_ok] at h
  obtain ⟨manifest, -, h⟩ := h
  cases manifest with
  | dir stat names child => cases h
  | symlink stat toDirectory => cases h
  | special stat => cases h
  | file stat content =>
      simp only [bind_eq_ok, refuseIf_eq_ok, exists_const, pure_eq_ok, Prod.exists,
        Prod.mk.injEq] at h
      obtain ⟨-, parsed, -, _, _, hidentity, rfl, rfl, -⟩ := h
      simp only [releaseIdentity, bind_eq_ok, orRefuse_eq_ok, refuseIf_eq_ok, exists_const,
        pure_eq_ok, not_not, Prod.mk.injEq] at hidentity
      obtain ⟨_, -, -, _, -, -, -, -, _, -, _, -, _, -, -, _, hvalidated, -, _, hdigest, rfl, rfl, rfl⟩ :=
        hidentity
      exact ⟨releaseFiles_encodable hvalidated, hdigest⟩

/-! ## The files of a tree -/

structure ReleaseFile where
  path : Str
  mode : Nat
  content : Bytes

def ReleaseFile.entry (file : ReleaseFile) : PayloadEntry :=
  { path := file.path, mode := octal file.mode, size := file.content.length,
    sha256 := hexdigest file.content }

/-- A regular file that is neither the manifest nor the `.env` at the root. -/
def releaseFileOf (entry : Located) : Option ReleaseFile :=
  match entry.2 with
  | .file stat content =>
      if entry.path = dotenvName ∨ entry.path = releaseManifestName then none
      else some ⟨entry.path, permissions stat.mode, content⟩
  | _ => none

/-- A Python runtime: a name at the root that leads to a directory. -/
def IsRuntime (path : List Str) (name : Str) (node : Node) : Prop :=
  path = [] ∧ isRuntimeName name = true ∧ node.leadsToDir = true

instance (path : List Str) (name : Str) (node : Node) : Decidable (IsRuntime path name node) :=
  inferInstanceAs (Decidable (_ ∧ _))

/-- All that is below a directory but the runtimes, with the path. -/
def releaseEntries (path : List Str) : Node → List Located
  | .dir _ names child =>
      (names.filter fun name => ¬IsRuntime path name (child name)).flatMap fun name =>
        (path ++ [name], child name) :: (child name).descendants (path ++ [name])
  | _ => []

def releasePayload (root : Node) : List ReleaseFile := (releaseEntries [] root).filterMap releaseFileOf

theorem releaseEntries_below {path : List Str} (h : path ≠ []) (node : Node) :
    releaseEntries path node = node.descendants path := by
  cases node with
  | dir stat names child =>
      have hall : (names.filter fun name => ¬IsRuntime path name (child name)) = names := by
        refine List.filter_eq_self.mpr fun name _ => ?_
        rw [decide_eq_true_eq]
        exact fun hruntime => h hruntime.1
      rw [releaseEntries, hall, Node.descendants]
  | file stat content => rfl
  | symlink stat toDirectory => rfl
  | special stat => rfl

theorem scanReleaseFile_files {host : StoreHost} {path : List Str} {node : Node}
    {files : List PayloadEntry} (h : scanReleaseFile host path node = .ok files) :
    files = ((releaseFileOf (path, node)).map ReleaseFile.entry).toList := by
  have hother : ∀ {u : Unit}, validateDotenv host node = .ok u → ∃ stat content, node = .file stat content := by
    intro u hdotenv
    cases node with
    | file stat content => exact ⟨stat, content, rfl⟩
    | dir stat names child => cases hdotenv
    | symlink stat toDirectory => cases hdotenv
    | special stat => cases hdotenv
  unfold scanReleaseFile at h
  by_cases hdotenv : join path = dotenvName
  · simp only [if_pos hdotenv, bind_eq_ok, pure_eq_ok] at h
    obtain ⟨u, hvalid, rfl⟩ := h
    obtain ⟨stat, content, rfl⟩ := hother hvalid
    have hpath : Located.path (path, Node.file stat content) = dotenvName := hdotenv
    simp [releaseFileOf, hpath]
  · simp only [if_neg hdotenv] at h
    cases node with
    | dir stat names child => cases h
    | symlink stat toDirectory => cases h
    | special stat => cases h
    | file stat content =>
        have hpath : Located.path (path, Node.file stat content) = join path := rfl
        simp only [bind_eq_ok, refuseIf_eq_ok, exists_const] at h
        obtain ⟨-, -, h⟩ := h
        by_cases hmanifest : join path = releaseManifestName
        · rw [if_pos hmanifest, pure_eq_ok] at h
          subst h
          simp [releaseFileOf, hpath, hmanifest]
        · simp only [if_neg hmanifest, bind_eq_ok, refuseIf_eq_ok, exists_const, pure_eq_ok] at h
          obtain ⟨-, rfl⟩ := h
          simp [releaseFileOf, hpath, hdotenv, hmanifest, ReleaseFile.entry]

theorem scanReleaseDirectory_files {host : StoreHost} {node : Node} {path : List Str}
    {files : List PayloadEntry} (h : scanReleaseDirectory host path node = .ok files) :
    files.Perm (((releaseEntries path node).filterMap releaseFileOf).map ReleaseFile.entry) := by
  induction node generalizing path files with
  | file stat content => cases h
  | symlink stat toDirectory => cases h
  | special stat => cases h
  | dir stat names child ih =>
      rw [scanReleaseDirectory] at h
      simp only [bind_eq_ok, refuseIf_eq_ok, exists_const, pure_eq_ok] at h
      obtain ⟨-, -, -, -, -, found, hfound, more, hmore, rfl⟩ := h
      -- What is entered is what leads to a directory and is no runtime.
      have hkept : ((names.filter fun name => (child name).leadsToDir).filter fun name =>
          name ∉ if path = [] then
            (names.filter fun name => (child name).leadsToDir).filter isRuntimeName else [])
          = (names.filter fun name => ¬IsRuntime path name (child name)).filter fun name =>
            (child name).leadsToDir := by
        simp only [List.filter_filter]
        refine List.filter_congr fun name hname => ?_
        by_cases hpath : path = []
        · by_cases hlead : (child name).leadsToDir = true
          · simp [hpath, hlead, IsRuntime, hname]
          · simp [hlead]
        · simp [hpath, IsRuntime]
      have hplain : (names.filter fun name => !(child name).leadsToDir)
          = (names.filter fun name => ¬IsRuntime path name (child name)).filter fun name =>
            !(child name).leadsToDir := by
        rw [List.filter_filter]
        refine List.filter_congr fun name _ => ?_
        by_cases hlead : (child name).leadsToDir = true
        · simp [hlead]
        · simp [hlead, IsRuntime]
      rw [hkept] at hmore
      rw [hplain] at hfound
      rw [releaseEntries]
      generalize names.filter (fun name => ¬IsRuntime path name (child name)) = entered at *
      have hfiles : List.Forall₂ (fun name (files : List PayloadEntry) =>
          files.Perm ((releaseFileOf (path ++ [name], child name)).map ReleaseFile.entry).toList)
          (entered.filter fun name => !(child name).leadsToDir) found :=
        (mapM_eq_ok.mp hfound).imp fun name files hscan => by rw [scanReleaseFile_files hscan]
      have hbelow : List.Forall₂ (fun name (files : List PayloadEntry) =>
          files.Perm ((((child name).descendants (path ++ [name])).filterMap releaseFileOf).map
            ReleaseFile.entry))
          (entered.filter fun name => (child name).leadsToDir) more :=
        (mapM_eq_ok.mp hmore).imp fun name files hscan => by
          have hperm := ih name hscan
          rwa [releaseEntries_below (by simp)] at hperm
      have hleft := flatten_perm hfiles
      have hright := flatten_perm hbelow
      rw [flatMap_filter_of_nil (by
        intro name _ hlead
        cases hnode : child name with
        | file stat content => rw [hnode] at hlead; cases hlead
        | dir stat names child => rfl
        | symlink stat toDirectory => rfl
        | special stat => rfl)] at hleft
      rw [flatMap_filter_of_nil (by
        intro name _ hlead
        cases hnode : child name with
        | dir stat names child => rw [hnode] at hlead; cases hlead
        | file stat content => rfl
        | symlink stat toDirectory => rfl
        | special stat => rfl)] at hright
      refine (hleft.append hright).trans ((List.flatMap_append_perm entered _ _).trans ?_)
      rw [List.filterMap_flatMap, List.map_flatMap]
      refine List.Perm.of_eq (List.flatMap_congr fun name _ => ?_)
      rw [List.filterMap_cons]
      cases releaseFileOf (path ++ [name], child name) <;> rfl

theorem scanReleaseTree_files {host : StoreHost} {store : Option Nat} {root : Node}
    {files : List PayloadEntry} (h : scanReleaseTree host store root = .ok files) :
    files.Perm ((releasePayload root).map ReleaseFile.entry) := by
  simp only [scanReleaseTree, bind_eq_ok, refuseIf_eq_ok, exists_const, pure_eq_ok] at h
  obtain ⟨-, -, -, found, hfound, rfl⟩ := h
  exact (sortByPath_perm found).trans (scanReleaseDirectory_files hfound)

theorem of_verifyReleaseTree {host : StoreHost} {store : Option Nat} {root : Node} {digest : Str}
    {result : Str × Nat} (h : verifyReleaseTree host store root (some digest) = .ok result) :
    ∃ files bytes, manifestIdentity host root = .ok (digest, files, bytes)
      ∧ files.Perm ((releasePayload root).map ReleaseFile.entry) := by
  simp only [verifyReleaseTree, bind_eq_ok, refuseIf_eq_ok, exists_const, Prod.exists] at h
  obtain ⟨read, files, bytes, hmanifest, hexpected, actual, hscan, -, -, hsame, -⟩ := h
  rw [not_not] at hsame
  subst hsame
  have hread : read = digest := by
    by_contra hne
    exact hexpected ⟨digest, rfl, hne⟩
  rw [hread] at hmanifest
  exact ⟨actual, bytes, hmanifest, scanReleaseTree_files hscan⟩

theorem octal_injective {m n : Nat} (hm : m < 0o10000) (hn : n < 0o10000) (h : octal m = octal n) :
    m = n := by
  simp only [octal, List.cons.injEq, and_true] at h
  omega

theorem mode_lt_of_mem {root : Node} {file : ReleaseFile} (h : file ∈ releasePayload root) :
    file.mode < 0o10000 := by
  obtain ⟨entry, -, hentry⟩ := List.mem_filterMap.mp h
  rw [releaseFileOf.eq_def] at hentry
  split at hentry
  · split_ifs at hentry
    cases hentry
    exact Nat.mod_lt _ (by decide)
  · cases hentry

/-- What the installer hashes of a tree: the text of the file list and the contents. -/
def hashedByInstaller (host : StoreHost) (root : Node) : Set Bytes := fun message =>
  (∃ digest files bytes, manifestIdentity host root = .ok (digest, files, bytes)
    ∧ message ∈ hashedMaterial files)
  ∨ ∃ file ∈ releasePayload root, message = file.content

theorem mem_releasePayload_of_digest {host : StoreHost} {store store' : Option Nat}
    {root root' : Node} {digest : Str} {result result' : Str × Nat}
    (h : verifyReleaseTree host store root (some digest) = .ok result)
    (h' : verifyReleaseTree host store' root' (some digest) = .ok result')
    (hfree : CollisionFree (hashedByInstaller host root ∪ hashedByInstaller host root'))
    {file : ReleaseFile} (hfile : file ∈ releasePayload root) : file ∈ releasePayload root' := by
  obtain ⟨files, bytes, hmanifest, hperm⟩ := of_verifyReleaseTree h
  obtain ⟨files', bytes', hmanifest', hperm'⟩ := of_verifyReleaseTree h'
  obtain ⟨hencodable, hdigest⟩ := of_manifestIdentity hmanifest
  obtain ⟨hencodable', hdigest'⟩ := of_manifestIdentity hmanifest'
  have hlists : CollisionFree (hashedMaterial files ∪ hashedMaterial files') := by
    refine hfree.mono (Set.union_subset_union ?_ ?_)
    · exact fun message hmessage => Or.inl ⟨digest, files, bytes, hmanifest, hmessage⟩
    · exact fun message hmessage => Or.inl ⟨digest, files', bytes', hmanifest', hmessage⟩
  have hsame := files_eq_of_payloadDigest hencodable hencodable' hlists hdigest hdigest'
  subst hsame
  have hentry : file.entry ∈ (releasePayload root').map ReleaseFile.entry :=
    hperm'.mem_iff.mp (hperm.mem_iff.mpr (List.mem_map_of_mem hfile))
  obtain ⟨other, hother, heq⟩ := List.mem_map.mp hentry
  obtain ⟨hpath, hmode, -, hhash⟩ := PayloadEntry.mk.inj heq
  have hcontent : other.content = file.content :=
    hfree (Or.inr (Or.inr ⟨other, hother, rfl⟩)) (Or.inl (Or.inr ⟨file, hfile, rfl⟩)) hhash
  have hmodes := octal_injective (mode_lt_of_mem hother) (mode_lt_of_mem hfile) hmode
  have hfiles : other = file := by
    cases other
    cases file
    exact ReleaseFile.mk.injEq .. ▸ ⟨hpath, hmodes, hcontent⟩
  rw [← hfiles]
  exact hother

/-! ## The digest identifies the payload -/

/-- Manifests that the packaging side accepts with one digest have one file list, written the same
but for slashes at the end of a path; trees that the installer accepts for one digest have the same
files, with the same modes and contents. -/
theorem payload_identified :
    (∀ (manifest manifest' : Value) (digest : Str) (files files' : List PayloadEntry),
      validatedPayloadIdentity manifest = .ok (digest, files) →
      validatedPayloadIdentity manifest' = .ok (digest, files') →
      CollisionFree (hashedMaterial files ∪ hashedMaterial files') →
        files = files' ∧ (listedFiles manifest).map PayloadEntry.stripped
          = (listedFiles manifest').map PayloadEntry.stripped)
    ∧ ∀ (host : StoreHost) (store store' : Option Nat) (root root' : Node) (digest : Str)
        (result result' : Str × Nat),
      verifyReleaseTree host store root (some digest) = .ok result →
      verifyReleaseTree host store' root' (some digest) = .ok result' →
      CollisionFree (hashedByInstaller host root ∪ hashedByInstaller host root') →
        ∀ file, file ∈ releasePayload root ↔ file ∈ releasePayload root' := by
  constructor
  · intro manifest manifest' digest files files' h h' hfree
    obtain ⟨-, -, hdigest, items, hitems, hlisted⟩ := of_validatedPayloadIdentity h
    obtain ⟨-, -, hdigest', items', hitems', hlisted'⟩ := of_validatedPayloadIdentity h'
    obtain ⟨hencodable, hmap⟩ := validatedFiles_listed hitems
    obtain ⟨hencodable', hmap'⟩ := validatedFiles_listed hitems'
    have hsame := files_eq_of_payloadDigest hencodable hencodable' hfree hdigest hdigest'
    refine ⟨hsame, ?_⟩
    rw [← hlisted, ← hlisted', hmap, hmap', hsame]
  · intro host store store' root root' digest result result' h h' hfree file
    refine ⟨mem_releasePayload_of_digest h h' hfree, mem_releasePayload_of_digest h' h ?_⟩
    rw [Set.union_comm]
    exact hfree

/-! ## The release of one file -/

theorem validated_license {path : Str} (hpath : rstripSlash path = text "LICENSE")
    (hprintable : Printable path) :
    validatedPayloadIdentity (writtenManifest [licenseFile path] licenseDigest)
      = .ok (licenseDigest, [licenseFile (text "LICENSE")]) := by
  have hlistable := licenseFile_listable hpath hprintable
  have hstripped : [licenseFile path].map PayloadEntry.stripped = [licenseFile (text "LICENSE")] := by
    simp only [List.map_cons, List.map_nil, PayloadEntry.stripped, licenseFile, hpath]
  have hfiles : ∀ file ∈ [licenseFile path], file.Listable :=
    fun file hfile => List.mem_singleton.mp hfile ▸ hlistable
  have hsize : totalSize [licenseFile path] ≤ maxArchiveTotalBytes := Nat.zero_le _
  have hwritten := @validatedPayloadIdentity_written [licenseFile path] licenseDigest hfiles
    (List.cons_ne_nil _ _) (by simp [maxArchiveEntries]) hsize
  rw [hstripped] at hwritten
  exact hwritten (by decide) (by decide) payloadDigest_licenseFile

theorem verified_license :
    ∃ bytes, verifyReleaseTree releaseHost (some 7) (licenseRelease (text "LICENSE"))
      (some licenseDigest) = .ok (licenseDigest, bytes) := by
  have hverify := @verifyPayloadTree_licenseRelease (text "LICENSE") (by decide) (by decide)
    (by decide)
  refine ⟨_, (verifyReleaseTree_eq_ok (unpacked_licenseRelease (text "LICENSE")) hverify).mpr
    ⟨?_, fun _ hwanted => Option.some.inj hwanted, rfl, _, _, rfl, rfl⟩⟩
  rw [listedFiles_licenseRelease (by decide) (by decide)]
  intro file hfile
  rw [List.mem_singleton.mp hfile]
  decide

theorem releasePayload_license :
    releasePayload (licenseRelease (text "LICENSE")) = [⟨text "LICENSE", 0o644, []⟩] := rfl

theorem collisionFree_license :
    CollisionFree (hashedByInstaller releaseHost (licenseRelease (text "LICENSE"))) := by
  obtain ⟨bytes, hverify⟩ := verified_license
  obtain ⟨files, size, hmanifest, hperm⟩ := of_verifyReleaseTree hverify
  rw [releasePayload_license] at hperm
  have hfiles : files = [licenseFile (text "LICENSE")] := List.perm_singleton.mp hperm
  have hhashed : ∀ {message}, message ∈ hashedByInstaller releaseHost (licenseRelease (text "LICENSE")) →
      message ∈ hashedMaterial [licenseFile (text "LICENSE")] ∨ message = [] := by
    rintro message (⟨digest, read, size', hread, hmessage⟩ | ⟨file, hfile, rfl⟩)
    · rw [hmanifest, Except.ok.injEq, Prod.mk.injEq, Prod.mk.injEq] at hread
      obtain ⟨-, hlist, -⟩ := hread
      rw [← hlist, hfiles] at hmessage
      exact Or.inl hmessage
    · rw [releasePayload_license, List.mem_singleton] at hfile
      rw [hfile]
      exact Or.inr rfl
  have hdigest : ∀ {message}, message ∈ hashedMaterial [licenseFile (text "LICENSE")] →
      hexdigest message = licenseDigest := by
    intro message hmessage
    have hreturns := payloadDigest_eq_ok.mpr ⟨message, hmessage, rfl⟩
    rw [payloadDigest_licenseFile] at hreturns
    exact (Except.ok.inj hreturns).symm
  have hempty : hexdigest [] ≠ licenseDigest := by decide +kernel
  intro message hmessage other hother hsame
  rcases hhashed hmessage with hmaterial | rfl
  · rcases hhashed hother with hmaterial' | rfl
    · exact Except.ok.inj (hmaterial.symm.trans hmaterial')
    · exact absurd (hsame.symm.trans (hdigest hmaterial)) hempty
  · rcases hhashed hother with hmaterial' | rfl
    · exact absurd (hsame.trans (hdigest hmaterial')) hempty
    · rfl

theorem payload_identified_license :
    ([licenseFile (text "LICENSE")] = [licenseFile (text "LICENSE")]
      ∧ (listedFiles (writtenManifest [licenseFile (text "LICENSE/")] licenseDigest)).map
          PayloadEntry.stripped
        = (listedFiles (writtenManifest [licenseFile (text "LICENSE")] licenseDigest)).map
          PayloadEntry.stripped)
    ∧ ∀ file, file ∈ releasePayload (licenseRelease (text "LICENSE"))
      ↔ file ∈ releasePayload (licenseRelease (text "LICENSE")) := by
  obtain ⟨bytes, hverify⟩ := verified_license
  refine ⟨payload_identified.1 _ _ licenseDigest _ _
    (validated_license (by decide) (by decide)) (validated_license (by decide) (by decide)) ?_,
    payload_identified.2 releaseHost (some 7) (some 7) _ _ licenseDigest _ _ hverify hverify ?_⟩
  · intro message hmessage other hother _
    rw [Set.union_self] at hmessage hother
    exact Except.ok.inj (hmessage.symm.trans hother)
  · rw [Set.union_self]
    exact collisionFree_license

end TrexWebui
