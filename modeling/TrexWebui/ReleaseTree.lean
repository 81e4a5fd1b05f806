import Mathlib.Algebra.Order.BigOperators.Group.List
import Mathlib.Data.List.Flatten
import Mathlib.Data.List.Sort
import TrexWebui.ReleaseManifest

/-!
# Release trees

A directory tree as `lstat`, `scandir` and `open` show it to a program that
nobody disturbs, and the verifier of the packaging side over it: it scans the
tree with a stack of directories and compares what it finds with the files
of the manifest.
-/

namespace TrexWebui

open PyStr PyJson PosixPath Sha2 Checks

/-! ## Directory trees -/

/-- What `lstat` says of an entry beside its type. -/
structure Stat where
  /-- `st_mode` without the type. -/
  mode : Nat
  uid : Nat
  gid : Nat
  nlink : Nat
  dev : Nat
  size : Nat

/-- An entry of a directory. A directory has the names that `scandir` lists, in its order,
and an entry under each of them. -/
inductive Node where
  | file (stat : Stat) (content : Bytes)
  | dir (stat : Stat) (names : List Str) (child : Str → Node)
  | symlink (stat : Stat) (toDirectory : Bool)
  | special (stat : Stat)

namespace Node

def stat : Node → Stat
  | file stat _ => stat
  | dir stat _ _ => stat
  | symlink stat _ => stat
  | special stat => stat

def isDir : Node → Bool
  | dir _ _ _ => true
  | _ => false

def WellFormed : Node → Prop
  | dir _ names child =>
    names.Nodup ∧ (∀ name ∈ names, IsName name) ∧ ∀ name ∈ names, (child name).WellFormed
  | _ => True

def weight : Node → Nat
  | dir _ names child => 1 + (names.map fun name => (child name).weight).sum
  | _ => 1

def descendants (path : List Str) : Node → List (List Str × Node)
  | dir _ names child =>
    names.flatMap fun name => (path ++ [name], child name) :: (child name).descendants (path ++ [name])
  | _ => []

end Node

abbrev Located := List Str × Node

def listing (path : List Str) (names : List Str) (child : Str → Node) : List Located :=
  names.map fun name => (path ++ [name], child name)

def subdirectories (path : List Str) (names : List Str) (child : Str → Node) : List Located :=
  (listing path names child).filter fun entry => entry.2.isDir

theorem weight_listing (path names : List Str) (child : Str → Node) :
    ((listing path names child).map fun entry => entry.2.weight).sum
      = (names.map fun name => (child name).weight).sum := by
  rw [listing, List.map_map]
  rfl

theorem weight_subdirectories_le (path names : List Str) (child : Str → Node) :
    ((subdirectories path names child).map fun entry => entry.2.weight).sum
      ≤ (names.map fun name => (child name).weight).sum := by
  rw [← weight_listing path names child]
  exact List.Sublist.sum_le_sum (List.Sublist.map _ List.filter_sublist) fun _ _ => Nat.zero_le _

/-! ## The scan of the packaging side -/

/-- The files that one entry adds, the body of the loop of `scan_payload_tree`. -/
def scanChild (entry : Located) : Except Refusal (List PayloadEntry) := do
  let relative := join entry.1
  let _ ← normalizedPayloadPath relative
  match entry.2 with
  | .symlink _ _ => .error (.error "release payload symbolic links are not allowed" relative)
  | .special _ => .error (.error "release payload special files are not allowed" relative)
  | .dir stat _ _ => do
    let _ ← validatedMode stat.mode relative
    pure []
  | .file stat content =>
    if relative = releaseManifestName then pure []
    else do
      refuseIf (maxArchiveFileBytes < stat.size)
        (.error "release payload file has an unsafe size" relative)
      refuseIf (content.length ≠ stat.size)
        (.error "release payload file changed while hashing" relative)
      let payload ← payloadEntry relative stat.mode content.length (hexdigest content)
      pure [payload]

def scanListing : List Located → Except Refusal (List PayloadEntry)
  | [] => pure []
  | entry :: rest => do
    let files ← scanChild entry
    let more ← scanListing rest
    pure (files ++ more)

/-- `sorted(os.scandir(directory), key=lambda entry: entry.name)` -/
def sortNames (names : List Str) : List Str := names.insertionSort (· ≤ ·)

/-- The loop over the pending directories; the first of the list is the last of the stack. -/
def scanPending : (pending : List Located) → Except Refusal (List PayloadEntry)
  | [] => pure []
  | (path, .dir _ names child) :: pending => do
    let files ← scanListing (listing path (sortNames names) child)
    let more ← scanPending ((subdirectories path (sortNames names) child).reverse ++ pending)
    pure (files ++ more)
  | _ :: _ => .error .os
termination_by pending => (pending.map fun entry => entry.2.weight).sum
decreasing_by
  have hle := weight_subdirectories_le path (sortNames names) child
  have hsorted : ((sortNames names).map fun name => (child name).weight).sum
      = (names.map fun name => (child name).weight).sum :=
    ((List.perm_insertionSort (· ≤ ·) names).map _).sum_eq
  simp only [List.map_append, List.map_reverse, List.sum_append, List.sum_reverse, List.map_cons,
    List.sum_cons, Node.weight]
  omega

def totalSize (files : List PayloadEntry) : Nat := (files.map PayloadEntry.size).sum

def sortByPath (files : List PayloadEntry) : List PayloadEntry :=
  files.insertionSort fun a b => a.path ≤ b.path

def scanPayloadTree (root : Node) : Except Refusal (List PayloadEntry) := do
  refuseIf (¬ root.isDir) (.error "release payload root is not a real directory")
  let _ ← validatedMode root.stat.mode []
  let files ← scanPending [([], root)]
  let files := sortByPath files
  refuseIf (maxArchiveEntries < files.length) (.error "release payload exceeds the supported files")
  refuseIf (maxArchiveTotalBytes < totalSize files)
    (.error "release payload exceeds the supported bytes")
  pure files

/-! ## The verifier of the packaging side -/

/-- `root / name`, where the root is a directory that lists the name. -/
def Node.named? (root : Node) (name : Str) : Option Node :=
  match root with
  | .dir _ names child => if name ∈ names then some (child name) else none
  | _ => none

/-- `manifest_from_tree`: the digest and the files of the manifest. -/
def manifestFromTree (root : Node) : Except Refusal (Str × List PayloadEntry) := do
  let manifest ← orRefuse (root.named? releaseManifestName)
    (.error "cannot inspect RELEASE_MANIFEST.json")
  match manifest with
  | .file stat content => do
    refuseIf (permissions stat.mode ≠ 0o644) (.error "RELEASE_MANIFEST.json must have mode 0644")
    refuseIf (maxReleaseManifestBytes < stat.size) (.error "release manifest is too large")
    let parsed ← strictJsonLoads content
    validatedPayloadIdentity parsed
  | _ => .error (.error "RELEASE_MANIFEST.json must be a regular non-symlink file")

/-- `{item["path"]: item for item in files}` -/
def byPath (files : List PayloadEntry) (path : Str) : Option PayloadEntry :=
  files.reverse.find? fun entry => entry.path = path

def pathsOf (files : List PayloadEntry) : List Str := files.map PayloadEntry.path

def comparePayloadFiles (expected actual : List PayloadEntry) : Except Refusal Unit := do
  let missing := ((pathsOf expected).filter (· ∉ pathsOf actual)).insertionSort (· ≤ ·)
  let extra := ((pathsOf actual).filter (· ∉ pathsOf expected)).insertionSort (· ≤ ·)
  let changed := ((pathsOf expected).filter fun path => byPath expected path ≠ byPath actual path)
    |>.insertionSort (· ≤ ·)
  refuseIf (missing ≠ []) (.error "release payload is missing manifested file" (missing.headD []))
  refuseIf (extra ≠ []) (.error "release payload contains unmanifested file" (extra.headD []))
  refuseIf (changed ≠ []) (.error "release payload file changed" (changed.headD []))

def verifyPayloadTree (root : Node) : Except Refusal Str := do
  let (digest, expectedFiles) ← manifestFromTree root
  let actualFiles ← scanPayloadTree root
  comparePayloadFiles expectedFiles actualFiles
  pure digest

end TrexWebui
