import TrexWebui.ReleaseScan

/-!
# The verifier of the release store

The installer keeps its own copy of the manifest validator and of the tree
scan (`_manifest_identity`, `_scan_release_tree` and `_verify_release_tree` of
`release_transaction.py`). It also checks owners, links and devices, walks the
tree with `os.walk`, and lets the runtime files of an installed release stand
at the root.
-/

namespace TrexWebui

open PyStr PyJson PosixPath Sha2 Checks

/-- What the verifier knows of its host. The check of a Python runtime inside a release
follows links out of the tree, so it is a parameter. -/
structure StoreHost where
  expectedUid : Nat
  runtimeConfigGid : Nat
  validateReleaseRuntime : Str → Node → Except Refusal Unit

def maxRuntimeConfigBytes : Nat := 1024 * 1024

/-! ## The manifest -/

/-- `strict_json_loads` with its label. -/
def strictJsonLoadsOf (label : String) (content : Bytes) : Except Refusal Value := do
  let s ← orRefuse (decode content) (.error "is not valid UTF-8" (text label))
  match loads s with
  | .ok value => pure value
  | .error .decode => .error (.error "is not valid JSON" (text label))
  | .error (.duplicateKey key) => .error (.error "contains duplicate key" key)
  | .error (.constant name) => .error (.error "contains non-finite value" name)
  | .error .digits => .error .value

def requireDigest (value : Value) (label : String) : Except Refusal Str :=
  textWith IsDigest value (.error "must be a lowercase SHA-256 digest" (text label))

/-- `_normalized_payload_path` -/
def normalizedReleasePath (value : Value) : Except Refusal Str := do
  let path ← orRefuse (asText value) (.error "release payload path is invalid")
  refuseIf (path = [] ∨ backslash ∈ path) (.error "release payload path is invalid")
  refuseIf (path.head? = some slash ∨ ∃ c ∈ path, c < 32)
    (.error "release payload path is unsafe" path)
  refuseIf (str path ≠ path ∨ ∃ part ∈ parts path, part = [] ∨ part = dot ∨ part = dotDot)
    (.error "release payload path is not canonical" path)
  let encoded ← orRefuse (encode path) .unicodeEncode
  refuseIf (4096 < encoded.length) (.error "release payload path is too long")
  pure path

/-- One entry of `files` in `_manifest_identity`. -/
def releaseEntry (item : Value) : Except Refusal PayloadEntry := do
  let fields ← orRefuse (asDict item) (.error "release payload contains a malformed entry")
  refuseIf (¬ keysAre fields payloadEntryKeys)
    (.error "release payload contains a malformed entry")
  let path ← normalizedReleasePath (get fields (text "path"))
  refuseIf (path = releaseManifestName ∨ ¬ (get fields (text "type")).isText (text "file"))
    (.error "release payload entry is not allowed" path)
  let mode ← textWith IsOctal (get fields (text "mode"))
    (.error "release payload mode is invalid" path)
  refuseIf (ofOctal mode &&& 0o7022 ≠ 0) (.error "release payload mode is unsafe" path)
  let size ← orRefuse (asInt (get fields (text "size")))
    (.error "release payload size is invalid" path)
  refuseIf (size < 0 ∨ maxArchiveFileBytes < size)
    (.error "release payload size is invalid" path)
  let digest ← requireDigest (get fields (text "sha256")) "release payload digest"
  pure { path, mode, size := size.toNat, sha256 := digest }

/-- The loop over `files` in `_manifest_identity`. -/
def releaseFiles : (totalBytes : Nat) → List Value → Except Refusal (List PayloadEntry)
  | _, [] => pure []
  | totalBytes, item :: rest => do
    let entry ← releaseEntry item
    refuseIf (maxArchiveTotalBytes < totalBytes + entry.size)
      (.error "release payload exceeds the size limit")
    let entries ← releaseFiles (totalBytes + entry.size) rest
    pure (entry :: entries)

/-- The validation of a parsed manifest in `_manifest_identity`. -/
def releaseIdentity (value : Value) : Except Refusal (Str × List PayloadEntry) := do
  let manifest ← orRefuse (asDict value) (.error "release manifest schema is unsupported")
  refuseIf (¬ (get manifest (text "schema")).isText releaseManifestSchema)
    (.error "release manifest schema is unsupported")
  let identity ← orRefuse (asDict (get manifest (text "payload_identity")))
    (.error "release payload identity has an unexpected shape")
  refuseIf (¬ keysAre identity payloadIdentityKeys)
    (.error "release payload identity has an unexpected shape")
  refuseIf (¬ (get identity (text "algorithm")).isText payloadIdentityAlgorithm)
    (.error "release payload identity algorithm is unsupported")
  refuseIf (¬ (get identity (text "manifest_path")).isText releaseManifestName
      ∨ ¬ (get identity (text "manifest_excluded")).isBool true)
    (.error "release payload identity must exclude only RELEASE_MANIFEST.json")
  let digest ← requireDigest (get identity (text "digest")) "release payload digest"
  let files ← orRefuse (asList (get identity (text "files")))
    (.error "release payload file manifest must be a list")
  let fileCount ← orRefuse (asInt (get identity (text "file_count")))
    (.error "release payload file_count is invalid")
  refuseIf (fileCount ≠ files.length ∨ fileCount < 1 ∨ maxArchiveEntries < fileCount)
    (.error "release payload file_count is invalid")
  let validated ← releaseFiles 0 files
  let paths := validated.map PayloadEntry.path
  refuseIf (¬ paths.Pairwise (· ≤ ·) ∨ ¬ paths.Nodup)
    (.error "release payload file manifest must be sorted and unique")
  let calculated ← payloadDigest validated
  refuseIf (calculated ≠ digest) (.error "release payload identity digest does not match")
  pure (digest, validated)

/-- `_manifest_identity`: the digest, the files and the bytes of a release. -/
def manifestIdentity (host : StoreHost) (root : Node) :
    Except Refusal (Str × List PayloadEntry × Nat) := do
  let manifest ← orRefuse (root.named? releaseManifestName)
    (.error "cannot inspect release manifest")
  match manifest with
  | .file stat content => do
    refuseIf (stat.uid ≠ host.expectedUid ∨ permissions stat.mode ≠ 0o644 ∨ stat.nlink ≠ 1
        ∨ maxReleaseManifestBytes < stat.size)
      (.error "release manifest must be an owned regular 0644 file of bounded size")
    let parsed ← strictJsonLoadsOf "release manifest" content
    let (digest, files) ← releaseIdentity parsed
    pure (digest, files, totalSize files + stat.size)
  | _ => .error (.error "release manifest must be an owned regular 0644 file of bounded size")

/-! ## The tree -/

def dotenvName : Str := text ".env"

/-- `.venv` or `.venv.runtime-…` -/
def isRuntimeName (name : Str) : Bool :=
  name = text ".venv" || (text ".venv.runtime-").isPrefixOf name

/-- `entry.is_dir()`, which follows links. -/
def Node.leadsToDir : Node → Bool
  | dir _ _ _ => true
  | symlink _ toDirectory => toDirectory
  | _ => false

def validateDotenv (host : StoreHost) : Node → Except Refusal Unit
  | .file stat _ =>
    refuseIf (stat.uid ≠ host.expectedUid ∨ stat.gid ≠ host.runtimeConfigGid
        ∨ permissions stat.mode ≠ 0o640 ∨ stat.nlink ≠ 1 ∨ maxRuntimeConfigBytes < stat.size)
      (.error "release .env must be an owned service-group regular 0640 single-link file")
  | _ => .error (.error "release .env must be an owned service-group regular 0640 single-link file")

def checkDirectory (host : StoreHost) (path : List Str) : Node → Except Refusal Unit
  | .dir stat _ _ =>
    refuseIf (stat.uid ≠ host.expectedUid ∨ permissions stat.mode &&& 0o022 ≠ 0)
      (.error "release directory entry is unsafe" (join path))
  | _ => .error (.error "release directory entry is unsafe" (join path))

/-- The body of the loop over the file names. Nobody writes while the file is read, so it
is the same file before and after. -/
def scanReleaseFile (host : StoreHost) (path : List Str) (node : Node) :
    Except Refusal (List PayloadEntry) := do
  let relative := join path
  if relative = dotenvName then
    validateDotenv host node
    pure []
  else match node with
  | .file stat content => do
    refuseIf (stat.uid ≠ host.expectedUid ∨ stat.nlink ≠ 1)
      (.error "release file is unsafe" relative)
    refuseIf (permissions stat.mode &&& 0o7022 ≠ 0) (.error "release file mode is unsafe" relative)
    if relative = releaseManifestName then pure []
    else do
      refuseIf (content.length ≠ stat.size) (.error "release file changed while hashing" relative)
      pure [{ path := relative, mode := octal (permissions stat.mode), size := content.length,
              sha256 := hexdigest content }]
  | _ => .error (.error "release file is unsafe" relative)

/-- The loop over `os.walk(root, topdown=True, followlinks=False)`, from one directory on. -/
def scanReleaseDirectory (host : StoreHost) (path : List Str) :
    Node → Except Refusal (List PayloadEntry)
  | .dir stat names child => do
    refuseIf (stat.uid ≠ host.expectedUid ∨ permissions stat.mode &&& 0o022 ≠ 0)
      (.error "release directory is unsafe" (join path))
    let walked := names.filter fun name => (child name).leadsToDir
    let filenames := names.filter fun name => !(child name).leadsToDir
    let runtimes := if path = [] then walked.filter isRuntimeName else []
    let _ ← runtimes.mapM fun name => host.validateReleaseRuntime name (child name)
    let kept := walked.filter (· ∉ runtimes)
    let _ ← kept.mapM fun name => checkDirectory host (path ++ [name]) (child name)
    let files ← filenames.mapM fun name => scanReleaseFile host (path ++ [name]) (child name)
    let more ← kept.mapM fun name => scanReleaseDirectory host (path ++ [name]) (child name)
    pure (files.flatten ++ more.flatten)
  | _ => .error .os

/-- `os.path.ismount` of a release in the store. -/
def isMount (root : Node) (storeDevice : Nat) : Prop := root.stat.dev ≠ storeDevice

instance (root : Node) (storeDevice : Nat) : Decidable (isMount root storeDevice) :=
  inferInstanceAs (Decidable (_ ≠ _))

/-- `_scan_release_tree`. `store` is the device of the release store, for a tree that stands
directly in it. -/
def scanReleaseTree (host : StoreHost) (store : Option Nat) (root : Node) :
    Except Refusal (List PayloadEntry) := do
  refuseIf (¬ root.isDir ∨ root.stat.uid ≠ host.expectedUid
      ∨ permissions root.stat.mode &&& 0o022 ≠ 0)
    (.error "release tree root is unsafe")
  refuseIf (∃ device ∈ store, root.stat.dev ≠ device)
    (.error "release directory must share the release-store filesystem")
  refuseIf (∃ device ∈ store, isMount root device)
    (.error "release directory must not be a mountpoint")
  let files ← scanReleaseDirectory host [] root
  pure (sortByPath files)

/-- `_verify_release_tree`: the digest and the bytes of a release. -/
def verifyReleaseTree (host : StoreHost) (store : Option Nat) (root : Node)
    (expectedDigest : Option Str) : Except Refusal (Str × Nat) := do
  let (digest, expectedFiles, logicalBytes) ← manifestIdentity host root
  refuseIf (∃ expected ∈ expectedDigest, digest ≠ expected)
    (.error "release payload digest mismatch" digest)
  let actualFiles ← scanReleaseTree host store root
  let missing := ((pathsOf expectedFiles).filter (· ∉ pathsOf actualFiles)).insertionSort (· ≤ ·)
  let extra := ((pathsOf actualFiles).filter (· ∉ pathsOf expectedFiles)).insertionSort (· ≤ ·)
  refuseIf (actualFiles ≠ expectedFiles ∧ missing ≠ [])
    (.error "release payload is missing manifested file" (missing.headD []))
  refuseIf (actualFiles ≠ expectedFiles ∧ extra ≠ [])
    (.error "release payload has unmanifested file" (extra.headD []))
  refuseIf (actualFiles ≠ expectedFiles) (.error "release payload metadata or content changed")
  pure (digest, logicalBytes)

end TrexWebui
