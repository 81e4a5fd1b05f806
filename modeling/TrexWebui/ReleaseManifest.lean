import TrexWebui.Checks
import TrexWebui.PosixPath
import TrexWebui.PyJson
import TrexWebui.Sha256

/-!
# The release manifest

`RELEASE_MANIFEST.json` names every other file of a release with its mode,
size and digest, and the digest of that list. This module is the validator of
the packaging side (`archive_safety.py`, with `release_contract.py` for the
provenance); the installer has its own, in `ReleaseStore`.
-/

namespace TrexWebui

open PyStr PyJson PosixPath Sha2 Checks

/-! ## Exceptions and names -/

/-- An exception. `error` is the one that the script defines, with the fixed part of its
text and what the text is about; the others pass through it. -/
inductive Refusal where
  | error (text : String) (subject : Str := [])
  | unicodeEncode
  | value
  | os
  deriving DecidableEq, Repr

def maxArchiveEntries : Nat := 50000
def maxArchiveFileBytes : Nat := 1000000000
def maxArchiveTotalBytes : Nat := 2000000000
def maxReleaseManifestBytes : Nat := 32 * 1024 * 1024
def releaseManifestName : Str := text "RELEASE_MANIFEST.json"
def releaseManifestSchema : Str := text "trex-webui-release/v3"
def payloadIdentityAlgorithm : Str := text "sha256(canonical-json(release-file-manifest)-v1)"
def sourceIdentityAlgorithm : Str :=
  text "sha256(canonical-json(git-sha,path,type,mode,size,content-sha256)-v1)"

def payloadEntryKeys : List Str :=
  [text "mode", text "path", text "sha256", text "size", text "type"]

def payloadIdentityKeys : List Str :=
  [text "algorithm", text "digest", text "file_count", text "files", text "manifest_excluded",
    text "manifest_path"]

/-! ## Values of a document -/

def asText : Value → Option Str
  | .str s => some s
  | _ => none

def asInt : Value → Option Int
  | .int i => some i
  | _ => none

def asBool : Value → Option Bool
  | .bool b => some b
  | _ => none

def asList : Value → Option (List Value)
  | .arr items => some items
  | _ => none

def asDict : Value → Option Fields
  | .obj fields => some fields
  | _ => none

def canonicalJsonBytes (value : Value) : Except Refusal Bytes :=
  orRefuse (encode (dumps value)) .unicodeEncode

/-- `strict_json_loads`. An integer that is too long for `int` raises a `ValueError` that
nothing catches. -/
def strictJsonLoads (content : Bytes) : Except Refusal Value := do
  let s ← orRefuse (decode content) (.error "release manifest is not valid UTF-8")
  match loads s with
  | .ok value => pure value
  | .error .decode => .error (.error "release manifest is not valid JSON")
  | .error (.duplicateKey key) => .error (.error "release manifest contains duplicate JSON key" key)
  | .error (.constant name) => .error (.error "release manifest contains non-finite JSON value" name)
  | .error .digits => .error .value

/-! ## Paths and modes -/

def utf8Length (s : Str) : Nat := (s.flatMap encodePoint).length

def normalizedMemberName (name : Str) : Except Refusal Str := do
  refuseIf (name = [] ∨ backslash ∈ name ∨ ∃ c ∈ name, c < 32)
    (.error "archive entry has an unsafe name" name)
  refuseIf (encode name = none) (.error "archive entry name is not valid UTF-8" name)
  refuseIf (name.head? = some slash) (.error "archive entry is absolute" name)
  let stripped := rstripSlash name
  let normalized := normpath stripped
  refuseIf (normalized ≠ stripped ∨ normalized = [] ∨ normalized = dot ∨ normalized = dotDot)
    (.error "archive entry is not canonical" name)
  refuseIf (∃ part ∈ parts normalized, part = [] ∨ part = dot ∨ part = dotDot)
    (.error "archive entry escapes its package root" name)
  refuseIf (4096 < utf8Length normalized) (.error "archive entry path is too long" (name.take 120))
  pure normalized

def normalizedPayloadPath (name : Str) : Except Refusal Str := do
  let normalized ← normalizedMemberName name
  refuseIf ((parts normalized).length < 1) (.error "release payload path is empty" name)
  pure normalized

/-- `stat.S_IMODE` -/
def permissions (mode : Nat) : Nat := mode % 0o10000

/-- `f"{permissions:04o}"` for permissions of at most four octal digits. -/
def octal (permissions : Nat) : Str :=
  [48 + permissions / 512 % 8, 48 + permissions / 64 % 8, 48 + permissions / 8 % 8,
    48 + permissions % 8]

/-- `int(mode, 8)` -/
def ofOctal (mode : Str) : Nat := mode.foldl (fun n c => n * 8 + (c - 48)) 0

def validatedMode (mode : Nat) (path : Str) : Except Refusal Str := do
  refuseIf (permissions mode &&& 0o7000 ≠ 0)
    (.error "release payload has special permission bits" path)
  refuseIf (permissions mode &&& 0o022 ≠ 0)
    (.error "release payload is writable by group/other" path)
  pure (octal (permissions mode))

/-- A file of the payload; its `type` is always `file`. -/
structure PayloadEntry where
  path : Str
  mode : Str
  size : Nat
  sha256 : Str
  deriving DecidableEq, Repr

def payloadEntry (path : Str) (mode size : Nat) (digest : Str) : Except Refusal PayloadEntry := do
  let normalized ← normalizedPayloadPath path
  let mode ← validatedMode mode path
  pure { path := normalized, mode, size, sha256 := digest }

def PayloadEntry.value (entry : PayloadEntry) : Value :=
  .obj [(text "path", .str entry.path), (text "type", .str (text "file")),
    (text "mode", .str entry.mode), (text "size", .int entry.size),
    (text "sha256", .str entry.sha256)]

def payloadDigest (files : List PayloadEntry) : Except Refusal Str := do
  let material ← canonicalJsonBytes (.obj [(text "algorithm", .str payloadIdentityAlgorithm),
    (text "files", .arr (files.map PayloadEntry.value))])
  pure (hexdigest material)

/-! ## The source identity -/

/-- `GIT_SHA_RE` -/
def IsGitSha (s : Str) : Prop := 40 ≤ s.length ∧ s.length ≤ 64 ∧ ∀ c ∈ s, isLowerHex c = true

instance (s : Str) : Decidable (IsGitSha s) := inferInstanceAs (Decidable (_ ∧ _ ∧ _))

def textWith (p : Str → Prop) [DecidablePred p] (value : Value) (e : Refusal) :
    Except Refusal Str := do
  let s ← orRefuse (asText value) e
  refuseIf (¬ p s) e
  pure s

def validateSourceIdentity (manifest : Fields) : Except Refusal Unit := do
  let source ← orRefuse (asDict (get manifest (text "source_identity")))
    (.error "release manifest is missing source_identity")
  refuseIf (¬ (get source (text "algorithm")).isText sourceIdentityAlgorithm)
    (.error "release manifest has an unsupported source identity algorithm")
  let sourceDigest ← textWith IsDigest (get source (text "digest"))
    (.error "release manifest source identity digest is invalid")
  let fileCount ← orRefuse (asInt (get source (text "file_count")))
    (.error "release manifest source identity file_count is invalid")
  refuseIf (fileCount < 1) (.error "release manifest source identity file_count is invalid")
  let git ← orRefuse (asDict (get source (text "git")))
    (.error "release manifest source identity is missing Git metadata")
  let gitSha ← textWith IsGitSha (get git (text "sha"))
    (.error "release manifest Git SHA is not a full object ID")
  let dirty ← orRefuse (asBool (get git (text "dirty")))
    (.error "release manifest Git dirty state is invalid")
  let _ ← textWith IsDigest (get git (text "status_sha256"))
    (.error "release manifest Git status digest is invalid")
  refuseIf (¬ (get manifest (text "git_commit")).isText gitSha)
    (.error "release manifest git_commit does not match source identity")
  refuseIf (¬ (get manifest (text "git_dirty")).isBool dirty)
    (.error "release manifest git_dirty does not match source identity")
  refuseIf (¬ (get manifest (text "source_digest")).isText sourceDigest)
    (.error "release manifest source_digest does not match source identity")

/-! ## The release contract -/

def releaseProvenanceSchema : Str := text "trex-webui-release-provenance/v1"
def releaseWorkflowPath : Str := text ".github/workflows/release.yml"

def localProvenanceKeys : List Str :=
  [text "kind", text "publishable", text "schema", text "source_dirty", text "source_sha"]

def githubProvenanceKeys : List Str :=
  [text "kind", text "publishable", text "release_ref", text "release_tag", text "repository",
    text "schema", text "signer_workflow", text "signer_workflow_ref",
    text "signer_workflow_sha", text "source_dirty", text "source_sha"]

/-- `[0-9A-Za-z]` -/
def isAlphanumeric (c : Nat) : Bool :=
  48 ≤ c && c ≤ 57 || 65 ≤ c && c ≤ 90 || 97 ≤ c && c ≤ 122

/-- `[0-9A-Za-z._-]` -/
def isWordCharacter (c : Nat) : Bool :=
  isAlphanumeric c || (text "._-").contains c

/-- `[0-9A-Za-z](?:[0-9A-Za-z._-]{0,limit}[0-9A-Za-z])?` -/
def IsWord (limit : Nat) (s : Str) : Prop :=
  (∀ c ∈ s.head?, isAlphanumeric c = true) ∧ (∀ c ∈ s.getLast?, isAlphanumeric c = true)
    ∧ (∀ c ∈ s, isWordCharacter c = true) ∧ 1 ≤ s.length ∧ s.length ≤ limit + 2

instance (limit : Nat) (s : Str) : Decidable (IsWord limit s) :=
  inferInstanceAs (Decidable (_ ∧ _ ∧ _ ∧ _ ∧ _))

/-- `SHA_RE` -/
def IsObjectId (s : Str) : Prop := (s.length = 40 ∨ s.length = 64) ∧ ∀ c ∈ s, isLowerHex c = true

instance (s : Str) : Decidable (IsObjectId s) := inferInstanceAs (Decidable (_ ∧ _))

/-- `REPOSITORY_RE` -/
def IsRepository (s : Str) : Prop := (split s).length = 2 ∧ ∀ part ∈ split s, IsWord 98 part

instance (s : Str) : Decidable (IsRepository s) := inferInstanceAs (Decidable (_ ∧ _))

/-- `TAG_RE` -/
def IsTag (s : Str) : Prop := s.head? = some 118 ∧ IsWord 126 s.tail

instance (s : Str) : Decidable (IsTag s) := inferInstanceAs (Decidable (_ ∧ _))

/-- `0|[1-9][0-9]*` -/
def isNumericId (s : Str) : Bool :=
  s ≠ [] && s.all isDigit && (s.head? ≠ some 48 || s.length = 1)

/-- `[0-9A-Za-z-]+` -/
def isBuildId (s : Str) : Bool := s ≠ [] && s.all fun c => isAlphanumeric c || c = minus

/-- A part of a prerelease: a number without leading zeros, or not only digits. -/
def isPrereleaseId (s : Str) : Bool := isNumericId s || isBuildId s && !s.all isDigit

/-- `SEMVER_RE` -/
def IsSemVer (s : Str) : Prop :=
  let release := s.takeWhile (· ≠ 43)
  let build := s.drop release.length
  let core := release.takeWhile (· ≠ minus)
  let prerelease := release.drop core.length
  (core.splitOn stop).length = 3 ∧ ((core.splitOn stop).all isNumericId) = true
    ∧ (prerelease = [] ∨ ((prerelease.tail.splitOn stop).all isPrereleaseId) = true)
    ∧ (build = [] ∨ ((build.tail.splitOn stop).all isBuildId) = true)

instance (s : Str) : Decidable (IsSemVer s) := inferInstanceAs (Decidable (_ ∧ _ ∧ _ ∧ _))

/-- What a validated provenance says. The last three are missing from a local build. -/
structure Provenance where
  sourceSha : Str
  sourceDirty : Bool
  repository : Option Str
  releaseRef : Option Str
  signerWorkflow : Option Str

def requireSha (value : Value) (label : String) : Except Refusal Str :=
  textWith IsObjectId value (.error "must be a full lowercase Git object ID" (text label))

def requireRepository (value : Value) : Except Refusal Str := do
  let repository ← textWith IsRepository value
    (.error "release repository must use the owner/repository form")
  refuseIf ((∃ part ∈ split repository, part = dot ∨ part = dotDot)
      ∨ (text ".git").isSuffixOf repository = true)
    (.error "release repository is not canonical")
  pure repository

def releaseTag (releaseRef : Str) : Except Refusal Str := do
  let tag ← orRefuse ((text "refs/tags/").isPrefixOf? releaseRef)
    (.error "release_ref must be an exact refs/tags/* ref")
  refuseIf (¬ IsTag tag) (.error "release_ref contains an unsafe or non-canonical tag")
  pure tag

def expectedTagForVersion (version : Value) : Except Refusal Str := do
  let version ← textWith IsSemVer version
    (.error "publishable release version must be canonical SemVer")
  refuseIf (¬ IsTag (118 :: version)) (.error "release version cannot be represented by a safe tag")
  pure (118 :: version)

/-- The part of `build_release_provenance` for a publishable release, and the comparison of
what it builds with the provenance it was given. -/
def validateGithubProvenance (provenance : Fields) (version : Value) :
    Except Refusal Provenance := do
  refuseIf (¬ keysAre provenance githubProvenanceKeys)
    (.error "GitHub release provenance shape is invalid")
  refuseIf (¬ (get provenance (text "publishable")).isBool true)
    (.error "GitHub release provenance must be publishable")
  let sourceSha ← requireSha (get provenance (text "source_sha")) "release source SHA"
  let sourceDirty ← orRefuse (asBool (get provenance (text "source_dirty")))
    (.error "release source dirty state must be a boolean")
  let supplied := [get provenance (text "repository"), get provenance (text "release_ref"),
    get provenance (text "signer_workflow_ref"), get provenance (text "signer_workflow_sha")].map
      fun value => !value.isNull && !value.isText []
  refuseIf (¬ supplied.any id) (.error "publishable release provenance requires GitHub context")
  refuseIf (¬ supplied.all id) (.error "GitHub release provenance is partial")
  refuseIf (sourceDirty = true) (.error "publishable release provenance requires a clean source")
  let repository ← requireRepository (get provenance (text "repository"))
  let releaseRef ← orRefuse (asText (get provenance (text "release_ref")))
    (.error "release_ref must be an exact refs/tags/* ref")
  let tag ← releaseTag releaseRef
  let expectedTag ← expectedTagForVersion version
  refuseIf (tag ≠ expectedTag) (.error "release tag does not exactly match package version" tag)
  let signerWorkflowRef ← orRefuse (asText (get provenance (text "signer_workflow_ref")))
    (.error "signer workflow ref is invalid")
  let expectedWorkflow := repository ++ slash :: releaseWorkflowPath
  refuseIf (signerWorkflowRef ≠ expectedWorkflow ++ 64 :: releaseRef)
    (.error "signer workflow ref must exactly match the release repository")
  let signerWorkflowSha ← requireSha (get provenance (text "signer_workflow_sha"))
    "signer workflow SHA"
  refuseIf (signerWorkflowSha ≠ sourceSha)
    (.error "signer workflow SHA must exactly match the release source SHA")
  refuseIf (¬ ((get provenance (text "release_tag")).isText tag
      && (get provenance (text "signer_workflow")).isText expectedWorkflow))
    (.error "GitHub release provenance is not canonical")
  pure { sourceSha, sourceDirty, repository, releaseRef, signerWorkflow := expectedWorkflow }

/-- `validate_release_provenance` with `publishable=False` -/
def validateReleaseProvenance (value version : Value) : Except Refusal Provenance := do
  let provenance ← orRefuse (asDict value) (.error "release manifest is missing release_provenance")
  refuseIf (¬ (get provenance (text "schema")).isText releaseProvenanceSchema)
    (.error "release provenance schema is missing or unsupported")
  if (get provenance (text "kind")).isText (text "local-build") then
    refuseIf (¬ keysAre provenance localProvenanceKeys)
      (.error "local release provenance shape is invalid")
    let sourceSha ← requireSha (get provenance (text "source_sha")) "release source SHA"
    let sourceDirty ← orRefuse (asBool (get provenance (text "source_dirty")))
      (.error "release source dirty state must be a boolean")
    refuseIf (¬ (get provenance (text "publishable")).isBool false)
      (.error "local release provenance must not be publishable")
    pure { sourceSha, sourceDirty, repository := none, releaseRef := none, signerWorkflow := none }
  else do
    refuseIf (¬ (get provenance (text "kind")).isText (text "github-actions"))
      (.error "release provenance kind is missing or unsupported")
    validateGithubProvenance provenance version

/-- `manifest.get(key) != expected` for an expected string or `None`. -/
def differs (value : Value) : Option Str → Bool
  | some s => !value.isText s
  | none => !value.isNull

/-- `validate_manifest_release_contract(manifest)`, without expectations of the caller. -/
def validateManifestReleaseContract (manifest : Fields) : Except Refusal Unit := do
  refuseIf (¬ (get manifest (text "schema")).isText releaseManifestSchema)
    (.error "release manifest schema is missing or unsupported")
  let provenance ← validateReleaseProvenance (get manifest (text "release_provenance"))
    (get manifest (text "version"))
  refuseIf (¬ (get manifest (text "git_commit")).isText provenance.sourceSha)
    (.error "release provenance source SHA does not match manifest git_commit")
  refuseIf (¬ (get manifest (text "git_dirty")).isBool provenance.sourceDirty)
    (.error "release provenance dirty state does not match manifest git_dirty")
  refuseIf (differs (get manifest (text "release_repository")) provenance.repository)
    (.error "does not match canonical provenance" (text "release_repository"))
  refuseIf (differs (get manifest (text "release_ref")) provenance.releaseRef)
    (.error "does not match canonical provenance" (text "release_ref"))
  refuseIf (differs (get manifest (text "signer_workflow")) provenance.signerWorkflow)
    (.error "does not match canonical provenance" (text "signer_workflow"))

/-! ## The payload identity -/

/-- `[0-7]{4}` -/
def IsOctal (mode : Str) : Prop := mode.length = 4 ∧ ∀ c ∈ mode, 48 ≤ c ∧ c ≤ 55

instance (mode : Str) : Decidable (IsOctal mode) := inferInstanceAs (Decidable (_ ∧ _))

/-- One entry of `files`. -/
def validatedEntry (item : Value) : Except Refusal PayloadEntry := do
  let fields ← orRefuse (asDict item) (.error "release payload contains a malformed file entry")
  refuseIf (¬ keysAre fields payloadEntryKeys)
    (.error "release payload contains a malformed file entry")
  let path ← orRefuse (asText (get fields (text "path")))
    (.error "release payload file path is invalid")
  let path ← normalizedPayloadPath path
  refuseIf (path = releaseManifestName)
    (.error "release payload file manifest must not contain RELEASE_MANIFEST.json")
  refuseIf (¬ (get fields (text "type")).isText (text "file"))
    (.error "release payload entry type is not allowed" path)
  let mode ← textWith IsOctal (get fields (text "mode"))
    (.error "release payload file mode is invalid" path)
  let _ ← validatedMode (ofOctal mode) path
  let size ← orRefuse (asInt (get fields (text "size")))
    (.error "release payload file size is invalid" path)
  refuseIf (size < 0 ∨ maxArchiveFileBytes < size)
    (.error "release payload file size is invalid" path)
  let digest ← textWith IsDigest (get fields (text "sha256"))
    (.error "release payload file digest is invalid" path)
  pure { path, mode, size := size.toNat, sha256 := digest }

/-- The loop over `files`, with the bytes of the files before. -/
def validatedFiles : (totalBytes : Nat) → List Value → Except Refusal (List PayloadEntry)
  | _, [] => pure []
  | totalBytes, item :: rest => do
    let entry ← validatedEntry item
    refuseIf (maxArchiveTotalBytes < totalBytes + entry.size)
      (.error "release payload exceeds the supported bytes" entry.path)
    let entries ← validatedFiles (totalBytes + entry.size) rest
    pure (entry :: entries)

/-- `validated_payload_identity`: the digest and the files of a manifest. -/
def validatedPayloadIdentity (value : Value) : Except Refusal (Str × List PayloadEntry) := do
  let manifest ← orRefuse (asDict value) (.error "release manifest root must be a JSON object")
  refuseIf (¬ (get manifest (text "schema")).isText releaseManifestSchema)
    (.error "release manifest schema is missing or unsupported")
  validateSourceIdentity manifest
  validateManifestReleaseContract manifest
  let identity ← orRefuse (asDict (get manifest (text "payload_identity")))
    (.error "release manifest payload_identity shape is invalid")
  refuseIf (¬ keysAre identity payloadIdentityKeys)
    (.error "release manifest payload_identity shape is invalid")
  refuseIf (¬ (get identity (text "algorithm")).isText payloadIdentityAlgorithm)
    (.error "release manifest has an unsupported payload identity algorithm")
  refuseIf (¬ (get identity (text "manifest_path")).isText releaseManifestName
      ∨ ¬ (get identity (text "manifest_excluded")).isBool true)
    (.error "release manifest must explicitly exclude only its own file from payload identity")
  let storedDigest ← textWith IsDigest (get identity (text "digest"))
    (.error "release payload digest is invalid")
  let files ← orRefuse (asList (get identity (text "files")))
    (.error "release payload file manifest is not a list")
  let fileCount ← orRefuse (asInt (get identity (text "file_count")))
    (.error "release payload file_count does not match its file manifest")
  refuseIf (fileCount ≠ files.length)
    (.error "release payload file_count does not match its file manifest")
  refuseIf (fileCount < 1 ∨ maxArchiveEntries < fileCount)
    (.error "release payload file_count is outside the supported range")
  let entries ← validatedFiles 0 files
  let paths := entries.map PayloadEntry.path
  refuseIf (¬ paths.Pairwise (· ≤ ·))
    (.error "release payload file manifest is not canonically sorted")
  refuseIf (¬ paths.Nodup) (.error "release payload file manifest contains duplicate paths")
  let actualDigest ← payloadDigest entries
  refuseIf (storedDigest ≠ actualDigest) (.error "release payload digest mismatch" storedDigest)
  pure (storedDigest, entries)

end TrexWebui
