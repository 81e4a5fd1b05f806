import TrexWebui.ReleaseVerifiers

/-!
# The archive validator

`validate_archive` judges a release before anything of it is unpacked: it
reads the members of the tar file in their order and compares the files it
finds with the manifest among them. An archive is a list of members here;
whatever `gzip` and `tarfile` refuse before a member is seen has no members.
-/

namespace TrexWebui

open PyStr PyJson PosixPath Sha2 Checks

inductive MemberType where
  | regular
  | directory
  | symlink
  | hardlink
  | device
  | fifo
  | other
  deriving DecidableEq, Repr

/-- A member of a tar file, with what reading it gives. -/
structure TarMember where
  name : Str
  type : MemberType
  mode : Nat
  size : Int
  content : Bytes

/-- `REQUIRED_FILES`: a file that must be there, and whether it must be executable. -/
def requiredFiles : List (Str × Bool) :=
  [(releaseManifestName, false),
    (text "LICENSE", false),
    (text "NOTICE", false),
    (text "THIRD_PARTY_NOTICES.md", false),
    (text "SBOM.python.cdx.json", false),
    (text "SBOM.web.cdx.json", false),
    (text "apps/api/requirements-dev.lock", false),
    (text "apps/api/requirements-dev.txt", false),
    (text "apps/api/requirements.lock", false),
    (text "apps/api/requirements.txt", false),
    (text "apps/web/package-lock.json", false),
    (text "apps/web/package.json", false),
    (text "apps/web/dist/index.html", false),
    (text "deploy/archive_safety.py", false),
    (text "deploy/bootstrap_release_infrastructure.py", true),
    (text "deploy/daemon_rpc_probe.py", true),
    (text "deploy/install.sh", true),
    (text "deploy/logrotate/trex-daemon-server", false),
    (text "deploy/path_safety.sh", false),
    (text "deploy/release_transaction.py", true),
    (text "deploy/systemd/trex-daemon-server.service", false),
    (text "deploy/systemd/nftables-trex-webui.conf", false),
    (text "deploy/systemd/nginx-trex-webui-release-reconcile.conf", false),
    (text "deploy/systemd/trex-webui-api.service", false),
    (text "deploy/systemd/trex-webui-release-consumer-ack-v1-bridge-v2.conf", false),
    (text "deploy/systemd/trex-webui-release-consumer-ack-v2.service", false),
    (text "deploy/systemd/trex-webui-release-consumer-ack.service", false),
    (text "deploy/systemd/trex-webui-release-reconcile-v1-bridge-v2.conf", false),
    (text "deploy/systemd/trex-webui-release-reconcile-v2.conf", false),
    (text "deploy/systemd/trex-webui-release-reconcile-v2.service", false),
    (text "deploy/systemd/trex-webui-release-reconcile.service", false),
    (text "deploy/systemd/trex-webui-release-retry-v1-bridge-v2.conf", false),
    (text "deploy/systemd/trex-webui-release-retry-v2.service", false),
    (text "deploy/systemd/trex-webui-release-retry.service", false),
    (text "deploy/trex_daemon_supervisor.py", true),
    (text "deploy/trex_native_boundary.sh", true),
    (text "deploy/trex_overview_contract.py", true),
    (text "deploy/trex_persisted_state_contract.py", true),
    (text "deploy/trex-webui", true),
    (text "deploy/upgrade.sh", true),
    (text "deploy/verified_upgrade.sh", true),
    (text "deploy/verify.sh", true),
    (text "scripts/release_contract.py", true),
    (text "scripts/release_evidence.py", true),
    (text "scripts/release_metadata.py", true)]

/-- `SAFE_TOP_RE` -/
def IsSafeTop (name : Str) : Prop :=
  (∀ c ∈ name.head?, isAlphanumeric c = true) ∧ (∀ c ∈ name, isWordCharacter c = true)
    ∧ 1 ≤ name.length ∧ name.length ≤ 128

instance (name : Str) : Decidable (IsSafeTop name) :=
  inferInstanceAs (Decidable (_ ∧ _ ∧ _ ∧ _))

/-- The variables of the loop of `validate_archive`. -/
structure ArchiveScan where
  seen : List Str := []
  topLevel : Option Str := none
  totalBytes : Int := 0
  required : List (Str × Bool) := requiredFiles
  actualFiles : List PayloadEntry := []
  manifestContent : Option Bytes := none

def validateFile (s : ArchiveScan) (member : TarMember) (name relativeName : Str) :
    Except Refusal ArchiveScan := do
  refuseIf (member.size < 0 ∨ maxArchiveFileBytes < member.size)
    (.error "archive file has an unsafe size" name)
  let totalBytes := s.totalBytes + member.size
  refuseIf (maxArchiveTotalBytes < totalBytes)
    (.error "archive exceeds the supported uncompressed bytes")
  refuseIf (member.content.length ≠ member.size)
    (.error "archive file size changed while reading" name)
  if relativeName = releaseManifestName then do
    refuseIf (permissions member.mode ≠ 0o644) (.error "release manifest must have mode 0644")
    refuseIf (maxReleaseManifestBytes < member.size) (.error "release manifest is too large")
    pure { s with totalBytes,
                  manifestContent := some (member.content.take (maxReleaseManifestBytes + 1)) }
  else if relativeName ≠ [] then do
    let entry ← payloadEntry relativeName member.mode member.size.toNat (hexdigest member.content)
    pure { s with totalBytes, actualFiles := s.actualFiles ++ [entry] }
  else pure { s with totalBytes }

def validateContent (s : ArchiveScan) (member : TarMember) (name relativeName : Str) :
    Except Refusal ArchiveScan :=
  if member.type = .regular then validateFile s member name relativeName else pure s

/-- The check of a required file, which is then no longer required. -/
def validateRequired (s : ArchiveScan) (member : TarMember) (relativeName : Str) :
    Except Refusal ArchiveScan :=
  match s.required.find? fun file => file.1 = relativeName with
  | some file => do
    refuseIf (member.type ≠ .regular)
      (.error "required archive entry is not a regular file" relativeName)
    refuseIf (file.2 = true ∧ member.mode &&& 0o111 = 0)
      (.error "required archive entry is not executable" relativeName)
    pure { s with required := s.required.filter fun file => file.1 ≠ relativeName }
  | none => pure s

/-- The body of the loop of `validate_archive`, for the member with a number. -/
def validateMember (index : Nat) (s : ArchiveScan) (member : TarMember) :
    Except Refusal ArchiveScan := do
  refuseIf (maxArchiveEntries < index) (.error "archive exceeds the supported entries")
  let name ← normalizedMemberName member.name
  refuseIf (name ∈ s.seen) (.error "archive contains duplicate entry" name)
  let memberTop := (parts name).headD []
  refuseIf (¬ IsSafeTop memberTop ∨ memberTop = dot ∨ memberTop = dotDot)
    (.error "archive top-level directory is unsafe" memberTop)
  refuseIf (∃ top ∈ s.topLevel, memberTop ≠ top)
    (.error "archive must contain exactly one top-level directory")
  refuseIf (member.type = .symlink ∨ member.type = .hardlink)
    (.error "archive links are not allowed" name)
  refuseIf (member.type = .device ∨ member.type = .fifo)
    (.error "archive device/FIFO entries are not allowed" name)
  refuseIf (member.type ≠ .regular ∧ member.type ≠ .directory)
    (.error "archive entry type is not allowed" name)
  let _ ← validatedMode member.mode name
  refuseIf (name = memberTop ∧ member.type ≠ .directory)
    (.error "archive top-level entry must be a directory")
  let relativeName := if name ≠ memberTop then name.drop (memberTop.length + 1) else []
  let s := { s with seen := name :: s.seen, topLevel := some memberTop }
  let s ← validateContent s member name relativeName
  validateRequired s member relativeName

/-- The loop of `validate_archive`. -/
def validateMembers : (index : Nat) → ArchiveScan → List TarMember → Except Refusal ArchiveScan
  | _, s, [] => pure s
  | index, s, member :: rest => do
    let s ← validateMember index s member
    validateMembers (index + 1) s rest

def readReleaseManifest (content : Bytes) : Except Refusal (Str × List PayloadEntry) := do
  refuseIf (content = [] ∨ maxReleaseManifestBytes < content.length)
    (.error "release manifest is empty or too large")
  let parsed ← strictJsonLoads content
  validatedPayloadIdentity parsed

/-- `validate_archive`: the top-level directory of an archive. -/
def validateArchive (members : List TarMember) : Except Refusal Str := do
  let s ← validateMembers 1 {} members
  let topLevel ← orRefuse s.topLevel (.error "archive is empty")
  refuseIf (s.required ≠ [])
    (.error "archive is missing required files" ((s.required.map (·.1)).headD []))
  let content ← orRefuse s.manifestContent (.error "archive is missing its release manifest content")
  let (_, expectedFiles) ← readReleaseManifest content
  comparePayloadFiles expectedFiles (sortByPath s.actualFiles)
  pure topLevel

end TrexWebui
