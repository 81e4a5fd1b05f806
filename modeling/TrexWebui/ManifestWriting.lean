import Mathlib.Tactic.Ring
import TrexWebui.ReleaseScan

/-!
# Manifests that the validator accepts

For a sorted list of files that may stand in a release there is a manifest
that names them: the validator accepts it and returns the list, and it is
read back from its canonical bytes. The provenance is that of a local build.
-/

namespace TrexWebui

open PyStr PyJson PosixPath Sha2 Checks

/-! ## Bytes -/

def canonicalBytes (value : Value) : Bytes := (write value).flatMap encodePoint

theorem strictJsonLoads_canonicalBytes {value : Value} (h : Readable value) :
    strictJsonLoads (canonicalBytes value) = .ok value := by
  have hencode : encode (write value) = some (canonicalBytes value) :=
    encode_eq_some_iff.mpr ⟨scalar_write value (Readable.written value h), rfl⟩
  simp only [strictJsonLoads, decode_encode hencode, orRefuse, loads_write h, bind, Except.bind, pure,
    Except.pure]

theorem length_encodePoint_le (c : Nat) : (encodePoint c).length ≤ 4 := by
  unfold encodePoint
  split_ifs <;> simp

theorem length_encodePoint_of_ascii {c : Nat} (h : c < 0x80) : (encodePoint c).length = 1 := by
  rw [encodePoint, if_pos h]
  rfl

theorem length_encode_ascii {s : Str} (h : ∀ c ∈ s, c < 0x80) :
    (s.flatMap encodePoint).length = s.length := by
  induction s with
  | nil => rfl
  | cons c s ih =>
      obtain ⟨hc, hs⟩ := List.forall_mem_cons.mp h
      rw [List.flatMap_cons, List.length_append, length_encodePoint_of_ascii hc, ih hs,
        List.length_cons, Nat.add_comm]

theorem length_escape_le (c : Nat) : ((escape c).flatMap encodePoint).length ≤ 6 := by
  by_cases hplain : escape c = [c]
  · rw [hplain]
    have := length_encodePoint_le c
    simp only [List.flatMap_cons, List.flatMap_nil, List.append_nil]
    omega
  · have hascii : ∀ d ∈ escape c, d < 0x80 := by
      unfold escape at hplain ⊢
      split_ifs at hplain ⊢ with hspecial _ _ _ _ _ hcontrol
      · rcases hspecial with rfl | rfl <;> decide
      · decide
      · decide
      · decide
      · decide
      · decide
      · intro d hd
        simp only [List.mem_cons, List.not_mem_nil, or_false] at hd
        rcases hd with rfl | rfl | rfl | rfl | rfl | rfl
        · decide
        · decide
        · decide
        · decide
        · exact hexDigit_lt_ascii (by omega)
        · exact hexDigit_lt_ascii (by omega)
      · exact absurd rfl hplain
    rw [length_encode_ascii hascii]
    unfold escape
    split_ifs <;> simp

theorem length_quote_le (s : Str) :
    ((quote s).flatMap encodePoint).length ≤ 6 * s.length + 2 := by
  have hbody : ∀ s : Str, ((s.flatMap escape).flatMap encodePoint).length ≤ 6 * s.length := by
    intro s
    induction s with
    | nil => simp
    | cons c s ih =>
        have := length_escape_le c
        rw [List.flatMap_cons, List.flatMap_append, List.length_append, List.length_cons]
        omega
  have := hbody s
  rw [quote, List.flatMap_append, List.flatMap_cons, List.length_append, List.length_append,
    List.flatMap_cons, List.flatMap_nil, List.append_nil,
    length_encodePoint_of_ascii (c := quoteMark) (by decide)]
  omega

mutual

def bytesBound : Value → Nat
  | .null => 4
  | .bool _ => 5
  | .int i => i.natAbs + 2
  | .float literal => 4 * literal.length
  | .str s => 6 * s.length + 2
  | .arr items => itemsBound items + 2
  | .obj fields => fieldsBound fields + 2

def itemsBound : List Value → Nat
  | [] => 0
  | item :: rest => bytesBound item + 1 + itemsBound rest

def fieldsBound : Fields → Nat
  | [] => 0
  | (key, value) :: rest => 6 * key.length + 4 + bytesBound value + fieldsBound rest

end

theorem length_decimal_le (n : Nat) : (decimal n).length ≤ n + 1 := by
  rw [decimal, List.length_map]
  exact (Nat.length_toDigits_le_iff (by decide) (Nat.succ_pos n)).mpr
    (Nat.lt_of_lt_of_le (Nat.lt_pow_self (by decide))
      (Nat.pow_le_pow_right (by decide) (Nat.le_succ n)))

theorem length_encode_le (s : Str) : (s.flatMap encodePoint).length ≤ 4 * s.length := by
  induction s with
  | nil => simp
  | cons c s ih =>
      have := length_encodePoint_le c
      rw [List.flatMap_cons, List.length_append, List.length_cons]
      omega

mutual

theorem length_canonicalBytes_le : (value : Value) →
    ((write value).flatMap encodePoint).length ≤ bytesBound value
  | .null => by decide
  | .bool true => by decide
  | .bool false => by decide
  | .int i => by
      have hascii : ∀ c ∈ write (.int i), c < 0x80 := by
        intro c hc
        rcases List.mem_append.mp hc with hc | hc
        · split_ifs at hc
          · rw [List.mem_singleton.mp hc]
            decide
          · cases hc
        · have := isDigit_decimal hc
          simp only [isDigit, Bool.and_eq_true, decide_eq_true_eq] at this
          omega
      have := length_decimal_le i.natAbs
      rw [length_encode_ascii hascii, write, List.length_append, bytesBound]
      split_ifs
      · simp only [List.length_singleton]
        omega
      · simp only [List.length_nil]
        omega
  | .float literal => length_encode_le literal
  | .str s => length_quote_le s
  | .arr [] => by decide
  | .arr (item :: rest) => by
      have hitem := length_canonicalBytes_le item
      have hrest := length_itemsBytes_le rest
      simp only [write, bytesBound, itemsBound, List.cons_append, List.flatMap_cons,
        List.flatMap_append, List.length_append,
        length_encodePoint_of_ascii (c := openBracket) (by decide)]
      omega
  | .obj [] => by decide
  | .obj ((key, value) :: rest) => by
      have hkey := length_quote_le key
      have hvalue := length_canonicalBytes_le value
      have hrest := length_fieldsBytes_le rest
      simp only [write, bytesBound, fieldsBound, List.cons_append, List.flatMap_cons,
        List.flatMap_append, List.length_append,
        length_encodePoint_of_ascii (c := openBrace) (by decide),
        length_encodePoint_of_ascii (c := colon) (by decide)]
      omega

theorem length_itemsBytes_le : (items : List Value) →
    ((writeItems items).flatMap encodePoint).length ≤ itemsBound items + 1
  | [] => by decide
  | item :: rest => by
      have hitem := length_canonicalBytes_le item
      have hrest := length_itemsBytes_le rest
      simp only [writeItems, itemsBound, List.cons_append, List.flatMap_cons, List.flatMap_append,
        List.length_append, length_encodePoint_of_ascii (c := comma) (by decide)]
      omega

theorem length_fieldsBytes_le : (fields : Fields) →
    ((writeFields fields).flatMap encodePoint).length ≤ fieldsBound fields + 1
  | [] => by decide
  | (key, value) :: rest => by
      have hkey := length_quote_le key
      have hvalue := length_canonicalBytes_le value
      have hrest := length_fieldsBytes_le rest
      simp only [writeFields, fieldsBound, List.cons_append, List.flatMap_cons, List.flatMap_append,
        List.length_append, length_encodePoint_of_ascii (c := comma) (by decide),
        length_encodePoint_of_ascii (c := colon) (by decide)]
      omega

end

/-! ## The manifest of a list of files -/

/-- An entry of `files`, with its keys in order. -/
def payloadItem (file : PayloadEntry) : Value :=
  .obj [(text "mode", .str file.mode), (text "path", .str file.path),
    (text "sha256", .str file.sha256), (text "size", .int file.size),
    (text "type", .str (text "file"))]

def writtenSha : Str := text "0123456789abcdef0123456789abcdef01234567"

def writtenSourceDigest : Str :=
  text "0123456789abcdef0123456789abcdef0123456789abcdef0123456789abcdef"

def writtenIdentity (files : List PayloadEntry) (digest : Str) : Fields :=
  [(text "algorithm", .str payloadIdentityAlgorithm), (text "digest", .str digest),
    (text "file_count", .int (files.map payloadItem).length),
    (text "files", .arr (files.map payloadItem)), (text "manifest_excluded", .bool true),
    (text "manifest_path", .str releaseManifestName)]

def writtenProvenance : Fields :=
  [(text "kind", .str (text "local-build")), (text "publishable", .bool false),
    (text "schema", .str releaseProvenanceSchema), (text "source_dirty", .bool false),
    (text "source_sha", .str writtenSha)]

def writtenGit : Fields :=
  [(text "dirty", .bool false), (text "sha", .str writtenSha),
    (text "status_sha256", .str writtenSourceDigest)]

def writtenSource : Fields :=
  [(text "algorithm", .str sourceIdentityAlgorithm), (text "digest", .str writtenSourceDigest),
    (text "file_count", .int 1), (text "git", .obj writtenGit)]

def writtenFields (files : List PayloadEntry) (digest : Str) : Fields :=
  [(text "git_commit", .str writtenSha), (text "git_dirty", .bool false),
    (text "payload_identity", .obj (writtenIdentity files digest)),
    (text "release_provenance", .obj writtenProvenance),
    (text "schema", .str releaseManifestSchema), (text "source_digest", .str writtenSourceDigest),
    (text "source_identity", .obj writtenSource)]

def writtenManifest (files : List PayloadEntry) (digest : Str) : Value :=
  .obj (writtenFields files digest)

/-- A file that a manifest may list. -/
structure PayloadEntry.Listable (file : PayloadEntry) : Prop where
  clean : Clean (rstripSlash file.path)
  printable : Printable file.path
  length : utf8Length (rstripSlash file.path) ≤ 4096
  name : rstripSlash file.path ≠ releaseManifestName
  octal : IsOctal file.mode
  mode : SafeMode (ofOctal file.mode)
  size : file.size ≤ maxArchiveFileBytes
  digest : IsDigest file.sha256

def PayloadEntry.stripped (file : PayloadEntry) : PayloadEntry :=
  { file with path := rstripSlash file.path }

theorem validatedEntry_payloadItem {file : PayloadEntry} (h : file.Listable) :
    validatedEntry (payloadItem file) = .ok file.stripped := by
  have hpath : normalizedPayloadPath file.path = .ok (rstripSlash file.path) :=
    normalizedPayloadPath_eq_ok.mpr ⟨rfl, h.clean, h.printable, h.length⟩
  have hkeys : keysAre [(text "mode", .str file.mode), (text "path", .str file.path),
      (text "sha256", .str file.sha256), (text "size", .int file.size),
      (text "type", .str (text "file"))] payloadEntryKeys = true := by rfl
  have hsize := h.size
  simp only [validatedEntry, bind_eq_ok, orRefuse_eq_ok, refuseIf_eq_ok, exists_const, pure_eq_ok,
    textWith, validatedMode_eq_ok, not_not]
  refine ⟨_, rfl, hkeys, file.path, rfl, _, hpath, h.name, rfl, _, ⟨file.mode, rfl, h.octal, rfl⟩,
    _, ⟨h.mode, rfl⟩, file.size, rfl, ?_, _, ⟨file.sha256, rfl, h.digest, rfl⟩, rfl⟩
  omega

theorem validatedFiles_written {files : List PayloadEntry} (h : ∀ file ∈ files, file.Listable)
    {total : Nat} (htotal : total + totalSize files ≤ maxArchiveTotalBytes) :
    validatedFiles total (files.map payloadItem) = .ok (files.map PayloadEntry.stripped) := by
  induction files generalizing total with
  | nil => rfl
  | cons file files ih =>
      obtain ⟨hfile, hrest⟩ := List.forall_mem_cons.mp h
      rw [totalSize, List.map_cons, List.sum_cons, ← totalSize, ← Nat.add_assoc] at htotal
      simp only [List.map_cons, validatedFiles, validatedEntry_payloadItem hfile, bind_eq_ok,
        Except.ok.injEq, exists_eq_left', refuseIf_eq_ok, exists_const, pure_eq_ok]
      exact ⟨by change ¬ _ < total + file.size; omega, _, ih hrest htotal, rfl⟩

theorem validateSourceIdentity_written (files : List PayloadEntry) (digest : Str) :
    validateSourceIdentity (writtenFields files digest) = .ok () := by
  simp only [validateSourceIdentity, bind_eq_ok, orRefuse_eq_ok, refuseIf_eq_ok, exists_const,
    pure_eq_ok, textWith, not_not]
  refine ⟨writtenSource, rfl, rfl, _, ⟨writtenSourceDigest, rfl, by decide, rfl⟩, 1, rfl, by decide,
    writtenGit, rfl, _, ⟨writtenSha, rfl, by decide, rfl⟩, false, rfl, _,
    ⟨writtenSourceDigest, rfl, by decide, rfl⟩, rfl, rfl, rfl⟩

theorem validateManifestReleaseContract_written (files : List PayloadEntry) (digest : Str) :
    validateManifestReleaseContract (writtenFields files digest) = .ok () := by
  have hprovenance : validateReleaseProvenance (.obj writtenProvenance) .null
      = .ok { sourceSha := writtenSha, sourceDirty := false, repository := none, releaseRef := none,
              signerWorkflow := none } := rfl
  have hget : get (writtenFields files digest) (text "release_provenance") = .obj writtenProvenance
      ∧ get (writtenFields files digest) (text "version") = .null := ⟨rfl, rfl⟩
  simp only [validateManifestReleaseContract, bind_eq_ok, refuseIf_eq_ok, exists_const, hget.1,
    hget.2, hprovenance, Except.ok.injEq, exists_eq_left', not_not]
  exact ⟨rfl, rfl, rfl, fun h => Bool.false_ne_true h, fun h => Bool.false_ne_true h,
    fun h => Bool.false_ne_true h⟩

theorem isDigest_of_payloadDigest {files : List PayloadEntry} {digest : Str}
    (h : payloadDigest files = .ok digest) : IsDigest digest := by
  simp only [payloadDigest, bind_eq_ok, pure_eq_ok] at h
  obtain ⟨material, -, rfl⟩ := h
  exact isDigest_hexdigest material

theorem validatedPayloadIdentity_written {files : List PayloadEntry} {digest : Str}
    (hfiles : ∀ file ∈ files, file.Listable) (hne : files ≠ [])
    (hcount : files.length ≤ maxArchiveEntries) (hsize : totalSize files ≤ maxArchiveTotalBytes)
    (hsorted : (pathsOf (files.map PayloadEntry.stripped)).Pairwise (· ≤ ·))
    (hnodup : (pathsOf (files.map PayloadEntry.stripped)).Nodup)
    (hdigest : payloadDigest (files.map PayloadEntry.stripped) = .ok digest) :
    validatedPayloadIdentity (writtenManifest files digest)
      = .ok (digest, files.map PayloadEntry.stripped) := by
  have hvalidated := @validatedFiles_written _ hfiles 0 (by omega)
  have hpos : 0 < files.length := List.length_pos_iff.mpr hne
  have hkeys : keysAre (writtenIdentity files digest) payloadIdentityKeys = true := rfl
  simp only [validatedPayloadIdentity, bind_eq_ok, orRefuse_eq_ok, refuseIf_eq_ok, exists_const,
    pure_eq_ok, textWith, not_not]
  refine ⟨writtenFields files digest, rfl, rfl, (), validateSourceIdentity_written files digest, (),
    validateManifestReleaseContract_written files digest, writtenIdentity files digest, rfl, hkeys,
    rfl, ?_, _, ⟨digest, rfl, isDigest_of_payloadDigest hdigest, rfl⟩, files.map payloadItem, rfl,
    (files.map payloadItem).length, rfl, rfl, ?_, _, hvalidated, hsorted, hnodup, _, hdigest, rfl,
    rfl⟩
  · exact not_or.mpr ⟨not_not.mpr rfl, not_not.mpr rfl⟩
  · rw [List.length_map]
    omega

/-! ## The bytes of the manifest -/

theorem scalar_of_isDigest {s : Str} (h : IsDigest s) : ∀ c ∈ s, Scalar c := by
  intro c hc
  have := h.2 c hc
  simp only [isLowerHex, Bool.or_eq_true, Bool.and_eq_true, decide_eq_true_eq] at this
  exact scalar_of_ascii (by omega)

theorem readable_text {s : Str} (h : ∀ c ∈ s, Scalar c) : Readable (.str s) := h

/-- What stands in the entry of a file can be written and read back. -/
structure PayloadEntry.Encodable (file : PayloadEntry) : Prop where
  mode : ∀ c ∈ file.mode, Scalar c
  path : ∀ c ∈ file.path, Scalar c
  digest : ∀ c ∈ file.sha256, Scalar c
  size : (decimal (file.size : Int).natAbs).length ≤ 4300

theorem PayloadEntry.encodable {file : PayloadEntry} (hpath : ∀ c ∈ file.path, Scalar c)
    (hmode : IsOctal file.mode) (hsize : file.size ≤ maxArchiveFileBytes)
    (hdigest : IsDigest file.sha256) : file.Encodable := by
  refine ⟨fun c hc => ?_, hpath, scalar_of_isDigest hdigest, ?_⟩
  · have := hmode.2 c hc
    exact scalar_of_ascii (by omega)
  · rw [decimal, List.length_map]
    refine (Nat.length_toDigits_le_iff (by decide) (by decide)).mpr ?_
    have hbound : maxArchiveFileBytes < 10 ^ 10 := by decide
    have hpow : (10 : Nat) ^ 10 ≤ 10 ^ 4300 := Nat.pow_le_pow_right (by decide) (by decide)
    omega

theorem PayloadEntry.Listable.encodable {file : PayloadEntry} (h : file.Listable) :
    file.Encodable := PayloadEntry.encodable h.printable.2.2 h.octal h.size h.digest

theorem readableItems_written {files : List PayloadEntry} (h : ∀ file ∈ files, file.Encodable) :
    ReadableItems (files.map payloadItem) := by
  induction files with
  | nil => trivial
  | cons file files ih =>
      obtain ⟨hfile, hrest⟩ := List.forall_mem_cons.mp h
      have hkeys : payloadEntryKeys.Nodup := by decide
      refine ⟨⟨hkeys, ?_⟩, ih hrest⟩
      rw [readableFields_iff]
      simp only [List.mem_cons, List.not_mem_nil, or_false, forall_eq_or_imp, forall_eq, Readable]
      exact ⟨⟨by decide, hfile.mode⟩, ⟨by decide, hfile.path⟩, ⟨by decide, hfile.digest⟩,
        ⟨by decide, hfile.size⟩, by decide, by decide⟩

theorem readableItems_value {files : List PayloadEntry} (h : ∀ file ∈ files, file.Encodable) :
    ReadableItems (files.map PayloadEntry.value) := by
  induction files with
  | nil => trivial
  | cons file files ih =>
      obtain ⟨hfile, hrest⟩ := List.forall_mem_cons.mp h
      have hkeys : [text "path", text "type", text "mode", text "size", text "sha256"].Nodup := by
        decide
      refine ⟨⟨hkeys, ?_⟩, ih hrest⟩
      rw [readableFields_iff]
      simp only [List.mem_cons, List.not_mem_nil, or_false, forall_eq_or_imp, forall_eq, Readable]
      exact ⟨⟨by decide, hfile.path⟩, ⟨by decide, by decide⟩, ⟨by decide, hfile.mode⟩,
        ⟨by decide, hfile.size⟩, by decide, hfile.digest⟩

/-- What `payload_digest` hashes. -/
def payloadMaterial (files : List PayloadEntry) : Value :=
  .obj [(text "algorithm", .str payloadIdentityAlgorithm),
    (text "files", .arr (files.map PayloadEntry.value))]

theorem readable_payloadMaterial {files : List PayloadEntry} (h : ∀ file ∈ files, file.Encodable) :
    Readable (payloadMaterial files) := by
  have hitems := readableItems_value h
  have hkeys : [text "algorithm", text "files"].Nodup := by decide
  refine ⟨hkeys, ?_⟩
  rw [readableFields_iff]
  simp only [List.mem_cons, List.not_mem_nil, or_false, forall_eq_or_imp, forall_eq, Readable]
  exact ⟨⟨by decide, by decide⟩, by decide, hitems⟩

theorem payloadDigest_eq_ok {files : List PayloadEntry} {digest : Str} :
    payloadDigest files = .ok digest ↔
      ∃ material, canonicalJsonBytes (payloadMaterial files) = .ok material
        ∧ hexdigest material = digest := by
  simp only [payloadDigest, payloadMaterial, bind_eq_ok, pure_eq_ok]

theorem payloadDigest_returns {files : List PayloadEntry} (h : ∀ file ∈ files, file.Listable) :
    ∃ digest, payloadDigest files = .ok digest := by
  obtain ⟨material, hmaterial, -, -⟩ :=
    loads_dumps (readable_payloadMaterial fun file hfile => (h file hfile).encodable)
  refine ⟨hexdigest material, payloadDigest_eq_ok.mpr ⟨material, ?_, rfl⟩⟩
  rw [canonicalJsonBytes, hmaterial]
  rfl

theorem readable_written {files : List PayloadEntry} (h : ∀ file ∈ files, file.Listable)
    (hcount : files.length ≤ maxArchiveEntries) {digest : Str} (hdigest : IsDigest digest) :
    Readable (writtenManifest files digest) := by
  have hitems := readableItems_written fun file hfile => (h file hfile).encodable
  have hlength : (decimal ((files.map payloadItem).length : Int).natAbs).length ≤ 4300 := by
    rw [decimal, List.length_map]
    refine (Nat.length_toDigits_le_iff (by decide) (by decide)).mpr ?_
    rw [Int.natAbs_natCast, List.length_map]
    have hbound : maxArchiveEntries < 10 ^ 5 := by decide
    have hpow : (10 : Nat) ^ 5 ≤ 10 ^ 4300 := Nat.pow_le_pow_right (by decide) (by decide)
    omega
  have hidentity : Readable (.obj (writtenIdentity files digest)) := by
    have hkeys : payloadIdentityKeys.Nodup := by decide
    refine ⟨hkeys, ?_⟩
    rw [readableFields_iff]
    simp only [writtenIdentity, List.mem_cons, List.not_mem_nil, or_false, forall_eq_or_imp,
      forall_eq, Readable]
    exact ⟨⟨by decide, by decide⟩, ⟨by decide, scalar_of_isDigest hdigest⟩, ⟨by decide, hlength⟩,
      ⟨by decide, hitems⟩, ⟨by decide, trivial⟩, by decide, by decide⟩
  have hprovenance : Readable (.obj writtenProvenance) := by
    refine ⟨by decide, ?_⟩
    rw [readableFields_iff]
    simp only [writtenProvenance, List.mem_cons, List.not_mem_nil, or_false, forall_eq_or_imp,
      forall_eq, Readable]
    decide
  have hgit : Readable (.obj writtenGit) := by
    refine ⟨by decide, ?_⟩
    rw [readableFields_iff]
    simp only [writtenGit, List.mem_cons, List.not_mem_nil, or_false, forall_eq_or_imp,
      forall_eq, Readable]
    decide
  have hsource : Readable (.obj writtenSource) := by
    refine ⟨by decide, ?_⟩
    rw [readableFields_iff]
    simp only [writtenSource, List.mem_cons, List.not_mem_nil, or_false, forall_eq_or_imp,
      forall_eq]
    have hone : (decimal 1).length ≤ 4300 := by decide
    exact ⟨⟨by decide, readable_text (by decide)⟩, ⟨by decide, readable_text (by decide)⟩,
      ⟨by decide, hone⟩, by decide, hgit⟩
  have hkeys : [text "git_commit", text "git_dirty", text "payload_identity",
      text "release_provenance", text "schema", text "source_digest", text "source_identity"].Nodup := by
    decide
  refine ⟨hkeys, ?_⟩
  rw [readableFields_iff]
  simp only [writtenFields, List.mem_cons, List.not_mem_nil, or_false, forall_eq_or_imp, forall_eq]
  exact ⟨⟨by decide, readable_text (by decide)⟩, ⟨by decide, trivial⟩, ⟨by decide, hidentity⟩,
    ⟨by decide, hprovenance⟩, ⟨by decide, readable_text (by decide)⟩,
    ⟨by decide, readable_text (by decide)⟩, by decide, hsource⟩

theorem itemsBound_written {files : List PayloadEntry} {limit : Nat}
    (h : ∀ file ∈ files, file.Listable)
    (hbound : ∀ file ∈ files, file.path.length ≤ limit ∧ file.size ≤ limit) :
    itemsBound (files.map payloadItem) ≤ files.length * (7 * limit + 700) := by
  induction files with
  | nil => simp [itemsBound]
  | cons file files ih =>
      obtain ⟨hfile, hrest⟩ := List.forall_mem_cons.mp h
      obtain ⟨⟨hpath, hsize⟩, hlimits⟩ := List.forall_mem_cons.mp hbound
      have hle := ih hrest hlimits
      have hmode := hfile.octal.1
      have hdigest := hfile.digest.1
      have htext : (text "mode").length = 4 ∧ (text "path").length = 4 ∧ (text "sha256").length = 6
          ∧ (text "size").length = 4 ∧ (text "type").length = 4 ∧ (text "file").length = 4 := by
        decide
      rw [List.map_cons, itemsBound, List.length_cons, Nat.add_mul]
      simp only [payloadItem, bytesBound, fieldsBound, hmode, hdigest, htext, Int.natAbs_natCast]
      omega

theorem length_written_le {files : List PayloadEntry} (h : ∀ file ∈ files, file.Listable)
    {limit : Nat} (hbound : ∀ file ∈ files, file.path.length ≤ limit ∧ file.size ≤ limit)
    {digest : Str} (hdigest : IsDigest digest) :
    (canonicalBytes (writtenManifest files digest)).length
      ≤ files.length * (7 * limit + 701) + 10000 := by
  refine (length_canonicalBytes_le _).trans ?_
  have hitems := itemsBound_written h hbound
  have hprovenance : bytesBound (.obj writtenProvenance) ≤ 1500 := by decide
  have hsource : bytesBound (.obj writtenSource) ≤ 2500 := by decide
  have hconstant : bytesBound (.str writtenSha) + bytesBound (.str releaseManifestSchema)
      + bytesBound (.str writtenSourceDigest) + bytesBound (.str payloadIdentityAlgorithm)
      + bytesBound (.str releaseManifestName) ≤ 2000 := by decide
  have hkeys : ((text "algorithm").length = 9 ∧ (text "digest").length = 6
      ∧ (text "file_count").length = 10 ∧ (text "files").length = 5
      ∧ (text "manifest_excluded").length = 17 ∧ (text "manifest_path").length = 13)
      ∧ (text "git_commit").length = 10 ∧ (text "git_dirty").length = 9
      ∧ (text "payload_identity").length = 16 ∧ (text "release_provenance").length = 18
      ∧ (text "schema").length = 6 ∧ (text "source_digest").length = 13
      ∧ (text "source_identity").length = 15 := by decide
  have hbool : ∀ b, bytesBound (.bool b) = 5 := fun _ => rfl
  have hdigestBound : bytesBound (.str digest) = 386 := by
    rw [bytesBound, hdigest.1]
  have hcount : bytesBound (.int (files.map payloadItem).length) = files.length + 2 := by
    rw [bytesBound, Int.natAbs_natCast, List.length_map]
  have hobject : ∀ fields, bytesBound (.obj fields) = fieldsBound fields + 2 := fun _ => rfl
  have hlisted : bytesBound (.arr (files.map payloadItem))
      = itemsBound (files.map payloadItem) + 2 := rfl
  have hidentity : bytesBound (.obj (writtenIdentity files digest))
      = 6 * 60 + 24 + bytesBound (.str payloadIdentityAlgorithm) + 386 + (files.length + 2)
        + (itemsBound (files.map payloadItem) + 2) + 5 + bytesBound (.str releaseManifestName) + 2 := by
    rw [hobject, writtenIdentity]
    simp only [fieldsBound, hkeys, hbool, hdigestBound, hcount, hlisted]
    ring
  rw [writtenManifest, hobject, writtenFields]
  simp only [fieldsBound, hkeys, hbool, hidentity]
  generalize itemsBound (files.map payloadItem) = items at hitems
  generalize bytesBound (.obj writtenProvenance) = n1 at *
  generalize bytesBound (.obj writtenSource) = n2 at *
  generalize bytesBound (.str writtenSha) = n3 at *
  generalize bytesBound (.str releaseManifestSchema) = n4 at *
  generalize bytesBound (.str writtenSourceDigest) = n5 at *
  generalize bytesBound (.str payloadIdentityAlgorithm) = n6 at *
  generalize bytesBound (.str releaseManifestName) = n7 at *
  have hlist : files.length * (7 * limit + 701)
      = files.length * (7 * limit + 700) + files.length := by ring
  omega

/-! ## Trees with such a manifest -/

theorem totalSize_stripped (files : List PayloadEntry) :
    totalSize (files.map PayloadEntry.stripped) = totalSize files := by
  rw [totalSize, totalSize, List.map_map]
  rfl

theorem verifyPayloadTree_written {root : Node} (hw : root.WellFormed) (hscannable : Scannable root)
    {stat : Stat} {files : List PayloadEntry} {digest : Str}
    (hentry : root.named? releaseManifestName
      = some (.file stat (canonicalBytes (writtenManifest files digest))))
    (hmode : permissions stat.mode = 0o644) (hsize : stat.size ≤ maxReleaseManifestBytes)
    (hfiles : ∀ file ∈ files, file.Listable) (hne : files ≠ [])
    (hpayload : files.map PayloadEntry.stripped = payloadFiles root)
    (hdigest : payloadDigest (payloadFiles root) = .ok digest) :
    verifyPayloadTree root = .ok digest := by
  have hcount := hscannable.count
  have hbytes := hscannable.bytes
  rw [← hpayload, List.length_map] at hcount
  rw [← hpayload, totalSize_stripped] at hbytes
  have hsorted : (pathsOf (payloadFiles root)).Pairwise (· ≤ ·) :=
    List.pairwise_map.mpr (sorted_sortByPath _)
  have hidentity := validatedPayloadIdentity_written hfiles hne hcount hbytes
    (hpayload ▸ hsorted) (hpayload ▸ nodup_payloadFiles hw) (hpayload ▸ hdigest)
  have hloads := strictJsonLoads_canonicalBytes
    (readable_written hfiles hcount (isDigest_of_payloadDigest hdigest))
  have hmanifest : manifestFromTree root = .ok (digest, payloadFiles root) := by
    rw [hpayload] at hidentity
    simp only [manifestFromTree, hentry, bind_eq_ok, orRefuse_eq_ok, Option.some.injEq,
      exists_eq_left', refuseIf_eq_ok, exists_const, hloads, Except.ok.injEq]
    exact ⟨not_not.mpr hmode, not_lt.mpr hsize, hidentity⟩
  have hscan := (scanPayloadTree_eq_ok hw).mpr ⟨hscannable, rfl⟩
  have hcompare := (comparePayloadFiles_eq_ok (nodup_payloadFiles hw) (nodup_payloadFiles hw)).mpr
    (List.Perm.refl _)
  simp only [verifyPayloadTree, hmanifest, hscan, bind_eq_ok, Except.ok.injEq, exists_eq_left',
    pure_eq_ok]
  exact ⟨(), hcompare, trivial⟩

end TrexWebui
