import TrexWebui.ManifestWriting
import TrexWebui.ReleaseStore

/-!
# The two release verifiers

The packaging side and the installer judge the same trees with two copies of
one validator. On the trees that the installer can meet (one owner, one
link, one filesystem) they agree but for one detail: the packaging side
strips the slashes at the end of a path in the manifest before it looks at
it, and the installer refuses such a path. `verifiers_agree_iff` says that
this is the only difference.
-/

namespace TrexWebui

open PyStr PyJson PosixPath Sha2 Checks

/-! ## Loading -/

theorem strictJsonLoads_eq_ok {content : Bytes} {value : Value} :
    strictJsonLoads content = .ok value ↔ ∃ s, decode content = some s ∧ loads s = .ok value := by
  simp only [strictJsonLoads, bind_eq_ok, orRefuse_eq_ok]
  refine exists_congr fun s => and_congr_right fun _ => ?_
  cases loads s with
  | ok v => simp
  | error e => cases e <;> simp

theorem strictJsonLoadsOf_eq_ok {label : String} {content : Bytes} {value : Value} :
    strictJsonLoadsOf label content = .ok value
      ↔ ∃ s, decode content = some s ∧ loads s = .ok value := by
  simp only [strictJsonLoadsOf, bind_eq_ok, orRefuse_eq_ok]
  refine exists_congr fun s => and_congr_right fun _ => ?_
  cases loads s with
  | ok v => simp
  | error e => cases e <;> simp

/-! ## Modes -/

theorem safe_iff (mode : Nat) :
    permissions mode &&& 0o7022 = 0 ↔ SafeMode mode := by
  rw [show (0o7022 : Nat) = 0o7000 ||| 0o022 from rfl, Nat.and_or_distrib_left, Nat.or_eq_zero_iff,
    SafeMode]

theorem ofOctal_lt {mode : Str} (h : IsOctal mode) : ofOctal mode < 0o10000 := by
  obtain ⟨hlength, hdigits⟩ := h
  obtain ⟨a, b, c, d, rfl⟩ := List.length_eq_four.mp hlength
  have ha := hdigits a (by simp)
  have hb := hdigits b (by simp)
  have hc := hdigits c (by simp)
  have hd := hdigits d (by simp)
  simp only [ofOctal, List.foldl_cons, List.foldl_nil]
  omega

theorem permissions_ofOctal {mode : Str} (h : IsOctal mode) :
    permissions (ofOctal mode) = ofOctal mode := Nat.mod_eq_of_lt (ofOctal_lt h)

/-! ## Paths of the manifest -/

def EndsInSlash (path : Str) : Prop := path.getLast? = some slash

instance (path : Str) : Decidable (EndsInSlash path) := inferInstanceAs (Decidable (_ = _))

/-- A path that the packaging side accepts is accepted by the installer exactly if it has no
slash at its end; both then read the same path. -/
theorem normalizedReleasePath_eq_ok {raw n p : Str} (h : normalizedPayloadPath raw = .ok n) :
    normalizedReleasePath (.str raw) = .ok p ↔ ¬ EndsInSlash raw ∧ p = n := by
  obtain ⟨rfl, hclean, ⟨hback, hcontrol, hscalar⟩, hlength⟩ := normalizedPayloadPath_eq_ok.mp h
  have hne : raw ≠ [] := by
    rintro rfl
    exact (clean_ne hclean).1 rfl
  have hhead : raw.head? ≠ some slash := by
    rw [← head_rstripSlash (clean_ne hclean).1]
    exact head_of_clean hclean
  have hplain : (¬ ∃ part ∈ parts raw, part = [] ∨ part = dot ∨ part = dotDot)
      ↔ Plain (parts raw) := by simp [Plain, not_or]
  have hcontrol' : ¬ ∃ c ∈ raw, c < 32 := by
    rintro ⟨c, hc, hlt⟩
    exact absurd (hcontrol c hc) (by omega)
  have hencoded : encode raw = some (raw.flatMap encodePoint) := encode_eq_some_iff.mpr ⟨hscalar, rfl⟩
  simp only [normalizedReleasePath, asText, bind_eq_ok, orRefuse_eq_ok, Option.some.injEq,
    exists_eq_left', refuseIf_eq_ok, exists_const, pure_eq_ok, not_or, not_not, not_lt, hplain,
    hencoded]
  constructor
  · rintro ⟨-, -, ⟨hstr, hparts⟩, -, rfl⟩
    have hslash : ¬ EndsInSlash raw := by
      rcases (clean_iff_str hne hhead).mpr ⟨hstr, hparts⟩ with hraw | rfl
      · exact (rstripSlash_eq_self_iff hne).mp (rstripSlash_of_clean hraw)
      · decide
    exact ⟨hslash, ((rstripSlash_eq_self_iff hne).mpr hslash).symm⟩
  · rintro ⟨hslash, rfl⟩
    have hself := (rstripSlash_eq_self_iff hne).mpr hslash
    rw [hself] at hclean hlength ⊢
    obtain ⟨hstr, hparts⟩ := (clean_iff_str hne hhead).mp (Or.inl hclean)
    exact ⟨⟨hne, hback⟩, ⟨hhead, hcontrol'⟩, ⟨hstr, hparts⟩, hlength, rfl⟩

/-! ## Entries of the manifest -/

def listedFile (item : Value) : PayloadEntry :=
  let fields := (asDict item).getD []
  { path := (asText (get fields (text "path"))).getD []
    mode := (asText (get fields (text "mode"))).getD []
    size := ((asInt (get fields (text "size"))).getD 0).toNat
    sha256 := (asText (get fields (text "sha256"))).getD [] }

def listedFiles (manifest : Value) : List PayloadEntry :=
  let identity := get ((asDict manifest).getD []) (text "payload_identity")
  ((asList (get ((asDict identity).getD []) (text "files"))).getD []).map listedFile

theorem asText_eq_some {value : Value} {s : Str} : asText value = some s ↔ value = .str s := by
  cases value <;> simp [asText]

/-- The installer accepts an entry that the packaging side accepts exactly if its path has
no slash at its end, and reads what is written. -/
theorem releaseEntry_eq_ok {item : Value} {entry entry' : PayloadEntry}
    (h : validatedEntry item = .ok entry) :
    releaseEntry item = .ok entry' ↔ ¬ EndsInSlash (listedFile item).path ∧ entry' = entry := by
  simp only [validatedEntry, bind_eq_ok, orRefuse_eq_ok, refuseIf_eq_ok, exists_const, pure_eq_ok,
    textWith, validatedMode_eq_ok, not_not] at h
  obtain ⟨fields, hfields, hkeys, raw, hraw, path, hpath, hname, htype, _, ⟨mode, hmode, hoctal, rfl⟩,
    -, ⟨hsafe, -⟩, size, hsize, hrange, _, ⟨digest, hdigest, hisdigest, rfl⟩, rfl⟩ := h
  have hraw' := asText_eq_some.mp hraw
  have hread := fun p => normalizedReleasePath_eq_ok (p := p) hpath
  have hlisted : (listedFile item).path = raw := by
    simp [listedFile, hfields, hraw]
  have hbits : ofOctal mode &&& 0o7022 = 0 := by
    rw [← permissions_ofOctal hoctal]
    exact (safe_iff _).mpr hsafe
  simp only [releaseEntry, requireDigest, bind_eq_ok, orRefuse_eq_ok, refuseIf_eq_ok, exists_const,
    pure_eq_ok, textWith, not_not, hfields, Option.some.injEq, exists_eq_left', hkeys, hraw', hread,
    hlisted, hmode, hsize, hdigest, true_and, not_or]
  constructor
  · rintro ⟨_, ⟨hslash, rfl⟩, -, _, ⟨-, rfl⟩, -, -, _, ⟨-, rfl⟩, rfl⟩
    exact ⟨hslash, rfl⟩
  · rintro ⟨hslash, rfl⟩
    exact ⟨path, ⟨hslash, rfl⟩, ⟨hname, htype⟩, mode, ⟨hoctal, rfl⟩, hbits,
      not_or.mp hrange, digest, ⟨hisdigest, rfl⟩, rfl⟩

theorem listedFile_eq {item : Value} {entry : PayloadEntry} (h : validatedEntry item = .ok entry)
    (hslash : ¬ EndsInSlash (listedFile item).path) : listedFile item = entry := by
  simp only [validatedEntry, bind_eq_ok, orRefuse_eq_ok, refuseIf_eq_ok, exists_const, pure_eq_ok,
    textWith] at h
  obtain ⟨fields, hfields, -, raw, hraw, path, hpath, -, -, _, ⟨mode, hmode, -, rfl⟩, _, -, size,
    hsize, -, _, ⟨digest, hdigest, -, rfl⟩, rfl⟩ := h
  obtain ⟨rfl, hclean, -⟩ := normalizedPayloadPath_eq_ok.mp hpath
  simp only [listedFile, hfields, hraw, hmode, hsize, hdigest, Option.getD_some] at hslash ⊢
  have hne : raw ≠ [] := by
    rintro rfl
    exact (clean_ne hclean).1 rfl
  rw [(rstripSlash_eq_self_iff hne).mpr hslash]

theorem releaseFiles_eq_ok {items : List Value} {total : Nat} {entries entries' : List PayloadEntry}
    (h : validatedFiles total items = .ok entries) :
    releaseFiles total items = .ok entries'
      ↔ (∀ item ∈ items, ¬ EndsInSlash (listedFile item).path) ∧ entries' = entries := by
  induction items generalizing total entries entries' with
  | nil =>
      rw [validatedFiles, pure_eq_ok] at h
      rw [releaseFiles, pure_eq_ok, ← h]
      simp [eq_comm]
  | cons item items ih =>
      simp only [validatedFiles, bind_eq_ok, refuseIf_eq_ok, exists_const, pure_eq_ok] at h
      obtain ⟨entry, hentry, htotal, rest, hrest, rfl⟩ := h
      have hfirst := fun e => @releaseEntry_eq_ok item entry e hentry
      have hmore := fun l => @ih _ _ l hrest
      simp only [releaseFiles, bind_eq_ok, refuseIf_eq_ok, exists_const, pure_eq_ok, hfirst,
        List.forall_mem_cons]
      constructor
      · rintro ⟨_, ⟨hslash, rfl⟩, -, more, hmore', rfl⟩
        obtain ⟨hall, rfl⟩ := (hmore more).mp hmore'
        exact ⟨⟨hslash, hall⟩, rfl⟩
      · rintro ⟨⟨hslash, hall⟩, rfl⟩
        exact ⟨entry, ⟨hslash, rfl⟩, htotal, rest, (hmore rest).mpr ⟨hall, rfl⟩, rfl⟩

theorem map_listedFile {items : List Value} {total : Nat} {entries : List PayloadEntry}
    (h : validatedFiles total items = .ok entries)
    (hslash : ∀ item ∈ items, ¬ EndsInSlash (listedFile item).path) :
    items.map listedFile = entries := by
  induction items generalizing total entries with
  | nil =>
      rw [validatedFiles, pure_eq_ok] at h
      rw [← h]
      rfl
  | cons item items ih =>
      simp only [validatedFiles, bind_eq_ok, refuseIf_eq_ok, exists_const, pure_eq_ok] at h
      obtain ⟨entry, hentry, -, rest, hrest, rfl⟩ := h
      obtain ⟨hfirst, hall⟩ := List.forall_mem_cons.mp hslash
      rw [List.map_cons, listedFile_eq hentry hfirst, ih hrest hall]

/-! ## The manifest -/

theorem of_validatedPayloadIdentity {manifest : Value} {digest : Str}
    {entries : List PayloadEntry} (h : validatedPayloadIdentity manifest = .ok (digest, entries)) :
    (pathsOf entries).Pairwise (· ≤ ·) ∧ (pathsOf entries).Nodup
      ∧ payloadDigest entries = .ok digest ∧ ∃ items, validatedFiles 0 items = .ok entries
        ∧ items.map listedFile = listedFiles manifest := by
  simp only [validatedPayloadIdentity, bind_eq_ok, orRefuse_eq_ok, refuseIf_eq_ok, exists_const,
    pure_eq_ok, textWith, not_not, Prod.mk.injEq] at h
  obtain ⟨fields, hfields, -, _, -, _, -, identity, hidentity, -, -, -, _, ⟨stored, -, -, rfl⟩, items,
    hitems, _, -, -, -, _, hvalidated, hsorted, hnodup, _, hdigest, rfl, rfl, rfl⟩ := h
  refine ⟨hsorted, hnodup, hdigest, items, hvalidated, ?_⟩
  simp [listedFiles, hfields, hidentity, hitems]

/-- The installer accepts a manifest that the packaging side accepts exactly if no path in
it has a slash at its end, with the same digest and the same files. -/
theorem releaseIdentity_eq_ok {manifest : Value} {digest : Str} {entries : List PayloadEntry}
    (h : validatedPayloadIdentity manifest = .ok (digest, entries)) {digest' : Str}
    {entries' : List PayloadEntry} :
    releaseIdentity manifest = .ok (digest', entries')
      ↔ (∀ file ∈ listedFiles manifest, ¬ EndsInSlash file.path)
        ∧ digest' = digest ∧ entries' = entries := by
  simp only [validatedPayloadIdentity, bind_eq_ok, orRefuse_eq_ok, refuseIf_eq_ok, exists_const,
    pure_eq_ok, textWith, not_not, Prod.mk.injEq] at h
  obtain ⟨fields, hfields, hschema, _, -, _, -, identity, hidentity, hkeys, halgorithm, hexcluded,
    _, ⟨stored, hstored, hisdigest, rfl⟩, items, hitems, count, hcount, hlength, hrange, _, hvalidated,
    hsorted, hnodup, _, hdigest, rfl, rfl, rfl⟩ := h
  have hfiles := fun l => @releaseFiles_eq_ok _ _ _ l hvalidated
  have hlisted : listedFiles manifest = items.map listedFile := by
    simp [listedFiles, hfields, hidentity, hitems]
  have hslashes : (∀ file ∈ listedFiles manifest, ¬ EndsInSlash file.path)
      ↔ ∀ item ∈ items, ¬ EndsInSlash (listedFile item).path := by
    rw [hlisted, List.forall_mem_map]
  rw [hslashes]
  simp only [releaseIdentity, requireDigest, bind_eq_ok, orRefuse_eq_ok, refuseIf_eq_ok,
    exists_const, pure_eq_ok, textWith, not_not, Prod.mk.injEq, hfields, Option.some.injEq,
    exists_eq_left', hschema, hidentity, hkeys, halgorithm, hstored, hitems, hcount, hfiles,
    true_and]
  constructor
  · rintro ⟨-, _, ⟨-, rfl⟩, -, _, ⟨hall, rfl⟩, -, _, -, -, rfl, rfl⟩
    exact ⟨hall, rfl, rfl⟩
  · rintro ⟨hall, rfl, rfl⟩
    exact ⟨hexcluded, _, ⟨hisdigest, rfl⟩, not_or.mpr ⟨not_not.mpr hlength, hrange⟩, _, ⟨hall, rfl⟩,
      not_or.mpr ⟨not_not.mpr hsorted, not_not.mpr hnodup⟩, _, hdigest, rfl, rfl, rfl⟩

/-! ## The tree -/

def Acceptable (host : StoreHost) (entry : Located) : Prop :=
  entry.2.stat.uid = host.expectedUid ∧
    match entry.2 with
    | .dir stat _ _ => permissions stat.mode &&& 0o022 = 0
    | .file stat content => stat.nlink = 1 ∧ permissions stat.mode &&& 0o7022 = 0
      ∧ (entry.path = releaseManifestName ∨ content.length = stat.size)
    | .symlink _ _ => False
    | .special _ => False

theorem scanReleaseFile_eq {host : StoreHost} {path : List Str} {node : Node}
    (hdotenv : join path ≠ dotenvName) (hfile : node.isDir = false)
    (h : Acceptable host (path, node)) :
    scanReleaseFile host path node = .ok (payloadOf (path, node)).toList := by
  cases node with
  | dir stat names child => cases hfile
  | symlink stat toDirectory => exact absurd h.2 not_false
  | special stat => exact absurd h.2 not_false
  | file stat content =>
      obtain ⟨howner, hlink, hmode, hread⟩ := h
      have hsafe : ¬ (stat.uid ≠ host.expectedUid ∨ stat.nlink ≠ 1) :=
        not_or.mpr ⟨not_not.mpr howner, not_not.mpr hlink⟩
      by_cases hmanifest : join path = releaseManifestName
      · simp [scanReleaseFile, hmanifest, hsafe, hmode, payloadOf, Located.path, refuseIf, bind,
          Except.bind, pure, Except.pure, show releaseManifestName ≠ dotenvName by decide]
      · have hsize : content.length = stat.size := hread.resolve_left hmanifest
        simp [scanReleaseFile, hdotenv, hmanifest, hsafe, hmode, hsize, payloadOf, Located.path,
          refuseIf, bind, Except.bind, pure, Except.pure]

theorem flatMap_filter_of_nil {α β : Type} {l : List α} {p : α → Bool} {f : α → List β}
    (h : ∀ a ∈ l, p a = false → f a = []) : (l.filter p).flatMap f = l.flatMap f := by
  induction l with
  | nil => rfl
  | cons a l ih =>
      have hrest := ih fun b hb => h b (List.mem_cons_of_mem a hb)
      cases hp : p a with
      | true => rw [List.filter_cons_of_pos hp, List.flatMap_cons, List.flatMap_cons, hrest]
      | false =>
          rw [List.filter_cons_of_neg (by simp [hp]), List.flatMap_cons, hrest,
            h a List.mem_cons_self hp, List.nil_append]

theorem flatten_perm {α β : Type} {l : List α} {ys : List (List β)} {f : α → List β}
    (h : List.Forall₂ (fun a y => y.Perm (f a)) l ys) : ys.flatten.Perm (l.flatMap f) := by
  induction h with
  | nil => exact List.Perm.nil
  | cons hperm _ ih =>
      rw [List.flatten_cons, List.flatMap_cons]
      exact hperm.append ih

theorem leadsToDir_eq {host : StoreHost} {path : List Str} {node : Node}
    (h : Acceptable host (path, node)) : node.leadsToDir = node.isDir := by
  cases node with
  | symlink stat toDirectory => exact absurd h.2 not_false
  | dir stat names child => rfl
  | file stat content => rfl
  | special stat => rfl

theorem checkDirectory_eq {host : StoreHost} {path : List Str} {node : Node}
    (hdir : node.isDir = true) (h : Acceptable host (path, node)) :
    checkDirectory host path node = .ok () := by
  cases node with
  | dir stat names child =>
      exact refuseIf_eq_ok.mpr (not_or.mpr ⟨not_not.mpr h.1, not_not.mpr h.2⟩)
  | file stat content => cases hdir
  | symlink stat toDirectory => cases hdir
  | special stat => cases hdir

/-- The names at the root of a release that only an installed release has. -/
def IsInstalledName (name : Str) : Prop := name = dotenvName ∨ isRuntimeName name = true

theorem scanReleaseDirectory_returns {host : StoreHost} {node : Node} {path : List Str}
    (hsound : SoundEntry (path, node)) (hdir : node.isDir = true) (hself : Acceptable host (path, node))
    (hentries : ∀ entry ∈ node.descendants path, Acceptable host entry)
    (hroot : path = [] → ∀ name, (node.named? name).isSome → ¬ IsInstalledName name) :
    ∃ files, scanReleaseDirectory host path node = .ok files
      ∧ files.Perm ((node.descendants path).filterMap payloadOf) := by
  induction node generalizing path with
  | file stat content => cases hdir
  | symlink stat toDirectory => cases hdir
  | special stat => cases hdir
  | dir stat names child ih =>
      have hchild : ∀ name ∈ names, Acceptable host (path ++ [name], child name) :=
        fun name hname => hentries _ (mem_descendants_dir.mpr ⟨name, hname, Or.inl rfl⟩)
      have hinstalled : path = [] → ∀ name ∈ names, ¬ IsInstalledName name := by
        intro hpath name hname
        exact hroot hpath name (by simp [Node.named?, hname])
      have hwalked : (names.filter fun name => (child name).leadsToDir)
          = names.filter fun name => (child name).isDir :=
        List.filter_congr fun name hname => leadsToDir_eq (hchild name hname)
      have hplain : (names.filter fun name => !(child name).leadsToDir)
          = names.filter fun name => !(child name).isDir :=
        List.filter_congr fun name hname => by rw [leadsToDir_eq (hchild name hname)]
      have hruntimes : (if path = [] then
          (names.filter fun name => (child name).isDir).filter isRuntimeName else []) = [] := by
        split_ifs with hpath
        · refine List.filter_eq_nil_iff.mpr fun name hname hruntime => ?_
          exact hinstalled hpath name (List.mem_filter.mp hname).1 (Or.inr hruntime)
        · rfl
      have hdotenv : ∀ name ∈ names, join (path ++ [name]) ≠ dotenvName := by
        intro name hname heq
        have hjoin : join (path ++ [name]) = join [dotenvName] := heq
        have hlist := join_injective (sound_child hsound hname).1
          (fun part hpart => by rw [List.mem_singleton.mp hpart]; decide) (by simp) (by simp) hjoin
        have hpath : path = [] := by
          have := congrArg List.length hlist
          simpa using this
        rw [hpath] at hlist
        exact hinstalled hpath name hname (Or.inl (by simpa using hlist))
      obtain ⟨us, hus, -⟩ := mapM_returns (R := fun _ _ => True)
        (l := names.filter fun name => (child name).isDir)
        (f := fun name => checkDirectory host (path ++ [name]) (child name))
        fun name hname => by
          obtain ⟨hname, hisDir⟩ := List.mem_filter.mp hname
          exact ⟨(), checkDirectory_eq hisDir (hchild name hname), trivial⟩
      obtain ⟨found, hfound, hfiles⟩ := mapM_returns
        (R := fun name files => files.Perm (payloadOf (path ++ [name], child name)).toList)
        (l := names.filter fun name => !(child name).isDir)
        (f := fun name => scanReleaseFile host (path ++ [name]) (child name))
        fun name hname => by
          obtain ⟨hname, hisDir⟩ := List.mem_filter.mp hname
          exact ⟨_, scanReleaseFile_eq (hdotenv name hname) (by simpa using hisDir)
            (hchild name hname), List.Perm.refl _⟩
      obtain ⟨more, hmore, hbelow⟩ := mapM_returns
        (R := fun name files => files.Perm
          (((child name).descendants (path ++ [name])).filterMap payloadOf))
        (l := names.filter fun name => (child name).isDir)
        (f := fun name => scanReleaseDirectory host (path ++ [name]) (child name))
        fun name hname => by
          obtain ⟨hname, hisDir⟩ := List.mem_filter.mp hname
          refine ih name (sound_child hsound hname) hisDir (hchild name hname) ?_ fun h => ?_
          · intro entry hentry
            exact hentries entry (mem_descendants_dir.mpr ⟨name, hname, Or.inr hentry⟩)
          · simp at h
      refine ⟨found.flatten ++ more.flatten, ?_, ?_⟩
      · have hnotRuntime : (names.filter fun name => (child name).isDir).filter
            (fun name => name ∉ ([] : List Str)) = names.filter fun name => (child name).isDir := by
          simp
        have hself' : ¬ (stat.uid ≠ host.expectedUid ∨ permissions stat.mode &&& 0o022 ≠ 0) :=
          not_or.mpr ⟨not_not.mpr hself.1, not_not.mpr hself.2⟩
        rw [scanReleaseDirectory]
        simp only [hwalked, hplain, hruntimes, hnotRuntime, bind_eq_ok, refuseIf_eq_ok,
          exists_const, pure_eq_ok]
        exact ⟨hself', [], rfl, us, hus, found, hfound, more, hmore, rfl⟩
      · have hleft := flatten_perm hfiles
        have hright := flatten_perm hbelow
        rw [flatMap_filter_of_nil (by
          intro name hname hisDir
          cases hnode : child name with
          | dir stat names child => rfl
          | file stat content => rw [hnode] at hisDir; cases hisDir
          | symlink stat toDirectory => rfl
          | special stat => rfl)] at hleft
        rw [flatMap_filter_of_nil (by
          intro name hname hisDir
          cases hnode : child name with
          | dir stat names child => rw [hnode] at hisDir; cases hisDir
          | file stat content => rfl
          | symlink stat toDirectory => rfl
          | special stat => rfl)] at hright
        refine (hleft.append hright).trans ((List.flatMap_append_perm names _ _).trans ?_)
        rw [Node.descendants, List.filterMap_flatMap]
        refine List.Perm.of_eq (List.flatMap_congr fun name _ => ?_)
        rw [List.filterMap_cons]
        cases payloadOf (path ++ [name], child name) <;> rfl

/-! ## The agreement -/

/-- A tree as the installer unpacks one: owned, single-link, on the filesystem of the store,
and without the files of an installed release at its root. -/
structure Unpacked (host : StoreHost) (store : Option Nat) (root : Node) : Prop where
  wellFormed : root.WellFormed
  owned : ∀ entry ∈ ([], root) :: root.descendants [], entry.2.stat.uid = host.expectedUid
  singleLink : ∀ entry ∈ root.descendants [], ∀ stat content,
    entry.2 = .file stat content → stat.nlink = 1
  device : ∀ device ∈ store, ∀ entry ∈ ([], root) :: root.descendants [],
    entry.2.stat.dev = device
  bare : ∀ name, (root.named? name).isSome → ¬ IsInstalledName name

/-- The manifest of a tree, `null` if there is none that can be read. -/
def manifestValue (root : Node) : Value :=
  match root.named? releaseManifestName with
  | some (.file _ content) => (strictJsonLoads content).toOption.getD .null
  | _ => .null

/-- What `manifest_from_tree` accepts. -/
theorem of_manifestFromTree {root : Node} {digest : Str} {entries : List PayloadEntry}
    (h : manifestFromTree root = .ok (digest, entries)) :
    ∃ stat content, root.named? releaseManifestName = some (.file stat content)
      ∧ permissions stat.mode = 0o644 ∧ stat.size ≤ maxReleaseManifestBytes
      ∧ strictJsonLoads content = .ok (manifestValue root)
      ∧ validatedPayloadIdentity (manifestValue root) = .ok (digest, entries) := by
  simp only [manifestFromTree, bind_eq_ok, orRefuse_eq_ok] at h
  obtain ⟨manifest, hmanifest, h⟩ := h
  cases manifest with
  | file stat content =>
      simp only [bind_eq_ok, refuseIf_eq_ok, exists_const, not_not, not_lt] at h
      obtain ⟨hmode, hsize, parsed, hparsed, hidentity⟩ := h
      have hvalue : manifestValue root = parsed := by
        simp [manifestValue, hmanifest, hparsed, Except.toOption]
      rw [hvalue]
      exact ⟨stat, content, hmanifest, hmode, hsize, hparsed, hidentity⟩
  | dir stat names child => cases h
  | symlink stat toDirectory => cases h
  | special stat => cases h

theorem named?_of_mem_descendants {root : Node} {name : Str} {node : Node}
    (h : SoundEntry ([], root)) (hentry : ([name], node) ∈ root.descendants []) :
    root.named? name = some node := by
  cases root with
  | dir stat names child =>
      obtain ⟨other, hother, heq | hbelow⟩ := mem_descendants_dir.mp hentry
      · obtain ⟨hname, rfl⟩ := Prod.mk.inj heq
        have hname : name = other := by simpa using hname
        rw [hname, Node.named?, if_pos hother]
      · have hlength := (sound_of_mem_descendants (sound_child h hother) hbelow).2.2
        simp at hlength
  | file stat content => cases hentry
  | symlink stat toDirectory => cases hentry
  | special stat => cases hentry

theorem acceptable_of_admitted {host : StoreHost} {store : Option Nat} {root : Node}
    (hunpacked : Unpacked host store root) (hscannable : Scannable root) {stat : Stat}
    {content : Bytes} (hmanifest : root.named? releaseManifestName = some (.file stat content))
    (hmode : permissions stat.mode = 0o644) :
    ∀ entry ∈ root.descendants [], Acceptable host entry := by
  intro entry hentry
  have howner := hunpacked.owned entry (List.mem_cons_of_mem _ hentry)
  have hlink := hunpacked.singleLink entry hentry
  have hadmitted := (hscannable.entries entry hentry).2.2
  have hsound : SoundEntry ([], root) :=
    ⟨fun _ hpart => absurd hpart List.not_mem_nil, hunpacked.wellFormed⟩
  obtain ⟨path, node⟩ := entry
  refine ⟨howner, ?_⟩
  cases node with
  | dir stat names child => exact hadmitted.2
  | symlink stat toDirectory => exact hadmitted
  | special stat => exact hadmitted
  | file stat' content' =>
      refine ⟨hlink stat' content' rfl, ?_⟩
      rcases hadmitted with hname | ⟨-, hread, hsafe⟩
      · have hpath : path = [releaseManifestName] := by
          obtain ⟨hentrySound, -, hlength⟩ := sound_of_mem_descendants hsound hentry
          refine join_injective hentrySound.1 (fun part hpart => ?_)
            (List.ne_nil_of_length_pos (by omega)) (by simp) hname
          rw [List.mem_singleton.mp hpart]
          decide
        subst hpath
        have hsame := named?_of_mem_descendants hsound hentry
        rw [hmanifest] at hsame
        obtain ⟨rfl, -⟩ := Node.file.inj (Option.some.inj hsame)
        rw [hmode]
        exact ⟨by decide, Or.inl hname⟩
      · exact ⟨(safe_iff _).mpr hsafe, Or.inr hread⟩

theorem scanReleaseTree_eq {host : StoreHost} {store : Option Nat} {root : Node}
    (hunpacked : Unpacked host store root) (hscannable : Scannable root)
    (hentries : ∀ entry ∈ root.descendants [], Acceptable host entry) :
    scanReleaseTree host store root = .ok (payloadFiles root) := by
  have hsound : SoundEntry ([], root) :=
    ⟨fun _ hpart => absurd hpart List.not_mem_nil, hunpacked.wellFormed⟩
  have howner := hunpacked.owned _ List.mem_cons_self
  have hself : Acceptable host ([], root) := by
    refine ⟨howner, ?_⟩
    have hmode := hscannable.mode.2
    have hdir := hscannable.directory
    cases root with
    | dir stat names child => exact hmode
    | file stat content => cases hdir
    | symlink stat toDirectory => cases hdir
    | special stat => cases hdir
  obtain ⟨files, hfiles, hperm⟩ := scanReleaseDirectory_returns hsound hscannable.directory hself
    hentries fun _ => hunpacked.bare
  have hdevice : ∀ device ∈ store, root.stat.dev = device :=
    fun device hdevice => hunpacked.device device hdevice _ List.mem_cons_self
  simp only [scanReleaseTree, bind_eq_ok, refuseIf_eq_ok, exists_const, pure_eq_ok]
  refine ⟨?_, ?_, ?_, files, hfiles, ?_⟩
  · simp [hscannable.directory, howner, hscannable.mode.2]
  · rintro ⟨device, hmem, hne⟩
    exact hne (hdevice device hmem)
  · rintro ⟨device, hmem, hne⟩
    exact hne (hdevice device hmem)
  · exact sortByPath_eq_of_perm hperm
      (((hperm.map _).nodup_iff).mpr (nodup_found hunpacked.wellFormed))

theorem of_verifyPayloadTree {root : Node} (hw : root.WellFormed) {digest : Str}
    (h : verifyPayloadTree root = .ok digest) :
    manifestFromTree root = .ok (digest, payloadFiles root) ∧ Scannable root := by
  simp only [verifyPayloadTree, bind_eq_ok, pure_eq_ok, Prod.exists] at h
  obtain ⟨_, expected, hmanifest, actual, hscan, _, hcompare, rfl⟩ := h
  obtain ⟨hscannable, rfl⟩ := (scanPayloadTree_eq_ok hw).mp hscan
  obtain ⟨-, -, -, -, -, -, hidentity⟩ := of_manifestFromTree hmanifest
  obtain ⟨hsorted, hnodup, -⟩ := of_validatedPayloadIdentity hidentity
  have hperm := (comparePayloadFiles_eq_ok hnodup (nodup_payloadFiles hw)).mp hcompare
  have heq := eq_of_sorted hperm hnodup (List.pairwise_map.mp hsorted) (sorted_sortByPath _)
  rw [heq] at hmanifest
  exact ⟨hmanifest, hscannable⟩

/-- The installer accepts a tree that the packaging side accepts exactly if no path of the
manifest has a slash at its end, and then with the same digest. -/
theorem verifyReleaseTree_eq_ok {host : StoreHost} {store : Option Nat} {root : Node}
    (hunpacked : Unpacked host store root) {digest : Str}
    (h : verifyPayloadTree root = .ok digest) {expected : Option Str} {digest' : Str} {bytes : Nat} :
    verifyReleaseTree host store root expected = .ok (digest', bytes) ↔
      (∀ file ∈ listedFiles (manifestValue root), ¬ EndsInSlash file.path)
        ∧ (∀ wanted ∈ expected, digest = wanted) ∧ digest' = digest
        ∧ ∃ stat content, root.named? releaseManifestName = some (.file stat content)
          ∧ bytes = totalSize (payloadFiles root) + stat.size := by
  obtain ⟨hmanifest, hscannable⟩ := of_verifyPayloadTree hunpacked.wellFormed h
  obtain ⟨stat, content, hentry, hmode, hsize, hloads, hidentity⟩ := of_manifestFromTree hmanifest
  have hacceptable := acceptable_of_admitted hunpacked hscannable hentry hmode
  have hscan := scanReleaseTree_eq hunpacked hscannable hacceptable
  have hloads' := (@strictJsonLoadsOf_eq_ok "release manifest" _ _).mpr
    (strictJsonLoads_eq_ok.mp hloads)
  have howned : stat.uid = host.expectedUid ∧ stat.nlink = 1 := by
    have hmem : ([releaseManifestName], Node.file stat content) ∈ root.descendants [] := by
      cases root with
      | dir dirStat names child =>
          simp only [Node.named?] at hentry
          split_ifs at hentry with hname
          exact mem_descendants_dir.mpr ⟨_, hname, Or.inl (by rw [Option.some.inj hentry]; rfl)⟩
      | file stat content => cases hentry
      | symlink stat toDirectory => cases hentry
      | special stat => cases hentry
    exact ⟨hunpacked.owned _ (List.mem_cons_of_mem _ hmem), hunpacked.singleLink _ hmem _ _ rfl⟩
  have hstat : ¬ (stat.uid ≠ host.expectedUid ∨ permissions stat.mode ≠ 0o644 ∨ stat.nlink ≠ 1
      ∨ maxReleaseManifestBytes < stat.size) := by
    simp [howned.1, howned.2, hmode, hsize]
  have hread := fun d l => @releaseIdentity_eq_ok _ _ _ hidentity d l
  simp only [verifyReleaseTree, manifestIdentity, bind_eq_ok, orRefuse_eq_ok, hentry,
    Option.some.injEq, exists_eq_left', refuseIf_eq_ok, exists_const, hstat, not_false_eq_true,
    hloads', Except.ok.injEq, pure_eq_ok, true_and, Prod.exists, hread, hscan, Prod.mk.injEq]
  constructor
  · rintro ⟨_, _, _, ⟨_, _, ⟨hslash, rfl, rfl⟩, rfl, rfl, rfl⟩, hexpected, -, -, -, rfl, rfl⟩
    refine ⟨hslash, fun wanted hwanted => ?_, rfl, stat, content, rfl, rfl⟩
    by_contra hne
    exact hexpected ⟨wanted, hwanted, hne⟩
  · rintro ⟨hslash, hexpected, rfl, stat', content', heq, rfl⟩
    obtain ⟨rfl, -⟩ := Node.file.inj heq
    refine ⟨_, _, _, ⟨_, _, ⟨hslash, rfl, rfl⟩, rfl, rfl, rfl⟩, ?_, ?_, ?_, ?_, rfl, rfl⟩
    · rintro ⟨wanted, hwanted, hne⟩
      exact hne (hexpected wanted hwanted)
    all_goals simp

theorem payloadFiles_eq_listedFiles {root : Node} (hw : root.WellFormed) {digest : Str}
    (h : verifyPayloadTree root = .ok digest)
    (hslash : ∀ file ∈ listedFiles (manifestValue root), ¬ EndsInSlash file.path) :
    payloadFiles root = listedFiles (manifestValue root) := by
  obtain ⟨hmanifest, -⟩ := of_verifyPayloadTree hw h
  obtain ⟨-, -, -, -, -, -, hidentity⟩ := of_manifestFromTree hmanifest
  obtain ⟨-, -, -, items, hitems, hlisted⟩ := of_validatedPayloadIdentity hidentity
  rw [← hlisted, List.forall_mem_map] at hslash
  rw [← hlisted, map_listedFile hitems hslash]

/-! ## A release of one file -/

theorem listedFiles_written (files : List PayloadEntry) (digest : Str) :
    listedFiles (writtenManifest files digest) = files := by
  have hitem : ∀ file : PayloadEntry, listedFile (payloadItem file) = file := fun _ => rfl
  change (files.map payloadItem).map listedFile = files
  rw [List.map_map]
  exact List.map_id'' hitem files

def releaseStat (mode size : Nat) : Stat :=
  { mode, uid := 1000, gid := 1000, nlink := 1, dev := 7, size }

def releaseHost : StoreHost where
  expectedUid := 1000
  runtimeConfigGid := 1000
  validateReleaseRuntime := fun _ _ => .ok ()

def licenseFile (path : Str) : PayloadEntry :=
  { path, mode := text "0644", size := 0, sha256 := hexdigest [] }

def licenseDigest : Str := (payloadDigest [licenseFile (text "LICENSE")]).toOption.getD []

def licenseManifest (path : Str) : Bytes :=
  canonicalBytes (writtenManifest [licenseFile path] licenseDigest)

def licenseRelease (path : Str) : Node :=
  .dir (releaseStat 0o755 0) [releaseManifestName, text "LICENSE"] fun name =>
    if name = text "LICENSE" then .file (releaseStat 0o644 0) []
    else .file (releaseStat 0o644 (licenseManifest path).length) (licenseManifest path)

theorem licenseFile_listable {path : Str} (hpath : rstripSlash path = text "LICENSE")
    (hprintable : Printable path) : (licenseFile path).Listable := by
  have hstripped : rstripSlash (licenseFile path).path = text "LICENSE" := hpath
  have hmode : IsOctal (text "0644") ∧ SafeMode (ofOctal (text "0644")) := by decide
  refine ⟨?_, hprintable, ?_, ?_, hmode.1, hmode.2, Nat.zero_le _, isDigest_hexdigest []⟩
  all_goals rw [hstripped]; decide

theorem payloadDigest_licenseFile :
    payloadDigest [licenseFile (text "LICENSE")] = .ok licenseDigest := by
  have hlistable := @licenseFile_listable (text "LICENSE") (by decide) (by decide)
  obtain ⟨digest, hdigest⟩ := @payloadDigest_returns [licenseFile (text "LICENSE")]
    fun file hfile => List.mem_singleton.mp hfile ▸ hlistable
  rw [licenseDigest, hdigest]
  rfl

theorem descendants_licenseRelease (path : Str) :
    (licenseRelease path).descendants []
      = [([releaseManifestName],
            .file (releaseStat 0o644 (licenseManifest path).length) (licenseManifest path)),
          ([text "LICENSE"], .file (releaseStat 0o644 0) [])] := rfl

theorem unpacked_licenseRelease (path : Str) :
    Unpacked releaseHost (some 7) (licenseRelease path) := by
  refine ⟨⟨by decide, by decide, fun name _ => ?_⟩, ?_, ?_, ?_, ?_⟩
  · by_cases hlicense : name = text "LICENSE" <;> simp [hlicense, Node.WellFormed]
  · rw [descendants_licenseRelease]
    simp [licenseRelease, Node.stat, releaseStat, releaseHost]
  · rw [descendants_licenseRelease]
    simp only [List.mem_cons, List.not_mem_nil, or_false, forall_eq_or_imp, forall_eq]
    constructor <;> rintro _ _ ⟨⟩ <;> rfl
  · rw [descendants_licenseRelease]
    simp [licenseRelease, Node.stat, releaseStat]
  · intro name hname
    have hlisted : name ∈ [releaseManifestName, text "LICENSE"] := by
      by_contra hnot
      simp [licenseRelease, Node.named?, hnot] at hname
    have hbare : ∀ name ∈ [releaseManifestName, text "LICENSE"],
        ¬ (name = dotenvName ∨ isRuntimeName name = true) := by decide
    exact hbare name hlisted

theorem verifyPayloadTree_licenseRelease {path : Str} (hpath : rstripSlash path = text "LICENSE")
    (hprintable : Printable path) (hlength : path.length ≤ 8) :
    verifyPayloadTree (licenseRelease path) = .ok licenseDigest := by
  have hlistable := licenseFile_listable hpath hprintable
  have hpayload : payloadFiles (licenseRelease path) = [licenseFile (text "LICENSE")] := by
    rw [payloadFiles, descendants_licenseRelease]
    rfl
  have hstripped : [licenseFile path].map PayloadEntry.stripped
      = [licenseFile (text "LICENSE")] := by
    simp only [List.map_cons, List.map_nil, PayloadEntry.stripped, licenseFile, hpath]
  have hfiles : ∀ file ∈ [licenseFile path], file.Listable :=
    fun file hfile => List.mem_singleton.mp hfile ▸ hlistable
  have hbytes : (licenseManifest path).length ≤ maxReleaseManifestBytes := by
    have hbound := @length_written_le _ hfiles 8
      (fun file hfile => List.mem_singleton.mp hfile ▸ ⟨hlength, Nat.zero_le _⟩) _
      (isDigest_of_payloadDigest payloadDigest_licenseFile)
    have hmax : 1 * (7 * 8 + 701) + 10000 ≤ maxReleaseManifestBytes := by decide
    exact hbound.trans hmax
  have hscannable : Scannable (licenseRelease path) := by
    have hmodes : SafeMode 0o755 ∧ SafeMode 0o644 := by decide
    have hnames : ∀ name ∈ [releaseManifestName, text "LICENSE"],
        Printable (join [name]) ∧ utf8Length (join [name]) ≤ 4096 := by decide
    simp only [List.mem_cons, List.not_mem_nil, or_false, forall_eq_or_imp, forall_eq] at hnames
    refine ⟨rfl, hmodes.1, ?_, ?_, ?_⟩
    · rw [descendants_licenseRelease]
      simp only [List.mem_cons, List.not_mem_nil, or_false, forall_eq_or_imp, forall_eq]
      exact ⟨⟨hnames.1.1, hnames.1.2, Or.inl rfl⟩, hnames.2.1, hnames.2.2,
        Or.inr ⟨Nat.zero_le _, rfl, hmodes.2⟩⟩
    all_goals rw [hpayload]; decide
  exact verifyPayloadTree_written (unpacked_licenseRelease path).wellFormed hscannable rfl rfl hbytes
    hfiles (by simp) (hstripped.trans hpayload.symm) (hpayload ▸ payloadDigest_licenseFile)

theorem listedFiles_licenseRelease {path : Str} (hpath : rstripSlash path = text "LICENSE")
    (hprintable : Printable path) :
    listedFiles (manifestValue (licenseRelease path)) = [licenseFile path] := by
  have hlistable := licenseFile_listable hpath hprintable
  have hread := @readable_written [licenseFile path]
    (fun file hfile => List.mem_singleton.mp hfile ▸ hlistable) (by simp [maxArchiveEntries]) _
    (isDigest_of_payloadDigest payloadDigest_licenseFile)
  have hentry : (licenseRelease path).named? releaseManifestName
      = some (.file (releaseStat 0o644 (licenseManifest path).length) (licenseManifest path)) := rfl
  have hvalue : manifestValue (licenseRelease path)
      = writtenManifest [licenseFile path] licenseDigest := by
    rw [manifestValue, hentry]
    simp only [licenseManifest, strictJsonLoads_canonicalBytes hread, Except.toOption,
      Option.getD_some]
  rw [hvalue, listedFiles_written]

/-! ## When they agree -/

/-- The two verifiers agree on a tree that the packaging side accepts, and the payload of a
tree that both accept is what the manifest lists, exactly if no path of the manifest has a
slash at its end. -/
theorem verifiers_agree_iff {host : StoreHost} {store : Option Nat} {root : Node}
    (hunpacked : Unpacked host store root) {digest : Str}
    (h : verifyPayloadTree root = .ok digest) :
    ((∃ bytes, verifyReleaseTree host store root (some digest) = .ok (digest, bytes)
          ∧ verifyReleaseTree host store root none = .ok (digest, bytes))
        ∧ ∀ expected result, verifyReleaseTree host store root expected = .ok result →
          payloadFiles root = listedFiles (manifestValue root))
      ↔ ∀ file ∈ listedFiles (manifestValue root), ¬ EndsInSlash file.path := by
  constructor
  · rintro ⟨⟨bytes, haccept, -⟩, -⟩
    exact ((verifyReleaseTree_eq_ok hunpacked h).mp haccept).1
  · intro hslash
    obtain ⟨hmanifest, -⟩ := of_verifyPayloadTree hunpacked.wellFormed h
    obtain ⟨stat, content, hentry, -⟩ := of_manifestFromTree hmanifest
    refine ⟨⟨totalSize (payloadFiles root) + stat.size, ?_, ?_⟩, fun _ _ _ => ?_⟩
    · exact (verifyReleaseTree_eq_ok hunpacked h).mpr
        ⟨hslash, fun _ hwanted => Option.some.inj hwanted, rfl, stat, content, hentry, rfl⟩
    · exact (verifyReleaseTree_eq_ok hunpacked h).mpr
        ⟨hslash, fun wanted hwanted => absurd hwanted (Option.not_mem_none wanted), rfl, stat,
          content, hentry, rfl⟩
    · exact payloadFiles_eq_listedFiles hunpacked.wellFormed h hslash

theorem verifiers_disagree_license :
    Unpacked releaseHost (some 7) (licenseRelease (text "LICENSE/"))
      ∧ verifyPayloadTree (licenseRelease (text "LICENSE/")) = .ok licenseDigest
      ∧ ∀ expected digest bytes, verifyReleaseTree releaseHost (some 7)
          (licenseRelease (text "LICENSE/")) expected ≠ .ok (digest, bytes) := by
  have hverify := @verifyPayloadTree_licenseRelease (text "LICENSE/") (by decide) (by decide)
    (by decide)
  have hunpacked := unpacked_licenseRelease (text "LICENSE/")
  refine ⟨hunpacked, hverify, fun expected digest bytes haccept => ?_⟩
  have hslash := ((verifyReleaseTree_eq_ok hunpacked hverify).mp haccept).1
  have hlisted := @listedFiles_licenseRelease (text "LICENSE/") (by decide) (by decide)
  rw [hlisted] at hslash
  exact hslash _ List.mem_cons_self (by decide)

theorem verifiers_agree_license :
    (∃ bytes, verifyReleaseTree releaseHost (some 7) (licenseRelease (text "LICENSE"))
          (some licenseDigest) = .ok (licenseDigest, bytes)
        ∧ verifyReleaseTree releaseHost (some 7) (licenseRelease (text "LICENSE")) none
          = .ok (licenseDigest, bytes))
      ∧ ∀ expected result, verifyReleaseTree releaseHost (some 7)
          (licenseRelease (text "LICENSE")) expected = .ok result →
        payloadFiles (licenseRelease (text "LICENSE"))
          = listedFiles (manifestValue (licenseRelease (text "LICENSE"))) := by
  have hverify := @verifyPayloadTree_licenseRelease (text "LICENSE") (by decide) (by decide)
    (by decide)
  refine (verifiers_agree_iff (unpacked_licenseRelease (text "LICENSE")) hverify).mpr ?_
  rw [listedFiles_licenseRelease (by decide) (by decide)]
  intro file hfile
  rw [List.mem_singleton.mp hfile]
  decide

end TrexWebui
