import TrexWebui.JsonLines
import TrexWebui.ReleaseJournal

/-!
# What a release journal says

A journal is read from the dictionary that the engine has in its hands or
from the file, where the keys are sorted. Both are copies of the same value
(`Copy`), and the validator makes of a copy of `t.value` nothing but `t`
(`validate_copy`): it returns exactly if the transaction obeys its rules.
-/

namespace TrexWebui.ReleaseEngine

open PyStr PyJson JsonLines PosixPath Sha2 Checks

/-! ## Copies of a value -/

/-- Reading back changes nothing but the order of the keys. -/
structure Copy (σ : Value → Value) : Prop where
  null : σ .null = .null
  bool : ∀ b, σ (.bool b) = .bool b
  int : ∀ n, σ (.int n) = .int n
  str : ∀ s, σ (.str s) = .str s
  arr : ∀ items, σ (.arr items) = .arr (items.map σ)
  obj : ∀ fields, (fields.map (·.1)).Nodup → ∃ copied, σ (.obj fields) = .obj copied
    ∧ (∀ key, key ∈ copied.map (·.1) ↔ key ∈ fields.map (·.1))
    ∧ ∀ field ∈ fields, get copied field.1 = σ field.2

theorem get_of_mem {fields : Fields} (h : (fields.map (·.1)).Nodup) {field : Str × Value}
    (hmem : field ∈ fields) : get fields field.1 = field.2 := by
  induction fields with
  | nil => cases hmem
  | cons first fields ih =>
      rw [List.map_cons, List.nodup_cons] at h
      rw [PyJson.get, List.find?_cons]
      rcases List.mem_cons.mp hmem with rfl | hrest
      · rw [decide_eq_true rfl]
      · have hne : first.1 ≠ field.1 := fun heq => h.1 (heq ▸ List.mem_map_of_mem hrest)
        rw [decide_eq_false hne]
        exact ih h.2 hrest

theorem copy_id : Copy fun value => value where
  null := rfl
  bool _ := rfl
  int _ := rfl
  str _ := rfl
  arr items := by rw [List.map_id']
  obj fields h := ⟨fields, rfl, fun _ => Iff.rfl, fun _ hmem => get_of_mem h hmem⟩

theorem sortItems_eq_map (items : List Value) : sortItems items = items.map sortKeys := by
  induction items with
  | nil => rfl
  | cons item items ih => rw [sortItems, ih, List.map_cons]

theorem mem_sortFields {fields : Fields} {field : Str × Value} (h : field ∈ fields) :
    (field.1, sortKeys field.2) ∈ sortFields fields := by
  induction fields with
  | nil => cases h
  | cons first fields ih =>
      rcases List.mem_cons.mp h with rfl | hrest
      · exact List.mem_cons_self
      · exact List.mem_cons_of_mem _ (ih hrest)

theorem copy_sortKeys : Copy sortKeys where
  null := rfl
  bool _ := rfl
  int _ := rfl
  str _ := rfl
  arr items := by rw [sortKeys, sortItems_eq_map]
  obj fields h := by
    have hperm := perm_sortKeys fields
    have hkeys := hperm.map (·.1)
    rw [map_sortFields] at hkeys
    refine ⟨_, rfl, fun key => hkeys.mem_iff, fun field hmem => ?_⟩
    exact get_of_mem (hkeys.nodup_iff.mpr h) (hperm.mem_iff.mpr (mem_sortFields hmem))

/-! ## Lists that go together -/

section Aligned

variable {α β : Type} {P Q : Nat → α → β → Prop} {i : Nat} {as : List α} {bs : List β}

/-- The elements of two lists are related one by one, counted from an index. -/
def Aligned (P : Nat → α → β → Prop) : Nat → List α → List β → Prop
  | i, a :: as, b :: bs => P i a b ∧ Aligned P (i + 1) as bs
  | _, [], [] => True
  | _, _, _ => False

theorem Aligned.length_eq (h : Aligned P i as bs) : bs.length = as.length := by
  induction as generalizing i bs with
  | nil => cases bs with
    | nil => rfl
    | cons b bs => exact h.elim
  | cons a as ih => cases bs with
    | nil => exact h.elim
    | cons b bs => rw [List.length_cons, List.length_cons, ih h.2]

theorem Aligned.imp (h : Aligned P i as bs) (hPQ : ∀ i a, ∀ b ∈ bs, P i a b → Q i a b) :
    Aligned Q i as bs := by
  induction bs generalizing i as with
  | nil => cases as with
    | nil => trivial
    | cons a as => exact h
  | cons b bs ih => cases as with
    | nil => exact h
    | cons a as => exact ⟨hPQ i a b List.mem_cons_self h.1,
        ih h.2 fun i a b hb => hPQ i a b (List.mem_cons_of_mem _ hb)⟩

theorem Aligned.exists_of_mem (h : Aligned P i as bs) {b : β} (hb : b ∈ bs) : ∃ j a, P j a b := by
  induction bs generalizing i as with
  | nil => cases hb
  | cons first bs ih => cases as with
    | nil => exact h.elim
    | cons a as =>
        rcases List.mem_cons.mp hb with rfl | hb
        · exact ⟨i, a, h.1⟩
        · exact ih h.2 hb

theorem Aligned.map_eq {f : β → α} (h : Aligned P i as bs) (hf : ∀ i a b, P i a b → f b = a) :
    bs.map f = as := by
  induction bs generalizing i as with
  | nil => cases as with
    | nil => rfl
    | cons a as => exact h.elim
  | cons b bs ih => cases as with
    | nil => exact h.elim
    | cons a as => rw [List.map_cons, hf i a b h.1, ih h.2]

end Aligned

/-! ## Leaves -/

@[simp] theorem mapError_eq_ok {α ε ε' : Type} {f : ε → ε'} {x : Except ε α} {a : α} :
    x.mapError f = .ok a ↔ x = .ok a := by
  cases x <;> simp [Except.mapError]

@[simp] theorem textWith_str {p : Str → Prop} [DecidablePred p] {s s' : Str} {e : Refusal} :
    textWith p (.str s) e = .ok s' ↔ s' = s ∧ p s := by
  simp only [textWith, asText, bind_eq_ok, orRefuse_eq_ok, refuseIf_eq_ok, pure_eq_ok, not_not]
  constructor
  · rintro ⟨_, h, _, hp, rfl⟩
    cases h
    exact ⟨rfl, hp⟩
  · rintro ⟨rfl, hp⟩
    exact ⟨_, rfl, (), hp, rfl⟩

@[simp] theorem requireNonNegativeInteger_int {n m : Nat} {label : String} :
    requireNonNegativeInteger (.int n) label = .ok m ↔ m = n := by
  rw [requireNonNegativeInteger, if_pos (Int.natCast_nonneg n), Int.toNat_natCast, Except.ok.injEq]
  exact eq_comm

@[simp] theorem requireUuid_str {s s' : Str} {label : String} :
    requireUuid (.str s) label = .ok s' ↔ s' = s ∧ IsUuid s := by
  rw [requireUuid, mapError_eq_ok, textWith_str]

@[simp] theorem digestOf_str {s s' : Str} {label : String} :
    digestOf (.str s) label = .ok s' ↔ s' = s ∧ IsDigest s := by
  rw [digestOf, mapError_eq_ok, requireDigest, textWith_str]

@[simp] theorem requireTimestamp_str {s s' : Str} {label : String} :
    requireTimestamp (.str s) label = .ok s' ↔ s' = s ∧ IsTimestamp s := by
  rw [requireTimestamp, mapError_eq_ok, textWith_str]

@[simp] theorem map_eq_ok {α β ε : Type} {f : α → β} {x : Except ε α} {b : β} :
    x.map f = .ok b ↔ ∃ a, x = .ok a ∧ f a = b := by
  cases x <;> simp [Except.map]

@[simp] theorem requireOptionalDigest_optionalText {o o' : Option Str} {label : String} :
    requireOptionalDigest (optionalText o) label = .ok o' ↔ o' = o ∧ ∀ s ∈ o, IsDigest s := by
  cases o with
  | none => simp [optionalText, requireOptionalDigest, eq_comm]
  | some s =>
      simp only [optionalText, requireOptionalDigest, map_eq_ok, digestOf_str,
        Option.mem_def, Option.some.injEq, forall_eq']
      constructor
      · rintro ⟨_, ⟨rfl, h⟩, rfl⟩
        exact ⟨rfl, h⟩
      · rintro ⟨rfl, h⟩
        exact ⟨s, ⟨rfl, h⟩, rfl⟩

@[simp] theorem textInSet_str {α : Type} {lookup : Str → Option α} {s : Str} {e : JournalError}
    {a : α} : textInSet lookup (.str s) e = .ok a ↔ lookup s = some a := by
  rw [textInSet, orRefuse_eq_ok]

@[simp] theorem validateMarker_bool {b b' : Bool} {message : String} :
    validateMarker (.bool b) message = .ok b' ↔ b' = b := by
  rw [validateMarker, orRefuse_eq_ok, asBool, Option.some.injEq]
  exact eq_comm

@[simp] theorem ofName_name (phase : Phase) : Phase.ofName phase.name = some phase := by
  cases phase <;> decide +kernel

@[simp] theorem kindOfName_name (kind : TransactionKind) :
    TransactionKind.ofName kind.name = some kind := by
  cases kind <;> decide +kernel

@[simp] theorem stateOfName_name (state : BoundaryState) :
    BoundaryState.ofName state.name = some state := by
  cases state <;> decide +kernel

@[simp] theorem validateHostProfile_optionalText {profile profile' : Option HostProfile} :
    validateHostProfile (optionalText (profile.map HostProfile.name)) = .ok profile'
      ↔ profile' = profile := by
  rcases profile with _ | _ | _ <;> rcases profile' with _ | _ | _ <;> decide +kernel

def OrderedUnits (units : List Str) : Prop :=
  units.Nodup ∧ units = consumerEnableUnits.filter (· ∈ units)

theorem mapM_asText (units : List Str) : (units.map Value.str).mapM asText = some units := by
  induction units with
  | nil => rfl
  | cons unit units ih => simp [ih, asText]

@[simp] theorem validateUnits_arr {units units' : List Str} {message : String} :
    validateUnits (.arr (units.map .str)) message = .ok units' ↔ units' = units ∧ OrderedUnits units := by
  simp only [validateUnits, asList, bind_eq_ok, orRefuse_eq_ok, refuseIf_eq_ok, pure_eq_ok,
    Option.some.injEq, exists_eq_left', mapM_asText, not_or, not_not, ne_eq]
  constructor
  · rintro ⟨_, h, rfl⟩
    exact ⟨rfl, h⟩
  · rintro ⟨rfl, h⟩
    exact ⟨(), h, rfl⟩

/-! ## Host artifacts -/

theorem someGiven_eq_false {fields : Fields} {keys : List Str}
    (h : ∀ key ∈ keys, get fields key = .null) : someGiven fields keys = false := by
  rw [someGiven, List.any_eq_false]
  intro key hkey
  rw [h key hkey]
  decide

section Copied

variable {σ : Value → Value} (hσ : Copy σ)

include hσ

theorem copied_fields (fields : Fields) (keys : List Str) (hkeys : fields.map (·.1) = keys)
    (hnodup : keys.Nodup) :
    ∃ copied, σ (.obj fields) = .obj copied ∧ keysAre copied keys = true
      ∧ ∀ (i : Nat) {key value}, fields[i]? = some (key, value) → get copied key = σ value := by
  subst hkeys
  obtain ⟨copied, heq, hsame, hget⟩ := hσ.obj fields hnodup
  refine ⟨copied, heq, ?_, fun i key value hi => hget (key, value) (List.mem_of_getElem? hi)⟩
  simp only [keysAre, Bool.and_eq_true, List.all_eq_true, List.contains_iff_mem]
  exact ⟨fun key hkey => (hsame key).mp hkey, fun key hkey => (hsame key).mpr hkey⟩

theorem copied_hostArtifact (path kind : Str) (backup uid gid mode : Value) (size : Nat)
    (sha256 symlinkTarget : Value) :
    ∃ c, σ (.obj (hostArtifactFields path kind backup uid gid mode size sha256 symlinkTarget))
        = .obj c
      ∧ keysAre c hostArtifactEntryKeys = true
      ∧ get c (text "path") = .str path ∧ get c (text "kind") = .str kind
      ∧ get c (text "backup") = σ backup ∧ get c (text "uid") = σ uid
      ∧ get c (text "gid") = σ gid ∧ get c (text "mode") = σ mode
      ∧ get c (text "size") = .int size ∧ get c (text "sha256") = σ sha256
      ∧ get c (text "symlink_target") = σ symlinkTarget := by
  obtain ⟨c, heq, hkeys, hat⟩ := copied_fields hσ (hostArtifactFields path kind backup uid gid mode
    size sha256 symlinkTarget) hostArtifactEntryKeys rfl (by decide +kernel)
  exact ⟨c, heq, hkeys, (hat 0 rfl).trans (hσ.str path), (hat 1 rfl).trans (hσ.str kind), hat 2 rfl,
    hat 3 rfl, hat 4 rfl, hat 5 rfl, (hat 6 rfl).trans (hσ.int size), hat 7 rfl, hat 8 rfl⟩

end Copied

def HostArtifact.Proper (host : EngineHost) (transactionId : Str) (index : Nat) (path : Str) :
    HostArtifact → Prop
  | .absent p => p = path
  | .file p backup uid _ mode size sha256 =>
    p = path ∧ size ≤ maxHostArtifactBytes ∧ uid = host.expectedUid ∧ mode ≤ 0o7777
      ∧ mode &&& 0o7022 = 0 ∧ IsDigest sha256 ∧ backup = hostArtifactBackup transactionId index
  | .symlink p uid _ mode size sha256 target =>
    p = path ∧ size ≤ maxHostArtifactBytes ∧ uid = host.expectedUid ∧ mode = 0o777
      ∧ IsDigest sha256 ∧ target ≠ [] ∧ 0 ∉ target ∧ IsCanonicalAbsolute target
      ∧ ∃ encoded, fsencode target = some encoded ∧ encoded.length = size
        ∧ hexdigest encoded = sha256

section Ownership

variable (host : EngineHost) {item : Fields} {uid gid mode : Nat} (owner : Nat × Nat × Nat)
  (huid : get item (text "uid") = .int uid) (hgid : get item (text "gid") = .int gid)
  (hmode : get item (text "mode") = .int mode)

include huid hgid hmode

theorem validateOwnership_file :
    validateOwnership host item .file = .ok owner ↔ owner = (uid, gid, mode)
      ∧ uid = host.expectedUid ∧ mode ≤ 0o7777 ∧ mode &&& 0o7022 = 0 := by
  simp only [validateOwnership, huid, hgid, hmode, bind_eq_ok, requireNonNegativeInteger_int,
    exists_eq_left, refuseIf_eq_ok, pure_eq_ok, true_and, reduceCtorEq, false_and, or_false, not_or,
    not_lt, not_not, ne_eq]
  constructor
  · rintro ⟨_, h, rfl⟩
    exact ⟨rfl, h⟩
  · rintro ⟨rfl, h⟩
    exact ⟨(), h, rfl⟩

theorem validateOwnership_symlink :
    validateOwnership host item .symlink = .ok owner ↔ owner = (uid, gid, mode)
      ∧ uid = host.expectedUid ∧ mode = 0o777 := by
  simp only [validateOwnership, huid, hgid, hmode, bind_eq_ok, requireNonNegativeInteger_int,
    exists_eq_left, refuseIf_eq_ok, pure_eq_ok, true_and, reduceCtorEq, false_and, false_or, not_or,
    not_lt, not_not, ne_eq]
  constructor
  · rintro ⟨_, ⟨huid, -, hmode⟩, rfl⟩
    exact ⟨rfl, huid, hmode⟩
  · rintro ⟨rfl, huid, hmode⟩
    exact ⟨(), ⟨huid, by omega, hmode⟩, rfl⟩

end Ownership

section Copied

variable {σ : Value → Value} (hσ : Copy σ)

include hσ

theorem validateHostArtifact_copy {host : EngineHost} {transactionId : Str} {index : Nat}
    {path : Str} {artifact a : HostArtifact} :
    validateHostArtifact host transactionId index path (σ artifact.value) = .ok a
      ↔ a = artifact ∧ artifact.Proper host transactionId index path := by
  cases artifact with
  | absent p =>
      obtain ⟨c, heq, hkeys, hpath, hkind, hbackup, huid, hgid, hmode, hsize, hsha, htarget⟩ :=
        copied_hostArtifact hσ p (text "absent") .null .null .null .null 0 .null .null
      have hname : HostArtifactKind.ofName (text "absent") = some .absent := by decide +kernel
      have hgiven : someGiven c [text "backup", text "uid", text "gid", text "mode",
          text "sha256", text "symlink_target"] = false := by
        refine someGiven_eq_false fun key hkey => ?_
        simp only [List.mem_cons, List.not_mem_nil, or_false] at hkey
        rcases hkey with rfl | rfl | rfl | rfl | rfl | rfl <;>
          simp only [hbackup, huid, hgid, hmode, hsha, htarget, hσ.null]
      rw [HostArtifact.value, heq]
      simp only [validateHostArtifact, asDict, bind_eq_ok, orRefuse_eq_ok, refuseIf_eq_ok,
        Option.some.injEq, exists_eq_left', hkeys, hpath, hkind, hsize, textInSet_str, hname,
        requireNonNegativeInteger_int, exists_eq_left, hgiven, Value.isText, pure_eq_ok,
        HostArtifact.Proper, exists_const, Bool.not_eq_false, beq_iff_eq, true_and, not_lt, ne_eq,
        not_true_eq_false, reduceCtorEq, or_false, Nat.zero_le, not_false_eq_true]
      constructor
      · rintro ⟨rfl, rfl⟩
        exact ⟨rfl, rfl⟩
      · rintro ⟨rfl, rfl⟩
        exact ⟨rfl, rfl⟩
  | file p backup uid gid mode size sha256 =>
      obtain ⟨c, heq, hkeys, hpath, hkind, hbackup, huid, hgid, hmode, hsize, hsha, htarget⟩ :=
        copied_hostArtifact hσ p (text "file") (.str backup) (.int uid) (.int gid) (.int mode) size
          (.str sha256) .null
      have hname : HostArtifactKind.ofName (text "file") = some .file := by decide +kernel
      have howner := fun owner => validateOwnership_file host owner
        (huid.trans (hσ.int uid)) (hgid.trans (hσ.int gid)) (hmode.trans (hσ.int mode))
      rw [HostArtifact.value, heq]
      simp only [validateHostArtifact, asDict, bind_eq_ok, orRefuse_eq_ok, refuseIf_eq_ok,
        Option.some.injEq, exists_eq_left', hkeys, hpath, hkind, hsize, textInSet_str, hname,
        requireNonNegativeInteger_int, exists_eq_left, Value.isText, pure_eq_ok,
        HostArtifact.Proper, howner, hbackup, hsha, htarget, hσ.str, hσ.null, digestOf_str,
        Value.isNull, exists_const, Bool.not_eq_false, beq_iff_eq, true_and, not_lt, not_or,
        reduceCtorEq, not_false_eq_true, and_true]
      constructor
      · rintro ⟨rfl, hsize, _, ⟨rfl, howned⟩, _, ⟨rfl, hdigest⟩, rfl, rfl⟩
        exact ⟨rfl, rfl, hsize, howned.1, howned.2.1, howned.2.2, hdigest, rfl⟩
      · rintro ⟨rfl, rfl, hsize, huid, hmode, hsafe, hdigest, rfl⟩
        exact ⟨rfl, hsize, _, ⟨rfl, huid, hmode, hsafe⟩, _, ⟨rfl, hdigest⟩, rfl, rfl⟩
  | symlink p uid gid mode size sha256 target =>
      obtain ⟨c, heq, hkeys, hpath, hkind, hbackup, huid, hgid, hmode, hsize, hsha, htarget⟩ :=
        copied_hostArtifact hσ p (text "symlink") .null (.int uid) (.int gid) (.int mode) size
          (.str sha256) (.str target)
      have hname : HostArtifactKind.ofName (text "symlink") = some .symlink := by decide +kernel
      have howner := fun owner => validateOwnership_symlink host owner
        (huid.trans (hσ.int uid)) (hgid.trans (hσ.int gid)) (hmode.trans (hσ.int mode))
      rw [HostArtifact.value, heq]
      simp only [validateHostArtifact, asDict, bind_eq_ok, orRefuse_eq_ok, refuseIf_eq_ok,
        Option.some.injEq, exists_eq_left', hkeys, hpath, hkind, hsize, textInSet_str, hname,
        requireNonNegativeInteger_int, exists_eq_left, Value.isText, pure_eq_ok,
        HostArtifact.Proper, howner, hbackup, hsha, htarget, hσ.str, hσ.null, digestOf_str,
        Value.isNull, asText, exists_const, Bool.not_eq_false, beq_iff_eq, true_and, not_lt, not_or,
        reduceCtorEq, not_false_eq_true, not_not, ne_eq]
      constructor
      · rintro ⟨rfl, hsize, _, ⟨rfl, howned⟩, _, ⟨rfl, hdigest⟩, htarget, encoded, hencoded,
          ⟨hlength, hhex⟩, rfl⟩
        exact ⟨rfl, rfl, hsize, howned.1, howned.2, hdigest, htarget.1, htarget.2.1, htarget.2.2,
          encoded, hencoded, hlength, hhex⟩
      · rintro ⟨rfl, rfl, hsize, huid, hmode, hdigest, hne, hnul, hcanonical, encoded, hencoded,
          hlength, hhex⟩
        exact ⟨rfl, hsize, _, ⟨rfl, huid, hmode⟩, _, ⟨rfl, hdigest⟩, ⟨hne, hnul, hcanonical⟩,
          encoded, hencoded, ⟨hlength, hhex⟩, rfl⟩

end Copied

def ProperArtifacts (host : EngineHost) (transactionId : Str) :
    (index : Nat) → (paths : List Str) → List HostArtifact → Prop :=
  Aligned fun index path artifact => artifact.Proper host transactionId index path

section Copied

variable {σ : Value → Value} (hσ : Copy σ) {host : EngineHost} {transactionId : Str}

include hσ

theorem validateHostArtifacts_copy {index : Nat} {paths : List Str}
    {artifacts as : List HostArtifact} (hlength : artifacts.length = paths.length) :
    validateHostArtifacts host transactionId index paths
        ((artifacts.map HostArtifact.value).map σ) = .ok as
      ↔ as = artifacts ∧ ProperArtifacts host transactionId index paths artifacts := by
  induction paths generalizing index artifacts as with
  | nil =>
      obtain rfl := List.length_eq_zero_iff.mp hlength
      simp only [validateHostArtifacts, pure_eq_ok, ProperArtifacts, Aligned, and_true]
      exact eq_comm
  | cons path paths ih =>
      cases artifacts with
      | nil => cases hlength
      | cons artifact artifacts =>
          simp only [List.map_cons, validateHostArtifacts, bind_eq_ok, pure_eq_ok, ProperArtifacts,
            Aligned, validateHostArtifact_copy hσ, ih (Nat.succ.inj hlength)]
          constructor
          · rintro ⟨_, ⟨rfl, hfirst⟩, _, ⟨rfl, hrest⟩, rfl⟩
            exact ⟨rfl, hfirst, hrest⟩
          · rintro ⟨rfl, hfirst, hrest⟩
            exact ⟨_, ⟨rfl, hfirst⟩, _, ⟨rfl, hrest⟩, rfl⟩

theorem validateHostArtifactRecords_copy {paths : List Str} {artifacts as : List HostArtifact} :
    validateHostArtifactRecords host transactionId paths
        (σ (.arr (artifacts.map HostArtifact.value))) = .ok as
      ↔ as = artifacts ∧ ProperArtifacts host transactionId 0 paths artifacts := by
  rw [hσ.arr]
  simp only [validateHostArtifactRecords, asList, bind_eq_ok, orRefuse_eq_ok, refuseIf_eq_ok,
    Option.some.injEq, exists_eq_left', exists_const, ne_eq, not_not, List.length_map]
  constructor
  · rintro ⟨hlength, h⟩
    exact (validateHostArtifacts_copy hσ hlength).mp h
  · rintro ⟨rfl, h⟩
    exact ⟨h.length_eq, (validateHostArtifacts_copy hσ h.length_eq).mpr ⟨rfl, h⟩⟩

end Copied

/-! ## The native boundary -/

/-- What the validator demands of the native boundary and its backups. -/
structure NativeBoundary.Proper (host : EngineHost) (files : BackupFiles) (transactionId : Str)
    (record : NativeBoundary) : Prop where
  backup : record.backup = boundaryBackup transactionId
  helperBackup : record.helperBackup = boundaryHelperBackup transactionId
  size : 0 < record.size ∧ record.size ≤ maxHostArtifactBytes
  helperSize : 0 < record.helperSize ∧ record.helperSize ≤ maxHostArtifactBytes
  sha256 : IsDigest record.sha256
  helperSha256 : IsDigest record.helperSha256
  snapshot : ∃ content, loadNativeBoundaryBackup host files record.backup record.size record.sha256
      = .ok content ∧ nativeBoundarySnapshotState content = .ok record.state
  helper : ∃ content, loadNativeBoundaryBackup host files record.helperBackup record.helperSize
      record.helperSha256 = .ok content ∧ [35, 33, 47].isPrefixOf content = true

section Copied

variable {σ : Value → Value} (hσ : Copy σ) {host : EngineHost} {files : BackupFiles}
  {transactionId : Str}

include hσ

theorem validateNativeBoundary_copy {record : NativeBoundary} {o : Option NativeBoundary} :
    validateNativeBoundaryRecord host files transactionId true (σ record.value) = .ok o
      ↔ o = some record ∧ record.Proper host files transactionId := by
  obtain ⟨c, heq, hkeys, hat⟩ := copied_fields hσ record.fields nativeBoundaryEntryKeys rfl
    (by decide +kernel)
  have hbackup := (hat 0 rfl).trans (hσ.str _)
  have hhelper := (hat 1 rfl).trans (hσ.str _)
  have hhelperSha := (hat 2 rfl).trans (hσ.str _)
  have hhelperSize := (hat 3 rfl).trans (hσ.int _)
  have hsha := (hat 4 rfl).trans (hσ.str _)
  have hsize := (hat 5 rfl).trans (hσ.int _)
  have hstate := (hat 6 rfl).trans (hσ.str _)
  rw [NativeBoundary.value, heq]
  simp only [validateNativeBoundaryRecord, Bool.true_eq_false, if_false, asDict, bind_eq_ok,
    orRefuse_eq_ok, refuseIf_eq_ok, Option.some.injEq, exists_eq_left', hkeys, hbackup, hhelper,
    hhelperSha, hhelperSize, hsha, hsize, hstate, textInSet_str, stateOfName_name,
    requireNonNegativeInteger_int, exists_eq_left, digestOf_str, Value.isText, pure_eq_ok,
    exists_const, Bool.not_eq_false, beq_iff_eq, true_and, not_or, not_lt, ne_eq, not_not]
  constructor
  · rintro ⟨⟨hb, hh⟩, hs, hhs, _, ⟨rfl, hd⟩, _, ⟨rfl, hhd⟩, content, hload, helper, hhload, state,
      hfound, rfl, hscript, rfl⟩
    refine ⟨by rw [← hb, ← hh], ?_⟩
    exact {
      backup := hb
      helperBackup := hh
      size := ⟨Nat.pos_of_ne_zero hs.1, hs.2⟩
      helperSize := ⟨Nat.pos_of_ne_zero hhs.1, hhs.2⟩
      sha256 := hd
      helperSha256 := hhd
      snapshot := ⟨content, hb ▸ hload, hfound⟩
      helper := ⟨helper, hh ▸ hhload, hscript⟩ }
  · rintro ⟨rfl, h⟩
    obtain ⟨content, hload, hfound⟩ := h.snapshot
    obtain ⟨helper, hhload, hscript⟩ := h.helper
    refine ⟨⟨h.backup, h.helperBackup⟩, ⟨Nat.ne_of_gt h.size.1, h.size.2⟩,
      ⟨Nat.ne_of_gt h.helperSize.1, h.helperSize.2⟩, _, ⟨rfl, h.sha256⟩, _, ⟨rfl, h.helperSha256⟩,
      content, h.backup ▸ hload, helper, h.helperBackup ▸ hhload, _, hfound, rfl, hscript, ?_⟩
    rw [← h.backup, ← h.helperBackup]

end Copied

/-! ## The baseline of the consumers -/

def IsProcessField (field : Str) : Prop :=
  field ≠ [] ∧ 0 ∉ field ∧ ∃ encoded, encode field = some encoded ∧ encoded.length ≤ 16 * 1024

/-- What the validator demands of the record of a consumer and its backup. -/
def ConsumerBaseline.Proper (host : EngineHost) (files : BackupFiles) (transactionId : Str)
    (index : Nat) (unit : Str) : ConsumerBaseline → Prop
  | .daemon => unit = daemonUnit
  | .api workingDirectory execStart argv0 resolvedExec =>
    unit = apiUnit ∧ (IsProcessField workingDirectory ∧ IsProcessField execStart
      ∧ IsProcessField argv0 ∧ IsProcessField resolvedExec)
      ∧ IsProcessPath workingDirectory ∧ IsProcessPath argv0 ∧ IsProcessPath resolvedExec
  | .nginx responseBackup responseSize responseSha256 =>
    unit = nginxUnit ∧ responseBackup = consumerResponseBackup transactionId index
      ∧ 0 < responseSize ∧ responseSize ≤ maxHostArtifactBytes ∧ IsDigest responseSha256
      ∧ ∃ content, loadConsumerResponse host files responseBackup responseSize responseSha256
        = .ok content

theorem validateProcessField_of {item : Fields} {key field s : Str}
    (h : get item key = .str field) :
    validateProcessField item key = .ok s ↔ s = field ∧ IsProcessField field := by
  simp only [validateProcessField, h, asText, bind_eq_ok, orRefuse_eq_ok, refuseIf_eq_ok,
    Option.some.injEq, exists_eq_left', exists_const, pure_eq_ok, not_or, not_lt, IsProcessField,
    ne_eq]
  constructor
  · rintro ⟨hfield, encoded, hencoded, hlength, rfl⟩
    exact ⟨rfl, hfield.1, hfield.2, encoded, hencoded, hlength⟩
  · rintro ⟨rfl, hne, hnul, encoded, hencoded, hlength⟩
    exact ⟨⟨hne, hnul⟩, encoded, hencoded, hlength, rfl⟩

theorem unit_of_validated {host : EngineHost} {files : BackupFiles} {transactionId : Str}
    {index : Nat} {unit u : Str} {item : Fields} {b : ConsumerBaseline}
    (hunit : get item (text "unit") = .str u)
    (h : validateConsumerBaseline host files transactionId index unit (.obj item) = .ok b) :
    u = unit := by
  simp only [validateConsumerBaseline, asDict, bind_eq_ok, orRefuse_eq_ok, refuseIf_eq_ok,
    Option.some.injEq, exists_eq_left', hunit, exists_const, Value.isText, Bool.not_eq_false,
    beq_iff_eq] at h
  exact h.2.1

section Copied

variable {σ : Value → Value} (hσ : Copy σ) {host : EngineHost} {files : BackupFiles}
  {transactionId : Str}

include hσ

theorem copied_consumerBaseline (unit kind : Str) (workingDirectory execStart argv0 resolvedExec
    responseBackup responseSha256 : Value) (responseSize : Nat) :
    ∃ c, σ (.obj (consumerBaselineFields unit kind workingDirectory execStart argv0 resolvedExec
        responseBackup responseSha256 responseSize)) = .obj c
      ∧ keysAre c consumerBaselineEntryKeys = true
      ∧ get c (text "unit") = .str unit ∧ get c (text "kind") = .str kind
      ∧ get c (text "working_directory") = σ workingDirectory
      ∧ get c (text "exec_start") = σ execStart ∧ get c (text "argv0") = σ argv0
      ∧ get c (text "resolved_exec") = σ resolvedExec
      ∧ get c (text "response_backup") = σ responseBackup
      ∧ get c (text "response_sha256") = σ responseSha256
      ∧ get c (text "response_size") = .int responseSize := by
  obtain ⟨c, heq, hkeys, hat⟩ := copied_fields hσ (consumerBaselineFields unit kind workingDirectory
    execStart argv0 resolvedExec responseBackup responseSha256 responseSize)
    consumerBaselineEntryKeys rfl (by decide +kernel)
  exact ⟨c, heq, hkeys, (hat 0 rfl).trans (hσ.str unit), (hat 1 rfl).trans (hσ.str kind), hat 2 rfl,
    hat 3 rfl, hat 4 rfl, hat 5 rfl, hat 6 rfl, hat 7 rfl, (hat 8 rfl).trans (hσ.int _)⟩

theorem noProcess {c : Fields} (hwd : get c (text "working_directory") = σ .null)
    (hexec : get c (text "exec_start") = σ .null) (hargv : get c (text "argv0") = σ .null)
    (hresolved : get c (text "resolved_exec") = σ .null) : someGiven c processKeys = false := by
  refine someGiven_eq_false fun key hkey => ?_
  simp only [processKeys, List.mem_cons, List.not_mem_nil, or_false] at hkey
  rcases hkey with rfl | rfl | rfl | rfl <;> simp only [hwd, hexec, hargv, hresolved, hσ.null]

theorem noResponse {c : Fields} (hbackup : get c (text "response_backup") = σ .null)
    (hsha : get c (text "response_sha256") = σ .null) : someGiven c responseKeys = false := by
  refine someGiven_eq_false fun key hkey => ?_
  simp only [responseKeys, List.mem_cons, List.not_mem_nil, or_false] at hkey
  rcases hkey with rfl | rfl <;> simp only [hbackup, hsha, hσ.null]

theorem validateConsumerBaseline_copy {index : Nat} {unit : Str} {record b : ConsumerBaseline} :
    validateConsumerBaseline host files transactionId index unit (σ record.value) = .ok b
      ↔ b = record ∧ record.Proper host files transactionId index unit := by
  cases record with
  | daemon =>
      obtain ⟨c, heq, hkeys, hunit, hkind, hwd, hexec, hargv, hresolved, hbackup, hsha, hsize⟩ :=
        copied_consumerBaseline hσ daemonUnit (text "daemon") .null .null .null .null .null .null 0
      have hname : consumerKind daemonUnit = some .daemon := by decide +kernel
      have hprocess := noProcess hσ hwd hexec hargv hresolved
      have hresponse := noResponse hσ hbackup hsha
      rw [ConsumerBaseline.value, heq]
      by_cases hu : daemonUnit = unit
      · subst hu
        simp only [validateConsumerBaseline, asDict, bind_eq_ok, orRefuse_eq_ok, refuseIf_eq_ok,
          Option.some.injEq, exists_eq_left', hkeys, hunit, hkind, hsize, hname, hprocess,
          hresponse, exists_const, requireNonNegativeInteger_int, exists_eq_left, Value.isText,
          pure_eq_ok, Bool.not_eq_false, beq_self_eq_true, true_and, not_lt, Nat.zero_le,
          ConsumerBaseline.Proper, ConsumerKind.name, Bool.false_eq_true, or_self, ne_eq,
          not_true_eq_false, not_false_eq_true, and_true]
        exact eq_comm
      · exact ⟨fun h => absurd (unit_of_validated hunit h) hu, fun h => absurd h.2.symm hu⟩
  | api workingDirectory execStart argv0 resolvedExec =>
      obtain ⟨c, heq, hkeys, hunit, hkind, hwd, hexec, hargv, hresolved, hbackup, hsha, hsize⟩ :=
        copied_consumerBaseline hσ apiUnit (text "api") (.str workingDirectory) (.str execStart)
          (.str argv0) (.str resolvedExec) .null .null 0
      have hname : consumerKind apiUnit = some .api := by decide +kernel
      have hresponse := noResponse hσ hbackup hsha
      rw [ConsumerBaseline.value, heq]
      by_cases hu : apiUnit = unit
      · subst hu
        simp only [validateConsumerBaseline, asDict, bind_eq_ok, orRefuse_eq_ok, refuseIf_eq_ok,
          Option.some.injEq, exists_eq_left', hkeys, hunit, hkind, hsize, hname,
          hresponse, exists_const, requireNonNegativeInteger_int, exists_eq_left, Value.isText,
          pure_eq_ok, Bool.not_eq_false, beq_self_eq_true, true_and, not_lt, Nat.zero_le,
          ConsumerBaseline.Proper, ConsumerKind.name, Bool.false_eq_true, ne_eq,
          not_false_eq_true, not_or, not_not,
          validateProcessField_of (hwd.trans (hσ.str _)),
          validateProcessField_of (hexec.trans (hσ.str _)),
          validateProcessField_of (hargv.trans (hσ.str _)),
          validateProcessField_of (hresolved.trans (hσ.str _))]
        constructor
        · rintro ⟨_, ⟨rfl, h₁⟩, _, ⟨rfl, h₂⟩, _, ⟨rfl, h₃⟩, _, ⟨rfl, h₄⟩, hpaths, rfl⟩
          exact ⟨rfl, ⟨h₁, h₂, h₃, h₄⟩, hpaths⟩
        · rintro ⟨rfl, ⟨h₁, h₂, h₃, h₄⟩, hpaths⟩
          exact ⟨_, ⟨rfl, h₁⟩, _, ⟨rfl, h₂⟩, _, ⟨rfl, h₃⟩, _, ⟨rfl, h₄⟩, hpaths, rfl⟩
      · exact ⟨fun h => absurd (unit_of_validated hunit h) hu, fun h => absurd h.2.1.symm hu⟩
  | nginx responseBackup responseSize responseSha256 =>
      obtain ⟨c, heq, hkeys, hunit, hkind, hwd, hexec, hargv, hresolved, hbackup, hsha, hsize⟩ :=
        copied_consumerBaseline hσ nginxUnit (text "nginx") .null .null .null .null
          (.str responseBackup) (.str responseSha256) responseSize
      have hname : consumerKind nginxUnit = some .nginx := by decide +kernel
      have hprocess := noProcess hσ hwd hexec hargv hresolved
      rw [ConsumerBaseline.value, heq]
      by_cases hu : nginxUnit = unit
      · subst hu
        simp only [validateConsumerBaseline, asDict, bind_eq_ok, orRefuse_eq_ok, refuseIf_eq_ok,
          Option.some.injEq, exists_eq_left', hkeys, hunit, hkind, hsize, hname, hprocess,
          exists_const, requireNonNegativeInteger_int, exists_eq_left, Value.isText,
          pure_eq_ok, Bool.not_eq_false, beq_iff_eq, beq_self_eq_true, true_and, not_lt,
          ConsumerBaseline.Proper, ConsumerKind.name, Bool.false_eq_true, ne_eq,
          not_false_eq_true, not_or, hbackup, hsha, hσ.str, digestOf_str]
        constructor
        · rintro ⟨hsmall, ⟨rfl, hne⟩, _, ⟨rfl, hdigest⟩, content, hload, rfl⟩
          exact ⟨rfl, rfl, Nat.pos_of_ne_zero hne, hsmall, hdigest, content, hload⟩
        · rintro ⟨rfl, rfl, hpos, hsmall, hdigest, content, hload⟩
          exact ⟨hsmall, ⟨rfl, Nat.ne_of_gt hpos⟩, _, ⟨rfl, hdigest⟩, content, hload, rfl⟩
      · exact ⟨fun h => absurd (unit_of_validated hunit h) hu, fun h => absurd h.2.1.symm hu⟩

end Copied

def ProperBaselines (host : EngineHost) (files : BackupFiles) (transactionId : Str) :
    (index : Nat) → (units : List Str) → List ConsumerBaseline → Prop :=
  Aligned fun index unit record => record.Proper host files transactionId index unit

section Copied

variable {σ : Value → Value} (hσ : Copy σ) {host : EngineHost} {files : BackupFiles}
  {transactionId : Str}

include hσ

theorem validateConsumerBaselines_copy {index : Nat} {units : List Str}
    {records bs : List ConsumerBaseline} (hlength : records.length = units.length) :
    validateConsumerBaselines host files transactionId index units
        ((records.map ConsumerBaseline.value).map σ) = .ok bs
      ↔ bs = records ∧ ProperBaselines host files transactionId index units records := by
  induction units generalizing index records bs with
  | nil =>
      obtain rfl := List.length_eq_zero_iff.mp hlength
      simp only [validateConsumerBaselines, pure_eq_ok, ProperBaselines, Aligned, and_true]
      exact eq_comm
  | cons unit units ih =>
      cases records with
      | nil => cases hlength
      | cons record records =>
          simp only [List.map_cons, validateConsumerBaselines, bind_eq_ok, pure_eq_ok,
            ProperBaselines, Aligned, validateConsumerBaseline_copy hσ, ih (Nat.succ.inj hlength)]
          constructor
          · rintro ⟨_, ⟨rfl, hfirst⟩, _, ⟨rfl, hrest⟩, rfl⟩
            exact ⟨rfl, hfirst, hrest⟩
          · rintro ⟨rfl, hfirst, hrest⟩
            exact ⟨_, ⟨rfl, hfirst⟩, _, ⟨rfl, hrest⟩, rfl⟩

theorem validateConsumerBaselineRecords_copy {units : List Str}
    {records bs : List ConsumerBaseline} :
    validateConsumerBaselineRecords host files transactionId units
        (σ (.arr (records.map ConsumerBaseline.value))) = .ok bs
      ↔ bs = records ∧ ProperBaselines host files transactionId 0 units records := by
  rw [hσ.arr]
  simp only [validateConsumerBaselineRecords, asList, bind_eq_ok, orRefuse_eq_ok, refuseIf_eq_ok,
    Option.some.injEq, exists_eq_left', exists_const, ne_eq, not_not, List.length_map]
  constructor
  · rintro ⟨hlength, h⟩
    exact (validateConsumerBaselines_copy hσ hlength).mp h
  · rintro ⟨rfl, h⟩
    exact ⟨h.length_eq, (validateConsumerBaselines_copy hσ h.length_eq).mpr ⟨rfl, h⟩⟩

end Copied

end TrexWebui.ReleaseEngine
