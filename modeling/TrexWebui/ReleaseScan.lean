import TrexWebui.ReleaseTree

/-!
# What the scan of a release tree finds

The scan returns exactly if every entry of the tree is admitted, and then it
returns the payload of the tree: one entry for each file but the manifest,
sorted by path. The order in which the stack visits the directories is gone.
-/

namespace TrexWebui

open PyStr PyJson PosixPath Sha2 Checks

/-! ## Names and modes -/

/-- No backslash, no control character and nothing that UTF-8 cannot encode. -/
def Printable (name : Str) : Prop := backslash ∉ name ∧ (∀ c ∈ name, 32 ≤ c) ∧ ∀ c ∈ name, Scalar c

instance (name : Str) : Decidable (Printable name) := inferInstanceAs (Decidable (_ ∧ _ ∧ _))

theorem encode_eq_none_iff {s : Str} : encode s = none ↔ ¬ ∀ c ∈ s, Scalar c := by
  unfold encode
  split_ifs with h
  · exact iff_of_false (fun heq => by cases heq) (not_not.mpr h)
  · exact iff_of_true rfl h

theorem rstripSlash_leads (name : Str) : rstripSlash name <+: name :=
  List.rdropWhile_prefix _ name

theorem head_rstripSlash {name : Str} (h : rstripSlash name ≠ []) :
    (rstripSlash name).head? = name.head? := by
  obtain ⟨tail, htail⟩ := rstripSlash_leads name
  obtain ⟨c, rest, hrest⟩ := List.exists_cons_of_ne_nil h
  rw [hrest] at htail ⊢
  rw [← htail]
  rfl

/-- The names that `normalized_member_name` accepts, and what it makes of them. -/
theorem normalizedMemberName_eq_ok {name n : Str} :
    normalizedMemberName name = .ok n
      ↔ n = rstripSlash name ∧ Clean n ∧ Printable name ∧ utf8Length n ≤ 4096 := by
  have hplain : ∀ l : List Str, (¬ ∃ part ∈ l, part = [] ∨ part = dot ∨ part = dotDot) ↔ Plain l :=
    fun l => by simp [Plain, not_or]
  simp only [normalizedMemberName, bind_eq_ok, refuseIf_eq_ok, pure_eq_ok, exists_const, not_or,
    hplain, encode_eq_none_iff, not_not, not_lt]
  constructor
  · rintro ⟨⟨hne, hback, hcontrol⟩, hscalar, hhead, ⟨hnorm, hnil, hdot, -⟩, hparts, hlength, rfl⟩
    have hstripped : rstripSlash name ≠ [] := hnorm ▸ hnil
    have hstart : (rstripSlash name).head? ≠ some slash := by
      rw [head_rstripSlash hstripped]
      exact hhead
    rw [hnorm] at hdot hparts hlength ⊢
    refine ⟨rfl, (clean_iff_normpath hstripped hstart).mpr ⟨hnorm, hdot, hparts⟩, ⟨hback, ?_,
      hscalar⟩, hlength⟩
    intro c hc
    by_contra hlt
    exact hcontrol ⟨c, hc, by omega⟩
  · rintro ⟨rfl, hclean, ⟨hback, hcontrol, hscalar⟩, hlength⟩
    obtain ⟨hne, hdot, hdots⟩ := clean_ne hclean
    have hstart := head_of_clean hclean
    obtain ⟨hnorm, -, hparts⟩ := (clean_iff_normpath hne hstart).mp hclean
    have hname : name ≠ [] := by
      rintro rfl
      exact hne rfl
    rw [hnorm]
    refine ⟨⟨hname, hback, ?_⟩, hscalar, ?_, ⟨rfl, hne, hdot, hdots⟩, hparts, hlength, rfl⟩
    · rintro ⟨c, hc, hlt⟩
      exact absurd (hcontrol c hc) (by omega)
    · rw [← head_rstripSlash hne]
      exact hstart

theorem normalizedPayloadPath_eq_ok {name n : Str} :
    normalizedPayloadPath name = .ok n
      ↔ n = rstripSlash name ∧ Clean n ∧ Printable name ∧ utf8Length n ≤ 4096 := by
  simp only [normalizedPayloadPath, bind_eq_ok, refuseIf_eq_ok, pure_eq_ok, exists_const]
  constructor
  · rintro ⟨m, hm, -, rfl⟩
    exact normalizedMemberName_eq_ok.mp hm
  · intro h
    refine ⟨n, normalizedMemberName_eq_ok.mpr h, ?_, rfl⟩
    rw [parts_of_relative (head_of_clean h.2.1), names_of_clean h.2.1, Nat.not_lt]
    exact List.length_pos_iff.mpr (split_ne_nil n)

theorem rstripSlash_of_clean {path : Str} (h : Clean path) : rstripSlash path = path := by
  refine (rstripSlash_eq_self_iff (clean_ne h).1).mpr fun hlast => ?_
  obtain ⟨front, hfront⟩ := List.getLast?_eq_some_iff.mp hlast
  have hnil : [] ∈ split path := by
    rw [hfront, split, List.splitOn_append_cons_self]
    exact List.mem_append_right _ (by decide)
  exact (h [] hnil).1 rfl

/-- No bit for set-uid, set-gid or sticky, and no write bit for group or others. -/
def SafeMode (mode : Nat) : Prop :=
  permissions mode &&& 0o7000 = 0 ∧ permissions mode &&& 0o022 = 0

instance (mode : Nat) : Decidable (SafeMode mode) := inferInstanceAs (Decidable (_ ∧ _))

theorem validatedMode_eq_ok {mode : Nat} {path m : Str} :
    validatedMode mode path = .ok m ↔ SafeMode mode ∧ m = octal (permissions mode) := by
  simp only [validatedMode, bind_eq_ok, refuseIf_eq_ok, pure_eq_ok, exists_const, not_not, SafeMode,
    and_assoc, eq_comm (a := m)]

/-! ## Entries -/

def Located.path (entry : Located) : Str := join entry.1

def Admitted (entry : Located) : Prop :=
  Printable entry.path ∧ utf8Length entry.path ≤ 4096 ∧
    match entry.2 with
    | .dir stat _ _ => SafeMode stat.mode
    | .file stat content => entry.path = releaseManifestName
      ∨ stat.size ≤ maxArchiveFileBytes ∧ content.length = stat.size ∧ SafeMode stat.mode
    | .symlink _ _ => False
    | .special _ => False

def payloadOf (entry : Located) : Option PayloadEntry :=
  match entry.2 with
  | .file stat content =>
    if entry.path = releaseManifestName then none
    else some { path := entry.path, mode := octal (permissions stat.mode), size := content.length,
                sha256 := hexdigest content }
  | _ => none

theorem scanChild_eq_ok {entry : Located} (hclean : Clean entry.path)
    {files : List PayloadEntry} :
    scanChild entry = .ok files ↔ Admitted entry ∧ files = (payloadOf entry).toList := by
  obtain ⟨path, node⟩ := entry
  change Clean (join path) at hclean
  have hname : ∀ n, normalizedPayloadPath (join path) = .ok n
      ↔ n = join path ∧ Printable (join path) ∧ utf8Length (join path) ≤ 4096 := by
    intro n
    rw [normalizedPayloadPath_eq_ok, rstripSlash_of_clean hclean]
    constructor
    · rintro ⟨rfl, -, h⟩
      exact ⟨rfl, h⟩
    · rintro ⟨rfl, h⟩
      exact ⟨rfl, hclean, h⟩
  cases node with
  | symlink stat toDirectory =>
      simp [scanChild, Admitted]
  | special stat =>
      simp [scanChild, Admitted]
  | dir stat names child =>
      simp only [scanChild, bind_eq_ok, hname, validatedMode_eq_ok, pure_eq_ok, Admitted,
        Located.path, payloadOf, Option.toList_none]
      constructor
      · rintro ⟨_, ⟨-, hprint, hlen⟩, _, ⟨hmode, -⟩, rfl⟩
        exact ⟨⟨hprint, hlen, hmode⟩, rfl⟩
      · rintro ⟨⟨hprint, hlen, hmode⟩, rfl⟩
        exact ⟨_, ⟨rfl, hprint, hlen⟩, _, ⟨hmode, rfl⟩, rfl⟩
  | file stat content =>
      by_cases hmanifest : join path = releaseManifestName
      · rw [hmanifest] at hname
        simp only [scanChild, bind_eq_ok, hname, hmanifest, ↓reduceIte, pure_eq_ok, Admitted,
          Located.path, payloadOf, Option.toList_none, true_or, and_true]
        constructor
        · rintro ⟨_, ⟨-, hprint, hlen⟩, rfl⟩
          exact ⟨⟨hprint, hlen⟩, rfl⟩
        · rintro ⟨⟨hprint, hlen⟩, rfl⟩
          exact ⟨_, ⟨rfl, hprint, hlen⟩, rfl⟩
      · simp only [scanChild, bind_eq_ok, hname, hmanifest, ↓reduceIte, pure_eq_ok, Admitted,
          Located.path, payloadOf, refuseIf_eq_ok, exists_const, not_lt, not_not, payloadEntry,
          validatedMode_eq_ok, false_or, Option.toList_some]
        constructor
        · rintro ⟨_, ⟨-, hprint, hlen⟩, hsize, hread, _, ⟨_, ⟨rfl, -⟩, _, ⟨hmode, rfl⟩, rfl⟩, rfl⟩
          exact ⟨⟨hprint, hlen, hsize, hread, hmode⟩, rfl⟩
        · rintro ⟨⟨hprint, hlen, hsize, hread, hmode⟩, rfl⟩
          exact ⟨_, ⟨rfl, hprint, hlen⟩, hsize, hread, _,
            ⟨_, ⟨rfl, hprint, hlen⟩, _, ⟨hmode, rfl⟩, rfl⟩, rfl⟩

/-! ## Paths of a tree -/

theorem clean_join {path : List Str} (hne : path ≠ []) (h : ∀ part ∈ path, IsName part) :
    Clean (join path) := by
  intro part hpart
  rw [split_join hne fun part hpart => (h part hpart).2.2.2] at hpart
  exact h part hpart

theorem join_injective {l m : List Str} (hl : ∀ part ∈ l, IsName part)
    (hm : ∀ part ∈ m, IsName part) (hlne : l ≠ []) (hmne : m ≠ []) (h : join l = join m) :
    l = m := by
  rw [← split_join hlne fun part hpart => (hl part hpart).2.2.2, h,
    split_join hmne fun part hpart => (hm part hpart).2.2.2]

def SoundEntry (entry : Located) : Prop := (∀ part ∈ entry.1, IsName part) ∧ entry.2.WellFormed

def Located.descendants (entry : Located) : List Located := entry.2.descendants entry.1

theorem sound_child {path names : List Str} {child : Str → Node} {stat : Stat}
    (h : SoundEntry (path, .dir stat names child)) {name : Str} (hname : name ∈ names) :
    SoundEntry (path ++ [name], child name) := by
  refine ⟨fun part hpart => ?_, h.2.2.2 name hname⟩
  rcases List.mem_append.mp hpart with hpart | hpart
  · exact h.1 part hpart
  · rw [List.mem_singleton.mp hpart]
    exact h.2.2.1 name hname

theorem mem_descendants_dir {path names : List Str} {child : Str → Node} {stat : Stat}
    {entry : Located} :
    entry ∈ (Node.dir stat names child).descendants path
      ↔ ∃ name ∈ names, entry = (path ++ [name], child name)
        ∨ entry ∈ (child name).descendants (path ++ [name]) := by
  simp [Node.descendants]

theorem sound_of_mem_descendants {node : Node} {path : List Str} (h : SoundEntry (path, node))
    {entry : Located} (hentry : entry ∈ node.descendants path) :
    SoundEntry entry ∧ path <+: entry.1 ∧ path.length < entry.1.length := by
  induction node generalizing path with
  | dir stat names child ih =>
      obtain ⟨name, hname, rfl | hentry⟩ := mem_descendants_dir.mp hentry
      · exact ⟨sound_child h hname, List.prefix_append _ _, by simp⟩
      · obtain ⟨hsound, hleads, hlength⟩ := ih name (sound_child h hname) hentry
        refine ⟨hsound, (List.prefix_append _ _).trans hleads, ?_⟩
        rw [List.length_append, List.length_singleton] at hlength
        omega
  | file stat content => cases hentry
  | symlink stat toDirectory => cases hentry
  | special stat => cases hentry

theorem nodup_descendants {node : Node} {path : List Str} (h : SoundEntry (path, node)) :
    ((node.descendants path).map (·.1)).Nodup := by
  induction node generalizing path with
  | dir stat names child ih =>
      rw [Node.descendants, List.map_flatMap, List.nodup_flatMap]
      refine ⟨fun name hname => ?_, ?_⟩
      · rw [List.map_cons, List.nodup_cons]
        refine ⟨fun hmem => ?_, ih name (sound_child h hname)⟩
        obtain ⟨entry, hentry, heq⟩ := List.mem_map.mp hmem
        obtain ⟨-, -, hlength⟩ := sound_of_mem_descendants (sound_child h hname) hentry
        rw [heq] at hlength
        exact Nat.lt_irrefl _ hlength
      · have hstart : ∀ name ∈ names, ∀ p ∈ ((path ++ [name], child name)
            :: (child name).descendants (path ++ [name])).map (·.1), path ++ [name] <+: p := by
          intro name hname p hp
          obtain ⟨entry, hentry, rfl⟩ := List.mem_map.mp hp
          rcases List.mem_cons.mp hentry with rfl | hentry
          · exact List.prefix_rfl
          · exact (sound_of_mem_descendants (sound_child h hname) hentry).2.1
        refine h.2.1.imp_of_mem fun {a b} ha hb hne => ?_
        intro p hpa hpb
        have hleads := List.prefix_of_prefix_length_le (hstart a ha p hpa) (hstart b hb p hpb)
          (by simp)
        have heq := hleads.eq_of_length (by simp)
        exact hne (by simpa using heq)
  | file stat content => exact List.nodup_nil
  | symlink stat toDirectory => exact List.nodup_nil
  | special stat => exact List.nodup_nil

/-! ## The loops -/

theorem scanListing_eq_ok {l : List Located} (hclean : ∀ entry ∈ l, Clean entry.path)
    {files : List PayloadEntry} :
    scanListing l = .ok files ↔ (∀ entry ∈ l, Admitted entry) ∧ files = l.filterMap payloadOf := by
  induction l generalizing files with
  | nil =>
      rw [scanListing, pure_eq_ok]
      simp [eq_comm]
  | cons entry l ih =>
      have hfirst := @scanChild_eq_ok entry (hclean entry List.mem_cons_self)
      have hrest := @ih fun e he => hclean e (List.mem_cons_of_mem entry he)
      simp only [scanListing, bind_eq_ok, hfirst, hrest, pure_eq_ok, List.forall_mem_cons]
      constructor
      · rintro ⟨_, ⟨hadmitted, rfl⟩, _, ⟨hall, rfl⟩, rfl⟩
        refine ⟨⟨hadmitted, hall⟩, ?_⟩
        rw [List.filterMap_cons]
        cases payloadOf entry <;> rfl
      · rintro ⟨⟨hadmitted, hall⟩, rfl⟩
        refine ⟨_, ⟨hadmitted, rfl⟩, _, ⟨hall, rfl⟩, ?_⟩
        rw [List.filterMap_cons]
        cases payloadOf entry <;> rfl

theorem flatMap_subdirectories (path names : List Str) (child : Str → Node) :
    (subdirectories path names child).flatMap Located.descendants
      = names.flatMap fun name => (child name).descendants (path ++ [name]) := by
  induction names with
  | nil => rfl
  | cons name names ih =>
      rw [subdirectories, listing] at ih ⊢
      rw [List.map_cons, List.flatMap_cons, ← ih]
      cases hnode : child name with
      | dir stat below child' =>
          rw [List.filter_cons_of_pos (by simp [Node.isDir]), List.flatMap_cons]
          rfl
      | file stat content => rfl
      | symlink stat toDirectory => rfl
      | special stat => rfl

theorem descendants_perm (path : List Str) (stat : Stat) {names sorted : List Str}
    (child : Str → Node) (hperm : sorted.Perm names) :
    (listing path sorted child
        ++ (subdirectories path sorted child).reverse.flatMap Located.descendants).Perm
      ((Node.dir stat names child).descendants path) := by
  have hsub : ((subdirectories path sorted child).reverse.flatMap Located.descendants).Perm
      (sorted.flatMap fun name => (child name).descendants (path ++ [name])) := by
    rw [← flatMap_subdirectories]
    exact (List.reverse_perm _).flatMap_right _
  refine (List.Perm.append_left _ hsub).trans ?_
  refine (List.map_append_flatMap_perm sorted (fun name => (path ++ [name], child name))
    fun name => (child name).descendants (path ++ [name])).trans ?_
  exact hperm.flatMap_right _

theorem sound_listing {path names : List Str} {child : Str → Node} {stat : Stat}
    (h : SoundEntry (path, .dir stat names child)) {sorted : List Str} (hperm : sorted.Perm names) :
    ∀ entry ∈ listing path sorted child, SoundEntry entry ∧ Clean entry.path := by
  intro entry hentry
  obtain ⟨name, hname, rfl⟩ := List.mem_map.mp hentry
  have hsound := sound_child h (hperm.mem_iff.mp hname)
  exact ⟨hsound, clean_join (by simp) hsound.1⟩

theorem scanPending_of_ok {pending : List Located} (hsound : ∀ entry ∈ pending, SoundEntry entry)
    {files : List PayloadEntry} (h : scanPending pending = .ok files) :
    (∀ entry ∈ pending.flatMap Located.descendants, Admitted entry)
      ∧ files.Perm ((pending.flatMap Located.descendants).filterMap payloadOf) := by
  induction pending using scanPending.induct generalizing files with
  | case1 =>
      rw [scanPending, pure_eq_ok] at h
      simp [← h]
  | case2 path stat names child pending ih =>
      obtain ⟨hdir, hpending⟩ := List.forall_mem_cons.mp hsound
      have hsorted : (sortNames names).Perm names := List.perm_insertionSort _ _
      have hlisting := sound_listing hdir hsorted
      simp only [scanPending, bind_eq_ok, pure_eq_ok,
        scanListing_eq_ok fun entry hentry => (hlisting entry hentry).2] at h
      obtain ⟨_, ⟨hall, rfl⟩, more, hmore, rfl⟩ := h
      have hnext : ∀ entry ∈ (subdirectories path (sortNames names) child).reverse ++ pending,
          SoundEntry entry := by
        intro entry hentry
        rcases List.mem_append.mp hentry with hentry | hentry
        · exact (hlisting entry (List.mem_filter.mp (List.mem_reverse.mp hentry)).1).1
        · exact hpending entry hentry
      obtain ⟨hbelow, hfiles⟩ := ih hnext hmore
      have hperm := descendants_perm path stat child hsorted
      rw [List.flatMap_append] at hbelow hfiles
      have hwhole : (listing path (sortNames names) child
          ++ ((subdirectories path (sortNames names) child).reverse.flatMap Located.descendants
            ++ pending.flatMap Located.descendants)).Perm
          (((path, Node.dir stat names child) :: pending).flatMap Located.descendants) := by
        rw [List.flatMap_cons, ← List.append_assoc]
        exact hperm.append_right _
      refine ⟨fun entry hentry => ?_, ?_⟩
      · rcases List.mem_append.mp (hwhole.mem_iff.mpr hentry) with hentry | hentry
        · exact hall entry hentry
        · exact hbelow entry hentry
      · refine List.Perm.trans ?_ (hwhole.filterMap payloadOf)
        rw [List.filterMap_append]
        exact hfiles.append_left _
  | case3 entry pending hnot =>
      rw [scanPending] at h
      · cases h
      · exact hnot

theorem scanPending_returns {pending : List Located} (hsound : ∀ entry ∈ pending, SoundEntry entry)
    (hdirs : ∀ entry ∈ pending, entry.2.isDir = true)
    (hall : ∀ entry ∈ pending.flatMap Located.descendants, Admitted entry) :
    ∃ files, scanPending pending = .ok files := by
  induction pending using scanPending.induct with
  | case1 => exact ⟨_, by rw [scanPending]; rfl⟩
  | case2 path stat names child pending ih =>
      obtain ⟨hdir, hpending⟩ := List.forall_mem_cons.mp hsound
      have hsorted : (sortNames names).Perm names := List.perm_insertionSort _ _
      have hlisting := sound_listing hdir hsorted
      have hperm := descendants_perm path stat child hsorted
      have hmem : ∀ entry, entry ∈ listing path (sortNames names) child
          ∨ entry ∈ (subdirectories path (sortNames names) child).reverse.flatMap
              Located.descendants → Admitted entry := by
        intro entry hentry
        refine hall entry (List.mem_flatMap.mpr ⟨_, List.mem_cons_self, ?_⟩)
        exact hperm.mem_iff.mp (List.mem_append.mpr hentry)
      obtain ⟨more, hmore⟩ := ih
        (fun entry hentry => by
          rcases List.mem_append.mp hentry with hentry | hentry
          · exact (hlisting entry (List.mem_filter.mp (List.mem_reverse.mp hentry)).1).1
          · exact hpending entry hentry)
        (fun entry hentry => by
          rcases List.mem_append.mp hentry with hentry | hentry
          · exact (List.mem_filter.mp (List.mem_reverse.mp hentry)).2
          · exact hdirs entry (List.mem_cons_of_mem _ hentry))
        (fun entry hentry => by
          rw [List.flatMap_append] at hentry
          rcases List.mem_append.mp hentry with hentry | hentry
          · exact hmem entry (Or.inr hentry)
          · refine hall entry ?_
            rw [List.flatMap_cons]
            exact List.mem_append_right _ hentry)
      have hscan : scanListing (listing path (sortNames names) child)
          = .ok ((listing path (sortNames names) child).filterMap payloadOf) :=
        (scanListing_eq_ok fun entry hentry => (hlisting entry hentry).2).mpr
          ⟨fun entry hentry => hmem entry (Or.inl hentry), rfl⟩
      refine ⟨(listing path (sortNames names) child).filterMap payloadOf ++ more, ?_⟩
      rw [scanPending, hscan, hmore]
      rfl
  | case3 entry pending hnot =>
      obtain ⟨path, node⟩ := entry
      have hdir := hdirs _ List.mem_cons_self
      cases node with
      | dir stat names child => exact (hnot path stat names child rfl).elim
      | file stat content => cases hdir
      | symlink stat toDirectory => cases hdir
      | special stat => cases hdir

/-! ## The payload of a tree -/

/-- The files of a tree but its manifest, in the order of the manifest. -/
def payloadFiles (root : Node) : List PayloadEntry :=
  sortByPath ((root.descendants []).filterMap payloadOf)

theorem payloadOf_path {entry : Located} {file : PayloadEntry}
    (h : payloadOf entry = some file) : file.path = entry.path := by
  obtain ⟨path, node⟩ := entry
  cases node with
  | file stat content =>
      simp only [payloadOf] at h
      split_ifs at h
      rw [← Option.some.inj h]
  | dir stat names child => cases h
  | symlink stat toDirectory => cases h
  | special stat => cases h

theorem nodup_found {root : Node} (h : root.WellFormed) :
    (pathsOf ((root.descendants []).filterMap payloadOf)).Nodup := by
  have hsound : SoundEntry ([], root) := ⟨fun _ hpart => absurd hpart List.not_mem_nil, h⟩
  have hentries := nodup_descendants hsound
  have hpairs := List.pairwise_map.mp hentries
  refine List.pairwise_map.mpr (List.pairwise_filterMap.mpr ?_)
  refine hpairs.imp_of_mem fun {a b} ha hb hne file hfile other hother heq => ?_
  obtain ⟨hsounda, -, hlengtha⟩ := sound_of_mem_descendants hsound ha
  obtain ⟨hsoundb, -, hlengthb⟩ := sound_of_mem_descendants hsound hb
  rw [payloadOf_path hfile, payloadOf_path hother] at heq
  exact hne (join_injective hsounda.1 hsoundb.1 (List.ne_nil_of_length_pos (by omega))
    (List.ne_nil_of_length_pos (by omega)) heq)

theorem sortByPath_perm (files : List PayloadEntry) : (sortByPath files).Perm files :=
  List.perm_insertionSort _ files

theorem sorted_sortByPath (files : List PayloadEntry) :
    (sortByPath files).Pairwise fun a b => a.path ≤ b.path := by
  have : Std.Total fun a b : PayloadEntry => a.path ≤ b.path := ⟨fun a b => le_total _ _⟩
  have : IsTrans PayloadEntry fun a b => a.path ≤ b.path := ⟨fun _ _ _ => le_trans⟩
  exact List.pairwise_insertionSort _ files

theorem eq_of_sorted {l m : List PayloadEntry} (hperm : l.Perm m) (hnodup : (pathsOf l).Nodup)
    (hl : l.Pairwise fun a b => a.path ≤ b.path) (hm : m.Pairwise fun a b => a.path ≤ b.path) :
    l = m := by
  refine List.Perm.eq_of_pairwise (fun a b ha hb hab hba => ?_) hl hm hperm
  exact List.inj_on_of_nodup_map hnodup ha (hperm.mem_iff.mpr hb) (le_antisymm hab hba)

theorem sortByPath_eq_of_perm {l m : List PayloadEntry} (hperm : l.Perm m)
    (hnodup : (pathsOf l).Nodup) : sortByPath l = sortByPath m := by
  refine eq_of_sorted ?_ ?_ (sorted_sortByPath l) (sorted_sortByPath m)
  · exact (sortByPath_perm l).trans (hperm.trans (sortByPath_perm m).symm)
  · exact ((sortByPath_perm l).map _).nodup_iff.mpr hnodup

theorem nodup_payloadFiles {root : Node} (h : root.WellFormed) :
    (pathsOf (payloadFiles root)).Nodup :=
  ((sortByPath_perm _).map _).nodup_iff.mpr (nodup_found h)

/-- The trees that the packaging side can scan. -/
structure Scannable (root : Node) : Prop where
  directory : root.isDir = true
  mode : SafeMode root.stat.mode
  entries : ∀ entry ∈ root.descendants [], Admitted entry
  count : (payloadFiles root).length ≤ maxArchiveEntries
  bytes : totalSize (payloadFiles root) ≤ maxArchiveTotalBytes

theorem scanPayloadTree_eq_ok {root : Node} (h : root.WellFormed) {files : List PayloadEntry} :
    scanPayloadTree root = .ok files ↔ Scannable root ∧ files = payloadFiles root := by
  have hsound : ∀ entry ∈ [(([] : List Str), root)], SoundEntry entry := by
    intro entry hentry
    rw [List.mem_singleton.mp hentry]
    exact ⟨fun _ hpart => absurd hpart List.not_mem_nil, h⟩
  have hall : [(([] : List Str), root)].flatMap Located.descendants = root.descendants [] := by
    simp [Located.descendants]
  have hsorted : ∀ found, scanPending [([], root)] = .ok found →
      sortByPath found = payloadFiles root := by
    intro found hfound
    obtain ⟨-, hperm⟩ := scanPending_of_ok hsound hfound
    rw [hall] at hperm
    exact (sortByPath_eq_of_perm hperm.symm (nodup_found h)).symm
  simp only [scanPayloadTree, bind_eq_ok, refuseIf_eq_ok, exists_const, pure_eq_ok, not_not, not_lt,
    validatedMode_eq_ok]
  constructor
  · rintro ⟨hdir, _, ⟨hmode, -⟩, found, hfound, hcount, hbytes, rfl⟩
    obtain ⟨hadmitted, -⟩ := scanPending_of_ok hsound hfound
    rw [hsorted found hfound] at hcount hbytes ⊢
    exact ⟨⟨hdir, hmode, hall ▸ hadmitted, hcount, hbytes⟩, rfl⟩
  · rintro ⟨hscannable, rfl⟩
    obtain ⟨found, hfound⟩ := scanPending_returns hsound
      (fun entry hentry => by
        rw [List.mem_singleton.mp hentry]
        exact hscannable.directory)
      (hall.symm ▸ hscannable.entries)
    have heq := hsorted found hfound
    refine ⟨hscannable.directory, _, ⟨hscannable.mode, rfl⟩, found, hfound, ?_, ?_, heq⟩
    · rw [heq]
      exact hscannable.count
    · rw [heq]
      exact hscannable.bytes

/-! ## The comparison with the manifest -/

theorem byPath_eq_some_iff {files : List PayloadEntry} (hnodup : (pathsOf files).Nodup)
    {path : Str} {file : PayloadEntry} :
    byPath files path = some file ↔ file ∈ files ∧ file.path = path := by
  constructor
  · intro h
    have hmem := List.mem_of_find?_eq_some h
    have hpath := List.find?_some h
    exact ⟨List.mem_reverse.mp hmem, by simpa using hpath⟩
  · rintro ⟨hmem, rfl⟩
    cases hfound : byPath files file.path with
    | none =>
        have := List.find?_eq_none.mp hfound file (List.mem_reverse.mpr hmem)
        exact absurd this (by simp)
    | some other =>
        have hother := List.mem_reverse.mp (List.mem_of_find?_eq_some hfound)
        have hpath : other.path = file.path := by
          have := List.find?_some hfound
          simpa using this
        rw [List.inj_on_of_nodup_map hnodup hother hmem hpath]

theorem insertionSort_ne_nil_iff {l : List Str} : l.insertionSort (· ≤ ·) ≠ [] ↔ l ≠ [] := by
  rw [ne_eq, ne_eq, not_iff_not]
  constructor
  · intro h
    exact List.Perm.eq_nil (h ▸ (List.perm_insertionSort (· ≤ ·) l)).symm
  · rintro rfl
    rfl

/-- The comparison passes exactly if the two lists hold the same files. -/
theorem comparePayloadFiles_eq_ok {expected actual : List PayloadEntry}
    (hexpected : (pathsOf expected).Nodup) (hactual : (pathsOf actual).Nodup) :
    comparePayloadFiles expected actual = .ok () ↔ expected.Perm actual := by
  have hnil : ∀ (l : List Str) (p : Str → Prop) [DecidablePred p],
      (¬ (l.filter fun path => p path).insertionSort (· ≤ ·) ≠ []) ↔ ∀ path ∈ l, ¬ p path := by
    intro l p _
    rw [insertionSort_ne_nil_iff, not_not, List.filter_eq_nil_iff]
    simp
  simp only [comparePayloadFiles, bind_eq_ok, refuseIf_eq_ok, exists_const]
  rw [hnil, hnil, hnil]
  have hnodup : expected.Nodup ∧ actual.Nodup := ⟨hexpected.of_map _, hactual.of_map _⟩
  rw [List.perm_ext_iff_of_nodup hnodup.1 hnodup.2]
  constructor
  · rintro ⟨hmissing, hextra, hchanged⟩ file
    have hsame : ∀ path ∈ pathsOf expected, byPath expected path = byPath actual path :=
      fun path hpath => not_not.mp (hchanged path hpath)
    constructor
    · intro hfile
      have hpath := List.mem_map_of_mem (f := PayloadEntry.path) hfile
      have hfound := (byPath_eq_some_iff hexpected).mpr ⟨hfile, rfl⟩
      rw [hsame _ hpath] at hfound
      exact ((byPath_eq_some_iff hactual).mp hfound).1
    · intro hfile
      have hpath := not_not.mp (hextra _ (List.mem_map_of_mem (f := PayloadEntry.path) hfile))
      have hfound := (byPath_eq_some_iff hactual).mpr ⟨hfile, rfl⟩
      rw [← hsame _ hpath] at hfound
      exact ((byPath_eq_some_iff hexpected).mp hfound).1
  · intro hsame
    refine ⟨fun path hpath => not_not.mpr ?_, fun path hpath => not_not.mpr ?_,
      fun path hpath => not_not.mpr ?_⟩
    · obtain ⟨file, hfile, rfl⟩ := List.mem_map.mp hpath
      exact List.mem_map_of_mem ((hsame file).mp hfile)
    · obtain ⟨file, hfile, rfl⟩ := List.mem_map.mp hpath
      exact List.mem_map_of_mem ((hsame file).mpr hfile)
    · obtain ⟨file, hfile, rfl⟩ := List.mem_map.mp hpath
      rw [(byPath_eq_some_iff hexpected).mpr ⟨hfile, rfl⟩,
        (byPath_eq_some_iff hactual).mpr ⟨(hsame file).mp hfile, rfl⟩]

end TrexWebui
