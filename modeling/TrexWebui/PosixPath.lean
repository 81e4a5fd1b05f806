import Mathlib.Data.List.DropRight
import TrexWebui.PyStr

/-!
# POSIX paths

`posixpath.normpath` and the parts and text of a `PurePosixPath`, for texts.
Both split a path at its slashes and drop some of the parts; `Clean` says
that neither has anything to drop or resolve. A relative path is clean
exactly if `normpath` leaves it alone and no part of it is `..`, and exactly
if `PurePosixPath` prints it unchanged and no part of it is `..`, so the two
ways to insist on a canonical path agree.
-/

namespace PosixPath

open PyStr

def slash : Nat := 47

def stop : Nat := 46

/-- `.` -/
def dot : Str := [stop]

/-- `..` -/
def dotDot : Str := [stop, stop]

/-! ## The functions of the library -/

/-- `path.split("/")` -/
def split (path : Str) : List Str := path.splitOn slash

/-- `"/".join(parts)` -/
def join (parts : List Str) : Str := [slash].intercalate parts

/-- `path.rstrip("/")` -/
def rstripSlash (path : Str) : Str := path.rdropWhile (· == slash)

/-- The loop of `normpath` over the parts of a path. -/
def resolve (rooted : Bool) : (kept : List Str) → List Str → List Str
  | kept, [] => kept
  | kept, part :: rest =>
    if part = [] ∨ part = dot then resolve rooted kept rest
    else if part ≠ dotDot ∨ (!rooted ∧ kept = []) ∨ kept.getLast? = some dotDot then
      resolve rooted (kept ++ [part]) rest
    else resolve rooted kept.dropLast rest

/-- `posixpath.normpath(path)` -/
def normpath (path : Str) : Str :=
  if path = [] then dot
  else
    let initialSlashes :=
      if ¬ [slash].isPrefixOf path then 0
      else if [slash, slash].isPrefixOf path ∧ ¬ [slash, slash, slash].isPrefixOf path then 2
      else 1
    let resolved := List.replicate initialSlashes slash
      ++ join (resolve (0 < initialSlashes) [] (split path))
    if resolved = [] then dot else resolved

/-- The root of a `PurePosixPath`: nothing, one slash or exactly two. -/
def root (path : Str) : Str :=
  if ¬ [slash].isPrefixOf path then []
  else if [slash, slash].isPrefixOf path ∧ ¬ [slash, slash, slash].isPrefixOf path then
    [slash, slash]
  else [slash]

def names (path : Str) : List Str := (split path).filter fun part => part ≠ [] ∧ part ≠ dot

/-- `PurePosixPath(path).parts` -/
def parts (path : Str) : List Str := if root path = [] then names path else root path :: names path

/-- `str(PurePosixPath(path))` -/
def str (path : Str) : Str :=
  if root path ++ join (names path) = [] then dot else root path ++ join (names path)

/-- `PurePosixPath(path).name` -/
def name (path : Str) : Str := (names path).getLast?.getD []

/-- Where the suffix of a name starts: at its last full stop, unless that is its first or its
last character. -/
def suffixStart? (name : Str) : Option Nat :=
  let start := name.length - 1 - (name.reverse.takeWhile (· ≠ stop)).length
  if stop ∈ name ∧ 0 < start ∧ start < name.length - 1 then some start else none

/-- `PurePosixPath(path).suffix` -/
def suffix (path : Str) : Str :=
  match suffixStart? (name path) with
  | some start => (name path).drop start
  | none => []

/-- `PurePosixPath(path).stem` -/
def stem (path : Str) : Str :=
  match suffixStart? (name path) with
  | some start => (name path).take start
  | none => name path

/-- `PurePosixPath(path).with_name(name)`; `none` is a `ValueError`. -/
def withName (path newName : Str) : Option Str :=
  if name path = [] ∨ newName = [] ∨ newName = dot ∨ slash ∈ newName then none
  else some (root path ++ join ((names path).dropLast ++ [newName]))

/-! ## Clean paths -/

def IsName (part : Str) : Prop := part ≠ [] ∧ part ≠ dot ∧ part ≠ dotDot ∧ slash ∉ part

instance (part : Str) : Decidable (IsName part) := inferInstanceAs (Decidable (_ ∧ _ ∧ _ ∧ _))

def Clean (path : Str) : Prop := ∀ part ∈ split path, IsName part

instance (path : Str) : Decidable (Clean path) := inferInstanceAs (Decidable (∀ _ ∈ _, _))

/-! ## Splitting and joining -/

theorem join_split (path : Str) : join (split path) = path := List.intercalate_splitOn slash

theorem split_join {l : List Str} (hne : l ≠ []) (hslash : ∀ part ∈ l, slash ∉ part) :
    split (join l) = l := List.splitOn_intercalate slash hslash hne

theorem split_ne_nil (path : Str) : split path ≠ [] := List.splitOn_ne_nil slash path

theorem slash_notMem {path part : Str} (h : part ∈ split path) : slash ∉ part := by
  induction path generalizing part with
  | nil =>
      rcases List.mem_singleton.mp h with rfl
      exact List.not_mem_nil
  | cons c path ih =>
      rw [split, List.splitOn_cons_eq_if_modifyHead] at h
      split_ifs at h with hc
      · rcases List.mem_cons.mp h with rfl | h
        · exact List.not_mem_nil
        · exact ih h
      · obtain ⟨first, rest, hsplit⟩ := List.exists_cons_of_ne_nil (split_ne_nil path)
        rw [← split, hsplit, List.modifyHead_cons] at h
        rcases List.mem_cons.mp h with rfl | h
        · have hfirst : slash ∉ first := ih (by rw [hsplit]; exact List.mem_cons_self)
          have hne : slash ≠ c := fun heq => hc (by simp [heq])
          simp [hfirst, hne]
        · exact ih (by rw [hsplit]; exact List.mem_cons_of_mem first h)

theorem join_cons_cons (part next : Str) (rest : List Str) :
    join (part :: next :: rest) = part ++ slash :: join (next :: rest) := by
  simp [join, List.intercalate]

/-! ## `normpath` -/

theorem isPrefixOf_slash {path : Str} (h : path.head? ≠ some slash) :
    [slash].isPrefixOf path = false := by
  cases path with
  | nil => rfl
  | cons c path =>
      have hc : (slash == c) = false := by
        simp only [beq_eq_false_iff_ne]
        exact fun heq => h (by rw [heq]; rfl)
      rw [List.isPrefixOf_cons_cons, hc, Bool.false_and]

/-- `normpath` of a relative path. -/
theorem normpath_of_relative {path : Str} (hne : path ≠ []) (h : path.head? ≠ some slash) :
    normpath path = if join (resolve false [] (split path)) = [] then dot
      else join (resolve false [] (split path)) := by
  simp [normpath, hne, isPrefixOf_slash h]

theorem resolve_of_names {rooted : Bool} {kept l : List Str} (h : ∀ part ∈ l, IsName part) :
    resolve rooted kept l = kept ++ l := by
  induction l generalizing kept with
  | nil => simp [resolve]
  | cons part l ih =>
      obtain ⟨hne, hdot, hdots, -⟩ := h part List.mem_cons_self
      have hrest := @ih (kept ++ [part]) fun p hp => h p (List.mem_cons_of_mem part hp)
      rw [resolve, if_neg (by simp [hne, hdot]), if_pos (Or.inl hdots), hrest]
      simp

/-- What `normpath` keeps it was given, and it keeps nothing empty and no full stop. -/
theorem mem_resolve {rooted : Bool} {kept l : List Str} {part : Str}
    (h : part ∈ resolve rooted kept l) :
    part ∈ kept ∨ part ∈ l ∧ part ≠ [] ∧ part ≠ dot := by
  induction l generalizing kept with
  | nil => exact Or.inl h
  | cons first l ih =>
      rw [resolve] at h
      split_ifs at h with hdrop hkeep
      · rcases ih h with h | h
        · exact Or.inl h
        · exact Or.inr ⟨List.mem_cons_of_mem first h.1, h.2⟩
      · rcases ih h with h | h
        · rcases List.mem_append.mp h with h | h
          · exact Or.inl h
          · rcases List.mem_singleton.mp h with rfl
            exact Or.inr ⟨List.mem_cons_self, not_or.mp hdrop⟩
        · exact Or.inr ⟨List.mem_cons_of_mem first h.1, h.2⟩
      · rcases ih h with h | h
        · exact Or.inl (List.dropLast_subset _ h)
        · exact Or.inr ⟨List.mem_cons_of_mem first h.1, h.2⟩

def Plain (l : List Str) : Prop := ∀ part ∈ l, part ≠ [] ∧ part ≠ dot ∧ part ≠ dotDot

instance (l : List Str) : Decidable (Plain l) := inferInstanceAs (Decidable (∀ _ ∈ _, _))

theorem parts_of_relative {path : Str} (h : path.head? ≠ some slash) : parts path = names path := by
  simp [parts, root, isPrefixOf_slash h]

theorem names_of_clean {path : Str} (h : Clean path) : names path = split path := by
  refine List.filter_eq_self.mpr fun part hpart => ?_
  obtain ⟨hne, hdot, -⟩ := h part hpart
  simp [hne, hdot]

theorem head_of_clean {path : Str} (h : Clean path) : path.head? ≠ some slash := by
  intro hhead
  cases path with
  | nil => cases hhead
  | cons c path =>
      rcases Option.some.inj hhead with rfl
      have hnil : [] ∈ split (slash :: path) := by
        simp [split, List.splitOn_cons_eq_if_modifyHead]
      exact (h [] hnil).1 rfl

theorem clean_ne {path : Str} (h : Clean path) : path ≠ [] ∧ path ≠ dot ∧ path ≠ dotDot := by
  refine ⟨?_, ?_, ?_⟩
  · rintro rfl
    exact (h [] (by decide)).1 rfl
  · rintro rfl
    exact (h dot (by decide)).2.1 rfl
  · rintro rfl
    exact (h dotDot (by decide)).2.2.1 rfl

/-- A relative path is clean exactly if `normpath` leaves it alone and it has only
plain parts. -/
theorem clean_iff_normpath {path : Str} (hne : path ≠ []) (h : path.head? ≠ some slash) :
    Clean path ↔ normpath path = path ∧ path ≠ dot ∧ Plain (parts path) := by
  constructor
  · intro hclean
    have hresolve : resolve false [] (split path) = split path := resolve_of_names hclean
    refine ⟨?_, (clean_ne hclean).2.1, ?_⟩
    · rw [normpath_of_relative hne h, hresolve, join_split, if_neg hne]
    · rw [parts_of_relative h, names_of_clean hclean]
      intro part hpart
      obtain ⟨h1, h2, h3, -⟩ := hclean part hpart
      exact ⟨h1, h2, h3⟩
  · rintro ⟨hnorm, hdot, hplain⟩
    rw [normpath_of_relative hne h] at hnorm
    split_ifs at hnorm with hnil
    · exact absurd hnorm.symm hdot
    have hkept : ∀ part ∈ resolve false [] (split path),
        part ∈ split path ∧ part ≠ [] ∧ part ≠ dot := by
      intro part hpart
      rcases mem_resolve hpart with h' | h'
      · cases h'
      · exact h'
    have hsplit : split path = resolve false [] (split path) := by
      have hne' : resolve false [] (split path) ≠ [] := fun heq => hnil (by rw [heq]; rfl)
      have := split_join hne' fun part hpart => slash_notMem (hkept part hpart).1
      rw [hnorm] at this
      exact this
    intro part hpart
    obtain ⟨-, hpartne, hpartdot⟩ := hkept part (hsplit ▸ hpart)
    have hname : part ∈ parts path := by
      rw [parts_of_relative h]
      exact List.mem_filter.mpr ⟨hpart, by simp [hpartne, hpartdot]⟩
    exact ⟨hpartne, hpartdot, (hplain part hname).2.2, slash_notMem hpart⟩

/-- A relative path is clean, or a full stop, exactly if `PurePosixPath` prints it as it
is and it has only plain parts. -/
theorem clean_iff_str {path : Str} (hne : path ≠ []) (h : path.head? ≠ some slash) :
    Clean path ∨ path = dot ↔ str path = path ∧ Plain (parts path) := by
  have hroot : root path = [] := by simp [root, isPrefixOf_slash h]
  have hnames : ∀ part ∈ names path, part ∈ split path ∧ part ≠ [] ∧ part ≠ dot := by
    intro part hpart
    obtain ⟨hmem, hkeep⟩ := List.mem_filter.mp hpart
    exact ⟨hmem, by simpa using hkeep⟩
  rw [str, hroot, List.nil_append, parts_of_relative h]
  constructor
  · rintro (hclean | rfl)
    · rw [names_of_clean hclean, join_split, if_neg hne]
      refine ⟨rfl, fun part hpart => ?_⟩
      obtain ⟨h1, h2, h3, -⟩ := hclean part hpart
      exact ⟨h1, h2, h3⟩
    · decide
  · rintro ⟨hstr, hplain⟩
    split_ifs at hstr with hnil
    · exact Or.inr hstr.symm
    have hsplit : split path = names path := by
      have hne' : names path ≠ [] := fun heq => hnil (by rw [heq]; rfl)
      have := split_join hne' fun part hpart => slash_notMem (hnames part hpart).1
      rw [hstr] at this
      exact this
    refine Or.inl fun part hpart => ?_
    have hname : part ∈ names path := hsplit ▸ hpart
    obtain ⟨h1, h2, h3⟩ := hplain part hname
    exact ⟨h1, h2, h3, slash_notMem hpart⟩

/-! ## Trailing slashes -/

theorem rstripSlash_eq_self_iff {path : Str} (hne : path ≠ []) :
    rstripSlash path = path ↔ path.getLast? ≠ some slash := by
  rw [rstripSlash, List.rdropWhile_eq_self_iff]
  simp [List.getLast?_eq_some_getLast, hne]

end PosixPath
