import TrexWebui.ReleaseScan

/-!
# Trees by their paths

What stands at a path of a tree, and what changes there when an entry is
created: the entry itself and the directories that its path implies. An entry
cannot be created below a file, nor in the place of one.
-/

namespace TrexWebui

open PyStr PosixPath

/-! ## Entries by path -/

def Node.at? : List Str → Node → Option Node
  | [], node => some node
  | name :: rest, .dir _ names child => if name ∈ names then (child name).at? rest else none
  | _ :: _, _ => none

/-- An entry without what is below it. -/
inductive Info where
  | file (stat : Stat) (content : Bytes)
  | dir (stat : Stat)
  | other

def Node.info : Node → Info
  | .file stat content => .file stat content
  | .dir stat _ _ => .dir stat
  | _ => .other

def Node.info? (root : Node) (path : List Str) : Option Info := (root.at? path).map Node.info

theorem mem_descendants_iff {node : Node} {path : List Str} {entry : Located} :
    entry ∈ node.descendants path
      ↔ ∃ below, below ≠ [] ∧ entry.1 = path ++ below ∧ node.at? below = some entry.2 := by
  induction node generalizing path with
  | dir stat names child ih =>
      rw [mem_descendants_dir]
      constructor
      · rintro ⟨name, hname, rfl | hentry⟩
        · exact ⟨[name], by simp, rfl, by simp [Node.at?, hname]⟩
        · obtain ⟨below, -, hpath, hat⟩ := (ih name).mp hentry
          exact ⟨name :: below, by simp, by simp [hpath], by simp [Node.at?, hname, hat]⟩
      · rintro ⟨below, hne, hpath, hat⟩
        cases below with
        | nil => exact absurd rfl hne
        | cons name below =>
            rw [Node.at?] at hat
            split_ifs at hat with hname
            refine ⟨name, hname, ?_⟩
            cases below with
            | nil =>
                refine Or.inl (Prod.ext hpath ?_)
                rw [Node.at?] at hat
                exact (Option.some.inj hat).symm
            | cons next below =>
                exact Or.inr ((ih name).mpr ⟨next :: below, by simp, by simp [hpath], hat⟩)
  | file stat content =>
      refine iff_of_false (by simp [Node.descendants]) ?_
      rintro ⟨below, hne, -, hat⟩
      cases below with
      | nil => exact hne rfl
      | cons name below => simp [Node.at?] at hat
  | symlink stat toDirectory =>
      refine iff_of_false (by simp [Node.descendants]) ?_
      rintro ⟨below, hne, -, hat⟩
      cases below with
      | nil => exact hne rfl
      | cons name below => simp [Node.at?] at hat
  | special stat =>
      refine iff_of_false (by simp [Node.descendants]) ?_
      rintro ⟨below, hne, -, hat⟩
      cases below with
      | nil => exact hne rfl
      | cons name below => simp [Node.at?] at hat

/-! ## Placing one member -/

/-- A file or a directory that is created. -/
inductive Placed where
  | file (stat : Stat) (content : Bytes)
  | directory (stat : Stat)

def emptyDirectory (stat : Stat) : Node := .dir stat [] fun _ => .special stat

def fresh (implied : Stat) (placed : Placed) : List Str → Node
  | [] =>
    match placed with
    | .file stat content => .file stat content
    | .directory stat => emptyDirectory stat
  | name :: rest => .dir implied [name] fun _ => fresh implied placed rest

/-- Create an entry in a tree. A directory that is there already gets the new mode. -/
def place (implied : Stat) (placed : Placed) : List Str → Node → Option Node
  | [], .dir _ names child =>
    match placed with
    | .file _ _ => none
    | .directory stat => some (.dir stat names child)
  | name :: rest, .dir stat names child =>
    if name ∈ names then
      (place implied placed rest (child name)).map fun node =>
        .dir stat names (Function.update child name node)
    else
      some (.dir stat (names ++ [name]) (Function.update child name (fresh implied placed rest)))
  | _, _ => none

def Placed.info : Placed → Info
  | .file stat content => .file stat content
  | .directory stat => .dir stat

def infoAfter (implied : Stat) (placed : Placed) (path : List Str) (before : List Str → Option Info)
    (query : List Str) : Option Info :=
  if query = path then some placed.info
  else if query <+: path ∧ before query = none then some (.dir implied)
  else before query

theorem info?_fresh (implied : Stat) (placed : Placed) (path query : List Str) :
    (fresh implied placed path).info? query = infoAfter implied placed path (fun _ => none) query := by
  induction path generalizing query with
  | nil =>
      cases query with
      | nil => cases placed <;> rfl
      | cons name query =>
          cases placed <;> simp [fresh, emptyDirectory, Node.info?, Node.at?, infoAfter]
  | cons first path ih =>
      cases query with
      | nil => simp [fresh, Node.info?, Node.at?, Node.info, infoAfter]
      | cons name query =>
          by_cases hname : name = first
          · subst hname
            have hat : (fresh implied placed (name :: path)).info? (name :: query)
                = (fresh implied placed path).info? query := by
              simp [fresh, Node.info?, Node.at?]
            rw [hat, ih]
            simp [infoAfter]
          · simp [fresh, Node.info?, Node.at?, infoAfter, hname]

theorem info?_cons {stat : Stat} {names : List Str} {child : Str → Node} {name : Str}
    {query : List Str} :
    (Node.dir stat names child).info? (name :: query)
      = if name ∈ names then (child name).info? query else none := by
  rw [Node.info?, Node.at?]
  split_ifs <;> rfl

theorem info?_place {implied : Stat} {placed : Placed} {path : List Str} {root after : Node}
    (h : place implied placed path root = some after) (query : List Str) :
    after.info? query = infoAfter implied placed path root.info? query := by
  induction path generalizing root after query with
  | nil =>
      cases root with
      | dir stat names child =>
          cases placed with
          | file stat content => cases h
          | directory stat' =>
              rw [place] at h
              obtain rfl := Option.some.inj h
              cases query with
              | nil => rfl
              | cons name query =>
                  simp [infoAfter, info?_cons]
      | file stat content => cases h
      | symlink stat toDirectory => cases h
      | special stat => cases h
  | cons first path ih =>
      cases root with
      | file stat content => cases h
      | symlink stat toDirectory => cases h
      | special stat => cases h
      | dir stat names child =>
          rw [place] at h
          split_ifs at h with hfirst
          · obtain ⟨node, hnode, rfl⟩ := Option.map_eq_some_iff.mp h
            cases query with
            | nil => simp [infoAfter, Node.info?, Node.at?, Node.info]
            | cons name query =>
                by_cases hname : name = first
                · subst hname
                  rw [info?_cons, if_pos hfirst, Function.update_self, ih hnode]
                  simp [infoAfter, info?_cons, hfirst]
                · simp [infoAfter, info?_cons, hname]
          · obtain rfl := Option.some.inj h
            cases query with
            | nil => simp [infoAfter, Node.info?, Node.at?, Node.info]
            | cons name query =>
                by_cases hname : name = first
                · subst hname
                  rw [info?_cons, if_pos (by simp), Function.update_self, info?_fresh]
                  simp [infoAfter, info?_cons, hfirst]
                · simp [infoAfter, info?_cons, hname]

/-- An entry can be created if only directories stand above it, and nothing in its place but
a directory for a directory. -/
theorem place_returns {implied : Stat} {placed : Placed} {path : List Str} {root : Node}
    (habove : ∀ query, query <+: path → query ≠ path → ∀ info, root.info? query = some info →
      ∃ stat, info = .dir stat)
    (hself : ∀ info, root.info? path = some info →
      (∃ stat, info = .dir stat) ∧ ∃ stat, placed = .directory stat) :
    ∃ after, place implied placed path root = some after := by
  induction path generalizing root with
  | nil =>
      obtain ⟨⟨stat, hdir⟩, stat', rfl⟩ := hself root.info rfl
      cases root with
      | dir stat names child => exact ⟨_, rfl⟩
      | file stat content => cases hdir
      | symlink stat toDirectory => cases hdir
      | special stat => cases hdir
  | cons first path ih =>
      obtain ⟨stat, hdir⟩ := habove [] List.nil_prefix (by simp) root.info rfl
      cases root with
      | file stat content => cases hdir
      | symlink stat toDirectory => cases hdir
      | special stat => cases hdir
      | dir stat names child =>
          rw [place]
          split_ifs with hfirst
          · obtain ⟨node, hnode⟩ := @ih (child first)
              (fun query hquery hne info hinfo =>
                habove (first :: query) (by simpa using hquery) (by simpa using hne) info
                  (by rw [info?_cons, if_pos hfirst]; exact hinfo))
              (fun info hinfo => hself info (by rw [info?_cons, if_pos hfirst]; exact hinfo))
            exact ⟨_, by rw [hnode]; rfl⟩
          · exact ⟨_, rfl⟩

theorem wellFormed_fresh {implied : Stat} {placed : Placed} {path : List Str}
    (hpath : ∀ part ∈ path, IsName part) : (fresh implied placed path).WellFormed := by
  induction path with
  | nil =>
      cases placed with
      | file stat content => trivial
      | directory stat =>
          exact ⟨List.nodup_nil, fun _ h => absurd h List.not_mem_nil,
            fun _ h => absurd h List.not_mem_nil⟩
  | cons first path ih =>
      obtain ⟨hfirst, hrest⟩ := List.forall_mem_cons.mp hpath
      refine ⟨List.nodup_singleton first, fun name hname => ?_, fun name _ => ih hrest⟩
      rw [List.mem_singleton.mp hname]
      exact hfirst

theorem wellFormed_place {implied : Stat} {placed : Placed} {path : List Str} {root after : Node}
    (h : place implied placed path root = some after) (hpath : ∀ part ∈ path, IsName part)
    (hroot : root.WellFormed) : after.WellFormed := by
  induction path generalizing root after with
  | nil =>
      cases root with
      | dir stat names child =>
          cases placed with
          | file stat' content => cases h
          | directory stat' =>
              obtain rfl := Option.some.inj h
              exact hroot
      | file stat content => cases h
      | symlink stat toDirectory => cases h
      | special stat => cases h
  | cons first path ih =>
      obtain ⟨hfirst, hrest⟩ := List.forall_mem_cons.mp hpath
      cases root with
      | file stat content => cases h
      | symlink stat toDirectory => cases h
      | special stat => cases h
      | dir stat names child =>
          obtain ⟨hnodup, hnames, hchildren⟩ := hroot
          have hupdate : ∀ node : Node, node.WellFormed → ∀ name ∈ first :: names,
              (Function.update child first node name).WellFormed := by
            intro node hnode name hname
            by_cases heq : name = first
            · rw [heq, Function.update_self]
              exact hnode
            · rw [Function.update_of_ne heq]
              exact hchildren name ((List.mem_cons.mp hname).resolve_left heq)
          rw [place] at h
          split_ifs at h with hmem
          · obtain ⟨node, hnode, rfl⟩ := Option.map_eq_some_iff.mp h
            have hnode' := ih hnode hrest (hchildren first hmem)
            exact ⟨hnodup, hnames, fun name hname =>
              hupdate node hnode' name (List.mem_cons_of_mem first hname)⟩
          · obtain rfl := Option.some.inj h
            refine ⟨?_, fun name hname => ?_, fun name hname => ?_⟩
            · rw [List.nodup_append]
              refine ⟨hnodup, List.nodup_singleton first, fun a ha b hb heq => ?_⟩
              rw [List.mem_singleton.mp hb] at heq
              exact hmem (heq ▸ ha)
            · rcases List.mem_append.mp hname with hname | hname
              · exact hnames name hname
              · rw [List.mem_singleton.mp hname]
                exact hfirst
            · refine hupdate _ (wellFormed_fresh hrest) name ?_
              rcases List.mem_append.mp hname with hname | hname
              · exact List.mem_cons_of_mem first hname
              · rw [List.mem_singleton.mp hname]
                exact List.mem_cons_self

theorem at?_append (root : Node) (path below : List Str) :
    root.at? (path ++ below) = (root.at? path).bind (Node.at? below) := by
  induction path generalizing root with
  | nil => rfl
  | cons first path ih =>
      cases root with
      | dir stat names child =>
          rw [List.cons_append, Node.at?, Node.at?]
          split_ifs
          · exact ih _
          · rfl
      | file stat content => rfl
      | symlink stat toDirectory => rfl
      | special stat => rfl

theorem info?_below_file {root : Node} {path query : List Str} {stat : Stat} {content : Bytes}
    (h : root.info? path = some (.file stat content)) (hleads : path <+: query)
    (hne : path ≠ query) : root.info? query = none := by
  obtain ⟨below, rfl⟩ := hleads
  have hbelow : below ≠ [] := by
    rintro rfl
    exact hne (by simp)
  obtain ⟨node, hnode, hinfo⟩ := Option.map_eq_some_iff.mp h
  obtain ⟨first, below, rfl⟩ := List.exists_cons_of_ne_nil hbelow
  rw [Node.info?, at?_append, hnode]
  cases node with
  | file stat content => rfl
  | dir stat names child => cases hinfo
  | symlink stat toDirectory => cases hinfo
  | special stat => cases hinfo

end TrexWebui
