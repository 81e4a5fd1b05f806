import TrexWebui.PyStr

/-!
# Stream chaining across a save and a load

A stream names the stream that follows it by its position; a saved profile
names it by its name. `gui_stream_entry` of `workbench_gui_render.py` writes
the name, `stream_from_gui_yaml` reads it, and `resolve_loaded_next_stream_ids`
of `workbench_render.py` turns it back into a position. `chainingSurvives_iff`
says for which lists of streams the links come back.
-/

namespace TrexWebui

open PyStr

/-! ## Names -/

/-- The characters that `str.strip` removes. -/
def isSpace (c : Nat) : Bool :=
  (0x09 ≤ c && c ≤ 0x0D) || (0x1C ≤ c && c ≤ 0x20) || c == 0x85 || c == 0xA0 || c == 0x1680
    || (0x2000 ≤ c && c ≤ 0x200A) || c == 0x2028 || c == 0x2029 || c == 0x202F || c == 0x205F
    || c == 0x3000

def strip (s : Str) : Str := ((s.dropWhile isSpace).reverse.dropWhile isSpace).reverse

def decimal (n : Nat) : Str := (Nat.toDigits 10 n).map Char.toNat

/-- `clean_stream_name`, of a string. -/
def cleanStreamName (value : Str) (index : Nat) : Str :=
  let candidate := strip value
  if candidate ≠ [] ∧ candidate = value ∧ 0 ∉ candidate then candidate.take 128
  else text "stream-" ++ decimal (index + 1)

/-! ## Saving -/

/-- `PROFILE_WORKBENCH_MODES` -/
inductive StreamMode where
  | continuous
  | burst
  | multiBurst
  deriving DecidableEq, Repr

/-- The fields of a stream that take part in chaining. -/
structure ChainedStream where
  name : Str
  mode : StreamMode
  nextStreamId : Option Int

/-- The position of the stream that follows, where the link is in range. -/
def linkTarget (stream : ChainedStream) (streams : List ChainedStream) : Option Nat :=
  match stream.nextStreamId with
  | none => none
  | some id => if id < 1 ∨ streams.length < id then none else some (id - 1).toNat

def nextStreamName (stream : ChainedStream) (streams : List ChainedStream) : Str :=
  match linkTarget stream streams with
  | none => text "-1"
  | some target => ((streams[target]?).map (·.name)).getD []

/-- The keys `name` and `next` of an entry. -/
structure StreamEntry where
  name : Str
  next : Option Str

def guiStreamEntry (stream : ChainedStream) (streams : List ChainedStream) : StreamEntry :=
  let nextStream :=
    if stream.mode ≠ .continuous then nextStreamName stream streams else text "-1"
  { name := stream.name, next := if nextStream ≠ text "-1" then some nextStream else none }

/-! ## Loading -/

/-- A loaded stream, before and after its link is resolved. -/
structure LoadedStream where
  name : Str
  nextStreamId : Option Nat
  nextName : Option Str

/-- `stream_from_gui_yaml`; a saved stream has no `next_stream_id`. -/
def streamFromGuiYaml (entry : StreamEntry) (index : Nat) : LoadedStream :=
  { name := cleanStreamName entry.name index, nextStreamId := none, nextName := entry.next }

/-- The dictionary `name_to_id` of `resolve_loaded_next_stream_ids`: of two streams with one name
the later stays. -/
def nameToId : (index : Nat) → List Str → Str → Option Nat
  | _, [], _ => none
  | index, first :: rest, name =>
      (nameToId (index + 1) rest name).or (if first = name then some (index + 1) else none)

/-- One round of `resolve_loaded_next_stream_ids`. -/
def resolveNext (names : List Str) (stream : LoadedStream) : LoadedStream :=
  match stream.nextName with
  | none => { stream with nextName := none }
  | some name =>
      if name ∉ [[], text "-1", text "None"] then
        { stream with nextStreamId := nameToId 0 names name, nextName := none }
      else { stream with nextName := none }

def resolveLoadedNextStreamIds (streams : List LoadedStream) : List LoadedStream :=
  streams.map (resolveNext (streams.map (·.name)))

def saveAndLoad (streams : List ChainedStream) : List LoadedStream :=
  resolveLoadedNextStreamIds
    ((streams.map fun stream => guiStreamEntry stream streams).mapIdx fun index entry =>
      streamFromGuiYaml entry index)

/-! ## Chaining -/

/-- The link that should be there after a load: that of a stream that ends, where it is in
range. -/
def expectedNext (stream : ChainedStream) (streams : List ChainedStream) : Option Nat :=
  if stream.mode ≠ .continuous then (linkTarget stream streams).map (· + 1) else none

def ChainingSurvives (streams : List ChainedStream) : Prop :=
  ∀ (index : Nat) (stream : ChainedStream), streams[index]? = some stream →
    ((saveAndLoad streams)[index]?).map LoadedStream.nextStreamId = some (expectedNext stream streams)

/-- The name at a position leads back to that position: it is not taken for the absence of a link,
it is read back as it was written, and no later stream is read back under it. -/
structure LeadsBack (streams : List ChainedStream) (target : Nat) (name : Str) : Prop where
  notSentinel : name ∉ [[], text "-1", text "None"]
  readBack : cleanStreamName name target = name
  last : ∀ (index : Nat) (stream : ChainedStream), target < index → streams[index]? = some stream →
    cleanStreamName stream.name index ≠ name

theorem nameToId_eq_none_iff {index : Nat} {names : List Str} {name : Str} :
    nameToId index names name = none ↔ name ∉ names := by
  induction names generalizing index with
  | nil => simp [nameToId]
  | cons first rest ih =>
      rw [nameToId, Option.or_eq_none_iff, ih, List.mem_cons, not_or, and_comm]
      simp [eq_comm]

theorem nameToId_eq_some_iff {index id : Nat} {names : List Str} {name : Str} :
    nameToId index names name = some id ↔ ∃ position, id = index + position + 1
      ∧ names[position]? = some name
      ∧ ∀ later other, position < later → names[later]? = some other → other ≠ name := by
  induction names generalizing index with
  | nil => simp [nameToId]
  | cons first rest ih =>
      rw [nameToId, Option.or_eq_some_iff, ih, nameToId_eq_none_iff]
      constructor
      · rintro (⟨position, rfl, hposition, hlast⟩ | ⟨hnone, hfirst⟩)
        · refine ⟨position + 1, by omega, by simpa using hposition, ?_⟩
          rintro (_ | later) other hlater hother
          · omega
          · exact hlast later other (by omega) (by simpa using hother)
        · split_ifs at hfirst with heq
          cases hfirst
          refine ⟨0, rfl, by simp [heq], ?_⟩
          rintro (_ | later) other hlater hother rfl
          · omega
          · rw [List.getElem?_cons_succ] at hother
            exact hnone (List.mem_of_getElem? hother)
      · rintro ⟨_ | position, rfl, hposition, hlast⟩
        · have hfirst : first = name := by simpa using hposition
          refine .inr ⟨?_, if_pos hfirst⟩
          intro hmem
          obtain ⟨later, hlater⟩ := List.getElem?_of_mem hmem
          exact hlast (later + 1) name (by omega) (by rwa [List.getElem?_cons_succ]) rfl
        · refine .inl ⟨position, by omega, by simpa using hposition, ?_⟩
          intro later other hlater hother
          exact hlast (later + 1) other (by omega) (by rwa [List.getElem?_cons_succ])

/-! ## The theorem -/

def loadedNames (streams : List ChainedStream) : List Str :=
  streams.mapIdx fun index stream => cleanStreamName stream.name index

theorem saveAndLoad_eq (streams : List ChainedStream) (index : Nat) :
    (saveAndLoad streams)[index]? = (streams[index]?).map fun stream =>
      resolveNext (loadedNames streams) (streamFromGuiYaml (guiStreamEntry stream streams) index) := by
  have hnames : ((streams.map fun stream => guiStreamEntry stream streams).mapIdx
      fun index entry => streamFromGuiYaml entry index).map (·.name) = loadedNames streams := by
    apply List.ext_getElem?
    intro position
    simp [loadedNames, streamFromGuiYaml, guiStreamEntry, Option.map_map, Function.comp_def]
  rw [saveAndLoad, resolveLoadedNextStreamIds, hnames]
  simp [Option.map_map, Function.comp_def]

theorem linkTarget_lt {stream : ChainedStream} {streams : List ChainedStream} {target : Nat}
    (h : linkTarget stream streams = some target) : target < streams.length := by
  unfold linkTarget at h
  split at h
  · simp at h
  · split_ifs at h with hrange
    cases h
    omega

theorem loadedLink (streams : List ChainedStream) (stream : ChainedStream) (index : Nat) :
    (resolveNext (loadedNames streams)
      (streamFromGuiYaml (guiStreamEntry stream streams) index)).nextStreamId =
      if stream.mode ≠ .continuous
        ∧ nextStreamName stream streams ∉ [[], text "-1", text "None"] then
        nameToId 0 (loadedNames streams) (nextStreamName stream streams)
      else none := by
  by_cases hmode : stream.mode = .continuous
  · simp [hmode, guiStreamEntry, streamFromGuiYaml, resolveNext]
  · by_cases hnone : nextStreamName stream streams = text "-1"
    · simp [hmode, hnone, guiStreamEntry, streamFromGuiYaml, resolveNext]
    · simp only [guiStreamEntry, streamFromGuiYaml, resolveNext, hmode, hnone, ne_eq,
        not_false_eq_true, if_true, true_and]
      split_ifs <;> rfl

theorem nextStreamName_eq {stream next : ChainedStream} {streams : List ChainedStream} {target : Nat}
    (h : linkTarget stream streams = some target) (hnext : streams[target]? = some next) :
    nextStreamName stream streams = next.name := by
  simp [nextStreamName, h, hnext]

theorem leadsBack_iff {streams : List ChainedStream} {target : Nat} {next : ChainedStream}
    (hnext : streams[target]? = some next) :
    LeadsBack streams target next.name ↔ next.name ∉ [[], text "-1", text "None"]
      ∧ nameToId 0 (loadedNames streams) next.name = some (target + 1) := by
  rw [nameToId_eq_some_iff]
  have hname : ∀ position : Nat, (loadedNames streams)[position]?
      = (streams[position]?).map fun stream => cleanStreamName stream.name position := by
    intro position
    simp [loadedNames]
  constructor
  · rintro ⟨hsentinel, hread, hlast⟩
    refine ⟨hsentinel, target, by omega, by rw [hname, hnext, Option.map_some, hread], ?_⟩
    intro later other hlater hother
    rw [hname] at hother
    obtain ⟨stream, hstream, rfl⟩ := Option.map_eq_some_iff.mp hother
    exact hlast later stream hlater hstream
  · rintro ⟨hsentinel, position, hposition, hat, hlast⟩
    have htarget : position = target := by omega
    subst htarget
    rw [hname, hnext, Option.map_some, Option.some.injEq] at hat
    refine ⟨hsentinel, hat, ?_⟩
    intro later stream hlater hstream
    exact hlast later _ hlater (by rw [hname, hstream, Option.map_some])

/-- Chaining survives exactly where the name of every stream that is linked to leads back to it. -/
theorem chainingSurvives_iff (streams : List ChainedStream) :
    ChainingSurvives streams ↔ ∀ stream ∈ streams, stream.mode ≠ .continuous →
      ∀ target next, linkTarget stream streams = some target → streams[target]? = some next →
        LeadsBack streams target next.name := by
  have hlink : ∀ (index : Nat) (stream : ChainedStream), streams[index]? = some stream →
      (((saveAndLoad streams)[index]?).map LoadedStream.nextStreamId
          = some (expectedNext stream streams) ↔
        (stream.mode ≠ .continuous → ∀ target next, linkTarget stream streams = some target →
          streams[target]? = some next → LeadsBack streams target next.name)) := by
    intro index stream hstream
    rw [saveAndLoad_eq, hstream, Option.map_some, Option.map_some, loadedLink, expectedNext,
      Option.some.injEq]
    by_cases hmode : stream.mode = .continuous
    · simp [hmode]
    · simp only [ne_eq, hmode, not_false_eq_true, true_and, if_true, forall_true_left]
      cases htarget : linkTarget stream streams with
      | none => simp [nextStreamName, htarget]
      | some target =>
          obtain ⟨next, hnext⟩ : ∃ next, streams[target]? = some next :=
            ⟨_, List.getElem?_eq_getElem (linkTarget_lt htarget)⟩
          rw [nextStreamName_eq htarget hnext, Option.map_some]
          constructor
          · intro hloaded target' next' htarget' hnext'
            cases htarget'
            cases hnext.symm.trans hnext'
            split_ifs at hloaded with hsentinel
            exact (leadsBack_iff hnext).mpr ⟨hsentinel, hloaded⟩
          · intro hleads
            obtain ⟨hsentinel, hid⟩ := (leadsBack_iff hnext).mp (hleads target next rfl hnext)
            rw [if_pos hsentinel, hid]
  constructor
  · intro hsurvives stream hmem
    obtain ⟨index, hindex⟩ := List.getElem?_of_mem hmem
    exact (hlink index stream hindex).mp (hsurvives index stream hindex)
  · intro hleads index stream hstream
    exact (hlink index stream hstream).mpr (hleads stream (List.mem_of_getElem? hstream))

/-- A stream chained to itself, and a later stream of the same name. -/
def twoOfOneName : List ChainedStream :=
  [⟨text "a", .burst, some 1⟩, ⟨text "a", .continuous, none⟩]

/-- The link is read back as one to the later stream. -/
theorem chaining_lost : ¬∀ streams, ChainingSurvives streams := by
  intro h
  have hlink := h twoOfOneName 0 ⟨text "a", .burst, some 1⟩ rfl
  revert hlink
  decide

end TrexWebui
