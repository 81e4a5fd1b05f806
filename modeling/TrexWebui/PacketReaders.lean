import TrexWebui.OctetWrites

/-!
# Readers of packets

A reader looks at the octets of a packet, appends items to a list and calls
other readers. A read outside the packet is a fault. The items are kept with
the result, and so is how deep the calls nest.

`Runs p q m m' value depth` says that two readers run without a fault, each on
its packet, with one result. With one reader and one packet it says that the
reader never reads outside the packet; with two packets that begin alike, that
it does not look at the rest. Both come from one proof, which follows the
reader: an octet below the length on which the packets agree may be read.
-/

namespace PacketReader

open PyStr Octets

variable {ω α β : Type}

inductive Fault where
  /-- An octet that is not in the packet. -/
  | index
  /-- A loop or a recursion that was not given enough rounds. -/
  | rounds
  deriving DecidableEq

/-- A result, the items appended on the way, and the depth of the calls made. -/
structure Output (ω α : Type) where
  value : α
  items : List ω
  depth : Nat

def Reader (ω α : Type) : Type := Bytes → Except Fault (Output ω α)

/-! ## Readers -/

def done (a : α) : Reader ω α := fun _ => .ok ⟨a, [], 0⟩

def andThen (m : Reader ω α) (f : α → Reader ω β) : Reader ω β := fun packet =>
  match m packet with
  | .error fault => .error fault
  | .ok first =>
      match f first.value packet with
      | .error fault => .error fault
      | .ok second =>
          .ok ⟨second.value, first.items ++ second.items, max first.depth second.depth⟩

instance : Monad (Reader ω) where
  pure := done
  bind := andThen

def raise (fault : Fault) : Reader ω α := fun _ => .error fault

/-- `items.append(item)` -/
def append (item : ω) : Reader ω Unit := fun _ => .ok ⟨(), [item], 0⟩

def call (m : Reader ω α) : Reader ω α := fun packet =>
  match m packet with
  | .error fault => .error fault
  | .ok output => .ok { output with depth := output.depth + 1 }

/-- `len(packet)` -/
def size : Reader ω Nat := fun packet => .ok ⟨packet.length, [], 0⟩

/-- What `read` finds in the `count` octets from `offset` on. -/
def within (offset count : Nat) (read : Bytes → α) : Reader ω α := fun packet =>
  if offset + count ≤ packet.length then .ok ⟨read packet, [], 0⟩ else .error .index

/-- `packet[offset]` -/
def octet (offset : Nat) : Reader ω Nat := within offset 1 fun packet => octetAt packet offset

/-- `packet[offset : offset + count]` -/
def octets (offset count : Nat) : Reader ω Bytes :=
  within offset count fun packet => slice packet offset count

/-- `int.from_bytes(packet[offset : offset + 2], "big")` -/
def word (offset : Nat) : Reader ω Nat := within offset 2 fun packet => be16At packet offset

def word24 (offset : Nat) : Reader ω Nat :=
  within offset 3 fun packet => be16At packet offset * 256 + octetAt packet (offset + 2)

def word32 (offset : Nat) : Reader ω Nat := within offset 4 fun packet => be32At packet offset

def little32 (offset : Nat) : Reader ω Nat := within offset 4 fun packet => le32At packet offset

/-! ## One packet -/

/-- A reader that appends nothing and makes no call hands its value on. -/
theorem bind_apply {m : Reader ω α} {f : α → Reader ω β} {packet : Bytes} {a : α}
    (hm : m packet = .ok ⟨a, [], 0⟩) : (m >>= f) packet = f a packet := by
  change andThen m f packet = _
  unfold andThen
  rw [hm]
  dsimp only
  rcases f a packet with fault | output
  · rfl
  · simp only [List.nil_append, Nat.zero_max]

theorem size_bind (f : Nat → Reader ω β) (packet : Bytes) :
    (size >>= f) packet = f packet.length packet := bind_apply rfl

theorem within_bind {offset count : Nat} {read : Bytes → α} {packet : Bytes} (f : α → Reader ω β)
    (hle : offset + count ≤ packet.length) :
    (within offset count read >>= f) packet = f (read packet) packet :=
  bind_apply (if_pos hle)

/-! ## Packets that begin alike -/

/-- The packets are at least `n` long and have the same first `n` octets. -/
structure Agree (n : Nat) (p q : Bytes) : Prop where
  left : n ≤ p.length
  right : n ≤ q.length
  take : p.take n = q.take n

def Ended (n : Nat) (p q : Bytes) : Prop := p.length = n ∧ q.length = n

theorem Agree.refl (p : Bytes) : Agree p.length p p := ⟨le_refl _, le_refl _, rfl⟩

theorem Agree.append (p back : Bytes) : Agree p.length p (p ++ back) := by
  refine ⟨le_refl _, ?_, ?_⟩
  · rw [List.length_append]
    exact Nat.le_add_right _ _
  · rw [List.take_length, List.take_left]

section

variable {n : Nat} {p q : Bytes}

theorem Agree.octetAt (h : Agree n p q) {offset : Nat} (hlt : offset < n) :
    octetAt p offset = octetAt q offset := by
  have htake : ∀ {r : Bytes}, Octets.octetAt r offset = Octets.octetAt (r.take n) offset := by
    intro r
    simp [Octets.octetAt, List.getD_eq_getElem?_getD, hlt]
  rw [htake, h.take, ← htake]

theorem Agree.slice (h : Agree n p q) {offset count : Nat} (hle : offset + count ≤ n) :
    slice p offset count = slice q offset count := by
  have htake : ∀ {r : Bytes}, Octets.slice r offset count = Octets.slice (r.take n) offset count := by
    intro r
    rw [Octets.slice, Octets.slice, List.drop_take, List.take_take, Nat.min_eq_left (by omega)]
  rw [htake, h.take, ← htake]

theorem Agree.be16At (h : Agree n p q) {offset : Nat} (hle : offset + 2 ≤ n) :
    be16At p offset = be16At q offset := by
  rw [Octets.be16At, Octets.be16At, h.octetAt (by omega), h.octetAt (by omega)]

theorem Agree.be32At (h : Agree n p q) {offset : Nat} (hle : offset + 4 ≤ n) :
    be32At p offset = be32At q offset := by
  rw [Octets.be32At, Octets.be32At, h.be16At (by omega), h.be16At (by omega)]

/-! ## Running on two packets -/

variable {m m' : Reader ω α} {f f' : α → Reader ω β} {a : α} {b : β} {c d : Nat}

/-- Each reader runs on its packet, both with one result, in which calls nest `depth` deep. -/
def Runs (p q : Bytes) (m m' : Reader ω α) (value : α) (depth : Nat) : Prop :=
  ∃ items, m p = .ok ⟨value, items, depth⟩ ∧ m' q = .ok ⟨value, items, depth⟩

def Plain (p q : Bytes) (m m' : Reader ω α) : Prop := ∃ value, Runs p q m m' value 0

theorem Runs.plain (h : Runs p q m m' a 0) : Plain p q m m' := ⟨a, h⟩

theorem Plain.runs {m m' : Reader ω Unit} (h : Plain p q m m') : Runs p q m m' () 0 := by
  obtain ⟨value, hvalue⟩ := h
  exact hvalue

theorem Runs.pure (a : α) : Runs p q (pure a : Reader ω α) (pure a) a 0 := ⟨[], rfl, rfl⟩

theorem Runs.append (item : ω) : Runs p q (append item) (append item) () 0 := ⟨[item], rfl, rfl⟩

theorem Runs.bindMax (hm : Runs p q m m' a c) (hf : Runs p q (f a) (f' a) b d) :
    Runs p q (m >>= f) (m' >>= f') b (max c d) := by
  obtain ⟨first, hleft, hright⟩ := hm
  obtain ⟨second, hnext, hnext'⟩ := hf
  refine ⟨first ++ second, ?_, ?_⟩
  · change andThen m f p = _
    simp only [andThen, hleft, hnext]
  · change andThen m' f' q = _
    simp only [andThen, hright, hnext']

theorem Runs.bind (hm : Runs p q m m' a 0) (hf : Runs p q (f a) (f' a) b d) :
    Runs p q (m >>= f) (m' >>= f') b d := by
  have h := hm.bindMax hf
  rwa [Nat.zero_max] at h

theorem Runs.bindLast (hm : Runs p q m m' a d) (hf : Runs p q (f a) (f' a) b 0) :
    Runs p q (m >>= f) (m' >>= f') b d := by
  have h := hm.bindMax hf
  rwa [Nat.max_zero] at h

theorem Runs.bindPlain (hm : Runs p q m m' a 0) (hf : Plain p q (f a) (f' a)) :
    Plain p q (m >>= f) (m' >>= f') := by
  obtain ⟨value, hvalue⟩ := hf
  exact ⟨value, hm.bind hvalue⟩

theorem Plain.bind (hm : Plain p q m m') (hf : ∀ a, Plain p q (f a) (f' a)) :
    Plain p q (m >>= f) (m' >>= f') := by
  obtain ⟨value, hvalue⟩ := hm
  exact hvalue.bindPlain (hf value)

theorem Plain.pure (a : α) : Plain p q (pure a : Reader ω α) (pure a) := (Runs.pure a).plain

theorem Plain.append (item : ω) : Plain p q (append item) (append item) := (Runs.append item).plain

theorem Runs.call (h : Runs p q m m' a d) : Runs p q (call m) (call m') a (d + 1) := by
  obtain ⟨items, hleft, hright⟩ := h
  refine ⟨items, ?_, ?_⟩
  · simp only [PacketReader.call, hleft]
  · simp only [PacketReader.call, hright]

theorem Runs.ite {u v : Prop} [Decidable u] [Decidable v] {k k' : Reader ω α} (huv : u ↔ v)
    (hm : u → Runs p q m m' a d) (hk : ¬u → Runs p q k k' a d) :
    Runs p q (if u then m else k) (if v then m' else k') a d := by
  by_cases hu : u
  · rw [if_pos hu, if_pos (huv.mp hu)]
    exact hm hu
  · rw [if_neg hu, if_neg (fun hv => hu (huv.mpr hv))]
    exact hk hu

theorem Plain.ite {u v : Prop} [Decidable u] [Decidable v] {k k' : Reader ω α} (huv : u ↔ v)
    (hm : u → Plain p q m m') (hk : ¬u → Plain p q k k') :
    Plain p q (if u then m else k) (if v then m' else k') := by
  by_cases hu : u
  · rw [if_pos hu, if_pos (huv.mp hu)]
    exact hm hu
  · rw [if_neg hu, if_neg (fun hv => hu (huv.mpr hv))]
    exact hk hu

theorem Runs.size {f f' : Nat → Reader ω β} (h : Runs p q (f p.length) (f' q.length) b d) :
    Runs p q (size >>= f) (size >>= f') b d := by
  obtain ⟨items, hleft, hright⟩ := h
  exact ⟨items, (size_bind f p).trans hleft, (size_bind f' q).trans hright⟩

theorem Plain.size {f f' : Nat → Reader ω β} (h : Plain p q (f p.length) (f' q.length)) :
    Plain p q (size >>= f) (size >>= f') := by
  obtain ⟨value, hvalue⟩ := h
  exact ⟨value, .size hvalue⟩

/-! ## Octets on which the packets agree -/

theorem Runs.within (h : Agree n p q) {offset count : Nat} (hle : offset + count ≤ n)
    {read : Bytes → α} (hread : read p = read q) :
    Runs p q (within offset count read : Reader ω α) (within offset count read) (read p) 0 := by
  have hleft : offset + count ≤ p.length := hle.trans h.left
  have hright : offset + count ≤ q.length := hle.trans h.right
  refine ⟨[], ?_, ?_⟩
  · simp only [PacketReader.within, if_pos hleft]
  · simp only [PacketReader.within, if_pos hright, hread]

theorem Runs.octet (h : Agree n p q) {offset : Nat} (hlt : offset < n) :
    Runs p q (octet offset : Reader ω Nat) (octet offset) (octetAt p offset) 0 :=
  Runs.within h hlt (h.octetAt hlt)

theorem Runs.octets (h : Agree n p q) {offset count : Nat} (hle : offset + count ≤ n) :
    Runs p q (octets offset count : Reader ω Bytes) (octets offset count)
      (slice p offset count) 0 :=
  Runs.within h hle (h.slice hle)

theorem Runs.word (h : Agree n p q) {offset : Nat} (hle : offset + 2 ≤ n) :
    Runs p q (word offset : Reader ω Nat) (word offset) (be16At p offset) 0 :=
  Runs.within h hle (h.be16At hle)

theorem Plain.word24 (h : Agree n p q) {offset : Nat} (hle : offset + 3 ≤ n) :
    Plain p q (word24 offset : Reader ω Nat) (word24 offset) := by
  refine (Runs.within h hle ?_).plain
  rw [h.be16At (by omega), h.octetAt (by omega)]

theorem Runs.word32 (h : Agree n p q) {offset : Nat} (hle : offset + 4 ≤ n) :
    Runs p q (word32 offset : Reader ω Nat) (word32 offset) (be32At p offset) 0 :=
  Runs.within h hle (h.be32At hle)

theorem Plain.little32 (h : Agree n p q) {offset : Nat} (hle : offset + 4 ≤ n) :
    Plain p q (little32 offset : Reader ω Nat) (little32 offset) := by
  refine (Runs.within h hle ?_).plain
  rw [le32At, le32At, h.octetAt (by omega), h.octetAt (by omega), h.octetAt (by omega),
    h.octetAt (by omega)]

/-! ## Items that are related -/

/-- A relation of lists that stays when both are extended alike. -/
class Steady (R : List ω → List ω → Prop) : Prop where
  front : ∀ (pre : List ω) {l l' : List ω}, R l l' → R (pre ++ l) (pre ++ l')
  back : ∀ (post : List ω) {l l' : List ω}, R l l' → R (l ++ post) (l' ++ post)

instance : Steady (Eq : List ω → List ω → Prop) where
  front := by
    rintro pre l _ rfl
    rfl
  back := by
    rintro post l _ rfl
    rfl

def Differ (l l' : List ω) : Prop :=
  ∃ pre x y rest rest', x ≠ y ∧ l = pre ++ x :: rest ∧ l' = pre ++ y :: rest'

instance : Steady (Differ : List ω → List ω → Prop) where
  front := by
    rintro front _ _ ⟨pre, x, y, rest, rest', hne, rfl, rfl⟩
    refine ⟨front ++ pre, x, y, rest, rest', hne, ?_, ?_⟩
    · rw [List.append_assoc]
    · rw [List.append_assoc]
  back := by
    rintro back _ _ ⟨pre, x, y, rest, rest', hne, rfl, rfl⟩
    refine ⟨pre, x, y, rest ++ back, rest' ++ back, hne, ?_, ?_⟩
    · rw [List.append_assoc, List.cons_append]
    · rw [List.append_assoc, List.cons_append]

theorem Differ.ne {l l' : List ω} (h : Differ l l') : l ≠ l' := by
  obtain ⟨pre, x, y, rest, rest', hne, rfl, rfl⟩ := h
  intro heq
  have htail := List.append_cancel_left heq
  exact hne (List.cons.inj htail).1

/-- Each reader runs on its packet, with one value and with items that are related; the depth is that
of the first. -/
def Relates (R : List ω → List ω → Prop) (p q : Bytes) (m m' : Reader ω α) (value : α) (depth : Nat) :
    Prop :=
  ∃ items items' depth', m p = .ok ⟨value, items, depth⟩ ∧ m' q = .ok ⟨value, items', depth'⟩
    ∧ R items items'

section

variable {R : List ω → List ω → Prop}

theorem Runs.relates (h : Runs p q m m' a d) (hR : ∀ l, R l l) : Relates R p q m m' a d := by
  obtain ⟨items, hleft, hright⟩ := h
  exact ⟨items, items, d, hleft, hright, hR items⟩

theorem Relates.call (h : Relates R p q m m' a d) : Relates R p q (call m) (call m') a (d + 1) := by
  obtain ⟨items, items', depth', hleft, hright, hitems⟩ := h
  refine ⟨items, items', depth' + 1, ?_, ?_, hitems⟩
  · simp only [PacketReader.call, hleft]
  · simp only [PacketReader.call, hright]

theorem Relates.size {f f' : Nat → Reader ω β} (h : Relates R p q (f p.length) (f' q.length) b d) :
    Relates R p q (size >>= f) (size >>= f') b d := by
  obtain ⟨items, items', depth', hleft, hright, hitems⟩ := h
  exact ⟨items, items', depth', (size_bind f p).trans hleft, (size_bind f' q).trans hright, hitems⟩

theorem Relates.ite {u v : Prop} [Decidable u] [Decidable v] {k k' : Reader ω α} (huv : u ↔ v)
    (hm : u → Relates R p q m m' a d) (hk : ¬u → Relates R p q k k' a d) :
    Relates R p q (if u then m else k) (if v then m' else k') a d := by
  by_cases hu : u
  · rw [if_pos hu, if_pos (huv.mp hu)]
    exact hm hu
  · rw [if_neg hu, if_neg (fun hv => hu (huv.mpr hv))]
    exact hk hu

variable [Steady R]

theorem Relates.bindMax (hm : Relates Eq p q m m' a c) (hf : Relates R p q (f a) (f' a) b d) :
    Relates R p q (m >>= f) (m' >>= f') b (max c d) := by
  obtain ⟨first, _, depth, hleft, hright, rfl⟩ := hm
  obtain ⟨second, second', depth', hnext, hnext', hitems⟩ := hf
  refine ⟨first ++ second, first ++ second', max depth depth', ?_, ?_, Steady.front first hitems⟩
  · change andThen m f p = _
    simp only [andThen, hleft, hnext]
  · change andThen m' f' q = _
    simp only [andThen, hright, hnext']

theorem Relates.bind (hm : Runs p q m m' a 0) (hf : Relates R p q (f a) (f' a) b d) :
    Relates R p q (m >>= f) (m' >>= f') b d := by
  have h := Relates.bindMax (hm.relates fun _ => rfl) hf
  rwa [Nat.zero_max] at h

theorem Relates.bindLast (hm : Relates R p q m m' a d) (hf : Runs p q (f a) (f' a) b 0) :
    Relates R p q (m >>= f) (m' >>= f') b d := by
  obtain ⟨first, first', depth', hleft, hright, hitems⟩ := hm
  obtain ⟨second, hnext, hnext'⟩ := hf
  refine ⟨first ++ second, first' ++ second, depth', ?_, ?_, Steady.back second hitems⟩
  · change andThen m f p = _
    simp only [andThen, hleft, hnext, Nat.max_zero]
  · change andThen m' f' q = _
    simp only [andThen, hright, hnext', Nat.max_zero]

end

/-! ## Telling packets apart -/

/-- Where both readers run, they append the same items and their values are related. -/
def Values (p q : Bytes) (m m' : Reader ω α) (V : α → α → Prop) : Prop :=
  ∀ output output', m p = .ok output → m' q = .ok output' →
    output.items = output'.items ∧ V output.value output'.value

def Parts (p q : Bytes) (m m' : Reader ω α) : Prop :=
  ∀ output output', m p = .ok output → m' q = .ok output' → Differ output.items output'.items

def Silent (q : Bytes) (m : Reader ω α) : Prop := ∀ output, m q = .ok output → output.items = []

theorem Parts.relates {v : α} {d' : Nat} (h : Parts p q m m') (hp : Relates Eq p p m m v d)
    (hq : Relates Eq q q m' m' v d') : Relates Differ p q m m' v d := by
  obtain ⟨items, -, -, hleft, -⟩ := hp
  obtain ⟨items', -, -, hright, -⟩ := hq
  exact ⟨items, items', d', hleft, hright, h _ _ hleft hright⟩

theorem bind_eq_ok {r : Bytes} {output : Output ω β} (h : (m >>= f) r = .ok output) :
    ∃ first second, m r = .ok first ∧ f first.value r = .ok second
      ∧ output.items = first.items ++ second.items ∧ output.value = second.value := by
  change andThen m f r = _ at h
  unfold andThen at h
  rcases hfirst : m r with fault | first
  · rw [hfirst] at h
    cases h
  rw [hfirst] at h
  dsimp only at h
  rcases hsecond : f first.value r with fault | second
  · rw [hsecond] at h
    cases h
  rw [hsecond] at h
  cases h
  exact ⟨first, second, rfl, hsecond, rfl, rfl⟩

theorem call_eq_ok {r : Bytes} {output : Output ω α} (h : call m r = .ok output) :
    ∃ inner, m r = .ok inner ∧ output.items = inner.items ∧ output.value = inner.value := by
  unfold PacketReader.call at h
  rcases hinner : m r with fault | inner
  · rw [hinner] at h
    cases h
  · rw [hinner] at h
    cases h
    exact ⟨inner, rfl, rfl, rfl⟩

theorem Differ.extend {l l' : List ω} (h : Differ l l') (back back' : List ω) :
    Differ (l ++ back) (l' ++ back') := by
  obtain ⟨pre, x, y, rest, rest', hne, rfl, rfl⟩ := h
  refine ⟨pre, x, y, rest ++ back, rest' ++ back', hne, ?_, ?_⟩
  · rw [List.append_assoc, List.cons_append]
  · rw [List.append_assoc, List.cons_append]

theorem Parts.append {x y : ω} (hne : x ≠ y) : Parts p q (append x) (append y) := by
  intro output output' hleft hright
  cases hleft
  cases hright
  exact ⟨[], x, y, [], [], hne, rfl, rfl⟩

theorem Parts.call (h : Parts p q m m') : Parts p q (call m) (call m') := by
  intro output output' hleft hright
  obtain ⟨inner, hinner, hitems, -⟩ := call_eq_ok hleft
  obtain ⟨inner', hinner', hitems', -⟩ := call_eq_ok hright
  rw [hitems, hitems']
  exact h _ _ hinner hinner'

theorem Parts.size {f f' : Nat → Reader ω β} (h : Parts p q (f p.length) (f' q.length)) :
    Parts p q (size >>= f) (size >>= f') := by
  intro output output' hleft hright
  rw [size_bind] at hleft hright
  exact h _ _ hleft hright

theorem Parts.bind (hm : Runs p q m m' a c) (hf : Parts p q (f a) (f' a)) :
    Parts p q (m >>= f) (m' >>= f') := by
  intro output output' hleft hright
  obtain ⟨items, hm, hm'⟩ := hm
  obtain ⟨first, second, hfirst, hsecond, hitems, -⟩ := bind_eq_ok hleft
  obtain ⟨first', second', hfirst', hsecond', hitems', -⟩ := bind_eq_ok hright
  rw [hm] at hfirst
  rw [hm'] at hfirst'
  cases hfirst
  cases hfirst'
  rw [hitems, hitems']
  exact Steady.front items (hf _ _ hsecond hsecond')

theorem Parts.bindRight {f' : β → Reader ω α} {k : Reader ω β} (hk : Silent q k)
    (hf : ∀ b, Parts p q m (f' b)) : Parts p q m (k >>= f') := by
  intro output output' hleft hright
  obtain ⟨first, second, hfirst, hsecond, hitems, -⟩ := bind_eq_ok hright
  rw [hitems, hk _ hfirst, List.nil_append]
  exact hf _ _ _ hleft hsecond

theorem Parts.goesOn {f' : α → Reader ω α} (h : Parts p q m m') : Parts p q m (m' >>= f') := by
  intro output output' hleft hright
  obtain ⟨first, second, hfirst, hsecond, hitems, -⟩ := bind_eq_ok hright
  have hdiffer := (h _ _ hleft hfirst).extend [] second.items
  rw [List.append_nil] at hdiffer
  rw [hitems]
  exact hdiffer

theorem Parts.bindLast {f f' : α → Reader ω β} (h : Parts p q m m') :
    Parts p q (m >>= f) (m' >>= f') := by
  intro output output' hleft hright
  obtain ⟨first, second, hfirst, -, hitems, -⟩ := bind_eq_ok hleft
  obtain ⟨first', second', hfirst', -, hitems', -⟩ := bind_eq_ok hright
  rw [hitems, hitems']
  exact (h _ _ hfirst hfirst').extend _ _

theorem Parts.bindValues {V : α → α → Prop} (hm : Values p q m m' V)
    (hf : ∀ a b, V a b → Parts p q (f a) (f' b)) : Parts p q (m >>= f) (m' >>= f') := by
  intro output output' hleft hright
  obtain ⟨first, second, hfirst, hsecond, hitems, -⟩ := bind_eq_ok hleft
  obtain ⟨first', second', hfirst', hsecond', hitems', -⟩ := bind_eq_ok hright
  obtain ⟨hsame, hvalues⟩ := hm _ _ hfirst hfirst'
  rw [hitems, hitems', hsame]
  exact Steady.front _ (hf _ _ hvalues _ _ hsecond hsecond')

theorem Values.pure {V : α → α → Prop} {a b : α} (hV : V a b) :
    Values p q (pure a : Reader ω α) (pure b) V := by
  intro output output' hleft hright
  cases hleft
  cases hright
  exact ⟨rfl, hV⟩

theorem Values.size {V : β → β → Prop} {f f' : Nat → Reader ω β}
    (h : Values p q (f p.length) (f' q.length) V) : Values p q (size >>= f) (size >>= f') V := by
  intro output output' hleft hright
  rw [size_bind] at hleft hright
  exact h _ _ hleft hright

theorem Values.bind {V : β → β → Prop} (hm : Runs p q m m' a c)
    (hf : Values p q (f a) (f' a) V) : Values p q (m >>= f) (m' >>= f') V := by
  intro output output' hleft hright
  obtain ⟨items, hm, hm'⟩ := hm
  obtain ⟨first, second, hfirst, hsecond, hitems, hvalue⟩ := bind_eq_ok hleft
  obtain ⟨first', second', hfirst', hsecond', hitems', hvalue'⟩ := bind_eq_ok hright
  rw [hm] at hfirst
  rw [hm'] at hfirst'
  cases hfirst
  cases hfirst'
  obtain ⟨hsame, hvalues⟩ := hf _ _ hsecond hsecond'
  rw [hitems, hitems', hvalue, hvalue', hsame]
  exact ⟨rfl, hvalues⟩

theorem Values.bindRight {V : α → α → Prop} {f' : β → Reader ω α} {k : Reader ω β}
    (hk : Silent q k) (hf : ∀ b, Values p q m (f' b) V) : Values p q m (k >>= f') V := by
  intro output output' hleft hright
  obtain ⟨first, second, hfirst, hsecond, hitems, hvalue⟩ := bind_eq_ok hright
  rw [hitems, hk _ hfirst, List.nil_append, hvalue]
  exact hf _ _ _ hleft hsecond

theorem Values.readRight {V : α → α → Prop} {f' : β → Reader ω α} {offset count : Nat}
    {read : Bytes → β} (hle : offset + count ≤ q.length) (hf : Values p q m (f' (read q)) V) :
    Values p q m (PacketReader.within offset count read >>= f') V := by
  intro output output' hleft hright
  rw [within_bind _ hle] at hright
  exact hf _ _ hleft hright

theorem Values.bindValues {V : α → α → Prop} {W : β → β → Prop} (hm : Values p q m m' V)
    (hf : ∀ a b, V a b → Values p q (f a) (f' b) W) : Values p q (m >>= f) (m' >>= f') W := by
  intro output output' hleft hright
  obtain ⟨first, second, hfirst, hsecond, hitems, hvalue⟩ := bind_eq_ok hleft
  obtain ⟨first', second', hfirst', hsecond', hitems', hvalue'⟩ := bind_eq_ok hright
  obtain ⟨hsame, hvalues⟩ := hm _ _ hfirst hfirst'
  obtain ⟨hsame', hvalues'⟩ := hf _ _ hvalues _ _ hsecond hsecond'
  rw [hitems, hitems', hvalue, hvalue', hsame, hsame']
  exact ⟨rfl, hvalues'⟩

theorem Silent.within {offset count : Nat} {read : Bytes → α} :
    Silent q (within offset count read : Reader ω α) := by
  intro output h
  unfold PacketReader.within at h
  split_ifs at h
  cases h
  rfl

theorem Silent.pure (a : α) : Silent q (pure a : Reader ω α) := by
  intro output h
  cases h
  rfl

theorem Silent.bind (hm : Silent q m) (hf : ∀ a, Silent q (f a)) : Silent q (m >>= f) := by
  intro output h
  obtain ⟨first, second, hfirst, hsecond, hitems, -⟩ := bind_eq_ok h
  rw [hitems, hm _ hfirst, hf _ _ hsecond]
  rfl

theorem Silent.size {f : Nat → Reader ω β} (h : Silent q (f q.length)) : Silent q (size >>= f) := by
  intro output houtput
  rw [size_bind] at houtput
  exact h _ houtput

theorem Silent.ite {u : Prop} [Decidable u] {k : Reader ω α} (hm : Silent q m) (hk : Silent q k) :
    Silent q (if u then m else k) := by
  by_cases hu : u
  · rw [if_pos hu]
    exact hm
  · rw [if_neg hu]
    exact hk

end

end PacketReader
