import Mathlib.Data.Rat.Floor
import Mathlib.Tactic.NormNum
import Mathlib.Tactic.Ring
import TrexWebui.Octets
import TrexWebui.RecordFraming

/-!
# Pcap files

`pcap_bytes_for_packets` writes a global header and one record for each packet;
`pcap_header` and `pcap_records` read such files of either byte order and either
resolution. A file that was cut behind its header is read as the records that are
wholly in it. Times are exact numbers here.
-/

namespace TrexWebui

open PyStr Octets RecordFraming

/-! ## Writing -/

/-- A record as the writer takes it: a packet that is no octet string, a time that is no number
and a wire length that is no integer are left out. -/
structure PcapRecord where
  packet : Option Bytes
  timestamp : Option ℚ
  wirelen : Option Int

namespace PcapRecord

def packetBytes (record : PcapRecord) : Bytes := record.packet.getD []

def time (record : PcapRecord) : ℚ := record.timestamp.getD 0

end PcapRecord

/-- `int(number)`: what is behind the point is cut off. -/
def pyInt (number : ℚ) : Int := number.num.tdiv number.den

/-- `struct.pack("<I", n)` -/
def packUnsigned (n : Int) : Option Bytes :=
  if 0 ≤ n ∧ n < 4294967296 then some (le32 n.toNat) else none

def le16 (n : Nat) : Bytes := [.ofNat n, .ofNat (n / 256)]

/-- `struct.pack("<IHHIIII", 0xA1B2C3D4, 2, 4, 0, 0, 65_535, 1)` -/
def pcapGlobalHeader : Bytes :=
  le32 0xA1B2C3D4 ++ le16 2 ++ le16 4 ++ le32 0 ++ le32 0 ++ le32 65535 ++ le32 1

/-- The two chunks of a record. A number that does not fit raises. -/
def pcapRecordChunks (record : PcapRecord) : Option Bytes := do
  let seconds := pyInt record.time
  let microseconds := pyInt ((record.time - seconds) * 1000000)
  let wirelen := record.wirelen.getD record.packetBytes.length
  let first ← packUnsigned seconds
  let second ← packUnsigned microseconds
  let third ← packUnsigned record.packetBytes.length
  let fourth ← packUnsigned wirelen
  return first ++ second ++ third ++ fourth ++ record.packetBytes

def pcapBytesForPackets (records : List PcapRecord) : Option Bytes := do
  let chunks ← records.mapM pcapRecordChunks
  return pcapGlobalHeader ++ chunks.flatten

/-! ## Reading -/

def profilePcapMaxBytes : Nat := 12000000

inductive Endian where
  | little
  | big
deriving DecidableEq, Repr

def Endian.word16 : Endian → Bytes → Nat → Nat
  | little, bytes, offset => octetAt bytes offset + octetAt bytes (offset + 1) * 256
  | big, bytes, offset => be16At bytes offset

def Endian.word32 : Endian → Bytes → Nat → Nat
  | little, bytes, offset => le32At bytes offset
  | big, bytes, offset => be32At bytes offset

/-- A refusal: the blocker and the error of a `TrexCallResult`. -/
structure PcapRefusal where
  blocker : String
  error : String
deriving DecidableEq, Repr

/-- The `magic_map`: byte order and ticks in a second. -/
def pcapMagic (magic : Bytes) : Option (Endian × Nat) :=
  if magic = [0xD4, 0xC3, 0xB2, 0xA1] then some (.little, 1000000)
  else if magic = [0xA1, 0xB2, 0xC3, 0xD4] then some (.big, 1000000)
  else if magic = [0x4D, 0x3C, 0xB2, 0xA1] then some (.little, 1000000000)
  else if magic = [0xA1, 0xB2, 0x3C, 0x4D] then some (.big, 1000000000)
  else none

def pcapHeader (pcapBytes : Bytes) : Except PcapRefusal (Endian × Nat × Nat) :=
  if pcapBytes.length < 24 then
    .error ⟨"profile_pcap_invalid", "pcap global header is truncated"⟩
  else if slice pcapBytes 0 4 = [0x0A, 0x0D, 0x0D, 0x0A] then
    .error ⟨"profile_pcapng_unsupported", "pcapng import is not supported"⟩
  else
    match pcapMagic (slice pcapBytes 0 4) with
    | none => .error ⟨"profile_pcap_invalid", "pcap magic is not recognized"⟩
    | some (endian, resolution) =>
        if endian.word16 pcapBytes 4 ≠ 2 ∨ endian.word16 pcapBytes 6 ≠ 4 then
          .error ⟨"profile_pcap_version_unsupported", "pcap version must be 2.4"⟩
        else .ok (endian, resolution, endian.word32 pcapBytes 20)

/-- The loop of `pcap_records`. An iteration goes on by 16 octets, so `fuel` does not run out. -/
def pcapRecordsLoop (pcapBytes : Bytes) (endian : Endian) (resolution : Nat) :
    (fuel offset : Nat) → List (Bytes × ℚ)
  | 0, _ => []
  | fuel + 1, offset =>
      if offset + 16 ≤ pcapBytes.length then
        let seconds := endian.word32 pcapBytes offset
        let fraction := endian.word32 pcapBytes (offset + 4)
        let includedLength := endian.word32 pcapBytes (offset + 8)
        if profilePcapMaxBytes < includedLength then []
        else
          let nextOffset := offset + 16 + includedLength
          if pcapBytes.length < nextOffset then []
          else (slice pcapBytes (offset + 16) includedLength, seconds + fraction / resolution)
            :: pcapRecordsLoop pcapBytes endian resolution fuel nextOffset
      else []

def pcapRecords (pcapBytes : Bytes) (endian : Endian) (resolution : Nat) : List (Bytes × ℚ) :=
  pcapRecordsLoop pcapBytes endian resolution pcapBytes.length 24

/-! ## The record format -/

/-- The first record of `input`. -/
def readRecord (endian : Endian) (resolution : Nat) (input : Bytes) : Option ((Bytes × ℚ) × Bytes) :=
  if input.length < 16 then none
  else
    let includedLength := endian.word32 input 8
    if profilePcapMaxBytes < includedLength ∨ input.length < 16 + includedLength then none
    else some ((slice input 16 includedLength,
      endian.word32 input 0 + endian.word32 input 4 / resolution), input.drop (16 + includedLength))

/-- Records as the writer writes them, and as the reader reads them. -/
def pcapFraming : Framing PcapRecord (Bytes × ℚ) UInt8 where
  write := fun record => (pcapRecordChunks record).getD []
  value := fun record => (record.packetBytes, record.time)
  read := readRecord .little 1000000

theorem word32_drop (endian : Endian) (bytes : Bytes) (n offset : Nat) :
    endian.word32 (bytes.drop n) offset = endian.word32 bytes (n + offset) := by
  cases endian with
  | little => simp only [Endian.word32, le32At, octetAt_drop, Nat.add_assoc]
  | big => exact be32At_drop bytes n offset

theorem pcapRecordsLoop_eq (bytes : Bytes) (fuel offset : Nat) :
    pcapRecordsLoop bytes .little 1000000 fuel offset
      = pcapFraming.readAll fuel (bytes.drop offset) := by
  induction fuel generalizing offset with
  | zero => rfl
  | succ fuel ih =>
      have hread : pcapFraming.read (bytes.drop offset)
          = readRecord .little 1000000 (bytes.drop offset) := rfl
      have hlength : (bytes.drop offset).length = bytes.length - offset := List.length_drop
      rw [pcapRecordsLoop, Framing.readAll, hread, readRecord]
      simp only [word32_drop, hlength, Nat.add_zero]
      by_cases hheader : offset + 16 ≤ bytes.length
      · have hroom : ¬bytes.length - offset < 16 := by omega
        rw [if_pos hheader, if_neg hroom]
        by_cases hlarge : profilePcapMaxBytes < Endian.word32 .little bytes (offset + 8)
        · rw [if_pos hlarge, if_pos (Or.inl hlarge)]
        · rw [if_neg hlarge]
          by_cases hcut : bytes.length < offset + 16 + Endian.word32 .little bytes (offset + 8)
          · rw [if_pos hcut, if_pos (Or.inr (by omega))]
          · have hfits : ¬bytes.length - offset < 16 + Endian.word32 .little bytes (offset + 8) := by
              omega
            rw [if_neg hcut, if_neg (not_or.mpr ⟨hlarge, hfits⟩)]
            simp only [slice, List.drop_drop, ih, Nat.add_assoc]
      · have hshort : bytes.length - offset < 16 := by omega
        rw [if_neg hheader, if_pos hshort]

/-! ## What is written is read -/

/-- A time of whole microseconds, and a packet that is read. -/
structure PcapRecord.Readable (record : PcapRecord) : Prop where
  size : record.packetBytes.length ≤ profilePcapMaxBytes
  time : ∃ microseconds : Int, record.time = microseconds / 1000000

theorem packUnsigned_some {n : Int} {chunk : Bytes} (h : packUnsigned n = some chunk) :
    ∃ value : Nat, n = value ∧ value < 4294967296 ∧ chunk = le32 value := by
  rw [packUnsigned] at h
  split at h
  · rename_i hrange
    cases h
    exact ⟨n.toNat, by omega, by omega, rfl⟩
  · cases h

theorem pyInt_intCast (n : Int) : pyInt n = n := by
  rw [pyInt, Rat.num_intCast, Rat.den_intCast]
  exact Int.tdiv_one n

theorem time_of_chunks {record : PcapRecord} (h : record.Readable) {seconds microseconds : Nat}
    (hseconds : pyInt record.time = seconds)
    (hmicroseconds : pyInt ((record.time - pyInt record.time) * 1000000) = microseconds) :
    (seconds : ℚ) + microseconds / (1000000 : Nat) = record.time := by
  obtain ⟨m, hm⟩ := h.time
  rw [hseconds] at hmicroseconds
  have hrest : (record.time - (seconds : Int)) * 1000000 = ((m - seconds * 1000000 : Int) : ℚ) := by
    rw [hm]
    push_cast
    ring
  rw [hrest, pyInt_intCast] at hmicroseconds
  have hcast : (m : ℚ) = seconds * 1000000 + microseconds := by
    have hsum : m = seconds * 1000000 + microseconds := by omega
    exact_mod_cast hsum
  rw [hm, hcast]
  push_cast
  ring

def recordHead (seconds microseconds length wirelen : Nat) : Bytes :=
  le32 seconds ++ le32 microseconds ++ le32 length ++ le32 wirelen

@[simp] theorem length_recordHead (seconds microseconds length wirelen : Nat) :
    (recordHead seconds microseconds length wirelen).length = 16 := rfl

theorem words_recordHead {seconds microseconds length : Nat} (wirelen : Nat) (tail : Bytes)
    (hseconds : seconds < 4294967296) (hmicroseconds : microseconds < 4294967296)
    (hlength : length < 4294967296) :
    le32At (recordHead seconds microseconds length wirelen ++ tail) 0 = seconds
      ∧ le32At (recordHead seconds microseconds length wirelen ++ tail) 4 = microseconds
      ∧ le32At (recordHead seconds microseconds length wirelen ++ tail) 8 = length := by
  have hfirst := le32At_write [] (le32 microseconds ++ (le32 length ++ (le32 wirelen ++ tail))) 0 rfl hseconds
  have hsecond := le32At_write (le32 seconds) (le32 length ++ (le32 wirelen ++ tail)) 4 rfl hmicroseconds
  have hthird := le32At_write (le32 seconds ++ le32 microseconds) (le32 wirelen ++ tail) 8 rfl hlength
  simp only [List.nil_append, List.append_assoc] at hfirst hsecond hthird
  simp only [recordHead, List.append_assoc]
  exact ⟨hfirst, hsecond, hthird⟩

theorem chunks_spec {record : PcapRecord} {chunk : Bytes} (h : pcapRecordChunks record = some chunk) :
    ∃ seconds microseconds wirelen : Nat, pyInt record.time = seconds
      ∧ pyInt ((record.time - pyInt record.time) * 1000000) = microseconds
      ∧ seconds < 4294967296 ∧ microseconds < 4294967296
      ∧ chunk = recordHead seconds microseconds record.packetBytes.length wirelen
        ++ record.packetBytes := by
  simp only [pcapRecordChunks, Option.bind_eq_bind, Option.bind_eq_some_iff, Option.pure_def,
    Option.some.injEq] at h
  obtain ⟨first, hfirst, second, hsecond, third, hthird, fourth, hfourth, rfl⟩ := h
  obtain ⟨seconds, hseconds, hlt, rfl⟩ := packUnsigned_some hfirst
  obtain ⟨microseconds, hmicroseconds, hlt', rfl⟩ := packUnsigned_some hsecond
  obtain ⟨length, hlength, -, rfl⟩ := packUnsigned_some hthird
  obtain ⟨wirelen, -, -, rfl⟩ := packUnsigned_some hfourth
  have hsame : record.packetBytes.length = length := by exact_mod_cast hlength
  exact ⟨seconds, microseconds, wirelen, hseconds, hmicroseconds, hlt, hlt', by rw [hsame]; rfl⟩

theorem write_of_chunks {record : PcapRecord} {chunk : Bytes} (h : pcapRecordChunks record = some chunk) :
    pcapFraming.write record = chunk := by
  show (pcapRecordChunks record).getD [] = chunk
  rw [h, Option.getD_some]

/-- Where the records are readable and can be written, the reader inverts the writer. -/
theorem pcapFraming_lawful : pcapFraming.Lawful
    fun record => record.Readable ∧ pcapRecordChunks record ≠ none where
  read_nil := rfl
  read_write := by
    rintro record ⟨hreadable, hsome⟩ rest
    obtain ⟨chunk, hchunk⟩ := Option.ne_none_iff_exists'.mp hsome
    obtain ⟨seconds, microseconds, wirelen, hseconds, hmicroseconds, hlt, hlt', hbytes⟩ :=
      chunks_spec hchunk
    have hsize := hreadable.size
    have hsmall : record.packetBytes.length < 4294967296 := by
      rw [profilePcapMaxBytes] at hsize
      omega
    obtain ⟨hfirst, hsecond, hthird⟩ := words_recordHead wirelen (record.packetBytes ++ rest) hlt hlt' hsmall
    have hread : ∀ input, pcapFraming.read input = readRecord .little 1000000 input := fun _ => rfl
    have hvalue : pcapFraming.value record = (record.packetBytes, record.time) := rfl
    rw [write_of_chunks hchunk, hbytes, List.append_assoc, hread, hvalue]
    have hlong : ¬(recordHead seconds microseconds record.packetBytes.length wirelen
        ++ (record.packetBytes ++ rest)).length < 16 := by
      rw [List.length_append, length_recordHead]
      omega
    have hfits : ¬(profilePcapMaxBytes < record.packetBytes.length
        ∨ (recordHead seconds microseconds record.packetBytes.length wirelen
          ++ (record.packetBytes ++ rest)).length < 16 + record.packetBytes.length) := by
      rw [List.length_append, List.length_append, length_recordHead]
      omega
    have htime := time_of_chunks hreadable hseconds hmicroseconds
    rw [readRecord, if_neg hlong]
    simp only [Endian.word32, hfirst, hsecond, hthird]
    rw [if_neg hfits, htime, ← List.drop_drop, List.drop_left' (length_recordHead _ _ _ _),
      List.drop_left, slice, List.drop_left' (length_recordHead _ _ _ _), List.take_left]
  read_short := by
    rintro record ⟨hreadable, hsome⟩ cut hcut hshort
    obtain ⟨chunk, hchunk⟩ := Option.ne_none_iff_exists'.mp hsome
    obtain ⟨seconds, microseconds, wirelen, -, -, hlt, hlt', hbytes⟩ := chunks_spec hchunk
    have hsize := hreadable.size
    have hsmall : record.packetBytes.length < 4294967296 := by
      rw [profilePcapMaxBytes] at hsize
      omega
    rw [write_of_chunks hchunk, hbytes] at hcut hshort
    show readRecord .little 1000000 cut = none
    rw [readRecord]
    by_cases hheader : cut.length < 16
    · rw [if_pos hheader]
    · -- the head is complete, the packet is not
      obtain ⟨tail, rfl⟩ := List.prefix_of_prefix_length_le (List.prefix_append _ _) hcut
        (show (recordHead seconds microseconds record.packetBytes.length wirelen).length ≤ cut.length by
          rw [length_recordHead]
          omega)
      obtain ⟨-, -, hthird⟩ := words_recordHead wirelen tail hlt hlt' hsmall
      rw [List.length_append, List.length_append, length_recordHead] at hshort
      have hmissing : (recordHead seconds microseconds record.packetBytes.length wirelen ++ tail).length
          < 16 + record.packetBytes.length := by
        rw [List.length_append, length_recordHead]
        omega
      rw [if_neg hheader]
      simp only [Endian.word32, hthird]
      rw [if_pos (Or.inr hmissing)]

/-! ## Cut files -/

theorem pcapBytes_eq {records : List PcapRecord} {file : Bytes}
    (h : pcapBytesForPackets records = some file) :
    file = pcapGlobalHeader ++ pcapFraming.writeAll records
      ∧ ∀ record ∈ records, pcapRecordChunks record ≠ none := by
  simp only [pcapBytesForPackets, Option.bind_eq_bind, Option.bind_eq_some_iff, Option.pure_def,
    Option.some.injEq] at h
  obtain ⟨chunks, hchunks, rfl⟩ := h
  have hall : chunks.flatten = pcapFraming.writeAll records
      ∧ ∀ record ∈ records, pcapRecordChunks record ≠ none := by
    induction records generalizing chunks with
    | nil =>
        cases hchunks
        exact ⟨rfl, fun record hrecord => by cases hrecord⟩
    | cons record records ih =>
        simp only [List.mapM_cons, Option.bind_eq_bind, Option.bind_eq_some_iff, Option.pure_def,
          Option.some.injEq] at hchunks
        obtain ⟨chunk, hchunk, rest, hrest, rfl⟩ := hchunks
        obtain ⟨hflatten, hwritten⟩ := ih rest hrest
        refine ⟨?_, ?_⟩
        · rw [List.flatten_cons, hflatten, Framing.writeAll, Framing.writeAll, List.flatMap_cons,
            write_of_chunks hchunk]
        · intro other hother
          rcases List.mem_cons.mp hother with rfl | hother
          · rw [hchunk]
            exact Option.some_ne_none chunk
          · exact hwritten other hother
  exact ⟨by rw [hall.1], hall.2⟩

theorem pcapBytes_of_chunks {records : List PcapRecord}
    (h : ∀ record ∈ records, pcapRecordChunks record ≠ none) :
    pcapBytesForPackets records = some (pcapGlobalHeader ++ pcapFraming.writeAll records) := by
  have hmap : records.mapM pcapRecordChunks = some (records.map pcapFraming.write) := by
    induction records with
    | nil => rfl
    | cons record records ih =>
        obtain ⟨chunk, hchunk⟩ := Option.ne_none_iff_exists'.mp (h record List.mem_cons_self)
        rw [List.mapM_cons, hchunk, ih fun r hr => h r (List.mem_cons_of_mem record hr)]
        show some (chunk :: records.map pcapFraming.write) = _
        rw [List.map_cons, write_of_chunks hchunk]
  rw [pcapBytesForPackets, hmap]
  show some (pcapGlobalHeader ++ (records.map pcapFraming.write).flatten) = _
  rw [Framing.writeAll, List.flatMap_def]

theorem pcapHeader_written (rest : Bytes) :
    pcapHeader (pcapGlobalHeader ++ rest) = .ok (.little, 1000000, 1) := by
  have hlong : ¬(pcapGlobalHeader ++ rest).length < 24 := by
    rw [List.length_append]
    show ¬24 + rest.length < 24
    omega
  have hmagic : slice (pcapGlobalHeader ++ rest) 0 4 = [0xD4, 0xC3, 0xB2, 0xA1] := rfl
  have hmap : pcapMagic [0xD4, 0xC3, 0xB2, 0xA1] = some (.little, 1000000) := rfl
  have hmajor : Endian.word16 .little (pcapGlobalHeader ++ rest) 4 = 2 := by
    show octetAt _ 4 + octetAt _ 5 * 256 = 2
    rw [octetAt_append_left rest (by decide), octetAt_append_left rest (by decide)]
    decide
  have hminor : Endian.word16 .little (pcapGlobalHeader ++ rest) 6 = 4 := by
    show octetAt _ 6 + octetAt _ 7 * 256 = 4
    rw [octetAt_append_left rest (by decide), octetAt_append_left rest (by decide)]
    decide
  have hlink : Endian.word32 .little (pcapGlobalHeader ++ rest) 20 = 1 :=
    le32At_write (pcapGlobalHeader.take 20) rest 20 rfl (by omega)
  rw [pcapHeader, if_neg hlong, hmagic, if_neg (by decide), hmap]
  simp only [hmajor, hminor, hlink, ne_eq, not_true_eq_false, or_self, if_false]

/-- Of a cut file the records that are wholly in it are read, in order. -/
theorem pcap_truncated (records : List PcapRecord)
    (hreadable : ∀ record ∈ records, record.Readable) {file cut : Bytes}
    (hfile : pcapBytesForPackets records = some file) (hcut : cut <+: file) (hlong : 24 ≤ cut.length) :
    pcapHeader cut = .ok (.little, 1000000, 1)
      ∧ ∃ k ≤ records.length,
        pcapRecords cut .little 1000000
          = (records.take k).map (fun record => (record.packetBytes, record.time))
        ∧ (∃ part, pcapBytesForPackets (records.take k) = some part ∧ part <+: cut)
        ∧ ∀ j ≤ records.length, ∀ part, pcapBytesForPackets (records.take j) = some part →
          part <+: cut → j ≤ k := by
  obtain ⟨rfl, hwritten⟩ := pcapBytes_eq hfile
  have hheader : pcapGlobalHeader.length = 24 := rfl
  obtain ⟨rest, rfl⟩ := List.prefix_of_prefix_length_le (List.prefix_append _ _) hcut
    (show pcapGlobalHeader.length ≤ cut.length by omega)
  have hrest := (List.prefix_append_right_inj _).mp hcut
  obtain ⟨k, hk, hread, hprefix, hlongest⟩ := pcapFraming_lawful.readAll_cut
    (fun record hrecord => ⟨hreadable record hrecord, hwritten record hrecord⟩) hrest
    (show rest.length ≤ (pcapGlobalHeader ++ rest).length by rw [List.length_append]; omega)
  refine ⟨pcapHeader_written rest, k, hk, ?_, ?_, ?_⟩
  · rw [pcapRecords, pcapRecordsLoop_eq, List.drop_left' hheader]
    exact hread
  · refine ⟨_, pcapBytes_of_chunks fun r hr => hwritten r (List.mem_of_mem_take hr), ?_⟩
    exact (List.prefix_append_right_inj _).mpr hprefix
  · intro j hj part hpart hinside
    obtain ⟨rfl, -⟩ := pcapBytes_eq hpart
    exact hlongest j hj ((List.prefix_append_right_inj _).mp hinside)

def twoRecords : List PcapRecord :=
  [⟨some [1, 2, 3], some (3 / 2), none⟩, ⟨some [4], none, some 60⟩]

theorem twoRecords_written : pcapBytesForPackets twoRecords
    = some (pcapGlobalHeader ++ (recordHead 1 500000 3 3 ++ [1, 2, 3]) ++ (recordHead 0 0 1 60 ++ [4])) := by
  decide +kernel

/-- The second packet is cut off. -/
theorem pcap_truncated_first : ∃ k ≤ twoRecords.length,
    pcapRecords (pcapGlobalHeader ++ (recordHead 1 500000 3 3 ++ [1, 2, 3]) ++ recordHead 0 0 1 60)
        .little 1000000
      = (twoRecords.take k).map (fun record => (record.packetBytes, record.time)) := by
  have hreadable : ∀ record ∈ twoRecords, record.Readable := by
    intro record hrecord
    simp only [twoRecords, List.mem_cons, List.not_mem_nil, or_false] at hrecord
    rcases hrecord with rfl | rfl
    · exact ⟨by decide, 1500000, by norm_num [PcapRecord.time]⟩
    · exact ⟨by decide, 0, by norm_num [PcapRecord.time]⟩
  have hcut : pcapGlobalHeader ++ (recordHead 1 500000 3 3 ++ [1, 2, 3]) ++ recordHead 0 0 1 60
      <+: pcapGlobalHeader ++ (recordHead 1 500000 3 3 ++ [1, 2, 3]) ++ (recordHead 0 0 1 60 ++ [4]) :=
    ⟨[4], by rw [List.append_assoc]⟩
  obtain ⟨-, k, hk, hread, -⟩ :=
    pcap_truncated twoRecords hreadable twoRecords_written hcut (by decide)
  exact ⟨k, hk, hread⟩

end TrexWebui
