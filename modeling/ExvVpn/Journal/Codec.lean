import ExvVpn.Basic
import ExvVpn.Tools.BigEndian
import ExvVpn.Tools.Incremental

/-! # The journal frame codec

The codec of `exv-vpn-resource`. A journal file is a sequence of frames, each of a version byte, a big-endian sequence number
and payload length, the digest of the previous record, the payload and the record's own digest. The hash function is a
parameter: nothing is assumed of it. -/

namespace ExvVpn.Journal

open Incremental BigEndian List Verdict

abbrev Digest := {d : Bytes // d.length = 32}

/-- The hash function, from any bytes to a digest. -/
abbrev Hash := Bytes → Digest

/-- The frame format version. -/
def journalVersion : UInt8 := 1

/-- The largest payload the decoder accepts. -/
def maxPayloadLen : Nat := 1 <<< 20

/-- Length of a frame up to its payload. -/
def headerLen : Nat := 45

def digestLen : Nat := 32

/-- The digest in front of the first record. -/
def zeroDigest : Digest := ⟨replicate 32 0, rfl⟩

structure JournalRecord where
  sequence : UInt64
  payload : Bytes
  previousDigest : Digest
  digest : Digest
  deriving DecidableEq

/-- The fixed-size fields in front of a payload. -/
structure FrameHeader where
  version : UInt8
  sequence : UInt64
  payloadLen : UInt32
  previousDigest : Digest
  deriving DecidableEq

def FrameHeader.toBytes (h : FrameHeader) : Bytes :=
  h.version :: (BigEndian.toBytes 8 h.sequence.toNat ++ (BigEndian.toBytes 4 h.payloadLen.toNat ++ h.previousDigest.1))

/-- The header a record is written with; the payload length is cut to 32 bits. -/
def headerOf (sequence : UInt64) (previousDigest : Digest) (payload : Bytes) : FrameHeader :=
  ⟨journalVersion, sequence, UInt32.ofNat payload.length, previousDigest⟩

variable (H : Hash)

/-- The digest of a record: over its header and its payload. -/
def recordDigest (sequence : UInt64) (previousDigest : Digest) (payload : Bytes) : Digest :=
  H ((headerOf sequence previousDigest payload).toBytes ++ payload)

def JournalRecord.new (sequence : UInt64) (previousDigest : Digest) (payload : Bytes) : JournalRecord :=
  ⟨sequence, payload, previousDigest, recordDigest H sequence previousDigest payload⟩

def encode (record : JournalRecord) : Bytes :=
  (headerOf record.sequence record.previousDigest record.payload).toBytes ++ (record.payload ++ record.digest.1)

/-! ## The chain of records -/

/-- Why a chain is refused. -/
inductive ChainError where
  | sequenceGap (index : Nat) (expected found : UInt64)
  | digestMismatch (index : Nat)
  deriving DecidableEq

/-- The loop of `verify_chain`: the records from index `i` on, behind `before`. -/
def verifyLinks (H : Hash) : Nat → JournalRecord → List JournalRecord → Except ChainError Unit
  | _, _, [] => .ok ()
  | i, before, record :: rest =>
    if record.sequence ≠ UInt64.ofNat i then .error (.sequenceGap i (UInt64.ofNat i) record.sequence)
    else if record.previousDigest ≠ before.digest ∨
        record.digest ≠ recordDigest H record.sequence record.previousDigest record.payload then .error (.digestMismatch i)
    else verifyLinks H (i + 1) record rest

/-- `verify_chain`. The digest of the first record is computed for sequence 0; its own sequence is not looked at. -/
def verifyChain : List JournalRecord → Except ChainError Unit
  | [] => .ok ()
  | first :: rest =>
    if first.previousDigest ≠ zeroDigest ∨ first.digest ≠ recordDigest H 0 zeroDigest first.payload then
      .error (.digestMismatch 0)
    else verifyLinks H 1 first rest

/-! ## Reading -/

/-- The result of reading a whole journal. -/
inductive DecodeOutcome where
  | clean (records : List JournalRecord)
  | tornTail (records : List JournalRecord)
  | corrupt (recovered : List JournalRecord) (offset : Nat)
  deriving DecidableEq

/-- The header at the front of some bytes, and what follows it. -/
def readHeader (b : Bytes) : Option (FrameHeader × Bytes) :=
  match b with
  | [] => none
  | version :: b =>
    if h : 44 ≤ b.length then
      some (⟨version, UInt64.ofNat (ofBytes (b.take 8)), UInt32.ofNat (ofBytes ((b.drop 8).take 4)),
        ⟨(b.drop 12).take 32, by rw [length_take, length_drop]; omega⟩⟩, b.drop 44)
    else none

/-- The digest at the front of some bytes, and what follows it. -/
def readDigest (b : Bytes) : Option (Digest × Bytes) :=
  if h : digestLen ≤ b.length then
    some (⟨b.take digestLen, by rw [length_take]; exact Nat.min_eq_left h⟩, b.drop digestLen)
  else none

/-- How far a journal has been read. -/
structure Scan where
  records : List JournalRecord
  offset : Nat
  deriving DecidableEq

/-- One more record has been read. -/
def Scan.push (s : Scan) (record : JournalRecord) : Scan :=
  ⟨s.records ++ [record], s.offset + (headerLen + record.payload.length + digestLen)⟩

@[simp] theorem Scan.push_records (s : Scan) (record : JournalRecord) : (s.push record).records = s.records ++ [record] := rfl

/-- One turn of the decode loop, over the bytes from the current offset on. -/
def scanPass (s : Scan) (b : Bytes) : Verdict Scan UInt8 :=
  match readHeader b with
  | none => .starved
  | some (h, body) =>
    if h.version ≠ journalVersion then .halt s
    else if maxPayloadLen < h.payloadLen.toNat then .halt s
    -- a payload that is not all there is corruption, also at the end of the file
    else if body.length < h.payloadLen.toNat then .halt s
    else
      match readDigest (body.drop h.payloadLen.toNat) with
      | none => .starved
      | some (stored, rest) =>
        if recordDigest H h.sequence h.previousDigest (body.take h.payloadLen.toNat) ≠ stored then .halt s
        else .advance (s.push ⟨h.sequence, body.take h.payloadLen.toNat, h.previousDigest, stored⟩) rest

/-- Where reading a journal from its start ends. -/
def scan (bytes : Bytes) : Drained Scan UInt8 := settle (scanPass H) ⟨[], 0⟩ bytes

/-- Decode a whole journal. -/
def decode (bytes : Bytes) : DecodeOutcome :=
  match scan H bytes with
  | .waiting s [] => .clean s.records
  | .waiting s (_ :: _) => .tornTail s.records
  | .halted s => .corrupt s.records s.offset

/-! ## Reading back what was written -/

@[simp] theorem FrameHeader.toBytes_length (h : FrameHeader) : h.toBytes.length = headerLen := by
  simp [FrameHeader.toBytes, headerLen, h.previousDigest.2]

theorem encode_length (record : JournalRecord) :
    (encode record).length = headerLen + record.payload.length + digestLen := by
  simp [encode, digestLen, record.digest.2, Nat.add_assoc]

/-- A written header reads back, whatever follows it. -/
theorem readHeader_toBytes (h : FrameHeader) (rest : Bytes) : readHeader (h.toBytes ++ rest) = some (h, rest) := by
  obtain ⟨version, sequence, payloadLen, previousDigest, hd⟩ := h
  have hs := ofBytes_toBytes 8 sequence.toNat
  have hl := ofBytes_toBytes 4 payloadLen.toNat
  have hlen : 44 ≤ (BigEndian.toBytes 8 sequence.toNat ++ (BigEndian.toBytes 4 payloadLen.toNat ++ previousDigest) ++ rest).length := by
    simp [hd]
    omega
  simp only [FrameHeader.toBytes, cons_append, readHeader, dif_pos hlen]
  simp [drop_append, drop_of_length_le, hd, hs, hl]

/-- Bytes that read as a header are that header and what follows it. -/
theorem readHeader_eq_some {b rest : Bytes} {h : FrameHeader} (hb : readHeader b = some (h, rest)) :
    b = h.toBytes ++ rest := by
  match b with
  | [] => cases hb
  | version :: b =>
    simp only [readHeader] at hb
    split at hb
    · obtain ⟨rfl, rfl⟩ := hb
      have h8 : (b.take 8).length = 8 := by rw [length_take]; omega
      have h4 : ((b.drop 8).take 4).length = 4 := by rw [length_take, length_drop]; omega
      have hs := toBytes_ofBytes (b.take 8)
      have hl := toBytes_ofBytes ((b.drop 8).take 4)
      have hslt := ofBytes_lt (b.take 8)
      have hllt := ofBytes_lt ((b.drop 8).take 4)
      rw [h8] at hs hslt
      rw [h4] at hl hllt
      simp only [FrameHeader.toBytes, UInt64.toNat_ofNat', UInt32.toNat_ofNat']
      rw [Nat.mod_eq_of_lt (by simpa using hslt), Nat.mod_eq_of_lt (by simpa using hllt), hs, hl]
      simp only [cons_append, append_assoc]
      rw [show b.drop 44 = ((b.drop 12).drop 32) by simp, take_append_drop,
        show b.drop 12 = ((b.drop 8).drop 4) by simp, take_append_drop, take_append_drop]
    · cases hb

/-- A digest reads back, whatever follows it. -/
theorem readDigest_append (d : Digest) (rest : Bytes) : readDigest (d.1 ++ rest) = some (d, rest) := by
  obtain ⟨d, hd⟩ := d
  simp [readDigest, digestLen, hd]

/-- Bytes that read as a digest are that digest and what follows it. -/
theorem readDigest_eq_some {b rest : Bytes} {d : Digest} (hb : readDigest b = some (d, rest)) : b = d.1 ++ rest := by
  simp only [readDigest] at hb
  split at hb
  · obtain ⟨rfl, rfl⟩ := hb
    rw [take_append_drop]
  · cases hb

/-! ## One turn of the decode loop -/

/-- A record carries the digest its fields hash to. -/
def JournalRecord.Sealed (record : JournalRecord) : Prop :=
  record.digest = recordDigest H record.sequence record.previousDigest record.payload

/-- What the decode loop does behind a header, whoever wrote it. -/
theorem scanPass_header (s : Scan) (h : FrameHeader) (body : Bytes) : scanPass H s (h.toBytes ++ body) =
      if h.version ≠ journalVersion ∨ maxPayloadLen < h.payloadLen.toNat ∨ body.length < h.payloadLen.toNat then .halt s
      else
        match readDigest (body.drop h.payloadLen.toNat) with
        | none => .starved
        | some (stored, rest) =>
          if recordDigest H h.sequence h.previousDigest (body.take h.payloadLen.toNat) ≠ stored then .halt s
          else .advance (s.push ⟨h.sequence, body.take h.payloadLen.toNat, h.previousDigest, stored⟩) rest := by
  simp only [scanPass, readHeader_toBytes]
  by_cases h1 : h.version ≠ journalVersion
  · rw [if_pos h1, if_pos (.inl h1)]
  by_cases h2 : maxPayloadLen < h.payloadLen.toNat
  · rw [if_neg h1, if_pos h2, if_pos (.inr (.inl h2))]
  by_cases h3 : body.length < h.payloadLen.toNat
  · rw [if_neg h1, if_neg h2, if_pos h3, if_pos (.inr (.inr h3))]
  · rw [if_neg h1, if_neg h2, if_neg h3, if_neg (by simp only [h1, h2, h3, or_self, not_false_eq_true])]

/-- A complete frame of a bounded payload is read off the front. -/
theorem scanPass_encode {H : Hash} {record : JournalRecord} (hs : record.Sealed H)
    (hlen : record.payload.length ≤ maxPayloadLen) (s : Scan) (rest : Bytes) :
    scanPass H s (encode record ++ rest) = .advance (s.push record) rest := by
  have hn : (UInt32.ofNat record.payload.length).toNat = record.payload.length := by
    rw [UInt32.toNat_ofNat', Nat.mod_eq_of_lt]
    simp only [maxPayloadLen] at hlen
    omega
  rw [encode, append_assoc, scanPass_header]
  simp only [headerOf, hn, append_assoc]
  rw [if_neg (by simp; omega), drop_left, readDigest_append, take_left]
  simp only [ne_eq]
  rw [if_neg (by rw [not_not]; exact hs.symm)]

/-- What is read off the front is a complete frame of a sealed record with a bounded payload. -/
theorem scanPass_eq_advance {H : Hash} {s s' : Scan} {b rest : Bytes} (h : scanPass H s b = .advance s' rest) :
    ∃ record, b = encode record ++ rest ∧ s' = s.push record ∧ record.Sealed H ∧
      record.payload.length ≤ maxPayloadLen := by
  cases hb : readHeader b with
  | none => simp [scanPass, hb] at h
  | some p =>
    obtain ⟨hd, body⟩ := p
    have hbytes := readHeader_eq_some hb
    rw [hbytes, scanPass_header] at h
    split at h
    · cases h
    rename_i hc
    simp only [not_or, not_not, Nat.not_lt] at hc
    obtain ⟨hv, hmax, hlen⟩ := hc
    cases hdg : readDigest (body.drop hd.payloadLen.toNat) with
    | none => simp [hdg] at h
    | some q =>
      simp only [hdg] at h
      split at h
      · cases h
      rename_i hseal
      rw [not_not] at hseal
      simp only [advance.injEq] at h
      obtain ⟨hs', rfl⟩ := h
      have htake : (body.take hd.payloadLen.toNat).length = hd.payloadLen.toNat := by
        rw [length_take]
        exact Nat.min_eq_left hlen
      refine ⟨_, ?_, hs'.symm, hseal.symm, by rw [htake]; exact hmax⟩
      have hhd : headerOf hd.sequence hd.previousDigest (body.take hd.payloadLen.toNat) = hd := by
        simp [headerOf, htake, UInt32.ofNat_toNat, ← hv]
      rw [encode]
      simp only [hhd, append_assoc]
      rw [← readDigest_eq_some hdg, take_append_drop, ← hbytes]

/-- The decode loop advances soundly. -/
theorem scanPass_advancing : Advancing (scanPass H) where
  advance_append := by
    intro s s' b r c h
    obtain ⟨record, rfl, rfl, hs, hlen⟩ := scanPass_eq_advance h
    rw [append_assoc]
    exact scanPass_encode hs hlen s (r ++ c)
  advance_lt := by
    intro s s' b r h
    obtain ⟨record, rfl, rfl, hs, hlen⟩ := scanPass_eq_advance h
    rw [length_append, encode_length, headerLen]
    omega

theorem readHeader_short {b : Bytes} (h : b.length < headerLen) : readHeader b = none := by
  match b with
  | [] => rfl
  | version :: b =>
    simp only [readHeader]
    rw [dif_neg (by simp only [headerLen, length_cons] at h; omega)]

/-- The decode loop stands still in front of less than a header. -/
theorem scanPass_short (s : Scan) {b : Bytes} (h : b.length < headerLen) : scanPass H s b = .starved := by
  simp [scanPass, readHeader_short h]

/-- A halt keeps what was read so far. -/
theorem scanPass_eq_halt {H : Hash} {s s' : Scan} {b : Bytes} (h : scanPass H s b = .halt s') : s' = s := by
  cases hb : readHeader b with
  | none => simp [scanPass, hb] at h
  | some p =>
    rw [readHeader_eq_some hb, scanPass_header] at h
    split at h
    · exact (halt.inj h).symm
    split at h
    · cases h
    · split at h
      · exact (halt.inj h).symm
      · cases h

/-- How the decode loop takes the first bytes of a frame that was cut off behind its header. -/
theorem scanPass_cut (s : Scan) (record : JournalRecord) {cut : Nat} (h : headerLen ≤ cut)
    (hcut : cut < (encode record).length) :
    ((UInt32.ofNat record.payload.length).toNat ≤ maxPayloadLen → cut < headerLen + (UInt32.ofNat record.payload.length).toNat →
      scanPass H s ((encode record).take cut) = .halt s) ∧
    (maxPayloadLen < (UInt32.ofNat record.payload.length).toNat → scanPass H s ((encode record).take cut) = .halt s) ∧
    (record.payload.length ≤ maxPayloadLen → headerLen + record.payload.length ≤ cut →
      scanPass H s ((encode record).take cut) = .starved) := by
  have hsplit : (encode record).take cut =
      (headerOf record.sequence record.previousDigest record.payload).toBytes ++
        (record.payload ++ record.digest.1).take (cut - headerLen) := by
    rw [encode, take_append, FrameHeader.toBytes_length, take_of_length_le (by simpa using h)]
  rw [encode_length] at hcut
  have hbody : ((record.payload ++ record.digest.1).take (cut - headerLen)).length = cut - headerLen := by
    simp only [length_take, length_append, record.digest.2]
    simp only [digestLen] at hcut
    omega
  rw [hsplit, scanPass_header, hbody]
  refine ⟨fun hmax hlt => ?_, fun hmax => ?_, fun hmax hle => ?_⟩
  · rw [if_pos (.inr (.inr (by simp only [headerOf]; omega)))]
  · rw [if_pos (.inr (.inl hmax))]
  · have hn : (UInt32.ofNat record.payload.length).toNat = record.payload.length := by
      rw [UInt32.toNat_ofNat', Nat.mod_eq_of_lt]
      simp only [maxPayloadLen] at hmax
      omega
    have hshort : readDigest (((record.payload ++ record.digest.1).take (cut - headerLen)).drop record.payload.length) = none := by
      rw [readDigest, dif_neg]
      rw [length_drop, hbody]
      omega
    simp only [headerOf, hn]
    rw [if_neg (by simp; omega), hshort]

end ExvVpn.Journal
