import ExvVpn.Cstp.Codec
import ExvVpn.Tools.Transition

/-! # What is encoded is decoded again

The encoder checks the length of a payload and refuses IPv6 packets; the decoder checks the length, that a data frame holds
something and that the kind of a control frame is one it knows. What both let through comes back as it was, however the bytes
are cut and whenever the codec is asked for a frame. -/

namespace ExvVpn.Cstp

open Transition List Codec

/-- A control kind that `decode` knows. -/
abbrev KnownKind (kind : UInt8) : Prop := kind = cstpPacketTypeKeepalive ∨ kind = 0x05 ∨ kind = 0x09

/-- A payload that begins as an IPv6 packet does. -/
abbrev BeginsIpv6 (payload : Bytes) : Prop := payload.head?.any (fun b : UInt8 => b >>> 4 == 6) = true

/-- The frames that go both ways: data that are there and are no IPv6 packet, and control frames of a known kind. -/
def CstpFrame.Exchanged : CstpFrame → Prop
  | .data payload => payload ≠ [] ∧ payload.length ≤ cstpMaxPayload ∧ ¬ BeginsIpv6 payload
  | .control kind body => KnownKind kind ∧ body.length ≤ cstpMaxPayload

/-! ## Calls on one codec -/

inductive CodecCall where
  | feed (chunk : Bytes)
  | decode

/-- A codec, the frames it has given out and the errors it has reported. -/
structure CodecRun where
  codec : Codec
  frames : List CstpFrame
  errors : List CodecError
  deriving DecidableEq

def codecStep (r : CodecRun) : CodecCall → CodecRun
  | .feed chunk => { r with codec := r.codec.feed chunk }
  | .decode =>
    match r.codec.decode with
    | (.ok none, codec) => { r with codec }
    | (.ok (some frame), codec) => { r with codec, frames := r.frames ++ [frame] }
    | (.error error, codec) => { r with codec, errors := r.errors ++ [error] }

def CodecRun.new : CodecRun := ⟨.new, [], []⟩

/-- The bytes that are fed by the calls. -/
def fed (calls : List CodecCall) : Bytes :=
  calls.flatMap fun
    | .feed chunk => chunk
    | .decode => []

variable {later : Bytes} {frames : List CstpFrame} {r : CodecRun}

namespace CodecRoundTripAux

/-! ## One frame -/

theorem declaredLen_length {n : Nat} (h : n ≤ cstpMaxPayload) :
    declaredLen (n >>> 8).toUInt8 (n &&& 0xFF).toUInt8 = n := by
  have hlow : n &&& 0xFF = n % 256 := Nat.and_two_pow_sub_one_eq_mod n 8
  have hhigh : n >>> 8 = n / 256 := Nat.shiftRight_eq_div_pow n 8
  have hmax : cstpMaxPayload = 4096 := rfl
  have hor := Nat.shiftLeft_add_eq_or_of_lt (i := 8) (b := n % 256) (by omega) (n / 256)
  have hbyte : (n / 256) % 256 = n / 256 := Nat.mod_eq_of_lt (by omega)
  rw [declaredLen, hlow, hhigh]
  simp only [Nat.toUInt8, UInt8.toNat_ofNat', Nat.reducePow, Nat.mod_mod, hbyte]
  omega

/-- An encoded packet is taken off the buffer, and what it decodes to is decided by its type. -/
theorem decode_encodeRaw {packetType : UInt8} {payload bytes : Bytes} (h : encodeRaw packetType payload = .ok bytes)
    (rest : Bytes) : (mk (bytes ++ rest)).decode = (classify packetType payload, ⟨rest⟩) := by
  rw [encodeRaw] at h
  split at h
  · cases h
  rename_i hlength
  have hlen := declaredLen_length (Nat.not_lt.mp hlength)
  generalize (payload.length >>> 8).toUInt8 = high, (payload.length &&& 0xFF).toUInt8 = low at h hlen
  cases h
  have hthere : ¬ payload.length + rest.length < payload.length := by omega
  simp [decode, stfMagic, hlen, hlength, hthere]

theorem encodeRaw_of_le (packetType : UInt8) {payload : Bytes} (h : payload.length ≤ cstpMaxPayload) :
    ∃ bytes, encodeRaw packetType payload = .ok bytes := by
  rw [encodeRaw, if_neg (Nat.not_lt.mpr h)]
  exact ⟨_, rfl⟩

/-- A frame that goes both ways is encoded, and decodes to itself in front of anything. -/
theorem encode_of_exchanged {frame : CstpFrame} (h : frame.Exchanged) :
    ∃ bytes, encode frame = .ok bytes ∧ ∀ rest, (mk (bytes ++ rest)).decode = (.ok (some frame), ⟨rest⟩) := by
  cases frame with
  | data payload =>
    obtain ⟨hsome, hlength, hversion⟩ := h
    obtain ⟨bytes, hbytes⟩ := encodeRaw_of_le cstpPacketTypeData hlength
    refine ⟨bytes, by rw [encode, if_neg hversion, hbytes], fun rest => ?_⟩
    rw [decode_encodeRaw hbytes, classify, if_pos rfl, if_neg (by simpa using hsome)]
  | control kind body =>
    obtain ⟨hkind, hlength⟩ := h
    obtain ⟨bytes, hbytes⟩ := encodeRaw_of_le kind hlength
    have hdata : kind ≠ cstpPacketTypeData := by
      rcases hkind with rfl | rfl | rfl <;> decide
    refine ⟨bytes, by rw [encode, hbytes], fun rest => ?_⟩
    rw [decode_encodeRaw hbytes, classify, if_neg hdata, if_pos hkind]

/-- A buffer that begins an encoded frame, or holds it, gives nothing before the frame is there and then the frame. -/
theorem decode_part {frame : CstpFrame} {bytes rest : Bytes}
    (hframe : ∀ rest, (mk (bytes ++ rest)).decode = (.ok (some frame), ⟨rest⟩)) {buffered : Bytes}
    (h : buffered ++ later = bytes ++ rest) :
    (mk buffered).decode = (.ok none, ⟨buffered⟩) ∨
      ∃ left, (mk buffered).decode = (.ok (some frame), ⟨left⟩) ∧ left ++ later = rest := by
  by_cases hnone : (mk buffered).decode.1 = .ok none
  · exact .inl (Prod.ext hnone (decode_none hnone))
  -- what was decided stays decided when the rest arrives, and then it is known
  have hfeed := decode_feed ⟨buffered⟩ later hnone
  rw [feed, h, hframe rest] at hfeed
  obtain ⟨hframe', hleft⟩ := Prod.mk.inj hfeed
  exact .inr ⟨(mk buffered).decode.2.buf, Prod.ext hframe'.symm rfl, (congrArg buf hleft).symm⟩

/-! ## Many frames -/

def Encodes : List CstpFrame → Bytes → Prop
  | [], bytes => bytes = []
  | frame :: frames, bytes => ∃ first others, bytes = first ++ others ∧
      (∀ rest, (mk (first ++ rest)).decode = (.ok (some frame), ⟨rest⟩)) ∧ Encodes frames others

theorem encodes_of_exchanged (h : ∀ frame ∈ frames, frame.Exchanged) :
    ∃ encodings, frames.mapM encode = .ok encodings ∧ Encodes frames encodings.flatten := by
  induction frames with
  | nil => exact ⟨[], rfl, rfl⟩
  | cons frame frames ih =>
    obtain ⟨hframe, hframes⟩ := forall_mem_cons.mp h
    obtain ⟨bytes, hencode, hdecode⟩ := encode_of_exchanged hframe
    obtain ⟨encodings, hencodings, hrest⟩ := ih hframes
    refine ⟨bytes :: encodings, ?_, bytes, encodings.flatten, rfl, hdecode, hrest⟩
    rw [mapM_cons, hencode, hencodings]
    rfl

/-- What the codec still has to give out: nothing went wrong, and the buffer with what is fed later encodes the frames that
have not come out. -/
def Owed (frames : List CstpFrame) (r : CodecRun) (later : Bytes) : Prop :=
  r.errors = [] ∧ ∃ rest, frames = r.frames ++ rest ∧ Encodes rest (r.codec.buf ++ later)

/-- One call keeps what is owed. -/
theorem owed_codecStep (call : CodecCall)
    (h : Owed frames r (fed [call] ++ later)) : Owed frames (codecStep r call) later := by
  obtain ⟨herrors, rest, hframes, hbytes⟩ := h
  cases call with
  | feed chunk =>
    refine ⟨herrors, rest, hframes, ?_⟩
    simpa [fed, codecStep, feed, append_assoc] using hbytes
  | decode =>
    obtain ⟨⟨buffered⟩, given, errors⟩ := r
    cases rest with
    | nil =>
      -- nothing is owed, so the buffer is empty
      obtain ⟨rfl, rfl⟩ := append_eq_nil_iff.mp hbytes
      exact ⟨herrors, [], hframes, rfl⟩
    | cons frame rest =>
      obtain ⟨first, others, hsplit, hdecode, hrest⟩ := hbytes
      rcases decode_part hdecode hsplit with hnone | ⟨left, hsome, hleft⟩
      · simp only [codecStep, hnone]
        exact ⟨herrors, frame :: rest, hframes, first, others, hsplit, hdecode, hrest⟩
      · simp only [codecStep, hsome]
        refine ⟨herrors, rest, ?_, hleft ▸ hrest⟩
        rw [hframes, append_assoc, singleton_append]

/-- What is owed over a run. -/
theorem owed_run (calls : List CodecCall)
    (h : Owed frames r (fed calls ++ later)) : Owed frames (run codecStep r calls) later := by
  induction calls generalizing r with
  | nil => exact h
  | cons call calls ih =>
    have hfed : fed (call :: calls) = fed [call] ++ fed calls := by simp [fed]
    rw [hfed, append_assoc] at h
    exact ih (owed_codecStep call h)

/-- When all bytes are there, each further call gives out a frame. -/
theorem run_decode {rest : List CstpFrame} (h : Encodes rest r.codec.buf) :
    run codecStep r (replicate rest.length .decode) = ⟨.new, r.frames ++ rest, r.errors⟩ := by
  obtain ⟨⟨buffered⟩, given, errors⟩ := r
  induction rest generalizing buffered given with
  | nil =>
    obtain rfl : buffered = [] := h
    simp [new]
  | cons frame rest ih =>
    obtain ⟨first, others, rfl, hdecode, hrest⟩ := h
    rw [length_cons, replicate_succ, run_cons]
    simp only [codecStep, hdecode]
    rw [ih (given ++ [frame]) others hrest, append_assoc, singleton_append]

end CodecRoundTripAux

open CodecRoundTripAux

/-- Frames that go both ways are all encoded; whoever feeds their bytes in any pieces, and asks for frames at any time, gets
the frames in order and no error, and as many further calls as frames are missing leave an empty codec that finishes. A
single encoded frame decodes to itself if it goes both ways, and an encoded control frame of a kind that is neither known
nor that of data is reported as unknown. -/
theorem encoded_frames_decode :
    (∀ frames : List CstpFrame, (∀ frame ∈ frames, frame.Exchanged) →
      ∃ encodings, frames.mapM encode = .ok encodings ∧
        ∀ calls, fed calls = encodings.flatten →
          ∃ rest, frames = (run codecStep .new calls).frames ++ rest ∧ (run codecStep .new calls).errors = [] ∧
            run codecStep .new (calls ++ replicate rest.length .decode) = ⟨.new, frames, []⟩ ∧
            new.decode = (.ok none, .new) ∧ new.finish = .ok ()) ∧
    ∀ frame bytes, encode frame = .ok bytes →
      (frame.Exchanged → (new.feed bytes).decode = (.ok (some frame), .new)) ∧
      ∀ kind body, frame = .control kind body → ¬ KnownKind kind → kind ≠ cstpPacketTypeData →
        (new.feed bytes).decode = (.error (.unknownControl kind), .new) := by
  constructor
  · intro frames hframes
    obtain ⟨encodings, hencode, hbytes⟩ := encodes_of_exchanged hframes
    refine ⟨encodings, hencode, fun calls hfed => ?_⟩
    have hstart : Owed frames .new (fed calls ++ []) := by
      refine ⟨rfl, frames, rfl, ?_⟩
      rw [append_nil, hfed]
      exact hbytes
    obtain ⟨herrors, rest, hrest, hbuffer⟩ := owed_run calls hstart
    rw [append_nil] at hbuffer
    refine ⟨rest, hrest, herrors, ?_, rfl, rfl⟩
    rw [run_append, run_decode hbuffer, ← hrest, herrors]
  · intro frame bytes hencode
    constructor
    · intro hframe
      obtain ⟨bytes', hencode', hdecode⟩ := encode_of_exchanged hframe
      obtain rfl : bytes' = bytes := Except.ok.inj (hencode'.symm.trans hencode)
      have halone := hdecode []
      rw [append_nil] at halone
      exact halone
    · intro kind body hframe hkind hdata
      subst hframe
      have halone := decode_encodeRaw hencode []
      rw [append_nil, classify, if_neg hdata, if_neg hkind] at halone
      exact halone

/-- A data frame without a payload, a control frame with the type of data and a probe of the peer are encoded, and none of
them decodes to itself; a body that is too long is not encoded at all. -/
theorem accepted_not_decoded :
    (∃ bytes, encode (.data []) = .ok bytes ∧ (new.feed bytes).decode = (.error .badLength, .new)) ∧
    (∃ bytes, encode (.control 0 [1]) = .ok bytes ∧ (new.feed bytes).decode = (.ok (some (.data [1])), .new)) ∧
    (∃ bytes, encode (.control 3 [1]) = .ok bytes ∧
      (new.feed bytes).decode = (.error (.unknownControl 3), .new)) ∧
    encode (.control 7 (replicate 4097 0)) = .error (.oversizePayload 4097 4096) := by
  refine ⟨⟨_, rfl, rfl⟩, ⟨_, rfl, rfl⟩, ⟨_, rfl, rfl⟩, ?_⟩
  have hlength : (replicate 4097 (0 : UInt8)).length = 4097 := length_replicate
  rw [encode, encodeRaw, hlength]
  rfl

end ExvVpn.Cstp
