import Mathlib.Data.List.Basic
import ExvVpn.Basic

/-! # The CSTP frame codec

The bounded streaming codec of `exv-vpn-cstp`. A frame is an eight-byte "STF" header (magic, version, big-endian payload
length, packet type, a zero byte) and its payload. Bytes are fed in and frames come out one at a time. -/

namespace ExvVpn.Cstp

open List

/-- Length of the on-wire STF frame header. -/
def cstpHeaderLen : Nat := 8

def stfMagic : Bytes := [0x53, 0x54, 0x46]

def stfVersion : UInt8 := 0x01

/-- The bounded maximum payload. -/
def cstpMaxPayload : Nat := 4096

def cstpPacketTypeData : UInt8 := 0x00

/-- Packet type of a keepalive control frame. -/
def cstpPacketTypeKeepalive : UInt8 := 0x07

inductive CstpFrame where
  /-- An IP data payload. -/
  | data (payload : Bytes)
  /-- A control frame with its packet type and body. -/
  | control (kind : UInt8) (body : Bytes)
  deriving DecidableEq, Repr

/-- The codec's typed errors. -/
inductive CodecError where
  | shortHeader
  | badMagic
  | badLength
  | oversizePayload (declared limit : Nat)
  | unknownControl (kind : UInt8)
  | truncated
  | ipv6NotSupported
  deriving DecidableEq, Repr

/-- The streaming decoder with its buffered bytes. -/
structure Codec where
  buf : Bytes
  deriving DecidableEq, Repr

/-- What one call of `decode` returns: a frame, a request for more bytes, or an error. -/
abbrev DecodeOutcome := Except CodecError (Option CstpFrame)

namespace Codec

def new : Codec := ⟨[]⟩

/-- Append a chunk to the buffer. -/
def feed (c : Codec) (chunk : Bytes) : Codec := ⟨c.buf ++ chunk⟩

/-- The payload length a header declares, from its two length bytes. -/
def declaredLen (hi lo : UInt8) : Nat := (hi.toNat <<< 8) ||| lo.toNat

/-- What a complete frame of the given packet type decodes to. -/
def classify (packetType : UInt8) (payload : Bytes) : DecodeOutcome :=
  if packetType = cstpPacketTypeData then
    if payload.isEmpty then .error .badLength else .ok (some (.data payload))
  else if packetType = cstpPacketTypeKeepalive ∨ packetType = 0x05 ∨ packetType = 0x09 then
    .ok (some (.control packetType payload))
  else .error (.unknownControl packetType)

/-- Decode one complete frame from the buffer. A complete frame is taken off the buffer even when it is rejected; a bad
header and an oversize length leave the buffer as it is. -/
def decode (c : Codec) : DecodeOutcome × Codec :=
  match c.buf with
  | m0 :: m1 :: m2 :: version :: hi :: lo :: packetType :: _reserved :: body =>
    if [m0, m1, m2] ≠ stfMagic ∨ version ≠ stfVersion then (.error .badMagic, c)
    else if cstpMaxPayload < declaredLen hi lo then
      (.error (.oversizePayload (declaredLen hi lo) cstpMaxPayload), c)
    else if body.length < declaredLen hi lo then (.ok none, c)
    else (classify packetType (body.take (declaredLen hi lo)), ⟨body.drop (declaredLen hi lo)⟩)
  | _ => (.ok none, c)

/-- Signal the end of the stream. -/
def finish (c : Codec) : Except CodecError Unit :=
  if c.buf.isEmpty then .ok ()
  else if c.buf.length < cstpHeaderLen then .error .shortHeader
  else .error .truncated

/-- Encode a raw packet type and payload. -/
def encodeRaw (packetType : UInt8) (payload : Bytes) : Except CodecError Bytes :=
  if cstpMaxPayload < payload.length then .error (.oversizePayload payload.length cstpMaxPayload)
  else .ok (stfMagic ++ [stfVersion, (payload.length >>> 8).toUInt8, (payload.length &&& 0xFF).toUInt8, packetType, 0x00] ++ payload)

/-- Encode a frame; an IPv6 packet is refused. -/
def encode (frame : CstpFrame) : Except CodecError Bytes :=
  match frame with
  | .data payload =>
    if payload.head?.any (fun b : UInt8 => b >>> 4 == 6) then .error .ipv6NotSupported
    else encodeRaw cstpPacketTypeData payload
  | .control kind body => encodeRaw kind body

/-! ## What a decode leaves in the buffer -/

/-- A complete frame never decodes to a request for more bytes. -/
theorem classify_ne_none (packetType : UInt8) (payload : Bytes) : classify packetType payload ≠ .ok none := by
  unfold classify
  split <;> split <;> simp

/-- The three things `decode` can do, each of them unmoved by bytes that arrive later: ask for more bytes, reject the header,
or take one complete frame off the buffer. -/
theorem decode_cases (c : Codec) :
    c.decode = (.ok none, c) ∨
    (∃ e, (e = .badMagic ∨ ∃ d, e = .oversizePayload d cstpMaxPayload) ∧
      ∀ chunk, (c.feed chunk).decode = (.error e, c.feed chunk)) ∨
    (∃ packetType payload rest, rest.length + cstpHeaderLen ≤ c.buf.length ∧
      ∀ chunk, (c.feed chunk).decode = (classify packetType payload, ⟨rest ++ chunk⟩)) := by
  obtain ⟨buf⟩ := c
  match buf with
  | m0 :: m1 :: m2 :: version :: hi :: lo :: packetType :: reserved :: body =>
    simp only [decode, feed, cons_append]
    by_cases hm : [m0, m1, m2] ≠ stfMagic ∨ version ≠ stfVersion
    · exact .inr (.inl ⟨_, .inl rfl, fun chunk => by rw [if_pos hm]⟩)
    by_cases ho : cstpMaxPayload < declaredLen hi lo
    · exact .inr (.inl ⟨_, .inr ⟨_, rfl⟩, fun chunk => by rw [if_neg hm, if_pos ho]⟩)
    by_cases hl : body.length < declaredLen hi lo
    · rw [if_neg hm, if_neg ho, if_pos hl]
      exact .inl rfl
    have hle : declaredLen hi lo ≤ body.length := Nat.not_lt.mp hl
    refine .inr (.inr ⟨packetType, body.take (declaredLen hi lo), body.drop (declaredLen hi lo), ?_, fun chunk => ?_⟩)
    · simp only [length_drop, length_cons, cstpHeaderLen]
      omega
    · rw [if_neg hm, if_neg ho, if_neg (by rw [length_append]; omega), take_append_of_le_length hle,
        drop_append_of_le_length hle]
  | [] | [_] | [_, _] | [_, _, _] | [_, _, _, _] | [_, _, _, _, _] | [_, _, _, _, _, _] | [_, _, _, _, _, _, _] =>
    exact .inl rfl

@[simp] theorem feed_nil (c : Codec) : c.feed [] = c := by
  simp [feed]

/-- Bytes behind the buffer do not change a decision `decode` has already made; they stay behind what it leaves. -/
theorem decode_feed (c : Codec) (chunk : Bytes) (h : c.decode.1 ≠ .ok none) :
    (c.feed chunk).decode = (c.decode.1, c.decode.2.feed chunk) := by
  obtain hn | ⟨e, -, he⟩ | ⟨t, p, r, -, hr⟩ := decode_cases c
  · exact absurd (congrArg Prod.fst hn) h
  · have h0 := he []
    rw [feed_nil] at h0
    rw [he chunk, h0]
  · have h0 := hr []
    rw [feed_nil, append_nil] at h0
    rw [hr chunk, h0, feed]

/-- A request for more bytes leaves the codec as it was. -/
theorem decode_none {c : Codec} (h : c.decode.1 = .ok none) : c.decode.2 = c := by
  obtain hn | ⟨e, -, he⟩ | ⟨t, p, r, -, hr⟩ := decode_cases c
  · rw [hn]
  · simpa using congrArg Prod.snd (he [])
  have h0 := hr []
  rw [feed_nil] at h0
  rw [h0] at h
  exact absurd h (classify_ne_none t p)

/-- A decoded frame and an unknown control both take at least a header off the buffer. -/
theorem decode_consumes {c : Codec} (h : (∃ f, c.decode.1 = .ok (some f)) ∨ ∃ k, c.decode.1 = .error (.unknownControl k)) :
    c.decode.2.buf.length + cstpHeaderLen ≤ c.buf.length := by
  obtain hn | ⟨e, hk, he⟩ | ⟨t, p, r, hlen, hr⟩ := decode_cases c
  · simp [hn] at h
  · have h0 := he []
    rw [feed_nil] at h0
    obtain rfl | ⟨d, rfl⟩ := hk <;> simp [h0] at h
  · have h0 := hr []
    rw [feed_nil, append_nil] at h0
    rw [h0]
    exact hlen

end Codec

end ExvVpn.Cstp
