import ExvVpn.Cstp.ReadTask

/-! # How the byte stream is cut does not matter

TLS hands the read task its byte stream in pieces of any size. What the task delivers, and why it ends, is a function of the
stream alone, but for the samples of its counters: they count the reads. -/

namespace ExvVpn.Cstp

open Incremental List

variable {ε : Type} (accepts : Nat → Bool)

/-- The event is a sample of the counters of a task. -/
def CstpControlEvent.isSample : CstpControlEvent ε → Bool
  | .ioDiagnostics _ => true
  | _ => false

/-- What was sent, without the samples. -/
def Sent.unsampled (out : Sent ε) : Sent ε := { out with control := out.control.filter (!·.isSample) }

/-- A read that brings a chunk, and whether a sample is due at it. -/
def ReadOutcome.ofChunk (chunk : Bytes × Bool) : ReadOutcome ε := .bytes chunk.1 chunk.2

/-- The bytes of the chunks in one piece. -/
def joined (chunks : List (Bytes × Bool)) : Bytes := (chunks.map Prod.fst).flatten

namespace ChunkingAux

variable {out out' : Sent ε}

/-- Sending keeps apart what was sent and the samples. -/
theorem unsampled_send (h : out.unsampled = out'.unsampled) (event : CstpControlEvent ε) :
    (out.send event).unsampled = (out'.send event).unsampled := by
  simp only [Sent.unsampled, Sent.mk.injEq] at h
  simp [Sent.unsampled, Sent.send, h]

/-- A sample is nothing but a sample. -/
theorem unsampled_publish (diagnostics : SessionIoDiagnostics) : (out.publish diagnostics).unsampled = out.unsampled := by
  simp [Sent.unsampled, Sent.publish, Sent.send, CstpControlEvent.isSample]

/-- The last event of the task does not depend on its counters. -/
theorem unsampled_finish (h : out.unsampled = out'.unsampled) (diagnostics diagnostics' : SessionIoDiagnostics)
    (reason : SessionEndReason ε) : (out.finish diagnostics reason).unsampled = (out'.finish diagnostics' reason).unsampled :=
  unsampled_send (by rw [unsampled_publish, unsampled_publish, h]) _

/-- One pass of the inner loop does the same whatever the counters are. -/
theorem drainPass_unsampled (diagnostics diagnostics' : SessionIoDiagnostics) (out out' : Sent ε) (buf : Bytes)
    (h : out.unsampled = out'.unsampled) :
    (drainPass accepts diagnostics out buf).map Sent.unsampled =
      (drainPass accepts diagnostics' out' buf).map Sent.unsampled := by
  have hpayloads : out.unsampled.payloads = out'.unsampled.payloads := by rw [h]
  unfold drainPass
  generalize (Codec.mk buf).decode.2.buf = rest
  generalize (Codec.mk buf).decode.1 = outcome
  unfold react
  split
  · rw [show out.payloads = out'.payloads from hpayloads]
    split
    · exact congrArg Verdict.halt (unsampled_finish h ..)
    · simp only [Sent.unsampled, Sent.mk.injEq] at h
      simp [Verdict.map, Sent.unsampled, h]
  · have hevent : ((controlEventForDecode outcome).elim out out.send).unsampled =
        ((controlEventForDecode outcome).elim out' out'.send).unsampled := by
      cases controlEventForDecode outcome with
      | none => exact h
      | some event => exact unsampled_send h event
    dsimp only
    split
    · exact congrArg Verdict.halt (unsampled_finish hevent ..)
    · split
      · rfl
      · exact congrArg (Verdict.advance · rest) hevent

/-- Neither does a whole drain. -/
theorem settle_unsampled (diagnostics diagnostics' : SessionIoDiagnostics) (h : out.unsampled = out'.unsampled)
    (buf : Bytes) :
    (settle (drainPass accepts diagnostics) out buf).map Sent.unsampled =
      (settle (drainPass accepts diagnostics') out' buf).map Sent.unsampled :=
  settle_map_congr (drainPass_lawful accepts diagnostics).toAdvancing (drainPass_lawful accepts diagnostics').toAdvancing
    (drainPass_unsampled accepts diagnostics diagnostics') h buf

/-- Two tasks that stand at the same point but for the samples read on alike but for the samples. -/
theorem readLoop_unsampled (diagnostics diagnostics' : SessionIoDiagnostics) {d d' : Drained (Sent ε) UInt8}
    (h : d.map Sent.unsampled = d'.map Sent.unsampled) (reads : List (ReadOutcome ε)) :
    (readLoop accepts diagnostics d reads).map Sent.unsampled =
      (readLoop accepts diagnostics' d' reads).map Sent.unsampled := by
  induction reads generalizing diagnostics diagnostics' d d' with
  | nil => cases d <;> cases d' <;> exact h
  | cons outcome reads ih =>
    cases d with
    | halted out =>
      cases d' with
      | halted out' => exact h
      | waiting out' rest' => cases h
    | waiting out rest =>
      cases d' with
      | halted out' => cases h
      | waiting out' rest' =>
        rw [Drained.map, Drained.map, Drained.waiting.injEq] at h
        obtain ⟨hout, rfl⟩ := h
        cases outcome with
        | bytes chunk due =>
          refine ih _ _ (settle_unsampled accepts _ _ ?_ _)
          cases due with
          | false => exact hout
          | true => exact (unsampled_publish _).trans (hout.trans (unsampled_publish _).symm)
        | closed | failed => exact congrArg Drained.halted (unsampled_finish hout ..)

/-- Reads that bring bytes feed the drained codec one chunk after another. -/
theorem readLoop_chunks (diagnostics first : SessionIoDiagnostics) (d : Drained (Sent ε) UInt8)
    (chunks : List (Bytes × Bool)) (tail : List (ReadOutcome ε)) :
    (readLoop accepts diagnostics d (chunks.map .ofChunk ++ tail)).map Sent.unsampled =
      (readLoop accepts first ((chunks.map Prod.fst).foldl (Drained.feed (drainPass accepts first)) d) tail).map
        Sent.unsampled := by
  induction chunks generalizing diagnostics d with
  | nil => exact readLoop_unsampled accepts _ _ rfl tail
  | cons chunk chunks ih =>
    cases d with
    | waiting out rest =>
      refine Eq.trans ?_ (ih first _)
      refine readLoop_unsampled accepts _ _ (settle_unsampled accepts _ _ ?_ _) _
      split
      · exact unsampled_publish _
      · rfl
    | halted out => simp only [foldl_feed_halted, map_cons, cons_append, readLoop]

/-- But for the samples, the read task drains the stream it was given, whatever the pieces, and then reads on. -/
theorem readTask_chunks (offerRemainder : Bytes) (chunks : List (Bytes × Bool)) (tail : List (ReadOutcome ε)) :
    (readTask accepts offerRemainder (chunks.map .ofChunk ++ tail)).map Sent.unsampled =
      (readLoop accepts (.new .read) (settle (drainPass accepts (.new .read)) .nothing (offerRemainder ++ joined chunks))
        tail).map Sent.unsampled := by
  rw [readTask, readLoop_chunks accepts _ (.new .read), foldl_feed (drainPass_lawful accepts _)]
  rfl

/-- Without a further read the task stands where draining left it. -/
theorem readLoop_nil (diagnostics : SessionIoDiagnostics) (d : Drained (Sent ε) UInt8) :
    readLoop accepts diagnostics d [] = d := by
  cases d <;> rfl

end ChunkingAux

open ChunkingAux

/-- But for the samples of its counters, the read task is insensitive to how its stream is cut and when samples are due, for
every consumer, in three parts.
1. Two cuts of one stream, the bytes left over from the offer included, followed by the same reads, send the same payloads
   and the same control events and end for the same reason; even the bytes left in the codec are the same.
2. Every drain ends: one pass more than there are buffered bytes is always enough.
3. Once a stream has ended the task, no byte behind it changes what was sent, whatever the cut and whatever is read later. -/
theorem readTask_chunking :
    (∀ (offer offer' : Bytes) (chunks chunks' : List (Bytes × Bool)) (tail : List (ReadOutcome ε)),
      offer ++ joined chunks = offer' ++ joined chunks' →
      (readTask accepts offer (chunks.map .ofChunk ++ tail)).map Sent.unsampled =
        (readTask accepts offer' (chunks'.map .ofChunk ++ tail)).map Sent.unsampled) ∧
    (∀ (diagnostics : SessionIoDiagnostics) (out : Sent ε) (buf : Bytes),
      ∃ d, drain (drainPass accepts diagnostics) (buf.length + 1) out buf = some d) ∧
    (∀ (offer : Bytes) (chunks : List (Bytes × Bool)) (out : Sent ε),
      readTask accepts offer (chunks.map .ofChunk) = .halted out →
      ∀ (offer' : Bytes) (chunks' : List (Bytes × Bool)) (later : Bytes) (tail : List (ReadOutcome ε)),
        offer' ++ joined chunks' = offer ++ joined chunks ++ later →
        (readTask accepts offer' (chunks'.map .ofChunk ++ tail)).map Sent.unsampled = .halted out.unsampled) := by
  have hp := fun diagnostics => drainPass_lawful (ε := ε) accepts diagnostics
  refine ⟨?_, ?_, ?_⟩
  · intro offer offer' chunks chunks' tail h
    rw [readTask_chunks, readTask_chunks, h]
  · intro diagnostics out buf
    exact drain_ends (hp diagnostics).toAdvancing _ out buf (Nat.lt_succ_self _)
  · intro offer chunks out hout offer' chunks' later tail h
    have hs : (settle (drainPass accepts (.new .read)) .nothing (offer ++ joined chunks)).map Sent.unsampled =
        .halted out.unsampled := by
      have hread := readTask_chunks (ε := ε) accepts offer chunks []
      rw [append_nil, hout, readLoop_nil] at hread
      exact hread.symm
    rw [readTask_chunks, h, ← settle_append (hp _)]
    cases hd : settle (drainPass accepts (.new .read)) .nothing (offer ++ joined chunks) with
    | waiting rest => rw [hd] at hs; cases hs
    | halted first =>
      rw [hd] at hs
      rw [Drained.feed, readLoop]
      exact hs

/-- Two bytes in one read or in two, and then the end of the stream: the sample in front of the last event differs. -/
theorem samples_count_reads :
    readTask (ε := Unit) (fun _ => true) [] [.bytes [0x53, 0x54] false, .closed] =
        .halted ⟨[], [.ioDiagnostics ⟨.read, 2, 1, 0, 0, 0⟩, .sessionEnded .gatewayClosedStream]⟩ ∧
      readTask (ε := Unit) (fun _ => true) [] [.bytes [0x53] false, .bytes [0x54] false, .closed] =
        .halted ⟨[], [.ioDiagnostics ⟨.read, 2, 2, 0, 0, 0⟩, .sessionEnded .gatewayClosedStream]⟩ := by
  decide +kernel

/-- A keepalive frame, byte by byte or at once, and a stream that ends the task at its first header. -/
theorem readTask_chunking_keepalive :
    (readTask (ε := Unit) (fun _ => true) []
        ([([0x53, 0x54, 0x46, 0x01], false), ([0x00, 0x00, 0x07, 0x00], true)].map .ofChunk ++ [.closed])).map
          Sent.unsampled =
      (readTask (fun _ => true) [0x53]
        ([([0x54, 0x46, 0x01, 0x00, 0x00, 0x07, 0x00], false)].map .ofChunk ++ [.closed])).map Sent.unsampled ∧
    (readTask (ε := Unit) (fun _ => true) [0, 0, 0]
        ([([0, 0, 0, 0, 0, 9, 9], false)].map .ofChunk ++ [.failed ()])).map Sent.unsampled =
      .halted ⟨[], [.sessionEnded (.codec .badMagic)]⟩ :=
  ⟨(readTask_chunking (fun _ => true)).1 _ _ _ _ _ (by decide),
    (readTask_chunking (fun _ => true)).2.2 [] [([0, 0, 0, 0, 0, 0, 0, 0], false)]
      ⟨[], [.ioDiagnostics ⟨.read, 8, 1, 0, 0, 0⟩, .sessionEnded (.codec .badMagic)]⟩ (by decide +kernel) _ _ [9, 9] _
      (by decide)⟩

end ExvVpn.Cstp
