import ExvVpn.Basic
import ExvVpn.Tools.RustStr

/-!
# The sealed password

The layout of a stored password, `base64(nonce ‖ tag ‖ ciphertext)`, which both hosts write (`crypto.rs` on Windows,
`config_crypto.rs` on macOS). The cipher and the base64 codec are parameters with the behaviour they document.
-/

namespace ExvVpn.Config

open List RustStr

def keyLen : Nat := 32

def nonceLen : Nat := 12

def tagLen : Nat := 16

/-- An AES-256 key. -/
abbrev Key := { bytes : Bytes // bytes.length = keyLen }

/-- An AES-GCM nonce. -/
abbrev Nonce := { bytes : Bytes // bytes.length = nonceLen }

/-- AES-256-GCM and the standard base64 alphabet: sealing gives the ciphertext with its tag behind it, opening it with the same
key and nonce gives the plaintext back, and decoding undoes encoding. -/
structure Sealing where
  encrypt : Key → Nonce → Bytes → Option Bytes
  decrypt : Key → Nonce → Bytes → Option Bytes
  encode : Bytes → Text
  decode : Text → Option Bytes
  tagLen_le {k n p c} : encrypt k n p = some c → tagLen ≤ c.length
  decrypt_encrypt {k n p c} : encrypt k n p = some c → decrypt k n c = some p
  decode_encode (b : Bytes) : decode (encode b) = some b
  decode_nil : decode [] = some []

/-- The tag does not authenticate under another key. -/
def Sealing.RejectsWrongKey (sealing : Sealing) : Prop :=
  ∀ k k' n p c, sealing.encrypt k n p = some c → k' ≠ k → sealing.decrypt k' n c = none

/-- Why a password could not be sealed or opened. -/
inductive SealError
  | random
  | crypto
  | base64
  | malformed (why : Text)
deriving DecidableEq, Repr

variable (sealing : Sealing)

/-- `encrypt_password`, with what the random generator gave for the nonce. -/
def encryptPassword (plaintext : Text) (key : Key) (random : Option Nonce) : Except SealError Text :=
  match random with
  | none => .error .random
  | some nonce =>
    match sealing.encrypt key nonce (asBytes plaintext) with
    | none => .error .crypto
    | some ctWithTag =>
      let ct := ctWithTag.take (ctWithTag.length - tagLen)
      let tag := ctWithTag.drop (ctWithTag.length - tagLen)
      .ok (sealing.encode (nonce.val ++ tag ++ ct))

def decryptPassword (blobB64 : Text) (key : Key) : Except SealError Text :=
  match sealing.decode blobB64 with
  | none => .error .base64
  | some blob =>
    if h : blob.length < nonceLen + tagLen then .error (.malformed "blob shorter than nonce+tag".toList)
    else
      let nonce : Nonce := ⟨blob.take nonceLen, by
        rw [length_take]
        omega⟩
      let tag := (blob.drop nonceLen).take tagLen
      let ct := blob.drop (nonceLen + tagLen)
      match sealing.decrypt key nonce (ct ++ tag) with
      | none => .error .crypto
      | some plaintext =>
        match fromUtf8 plaintext with
        | none => .error (.malformed "decrypted password is not UTF-8".toList)
        | some text => .ok text

/-- Taking the blob apart gives the nonce and the cipher's output in its own order. -/
theorem unpack {nonce c : Bytes} (hn : nonce.length = nonceLen) (hc : tagLen ≤ c.length) :
    let blob := nonce ++ c.drop (c.length - tagLen) ++ c.take (c.length - tagLen)
    blob.take nonceLen = nonce ∧
      blob.drop (nonceLen + tagLen) ++ (blob.drop nonceLen).take tagLen = c ∧ ¬blob.length < nonceLen + tagLen := by
  have htag : (c.drop (c.length - tagLen)).length = tagLen := by
    rw [length_drop]
    omega
  have hlen : (nonce ++ c.drop (c.length - tagLen)).length = nonceLen + tagLen := by
    rw [length_append, hn, htag]
  refine ⟨?_, ?_, ?_⟩
  · rw [append_assoc, take_left' hn]
  · rw [drop_left' hlen, append_assoc, drop_left' hn, take_left' htag, take_append_drop]
  · rw [length_append, hlen]
    omega

variable {plaintext : Text} {key : Key} {random : Option Nonce}

/-- Opening a sealed password asks the cipher to open what it gave, with the same nonce. -/
theorem decryptPassword_blob {nonce : Nonce} {c : Bytes} (hc : tagLen ≤ c.length) (key : Key) :
    decryptPassword sealing (sealing.encode (nonce.val ++ c.drop (c.length - tagLen) ++ c.take (c.length - tagLen))) key =
      match sealing.decrypt key nonce c with
      | none => .error .crypto
      | some plaintext =>
        match fromUtf8 plaintext with
        | none => .error (.malformed "decrypted password is not UTF-8".toList)
        | some text => .ok text := by
  obtain ⟨hnonce, hct, hlong⟩ := unpack nonce.property hc
  unfold decryptPassword
  rw [sealing.decode_encode]
  simp only [dif_neg hlong, hct, hnonce]

variable {blob : Text} (h : encryptPassword sealing plaintext key random = .ok blob)
include h

/-- A sealed password is what the cipher gave for some nonce, and it is never the empty text. -/
theorem encryptPassword_eq_ok :
    ∃ nonce c, random = some nonce ∧ sealing.encrypt key nonce (asBytes plaintext) = some c ∧
      blob = sealing.encode (nonce.val ++ c.drop (c.length - tagLen) ++ c.take (c.length - tagLen)) := by
  unfold encryptPassword at h
  rcases random with _ | nonce
  · cases h
  rcases hc : sealing.encrypt key nonce (asBytes plaintext) with _ | c
  · simp only [hc] at h
    cases h
  · simp only [hc] at h
    cases h
    exact ⟨nonce, c, rfl, hc, rfl⟩

theorem encryptPassword_ne_nil : blob ≠ [] := by
  obtain ⟨nonce, c, -, hc, rfl⟩ := encryptPassword_eq_ok sealing h
  intro hnil
  have hdecode := sealing.decode_encode (nonce.val ++ c.drop (c.length - tagLen) ++ c.take (c.length - tagLen))
  rw [hnil, sealing.decode_nil] at hdecode
  have hlong := (unpack nonce.property (sealing.tagLen_le hc)).2.2
  rw [← Option.some.inj hdecode] at hlong
  exact hlong (by decide)

/-- The key that sealed a password opens it. -/
theorem decryptPassword_encryptPassword : decryptPassword sealing blob key = .ok plaintext := by
  obtain ⟨nonce, c, -, hc, rfl⟩ := encryptPassword_eq_ok sealing h
  rw [decryptPassword_blob sealing (sealing.tagLen_le hc), sealing.decrypt_encrypt hc]
  simp [fromUtf8_asBytes]

/-- No other key opens a sealed password. -/
theorem decryptPassword_wrongKey (hreject : sealing.RejectsWrongKey) {other : Key} (hne : other ≠ key) :
    decryptPassword sealing blob other = .error .crypto := by
  obtain ⟨nonce, c, -, hc, rfl⟩ := encryptPassword_eq_ok sealing h
  rw [decryptPassword_blob sealing (sealing.tagLen_le hc), hreject key other nonce _ c hc hne]

end ExvVpn.Config
