import ExvVpn.Config.Json
import ExvVpn.Config.Sealing
import ExvVpn.Win32Host.LogJson

/-!
# The printed form of flat documents

The form that `serde_json::to_string_pretty` gives an object whose values are texts, booleans, numbers and lists of texts. The
reader takes exactly the texts that are written, an instance of the laws of `SerdeJson`; a sealing that carries its key along
is one of `Sealing`.
-/

namespace ExvVpn.Config

open Win32Host.LogJson RustStr List

inductive FlatValue
  | text (t : Text)
  | bool (b : Bool)
  | number (n : UInt32)
  | texts (ts : List Text)
deriving DecidableEq

namespace PrettyJson

variable {α : Type}

/-- Items one behind the other, each but the last followed by a comma and a break. -/
def writeSeparated (sep : Text) (write : α → Text) : List α → Text
  | [] => []
  | [a] => write a
  | a :: b :: rest => write a ++ ',' :: (sep ++ writeSeparated sep write (b :: rest))

/-- At most as many items as the fuel allows, and what follows the last one. -/
def readSeparated (sep : Text) (read : Text → α × Text) : Nat → Text → List α × Text
  | 0, text => ([], text)
  | fuel + 1, text =>
    match read text with
    | (a, ',' :: rest) =>
      let (items, after) := readSeparated sep read fuel (rest.drop sep.length)
      (a :: items, after)
    | (a, rest) => ([a], rest)

/-- Where an item ends: a comma or a line break. -/
def Ends (c : Char) : Prop := c = ',' ∨ c = '\n'

theorem readSeparated_writeSeparated {sep : Text} {write : α → Text} {read : Text → α × Text}
    (h : ∀ a c rest, Ends c → read (write a ++ c :: rest) = (a, c :: rest)) {items : List α} (hne : items ≠ []) {fuel : Nat}
    (hfuel : items.length ≤ fuel) (rest : Text) :
    readSeparated sep read fuel (writeSeparated sep write items ++ '\n' :: rest) = (items, '\n' :: rest) := by
  induction items generalizing fuel with
  | nil => exact absurd rfl hne
  | cons a items ih =>
    obtain ⟨fuel, rfl⟩ := Nat.exists_eq_add_one_of_ne_zero (Nat.ne_of_gt (Nat.lt_of_lt_of_le (Nat.succ_pos _) hfuel))
    cases items with
    | nil =>
      rw [writeSeparated, readSeparated, h a '\n' rest (.inr rfl)]
      rfl
    | cons b items =>
      rw [writeSeparated, append_assoc, cons_append, readSeparated, h a ',' _ (.inl rfl)]
      simp only
      rw [append_assoc, drop_left, ih (cons_ne_nil b items) (by simpa using hfuel)]

theorem length_le_writeSeparated (sep : Text) (write : α → Text) (items : List α) :
    items.length ≤ (writeSeparated sep write items).length + 1 := by
  induction items with
  | nil => exact Nat.zero_le _
  | cons a items ih =>
    cases items with
    | nil => simp [writeSeparated]
    | cons b items =>
      simp only [writeSeparated, length_append, length_cons] at ih ⊢
      omega

/-- The items of a text that begins with them. -/
theorem readSeparated_length {sep : Text} {write : α → Text} {read : Text → α × Text}
    (h : ∀ a c rest, Ends c → read (write a ++ c :: rest) = (a, c :: rest)) {items : List α} (hne : items ≠ []) (rest : Text) :
    readSeparated sep read ((writeSeparated sep write items ++ '\n' :: rest).length + 1)
      (writeSeparated sep write items ++ '\n' :: rest) = (items, '\n' :: rest) := by
  refine readSeparated_writeSeparated h hne ?_ rest
  have hlength := length_le_writeSeparated sep write items
  rw [length_append]
  omega

/-! ## Values -/

/-- The break between the items of a list. -/
def listBreak : Text := "\n    ".toList

/-- The break between the members of the document. -/
def memberBreak : Text := "\n  ".toList

def writeValue : FlatValue → Text
  | .text t => quote t
  | .bool true => "true".toList
  | .bool false => "false".toList
  | .number n => decimal n.toNat
  | .texts [] => "[]".toList
  | .texts ts => '[' :: (listBreak ++ (writeSeparated listBreak quote ts ++ '\n' :: "  ]".toList))

/-- A value at the beginning of a text, and what follows it. -/
def readValue (text : Text) : FlatValue × Text :=
  match text with
  | '"' :: _ => (.text (readString text).1, (readString text).2)
  | 't' :: rest => (.bool true, rest.drop 3)
  | 'f' :: rest => (.bool false, rest.drop 4)
  | '[' :: ']' :: rest => (.texts [], rest)
  | '[' :: rest =>
    let items := rest.drop listBreak.length
    let read := readSeparated listBreak readString (items.length + 1) items
    (.texts read.1, read.2.drop 4)
  | _ => (.number (UInt32.ofNat (readDigits text)), text.dropWhile Char.isDigit)

/-- A number is read by its digits. -/
theorem readValue_number (n : UInt32) {c : Char} (rest : Text) (hc : Ends c) :
    readValue (decimal n.toNat ++ c :: rest) = (.number n, c :: rest) := by
  have hdigit : ¬c.isDigit = true := by rcases hc with rfl | rfl <;> decide
  obtain ⟨hvalue, hdrop⟩ := decimal_digits_end n.toNat hdigit rest
  have hhead : ∀ d, (decimal n.toNat ++ c :: rest).head? = some d → d.isDigit = true := by
    intro d hd
    obtain ⟨e, es, hdecimal, he⟩ := exists_decimal_eq_cons n.toNat
    rw [hdecimal, cons_append, head?_cons, Option.some.injEq] at hd
    exact hd ▸ he
  unfold readValue
  -- a number begins with a digit, so that none of the other forms is taken
  split
  · exact absurd (hhead '"' (by simp [*])) (by decide)
  · exact absurd (hhead 't' (by simp [*])) (by decide)
  · exact absurd (hhead 'f' (by simp [*])) (by decide)
  · exact absurd (hhead '[' (by simp [*])) (by decide)
  · exact absurd (hhead '[' (by simp [*])) (by decide)
  · rw [hvalue, hdrop, UInt32.ofNat_toNat]

theorem readValue_writeValue (v : FlatValue) (c : Char) (rest : Text) (hc : Ends c) :
    readValue (writeValue v ++ c :: rest) = (v, c :: rest) := by
  rcases v with t | (_ | _) | n | (_ | ⟨t, ts⟩)
  · have hread := readString_quote t (c :: rest)
    have hquote : ∃ more, quote t ++ c :: rest = '"' :: more := ⟨_, rfl⟩
    obtain ⟨more, hmore⟩ := hquote
    rw [writeValue, hmore]
    rw [hmore] at hread
    simp [readValue, hread]
  · rfl
  · rfl
  · exact readValue_number n rest hc
  · rfl
  · have hitems := @readSeparated_length Text listBreak quote readString (fun t c rest _ => readString_quote t (c :: rest))
      (t :: ts) (List.cons_ne_nil t ts)
      ("  ]".toList ++ c :: rest)
    have htext : writeValue (.texts (t :: ts)) ++ c :: rest =
        '[' :: (listBreak ++ (writeSeparated listBreak quote (t :: ts) ++ '\n' :: ("  ]".toList ++ c :: rest))) := by
      simp [writeValue]
    rw [htext]
    have hopen : ∀ more : Text, readValue ('[' :: (listBreak ++ more)) =
        (.texts (readSeparated listBreak readString (more.length + 1) more).1,
          (readSeparated listBreak readString (more.length + 1) more).2.drop 4) := fun _ => rfl
    rw [hopen, hitems]
    rfl

/-! ## Documents -/

def writeMember (member : Text × FlatValue) : Text := quote member.1 ++ ':' :: ' ' :: writeValue member.2

/-- A member at the beginning of a text, and what follows it. -/
def readMember (text : Text) : (Text × FlatValue) × Text :=
  let name := readString text
  let value := readValue (name.2.drop 2)
  ((name.1, value.1), value.2)

theorem readMember_writeMember (member : Text × FlatValue) (c : Char) (rest : Text) (hc : Ends c) :
    readMember (writeMember member ++ c :: rest) = (member, c :: rest) := by
  have htext : writeMember member ++ c :: rest = quote member.1 ++ (':' :: ' ' :: (writeValue member.2 ++ c :: rest)) := by
    simp [writeMember]
  rw [htext]
  simp [readMember, readString_quote, readValue_writeValue member.2 c rest hc]

/-- `to_string_pretty` of an object. -/
def toStringPretty : List (Text × FlatValue) → Text
  | [] => "{}".toList
  | members => '{' :: (memberBreak ++ (writeSeparated memberBreak writeMember members ++ ['\n', '}']))

/-- The members of a printed object. -/
def readObject : Text → List (Text × FlatValue)
  | '{' :: '}' :: _ => []
  | text =>
    let members := text.drop (memberBreak.length + 1)
    (readSeparated memberBreak readMember (members.length + 1) members).1

theorem readObject_toStringPretty (members : List (Text × FlatValue)) : readObject (toStringPretty members) = members := by
  rcases members with _ | ⟨member, members⟩
  · rfl
  have hread := @readSeparated_length _ memberBreak writeMember readMember readMember_writeMember (member :: members)
    (cons_ne_nil member members) ['}']
  have hopen : ∀ more : Text, readObject ('{' :: (memberBreak ++ more)) =
      (readSeparated memberBreak readMember (more.length + 1) more).1 := fun _ => rfl
  have htext : toStringPretty (member :: members) =
      '{' :: (memberBreak ++ (writeSeparated memberBreak writeMember (member :: members) ++ '\n' :: ['}'])) := rfl
  rw [htext, hopen, hread]

/-- The document of a text, if it is one that is printed. -/
def parse (text : Text) : Option (Document FlatValue) :=
  if toStringPretty (readObject text) = text ∧ ((readObject text).map Prod.fst).Nodup then some (.object (readObject text))
  else none

/-- The members of an object as they come into a `Map`. -/
def mapped : Document FlatValue → Document FlatValue
  | .object members => .object (SortedMap.extend [] members)
  | document => document

theorem parse_toStringPretty {members : List (Text × FlatValue)} (h : (members.map Prod.fst).Nodup) :
    parse (toStringPretty members) = some (.object members) := by
  rw [parse, readObject_toStringPretty, if_pos ⟨rfl, h⟩]

end PrettyJson

def flatValues : JsonValues where
  Value := FlatValue
  text := .text
  bool := .bool
  number := .number
  texts := .texts
  readText | .text t => some t | _ => none
  readBool | .bool b => some b | _ => none
  readU32 | .number n => some n | _ => none
  readTexts | .texts ts => some ts | _ => none
  readText_text _ := rfl
  readBool_bool _ := rfl
  readU32_number _ := rfl
  readTexts_texts _ := rfl

theorem flatValues_membersAlike (m : List (Text × FlatValue)) : flatValues.MembersAlike m m :=
  forall₂_same.mpr fun _ _ => ⟨rfl, rfl, rfl, rfl, rfl⟩

/-- Flat documents as `serde_json` prints them. -/
def prettyJson : SerdeJson where
  toJsonValues := flatValues
  members := PrettyJson.parse
  fromStr text := (PrettyJson.parse text).map PrettyJson.mapped
  toStringPretty := PrettyJson.toStringPretty
  fromStr_sorted := by
    intro text m h
    obtain ⟨document, -, hm⟩ := Option.map_eq_some_iff.mp h
    rcases document with m' | items | _
    · cases hm
      exact SortedMap.sorted_extend Pairwise.nil m'
    · cases hm
    · cases hm
  members_pretty {m} h := ⟨m, PrettyJson.parse_toStringPretty h, flatValues_membersAlike m⟩
  fromStr_pretty {m} h := ⟨m, _, by rw [PrettyJson.parse_toStringPretty h]; rfl, flatValues_membersAlike m,
    (SortedMap.perm_extend_nil h).symm⟩

/-! ## A sealing -/

namespace CarriedKey

def encodeByte (byte : UInt8) : Char := Char.ofNat byte.toNat

/-- The byte of a character, if it is one. -/
def decodeByte (c : Char) : Option UInt8 := if c.toNat < 256 then some (UInt8.ofNat c.toNat) else none

theorem decodeByte_encodeByte (byte : UInt8) : decodeByte (encodeByte byte) = some byte := by
  have hbyte : byte.toNat < 256 := byte.toNat_lt
  have hchar : (Char.ofNat byte.toNat).toNat = byte.toNat := toNat_ofNat (.inl (by omega))
  rw [decodeByte, encodeByte, hchar, if_pos hbyte, UInt8.ofNat_toNat]

theorem decode_encode (bytes : Bytes) : (bytes.map encodeByte).mapM decodeByte = some bytes := by
  induction bytes with
  | nil => rfl
  | cons byte bytes ih => simp [decodeByte_encodeByte, ih]

theorem split_key (p : Bytes) (key : Key) :
    (p ++ key.val).take ((p ++ key.val).length - keyLen) = p ∧ (p ++ key.val).drop ((p ++ key.val).length - keyLen) = key.val := by
  have hlength : (p ++ key.val).length - keyLen = p.length := by
    rw [length_append, key.property]
    omega
  rw [hlength]
  exact ⟨take_left, drop_left⟩

end CarriedKey

open CarriedKey

/-- A sealing that puts the key behind the plaintext in place of a tag, and opens what has its key there. -/
def carriedKey : Sealing where
  encrypt key _ plaintext := some (plaintext ++ key.val)
  decrypt key _ c := if c.drop (c.length - keyLen) = key.val then some (c.take (c.length - keyLen)) else none
  encode bytes := bytes.map encodeByte
  decode text := text.mapM decodeByte
  tagLen_le := by
    intro key nonce plaintext c h
    cases h
    rw [length_append, key.property]
    exact Nat.le_add_left_of_le (by decide)
  decrypt_encrypt := by
    intro key nonce plaintext c h
    cases h
    rw [if_pos (split_key plaintext key).2, (split_key plaintext key).1]
  decode_encode := CarriedKey.decode_encode
  decode_nil := rfl

theorem carriedKey_rejectsWrongKey : carriedKey.RejectsWrongKey := by
  intro key other nonce plaintext c h hne
  cases h
  exact if_neg fun hkey => hne (Subtype.ext (hkey.symm.trans (split_key plaintext key).2))

/-- A key as the random generator gives it. -/
def sampleKey : Key := ⟨replicate 32 4, rfl⟩

/-- A nonce as the random generator gives it. -/
def sampleNonce : Nonce := ⟨replicate 12 3, rfl⟩

end ExvVpn.Config
