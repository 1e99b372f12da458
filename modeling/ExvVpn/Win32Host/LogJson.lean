import ExvVpn.Win32Host.LogAggregator

/-!
# Entries as JSON

The form that `serde_json` gives a `DiskLogEntry`: the fields in the order of the struct, without white space. The reader
takes exactly the texts that are written. The crate's reader takes more (white space, other orders, unknown fields), but no
line of a log is of that kind: it begins as an entry, and what is joined to it is no JSON.
-/

namespace ExvVpn.Win32Host

open RustStr LineFile List Int64

namespace LogJson

/-! ## Texts -/

/-- A character in a JSON string. -/
def escape (c : Char) : Text :=
  if c = '"' then ['\\', '"']
  else if c = '\\' then ['\\', '\\']
  else if c = '\x08' then ['\\', 'b']
  else if c = '\t' then ['\\', 't']
  else if c = '\n' then ['\\', 'n']
  else if c = '\x0c' then ['\\', 'f']
  else if c = '\r' then ['\\', 'r']
  else if c.toNat < 0x20 then ['\\', 'u', '0', '0', Nat.digitChar (c.toNat / 16), Nat.digitChar (c.toNat % 16)]
  else [c]

/-- A JSON string. -/
def quote (text : Text) : Text := '"' :: (text.flatMap escape ++ ['"'])

def hexValue (c : Char) : Nat := if c.isDigit then c.toNat - '0'.toNat else c.toNat - 'a'.toNat + 10

/-- The character that is written behind a backslash, and how many characters it takes. -/
def unescape (text : Text) : Char × Nat :=
  match text.headD ' ' with
  | 'u' => (Char.ofNat (16 * hexValue (text.getD 3 ' ') + hexValue (text.getD 4 ' ')), 5)
  | 'b' => ('\x08', 1)
  | 't' => ('\t', 1)
  | 'n' => ('\n', 1)
  | 'f' => ('\x0c', 1)
  | 'r' => ('\r', 1)
  | c => (c, 1)

/-- A string up to its closing quotation mark and what follows, behind characters that are skipped. -/
def readChars : Nat → Text → Text × Text
  | _, [] => ([], [])
  | skipped + 1, _ :: rest => readChars skipped rest
  | 0, c :: rest =>
    if c = '"' then ([], rest)
    else if c = '\\' then
      let (text, after) := readChars (unescape rest).2 rest
      ((unescape rest).1 :: text, after)
    else
      let (text, after) := readChars 0 rest
      (c :: text, after)

def readString (text : Text) : Text × Text := readChars 0 (text.drop 1)

theorem hexValue_digitChar : ∀ d < 16, hexValue (Nat.digitChar d) = d := by decide

/-- The characters that have an escape of two characters. -/
def Short (c : Char) : Prop := c = '"' ∨ c = '\\' ∨ c = '\x08' ∨ c = '\t' ∨ c = '\n' ∨ c = '\x0c' ∨ c = '\r'

theorem escape_of_not_short {c : Char} (h : ¬ Short c) :
    escape c =
      if c.toNat < 0x20 then ['\\', 'u', '0', '0', Nat.digitChar (c.toNat / 16), Nat.digitChar (c.toNat % 16)]
      else [c] := by
  simp only [Short, not_or] at h
  obtain ⟨h1, h2, h3, h4, h5, h6, h7⟩ := h
  rw [escape, if_neg h1, if_neg h2, if_neg h3, if_neg h4, if_neg h5, if_neg h6, if_neg h7]

theorem readChars_escape (c : Char) (rest : Text) :
    readChars 0 (escape c ++ rest) = (c :: (readChars 0 rest).1, (readChars 0 rest).2) := by
  by_cases hshort : Short c
  · rcases hshort with rfl | rfl | rfl | rfl | rfl | rfl | rfl <;> simp [escape, readChars, unescape]
  rw [escape_of_not_short hshort]
  split
  · have hhigh := hexValue_digitChar (c.toNat / 16) (by omega)
    have hlow := hexValue_digitChar (c.toNat % 16) (by omega)
    have hvalue : 16 * (c.toNat / 16) + c.toNat % 16 = c.toNat := Nat.div_add_mod c.toNat 16
    simp [readChars, unescape, hhigh, hlow, hvalue]
  · simp only [Short, not_or] at hshort
    simp [readChars, hshort.1, hshort.2.1]

theorem readString_quote (text rest : Text) : readString (quote text ++ rest) = (text, rest) := by
  have hchars : readChars 0 (text.flatMap escape ++ '"' :: rest) = (text, rest) := by
    induction text with
    | nil => rfl
    | cons c text ih => rw [List.flatMap_cons, List.append_assoc, readChars_escape, ih]
  rw [readString, quote, List.cons_append, List.drop_one, List.tail_cons, List.append_assoc]
  exact hchars

theorem digitChar_plain : ∀ d < 16, Plain [Nat.digitChar d] := by decide

theorem plain_escape (c : Char) : Plain (escape c) := by
  by_cases hshort : Short c
  · rcases hshort with rfl | rfl | rfl | rfl | rfl | rfl | rfl <;> decide
  rw [escape_of_not_short hshort]
  split
  · have hdigits : Plain [Nat.digitChar (c.toNat / 16), Nat.digitChar (c.toNat % 16)] :=
      (digitChar_plain (c.toNat / 16) (by omega)).append (digitChar_plain (c.toNat % 16) (by omega))
    exact Plain.append (a := ['\\', 'u', '0', '0']) (by decide) hdigits
  · simp only [Short, not_or] at hshort
    intro d hd
    rw [List.mem_singleton.mp hd]
    exact ⟨hshort.2.2.2.2.1, hshort.2.2.2.2.2.2⟩

theorem plain_quote (text : Text) : Plain (quote text) := by
  have hchars : Plain (text.flatMap escape) := by
    intro c hc
    obtain ⟨d, -, hmem⟩ := List.mem_flatMap.mp hc
    exact plain_escape d c hmem
  exact Plain.append (a := ['"']) (by decide) (hchars.append (by decide))

/-! ## Numbers -/

/-- An `i64` as JSON. -/
def writeInt (value : Int64) : Text :=
  if value.toInt < 0 then '-' :: decimal value.toInt.natAbs else decimal value.toInt.natAbs

/-- The digits at the beginning of a text as a number. -/
def readDigits (text : Text) : Nat := Nat.ofDigitChars 10 (text.takeWhile Char.isDigit) 0

/-- A number and what follows. -/
def readInt : Text → Int64 × Text
  | '-' :: text => (ofInt (-(readDigits text : Int)), text.dropWhile Char.isDigit)
  | text => (ofInt (readDigits text), text.dropWhile Char.isDigit)

/-- The digits in front of a character that is none. -/
theorem decimal_digits_end (n : Nat) {c : Char} (hc : ¬c.isDigit = true) (rest : Text) :
    readDigits (decimal n ++ c :: rest) = n ∧ (decimal n ++ c :: rest).dropWhile Char.isDigit = c :: rest := by
  have hdigits : ∀ d ∈ decimal n, d.isDigit = true := fun d hd => isDigit_of_mem_decimal hd
  rw [readDigits, takeWhile_append_of_pos hdigits, takeWhile_cons_of_neg hc, append_nil, dropWhile_append_of_pos hdigits,
    dropWhile_cons_of_neg hc]
  exact ⟨Nat.ofDigitChars_ten_toDigits, rfl⟩

theorem readInt_writeInt (value : Int64) (rest : Text) : readInt (writeInt value ++ ',' :: rest) = (value, ',' :: rest) := by
  obtain ⟨hdigits, hrest⟩ := decimal_digits_end value.toInt.natAbs (c := ',') (by decide) rest
  unfold writeInt
  split
  · have hvalue : -(value.toInt.natAbs : Int) = value.toInt := by omega
    rw [cons_append, readInt, hdigits, hrest, hvalue, ofInt_toInt]
  have hvalue : (value.toInt.natAbs : Int) = value.toInt := by omega
  rw [readInt.eq_def]
  split
  · rename_i text htext
    -- the text of a number that is not negative does not begin with a sign
    obtain ⟨c, cs, hdecimal, hdigit⟩ := exists_decimal_eq_cons value.toInt.natAbs
    rw [hdecimal, cons_append, cons.injEq] at htext
    rw [htext.1] at hdigit
    exact absurd hdigit (by decide)
  · rw [hdigits, hrest, hvalue, ofInt_toInt]

theorem plain_writeInt (value : Int64) : Plain (writeInt value) := by
  have hdecimal : Plain (decimal value.toInt.natAbs) := by
    intro c hc
    constructor
    · rintro rfl
      exact notMem_decimal rfl hc
    · rintro rfl
      exact notMem_decimal rfl hc
  unfold writeInt
  split
  · exact Plain.append (a := ['-']) (by decide) hdecimal
  · exact hdecimal

/-! ## Maps -/

/-- The members of a JSON object whose values are strings. -/
def writePairs : List (Text × Text) → Text
  | [] => []
  | [pair] => quote pair.1 ++ ':' :: quote pair.2
  | pair :: rest => quote pair.1 ++ ':' :: quote pair.2 ++ ',' :: writePairs rest

/-- At most as many members of an object as the fuel allows. -/
def readPairs : Nat → Text → List (Text × Text)
  | 0, _ => []
  | fuel + 1, text =>
    let (key, text) := readString text
    let (value, text) := readString (text.drop 1)
    (key, value) ::
      match text with
      | ',' :: text => readPairs fuel text
      | _ => []

/-- The members of an object, from its first one on. -/
def readMap : Text → List (Text × Text)
  | '}' :: _ => []
  | text => readPairs text.length text

theorem readPairs_writePairs {pairs : List (Text × Text)} (hne : pairs ≠ []) {fuel : Nat} (hfuel : pairs.length ≤ fuel)
    (rest : Text) : readPairs fuel (writePairs pairs ++ '}' :: rest) = pairs := by
  induction pairs generalizing fuel with
  | nil => exact absurd rfl hne
  | cons pair pairs ih =>
    obtain ⟨fuel, rfl⟩ := Nat.exists_eq_add_one_of_ne_zero (Nat.ne_of_gt (Nat.lt_of_lt_of_le (Nat.succ_pos _) hfuel))
    cases pairs with
    | nil =>
      simp only [writePairs, append_assoc, cons_append, readPairs, readString_quote, drop_one, tail_cons]
      rfl
    | cons next pairs =>
      simp only [writePairs, append_assoc, cons_append, readPairs, readString_quote, drop_one, tail_cons]
      rw [ih (by simp) (by simpa using hfuel)]

variable (pairs : List (Text × Text))

theorem length_le_writePairs : pairs.length ≤ (writePairs pairs).length := by
  induction pairs with
  | nil => exact Nat.le_refl 0
  | cons pair pairs ih =>
    cases pairs with
    | nil => simp [writePairs, quote]
    | cons next pairs =>
      simp only [writePairs, length_append, length_cons] at ih ⊢
      omega

theorem readMap_writePairs (rest : Text) :
    readMap (writePairs pairs ++ '}' :: rest) = pairs := by
  cases pairs with
  | nil => rfl
  | cons pair pairs =>
    have hhead : ∃ text, writePairs (pair :: pairs) = '"' :: text := by
      cases pairs <;> exact ⟨_, rfl⟩
    obtain ⟨text, htext⟩ := hhead
    have hlength := length_le_writePairs (pair :: pairs)
    have hfuel : (pair :: pairs).length ≤ (writePairs (pair :: pairs) ++ '}' :: rest).length := by
      rw [List.length_append]
      omega
    have hread := readPairs_writePairs (List.cons_ne_nil pair pairs) hfuel rest
    rw [htext] at hread ⊢
    exact hread

theorem plain_writePairs : Plain (writePairs pairs) := by
  induction pairs with
  | nil => decide
  | cons pair pairs ih =>
    have hpair : Plain (quote pair.1 ++ ':' :: quote pair.2) :=
      (plain_quote _).append (Plain.append (a := [':']) (by decide) (plain_quote _))
    cases pairs with
    | nil => exact hpair
    | cons next pairs => exact hpair.append (Plain.append (a := [',']) (by decide) ih)

/-! ## Entries -/

/-- The name of a field, up to its value. -/
def key (name : String) : Text := '"' :: (name.toList ++ ['"', ':'])

def write (entry : DiskLogEntry) : Text :=
  '{' :: key "timestamp_ms" ++ writeInt entry.timestampMs ++ ',' :: key "received_ms" ++ writeInt entry.receivedMs ++
    ',' :: key "level" ++ quote entry.level ++ ',' :: key "source" ++ quote entry.source ++
    ',' :: key "component" ++ quote entry.component ++ ',' :: key "code" ++ quote entry.code ++
    ',' :: key "message" ++ quote entry.message ++ ',' :: key "fields" ++ '{' :: writePairs entry.fields.1 ++ ['}', '}']

/-- A text behind a bracket or comma and the name of a field. -/
def skipKey (name : String) (text : Text) : Text := text.drop ((key name).length + 1)

/-- The entry of a text that was written for one. -/
def readEntry (text : Text) : Option DiskLogEntry :=
  let (timestampMs, text) := readInt (skipKey "timestamp_ms" text)
  let (receivedMs, text) := readInt (skipKey "received_ms" text)
  let (level, text) := readString (skipKey "level" text)
  let (source, text) := readString (skipKey "source" text)
  let (component, text) := readString (skipKey "component" text)
  let (code, text) := readString (skipKey "code" text)
  let (message, text) := readString (skipKey "message" text)
  let pairs := readMap ((skipKey "fields" text).drop 1)
  if h : pairs.Pairwise fun a b => a.1 < b.1 then
    some ⟨timestampMs, receivedMs, level, source, component, code, message, pairs, h⟩
  else none

/-- The entry that a text was written for, if there is one. -/
def read (text : Text) : Option DiskLogEntry := (readEntry text).filter fun entry => write entry = text

theorem skipKey_cons (name : String) (c : Char) (rest : Text) : skipKey name (c :: (key name ++ rest)) = rest := by
  rw [skipKey, drop_succ_cons, drop_left]

theorem readEntry_write (entry : DiskLogEntry) : readEntry (write entry) = some entry := by
  unfold readEntry write
  simp only [append_assoc, cons_append, skipKey_cons, readInt_writeInt, readString_quote, drop_one,
    tail_cons, readMap_writePairs]
  rw [dif_pos entry.fields.2]

theorem read_eq_some {text : Text} {entry : DiskLogEntry} : read text = some entry ↔ write entry = text := by
  rw [read, Option.filter_eq_some_iff]
  constructor
  · intro h
    exact of_decide_eq_true h.2
  · intro h
    exact ⟨h ▸ readEntry_write entry, decide_eq_true h⟩

theorem head?_write (entry : DiskLogEntry) : (write entry).head? = some '{' := by
  unfold write
  simp

theorem plain_write (entry : DiskLogEntry) : Plain (write entry) := by
  unfold write
  simp only [plain_append_iff, plain_cons_iff, plain_writeInt, plain_quote, plain_writePairs, and_true]
  decide +kernel

end LogJson

/-- Entries as lines of JSON. -/
def diskLogJson : LineFormat DiskLogEntry where
  write := LogJson.write
  read := LogJson.read
  opening := '{'
  opening_visible := by decide
  read_write _ := LogJson.read_eq_some.mpr rfl
  head_write := LogJson.head?_write
  plain_write := LogJson.plain_write
  read_append_write text entry hhead hread := by
    have heq := LogJson.read_eq_some.mp hread
    rw [self_eq_append_left.mp heq] at hhead
    cases hhead

end ExvVpn.Win32Host
