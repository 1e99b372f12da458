import Mathlib.Algebra.Ring.Nat
import Mathlib.Data.List.Basic

/-! # Rust strings

The text functions of Rust's standard library, over a string as the list of its characters, with the encodings of a
string as bytes and as UTF-16 units. -/

namespace RustStr

open List

/-! ## Characters -/

/-- `char::is_whitespace`: the Unicode property White_Space. -/
def isWhitespace (c : Char) : Bool :=
  let n := c.toNat
  (0x09 ≤ n && n ≤ 0x0D) || n == 0x20 || n == 0x85 || n == 0xA0 || n == 0x1680 || (0x2000 ≤ n && n ≤ 0x200A) ||
    n == 0x2028 || n == 0x2029 || n == 0x202F || n == 0x205F || n == 0x3000

/-- `char::is_control`: the Unicode general category Cc. -/
def isControl (c : Char) : Bool :=
  c.toNat ≤ 0x1F || (0x7F ≤ c.toNat && c.toNat ≤ 0x9F)

/-- `str::to_ascii_lowercase`. -/
def toAsciiLowercase (text : List Char) : List Char := text.map Char.toLower

/-- `str::to_ascii_uppercase`. -/
def toAsciiUppercase (text : List Char) : List Char := text.map Char.toUpper

/-- The number of a lower-case letter. -/
theorem toNat_toLower (c : Char) : c.toLower.toNat = if 65 ≤ c.toNat ∧ c.toNat ≤ 90 then c.toNat + 32 else c.toNat := by
  have hupper : (c.val ≥ 'A'.val ∧ c.val ≤ 'Z'.val) ↔ (65 ≤ c.toNat ∧ c.toNat ≤ 90) := by
    rfl
  unfold Char.toLower
  split
  · rename_i h
    have hle := (hupper.mp h).2
    rw [if_pos (hupper.mp h)]
    change (c.toNat + 32) % 2 ^ 32 = c.toNat + 32
    omega
  · rename_i h
    rw [if_neg (mt hupper.mpr h)]

/-- The letters and digits of ASCII. -/
theorem isAlphanum_iff (c : Char) : c.isAlphanum = true ↔
    (65 ≤ c.toNat ∧ c.toNat ≤ 90) ∨ (97 ≤ c.toNat ∧ c.toNat ≤ 122) ∨ (48 ≤ c.toNat ∧ c.toNat ≤ 57) := by
  delta Char.isAlphanum Char.isAlpha Char.isUpper Char.isLower Char.isDigit
  simp only [Bool.or_eq_true, decide_eq_true_eq, Bool.and_eq_true, ge_iff_le, UInt32.le_iff_toNat_le, or_assoc]
  rfl

variable {c : Char}

/-- Lower case keeps letters and digits. -/
theorem isAlphanum_toLower (h : c.isAlphanum = true) : c.toLower.isAlphanum = true := by
  rw [isAlphanum_iff] at h ⊢
  rw [toNat_toLower]
  split_ifs <;> omega

variable {sep : Char}

/-- Lowercasing makes no character of another that is not a letter. -/
theorem toLower_eq_iff (h : sep.toNat < 65) : c.toLower = sep ↔ c = sep := by
  rw [← Char.toNat_inj, toNat_toLower, ← Char.toNat_inj]
  split_ifs <;> omega

variable {text : List Char}

/-- Lower case keeps ASCII. -/
theorem toAsciiLowercase_ascii (h : ∀ c ∈ text, c.toNat < 128) : ∀ c ∈ toAsciiLowercase text, c.toNat < 128 := by
  intro c hc
  obtain ⟨upper, hupper, rfl⟩ := mem_map.mp hc
  have hascii := h upper hupper
  rw [toNat_toLower]
  split_ifs <;> omega

/-! ## Cutting and joining -/

/-- `str::find` of a text: where it first occurs. -/
def find (pattern : List Char) : List Char → Option Nat
  | [] => if pattern.isEmpty then some 0 else none
  | c :: cs => if pattern.isPrefixOf (c :: cs) then some 0 else (find pattern cs).map (· + 1)

/-- `str::trim`. -/
def trim (text : List Char) : List Char :=
  ((text.dropWhile isWhitespace).reverse.dropWhile isWhitespace).reverse

/-- `str::split` at a character. -/
def split (sep : Char) (text : List Char) : List (List Char) := text.splitOn sep

/-- `str::split_once` at a character: what is in front of its first occurrence and what is behind. -/
def splitOnce (sep : Char) : List Char → Option (List Char × List Char)
  | [] => none
  | c :: cs => if c = sep then some ([], cs) else (splitOnce sep cs).map fun p => (c :: p.1, p.2)

/-- `str::rsplit_once` at a character: what is in front of its last occurrence and what is behind. -/
def rsplitOnce (sep : Char) (text : List Char) : Option (List Char × List Char) :=
  (splitOnce sep text.reverse).map fun p => (p.2.reverse, p.1.reverse)

/-- `[String]::join`. -/
def join (sep : List Char) (parts : List (List Char)) : List Char := sep.intercalate parts

/-- The words of `split_whitespace`, with the word under way in front. -/
def splitWhitespaceFrom (word : List Char) : List Char → List (List Char)
  | [] => if word.isEmpty then [] else [word]
  | c :: cs =>
    if isWhitespace c then (if word.isEmpty then [] else [word]) ++ splitWhitespaceFrom [] cs
    else splitWhitespaceFrom (word ++ [c]) cs

/-- `str::split_whitespace`. -/
def splitWhitespace (text : List Char) : List (List Char) := splitWhitespaceFrom [] text

/-- A line without the carriage return in front of its end. -/
def stripCarriageReturn (line : List Char) : List Char := if line.getLast? = some '\r' then line.dropLast else line

/-- The lines of the parts between newlines: what is behind the last newline is a line only if there is something. -/
def linesOf : List (List Char) → List (List Char)
  | [] => []
  | [last] => if last.isEmpty then [] else [last]
  | line :: rest => stripCarriageReturn line :: linesOf rest

/-- `str::lines`. -/
def lines (text : List Char) : List (List Char) := linesOf (split '\n' text)

/-- `str::strip_prefix`. -/
def stripPrefix (start : List Char) (text : List Char) : Option (List Char) :=
  if start.isPrefixOf text then some (text.drop start.length) else none

/-- `str::replace` of one character by another. -/
def replace (old new : Char) (text : List Char) : List Char := text.map fun c => if c = old then new else c

/-- A pattern is found exactly if it is there. -/
theorem find_isSome {pattern : List Char} : (find pattern text).isSome = true ↔ pattern <:+: text := by
  induction text with
  | nil => cases pattern <;> simp [find]
  | cons c cs ih =>
    rw [find, infix_cons_iff, ← isPrefixOf_iff_prefix, ← ih]
    by_cases hstart : pattern.isPrefixOf (c :: cs) = true <;> simp [hstart]

/-- A text is found where it first occurs. -/
theorem find_eq_some_iff {pattern : List Char} {n : Nat} (hne : pattern ≠ []) :
    find pattern text = some n ↔ pattern <+: text.drop n ∧ ∀ k < n, ¬pattern <+: text.drop k := by
  induction text generalizing n with
  | nil => simp [find, hne]
  | cons c cs ih =>
    rw [find]
    by_cases hstart : pattern <+: c :: cs
    · cases n with
      | zero => simp [hstart]
      | succ n =>
        rw [Nat.forall_lt_succ_left]
        simp [hstart]
    · cases n with
      | zero => simp [hstart]
      | succ n =>
        rw [Nat.forall_lt_succ_left]
        simp [hstart, ih]

/-- A text without the separator that stands in two parts stands in one of them. -/
theorem infix_append_cons {pattern a b : List Char} (hsep : sep ∉ pattern) (h : pattern <:+: a ++ sep :: b) :
    pattern <:+: a ∨ pattern <:+: b := by
  have hcons : ∀ {p : List Char}, sep ∉ p → p <+: sep :: b → p = [] := by
    intro p hp hprefix
    cases p with
    | nil => rfl
    | cons c p =>
      obtain ⟨rfl, -⟩ := cons_prefix_cons.mp hprefix
      exact absurd mem_cons_self hp
  rcases infix_append_iff.mp h with h | h | ⟨x, y, rfl, hx, hy⟩
  · exact .inl h
  · rcases infix_cons_iff.mp h with h | h
    · exact .inl (hcons hsep h ▸ nil_infix)
    · exact .inr h
  · rw [hcons (fun hin => hsep (mem_append_right x hin)) hy, append_nil]
    exact .inl hx.isInfix

/-- Trimming adds nothing. -/
theorem mem_of_mem_trim (h : c ∈ trim text) : c ∈ text := by
  rw [trim, mem_reverse] at h
  have h1 := (dropWhile_sublist _).mem h
  rw [mem_reverse] at h1
  exact (dropWhile_sublist _).mem h1

/-- A character of a joined text stands in a part or in a separator. -/
theorem mem_join {sep : List Char} {parts : List (List Char)} :
    c ∈ join sep parts ↔ (∃ p ∈ parts, c ∈ p) ∨ 1 < parts.length ∧ c ∈ sep := by
  induction parts with
  | nil => simp [join]
  | cons p rest ih =>
    cases rest with
    | nil => simp [join]
    | cons q rest =>
      rw [join, intercalate_cons_cons, mem_append, mem_append, ← join, ih]
      grind

/-- Splitting adds nothing. -/
theorem mem_of_mem_split {p : List Char} (hp : p ∈ split sep text) (hc : c ∈ p) : c ∈ text := by
  have h : c ∈ join [sep] (split sep text) := mem_join.mpr (.inl ⟨p, hp, hc⟩)
  rwa [join, split, intercalate_splitOn] at h

/-- The two sides and the separator are the text. -/
theorem splitOnce_eq_some {a b : List Char} (h : splitOnce sep text = some (a, b)) : text = a ++ sep :: b := by
  induction text generalizing a b with
  | nil => cases h
  | cons c cs ih =>
    unfold splitOnce at h
    split at h
    · rename_i hc
      cases h
      rw [hc, nil_append]
    · obtain ⟨⟨a', b'⟩, h', hab⟩ := Option.map_eq_some_iff.mp h
      cases hab
      rw [ih h', cons_append]

/-- The split is at the first separator. -/
theorem splitOnce_append {a : List Char} (h : sep ∉ a) (b : List Char) :
    splitOnce sep (a ++ sep :: b) = some (a, b) := by
  induction a with
  | nil => simp [splitOnce]
  | cons c a ih =>
    obtain ⟨hc, ha⟩ := not_or.mp (mt mem_cons.mpr h)
    rw [cons_append, splitOnce, if_neg (Ne.symm hc), ih ha]
    rfl

/-- No split without a separator. -/
theorem splitOnce_eq_none : splitOnce sep text = none ↔ sep ∉ text := by
  induction text with
  | nil => simp [splitOnce]
  | cons c text ih =>
    rw [splitOnce]
    by_cases hc : c = sep
    · simp [hc]
    · rw [if_neg hc, Option.map_eq_none_iff, ih, mem_cons, not_or]
      exact (and_iff_right (Ne.symm hc)).symm

/-- Splitting goes through a change of characters that leaves the separators where they are. -/
theorem split_map {f : Char → Char} (hf : ∀ c, f c = sep ↔ c = sep) (text : List Char) :
    split sep (text.map f) = (split sep text).map (map f) := by
  induction text with
  | nil => rfl
  | cons c text ih =>
    simp only [split] at ih ⊢
    rw [map_cons, splitOn_cons_eq_if_modifyHead, splitOn_cons_eq_if_modifyHead, ih]
    by_cases hc : c = sep
    · simp [hc, (hf sep).mpr rfl]
    · have hfc : f c ≠ sep := fun h => hc ((hf c).mp h)
      rw [if_neg (by simpa using hfc), if_neg (by simpa using hc)]
      rcases splitOn sep text with _ | ⟨part, parts⟩ <;> rfl

/-! ## Numbers -/

/-- The value of decimal digits. -/
def digitsValue (digits : List Char) : Nat := digits.foldl (fun v d => v * 10 + (d.toNat - '0'.toNat)) 0

/-- The value of a text of decimal digits, when there is one and it is at most `max`. -/
def parseDigits (max : Nat) (digits : List Char) : Option Nat :=
  if !digits.isEmpty && digits.all Char.isDigit && digitsValue digits ≤ max then some (digitsValue digits) else none

/-- `str::parse` into an unsigned type with the given largest value: decimal digits behind an optional plus sign. -/
def parseUnsigned (max : Nat) : List Char → Option Nat
  | '+' :: digits => parseDigits max digits
  | digits => parseDigits max digits

/-- `str::parse::<u32>`. -/
def parseU32 (text : List Char) : Option UInt32 := (parseUnsigned (2 ^ 32 - 1) text).map UInt32.ofNat

/-- The parts between commas, trimmed, without the empty ones. -/
def commaList (text : List Char) : List (List Char) := ((split ',' text).map trim).filter fun item => !item.isEmpty

/-- A number as `format!` writes it. -/
def decimal (n : Nat) : List Char := Nat.toDigits 10 n

variable {n : Nat}

/-- A number is printed in digits. -/
theorem isDigit_of_mem_decimal (h : c ∈ decimal n) : c.isDigit = true :=
  Nat.isDigit_of_mem_toDigits (by decide) (by decide) h

/-- Nothing else is in a printed number. -/
theorem notMem_decimal (h : c.isDigit = false) : c ∉ decimal n := by
  intro hc
  rw [isDigit_of_mem_decimal hc] at h
  cases h

/-- A printed number starts with a digit. -/
theorem exists_decimal_eq_cons (n : Nat) : ∃ c digits, decimal n = c :: digits ∧ c.isDigit = true := by
  obtain ⟨c, digits, h⟩ := exists_cons_of_ne_nil (Nat.toDigits_ne_nil (n := n) (b := 10))
  exact ⟨c, digits, h, isDigit_of_mem_decimal (h ▸ mem_cons_self)⟩

/-- Digits parse as their value, if it is not too large. -/
theorem parseDigits_eq_some {max : Nat} {digits : List Char} :
    parseDigits max digits = some n ↔
      (digits ≠ [] ∧ ∀ c ∈ digits, c.isDigit = true) ∧ digitsValue digits = n ∧ n ≤ max := by
  simp only [parseDigits, Option.ite_none_right_eq_some, Bool.and_eq_true, decide_eq_true_eq, all_eq_true,
    Bool.not_eq_true', isEmpty_eq_false_iff]
  constructor
  · rintro ⟨⟨hdigits, hle⟩, ⟨⟩⟩
    exact ⟨hdigits, rfl, hle⟩
  · rintro ⟨hdigits, rfl, hle⟩
    exact ⟨⟨hdigits, hle⟩, rfl⟩

/-- Every character of a number's text is a digit or the plus sign. -/
theorem mem_of_parseUnsigned {max : Nat} (h : parseUnsigned max text = some n)
    (hc : c ∈ text) : c = '+' ∨ c.isDigit = true := by
  unfold parseUnsigned at h
  split at h
  · rcases mem_cons.mp hc with rfl | hc
    · exact .inl rfl
    · exact .inr ((parseDigits_eq_some.mp h).1.2 c hc)
  · exact .inr ((parseDigits_eq_some.mp h).1.2 c hc)

/-- A number as `{:x}` writes it. -/
def hexadecimal (n : Nat) : List Char := Nat.toDigits 16 n

/-- `char::to_digit` in radix 16. -/
def toDigit (c : Char) : Option Nat :=
  if c.isDigit then some (c.toNat - 48)
  else if 'a' ≤ c ∧ c ≤ 'f' then some (c.toNat - 87)
  else if 'A' ≤ c ∧ c ≤ 'F' then some (c.toNat - 55)
  else none

/-- The value of a text of hexadecimal digits. -/
def fromHex (digits : List Char) : Option Nat :=
  if digits.isEmpty then none else digits.foldlM (fun v c => (toDigit c).map (v * 16 + ·)) 0

/-- A hexadecimal digit is read back. -/
theorem toDigit_digitChar : ∀ d < 16, toDigit d.digitChar = some d := by decide

/-- A number is printed in hexadecimal digits. -/
theorem mem_hexadecimal (h : c ∈ hexadecimal n) : ∃ d < 16, c = d.digitChar := by
  induction n using Nat.strongRecOn with
  | ind n ih =>
    rw [hexadecimal, Nat.toDigits_eq_if (by decide)] at h
    split at h
    · rename_i hlt
      exact ⟨n, hlt, mem_singleton.mp h⟩
    · rcases mem_append.mp h with h | h
      · exact ih _ (Nat.div_lt_self (by omega) (by decide)) h
      · exact ⟨n % 16, Nat.mod_lt _ (by decide), mem_singleton.mp h⟩

/-- A hexadecimal number is read back. -/
theorem fromHex_hexadecimal (n : Nat) : fromHex (hexadecimal n) = some n := by
  rw [fromHex, if_neg (by simp [hexadecimal, Nat.toDigits_ne_nil])]
  induction n using Nat.strongRecOn with
  | ind n ih =>
    rw [hexadecimal, Nat.toDigits_eq_if (by decide)]
    split
    · rename_i hlt
      simp [toDigit_digitChar n hlt]
    · rw [foldlM_append, ← hexadecimal, ih _ (Nat.div_lt_self (by omega) (by decide))]
      simp [toDigit_digitChar _ (Nat.mod_lt n (by decide : 0 < 16)), Nat.div_add_mod']

/-! ## UTF-8 -/

/-- `str::as_bytes`. -/
def asBytes (text : List Char) : List UInt8 := text.flatMap String.utf8EncodeChar

/-- `str::from_utf8`. -/
def fromUtf8 (bytes : List UInt8) : Option (List Char) := (String.fromUTF8? bytes.toByteArray).map String.toList

/-- An ASCII text has as many bytes as characters. -/
theorem length_asBytes (h : ∀ c ∈ text, c.toNat < 128) : (asBytes text).length = text.length := by
  induction text with
  | nil => rfl
  | cons c text ih =>
    obtain ⟨hc, htext⟩ := forall_mem_cons.mp h
    have hsize : (String.utf8EncodeChar c).length = 1 := by
      rw [String.length_utf8EncodeChar, Char.utf8Size_eq_one_iff, UInt32.le_iff_toNat_le]
      exact Nat.le_of_lt_succ hc
    rw [asBytes, flatMap_cons, length_append, hsize, length_cons, Nat.add_comm]
    exact congrArg (· + 1) (ih htext)

/-- A text is read back from its bytes. -/
theorem fromUtf8_asBytes (text : List Char) : fromUtf8 (asBytes text) = some text := by
  have hbytes : (asBytes text).toByteArray = (String.ofList text).toByteArray := by
    rfl
  rw [fromUtf8, hbytes, String.fromUTF8?, dif_pos (String.ofList text).isValidUTF8]
  exact congrArg some String.toList_ofList

/-- Different texts have different bytes. -/
theorem asBytes_inj {a b : List Char} (h : asBytes a = asBytes b) : a = b := by
  have hread := congrArg fromUtf8 h
  rwa [fromUtf8_asBytes, fromUtf8_asBytes, Option.some.injEq] at hread

@[simp] theorem asBytes_nil : asBytes [] = [] := rfl

/-- The bytes of the first character come first. -/
@[simp] theorem asBytes_cons (c : Char) (text : List Char) :
    asBytes (c :: text) = String.utf8EncodeChar c ++ asBytes text := flatMap_cons

/-- The bytes of two texts. -/
@[simp] theorem asBytes_append (a b : List Char) : asBytes (a ++ b) = asBytes a ++ asBytes b := flatMap_append

/-- Only the empty text has no bytes. -/
@[simp] theorem asBytes_eq_nil : asBytes text = [] ↔ text = [] := by
  cases text with
  | nil => simp
  | cons c text => simp [String.utf8EncodeChar_ne_nil]

/-- The bytes are those of the library. -/
theorem toByteArray_asBytes (text : List Char) : (asBytes text).toByteArray = text.utf8Encode := rfl

/-- Only the encoding of a text is decoded, and to that text. -/
theorem fromUtf8_eq_some {bytes : List UInt8} : fromUtf8 bytes = some text ↔ bytes = asBytes text := by
  constructor
  · intro h
    unfold fromUtf8 String.fromUTF8? at h
    split at h
    · have htext := Option.some.inj h
      refine toByteArray_inj.mp ?_
      rw [toByteArray_asBytes, ← htext, String.utf8Encode_toList]
      rfl
    · cases h
  · intro h
    rw [h, fromUtf8_asBytes]

/-- What follows the encoding of a text is decoded on its own. -/
theorem fromUtf8_asBytes_append (text : List Char) (bytes : List UInt8) :
    fromUtf8 (asBytes text ++ bytes) = (fromUtf8 bytes).map (text ++ ·) := by
  refine Option.ext fun whole => ?_
  rw [fromUtf8_eq_some, Option.map_eq_some_iff]
  constructor
  · intro h
    have harray : text.utf8Encode ++ bytes.toByteArray = whole.utf8Encode := by
      rw [← toByteArray_asBytes, ← toByteArray_asBytes, ← h, toByteArray_append]
    obtain ⟨rest, rfl⟩ := isPrefix_of_utf8Encode_append_eq_utf8Encode _ harray
    rw [asBytes_append] at h
    exact ⟨rest, fromUtf8_eq_some.mpr (append_cancel_left h), rfl⟩
  · intro ⟨rest, hrest, hwhole⟩
    rw [← hwhole, asBytes_append, fromUtf8_eq_some.mp hrest]

/-- Where the first bytes of a text can be decoded, they are the first characters. -/
theorem isPrefix_of_fromUtf8_take {first : List Char} (h : fromUtf8 ((asBytes text).take n) = some first) :
    first <+: text := by
  have hwhole := fromUtf8_asBytes text
  rw [← take_append_drop n (asBytes text), fromUtf8_eq_some.mp h, fromUtf8_asBytes_append] at hwhole
  obtain ⟨rest, -, hrest⟩ := Option.map_eq_some_iff.mp hwhole
  exact ⟨rest, hrest⟩

/-- A byte below 128 is a character of its own. -/
theorem mem_of_mem_asBytes (hc : c.toNat < 0x80) (h : UInt8.ofNat c.toNat ∈ asBytes text) : c ∈ text := by
  obtain ⟨d, hd, hbyte⟩ := mem_flatMap.mp h
  suffices c = d from this ▸ hd
  have hnat : ∀ n < 256, UInt8.ofNat c.toNat = UInt8.ofNat n → c.toNat = n := by
    intro n hn heq
    have hmod := congrArg UInt8.toNat heq
    simp only [UInt8.toNat_ofNat'] at hmod
    omega
  have hhigh : ∀ n < 256, 0x80 ≤ n → UInt8.ofNat c.toNat ≠ UInt8.ofNat n := by
    intro n hn hle heq
    have := hnat n hn heq
    omega
  have hval : d.val.toNat = d.toNat := rfl
  unfold String.utf8EncodeChar at hbyte
  simp only [hval] at hbyte
  split at hbyte
  · exact Char.toNat_inj.mp (hnat d.toNat (by omega) (mem_singleton.mp hbyte))
  -- every byte of a longer encoding is at least 128
  · exfalso
    split at hbyte
    · simp only [mem_cons, not_mem_nil, or_false] at hbyte
      rcases hbyte with h | h <;> exact hhigh _ (by omega) (by omega) h
    split at hbyte
    · simp only [mem_cons, not_mem_nil, or_false] at hbyte
      rcases hbyte with h | h | h <;> exact hhigh _ (by omega) (by omega) h
    · simp only [mem_cons, not_mem_nil, or_false] at hbyte
      rcases hbyte with h | h | h | h <;> exact hhigh _ (by omega) (by omega) h

/-- The replacement character `from_utf8_lossy` writes for an ill-formed part. -/
def replacementCharacter : Char := Char.ofNat 0xFFFD

/-- A multi-byte character under way: bytes still needed, bits so far and the range of the next byte. -/
structure Utf8Pending where
  need : Nat
  acc : Nat
  lo : UInt8
  hi : UInt8
  deriving DecidableEq, Repr

/-- What a byte starts: a whole character (or its replacement), or a multi-byte character under way. -/
def utf8Start (b : UInt8) : Char ⊕ Utf8Pending :=
  if b < 0x80 then .inl (Char.ofNat b.toNat)
  else if 0xC2 ≤ b ∧ b ≤ 0xDF then .inr ⟨1, (b &&& 0x1F).toNat, 0x80, 0xBF⟩
  else if b = 0xE0 then .inr ⟨2, (b &&& 0x0F).toNat, 0xA0, 0xBF⟩
  else if b = 0xED then .inr ⟨2, (b &&& 0x0F).toNat, 0x80, 0x9F⟩
  else if 0xE1 ≤ b ∧ b ≤ 0xEF then .inr ⟨2, (b &&& 0x0F).toNat, 0x80, 0xBF⟩
  else if b = 0xF0 then .inr ⟨3, (b &&& 0x07).toNat, 0x90, 0xBF⟩
  else if b = 0xF4 then .inr ⟨3, (b &&& 0x07).toNat, 0x80, 0x8F⟩
  else if 0xF1 ≤ b ∧ b ≤ 0xF3 then .inr ⟨3, (b &&& 0x07).toNat, 0x80, 0xBF⟩
  else .inl replacementCharacter

/-- `from_utf8_lossy` from the middle of a character: each maximal ill-formed part becomes one replacement character. -/
def utf8LossyFrom : Option Utf8Pending → List UInt8 → List Char
  | none, [] => []
  | some _, [] => [replacementCharacter]
  | none, b :: rest =>
    match utf8Start b with
    | .inl c => c :: utf8LossyFrom none rest
    | .inr p => utf8LossyFrom (some p) rest
  | some p, b :: rest =>
    if p.lo ≤ b ∧ b ≤ p.hi then
      if p.need ≤ 1 then Char.ofNat (p.acc * 64 + (b &&& 0x3F).toNat) :: utf8LossyFrom none rest
      else utf8LossyFrom (some ⟨p.need - 1, p.acc * 64 + (b &&& 0x3F).toNat, 0x80, 0xBF⟩) rest
    else
      match utf8Start b with
      | .inl c => replacementCharacter :: c :: utf8LossyFrom none rest
      | .inr p' => replacementCharacter :: utf8LossyFrom (some p') rest

/-- `String::from_utf8_lossy`. -/
def fromUtf8Lossy (bytes : List UInt8) : List Char := utf8LossyFrom none bytes

/-! ## UTF-16 -/

/-- The units of one character. -/
def utf16Units (c : Char) : List UInt16 :=
  if c.toNat < 0x10000 then [UInt16.ofNat c.toNat]
  else [UInt16.ofNat (0xD800 + (c.toNat - 0x10000) / 1024), UInt16.ofNat (0xDC00 + (c.toNat - 0x10000) % 1024)]

/-- `str::encode_utf16`. -/
def encodeUtf16 (text : List Char) : List UInt16 := text.flatMap utf16Units

/-- The character of a surrogate pair. -/
def surrogatePair (high low : UInt16) : Char :=
  Char.ofNat (0x10000 + (high.toNat - 0xD800) * 1024 + (low.toNat - 0xDC00))

/-- `String::from_utf16`: a surrogate outside a pair is an error. -/
def fromUtf16 : List UInt16 → Option (List Char)
  | [] => some []
  | [u] => if u < 0xD800 ∨ 0xE000 ≤ u then some [Char.ofNat u.toNat] else none
  | u :: v :: rest =>
    if u < 0xD800 ∨ 0xE000 ≤ u then (fromUtf16 (v :: rest)).map (Char.ofNat u.toNat :: ·)
    else if u < 0xDC00 ∧ 0xDC00 ≤ v ∧ v < 0xE000 then (fromUtf16 rest).map (surrogatePair u v :: ·)
    else none

variable {u : UInt16}

/-- A unit that is no surrogate is a character. -/
theorem fromUtf16_cons_plain (h : u < 0xD800 ∨ 0xE000 ≤ u) (rest : List UInt16) :
    fromUtf16 (u :: rest) = (fromUtf16 rest).map (Char.ofNat u.toNat :: ·) := by
  cases rest with
  | nil => simp only [fromUtf16, if_pos h, Option.map_some]
  | cons v rest => rw [fromUtf16, if_pos h]

/-- A character is no surrogate. -/
theorem char_range (c : Char) : c.toNat < 0xD800 ∨ 0xDFFF < c.toNat ∧ c.toNat < 0x110000 := by
  have h := c.valid
  simpa [UInt32.isValidChar, Nat.isValidChar] using h

/-- The units of a character are read back. -/
theorem fromUtf16_utf16Units (c : Char) (rest : List UInt16) :
    fromUtf16 (utf16Units c ++ rest) = (fromUtf16 rest).map (c :: ·) := by
  have hrange := char_range c
  have hword : ∀ {n}, n < UInt16.size → ∃ u, UInt16.ofNat n = u ∧ u.toNat = n :=
    fun h => ⟨_, rfl, UInt16.toNat_ofNat_of_lt' h⟩
  unfold utf16Units
  split
  · rename_i hlt
    obtain ⟨u, hu, hnat⟩ := hword hlt
    have hplain : u < 0xD800 ∨ 0xE000 ≤ u := by
      rw [UInt16.lt_iff_toNat_lt, UInt16.le_iff_toNat_le, hnat]
      simp only [UInt16.reduceToNat]
      omega
    rw [hu, singleton_append, fromUtf16_cons_plain hplain, hnat, Char.ofNat_toNat]
  · obtain ⟨high, hhigh, hhighNat⟩ := hword (n := 0xD800 + (c.toNat - 0x10000) / 1024) (by unfold UInt16.size; omega)
    obtain ⟨low, hlow, hlowNat⟩ := hword (n := 0xDC00 + (c.toNat - 0x10000) % 1024) (by unfold UInt16.size; omega)
    have hnot : ¬(high < 0xD800 ∨ 0xE000 ≤ high) := by
      rw [UInt16.lt_iff_toNat_lt, UInt16.le_iff_toNat_le, hhighNat]
      simp only [UInt16.reduceToNat]
      omega
    have hpair : high < 0xDC00 ∧ 0xDC00 ≤ low ∧ low < 0xE000 := by
      rw [UInt16.lt_iff_toNat_lt, UInt16.le_iff_toNat_le, UInt16.lt_iff_toNat_lt, hhighNat, hlowNat]
      simp only [UInt16.reduceToNat]
      omega
    have hc : surrogatePair high low = c := by
      have hnat : 0x10000 + (high.toNat - 0xD800) * 1024 + (low.toNat - 0xDC00) = c.toNat := by omega
      rw [surrogatePair, hnat, Char.ofNat_toNat]
    rw [hhigh, hlow, cons_append, cons_append, nil_append, fromUtf16, if_neg hnot, if_pos hpair, hc]

/-- Decoding the units of a text gives the text back. -/
theorem fromUtf16_encodeUtf16 (text : List Char) : fromUtf16 (encodeUtf16 text) = some text := by
  induction text with
  | nil => rfl
  | cons c text ih =>
    have happ : encodeUtf16 (c :: text) = utf16Units c ++ encodeUtf16 text := by simp [encodeUtf16]
    rw [happ, fromUtf16_utf16Units, ih, Option.map_some]

/-- Two texts have different units. -/
theorem encodeUtf16_injective : Function.Injective encodeUtf16 := by
  intro s t h
  have hs := fromUtf16_encodeUtf16 s
  rw [h, fromUtf16_encodeUtf16] at hs
  exact (Option.some.inj hs).symm

/-- The character of a number that is no surrogate. -/
theorem toNat_ofNat (h : n < 0xD800 ∨ 0xDFFF < n ∧ n < 0x110000) : (Char.ofNat n).toNat = n := by
  have hv : n.isValidChar := h
  rw [Char.ofNat, dif_pos hv]
  rfl

/-- A character of one unit. -/
theorem utf16Units_plain (h : u < 0xD800 ∨ 0xE000 ≤ u) : utf16Units (Char.ofNat u.toNat) = [u] := by
  have hlt := u.toNat_lt
  rw [UInt16.lt_iff_toNat_lt, UInt16.le_iff_toNat_le] at h
  simp only [UInt16.reduceToNat] at h
  have hnat : (Char.ofNat u.toNat).toNat = u.toNat := toNat_ofNat (by omega)
  rw [utf16Units, hnat, if_pos hlt, UInt16.ofNat_toNat]

/-- A character of two units. -/
theorem utf16Units_surrogatePair {v : UInt16} (hplain : ¬(u < 0xD800 ∨ 0xE000 ≤ u))
    (hpair : u < 0xDC00 ∧ 0xDC00 ≤ v ∧ v < 0xE000) : utf16Units (surrogatePair u v) = [u, v] := by
  rw [UInt16.lt_iff_toNat_lt, UInt16.le_iff_toNat_le] at hplain
  rw [UInt16.lt_iff_toNat_lt, UInt16.le_iff_toNat_le, UInt16.lt_iff_toNat_lt] at hpair
  simp only [UInt16.reduceToNat] at hplain hpair
  have hnat : (surrogatePair u v).toNat = 0x10000 + (u.toNat - 0xD800) * 1024 + (v.toNat - 0xDC00) := toNat_ofNat (by omega)
  have hhigh : 0xD800 + ((surrogatePair u v).toNat - 0x10000) / 1024 = u.toNat := by omega
  have hlow : 0xDC00 + ((surrogatePair u v).toNat - 0x10000) % 1024 = v.toNat := by omega
  rw [utf16Units, if_neg (by omega), hhigh, hlow, UInt16.ofNat_toNat, UInt16.ofNat_toNat]

variable {units : List UInt16}

/-- Units that are decoded are the encoding of the text. -/
theorem encodeUtf16_of_fromUtf16 (h : fromUtf16 units = some text) : encodeUtf16 text = units := by
  fun_induction fromUtf16 units generalizing text with
  | case1 =>
    obtain rfl := Option.some.inj h
    rfl
  | case2 u hplain =>
    obtain rfl := Option.some.inj h
    simp [encodeUtf16, utf16Units_plain hplain]
  | case3 | case6 => cases h
  | case4 u v rest hplain ih =>
    obtain ⟨tail, htail, rfl⟩ := Option.map_eq_some_iff.mp h
    rw [encodeUtf16, flatMap_cons, utf16Units_plain hplain, singleton_append]
    exact congrArg (u :: ·) (ih htail)
  | case5 u v rest hplain hpair ih =>
    obtain ⟨tail, htail, rfl⟩ := Option.map_eq_some_iff.mp h
    rw [encodeUtf16, flatMap_cons, utf16Units_surrogatePair hplain hpair]
    exact congrArg (u :: v :: ·) (ih htail)

/-- What is read is what is written. -/
theorem fromUtf16_eq_some : fromUtf16 units = some text ↔ encodeUtf16 text = units := by
  constructor
  · exact encodeUtf16_of_fromUtf16
  · intro h
    rw [← h, fromUtf16_encodeUtf16]

/-! ## The character NUL -/

/-- A text without NUL has no zero unit. -/
theorem zero_notMem_encodeUtf16 (h : '\x00' ∉ text) : 0 ∉ encodeUtf16 text := by
  intro hz
  obtain ⟨c, hc, hu⟩ := mem_flatMap.mp hz
  have hne : c.toNat ≠ 0 := by
    intro h0
    have hnul : c = '\x00' := by rw [← Char.ofNat_toNat c, h0]
    exact h (hnul ▸ hc)
  have hunit : ∀ n, 0 < n → n < UInt16.size → (0 : UInt16) ≠ UInt16.ofNat n := by
    intro n hpos hlt h0
    have hnat := congrArg UInt16.toNat h0
    rw [UInt16.toNat_ofNat_of_lt' hlt] at hnat
    exact Nat.ne_of_lt hpos hnat
  have hrange := char_range c
  unfold utf16Units at hu
  split at hu
  · rename_i hlt
    exact hunit _ (Nat.pos_of_ne_zero hne) hlt (mem_singleton.mp hu)
  · rcases mem_cons.mp hu with hu | hu
    · exact hunit _ (by omega) (by unfold UInt16.size; omega) hu
    · exact hunit _ (by omega) (by unfold UInt16.size; omega) (mem_singleton.mp hu)

/-- Units without zero decode to a text without NUL. -/
theorem nul_notMem_fromUtf16 (h : fromUtf16 units = some text) (hz : 0 ∉ units) : '\x00' ∉ text := by
  intro hc
  rw [← encodeUtf16_of_fromUtf16 h] at hz
  exact hz (mem_flatMap_of_mem hc (mem_singleton_self _))

end RustStr
