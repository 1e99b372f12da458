import ExvVpn.Tools.RustStr

/-! # Files of lines

A file as its bytes, read line by line as `BufRead::lines` reads it. A line ends with a newline, the last one perhaps
without, and a line that is not UTF-8 is an error of its own. -/

namespace LineFile

open RustStr List

/-! ## Lines -/

/-- A line without the carriage return before its newline. -/
def stripReturn (text : List Char) : List Char := if text.getLast? = some '\r' then text.dropLast else text

/-- The lines from the bytes of a line that has begun on, `none` for one that is not UTF-8. -/
def linesFrom (line : List UInt8) : List UInt8 → List (Option (List Char))
  | [] => if line = [] then [] else [fromUtf8 line]
  | byte :: rest =>
    if byte = 10 then (fromUtf8 line).map stripReturn :: linesFrom [] rest else linesFrom (line ++ [byte]) rest

/-- `BufRead::lines`. -/
def lines (bytes : List UInt8) : List (Option (List Char)) := linesFrom [] bytes

/-- The bytes of complete lines. -/
def unlines (texts : List (List Char)) : List UInt8 := texts.flatMap fun text => asBytes text ++ [10]

/-- A text that a line can hold as it is. -/
def Plain (text : List Char) : Prop := ∀ c ∈ text, c ≠ '\n' ∧ c ≠ '\r'

instance (text : List Char) : Decidable (Plain text) :=
  decidableBAll (fun c => c ≠ '\n' ∧ c ≠ '\r') text

variable {text : List Char}

/-- A plain text, character by character. -/
theorem plain_cons_iff {c : Char} : Plain (c :: text) ↔ (c ≠ '\n' ∧ c ≠ '\r') ∧ Plain text :=
  forall_mem_cons

/-- Plain parts make a plain text. -/
theorem plain_append_iff {a b : List Char} : Plain (a ++ b) ↔ Plain a ∧ Plain b := forall_mem_append

theorem Plain.append {a b : List Char} (ha : Plain a) (hb : Plain b) : Plain (a ++ b) := plain_append_iff.mpr ⟨ha, hb⟩

/-- A plain text is one line. -/
theorem Plain.newline_notMem (h : Plain text) : 10 ∉ asBytes text :=
  fun hmem => (h '\n' (mem_of_mem_asBytes (by decide) hmem)).1 rfl

/-- Nothing is stripped off a plain text. -/
theorem stripReturn_of_plain (h : Plain text) : stripReturn text = text :=
  if_neg fun hlast => (h '\r' (mem_of_getLast? hlast)).2 rfl

/-- Bytes without a newline belong to the line. -/
theorem linesFrom_append {bytes : List UInt8} (h : 10 ∉ bytes) (line rest : List UInt8) :
    linesFrom line (bytes ++ rest) = linesFrom (line ++ bytes) rest := by
  induction bytes generalizing line with
  | nil => simp
  | cons byte bytes ih =>
    obtain ⟨hbyte, hbytes⟩ := not_or.mp (mt mem_cons.mpr h)
    rw [cons_append, linesFrom, if_neg (Ne.symm hbyte), ih hbytes, append_assoc, singleton_append]

/-- Lines are written one after the other. -/
@[simp] theorem unlines_append (texts texts' : List (List Char)) :
    unlines (texts ++ texts') = unlines texts ++ unlines texts' := flatMap_append

/-- A line and its newline. -/
@[simp] theorem unlines_singleton (text : List Char) : unlines [text] = asBytes text ++ [10] := by simp [unlines]

variable {texts : List (List Char)}

/-- Complete lines are read back, and what follows them is read on its own. -/
theorem lines_unlines_append (h : ∀ text ∈ texts, Plain text) (rest : List UInt8) :
    lines (unlines texts ++ rest) = texts.map some ++ lines rest := by
  induction texts with
  | nil => rfl
  | cons text texts ih =>
    obtain ⟨htext, htexts⟩ := forall_mem_cons.mp h
    have hbytes : unlines (text :: texts) ++ rest = asBytes text ++ 10 :: (unlines texts ++ rest) := by simp [unlines]
    rw [hbytes, lines, linesFrom_append htext.newline_notMem, linesFrom, if_pos rfl, nil_append, fromUtf8_asBytes,
      Option.map_some, stripReturn_of_plain htext]
    exact congrArg (some text :: ·) (ih htexts)

/-- Bytes without a newline are one line, if there are any. -/
theorem lines_of_notMem {bytes : List UInt8} (h : 10 ∉ bytes) :
    lines bytes = if bytes = [] then [] else [fromUtf8 bytes] := by
  have happend := linesFrom_append h [] []
  rw [append_nil, nil_append] at happend
  rw [lines, happend, linesFrom]

/-- A file of complete lines ends with a newline unless it is empty, and with a tail it ends otherwise. -/
theorem ends_with_newline_iff {tail : List Char} (htail : Plain tail) :
    (unlines texts ++ asBytes tail = [] ∨ (unlines texts ++ asBytes tail).getLast? = some 10) ↔ tail = [] := by
  constructor
  · intro h
    by_contra hne
    have hbytes : asBytes tail ≠ [] := by simpa using hne
    rcases h with hnil | hlast
    · exact hbytes (append_eq_nil_iff.mp hnil).2
    · rw [getLast?_append_of_ne_nil _ hbytes] at hlast
      exact htail.newline_notMem (mem_of_getLast? hlast)
  · intro h
    subst h
    rcases eq_nil_or_concat texts with rfl | ⟨front, last, rfl⟩
    · exact .inl rfl
    · right
      simp

/-! ## Values as lines -/

/-- A form of values as lines. A text of the form begins with a mark that is not white space, and no text that begins so can
be put before a line without the value being lost. -/
structure LineFormat (α : Type) where
  write : α → List Char
  read : List Char → Option α
  opening : Char
  opening_visible : isWhitespace opening = false
  read_write : ∀ a, read (write a) = some a
  head_write : ∀ a, (write a).head? = some opening
  plain_write : ∀ a, Plain (write a)
  read_append_write : ∀ text a, text.head? = some opening → read (text ++ write a) ≠ some a

end LineFile
