import ExvVpn.Cstp.LoginForm

/-! # The login form reads back

What a server gets by splitting the body of the credential POST at `&` and `=` and undoing the percent-encoding is the list
of fields that was meant, in order, whatever the page and the user put into them. -/

namespace ExvVpn.Cstp

open RustStr List Option

/-! ## Reading a form -/

/-- The value of a hexadecimal digit, in either case. -/
def hexValue (digit : UInt8) : Option Nat :=
  if 48 ≤ digit ∧ digit ≤ 57 then some (digit.toNat - 48)
  else if 65 ≤ digit ∧ digit ≤ 70 then some (digit.toNat - 55)
  else if 97 ≤ digit ∧ digit ≤ 102 then some (digit.toNat - 87)
  else none

/-- Undo the percent-encoding. -/
def percentDecode : Bytes → Option Bytes
  | [] => some []
  | 37 :: high :: low :: rest => do
    return UInt8.ofNat (16 * (← hexValue high) + (← hexValue low)) :: (← percentDecode rest)
  | byte :: rest => if byte = 37 then none else (percentDecode rest).map (byte :: ·)

/-- A field: the name in front of the first `=`, the value behind it. -/
def decodeField (part : Bytes) : Option (Bytes × Bytes) :=
  match part.dropWhile (· ≠ 61) with
  | [] => none
  | _ :: value => do return (← percentDecode (part.takeWhile (· ≠ 61)), ← percentDecode value)

/-- All fields of a form body. -/
def decodeForm (body : Bytes) : Option (List (Bytes × Bytes)) := (body.splitOn 38).mapM decodeField

/-- The fields that the login means to send: the hidden fields with their values or nothing, the credentials, the group if
the form has one, and the button. -/
def loginFields (form : LoginForm) (username password : Bytes) : List (Bytes × Bytes) :=
  [(literal "tgroup", asBytes (form.tgroup.getD [])), (literal "next", asBytes (form.next.getD [])),
    (literal "tgcookieset", asBytes (form.tgcookieset.getD [])), (literal "csrf_token", asBytes form.csrfToken),
    (literal "username", username), (literal "password", password)] ++
    (form.groupList.toList.map fun group => (literal "group_list", asBytes group)) ++
    [(literal "Login", literal "Logon")]

namespace LoginFormAux

/-! ## Percent-encoding -/

/-- The two halves of a byte. -/
theorem halves (b : UInt8) : (b >>> 4).toNat = b.toNat / 16 ∧ (b &&& 0x0f).toNat = b.toNat % 16 := by
  exact ⟨Nat.shiftRight_eq_div_pow b.toNat 4, Nat.and_two_pow_sub_one_eq_mod b.toNat 4⟩

theorem percentDecode_encodeByte (b : UInt8) (rest : Bytes) :
    percentDecode (percentEncodeByte b ++ rest) = (percentDecode rest).map (b :: ·) := by
  unfold percentEncodeByte
  split
  · rename_i hplain
    have hne : b ≠ 37 := by
      rintro rfl
      exact absurd hplain (by decide)
    rw [singleton_append, percentDecode, if_neg hne]
    rintro _ _ _ rfl
    exact absurd rfl hne
  · have hb := b.toNat_lt
    have hdigit : ∀ n < 16, hexValue (hexDigit n) = some n := by decide
    have hbyte : UInt8.ofNat (16 * (b.toNat / 16) + b.toNat % 16) = b := by
      rw [Nat.div_add_mod, UInt8.ofNat_toNat]
    rw [(halves b).1, (halves b).2]
    simp only [cons_append, nil_append, percentDecode, hdigit (b.toNat / 16) (by omega),
      hdigit (b.toNat % 16) (by omega), Option.pure_def, Option.bind_eq_bind, Option.bind_some, hbyte, Option.map_eq_bind]
    rfl

/-- What is encoded is decoded again. -/
theorem percentDecode_encode (input : Bytes) : percentDecode (percentEncode input) = some input := by
  induction input with
  | nil => rfl
  | cons b input ih =>
    show percentDecode (percentEncodeByte b ++ percentEncode input) = some (b :: input)
    rw [percentDecode_encodeByte, ih]
    rfl

/-- A separator does not come out of the encoding. -/
theorem notMem_percentEncode {sep : UInt8} (hsep : sep = 38 ∨ sep = 61) (input : Bytes) : sep ∉ percentEncode input := by
  intro h
  obtain ⟨b, -, hb⟩ := mem_flatMap.mp h
  have hdigit : ∀ n < 16, hexDigit n ≠ 38 ∧ hexDigit n ≠ 61 := by decide
  have hhigh := hdigit (b >>> 4).toNat (by have := b.toNat_lt; rw [(halves b).1]; omega)
  have hlow := hdigit (b &&& 0x0f).toNat (by rw [(halves b).2]; omega)
  unfold percentEncodeByte at hb
  split at hb
  · rename_i hplain
    obtain rfl := mem_singleton.mp hb
    rcases hsep with rfl | rfl <;> exact absurd hplain (by decide)
  · rcases hsep with rfl | rfl <;> grind

/-! ## Fields -/

/-- A field as it is sent. -/
def encodeField (field : Bytes × Bytes) : Bytes := percentEncode field.1 ++ 61 :: percentEncode field.2

theorem decodeField_encodeField (field : Bytes × Bytes) : decodeField (encodeField field) = some field := by
  have hname : ∀ byte ∈ percentEncode field.1, decide (byte ≠ 61) = true := by
    intro byte hbyte
    refine decide_eq_true ?_
    rintro rfl
    exact notMem_percentEncode (.inr rfl) _ hbyte
  rw [decodeField, encodeField, dropWhile_append_of_pos hname, takeWhile_append_of_pos hname]
  simp [percentDecode_encode]

theorem decodeForm_intercalate {fields : List (Bytes × Bytes)} (h : fields ≠ []) :
    decodeForm ([38].intercalate (fields.map encodeField)) = some fields := by
  rw [decodeForm, List.splitOn_intercalate]
  · rw [List.mapM_map, show decodeField ∘ encodeField = fun field => pure (id field) from funext decodeField_encodeField,
      List.mapM_pure, List.map_id]
    rfl
  · intro part hpart
    obtain ⟨field, -, rfl⟩ := List.mem_map.mp hpart
    have hname := notMem_percentEncode (.inl rfl) field.1
    have hvalue := notMem_percentEncode (.inl rfl) field.2
    simp [encodeField, hname, hvalue]
  · simpa using h

/-- The body is the encoded fields. -/
theorem loginFormBody_eq (form : LoginForm) (username password : Bytes) :
    loginFormBody form username password = [38].intercalate ((loginFields form username password).map encodeField) := by
  have hfirst : literal "tgroup=" = percentEncode (literal "tgroup") ++ [61] := by decide
  have hnext : literal "&next=" = 38 :: percentEncode (literal "next") ++ [61] := by decide
  have hset : literal "&tgcookieset=" = 38 :: percentEncode (literal "tgcookieset") ++ [61] := by decide
  have hcsrf : literal "&csrf_token=" = 38 :: percentEncode (literal "csrf_token") ++ [61] := by decide
  have husername : literal "&username=" = 38 :: percentEncode (literal "username") ++ [61] := by decide
  have hpassword : literal "&password=" = 38 :: percentEncode (literal "password") ++ [61] := by decide
  have hgroup : literal "&group_list=" = 38 :: percentEncode (literal "group_list") ++ [61] := by decide
  have hlast : literal "&Login=Logon" = 38 :: percentEncode (literal "Login") ++ 61 :: percentEncode (literal "Logon") := by
    decide
  rw [loginFormBody, hfirst, hnext, hset, hcsrf, husername, hpassword, hlast]
  cases hlist : form.groupList with
  | none => simp [loginFields, encodeField, hlist, intercalate]
  | some group => simp [loginFields, encodeField, hlist, hgroup, intercalate]

end LoginFormAux

open LoginFormAux

/-- The body of the credential POST reads back as the fields that were meant. -/
theorem decodeForm_loginFormBody (form : LoginForm) (username password : Bytes) :
    decodeForm (loginFormBody form username password) = some (loginFields form username password) := by
  rw [loginFormBody_eq]
  exact decodeForm_intercalate (by simp [loginFields])

end ExvVpn.Cstp
