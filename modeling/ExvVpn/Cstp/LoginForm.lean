import ExvVpn.Basic
import ExvVpn.Tools.RustStr

/-! # The web login form

`percent_encode_into` and the credential POST of `form_channel_login` in `webvpn.rs` of `exv-vpn-cstp`. -/

namespace ExvVpn.Cstp

open RustStr

def literal (text : String) : Bytes := asBytes text.toList

/-- An unreserved byte of RFC 3986. -/
def isUnreserved (byte : UInt8) : Bool :=
  (Char.ofNat byte.toNat).isAlphanum || (literal "-._~").contains byte

/-- `HEX`. -/
def hexDigit (n : Nat) : UInt8 := (literal "0123456789ABCDEF").getD n 0

/-- One byte of `percent_encode_into`. -/
def percentEncodeByte (byte : UInt8) : Bytes :=
  if isUnreserved byte then [byte] else [37, hexDigit (byte >>> 4).toNat, hexDigit (byte &&& 0x0f).toNat]

/-- `percent_encode_into`. -/
def percentEncode (input : Bytes) : Bytes := input.flatMap percentEncodeByte

/-- `LoginForm`, as far as the POST echoes it; `csrf_token` is required. -/
structure LoginForm where
  tgroup : Option Text
  next : Option Text
  tgcookieset : Option Text
  csrfToken : Text
  groupList : Option Text

/-- The body of the credential POST. -/
def loginFormBody (form : LoginForm) (username password : Bytes) : Bytes :=
  literal "tgroup=" ++ percentEncode (asBytes (form.tgroup.getD [])) ++
    literal "&next=" ++ percentEncode (asBytes (form.next.getD [])) ++
    literal "&tgcookieset=" ++ percentEncode (asBytes (form.tgcookieset.getD [])) ++
    literal "&csrf_token=" ++ percentEncode (asBytes form.csrfToken) ++
    literal "&username=" ++ percentEncode username ++
    literal "&password=" ++ percentEncode password ++
    (match form.groupList with
      | some group => literal "&group_list=" ++ percentEncode (asBytes group)
      | none => []) ++
    literal "&Login=Logon"

end ExvVpn.Cstp
