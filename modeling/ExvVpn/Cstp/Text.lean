import ExvVpn.Tools.RustStr
import ExvVpn.Cstp.Codec

/-! # Texts taken from the wire

The redaction of `exv-vpn-cstp` for texts that came from the peer or the operating system. -/

namespace ExvVpn.Cstp

open RustStr

/-- The field names behind which nothing of a text is kept. -/
def sensitiveMarkers : List Text :=
  ["cookie".toList, "authorization".toList, "password".toList, "passwd".toList, "credential".toList, "token".toList,
    "secret".toList, "webvpn".toList, "bearer".toList, "username".toList]

/-- Where the first sensitive marker of a text starts, in any letter case. -/
def sensitiveStart (text : Text) : Option Nat :=
  (sensitiveMarkers.filterMap (fun marker => find marker (toAsciiLowercase text))).min?

def redactWord (word : Text) : Text :=
  if (find "://".toList word).isSome then "[url redacted]".toList
  else if word.contains '=' then "[value redacted]".toList
  else word

/-- Keep the context of an error text: cut it at the first credential field, replace addresses and values. -/
def redactIoDetail (text : Text) : Text :=
  let start := sensitiveStart text
  let result := join [' '] ((splitWhitespace (text.take (start.getD text.length))).map redactWord)
  if start.isSome then result ++ " [sensitive detail redacted]".toList else result

end ExvVpn.Cstp
