import ExvVpn.Cstp.Codec
import ExvVpn.Tools.Ipv4

/-!
# The tunnel offer

`parse_offer` of `exv-vpn-cstp`: the head of the gateway's answer as a tunnel plan, or nothing when it is not an offer.
-/

namespace ExvVpn.Cstp

open RustStr Ipv4 List Option Addr

structure TunnelOffer where
  ipv4Address : Addr
  prefixLen : Nat
  mtu : Nat
  dnsServers : List Addr
  routes : List Text
deriving DecidableEq, Repr

/-- The bits of an octet, the highest first. -/
def octetBits (octet : UInt8) : List Bool := [7, 6, 5, 4, 3, 2, 1, 0].map fun bit => octet.toNat.testBit bit

/-- The loop of `netmask_to_prefix`: the ones so far and whether a zero was seen. -/
def countOnes : Nat → Bool → List Bool → Option Nat
  | ones, _, [] => some ones
  | ones, seenZero, true :: rest => if seenZero then none else countOnes (ones + 1) seenZero rest
  | ones, _, false :: rest => countOnes ones true rest

def netmaskToPrefix (mask : Addr) : Option Nat :=
  countOnes 0 false ([mask.a, mask.b, mask.c, mask.d].flatMap octetBits)

/-- What the lines so far gave. -/
structure OfferFields where
  mtu : Option Nat := none
  address : Option Addr := none
  netmask : Option Addr := none
  dnsServers : List Addr := []
  routes : List Text := []

/-- The key and the value of a line: at the first colon, else at the first whitespace; a line with neither has none. -/
def splitLine (line : Text) : Option (Text × Text) :=
  match splitOnce ':' line with
  | some (key, value) => some (key, trim value)
  | none =>
    match line.findIdx? isWhitespace with
    | some i => some (trim (line.take i), trim (line.drop i))
    | none => none

/-- `X-CSTP-Address` as `CSTP_ADDRESS`. -/
def normalizeKey (key : Text) : Text :=
  toAsciiUppercase (match stripPrefix "X-CSTP-".toList key with
    | some rest => "CSTP_".toList ++ replace '-' '_' rest
    | none => key)

/-- An item of `CSTP_SPLIT_INCLUDE` as the offer parser reads it: an address and a prefix length. -/
def splitIncludeItem (token : Text) : Option (Addr × Nat) :=
  match splitOnce '/' token with
  | none => none
  | some (net, prefixText) =>
    match parse net, parseUnsigned 255 prefixText with
    | some address, some prefixLen => if prefixLen ≤ 32 then some (address, prefixLen) else none
    | _, _ => none

def offerLine (fields : OfferFields) (line : Text) : Option OfferFields :=
  match splitLine line with
  | none => some fields
  | some (key, value) =>
    let key := normalizeKey key
    if key = "CSTP_MTU".toList then
      match parseUnsigned 65535 value with
      | some mtu => if 68 ≤ mtu then some { fields with mtu := some mtu } else none
      | none => none
    else if key = "CSTP_ADDRESS".toList then (parse value).map fun address => { fields with address := some address }
    else if key = "CSTP_NETMASK".toList then (parse value).map fun netmask => { fields with netmask := some netmask }
    else if key = "CSTP_DNS".toList then
      ((splitWhitespace value).mapM parse).map fun servers => { fields with dnsServers := fields.dnsServers ++ servers }
    else if key = "CSTP_SPLIT_INCLUDE".toList then
      if (splitWhitespace value).all fun token => (splitIncludeItem token).isSome then
        some { fields with routes := fields.routes ++ splitWhitespace value }
      else none
    else some fields

/-- The status code of the first line. -/
def offerStatus (head : Text) : Option Nat := do
  let first ← (lines head).head?
  let status ← (splitWhitespace first)[1]?
  parseUnsigned 65535 status

def parseOffer (head : Text) : Option TunnelOffer := do
  let status ← offerStatus head
  if ¬(200 ≤ status ∧ status ≤ 299) then none
  else
    let fields ← (lines head).tail.foldlM offerLine {}
    if (find "dtls".toList (toAsciiLowercase head)).isSome then none
    else
      let netmask ← fields.netmask
      let prefixLen ← netmaskToPrefix netmask
      let ipv4Address ← fields.address
      let mtu ← fields.mtu
      some ⟨ipv4Address, prefixLen, mtu, fields.dnsServers, fields.routes⟩

/-- The head of an offer as a gateway sends it. -/
def sampleOffer : Text :=
  ("HTTP/1.1 200 OK\r\nX-CSTP-MTU: 1406\r\nX-CSTP-Address: 10.88.88.1\r\nX-CSTP-Netmask: 255.255.255.0\r\n" ++
    "X-CSTP-DNS: 10.88.88.2\r\nX-CSTP-Split-Include: 10.0.0.0/8 192.168.0.0/16\r\n\r\n").toList

example : parseOffer sampleOffer = some ⟨⟨10, 88, 88, 1⟩, 24, 1406, [⟨10, 88, 88, 2⟩],
    ["10.0.0.0/8".toList, "192.168.0.0/16".toList]⟩ := by decide +kernel

/-! ## Accepted routes -/

/-- Every line leaves only routes that the parser read as an address and a prefix length. -/
theorem offerLine_routes {fields fields' : OfferFields} {line : Text} (h : offerLine fields line = some fields')
    (hroutes : ∀ route ∈ fields.routes, (splitIncludeItem route).isSome) :
    ∀ route ∈ fields'.routes, (splitIncludeItem route).isSome := by
  unfold offerLine at h
  split at h
  · cases h
    exact hroutes
  dsimp only at h
  split_ifs at h with hmtu haddress hnetmask hdns hinclude hall
  · split at h
    · split_ifs at h
      cases h
      exact hroutes
    · cases h
  · obtain ⟨address, -, rfl⟩ := map_eq_some_iff.mp h
    exact hroutes
  · obtain ⟨netmask, -, rfl⟩ := map_eq_some_iff.mp h
    exact hroutes
  · obtain ⟨servers, -, rfl⟩ := map_eq_some_iff.mp h
    exact hroutes
  · cases h
    intro route hroute
    rcases mem_append.mp hroute with hold | hnew
    · exact hroutes route hold
    · exact all_eq_true.mp hall route hnew
  · cases h
    exact hroutes

/-- Every route of an accepted offer is one that the parser read as an address and a prefix length. -/
theorem parseOffer_routes {head : Text} {offer : TunnelOffer} (h : parseOffer head = some offer) :
    ∀ route ∈ offer.routes, (splitIncludeItem route).isSome := by
  have hlines : ∀ {ls : List Text} {fields fields' : OfferFields}, ls.foldlM offerLine fields = some fields' →
      (∀ route ∈ fields.routes, (splitIncludeItem route).isSome) →
        ∀ route ∈ fields'.routes, (splitIncludeItem route).isSome := by
    intro ls
    induction ls with
    | nil =>
      intro fields fields' h hroutes
      cases h
      exact hroutes
    | cons line ls ih =>
      intro fields fields' h hroutes
      obtain ⟨next, hnext, hrest⟩ := bind_eq_some_iff.mp h
      exact ih hrest (offerLine_routes hnext hroutes)
  obtain ⟨status, -, h⟩ := bind_eq_some_iff.mp h
  split at h
  · cases h
  obtain ⟨fields, hfields, h⟩ := bind_eq_some_iff.mp h
  split at h
  · cases h
  obtain ⟨netmask, -, h⟩ := bind_eq_some_iff.mp h
  obtain ⟨prefixLen, -, h⟩ := bind_eq_some_iff.mp h
  obtain ⟨address, -, h⟩ := bind_eq_some_iff.mp h
  obtain ⟨mtu, -, h⟩ := bind_eq_some_iff.mp h
  cases h
  exact hlines hfields (fun _ hnil => absurd hnil not_mem_nil)

end ExvVpn.Cstp
