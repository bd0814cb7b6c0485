import DoorsControl.Data.Text

/-!
# Addresses

Python's `ipaddress.ip_address` and `ipaddress.ip_network(.., strict=False)` for a `str`, as far as
membership goes: the number of an address, the number and the mask of a network. `none` is their
`ValueError`.
-/

namespace DoorsControl

/-- `s.split(sep)` for one character. -/
def splitChar (sep : Char) (s : Text) : List Text := s.splitOn (codePoint sep)

/-- The first part is what comes before the first separator. -/
theorem headD_splitChar (sep : Char) (s : Text) :
    (splitChar sep s).headD [] = s.takeWhile fun c => c != codePoint sep := by
  induction s with
  | nil => rfl
  | cons c rest ih =>
      unfold splitChar List.splitOn at ih ⊢
      rw [List.splitOnP_cons_eq_if_modifyHead, List.takeWhile_cons]
      cases same : c == codePoint sep with
      | true => simp [bne, same]
      | false =>
          rw [if_neg Bool.false_ne_true, bne, same, Bool.not_false, if_pos rfl, ← ih]
          cases parts : rest.splitOnP (· == codePoint sep) with
          | nil => exact absurd parts (List.splitOnP_ne_nil _ _)
          | cons => rfl

/-! ## IPv4 -/

def isAsciiDigit (c : CodePoint) : Bool := 48 ≤ c.val && c.val ≤ 57

/-- `int` of ASCII digits -/
def digitsValue (digits : Text) : Nat := digits.foldl (fun n c => 10 * n + (c.val - 48)) 0

/-- `_parse_octet` -/
def parseOctet (octet : Text) : Option Nat :=
  if octet = [] then none
  else if !octet.all isAsciiDigit then none
  else if octet.length > 3 then none
  else if octet ≠ text "0" ∧ octet.head? = some (codePoint '0') then none
  else if digitsValue octet > 255 then none
  else some (digitsValue octet)

/-- `_BaseV4._ip_int_from_string` -/
def ipv4FromString (ip : Text) : Option Nat :=
  let octets := splitChar '.' ip
  if octets.length ≠ 4 then none
  else (octets.mapM parseOctet).map (List.foldl (fun n octet => 256 * n + octet) 0)

/-- `IPv4Address` -/
def ipv4Address (address : Text) : Option Nat :=
  if codePoint '/' ∈ address then none else ipv4FromString address

/-! ## IPv6 -/

def hexValue? (c : CodePoint) : Option Nat :=
  if 48 ≤ c.val ∧ c.val ≤ 57 then some (c.val - 48)
  else if 65 ≤ c.val ∧ c.val ≤ 70 then some (c.val - 55)
  else if 97 ≤ c.val ∧ c.val ≤ 102 then some (c.val - 87)
  else none

/-- `_parse_hextet` -/
def parseHextet (hextet : Text) : Option Nat :=
  match hextet.mapM hexValue? with
  | none => none
  | some digits =>
      if hextet = [] ∨ hextet.length > 4 then none
      else some (digits.foldl (fun n digit => 16 * n + digit) 0)

def parseHextets (parts : List Text) : Option Nat :=
  (parts.mapM parseHextet).map (List.foldl (fun n hextet => 65536 * n + hextet) 0)

/-- An IPv4 address at the end becomes two hextets. -/
def withoutIpv4Suffix (parts : List Text) : Option (List Text) :=
  let last := parts.getLast?.getD []
  if codePoint '.' ∈ last then
    (ipv4Address last).map fun ip => parts.dropLast ++
      [chars (Nat.toDigits 16 (ip / 65536)), chars (Nat.toDigits 16 (ip % 65536))]
  else some parts

/-- The hextets, with at most one run of zeros left out. -/
def expandParts (parts : List Text) : Option Nat :=
  let last := parts.length - 1
  let openStart := parts.head? = some []
  let openEnd := parts.getLast? = some []
  match (List.range parts.length).filter fun i => 0 < i && i < last && parts[i]? = some [] with
  | [] => if parts.length ≠ 8 ∨ openStart ∨ openEnd then none else parseHextets parts
  | [skip] =>
      let high := if openStart then skip - 1 else skip
      let low := if openEnd then last - skip - 1 else last - skip
      if openStart ∧ high ≠ 0 ∨ openEnd ∧ low ≠ 0 ∨ 8 ≤ high + low then none
      else
        match parseHextets (parts.take high), parseHextets (parts.drop (parts.length - low)) with
        | some upper, some lower => some (upper * Nat.pow 65536 (8 - high) + lower)
        | _, _ => none
  | _ => none

/-- `_BaseV6._ip_int_from_string` -/
def ipv6FromString (ip : Text) : Option Nat :=
  let parts := splitChar ':' ip
  if parts.length < 3 then none
  else
    match withoutIpv4Suffix parts with
    | none => none
    | some parts => if parts.length > 9 then none else expandParts parts

/-- `IPv6Address`, without its scope. -/
def ipv6Address (address : Text) : Option Nat :=
  if codePoint '/' ∈ address then none
  else
    match address.dropWhile fun c => c != codePoint '%' with
    | [] => ipv6FromString address
    | _ :: scope =>
        if scope = [] ∨ codePoint '%' ∈ scope then none
        else ipv6FromString (address.takeWhile fun c => c != codePoint '%')

/-! ## Addresses and networks -/

inductive IpAddress where
  | v4 (ip : Nat)
  | v6 (ip : Nat)
  deriving DecidableEq

/-- `ipaddress.ip_address` -/
def ipAddress (address : Text) : Option IpAddress :=
  match ipv4Address address with
  | some ip => some (.v4 ip)
  | none => (ipv6Address address).map .v6

inductive IpNetwork where
  | v4 (networkAddress netmask : Nat)
  | v6 (networkAddress netmask : Nat)

/-- `_ip_int_from_prefix` -/
def netmaskOf (bits prefixlen : Nat) : Nat := Nat.pow 2 bits - Nat.pow 2 (bits - prefixlen)

/-- `_prefix_from_prefix_string` -/
def prefixFromPrefixString (bits : Nat) (mask : Text) : Option Nat :=
  if mask = [] ∨ !mask.all isAsciiDigit then none
  else if digitsValue mask ≤ bits then some (digitsValue mask) else none

/-- `_prefix_from_ip_int` -/
def prefixFromIpInt (ip : Nat) : Option Nat := (List.range 33).find? fun n => netmaskOf 32 n = ip

/-- `_prefix_from_ip_string`: a netmask or a hostmask. -/
def prefixFromIpString (mask : Text) : Option Nat :=
  match ipv4FromString mask with
  | none => none
  | some ip =>
      match prefixFromIpInt ip with
      | some prefixlen => some prefixlen
      | none => prefixFromIpInt (0xffffffff - ip)

/-- The prefix length of an IPv4 network. -/
def ipv4Prefix (mask : Text) : Option Nat :=
  match prefixFromPrefixString 32 mask with
  | some prefixlen => some prefixlen
  | none => prefixFromIpString mask

/-- The parts of `address/mask`, each read by its reader. -/
def readNetwork (bits : Nat) (readAddress readPrefix : Text → Option Nat) (address : Text) :
    Option (Nat × Nat) :=
  match splitChar '/' address with
  | [ip] => (readAddress ip).map fun ip => (ip, netmaskOf bits bits)
  | [ip, mask] =>
      match readAddress ip, readPrefix mask with
      | some ip, some prefixlen =>
          let netmask := netmaskOf bits prefixlen
          some (Nat.land ip netmask, netmask)
      | _, _ => none
  | _ => none

/-- `ipaddress.ip_network(address, strict=False)` -/
def ipNetwork (address : Text) : Option IpNetwork :=
  match readNetwork 32 ipv4Address ipv4Prefix address with
  | some (ip, netmask) => some (.v4 ip netmask)
  | none => (readNetwork 128 ipv6Address (prefixFromPrefixString 128) address).map
      fun (ip, netmask) => .v6 ip netmask

/-- `address in network` -/
def IpNetwork.contains : IpNetwork → IpAddress → Bool
  | .v4 networkAddress netmask, .v4 ip => Nat.land ip netmask = networkAddress
  | .v6 networkAddress netmask, .v6 ip => Nat.land ip netmask = networkAddress
  | _, _ => false

end DoorsControl
