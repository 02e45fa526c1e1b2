import AssetAccess.Text.Percent
import AssetAccess.Url.Domain
import AssetAccess.Url.Fault
import AssetAccess.Url.Ipv4
import AssetAccess.Url.Ipv6
/-!
# Hosts

A host is an address of 128 bits in brackets, or else it is percent-decoded and read as a domain
name.  A domain name that ends in a number has to be an address of 32 bits.
-/

namespace AssetAccess.Url

/-- A host in normal form. -/
inductive Host where
  | domain (name : String)
  | ipv4 (address : Ipv4)
  | ipv6 (address : Ipv6)
deriving DecidableEq, Repr

namespace Host

/-- The written form of a host. -/
def text : Host → String
  | .domain name => name
  | .ipv4 address => address.text
  | .ipv6 address => "[" ++ address.text ++ "]"

/-- The host that an ASCII domain name denotes. -/
def ofAscii (name : List Char) : Except Fault Host :=
  if name.isEmpty then .error .emptyHost
  else if Ipv4.endsInNumber name then
    match Ipv4.parse? name with
    | some address => .ok (.ipv4 address)
    | none => .error .ipv4
  else .ok (.domain (String.ofList name))

/-- The host that stands between the brackets at both ends of a text. -/
def bracketed (l : List Char) : Except Fault Host :=
  if l.getLast? != some ']' then .error .ipv6
  else match Ipv6.parse? l.dropLast with
    | some address => .ok (.ipv6 address)
    | none => .error .ipv6

/-- The host that a text denotes. -/
def parse : List Char → Except Fault Host
  | [] => .error .emptyHost
  | '[' :: l => bracketed l
  | l =>
    let decoded := Text.ofUtf8? (Percent.decode (String.ofList l))
    match decoded.bind fun s => Domain.ascii? s.toList with
    | some name => ofAscii name
    | none => .error .domain

end Host

end AssetAccess.Url
