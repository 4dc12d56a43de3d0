import SqlMapping.Url.Address
import SqlMapping.Url.Domain.Basic

/-!
# Hosts

In urls of the well known schemes a host is a domain name, written in small ASCII letters, or an
address. In all others it is any text, its escapes kept, or an address in brackets.
-/

namespace SqlMapping.Url

/-- The host of a url. -/
inductive Host where
  | absent
  | name (text : String)
  /-- An address of four bytes. -/
  | four (bytes : List Nat)
  /-- An address of eight pieces of two bytes. -/
  | sixteen (pieces : List Nat)
  deriving DecidableEq

namespace Host

/-- A host as a url shows it. -/
def text : Host → String
  | absent => ""
  | name s => s
  | four bytes => writeFour bytes
  | sixteen pieces => "[" ++ writeSixteen pieces ++ "]"

def readBracketed (cs : List Char) : Except Fault Host :=
  match cs.getLast? with
  | some ']' =>
    match readSixteen? cs.dropLast with
    | some pieces => .ok (sixteen pieces)
    | none => .error .invalidIpv6
  | _ => .error .invalidIpv6

/-- A host of a scheme that is not well known. -/
def readAny : List Char → Except Fault Host
  | [] => .ok absent
  | '[' :: cs => readBracketed cs
  | cs =>
    if cs.any (· ∈ forbidden) then .error .invalidDomainCharacter else .ok (name (String.ofList cs))

/-- A host of a well known scheme. -/
def readDomain : List Char → Except Fault Host
  | '[' :: cs => readBracketed cs
  | cs =>
    match Text.Utf8.decode (percentDecode cs) with
    | .error _ => .error .invalidInternationalName
    | .ok s =>
      match Domain.ascii? s.toList with
      | none => .error .invalidInternationalName
      | some [] => .error .emptyHost
      | some ascii =>
        if endsInNumber ascii then
          match readFour? ascii with
          | some bytes => .ok (four bytes)
          | none => .error .invalidIpv4
        else .ok (name (String.ofList ascii))

end Host

end SqlMapping.Url
