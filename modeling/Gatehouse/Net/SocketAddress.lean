import Gatehouse.Number.Digits
import Gatehouse.Text.Split

/-!
# Socket addresses

An IP address with a port.  The text of one ends in a colon and the port, and what stands before
the last colon is the IP address: four numbers separated by dots, or an IPv6 literal in brackets,
which may name a scope by a number behind a percent sign.

An IPv6 literal is eight groups of up to four hexadecimal digits separated by colons.  A double
colon may stand for one group of zeros or more, and a dotted IPv4 address for the last two groups.
The text written for an address compresses the longest run of zeros, the first one of several, and
writes the dotted form for an embedded IPv4 address.
-/

namespace Gatehouse.Net

set_option autoImplicit false

/-- An IP address. -/
inductive IpAddress where
  /-- Four bytes. -/
  | v4 (bytes : Vector UInt8 4)
  /-- Eight groups of sixteen bits, and the number of the scope in which they count. -/
  | v6 (groups : Vector UInt16 8) (scope : UInt32)
  deriving DecidableEq, Repr

/-- An IP address and a port. -/
structure SocketAddress where
  ip : IpAddress
  port : UInt16
  deriving DecidableEq, Repr

/-! ## Reading -/

/-- Reads a part of a dotted address: a number below 256 without zeros in front. -/
def byteOfText? (cs : List Char) : Option UInt8 :=
  if cs.head? == some '0' && decide (1 < cs.length) then none
  else (Number.decimalBelow? 256 cs).map UInt8.ofNat

/-- A list as a vector, if it has the right length. -/
def vectorOfList? {α : Type} (size : Nat) (elements : List α) : Option (Vector α size) :=
  if fits : elements.length = size then some ⟨elements.toArray, by simpa using fits⟩ else none

/-- Reads a dotted address. -/
def bytesOfText? (cs : List Char) : Option (Vector UInt8 4) :=
  ((Text.splitOn '.' cs).mapM byteOfText?).bind (vectorOfList? 4)

/-- Reads a group of an IPv6 literal. -/
def groupOfText? (cs : List Char) : Option UInt16 :=
  if 4 < cs.length then none else (Number.ofDigits? 16 cs).map UInt16.ofNat

/-- The two groups that a dotted address fills. -/
def groupsOfBytes (bytes : Vector UInt8 4) : List UInt16 :=
  let join (high low : UInt8) : UInt16 := high.toUInt16 * 256 + low.toUInt16
  [join bytes[0] bytes[1], join bytes[2] bytes[3]]

/-- Reads the parts between the colons of an IPv6 literal; the last may be a dotted address. -/
def groupsOfParts? : List (List Char) → Option (List UInt16)
  | [] => some []
  | [part] =>
      match bytesOfText? part with
      | some bytes => some (groupsOfBytes bytes)
      | none => (groupOfText? part).map ([·])
  | part :: parts => do
      let group ← groupOfText? part
      let groups ← groupsOfParts? parts
      return group :: groups

/-- Reads groups separated by colons, or none at all. -/
def groupsOfText? (cs : List Char) : Option (List UInt16) :=
  if cs.isEmpty then some [] else groupsOfParts? (Text.splitOn ':' cs)

/-- Cuts a text at its first double colon. -/
def cutAtDoubleColon : List Char → Option (List Char × List Char)
  | ':' :: ':' :: rest => some ([], rest)
  | c :: rest => (cutAtDoubleColon rest).map fun (before, behind) => (c :: before, behind)
  | [] => none

/-- Reads an IPv6 literal.  No dotted address may stand before a double colon. -/
def ipv6OfText? (cs : List Char) : Option (Vector UInt16 8) :=
  match cutAtDoubleColon cs with
  | none => (groupsOfText? cs).bind (vectorOfList? 8)
  | some (before, behind) => do
      let first ← if before.contains '.' then none else groupsOfText? before
      let last ← groupsOfText? behind
      if first.length + last.length < 8 then
        vectorOfList? 8
          (first ++ List.replicate (8 - first.length - last.length) 0 ++ last)
      else none

/-- Reads the literal and the scope between brackets. -/
def bracketedOfText? (cs : List Char) : Option IpAddress :=
  match Text.cutAtFirst (· == '%') cs with
  | none => (ipv6OfText? cs).map fun groups => .v6 groups 0
  | some (literal, scope) => do
      let groups ← ipv6OfText? literal
      let scope ← Number.decimalBelow? UInt32.size scope
      return .v6 groups (UInt32.ofNat scope)

/-- Reads an IP address as it stands before a port. -/
def IpAddress.parse? (cs : List Char) : Option IpAddress :=
  match cs with
  | '[' :: rest =>
      if rest.getLast? == some ']' then bracketedOfText? rest.dropLast else none
  | _ => (bytesOfText? cs).map .v4

/-- Reads an address with its port. -/
def SocketAddress.parse? (text : String) : Option SocketAddress := do
  let (ip, port) ← Text.cutAtLast (· == ':') text.toList
  let port ← Number.decimalBelow? UInt16.size port
  let ip ← IpAddress.parse? ip
  return ⟨ip, UInt16.ofNat port⟩

/-! ## Writing -/

/-- Four numbers separated by dots. -/
def dotted (bytes : List UInt8) : String :=
  ".".intercalate (bytes.map fun byte => toString byte.toNat)

/-- A group in hexadecimal, without zeros in front. -/
def groupText (group : UInt16) : String :=
  String.ofList (Nat.toDigits 16 group.toNat)

/-- Groups separated by colons. -/
def groupsText (groups : List UInt16) : String :=
  ":".intercalate (groups.map groupText)

/-- The length of the run of zeros at the front. -/
def zerosInFront (groups : List UInt16) : Nat :=
  (groups.takeWhile (· == 0)).length

/-- The place and the length of the longest run of zeros in groups that begin at a position; of
several the first counts. -/
def longestZeros (position : Nat) : List UInt16 → Nat × Nat
  | [] => (position, 0)
  | group :: groups =>
      let here := zerosInFront (group :: groups)
      let later := longestZeros (position + 1) groups
      if later.2 ≤ here then (position, here) else later

/-- The text of the groups of an IPv6 address. -/
def ipv6Text (groups : List UInt16) : String :=
  match groups with
  | [0, 0, 0, 0, 0, 0xffff, high, low] =>
      "::ffff:" ++ dotted [(high / 256).toUInt8, high.toUInt8, (low / 256).toUInt8, low.toUInt8]
  | _ =>
      let (position, length) := longestZeros 0 groups
      if 1 < length then
        groupsText (groups.take position) ++ "::" ++ groupsText (groups.drop (position + length))
      else groupsText groups

/-- The text of an IP address as it stands before a port. -/
def IpAddress.text : IpAddress → String
  | .v4 bytes => dotted bytes.toList
  | .v6 groups scope =>
      let scopeText := if scope == 0 then "" else "%" ++ toString scope.toNat
      "[" ++ ipv6Text groups.toList ++ scopeText ++ "]"

/-- The text of an address with its port. -/
def SocketAddress.text (address : SocketAddress) : String :=
  address.ip.text ++ ":" ++ toString address.port.toNat

end Gatehouse.Net
