import ControlPlane.Number.Digits
import ControlPlane.Text.Pieces
import ControlPlane.Url.Domain
import ControlPlane.Url.Percent

/-!
# Hosts

The host part of a URL in the form it is compared and connected in: names take the form of domain
names and must not hold a character that could be mistaken for another part of a URL, a host whose
last label is a number is an IPv4 address, and a host in brackets is an IPv6 address.

Main statements: a URL without a host is refused (`readHost_nil`), and a name is read from its
normal form, however it was written (`readName_congr`).
-/
namespace ControlPlane.Url

/-- Why a text is no URL. -/
inductive Fault where
  | noScheme
  | unsupportedScheme
  | emptyHost
  | invalidHost
  | invalidIpv4
  | invalidIpv6
  | invalidPort
  deriving DecidableEq, Repr

namespace Fault

/-- The reason, in words. -/
def message : Fault → String
  | .noScheme => "relative URL without a base"
  | .unsupportedScheme => "URL scheme is not allowed"
  | .emptyHost => "empty host"
  | .invalidHost => "invalid international domain name"
  | .invalidIpv4 => "invalid IPv4 address"
  | .invalidIpv6 => "invalid IPv6 address"
  | .invalidPort => "invalid port number"

end Fault

/-- Characters that no host name may hold. -/
def isForbiddenInHost (c : Char) : Bool :=
  decide (c.toNat ≤ 0x20) || c.toNat == 0x7F || " #/:<>?@[\\]^|%".toList.contains c

/-- A number of an IPv4 address: hexadecimal after `0x`, octal after `0`, else decimal. -/
def readIpv4Part (cs : List Char) : Option Nat :=
  match cs with
  | [] => none
  | '0' :: x :: rest =>
    if x == 'x' || x == 'X' then
      if rest.isEmpty then some 0 else Number.ofRadixDigits? 16 rest
    else Number.ofRadixDigits? 8 (x :: rest)
  | _ => Number.ofDigits? cs

/-- Whether the last label of a host name is a number, which makes it an IPv4 address. -/
def endsInNumber (labels : List (List Char)) : Bool :=
  let last := match labels.reverse with
    | [] :: label :: _ => label
    | label :: _ => label
    | [] => []
  (!last.isEmpty && last.all Char.isDigit) || (readIpv4Part last).isSome

/-- The address that a list of numbers stands for; the last one fills the remaining bytes. -/
def joinIpv4 : List Nat → Option (List Nat)
  | [] => none
  | parts =>
    let count := parts.length
    if count > 4 then none
    else
      let front := parts.take (count - 1)
      let last := parts.getD (count - 1) 0
      let remaining := 5 - count
      if front.all (· ≤ 255) && decide (last < Nat.pow 256 remaining) then
        let byte := fun i => last / Nat.pow 256 (remaining - 1 - i) % 256
        some (front ++ (List.range remaining).map byte)
      else none

/-- Reads an IPv4 address from its labels. -/
def readIpv4 (labels : List (List Char)) : Option (List Nat) :=
  let labels := match labels.reverse with
    | [] :: label :: rest => (label :: rest).reverse
    | _ => labels
  (labels.mapM readIpv4Part).bind joinIpv4

/-- The text of an IPv4 address. -/
def ipv4Text (parts : List Nat) : String :=
  ".".intercalate (parts.map Number.text)

/-- Reads groups of an IPv6 address; a dotted IPv4 address may stand for the last two. -/
def readIpv6Groups : List (List Char) → Option (List Nat)
  | [] => some []
  | [last] =>
    if last.contains '.' then
      match (Text.splitAt '.' last).mapM Number.ofDigits? with
      | some [a, b, c, d] =>
        if a ≤ 255 ∧ b ≤ 255 ∧ c ≤ 255 ∧ d ≤ 255 then some [a * 256 + b, c * 256 + d] else none
      | _ => none
    else if last.length ≤ 4 then (Number.ofRadixDigits? 16 last).map ([·]) else none
  | group :: rest =>
    if group.length ≤ 4 then do
      let first ← Number.ofRadixDigits? 16 group
      let others ← readIpv6Groups rest
      pure (first :: others)
    else none

/-- Splits a text at the first `::`. -/
def splitAtDoubleColon : List Char → List Char × Option (List Char)
  | ':' :: ':' :: rest => ([], some rest)
  | c :: rest => let (front, back) := splitAtDoubleColon rest; (c :: front, back)
  | [] => ([], none)

/-- Groups of a half of an address, none when the half is empty. -/
def readIpv6Half (cs : List Char) : Option (List Nat) :=
  if cs.isEmpty then some [] else readIpv6Groups (Text.splitAt ':' cs)

/-- Reads an IPv6 address. -/
def readIpv6 (cs : List Char) : Option (List Nat) :=
  match splitAtDoubleColon cs with
  | (front, none) => (readIpv6Half front).filter (·.length = 8)
  | (front, some back) => do
    let before ← readIpv6Half front
    let after ← readIpv6Half back
    if before.length + after.length ≤ 7 then
      some (before ++ List.replicate (8 - before.length - after.length) 0 ++ after)
    else none

/-- Position and length of the first longest run of zero groups, of at least two. -/
def longestZeroRun (groups : List Nat) : Option (Nat × Nat) :=
  let runAt (i : Nat) : Nat := ((groups.drop i).takeWhile (· == 0)).length
  (List.range groups.length).foldl
    (fun best i =>
      let length := runAt i
      match best with
      | some (_, longest) => if length > longest then some (i, length) else best
      | none => if length ≥ 2 then some (i, length) else none)
    none

/-- Groups in hexadecimal, between colons. -/
def groupsText (groups : List Nat) : String :=
  ":".intercalate (groups.map fun g => String.ofList (Nat.toDigits 16 g))

/-- The text of an IPv6 address, its longest run of zeros shortened. -/
def ipv6Text (groups : List Nat) : String :=
  match longestZeroRun groups with
  | none => groupsText groups
  | some (start, length) =>
    groupsText (groups.take start) ++ "::" ++ groupsText (groups.drop (start + length))

/-- The normal form of a host given by a name or an IPv4 address. -/
def readName (cs : List Char) : Except Fault String :=
  match Domain.normal? cs with
  | none => .error .invalidHost
  | some [] => .error .emptyHost
  | some name =>
    if name.any isForbiddenInHost then .error .invalidHost
    else
      let labels := Text.splitAt '.' name
      if endsInNumber labels then
        match readIpv4 labels with
        | some parts => .ok (ipv4Text parts)
        | none => .error .invalidIpv4
      else .ok (String.ofList name)

/-- The normal form of a host. -/
def readHost (cs : List Char) : Except Fault String :=
  match cs with
  | [] => .error .emptyHost
  | '[' :: rest =>
    match rest.reverse with
    | ']' :: inner =>
      match readIpv6 inner.reverse with
      | some groups => .ok ("[" ++ ipv6Text groups ++ "]")
      | none => .error .invalidIpv6
    | _ => .error .invalidIpv6
  | _ => readName (decodeComponent cs)

theorem readName_congr {cs ds : List Char} (h : Domain.normal? cs = Domain.normal? ds) :
    readName cs = readName ds := by
  rw [readName, h, readName]

@[simp] theorem readHost_nil : readHost [] = .error .emptyHost := rfl

end ControlPlane.Url
