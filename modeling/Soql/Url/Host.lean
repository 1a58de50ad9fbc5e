import Soql.Text.Quoted

/-!
This module contains the checks on the part of a URL that names a host: hosts in brackets are
addresses, and no character of a host may normalize to a delimiter.
-/

namespace Soql
namespace Url

def splitAll (separator : Char) : List Char → List (List Char)
  | [] => [[]]
  | c :: cs =>
    if c == separator then
      [] :: splitAll separator cs
    else
      match splitAll separator cs with
      | [] => [[c]]
      | part :: parts => (c :: part) :: parts

theorem splitAll_eq_splitOn (separator : Char) (cs : List Char) :
    splitAll separator cs = cs.splitOn separator := by
  induction cs with
  | nil => rfl
  | cons c cs ih =>
    rw [List.splitOn_cons_eq_if_modifyHead, splitAll, ih]
    split
    . rfl
    . cases h : cs.splitOn separator with
      | nil => exact absurd h (List.splitOn_ne_nil separator cs)
      | cons => rfl

def splitFirst (separator : Char) (cs : List Char) : List Char × List Char :=
  (cs.takeWhile (· != separator), (cs.dropWhile (· != separator)).drop 1)

inductive Fault where
  /-- Brackets that are not balanced, or do not surround the whole host. -/
  | misplacedBrackets
  | badFutureAddress
  | bracketedIPv4
  | notAddress (host : String)
  | ambiguousHost (host : String)
  deriving DecidableEq

namespace Fault

def message : Fault → String
  | .misplacedBrackets => "Invalid IPv6 URL"
  | .badFutureAddress => "IPvFuture address is invalid"
  | .bracketedIPv4 => "An IPv4 address cannot be in brackets"
  | .notAddress host => Text.quoted host ++ " does not appear to be an IPv4 or IPv6 address"
  | .ambiguousHost host =>
    "netloc '" ++ host ++ "' contains invalid characters under NFKC normalization"

end Fault

def isHexDigit (c : Char) : Bool :=
  ('0' ≤ c && c ≤ '9') || ('a' ≤ c && c ≤ 'f') || ('A' ≤ c && c ≤ 'F')

def isOctet (cs : List Char) : Bool :=
  !cs.isEmpty && cs.length ≤ 3 && cs.all Char.isDigit && (cs.head? != some '0' || cs.length == 1)
    && cs.foldl (fun n c => 10 * n + (c.toNat - '0'.toNat)) 0 ≤ 255

def isIPv4 (cs : List Char) : Bool :=
  let parts := splitAll '.' cs
  parts.length == 4 && parts.all isOctet

def isGroup (cs : List Char) : Bool :=
  !cs.isEmpty && cs.length ≤ 4 && cs.all isHexDigit

/--
An IPv4 address in the last place counts as two groups.
-/
def expandLast (parts : List (List Char)) : Option (List (List Char)) :=
  match parts.getLast? with
  | some last =>
    if last.contains '.' then
      if isIPv4 last then some (parts.dropLast ++ [['0'], ['0']]) else none
    else
      some parts
  | none => none

/--
Eight groups, of which one run may be left out between two colons.
-/
def isIPv6Body (cs : List Char) : Bool :=
  let parts := splitAll ':' cs
  if parts.length < 3 then
    false
  else
    match expandLast parts with
    | none => false
    | some parts =>
      match (parts.drop 1).dropLast.findIdx? List.isEmpty with
      | none => parts.length == 8 && parts.all isGroup
      | some i =>
        -- Note: a gap at either end leaves an empty part outside of it, too.
        let before := parts.take (i + 1)
        let after := parts.drop (i + 2)
        let before := if before == [[]] then [] else before
        let after := if after == [[]] then [] else after
        parts.length ≤ 9 && before.length + after.length < 8
          && before.all isGroup && after.all isGroup

def isIPv6 (cs : List Char) : Bool :=
  let (body, zone) := splitFirst '%' cs
  isIPv6Body body && (!cs.contains '%' || (!zone.isEmpty && !zone.contains '%'))

def isFutureAddress (cs : List Char) : Bool :=
  match cs with
  | 'v' :: cs =>
    match splitFirst '.' cs with
    | (version, rest) => !version.isEmpty && version.all isHexDigit && !rest.isEmpty
  | _ => false

def checkBracketed (host : List Char) : Except Fault Unit :=
  if host.head? == some 'v' then
    if isFutureAddress host then .ok () else .error .badFutureAddress
  else if isIPv4 host then
    .error .bracketedIPv4
  else if isIPv6 host then
    .ok ()
  else
    .error (.notAddress (String.ofList host))

/--
The characters whose compatibility decomposition contains a delimiter of URLs.
-/
def delimiterLike : List Nat := [
  0x2047, 0x2048, 0x2049, 0x2100, 0x2101, 0x2105, 0x2106, 0x2A74, 0xFE13, 0xFE16, 0xFE55, 0xFE56,
  0xFE5F, 0xFE6B, 0xFF03, 0xFF0F, 0xFF1A, 0xFF1F, 0xFF20]

/--
The host in an authority, behind the last at sign, and in front of a port. Only a host without
brackets ends at the first colon; one with brackets takes up everything up to the port.
-/
def hostOf (authority : List Char) : Except Fault (List Char) :=
  let hostAndPort := (authority.reverse.takeWhile (· != '@')).reverse
  if hostAndPort.contains '[' then
    let (front, bracketed) := splitFirst '[' hostAndPort
    let (host, port) := splitFirst ']' bracketed
    if !front.isEmpty || port.head?.any (· != ':') then .error .misplacedBrackets else .ok host
  else
    .ok (splitFirst ':' hostAndPort).1

/--
Brackets are balanced in that both kinds occur or none. Where they occur, the host is an address.
-/
def checkBrackets (authority : List Char) : Except Fault Unit :=
  match authority.contains '[', authority.contains ']' with
  | false, false => .ok ()
  | true, true => do checkBracketed (← hostOf authority)
  | _, _ => .error .misplacedBrackets

def checkNormalized (authority : List Char) : Except Fault Unit :=
  if authority.any fun c => delimiterLike.contains c.toNat then
    .error (.ambiguousHost (String.ofList authority))
  else
    .ok ()

example : isIPv6 "1:2:3:4:5:6:7::".toList = true := by decide

end Url
end Soql
