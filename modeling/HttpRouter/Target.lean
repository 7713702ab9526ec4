import HttpRouter.Fault
import HttpRouter.Text.Blank

/-!
# Request targets

A request names its target as a path with a query, possibly behind a scheme and a host and before a fragment. Only path
and query matter to a router, but a host in brackets has to be an address, and no host may hold a character that turns
into a separator when it is normalised.
-/

namespace HttpRouter.Target

open Text (splitOn cut)

/-! ## Addresses in brackets -/

/-- Whether a character is a hex digit. -/
def isHexDigit (c : Char) : Bool :=
  ('0' ≤ c ∧ c ≤ '9') ∨ ('a' ≤ c ∧ c ≤ 'f') ∨ ('A' ≤ c ∧ c ≤ 'F')

/-- Whether a text is one group of an address: up to four hex digits. -/
def isGroup (s : List Char) : Bool :=
  !s.isEmpty && s.length ≤ 4 && s.all isHexDigit

/-- Whether a text is a number below 256 without a leading zero. -/
def isOctet (s : List Char) : Bool :=
  !s.isEmpty && s.length ≤ 3 && s.all (fun c => '0' ≤ c ∧ c ≤ '9') && (s = ['0'] || s.head? != some '0') &&
    s.foldl (fun n c => 10 * n + (c.toNat - 48)) 0 ≤ 255

/-- Whether a text is four octets with dots between them. -/
def isDotted (s : List Char) : Bool :=
  let parts := splitOn '.' s
  parts.length = 4 && parts.all isOctet

/-- The parts of an address between colons, a dotted part at the end counting for two groups. -/
def addressParts (s : List Char) : Option (List (List Char)) :=
  let parts := splitOn ':' s
  if parts.length < 3 then none
  else match parts.getLast? with
    | some last =>
      if last.contains '.' then (if isDotted last then some (parts.dropLast ++ [['0'], ['0']]) else none)
      else some parts
    | none => none

/-- The groups on one side of a double colon, which may be missing. -/
def sideGroups (parts : List (List Char)) : Option Nat :=
  if parts = [[]] then some 0 else if parts.all isGroup then some parts.length else none

/-- Whether parts make an address: eight groups, or fewer around one double colon. -/
def isAddressParts : List (List Char) → Bool
  | [] => false
  | first :: rest =>
    let before := first :: rest.dropLast.takeWhile (!·.isEmpty)
    let after := rest.drop before.length
    if before.length = rest.length then
      (first :: rest).length = 8 && (first :: rest).all isGroup
    else match sideGroups before, sideGroups after with
      | some m, some n => m + n < 8
      | _, _ => false

/-- Whether a text is an address of version six, with or without a zone. -/
def isAddress (s : List Char) : Bool :=
  let (address, zone) := cut '%' s
  zone.all (fun z => !z.isEmpty && !z.contains '%') && (addressParts address).any isAddressParts

/-- Whether a text is an address of a later version: `v`, hex digits, a dot and more. -/
def isFutureAddress (s : List Char) : Bool :=
  match s with
  | 'v' :: s =>
    let (version, rest) := cut '.' s
    !version.isEmpty && version.all isHexDigit && rest.any (!·.isEmpty)
  | _ => false

/-- Whether the brackets of a host are in order. -/
def bracketsFit (host : List Char) : Bool :=
  match host.contains '[', host.contains ']' with
  | false, false => true
  | true, true =>
    let inner := (cut ']' ((cut '[' host).2.getD [])).1
    if inner.head? = some 'v' then isFutureAddress inner else isAddress inner
  | _, _ => false

/-! ## Splitting -/

/-- The characters outside ASCII that turn into one of `/`, `?`, `#`, `@` and `:` when they are normalised. -/
def disguised : List Nat :=
  [0x2047, 0x2048, 0x2049, 0x2100, 0x2101, 0x2105, 0x2106, 0x2a74, 0xfe13, 0xfe16, 0xfe55, 0xfe56, 0xfe5f, 0xfe6b,
   0xff03, 0xff0f, 0xff1a, 0xff1f, 0xff20]

/-- Whether a character may stand in the name of a scheme. -/
def isSchemeChar (c : Char) : Bool :=
  ('a' ≤ c ∧ c ≤ 'z') ∨ ('A' ≤ c ∧ c ≤ 'Z') ∨ ('0' ≤ c ∧ c ≤ '9') ∨ c = '+' ∨ c = '-' ∨ c = '.'

/-- Whether a character is an ASCII letter. -/
def isLetter (c : Char) : Bool :=
  ('a' ≤ c ∧ c ≤ 'z') ∨ ('A' ≤ c ∧ c ≤ 'Z')

/-- Drops the scheme. -/
def withoutScheme (s : List Char) : List Char :=
  match cut ':' s with
  | (scheme, some rest) => if scheme.head?.any isLetter && scheme.all isSchemeChar then rest else s
  | (_, none) => s

/-- Drops what may not stand in a target: controls and blanks in front, tabs and line ends anywhere. -/
def cleaned (s : List Char) : List Char :=
  (s.dropWhile fun c => c.toNat ≤ 0x20).filter fun c => c != '\t' && c != '\r' && c != '\n'

/-- The host, if there is one, and what follows it. -/
def splitHost (s : List Char) : List Char × List Char :=
  match s with
  | '/' :: '/' :: s =>
    let host := s.takeWhile fun c => c != '/' && c != '?' && c != '#'
    (host, s.drop host.length)
  | s => ([], s)

/-- The path and the query of a target; none if its host is not acceptable. -/
def split? (s : List Char) : Option (List Char × List Char) :=
  let (host, rest) := splitHost (withoutScheme (cleaned s))
  if bracketsFit host && !host.any (fun c => disguised.contains c.toNat) then
    let (path, query) := cut '?' (cut '#' rest).1
    some (path, query.getD [])
  else none

end HttpRouter.Target
