import Mathlib.Data.List.Basic

/-!
# Network addresses

IPv4 and IPv6 addresses and the reader of their text forms: dotted decimals without leading zeros,
groups of up to four hexadecimal digits, one `::`, and an IPv4 tail.
-/

namespace AxumConf

inductive IpAddr where
  | v4 (octets : List ℕ)
  | v6 (segments : List ℕ)
  deriving DecidableEq, Repr

namespace IpAddr

def digitValue (radix : ℕ) (character : Char) : Option ℕ :=
  let code := character.toNat
  let value :=
    if 48 ≤ code ∧ code ≤ 57 then some (code - 48)
    else if 97 ≤ code ∧ code ≤ 122 then some (code - 87)
    else if 65 ≤ code ∧ code ≤ 90 then some (code - 55)
    else none
  value.filter (· < radix)

def isDigit (radix : ℕ) (character : Char) : Bool :=
  (digitValue radix character).isSome

def valueOf (radix : ℕ) (digits : List Char) : ℕ :=
  digits.foldl (fun total digit => total * radix + (digitValue radix digit).getD 0) 0

/-- Reads all digits that follow: at least one, at most `maxDigits`, of a value below `bound`. -/
def readNumber (radix maxDigits bound : ℕ) (allowZeroPrefix : Bool) (input : List Char) :
    Option (ℕ × List Char) :=
  let digits := input.takeWhile (isDigit radix)
  if digits = [] ∨ maxDigits < digits.length then none
  else if !allowZeroPrefix && digits.head? == some '0' && digits.length != 1 then none
  else if valueOf radix digits < bound then
    some (valueOf radix digits, input.dropWhile (isDigit radix))
  else none

def readChar (expected : Char) : List Char → Option (List Char)
  | character :: rest => if character = expected then some rest else none
  | [] => none

/-- Reads with `inner` what follows the separator; the first item has none before it. -/
def readSeparated {α : Type} (separator : Char) (index : ℕ)
    (inner : List Char → Option (α × List Char)) (input : List Char) :
    Option (α × List Char) :=
  if index = 0 then inner input
  else (readChar separator input).bind inner

def readIpv4From (index : ℕ) : ℕ → List Char → Option (List ℕ × List Char)
  | 0, input => some ([], input)
  | count + 1, input => do
      let (octet, rest) ← readSeparated '.' index (readNumber 10 3 256 false) input
      let (octets, rest) ← readIpv4From (index + 1) count rest
      return (octet :: octets, rest)

def readIpv4 (input : List Char) : Option (List ℕ × List Char) :=
  readIpv4From 0 4 input

/-- Reads up to `count` groups; the flag tells that the last two came from an IPv4 tail. -/
def readGroups (index : ℕ) : ℕ → List Char → List ℕ × Bool × List Char
  | 0, input => ([], false, input)
  | count + 1, input =>
      match (if 0 < count then readSeparated ':' index readIpv4 input else none) with
      | some ([one, two, three, four], rest) => ([one * 256 + two, three * 256 + four], true, rest)
      | _ =>
          match readSeparated ':' index (readNumber 16 4 65536 true) input with
          | some (group, rest) =>
              let (groups, tail, rest) := readGroups (index + 1) count rest
              (group :: groups, tail, rest)
          | none => ([], false, input)

def readIpv6 (input : List Char) : Option (List ℕ × List Char) := do
  let (front, frontIpv4, rest) := readGroups 0 8 input
  if front.length = 8 then return (front, rest)
  if frontIpv4 then none
  let rest ← readChar ':' rest
  let rest ← readChar ':' rest
  let (back, _, rest) := readGroups 0 (8 - (front.length + 1)) rest
  return (front ++ List.replicate (8 - front.length - back.length) 0 ++ back, rest)

def parse (text : String) : Option IpAddr :=
  match readIpv4 text.toList with
  | some (octets, rest) => if rest = [] then some (.v4 octets) else none
  | none =>
      match readIpv6 text.toList with
      | some (segments, rest) => if rest = [] then some (.v6 segments) else none
      | none => none

example : parse "10.0.0.5" = some (.v4 [10, 0, 0, 5]) ∧ parse "010.0.0.5" = none ∧
    parse "::1" = some (.v6 [0, 0, 0, 0, 0, 0, 0, 1]) ∧ parse "localhost" = none := by
  decide +kernel

end IpAddr

structure IpNet where
  address : IpAddr
  prefixLength : ℕ
  deriving DecidableEq, Repr

end AxumConf
