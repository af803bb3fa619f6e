import HollerServer.Lib.Text
import Mathlib.Data.Vector.Basic

/-!
# Socket addresses

IP addresses with a port, and their texts as Rust's standard library reads and
writes them.  An address that is read has no flow information; it is left out.
-/

namespace Net

structure Ipv4Addr where
  first : UInt8
  second : UInt8
  third : UInt8
  fourth : UInt8
  deriving DecidableEq, Repr

structure Ipv6Addr where
  segments : Vector UInt16 8
  deriving DecidableEq, Repr

inductive SocketAddr where
  | v4 (ip : Ipv4Addr) (port : UInt16)
  | v6 (ip : Ipv6Addr) (port : UInt16) (scopeId : UInt32)
  deriving DecidableEq, Repr

namespace SocketAddr

def isLoopback : SocketAddr → Bool
  | .v4 ip _ => ip.first = 127
  | .v6 ip _ _ => ip.segments.toList = [0, 0, 0, 0, 0, 0, 0, 1]

def isUnspecified : SocketAddr → Bool
  | .v4 ip _ => ip = { first := 0, second := 0, third := 0, fourth := 0 }
  | .v6 ip _ _ => ip.segments.toList = [0, 0, 0, 0, 0, 0, 0, 0]

end SocketAddr

section Parse

/-- A parser returns what it read and the input behind it. -/
abbrev Parser (α : Type) := List Char → Option (α × List Char)

def readGivenChar (char : Char) : Parser Unit
  | first :: rest => if first = char then some ((), rest) else none
  | [] => none

def digitValue (radix : Nat) (char : Char) : Option Nat :=
  let code := char.toNat
  let value :=
    if 48 ≤ code ∧ code ≤ 57 then some (code - 48)
    else if 97 ≤ code ∧ code ≤ 102 then some (code - 87)
    else if 65 ≤ code ∧ code ≤ 70 then some (code - 55)
    else none
  value.filter (· < radix)

/-- A number below a bound, of at most so many digits. -/
def readNumber
    (radix bound : Nat) (maxDigits : Option Nat)
    (allowZeroPrefix : Bool) : Parser Nat := fun input =>
  let isDigit := fun char => (digitValue radix char).isSome
  let digits := input.takeWhile isDigit
  let value :=
    (digits.filterMap (digitValue radix)).foldl
      (fun value digit => radix * value + digit) 0
  if digits = [] ∨ maxDigits.any (· < digits.length) ∨ bound ≤ value ∨
      (allowZeroPrefix = false ∧ digits.head? = some '0' ∧
        1 < digits.length) then
    none
  else some (value, input.dropWhile isDigit)

/-- What is read at the beginning, or behind a separator. -/
def readSeparated
    {α : Type} (separator : Char) (begins : Bool) (inner : Parser α) :
    Parser α := fun input =>
  if begins then inner input
  else do
    let (_, input) ← readGivenChar separator input
    inner input

def readIpv4Addr : Parser Ipv4Addr := fun input => do
  let octet := readNumber 10 256 (some 3) false
  let (first, input) ← octet input
  let (second, input) ← readSeparated '.' false octet input
  let (third, input) ← readSeparated '.' false octet input
  let (fourth, input) ← readSeparated '.' false octet input
  some
    ({ first := UInt8.ofNat first
       second := UInt8.ofNat second
       third := UInt8.ofNat third
       fourth := UInt8.ofNat fourth }, input)

/-- At most so many groups; the last two may be written as an IPv4 address. -/
def readGroups :
    Nat → Bool → List Char → List UInt16 × Bool × List Char
  | 0, _, input => ([], false, input)
  | more + 1, begins, input =>
      let embedded :=
        if 0 < more then readSeparated ':' begins readIpv4Addr input
        else none
      match embedded with
      | some (ip, rest) =>
          ([ip.first.toUInt16 * 256 + ip.second.toUInt16,
            ip.third.toUInt16 * 256 + ip.fourth.toUInt16], true, rest)
      | none =>
          match readSeparated ':' begins
              (readNumber 16 65536 (some 4) true) input with
          | some (group, rest) =>
              let (groups, withIpv4, behind) := readGroups more false rest
              (UInt16.ofNat group :: groups, withIpv4, behind)
          | none => ([], false, input)

def Ipv6Addr.ofGroups (groups : List UInt16) : Ipv6Addr where
  segments := Vector.ofFn fun index => groups.getD index 0

def readIpv6Addr : Parser Ipv6Addr := fun input => do
  let (head, withIpv4, rest) := readGroups 8 true input
  if head.length = 8 then some (.ofGroups head, rest)
  -- an IPv4 address is not allowed before `::`
  else if withIpv4 then none
  else
    let (_, rest) ← readGivenChar ':' rest
    let (_, rest) ← readGivenChar ':' rest
    let (tail, _, rest) := readGroups (8 - (head.length + 1)) true rest
    let zeroes := List.replicate (8 - head.length - tail.length) 0
    some (.ofGroups (head ++ zeroes ++ tail), rest)

def readPort : Parser Nat := fun input => do
  let (_, input) ← readGivenChar ':' input
  readNumber 10 65536 none true input

def readScopeId : Parser Nat := fun input => do
  let (_, input) ← readGivenChar '%' input
  readNumber 10 UInt32.size none true input

def readSocketAddrV4 : Parser SocketAddr := fun input => do
  let (ip, input) ← readIpv4Addr input
  let (port, input) ← readPort input
  some (.v4 ip (UInt16.ofNat port), input)

def readSocketAddrV6 : Parser SocketAddr := fun input => do
  let (_, input) ← readGivenChar '[' input
  let (ip, input) ← readIpv6Addr input
  let (scopeId, input) := (readScopeId input).getD (0, input)
  let (_, input) ← readGivenChar ']' input
  let (port, input) ← readPort input
  some (.v6 ip (UInt16.ofNat port) (UInt32.ofNat scopeId), input)

/-- `SocketAddr::from_str`. -/
def SocketAddr.fromStr (text : String) : Option SocketAddr :=
  match (readSocketAddrV4 text.toList).or (readSocketAddrV6 text.toList) with
  | some (addr, []) => some addr
  | _ => none

example :
    SocketAddr.fromStr "[fe80::1%3]:80" =
      some (.v6 (.ofGroups [0xfe80, 0, 0, 0, 0, 0, 0, 1]) 80 3) := by
  decide

end Parse

section Display

def Ipv4Addr.toString (ip : Ipv4Addr) : String :=
  ".".intercalate
    ([ip.first, ip.second, ip.third, ip.fourth].map fun octet =>
      octet.toNat.repr)

/-- The first longest run of zeroes: where it begins and how long it is. -/
def longestZeroes : List UInt16 → Nat → Nat × Nat → Nat × Nat → Nat × Nat
  | [], _, _, longest => longest
  | segment :: rest, index, current, longest =>
      if segment = 0 then
        let grown :=
          (if current.2 = 0 then index else current.1, current.2 + 1)
        longestZeroes rest (index + 1) grown
          (if longest.2 < grown.2 then grown else longest)
      else longestZeroes rest (index + 1) (0, 0) longest

def hexGroups (segments : List UInt16) : String :=
  ":".intercalate
    (segments.map fun segment =>
      String.ofList (Nat.toDigits 16 segment.toNat))

def Ipv6Addr.toString (ip : Ipv6Addr) : String :=
  match ip.segments.toList with
  | [0, 0, 0, 0, 0, 0xffff, high, low] =>
      let embedded : Ipv4Addr :=
        { first := (high / 256).toUInt8
          second := high.toUInt8
          third := (low / 256).toUInt8
          fourth := low.toUInt8 }
      "::ffff:" ++ embedded.toString
  | segments =>
      let (start, length) := longestZeroes segments 0 (0, 0) (0, 0)
      if 1 < length then
        hexGroups (segments.take start) ++ "::" ++
          hexGroups (segments.drop (start + length))
      else hexGroups segments

def SocketAddr.toString : SocketAddr → String
  | .v4 ip port => ip.toString ++ ":" ++ port.toNat.repr
  | .v6 ip port scopeId =>
      let scope :=
        if scopeId = 0 then "" else "%" ++ scopeId.toNat.repr
      "[" ++ ip.toString ++ scope ++ "]:" ++ port.toNat.repr

end Display

end Net
