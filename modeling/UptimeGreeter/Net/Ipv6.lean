import UptimeGreeter.Net.Ipv4
import UptimeGreeter.Text.Numeral

/-!
IPv6 addresses: eight groups in hexadecimal, a run of zero groups shortened to a gap, and the last
two groups in dotted decimal form if the writer likes.
-/

namespace UptimeGreeter.Net

structure Ipv6 where
  groups : List UInt16
  size : groups.length = 8
  deriving DecidableEq, Repr

namespace Ipv6

def ofGroups? (groups : List UInt16) : Option Ipv6 :=
  if size : groups.length = 8 then some ⟨groups, size⟩ else none

def group? (text : List Char) : Option UInt16 :=
  if text ≠ [] ∧ text.length ≤ 4 ∧ text.all Hexadecimal.isDigit then
    some (UInt16.ofNat (Hexadecimal.value text))
  else none

def pieces (text : List Char) : List (List Char) :=
  if text = [] then [] else Split.all ':' text

def ofIpv4 (address : Ipv4) : List UInt16 :=
  [UInt16.ofNat (address.first.toNat * 256 + address.second.toNat),
    UInt16.ofNat (address.third.toNat * 256 + address.fourth.toNat)]

def groupsOfPieces? : List (List Char) → Option (List UInt16)
  | [] => some []
  | [last] =>
      match group? last with
      | some group => some [group]
      | none => (Ipv4.ofChars? last).map ofIpv4
  | piece :: rest => do
      return (← group? piece) :: (← groupsOfPieces? rest)

def splitAtGap? : List Char → Option (List Char × List Char)
  | ':' :: ':' :: rest => some ([], rest)
  | char :: rest => (splitAtGap? rest).map fun (before, after) => (char :: before, after)
  | [] => none

def ofChars? (text : List Char) : Option Ipv6 :=
  match splitAtGap? text with
  | none => groupsOfPieces? (pieces text) >>= ofGroups?
  | some (before, after) => do
      let head ← (pieces before).mapM group?
      let tail ← groupsOfPieces? (pieces after)
      if head.length + tail.length ≤ 7 then
        ofGroups? (head ++ List.replicate (8 - head.length - tail.length) 0 ++ tail)
      else none

def zeroRun (groups : List UInt16) (start : Nat) : Nat :=
  ((groups.drop start).takeWhile (· == 0)).length

/-- Start and length of the longest run of zero groups, the first among equals. -/
def longestZeroRun (groups : List UInt16) : Nat × Nat :=
  (List.range groups.length).foldl
    (fun best start => if best.2 < zeroRun groups start then (start, zeroRun groups start) else best)
    (0, 0)

def groupsText (groups : List UInt16) : String :=
  String.intercalate ":" (groups.map fun group => String.ofList (Nat.toDigits 16 group.toNat))

def mappedIpv4? : List UInt16 → Option Ipv4
  | [0, 0, 0, 0, 0, 0xFFFF, high, low] =>
      some ⟨(high >>> 8).toUInt8, high.toUInt8, (low >>> 8).toUInt8, low.toUInt8⟩
  | _ => none

def text (address : Ipv6) : String :=
  match mappedIpv4? address.groups with
  | some mapped => "::ffff:" ++ mapped.text
  | none =>
      let (start, length) := longestZeroRun address.groups
      if 2 ≤ length then
        groupsText (address.groups.take start) ++ "::" ++
          groupsText (address.groups.drop (start + length))
      else groupsText address.groups

end Ipv6

end UptimeGreeter.Net
