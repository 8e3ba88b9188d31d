import Mathlib.Data.List.TakeWhile
import UptimeGreeter.Proofs.Net.Ipv6Form

/-!
The text of an IPv6 address is a written form of it: what the gap leaves out is a run of zero groups.
-/

namespace UptimeGreeter.Net

theorem writesGroup_toDigits (group : UInt16) : WritesGroup (Nat.toDigits 16 group.toNat) group where
  nonempty := List.ne_nil_of_length_pos Nat.length_toDigits_pos
  short := by
    have bound : group.toNat < 65536 := group.toNat_lt
    rw [Nat.length_toDigits_le_iff (by decide) (by decide)]
    omega
  digits := fun _ => Hexadecimal.isDigit_of_mem_toDigits
  value := Hexadecimal.value_toDigits group.toNat

namespace Ipv6

def groupTexts (groups : List UInt16) : List (List Char) :=
  groups.map fun group => Nat.toDigits 16 group.toNat

theorem toList_groupsText (groups : List UInt16) :
    (groupsText groups).toList = colons (groupTexts groups) := by
  rw [groupsText, String.toList_intercalate, List.map_map, colons, groupTexts]
  simp [Function.comp_def]

theorem forall₂_groupTexts (groups : List UInt16) :
    List.Forall₂ WritesGroup (groupTexts groups) groups := by
  rw [groupTexts, List.forall₂_map_left_iff, List.forall₂_same]
  exact fun group _ => writesGroup_toDigits group

theorem le_zeroRun_longestZeroRun (groups : List UInt16) :
    (longestZeroRun groups).2 ≤ zeroRun groups (longestZeroRun groups).1 := by
  rw [longestZeroRun]
  generalize List.range groups.length = starts
  have start : (0, 0).2 ≤ zeroRun groups (0, 0).1 := Nat.zero_le _
  generalize (0, 0) = best at start
  induction starts generalizing best with
  | nil => exact start
  | cons first starts ih =>
      rw [List.foldl_cons]
      apply ih
      split
      · exact Nat.le_refl _
      · exact start

theorem eq_append_of_le_zeroRun {groups : List UInt16} {start length : Nat}
    (run : length ≤ zeroRun groups start) :
    groups.take start ++ List.replicate length 0 ++ groups.drop (start + length) = groups := by
  have zeros : (groups.drop start).take length = List.replicate length 0 := by
    obtain ⟨rest, same⟩ : (groups.drop start).takeWhile (· == 0) <+: groups.drop start :=
      List.takeWhile_prefix _
    rw [← same, List.take_append_of_le_length run, List.eq_replicate_iff]
    refine ⟨List.length_take_of_le run, ?_⟩
    intro group member
    have zero := List.mem_takeWhile_imp (List.mem_of_mem_take member)
    exact beq_iff_eq.mp zero
  rw [← zeros, ← List.drop_drop, List.append_assoc, List.take_append_drop, List.take_append_drop]

theorem eq_of_mappedIpv4? {groups : List UInt16} {mapped : Ipv4}
    (found : mappedIpv4? groups = some mapped) :
    ∃ high low, groups = [0, 0, 0, 0, 0, 0xFFFF, high, low] ∧
      high.toNat = mapped.first.toNat * 256 + mapped.second.toNat ∧
      low.toNat = mapped.third.toNat * 256 + mapped.fourth.toNat := by
  have halves (group : UInt16) :
      group.toNat = (group >>> 8).toUInt8.toNat * 256 + group.toUInt8.toNat := by
    have bound : group.toNat < 65536 := group.toNat_lt
    have eight : (8 : UInt16).toNat % 16 = 8 := rfl
    rw [UInt16.toNat_toUInt8, UInt16.toNat_toUInt8, UInt16.toNat_shiftRight, eight,
      Nat.shiftRight_eq_div_pow]
    omega
  rw [mappedIpv4?.eq_def] at found
  split at found
  · rename_i high low
    obtain rfl := Option.some.inj found
    exact ⟨high, low, rfl, halves high, halves low⟩
  · cases found

theorem writesIpv6_text (address : Ipv6) : WritesIpv6 address.text.toList address.groups := by
  rw [text]
  split
  · rename_i mapped found
    obtain ⟨high, low, groups, highHalves, lowHalves⟩ := eq_of_mappedIpv4? found
    have ones : WritesGroup "ffff".toList 0xFFFF := writesGroup_toDigits 0xFFFF
    have dotted : WritesDotted mapped.text.toList mapped := (Ipv4.writesDotted_iff _ _).mpr rfl
    have back := WritesGroups.group ones (.dotted dotted highHalves lowHalves)
    have written : ("::ffff:" ++ mapped.text).toList =
        colons [] ++ ':' :: ':' :: colons ["ffff".toList, mapped.text.toList] := by
      rw [String.toList_append, colons_nil, colons_cons_cons, colons_singleton]
      rfl
    have zeros : [0, 0, 0, 0, 0, 0xFFFF, high, low] =
        [] ++ List.replicate 5 0 ++ [0xFFFF, high, low] := rfl
    rw [written, groups, zeros]
    exact .gap .nil back (by decide) rfl
  · have run := le_zeroRun_longestZeroRun address.groups
    split
    rename_i start length longest
    rw [longest] at run
    have whole := eq_append_of_le_zeroRun run
    split
    · have size := address.size
      rw [← whole, List.length_append, List.length_append, List.length_replicate] at size
      have gap : "::".toList = [':', ':'] := rfl
      rw [String.toList_append, String.toList_append, toList_groupsText, toList_groupsText, gap,
        List.append_assoc]
      nth_rewrite 3 [← whole]
      exact .gap (forall₂_groupTexts _) (.of_forall₂ (forall₂_groupTexts _)) (by omega) size
    · rw [toList_groupsText]
      exact .full (.of_forall₂ (forall₂_groupTexts _)) address.size

end Ipv6

end UptimeGreeter.Net
