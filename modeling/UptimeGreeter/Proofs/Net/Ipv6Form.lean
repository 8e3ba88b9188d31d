import UptimeGreeter.Net.Ipv6
import UptimeGreeter.Proofs.Net.Ipv4
import UptimeGreeter.Proofs.Text.Hexadecimal

/-!
Written forms of IPv6 addresses: groups with colons between them, where a gap may stand for zero
groups and a dotted form for the last two. A text is read as an address exactly if it is such a form
of it.
-/

namespace UptimeGreeter.Net

structure WritesGroup (text : List Char) (group : UInt16) : Prop where
  nonempty : text ≠ []
  short : text.length ≤ 4
  digits : ∀ char ∈ text, Hexadecimal.isDigit char
  value : Hexadecimal.value text = group.toNat

/-- Texts of one group each, of which the last may be a dotted form and write two. -/
inductive WritesGroups : List (List Char) → List UInt16 → Prop
  | nil : WritesGroups [] []
  | dotted {text : List Char} {address : Ipv4} {high low : UInt16} :
      WritesDotted text address →
      high.toNat = address.first.toNat * 256 + address.second.toNat →
      low.toNat = address.third.toNat * 256 + address.fourth.toNat →
      WritesGroups [text] [high, low]
  | group {text : List Char} {group : UInt16} {pieces : List (List Char)} {groups : List UInt16} :
      WritesGroup text group → WritesGroups pieces groups →
      WritesGroups (text :: pieces) (group :: groups)

def colons (pieces : List (List Char)) : List Char :=
  [':'].intercalate pieces

/-- All eight groups, or fewer with a gap where zero groups are left out. Before the gap there is no
dotted form. -/
inductive WritesIpv6 : List Char → List UInt16 → Prop
  | full {pieces : List (List Char)} {groups : List UInt16} :
      WritesGroups pieces groups → groups.length = 8 → WritesIpv6 (colons pieces) groups
  | gap {before after : List (List Char)} {head tail : List UInt16} {zeros : Nat} :
      List.Forall₂ WritesGroup before head → WritesGroups after tail → 0 < zeros →
      head.length + zeros + tail.length = 8 →
      WritesIpv6 (colons before ++ ':' :: ':' :: colons after)
        (head ++ List.replicate zeros 0 ++ tail)

/-- Texts between which a colon is a cut. -/
def Clean (pieces : List (List Char)) : Prop :=
  ∀ piece ∈ pieces, piece ≠ [] ∧ ':' ∉ piece

theorem WritesGroup.not_mem {text : List Char} {group : UInt16} (writes : WritesGroup text group)
    {mark : Char} (noDigit : Hexadecimal.isDigit mark = false) : mark ∉ text :=
  not_mem_of_forall writes.digits noDigit

theorem WritesDotted.ne_nil {text : List Char} {address : Ipv4}
    (writes : WritesDotted text address) : text ≠ [] :=
  List.ne_nil_of_mem writes.dot_mem

theorem WritesGroups.clean {pieces : List (List Char)} {groups : List UInt16}
    (write : WritesGroups pieces groups) : Clean pieces := by
  induction write with
  | nil => simp [Clean]
  | dotted dotted _ _ =>
      rw [Clean, List.forall_mem_singleton]
      exact ⟨dotted.ne_nil, dotted.not_mem rfl (by decide)⟩
  | group first _ ih =>
      rw [Clean, List.forall_mem_cons]
      exact ⟨⟨first.nonempty, first.not_mem rfl⟩, ih⟩

theorem WritesGroups.of_forall₂ {pieces : List (List Char)} {groups : List UInt16}
    (write : List.Forall₂ WritesGroup pieces groups) : WritesGroups pieces groups := by
  induction write with
  | nil => exact .nil
  | cons first _ ih => exact .group first ih

theorem clean_of_forall₂ {pieces : List (List Char)} {groups : List UInt16}
    (write : List.Forall₂ WritesGroup pieces groups) : Clean pieces :=
  (WritesGroups.of_forall₂ write).clean

theorem colons_nil : colons [] = [] :=
  rfl

theorem colons_singleton (piece : List Char) : colons [piece] = piece := by
  simp [colons, List.intercalate]

theorem colons_cons_cons (piece next : List Char) (pieces : List (List Char)) :
    colons (piece :: next :: pieces) = piece ++ ':' :: colons (next :: pieces) := by
  simp [colons, List.intercalate_cons_cons]

theorem head?_colons_ne {piece : List Char} {pieces : List (List Char)}
    (clean : Clean (piece :: pieces)) (rest : List Char) :
    (colons (piece :: pieces) ++ rest).head? ≠ some ':' := by
  obtain ⟨nonempty, noColon⟩ := clean piece List.mem_cons_self
  cases piece with
  | nil => exact absurd rfl nonempty
  | cons char piece =>
      have apart : char ≠ ':' := by
        rintro rfl
        exact noColon List.mem_cons_self
      cases pieces with
      | nil => simpa [colons_singleton] using apart
      | cons next pieces => simpa [colons_cons_cons] using apart

namespace Ipv6

theorem group?_eq_some_iff (text : List Char) (group : UInt16) :
    group? text = some group ↔ WritesGroup text group := by
  constructor
  · intro read
    rw [group?] at read
    split at read
    · rename_i fits
      obtain ⟨nonempty, short, digits⟩ := fits
      rw [List.all_eq_true] at digits
      have bound := Hexadecimal.value_lt digits
      have small : 16 ^ text.length ≤ 16 ^ 4 := Nat.pow_le_pow_right (by decide) short
      obtain rfl := Option.some.inj read
      refine ⟨nonempty, short, digits, ?_⟩
      rw [UInt16.toNat_ofNat', Nat.mod_eq_of_lt (by omega)]
    · cases read
  · intro writes
    rw [group?, if_pos ⟨writes.nonempty, writes.short, List.all_eq_true.mpr writes.digits⟩,
      writes.value, UInt16.ofNat_toNat]

theorem group?_of_dotted {text : List Char} {address : Ipv4} (writes : WritesDotted text address) :
    group? text = none := by
  cases read : group? text with
  | none => rfl
  | some group =>
      have asGroup := (group?_eq_some_iff _ _).mp read
      exact absurd writes.dot_mem (asGroup.not_mem rfl)

theorem ofIpv4_eq_iff (address : Ipv4) (high low : UInt16) :
    ofIpv4 address = [high, low] ↔
      high.toNat = address.first.toNat * 256 + address.second.toNat ∧
        low.toNat = address.third.toNat * 256 + address.fourth.toNat := by
  have joined (upper lower : UInt8) :
      (UInt16.ofNat (upper.toNat * 256 + lower.toNat)).toNat = upper.toNat * 256 + lower.toNat := by
    have upperBound : upper.toNat < 256 := upper.toNat_lt
    have lowerBound : lower.toNat < 256 := lower.toNat_lt
    rw [UInt16.toNat_ofNat']
    omega
  rw [ofIpv4, List.cons.injEq, List.cons.injEq, ← UInt16.toNat_inj, ← UInt16.toNat_inj, joined,
    joined]
  simp [eq_comm]

theorem groupsOfPieces?_eq_some_iff (pieces : List (List Char)) (groups : List UInt16) :
    groupsOfPieces? pieces = some groups ↔ WritesGroups pieces groups := by
  fun_induction groupsOfPieces? pieces generalizing groups with
  | case1 =>
      constructor
      · intro read
        obtain rfl := Option.some.inj read
        exact .nil
      · intro write
        cases write
        rfl
  | case2 last group found =>
      have writes := (group?_eq_some_iff _ _).mp found
      constructor
      · intro read
        obtain rfl := Option.some.inj read
        exact .group writes .nil
      · intro write
        cases write with
        | dotted dotted _ _ =>
            rw [group?_of_dotted dotted] at found
            cases found
        | group first rest =>
            cases rest
            rw [(group?_eq_some_iff _ _).mpr first] at found
            rw [Option.some.inj found]
  | case3 last noGroup =>
      rw [Option.map_eq_some_iff]
      constructor
      · rintro ⟨address, read, rfl⟩
        obtain ⟨high, low⟩ := (ofIpv4_eq_iff address _ _).mp rfl
        exact .dotted ((Ipv4.ofChars?_eq_some_iff _ _).mp read) high low
      · intro write
        cases write with
        | dotted dotted high low =>
            exact ⟨_, (Ipv4.ofChars?_eq_some_iff _ _).mpr dotted,
              (ofIpv4_eq_iff _ _ _).mpr ⟨high, low⟩⟩
        | group first rest =>
            rw [(group?_eq_some_iff _ _).mpr first] at noGroup
            cases noGroup
  | case4 piece rest several ih =>
      simp only [Option.bind_eq_bind, Option.bind_eq_some_iff, Option.pure_def, Option.some.injEq]
      constructor
      · rintro ⟨group, first, groups, later, rfl⟩
        exact .group ((group?_eq_some_iff _ _).mp first) ((ih _).mp later)
      · intro write
        cases write with
        | dotted => exact absurd rfl several
        | group first later =>
            exact ⟨_, (group?_eq_some_iff _ _).mpr first, _, (ih _).mpr later, rfl⟩

theorem splitAtGap?_cons {char : Char} {rest : List Char}
    (apart : ¬(char = ':' ∧ rest.head? = some ':')) :
    splitAtGap? (char :: rest) =
      (splitAtGap? rest).map fun (before, after) => (char :: before, after) := by
  rw [splitAtGap?.eq_def]
  split
  · rename_i same
    obtain ⟨rfl, rfl⟩ := List.cons.inj same
    exact absurd ⟨rfl, rfl⟩ apart
  · rename_i same
    obtain ⟨rfl, rfl⟩ := List.cons.inj same
    rfl
  · rename_i same
    cases same

theorem splitAtGap?_append {front : List Char} (noColon : ':' ∉ front) (rest : List Char) :
    splitAtGap? (front ++ rest) =
      (splitAtGap? rest).map fun (before, after) => (front ++ before, after) := by
  induction front with
  | nil => simp
  | cons char front ih =>
      rw [List.mem_cons, not_or] at noColon
      have apart : ¬(char = ':' ∧ (front ++ rest).head? = some ':') :=
        fun both => noColon.1 both.1.symm
      rw [List.cons_append, splitAtGap?_cons apart, ih noColon.2, Option.map_map]
      rfl

theorem splitAtGap?_colons_append {pieces : List (List Char)} (clean : Clean pieces)
    (rest : List Char) :
    splitAtGap? (colons pieces ++ rest) =
      (splitAtGap? rest).map fun (before, after) => (colons pieces ++ before, after) := by
  induction pieces with
  | nil => simp [colons_nil]
  | cons piece pieces ih =>
      have noColon := (clean piece List.mem_cons_self).2
      have later : Clean pieces := fun other member => clean other (List.mem_cons_of_mem _ member)
      cases pieces with
      | nil =>
          rw [colons_singleton]
          exact splitAtGap?_append noColon rest
      | cons next pieces =>
          have apart : ¬(':' = ':' ∧ (colons (next :: pieces) ++ rest).head? = some ':') :=
            fun both => head?_colons_ne later rest both.2
          rw [colons_cons_cons, List.append_assoc, List.cons_append, splitAtGap?_append noColon,
            splitAtGap?_cons apart, ih later, Option.map_map, Option.map_map]
          simp [Function.comp_def]

theorem eq_append_of_splitAtGap? {text before after : List Char}
    (found : splitAtGap? text = some (before, after)) : text = before ++ ':' :: ':' :: after := by
  fun_induction splitAtGap? text generalizing before with
  | case1 rest =>
      obtain ⟨rfl, rfl⟩ := Prod.mk.inj (Option.some.inj found)
      rfl
  | case2 char rest _ ih =>
      obtain ⟨⟨front, back⟩, inner, same⟩ := Option.map_eq_some_iff.mp found
      obtain ⟨rfl, rfl⟩ := Prod.mk.inj same
      rw [ih inner, List.cons_append]
  | case3 => cases found

theorem pieces_colons {pieces : List (List Char)} (clean : Clean pieces) :
    Ipv6.pieces (colons pieces) = pieces := by
  cases pieces with
  | nil => rfl
  | cons piece more =>
      have nonempty : colons (piece :: more) ≠ [] := by
        have first := (clean piece List.mem_cons_self).1
        cases more with
        | nil => rwa [colons_singleton]
        | cons next more => simp [colons_cons_cons]
      rw [Ipv6.pieces, if_neg nonempty, Split.all_eq_iff]
      exact ⟨List.cons_ne_nil _ _, rfl, fun other member => (clean other member).2⟩

theorem colons_pieces (text : List Char) : colons (Ipv6.pieces text) = text := by
  rw [Ipv6.pieces]
  split
  · rename_i empty
    rw [empty, colons_nil]
  · exact ((Split.all_eq_iff ':' text _).mp rfl).2.1

theorem mapM_group?_eq_some_iff (pieces : List (List Char)) (groups : List UInt16) :
    pieces.mapM group? = some groups ↔ List.Forall₂ WritesGroup pieces groups := by
  simp only [mapM_eq_some_iff, group?_eq_some_iff]

theorem ofGroups?_eq_some_iff (groups : List UInt16) (address : Ipv6) :
    ofGroups? groups = some address ↔ address.groups = groups := by
  constructor
  · intro made
    rw [ofGroups?] at made
    split at made
    · rw [← Option.some.inj made]
    · cases made
  · rintro rfl
    rw [ofGroups?, dif_pos address.size]

theorem writesIpv6_of_ofChars? {text : List Char} {address : Ipv6}
    (read : ofChars? text = some address) : WritesIpv6 text address.groups := by
  rw [ofChars?] at read
  split at read
  · obtain ⟨groups, written, made⟩ := Option.bind_eq_some_iff.mp read
    rw [groupsOfPieces?_eq_some_iff] at written
    rw [ofGroups?_eq_some_iff] at made
    rw [← colons_pieces text, made]
    exact .full written (made ▸ address.size)
  · rename_i before after found
    simp only [Option.bind_eq_bind, Option.bind_eq_some_iff] at read
    obtain ⟨head, readHead, tail, readTail, fits⟩ := read
    rw [mapM_group?_eq_some_iff] at readHead
    rw [groupsOfPieces?_eq_some_iff] at readTail
    split at fits
    · rename_i room
      rw [ofGroups?_eq_some_iff] at fits
      rw [eq_append_of_splitAtGap? found, ← colons_pieces before, ← colons_pieces after, fits]
      exact .gap readHead readTail (by omega) (by omega)
    · cases fits

theorem ofChars?_of_writesIpv6 {text : List Char} {address : Ipv6}
    (writes : WritesIpv6 text address.groups) : ofChars? text = some address := by
  generalize same : address.groups = groups at writes
  have made := (ofGroups?_eq_some_iff groups address).mpr same
  cases writes with
  | full write size =>
      have uncut := splitAtGap?_colons_append write.clean []
      rw [List.append_nil, show splitAtGap? [] = none from rfl, Option.map_none] at uncut
      rw [ofChars?, uncut]
      simp only [pieces_colons write.clean, (groupsOfPieces?_eq_some_iff _ _).mpr write]
      exact made
  | gap front back room size =>
      rename_i before after head tail zeros
      have cut := splitAtGap?_colons_append (clean_of_forall₂ front) (':' :: ':' :: colons after)
      rw [show splitAtGap? (':' :: ':' :: colons after) = some ([], colons after) from rfl,
        Option.map_some] at cut
      simp only [List.append_nil] at cut
      have left : 8 - head.length - tail.length = zeros := by omega
      rw [ofChars?, cut]
      simp only [pieces_colons (clean_of_forall₂ front), pieces_colons back.clean,
        (mapM_group?_eq_some_iff _ _).mpr front, (groupsOfPieces?_eq_some_iff _ _).mpr back]
      simp only [Option.bind_eq_bind, Option.bind_some, left]
      rw [if_pos (by omega)]
      exact made

theorem ofChars?_eq_some_iff (text : List Char) (address : Ipv6) :
    ofChars? text = some address ↔ WritesIpv6 text address.groups :=
  ⟨writesIpv6_of_ofChars?, ofChars?_of_writesIpv6⟩

end Ipv6

end UptimeGreeter.Net
