import UptimeGreeter.Net.Endpoint
import UptimeGreeter.Proofs.Net.Ipv6Text

/-!
Written forms of addresses of either family. A text is read as an address exactly if it is a written
form of it. The text of an address is one, and the only one without a colon.
-/

namespace UptimeGreeter.Net

inductive WritesAddress : List Char → Address → Prop
  | v4 {text : List Char} {address : Ipv4} :
      WritesDotted text address → WritesAddress text (.v4 address)
  | v6 {text : List Char} {address : Ipv6} :
      WritesIpv6 text address.groups → WritesAddress text (.v6 address)

def Plain (char : Char) : Prop :=
  Hexadecimal.isDigit char ∨ char = ':' ∨ char = '.'

theorem WritesDotted.plain {text : List Char} {address : Ipv4} (writes : WritesDotted text address) :
    ∀ char ∈ text, Plain char := by
  intro char inside
  by_cases dot : char = '.'
  · exact .inr (.inr dot)
  · have digit : char.isDigit := by
      by_contra noDigit
      exact writes.not_mem (Bool.eq_false_of_not_eq_true noDigit) dot inside
    left
    simp [Hexadecimal.isDigit, digit]

theorem mem_colons {pieces : List (List Char)} {char : Char} (inside : char ∈ colons pieces) :
    char = ':' ∨ ∃ piece ∈ pieces, char ∈ piece := by
  induction pieces with
  | nil => cases inside
  | cons piece pieces ih =>
      cases pieces with
      | nil =>
          rw [colons_singleton] at inside
          exact .inr ⟨piece, List.mem_cons_self, inside⟩
      | cons next pieces =>
          rw [colons_cons_cons, List.mem_append, List.mem_cons] at inside
          rcases inside with first | colon | later
          · exact .inr ⟨piece, List.mem_cons_self, first⟩
          · exact .inl colon
          · rcases ih later with colon | ⟨other, member, found⟩
            · exact .inl colon
            · exact .inr ⟨other, List.mem_cons_of_mem _ member, found⟩

theorem WritesGroups.plain {pieces : List (List Char)} {groups : List UInt16}
    (write : WritesGroups pieces groups) : ∀ char ∈ colons pieces, Plain char := by
  have each : ∀ piece ∈ pieces, ∀ char ∈ piece, Plain char := by
    induction write with
    | nil => simp
    | dotted dotted _ _ =>
        rw [List.forall_mem_singleton]
        exact dotted.plain
    | group first _ ih =>
        rw [List.forall_mem_cons]
        exact ⟨fun char inside => .inl (first.digits char inside), ih⟩
  intro char inside
  rcases mem_colons inside with colon | ⟨piece, member, found⟩
  · exact .inr (.inl colon)
  · exact each piece member char found

theorem WritesIpv6.plain {text : List Char} {groups : List UInt16}
    (writes : WritesIpv6 text groups) : ∀ char ∈ text, Plain char := by
  cases writes with
  | full write _ => exact write.plain
  | gap front back _ _ =>
      rw [List.forall_mem_append, List.forall_mem_cons, List.forall_mem_cons]
      exact ⟨(WritesGroups.of_forall₂ front).plain, .inr (.inl rfl), .inr (.inl rfl), back.plain⟩

theorem WritesGroups.length_le {pieces : List (List Char)} {groups : List UInt16}
    (write : WritesGroups pieces groups) : groups.length ≤ pieces.length + 1 := by
  induction write with
  | nil => exact Nat.zero_le _
  | dotted _ _ _ => exact Nat.le_refl _
  | group _ _ ih => exact Nat.succ_le_succ ih

theorem length_le_count_colons (pieces : List (List Char)) :
    pieces.length ≤ (colons pieces).count ':' + 1 := by
  induction pieces with
  | nil => exact Nat.zero_le _
  | cons piece pieces ih =>
      cases pieces with
      | nil => exact Nat.succ_le_succ (Nat.zero_le _)
      | cons next pieces =>
          rw [List.length_cons, colons_cons_cons, List.count_append, List.count_cons_self]
          omega

theorem WritesIpv6.two_le_count {text : List Char} {groups : List UInt16}
    (writes : WritesIpv6 text groups) : 2 ≤ text.count ':' := by
  cases writes with
  | full write size =>
      rename_i pieces
      have several := write.length_le
      have counted := length_le_count_colons pieces
      omega
  | gap =>
      rw [List.count_append, List.count_cons_self, List.count_cons_self]
      omega

theorem WritesIpv6.colon_mem {text : List Char} {groups : List UInt16}
    (writes : WritesIpv6 text groups) : ':' ∈ text :=
  List.count_pos_iff.mp (Nat.lt_of_lt_of_le Nat.two_pos writes.two_le_count)

theorem eq_append_of_append_eq {lead rest front back : List Char} {mark : Char}
    (absent : mark ∉ lead) (same : lead ++ rest = front ++ mark :: back) :
    ∃ inner, rest = inner ++ mark :: back := by
  rcases List.append_eq_append_iff.mp same with ⟨inner, _, behind⟩ | ⟨inner, whole, behind⟩
  · exact ⟨inner, behind⟩
  · cases inner with
    | nil => exact ⟨[], behind.symm⟩
    | cons char inner =>
        obtain ⟨rfl, _⟩ := List.cons.inj behind
        rw [whole] at absent
        simp at absent

theorem WritesDotted.colon_not_mem {text front back : List Char} {address : Ipv4}
    (writes : WritesDotted text address) (same : text = front ++ '.' :: back) : ':' ∉ back := by
  have noColon : ':' ∉ text := writes.not_mem rfl (by decide)
  rw [same, List.mem_append, List.mem_cons] at noColon
  exact fun inside => noColon (.inr (.inr inside))

/-- Only the last piece may be a dotted form, so no colon follows a dot. -/
theorem WritesGroups.colon_not_mem {pieces : List (List Char)} {groups : List UInt16}
    (write : WritesGroups pieces groups) {front back : List Char}
    (same : colons pieces = front ++ '.' :: back) : ':' ∉ back := by
  induction write generalizing front with
  | nil => simp [colons_nil] at same
  | dotted dotted _ _ =>
      rw [colons_singleton] at same
      exact dotted.colon_not_mem same
  | group first rest ih =>
      rename_i text _ pieces _
      have noDot : '.' ∉ text := first.not_mem rfl
      cases pieces with
      | nil =>
          rw [colons_singleton] at same
          simp [same] at noDot
      | cons next pieces =>
          rw [colons_cons_cons, List.append_cons] at same
          obtain ⟨inner, later⟩ := eq_append_of_append_eq (by simp [noDot]) same
          exact ih later

theorem dot_not_mem_colons {pieces : List (List Char)} {groups : List UInt16}
    (write : List.Forall₂ WritesGroup pieces groups) : '.' ∉ colons pieces := by
  have each : ∀ piece ∈ pieces, '.' ∉ piece := by
    induction write with
    | nil => simp
    | cons first _ ih =>
        rw [List.forall_mem_cons]
        exact ⟨first.not_mem rfl, ih⟩
  intro inside
  rcases mem_colons inside with colon | ⟨piece, member, found⟩
  · exact absurd colon (by decide)
  · exact each piece member found

theorem WritesAddress.plain {text : List Char} {address : Address}
    (writes : WritesAddress text address) : ∀ char ∈ text, Plain char := by
  cases writes with
  | v4 dotted => exact dotted.plain
  | v6 grouped => exact grouped.plain

theorem WritesIpv6.colon_not_mem {text front back : List Char} {groups : List UInt16}
    (writes : WritesIpv6 text groups) (same : text = front ++ '.' :: back) : ':' ∉ back := by
  cases writes with
  | full write _ => exact write.colon_not_mem same
  | gap before after _ _ =>
      have noDot := dot_not_mem_colons before
      rw [List.append_cons, List.append_cons] at same
      obtain ⟨inner, later⟩ := eq_append_of_append_eq (by simp [noDot]) same
      exact after.colon_not_mem later

theorem WritesAddress.colon_not_mem {front back : List Char} {address : Address}
    (writes : WritesAddress (front ++ '.' :: back) address) : ':' ∉ back := by
  generalize same : front ++ '.' :: back = text at writes
  cases writes with
  | v4 dotted => exact dotted.colon_not_mem same.symm
  | v6 grouped => exact grouped.colon_not_mem same.symm

theorem WritesAddress.eq_of_count_le {text : List Char} {address : Address}
    (writes : WritesAddress text address) (few : text.count ':' ≤ 1) :
    ∃ dotted, address = .v4 dotted ∧ WritesDotted text dotted := by
  cases writes with
  | v4 dotted => exact ⟨_, rfl, dotted⟩
  | v6 grouped =>
      have several := grouped.two_le_count
      omega

inductive NoAddress : List Char → Prop
  | empty : NoAddress []
  | foreign {text : List Char} {char : Char} : char ∈ text → ¬Plain char → NoAddress text
  | fewColons {text : List Char} : text.count ':' ≤ 1 →
      (∀ address : Ipv4, text ≠ address.text.toList) → NoAddress text
  | behindDot {front back : List Char} : ':' ∈ back → NoAddress (front ++ '.' :: back)

theorem NoAddress.not_writes {text : List Char} (none : NoAddress text) (address : Address) :
    ¬WritesAddress text address := by
  intro writes
  cases none with
  | empty =>
      cases writes with
      | v4 dotted => exact dotted.ne_nil rfl
      | v6 grouped => cases grouped.colon_mem
  | foreign inside other => exact other (writes.plain _ inside)
  | fewColons few other =>
      obtain ⟨dotted, _, written⟩ := writes.eq_of_count_le few
      exact other dotted ((Ipv4.writesDotted_iff _ _).mp written)
  | behindDot inside => exact writes.colon_not_mem inside

namespace Address

/-- A dotted form has no colon and every other form has, so the order of reading does not matter. -/
theorem ofText?_eq_some_iff (text : String) (address : Address) :
    ofText? text = some address ↔ WritesAddress text.toList address := by
  rw [ofText?]
  constructor
  · intro read
    split at read
    · rename_i dotted found
      obtain rfl := Option.some.inj read
      exact .v4 ((Ipv4.ofChars?_eq_some_iff _ _).mp found)
    · obtain ⟨grouped, found, rfl⟩ := Option.map_eq_some_iff.mp read
      exact .v6 ((Ipv6.ofChars?_eq_some_iff _ _).mp found)
  · intro writes
    cases writes with
    | v4 dotted => rw [(Ipv4.ofChars?_eq_some_iff _ _).mpr dotted]
    | v6 grouped =>
        have noDotted : Ipv4.ofChars? text.toList = none := by
          rw [Option.eq_none_iff_forall_ne_some]
          intro address read
          have dotted := (Ipv4.ofChars?_eq_some_iff _ _).mp read
          exact dotted.not_mem rfl (by decide) grouped.colon_mem
        rw [noDotted, (Ipv6.ofChars?_eq_some_iff _ _).mpr grouped]
        rfl

theorem writesAddress_text (address : Address) : WritesAddress address.text.toList address := by
  cases address with
  | v4 address => exact .v4 ((Ipv4.writesDotted_iff _ _).mpr rfl)
  | v6 address => exact .v6 (Ipv6.writesIpv6_text address)

theorem ofText?_text (address : Address) : ofText? address.text = some address :=
  (ofText?_eq_some_iff _ _).mpr (writesAddress_text address)

end Address

end UptimeGreeter.Net
