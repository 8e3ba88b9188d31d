import Mathlib.Data.List.Infix
import UptimeGreeter.LogFilter.Directive

/-!
When the reader of a directive breaks off. Parts are found by their bytes in the text without the
blanks around it, so they come apart between characters unless there are blanks in front and some
character takes more than one byte.
-/

namespace UptimeGreeter

namespace Text

theorem trimBlanks_prefix_dropWhile (text : List Char) :
    trimBlanks text <+: text.dropWhile isBlank := by
  rw [← List.reverse_suffix, trimBlanks, List.reverse_reverse]
  exact List.dropWhile_suffix isBlank

theorem trimBlanks_prefix {text : List Char}
    (bare : ¬∃ blank rest, text = blank :: rest ∧ isBlank blank) : trimBlanks text <+: text := by
  have front := trimBlanks_prefix_dropWhile text
  cases text with
  | nil => exact front
  | cons first rest =>
      have visible : ¬isBlank first := fun blank => bare ⟨first, rest, rfl, blank⟩
      rwa [List.dropWhile_cons_of_neg visible] at front

theorem length_trimBlanks_le (text : List Char) : (trimBlanks text).length ≤ text.length :=
  (trimBlanks_prefix_dropWhile text).length_le.trans (List.dropWhile_suffix isBlank).length_le

theorem mem_of_mem_trimBlanks {text : List Char} {char : Char} (member : char ∈ trimBlanks text) :
    char ∈ text :=
  (List.dropWhile_suffix isBlank).mem ((trimBlanks_prefix_dropWhile text).mem member)

end Text

namespace Utf8

theorem width_eq_length {text : List Char} (ascii : ∀ char ∈ text, char.toNat < 128) :
    width text = text.length := by
  induction text with
  | nil => rfl
  | cons char rest ih =>
      rw [List.forall_mem_cons] at ascii
      have small : char.val ≤ 0x7F := UInt32.le_iff_toNat_le.mpr (Nat.le_of_lt_succ ascii.1)
      have single : char.utf8Size = 1 := by simp [Char.utf8Size, small]
      rw [width, single, ih ascii.2, List.length_cons, Nat.add_comm]

theorem eq_nil_of_width {text : List Char} (none : width text = 0) : text = [] := by
  cases text with
  | nil => rfl
  | cons char rest =>
      have size := char.utf8Size_pos
      rw [width] at none
      omega

end Utf8

namespace LogFilter.Directive

def IsBoundary (text : List Char) (byte : Nat) : Prop :=
  ∃ front back, text = front ++ back ∧ Utf8.width front = byte

theorem exists_splitAt {text : List Char} {byte : Nat} (boundary : IsBoundary text byte) :
    ∃ parts, splitAt text byte = .ok parts := by
  obtain ⟨front, back, rfl, rfl⟩ := boundary
  rw [splitAt, Utf8.split?_append]
  exact ⟨_, rfl⟩

theorem exists_slice {text : List Char} {start stop : Nat} (first : IsBoundary text start)
    (last : IsBoundary text stop) (ordered : start ≤ stop) :
    ∃ part, slice text start stop = .ok part := by
  obtain ⟨front, back, rfl, rfl⟩ := first
  obtain ⟨longer, rest, same, rfl⟩ := last
  have between : ∃ middle, back = middle ++ rest ∧
      Utf8.width longer - Utf8.width front = Utf8.width middle := by
    rcases List.append_eq_append_iff.mp same with ⟨middle, rfl, rfl⟩ | ⟨middle, rfl, rfl⟩
    · exact ⟨middle, rfl, by rw [Utf8.width_append, Nat.add_sub_cancel_left]⟩
    · rw [Utf8.width_append] at ordered
      obtain rfl : middle = [] := Utf8.eq_nil_of_width (by omega)
      exact ⟨[], rfl, by rw [List.append_nil, Nat.sub_self]; rfl⟩
  obtain ⟨middle, rfl, width⟩ := between
  rw [slice, splitAt, Utf8.split?_append, width]
  simp only [bind, Except.bind, splitAt, Utf8.split?_append]
  exact ⟨_, rfl⟩

theorem eq_invalid_of_readField {text : String} {fault : Fault}
    (failed : readField text = .error fault) : fault = .invalid := by
  unfold readField at failed
  split at failed
  · exact (Except.error.inj failed).symm
  · split at failed
    · cases failed
    · exact (Except.error.inj failed).symm

theorem eq_invalid_of_readThreshold {text : String} {fault : Fault}
    (failed : readThreshold text = .error fault) : fault = .invalid := by
  unfold readThreshold at failed
  split at failed
  · cases failed
  · split at failed
    · cases failed
    · exact (Except.error.inj failed).symm

namespace Draft

def Begun (text : List Char) (byte : Nat) (draft : Draft) : Prop :=
  match draft.place with
  | .span start | .field start | .level start => IsBoundary text start ∧ start ≤ byte
  | _ => True

/-- Reading has come to a byte and has not broken off. -/
def Whole (text : List Char) (byte : Nat) : Except Fault Draft → Prop
  | .ok draft => draft.Begun text byte
  | .error fault => fault = .invalid

theorem whole_read {text : List Char} {draft : Draft} {byte : Nat} {char : Char}
    (here : IsBoundary text byte) (next : IsBoundary text (byte + char.utf8Size))
    (begun : draft.Begun text byte) :
    Whole text (byte + char.utf8Size) (draft.read text byte char) := by
  obtain ⟨directive, place⟩ := draft
  cases place with
  | start =>
      by_cases opened : char = '['
      · subst opened
        exact ⟨next, Nat.le_refl _⟩
      · simp only [read, if_neg opened]
        by_cases word : mayStartWord char
        · rw [if_pos word]
          trivial
        · rw [if_neg word]
          rfl
  | word =>
      have zero : IsBoundary text 0 := ⟨[], text, rfl, rfl⟩
      obtain ⟨target, cut⟩ := exists_slice zero here (Nat.zero_le _)
      by_cases equals : char = '='
      · subst equals
        simp only [read, if_pos, cut]
        exact ⟨next, Nat.le_refl _⟩
      · by_cases opened : char = '['
        · subst opened
          simp only [read, if_neg equals, if_pos, cut]
          exact ⟨next, Nat.le_refl _⟩
        · simp only [read, if_neg equals, if_neg opened]
          trivial
  | span start =>
      obtain ⟨name, cut⟩ := exists_slice begun.1 here begun.2
      by_cases closed : char = ']'
      · simp only [read, if_pos closed, cut]
        trivial
      · by_cases brace : char = '\x7b'
        · subst brace
          simp only [read, if_neg closed, if_pos, cut]
          exact ⟨next, Nat.le_refl _⟩
        · simp only [read, if_neg closed, if_neg brace]
          exact ⟨begun.1, Nat.le_add_right_of_le begun.2⟩
  | field start =>
      obtain ⟨condition, cut⟩ := exists_slice begun.1 here begun.2
      by_cases closed : char = '\x7d'
      · simp only [read, if_pos closed, cut, bind, Except.bind]
        cases met : readField condition with
        | ok field => trivial
        | error fault => exact eq_invalid_of_readField met
      · simp only [read, if_neg closed]
        exact ⟨begun.1, Nat.le_add_right_of_le begun.2⟩
  | afterField =>
      by_cases closed : char = ']'
      · simp only [read, if_pos closed]
        trivial
      · simp only [read, if_neg closed]
        rfl
  | afterBracket =>
      by_cases equals : char = '='
      · subst equals
        exact ⟨next, Nat.le_refl _⟩
      · simp only [read, if_neg equals]
        rfl
  | level start => exact ⟨begun.1, Nat.le_add_right_of_le begun.2⟩

theorem whole_readAll {text rest : List Char} {draft : Draft} {byte : Nat}
    (boundaries : ∀ front, front <+: rest → IsBoundary text (byte + Utf8.width front))
    (begun : draft.Begun text byte) :
    Whole text (byte + Utf8.width rest) (draft.readAll text byte rest) := by
  -- The part being read may have begun at any earlier byte, so draft and byte stay general.
  induction rest generalizing draft byte with
  | nil => exact begun
  | cons char rest ih =>
      have width (front : List Char) :
          byte + Utf8.width (char :: front) = byte + char.utf8Size + Utf8.width front :=
        (Nat.add_assoc ..).symm
      have later : ∀ front, front <+: rest →
          IsBoundary text (byte + char.utf8Size + Utf8.width front) := by
        intro front starts
        rw [← width]
        exact boundaries _ (List.cons_prefix_cons.mpr ⟨rfl, starts⟩)
      have here : IsBoundary text byte := boundaries [] List.nil_prefix
      have next : IsBoundary text (byte + char.utf8Size) := later [] List.nil_prefix
      have step := whole_read here next begun
      rw [readAll, width]
      cases taken : draft.read text byte char with
      | error fault =>
          rw [taken] at step
          exact step
      | ok after =>
          rw [taken] at step
          exact ih later step

theorem eq_invalid_of_finish {text : List Char} {draft : Draft} {byte : Nat} {fault : Fault}
    (begun : draft.Begun text byte) (failed : draft.finish text = .error fault) :
    fault = .invalid := by
  obtain ⟨directive, place⟩ := draft
  cases place with
  | word => cases failed
  | afterBracket => cases failed
  | level start =>
      obtain ⟨parts, cut⟩ := exists_splitAt begun.1
      simp only [finish, cut, bind, Except.bind] at failed
      cases level : readThreshold (.ofList parts.2) with
      | ok threshold =>
          rw [level] at failed
          cases failed
      | error found =>
          rw [level] at failed
          obtain rfl := Except.error.inj failed
          exact eq_invalid_of_readThreshold level
  | start => exact (Except.error.inj failed).symm
  | span start => exact (Except.error.inj failed).symm
  | field start => exact (Except.error.inj failed).symm
  | afterField => exact (Except.error.inj failed).symm

end Draft

/-- What is read of a text ends between characters of the whole text, wherever reading stops. -/
def Aligned (text : List Char) : Prop :=
  ∀ front, front <+: Text.trimBlanks text → IsBoundary text (Utf8.width front)

theorem aligned_of_bare {text : List Char}
    (bare : ¬∃ blank rest, text = blank :: rest ∧ Text.isBlank blank) : Aligned text := by
  intro front part
  obtain ⟨back, same⟩ := part.trans (Text.trimBlanks_prefix bare)
  exact ⟨front, back, same.symm, rfl⟩

theorem aligned_of_ascii {text : List Char} (ascii : ∀ char ∈ text, char.toNat < 128) :
    Aligned text := by
  intro front part
  have short : front.length ≤ text.length :=
    part.length_le.trans (Text.length_trimBlanks_le text)
  have width : Utf8.width front = front.length :=
    Utf8.width_eq_length fun char member => ascii char (Text.mem_of_mem_trimBlanks (part.mem member))
  have start : Utf8.width (text.take front.length) = (text.take front.length).length :=
    Utf8.width_eq_length fun char member => ascii char (List.mem_of_mem_take member)
  refine ⟨text.take front.length, text.drop front.length, (List.take_append_drop ..).symm, ?_⟩
  rw [start, List.length_take_of_le short, width]

theorem eq_invalid_of_ofText {text : String} {fault : Fault} (aligned : Aligned text.toList)
    (failed : ofText text = .error fault) : fault = .invalid := by
  have whole : Draft.Whole text.toList (0 + Utf8.width (Text.trimBlanks text.toList))
      (Draft.blank.readAll text.toList 0 (Text.trimBlanks text.toList)) := by
    apply Draft.whole_readAll
    · intro front part
      rw [Nat.zero_add]
      exact aligned front part
    · trivial
  unfold ofText at failed
  cases drafted : Draft.blank.readAll text.toList 0 (Text.trimBlanks text.toList) with
  | error found =>
      rw [drafted] at failed whole
      obtain rfl := Except.error.inj failed
      exact whole
  | ok draft =>
      rw [drafted] at failed whole
      exact Draft.eq_invalid_of_finish whole failed

def IsShifted (text : List Char) : Prop :=
  (∃ blank rest, text = blank :: rest ∧ Text.isBlank blank) ∧ ∃ char ∈ text, 128 ≤ char.toNat

/-- Other texts never break the reader off. -/
theorem isShifted_of_ofText {text : String} (cut : ofText text = .error .cutCharacter) :
    IsShifted text.toList := by
  constructor
  · by_contra bare
    cases eq_invalid_of_ofText (aligned_of_bare bare) cut
  · by_contra narrow
    have ascii : ∀ char ∈ text.toList, char.toNat < 128 := by
      intro char member
      by_contra wide
      exact narrow ⟨char, member, Nat.le_of_not_lt wide⟩
    cases eq_invalid_of_ofText (aligned_of_ascii ascii) cut

end LogFilter.Directive

end UptimeGreeter
