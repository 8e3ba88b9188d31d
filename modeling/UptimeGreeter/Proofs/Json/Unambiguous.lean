import UptimeGreeter.Proofs.Json.Grammar

/-!
JSON is unambiguous: a text is read as one value, and leaves one rest.
-/

namespace UptimeGreeter.Json

theorem append_eq_append_of_head? {test : Char → Bool} {front back rest later : List Char}
    (passed : ∀ char ∈ front, test char) (backPassed : ∀ char ∈ back, test char)
    (stops : ∀ char ∈ rest.head?, test char = false)
    (laterStops : ∀ char ∈ later.head?, test char = false)
    (same : front ++ rest = back ++ later) : front = back ∧ rest = later := by
  induction front generalizing back with
  | nil =>
      cases back with
      | nil => exact ⟨rfl, same⟩
      | cons char back =>
          rw [List.nil_append] at same
          have ended := stops char (by simp [same])
          simp [backPassed char List.mem_cons_self] at ended
  | cons char front ih =>
      rw [List.forall_mem_cons] at passed
      cases back with
      | nil =>
          rw [List.nil_append] at same
          have ended := laterStops char (by simp [← same])
          simp [passed.1] at ended
      | cons other back =>
          rw [List.forall_mem_cons] at backPassed
          rw [List.cons_append, List.cons_append, List.cons.injEq] at same
          obtain ⟨rfl, rest⟩ := ih passed.2 backPassed.2 same.2
          exact ⟨by rw [same.1], rest⟩

theorem isNumeric_of_isDigits {digits : List Char} (all : Decimal.IsDigits digits) :
    ∀ char ∈ digits, isNumeric char := by
  intro char member
  simp [isNumeric, all.2 char member]

theorem isNumeric_of_isNumber {literal : List Char} (number : IsNumber literal) :
    ∀ char ∈ literal, isNumeric char := by
  obtain ⟨sign, integer, fraction, exponent⟩ := number
  simp only [List.forall_mem_append]
  refine ⟨?_, isNumeric_of_isDigits integer.1, ?_, ?_⟩
  · simp only [List.mem_cons, List.not_mem_nil, or_false] at sign
    rcases sign with rfl | rfl
    · simp
    · simp [isNumeric]
  · cases fraction with
    | absent => simp
    | digits all =>
        rw [List.forall_mem_cons]
        exact ⟨by decide, isNumeric_of_isDigits all⟩
  · cases exponent with
    | absent => simp
    | digits mark sign all =>
        simp only [List.mem_cons, List.not_mem_nil, or_false] at mark sign
        rw [List.forall_mem_cons, List.forall_mem_append]
        refine ⟨?_, ?_, isNumeric_of_isDigits all⟩
        · rcases mark with rfl | rfl <;> decide
        · rcases sign with rfl | rfl | rfl
          · simp
          · simp [isNumeric]
          · simp [isNumeric]

inductive Kind where
  | null
  | boolean
  | number
  | string
  | array
  | object
  deriving DecidableEq

def kind : Json → Kind
  | .null => .null
  | .boolean _ => .boolean
  | .number _ => .number
  | .string _ => .string
  | .array _ => .array
  | .object _ => .object

def Kind.leads : List (Char × Kind) :=
  [('n', .null), ('t', .boolean), ('f', .boolean), ('-', .number), ('"', .string), ('[', .array),
    ('\x7b', .object)]

def Kind.ofLead? (char : Char) : Option Kind :=
  if char.isDigit then some .number else leads.lookup char

theorem Kind.ofLead?_of_isDigit {char : Char} (digit : char.isDigit) :
    ofLead? char = some .number :=
  if_pos digit

theorem Kind.ofLead?_of_isBlank {char : Char} (blank : isBlank char) : ofLead? char = none := by
  simp only [isBlank, decide_eq_true_eq, List.mem_cons, List.not_mem_nil, or_false] at blank
  rcases blank with rfl | rfl | rfl | rfl <;> rfl

theorem IsNumber.exists_lead {literal : List Char} (number : IsNumber literal) :
    ∃ first later, literal = first :: later ∧ Kind.ofLead? first = some .number := by
  obtain @⟨sign, integer, _, _, signed, ⟨⟨nonempty, digits⟩, _⟩, _, _⟩ := number
  simp only [List.mem_cons, List.not_mem_nil, or_false] at signed
  rcases signed with rfl | rfl
  · cases integer with
    | nil => exact absurd rfl nonempty
    | cons first later =>
        exact ⟨first, _, rfl, Kind.ofLead?_of_isDigit (digits first List.mem_cons_self)⟩
  · exact ⟨'-', _, rfl, rfl⟩

theorem ReadsLeaf.exists_lead {json : Json} {text rest : List Char}
    (reads : ReadsLeaf text json rest) :
    ∃ first later, text = first :: later ∧ Kind.ofLead? first = some json.kind := by
  cases reads with
  | null same => exact ⟨'n', _, same, rfl⟩
  | @boolean _ value same =>
      cases value
      · exact ⟨'f', _, same, rfl⟩
      · exact ⟨'t', _, same, rfl⟩
  | number same number =>
      obtain ⟨first, later, rfl, lead⟩ := number.exists_lead
      exact ⟨first, _, same, lead⟩
  | string same => exact ⟨'"', _, same, rfl⟩

theorem Reads.exists_lead {json : Json} {text rest : List Char}
    (reads : Reads (.value json) text rest) :
    ∃ first later, text = first :: later ∧ Kind.ofLead? first = some json.kind := by
  cases reads with
  | leaf reads => exact reads.exists_lead
  | array same => exact ⟨'[', _, same, rfl⟩
  | object same => exact ⟨'\x7b', _, same, rfl⟩

theorem Reads.kind_eq {left right : Json} {text leftRest rightRest : List Char}
    (first : Reads (.value left) text leftRest) (second : Reads (.value right) text rightRest) :
    left.kind = right.kind := by
  obtain ⟨char, later, rfl, lead⟩ := first.exists_lead
  obtain ⟨other, _, same, otherLead⟩ := second.exists_lead
  rw [← (List.cons.inj same).1, lead] at otherLead
  exact Option.some.inj otherLead

theorem Reads.ne_cons {json : Json} {text rest : List Char}
    (reads : Reads (.value json) text rest) {mark : Char} (noLead : Kind.ofLead? mark = none)
    {later : List Char} : text ≠ mark :: later := by
  rintro rfl
  obtain ⟨first, _, same, lead⟩ := reads.exists_lead
  rw [← (List.cons.inj same).1, noLead] at lead
  cases lead

theorem Reads.skipBlanks_eq {json : Json} {text rest : List Char}
    (reads : Reads (.value json) text rest) : skipBlanks text = text := by
  obtain ⟨first, later, rfl, lead⟩ := reads.exists_lead
  have visible : ¬isBlank first = true := by
    intro blank
    rw [Kind.ofLead?_of_isBlank blank] at lead
    cases lead
  rw [skipBlanks, List.dropWhile_cons_of_neg visible]

theorem IsCode.unique {front back rest later : List Char} (first : IsCode front)
    (second : IsCode back) (same : front ++ rest = back ++ later) : front = back ∧ rest = later :=
  List.append_inj same (first.1.trans second.1.symm)

theorem ne_toNat_of_surrogate (char : Char) {unit : Nat} (low : 0xD800 ≤ unit)
    (high : unit < 0xE000) : unit ≠ char.toNat := by
  rintro rfl
  rcases char.valid with below | ⟨above, _⟩
  · exact absurd low (Nat.not_le.mpr below)
  · exact absurd above (Nat.not_lt.mpr (Nat.le_of_lt_succ high))

theorem ReadsCode.unique {text rest later : List Char} {char other : Char}
    (first : ReadsCode text char rest) (second : ReadsCode text other later) :
    char = other ∧ rest = later := by
  cases first with
  | single shape code value =>
      cases second with
      | single same otherCode otherValue =>
          obtain ⟨rfl, rfl⟩ := code.unique otherCode (shape.symm.trans same)
          exact ⟨Char.toNat_inj.mp (value.symm.trans otherValue), rfl⟩
      | pair same high _ lower upper =>
          obtain ⟨rfl, _⟩ := code.unique high (shape.symm.trans same)
          exact absurd value (ne_toNat_of_surrogate char lower (by omega))
  | pair shape high low lower upper _ _ value =>
      cases second with
      | single same otherCode otherValue =>
          obtain ⟨rfl, _⟩ := high.unique otherCode (shape.symm.trans same)
          exact absurd otherValue (ne_toNat_of_surrogate other lower (by omega))
      | pair same otherHigh otherLow _ _ _ _ otherValue =>
          obtain ⟨rfl, tail⟩ := high.unique otherHigh (shape.symm.trans same)
          obtain ⟨rfl, rfl⟩ := low.unique otherLow (by simpa using tail)
          exact ⟨Char.toNat_inj.mp (value.trans otherValue.symm), rfl⟩

theorem ReadsChar.unique {text rest later : List Char} {char other : Char}
    (first : ReadsChar text char rest) (second : ReadsChar text other later) :
    char = other ∧ rest = later := by
  have noCode : escapes.lookup 'u' = none := by decide
  cases first with
  | plain shape _ _ noEscape =>
      subst shape
      cases second with
      | plain same => exact List.cons.inj same
      | named same => exact absurd (List.cons.inj same).1 noEscape
      | code same => exact absurd (List.cons.inj same).1 noEscape
  | named shape found =>
      subst shape
      cases second with
      | plain same _ _ noEscape => exact absurd (List.cons.inj same).1.symm noEscape
      | named same otherFound =>
          simp only [List.cons.injEq, true_and] at same
          obtain ⟨rfl, rfl⟩ := same
          exact ⟨Option.some.inj (found.symm.trans otherFound), rfl⟩
      | code same =>
          simp only [List.cons.injEq, true_and] at same
          rw [same.1, noCode] at found
          cases found
  | code shape code =>
      subst shape
      cases second with
      | plain same _ _ noEscape => exact absurd (List.cons.inj same).1.symm noEscape
      | named same found =>
          simp only [List.cons.injEq, true_and] at same
          rw [← same.1, noCode] at found
          cases found
      | code same otherCode =>
          simp only [List.cons.injEq, true_and] at same
          subst same
          exact code.unique otherCode

theorem ReadsChar.head?_ne {text rest : List Char} {char : Char} (reads : ReadsChar text char rest) :
    text.head? ≠ some '"' := by
  cases reads with
  | plain shape _ noQuote => simpa [shape] using noQuote
  | named shape => simp [shape]
  | code shape => simp [shape]

theorem ReadsString.unique {text content rest other later : List Char}
    (first : ReadsString text content rest) (second : ReadsString text other later) :
    content = other ∧ rest = later := by
  induction first generalizing other with
  | closed shape =>
      subst shape
      cases second with
      | closed same => exact ⟨rfl, (List.cons.inj same).2⟩
      | more char => exact absurd rfl char.head?_ne
  | more char _ ih =>
      cases second with
      | closed same =>
          subst same
          exact absurd rfl char.head?_ne
      | more otherChar otherContent =>
          obtain ⟨rfl, rfl⟩ := char.unique otherChar
          obtain ⟨rfl, rfl⟩ := ih otherContent
          exact ⟨rfl, rfl⟩

theorem ReadsLeaf.unique {text rest later : List Char} {json other : Json}
    (first : ReadsLeaf text json rest) (second : ReadsLeaf text other later) :
    json = other ∧ rest = later := by
  have kinds := (Reads.leaf first).kind_eq (.leaf second)
  cases first with
  | null shape =>
      cases second with
      | null same => exact ⟨rfl, List.append_cancel_left (shape.symm.trans same)⟩
      | _ => cases kinds
  | @boolean _ value shape =>
      cases second with
      | @boolean _ otherValue same =>
          have words := shape.symm.trans same
          cases value <;> cases otherValue
          · exact ⟨rfl, List.append_cancel_left words⟩
          · exact absurd (List.cons.inj words).1 (by decide)
          · exact absurd (List.cons.inj words).1 (by decide)
          · exact ⟨rfl, List.append_cancel_left words⟩
      | _ => cases kinds
  | number shape number stops =>
      cases second with
      | number same otherNumber otherStops =>
          obtain ⟨rfl, rfl⟩ := append_eq_append_of_head? (isNumeric_of_isNumber number)
            (isNumeric_of_isNumber otherNumber) stops otherStops (shape.symm.trans same)
          exact ⟨rfl, rfl⟩
      | _ => cases kinds
  | string shape content =>
      cases second with
      | string same otherContent =>
          obtain rfl := (List.cons.inj (shape.symm.trans same)).2
          obtain ⟨rfl, rfl⟩ := content.unique otherContent
          exact ⟨rfl, rfl⟩
      | _ => cases kinds

theorem ReadsName.unique {text rest later : List Char} {name other : String}
    (first : ReadsName text name rest) (second : ReadsName text other later) :
    name = other ∧ rest = later := by
  obtain ⟨opened, content, colon⟩ := first
  obtain ⟨otherOpened, otherContent, otherColon⟩ := second
  obtain rfl := (List.cons.inj (opened.symm.trans otherOpened)).2
  obtain ⟨rfl, rfl⟩ := content.unique otherContent
  exact ⟨rfl, (List.cons.inj (colon.symm.trans otherColon)).2⟩

theorem ReadsName.skipBlanks_ne {text source : List Char} {name : String}
    (reads : ReadsName text name source) (rest : List Char) : skipBlanks text ≠ '\x7d' :: rest := by
  obtain ⟨opened, _, _⟩ := reads
  simp [opened]

/-- What a part that is read at the front of a text excludes there. -/
def Part.Alone (text rest : List Char) : Part → Prop
  | .value json => ∀ other later, Reads (.value other) text later → json = other ∧ rest = later
  | .items listed => ∀ others later, Reads (.items others) text later →
      listed = others ∧ rest = later
  | .members listed => ∀ others later, Reads (.members others) text later →
      listed = others ∧ rest = later

theorem Reads.alone {part : Part} {text rest : List Char} (reads : Reads part text rest) :
    part.Alone text rest := by
  -- The first character of a value tells its kind, and the mark behind an item or a member tells
  -- whether it is the last one, so the second reading always goes the way of the first.
  induction reads with
  | leaf first =>
      intro other later second
      have kinds := (Reads.leaf first).kind_eq second
      cases second with
      | leaf reads => exact first.unique reads
      | _ => cases first <;> cases kinds
  | array shape listed ih =>
      intro other later second
      have kinds := (Reads.array shape listed).kind_eq second
      cases second with
      | leaf reads => cases reads <;> cases kinds
      | array same otherListed =>
          obtain rfl := (List.cons.inj (shape.symm.trans same)).2
          obtain ⟨rfl, rfl⟩ := ih _ _ otherListed
          exact ⟨rfl, rfl⟩
      | object => cases kinds
  | object shape listed ih =>
      intro other later second
      have kinds := (Reads.object shape listed).kind_eq second
      cases second with
      | leaf reads => cases reads <;> cases kinds
      | array => cases kinds
      | object same otherListed =>
          obtain rfl := (List.cons.inj (shape.symm.trans same)).2
          obtain ⟨rfl, rfl⟩ := ih _ _ otherListed
          exact ⟨rfl, rfl⟩
  | noItem ended =>
      intro others later second
      cases second with
      | noItem same => exact ⟨rfl, (List.cons.inj (ended.symm.trans same)).2⟩
      | lastItem other => exact absurd ended (other.ne_cons rfl)
      | nextItem other => exact absurd ended (other.ne_cons rfl)
  | lastItem first ended ih =>
      intro others later second
      cases second with
      | noItem same => exact absurd same (first.ne_cons rfl)
      | lastItem other otherEnded =>
          obtain ⟨rfl, rfl⟩ := ih _ _ other
          exact ⟨rfl, (List.cons.inj (ended.symm.trans otherEnded)).2⟩
      | nextItem other goesOn =>
          obtain ⟨rfl, rfl⟩ := ih _ _ other
          exact absurd (List.cons.inj (ended.symm.trans goesOn)).1 (by decide)
  | nextItem first goesOn _ ih more =>
      intro others later second
      cases second with
      | noItem same => exact absurd same (first.ne_cons rfl)
      | lastItem other ended =>
          obtain ⟨rfl, rfl⟩ := ih _ _ other
          exact absurd (List.cons.inj (goesOn.symm.trans ended)).1 (by decide)
      | nextItem other otherGoesOn listed =>
          obtain ⟨rfl, rfl⟩ := ih _ _ other
          obtain rfl := (List.cons.inj (goesOn.symm.trans otherGoesOn)).2
          obtain ⟨same, rfl⟩ := more _ _ listed
          exact ⟨by rw [same], rfl⟩
  | noMember ended =>
      intro others later second
      cases second with
      | noMember same => exact ⟨rfl, (List.cons.inj (ended.symm.trans same)).2⟩
      | lastMember name => exact absurd ended (name.skipBlanks_ne _)
      | nextMember name => exact absurd ended (name.skipBlanks_ne _)
  | lastMember name _ ended ih =>
      intro others later second
      cases second with
      | noMember same => exact absurd same (name.skipBlanks_ne _)
      | lastMember otherName other otherEnded =>
          obtain ⟨rfl, rfl⟩ := name.unique otherName
          obtain ⟨rfl, rfl⟩ := ih _ _ other
          exact ⟨rfl, (List.cons.inj (ended.symm.trans otherEnded)).2⟩
      | nextMember otherName other goesOn =>
          obtain ⟨rfl, rfl⟩ := name.unique otherName
          obtain ⟨rfl, rfl⟩ := ih _ _ other
          exact absurd (List.cons.inj (ended.symm.trans goesOn)).1 (by decide)
  | nextMember name _ goesOn _ ih more =>
      intro others later second
      cases second with
      | noMember same => exact absurd same (name.skipBlanks_ne _)
      | lastMember otherName other ended =>
          obtain ⟨rfl, rfl⟩ := name.unique otherName
          obtain ⟨rfl, rfl⟩ := ih _ _ other
          exact absurd (List.cons.inj (goesOn.symm.trans ended)).1 (by decide)
      | nextMember otherName other otherGoesOn listed =>
          obtain ⟨rfl, rfl⟩ := name.unique otherName
          obtain ⟨rfl, rfl⟩ := ih _ _ other
          obtain rfl := (List.cons.inj (goesOn.symm.trans otherGoesOn)).2
          obtain ⟨same, rfl⟩ := more _ _ listed
          exact ⟨by rw [same], rfl⟩

theorem Denotes.unique {text : List Char} {left right : Json} (first : Denotes text left)
    (second : Denotes text right) : left = right := by
  obtain ⟨rest, reads, _⟩ := first
  obtain ⟨later, otherReads, _⟩ := second
  exact (reads.alone right later otherReads).1

end UptimeGreeter.Json
