import UptimeGreeter.LogFilter.Selection
import UptimeGreeter.Proofs.LogFilter.FilterText
import UptimeGreeter.Proofs.Text.Utf8

/-!
One text decides about the filter: the one given, or else that of the variable. If it cannot be used
as a whole the filter is the fallback, which is warned of for a text given and for no other. A text
that would be cut inside a character has no filter at all.
-/

namespace UptimeGreeter.LogFilter

open LogFilter.Directive (IsShifted)
open LogFilter.Filter (Listed Lists Spoiled)

inductive Filter.Installs (text : String) : Filter → Prop
  | whole {directives : List Directive} : Lists text directives →
      Installs text (ofDirectives directives)
  | spoiled : Spoiled text .invalid → Installs text (.upTo .info)

def Unusable (bytes : Bytes) : Prop :=
  ∀ text, Utf8.encode text = bytes → Spoiled text .invalid

namespace Selection

inductive Selects : Option String → Option Bytes → Filter → Prop
  | given {text : String} {filter : Filter} (value : Option Bytes) :
      Filter.Installs text filter → Selects (some text) value filter
  | ofVariable {text : String} {bytes : Bytes} {filter : Filter} : Utf8.encode text = bytes →
      Filter.Installs text filter → Selects none (some bytes) filter
  | noText {bytes : Bytes} : (∀ text, Utf8.encode text ≠ bytes) →
      Selects none (some bytes) (.upTo .info)
  | unset : Selects none none (.upTo .info)

def chosen (given : Option String) (value : Option Bytes) : Option Bytes :=
  (given.map Utf8.encode).or value

def Warns (given : Option String) (environment : Environment) : Prop :=
  ∃ selection, choose? given environment = some selection ∧ selection.warning ≠ ""

def WarnsOfUnusable (given : Option String) (environment : Environment) : Prop :=
  Warns given environment ↔
    ∃ bytes, chosen given (environment .logFilter) = some bytes ∧ Unusable bytes

theorem ofText?_of_spoiled {text : String} (spoiled : Spoiled text .invalid) (warning : String) :
    ofText? text warning = some ⟨fallback, warning⟩ := by
  rw [ofText?, (Filter.ofText_eq_error_iff _ _).mpr spoiled]

theorem ofText?_eq_none_iff (text warning : String) :
    ofText? text warning = none ↔ Spoiled text .cutCharacter := by
  rw [← Filter.ofText_eq_error_iff, ofText?]
  cases Filter.ofText text with
  | ok filter => simp
  | error fault => cases fault <;> simp

theorem installs_iff (text warning : String) (filter : Filter) :
    Filter.Installs text filter ↔
      (ofText? text warning).map Selection.filter = some filter := by
  constructor
  · rintro (lists | spoiled)
    · rw [ofText?, (Filter.ofText_eq_ok_iff _ _).mpr ⟨_, lists, rfl⟩]
      rfl
    · rw [ofText?_of_spoiled spoiled]
      rfl
  · intro installed
    unfold ofText? at installed
    split at installed
    · rename_i read
      obtain ⟨directives, lists, rfl⟩ := (Filter.ofText_eq_ok_iff _ _).mp read
      obtain rfl := Option.some.inj installed
      exact .whole lists
    · rename_i read
      obtain rfl := Option.some.inj installed
      exact .spoiled ((Filter.ofText_eq_error_iff _ _).mp read)
    · cases installed

theorem choose?_of_variable {environment : Environment} {text : String}
    (value : environment .logFilter = some (Utf8.encode text)) :
    choose? none environment = ofText? text "" := by
  simp [choose?, value]

theorem choose?_of_noText {environment : Environment}
    (noText : ∀ text, environment .logFilter ≠ some (Utf8.encode text)) :
    choose? none environment = some ⟨fallback, ""⟩ := by
  cases value : environment .logFilter with
  | none => simp [choose?, value]
  | some bytes =>
      cases read : Utf8.decode? bytes with
      | none => simp [choose?, value, read]
      | some text =>
          rw [(Utf8.decode?_eq_some_iff _ _).mp read] at value
          exact absurd value (noText text)

theorem selects_variable_iff (environment : Environment) (filter : Filter) :
    Selects none (environment .logFilter) filter ↔
      (choose? none environment).map Selection.filter = some filter := by
  by_cases isText : ∃ text, environment .logFilter = some (Utf8.encode text)
  · obtain ⟨text, value⟩ := isText
    rw [choose?_of_variable value, ← installs_iff, value]
    constructor
    · intro selects
      cases selects with
      | ofVariable same installs =>
          obtain rfl := Utf8.encode_injective same
          exact installs
      | noText noText => exact absurd rfl (noText text)
    · exact .ofVariable rfl
  · rw [not_exists] at isText
    rw [choose?_of_noText isText, Option.map_some, Option.some.injEq]
    constructor
    · intro selects
      cases value : environment .logFilter with
      | none =>
          rw [value] at selects
          cases selects
          rfl
      | some bytes =>
          rw [value] at selects
          cases selects with
          | ofVariable same _ => exact absurd (same ▸ value) (isText _)
          | noText _ => rfl
    · rintro rfl
      cases value : environment .logFilter with
      | none => exact .unset
      | some bytes => exact .noText fun text same => isText text (same ▸ value)

theorem selects_iff (given : Option String) (environment : Environment) (filter : Filter) :
    Selects given (environment .logFilter) filter ↔
      (choose? given environment).map Selection.filter = some filter := by
  cases given with
  | none => exact selects_variable_iff environment filter
  | some text =>
      rw [choose?, ← installs_iff]
      constructor
      · rintro ⟨_, installs⟩
        exact installs
      · exact .given _

theorem choose?_eq_none_iff (given : Option String) (environment : Environment) :
    choose? given environment = none ↔
      ∃ text, chosen given (environment .logFilter) = some (Utf8.encode text) ∧
        Spoiled text .cutCharacter := by
  cases given with
  | none =>
      by_cases isText : ∃ text, environment .logFilter = some (Utf8.encode text)
      · obtain ⟨text, value⟩ := isText
        simp [choose?_of_variable value, ofText?_eq_none_iff, chosen, value,
          Utf8.encode_injective.eq_iff]
      · rw [not_exists] at isText
        simp [choose?_of_noText isText, chosen, isText]
  | some text =>
      simp [choose?, ofText?_eq_none_iff, chosen, Utf8.encode_injective.eq_iff]

theorem unusable_encode_iff (text : String) :
    Unusable (Utf8.encode text) ↔ Spoiled text .invalid := by
  constructor
  · intro unusable
    exact unusable text rfl
  · intro spoiled other same
    rwa [Utf8.encode_injective same]

theorem warningFor_ne (text : String) : warningFor text ≠ "" := by
  have shape : warningFor text =
      "Invalid log level '" ++ (text ++ "', falling back to 'info'\n") := by
    rw [← String.append_assoc]
    rfl
  have opening : "Invalid log level '" ≠ "" := by decide
  rw [shape, Ne, String.append_eq_empty_iff]
  exact fun same => opening same.1

theorem exists_warning_of_ofText?_iff (text warning : String) :
    (∃ selection, ofText? text warning = some selection ∧ selection.warning ≠ "") ↔
      warning ≠ "" ∧ Spoiled text .invalid := by
  rw [← Filter.ofText_eq_error_iff, ofText?]
  cases Filter.ofText text with
  | ok filter => simp
  | error fault => cases fault <;> simp

theorem warns_iff (given : Option String) (environment : Environment) :
    Warns given environment ↔ ∃ text, given = some text ∧ Spoiled text .invalid := by
  cases given with
  | none =>
      by_cases isText : ∃ text, environment .logFilter = some (Utf8.encode text)
      · obtain ⟨text, value⟩ := isText
        simp [Warns, choose?_of_variable value, exists_warning_of_ofText?_iff]
      · simp [Warns, choose?_of_noText (not_exists.mp isText)]
  | some text => simp [Warns, choose?, exists_warning_of_ofText?_iff, warningFor_ne]

theorem warnsOfUnusable_iff (given : Option String) (environment : Environment) :
    WarnsOfUnusable given environment ↔
      ¬(given = none ∧ ∃ bytes, environment .logFilter = some bytes ∧ Unusable bytes) := by
  rw [WarnsOfUnusable, warns_iff]
  cases given with
  | none => simp [chosen]
  | some text => simp [chosen, unusable_encode_iff]

/-- One filter is selected: that of the text given, whatever the variable holds, or else that of the
variable. Of either text it is the filter of all directives or the fallback, but for a text that
would be cut inside a character: there the selection itself breaks off. Such a text has a piece with
blanks in front and a character of more than one byte. -/
theorem filter_selected (given : Option String) (environment : Environment) :
    (∀ filter, Selects given (environment .logFilter) filter ↔
      (choose? given environment).map Selection.filter = some filter) ∧
    (choose? given environment = none ↔
      ∃ text, chosen given (environment .logFilter) = some (Utf8.encode text) ∧
        Spoiled text .cutCharacter) ∧
    (∀ text, Spoiled text .cutCharacter →
      ∃ pieces, Listed text pieces ∧ ∃ piece ∈ pieces, IsShifted piece) ∧
    (∀ text other, choose? (some text) environment = choose? (some text) other) ∧
    Filter.ofText "info" = .ok (.upTo .info) ∧ (Filter.upTo .info).text = "info" :=
  ⟨selects_iff given environment, choose?_eq_none_iff given environment,
    fun _ => Filter.exists_isShifted_of_spoiled, fun _ _ => rfl, rfl, rfl⟩

theorem shifted_level_breaks_off :
    choose? (some " é=info") .empty = none ∧ ∀ filter, ¬Selects (some " é=info") none filter := by
  have cut : Filter.ofText " é=info" = .error .cutCharacter := by decide
  have broken : choose? (some " é=info") .empty = none := by
    rw [choose?, ofText?, cut]
  refine ⟨broken, ?_⟩
  intro filter selects
  have selected := (selects_iff (some " é=info") .empty filter).mp selects
  rw [broken] at selected
  cases selected

/-- A warning names a spoiled text that was given. It is missing just where the value of the
variable goes first and cannot be used. -/
theorem only_given_texts_warn (given : Option String) (environment : Environment) :
    (Warns given environment ↔ ∃ text, given = some text ∧ Spoiled text .invalid) ∧
    (∀ text, Spoiled text .invalid →
      choose? (some text) environment = some ⟨fallback, warningFor text⟩) ∧
    (WarnsOfUnusable given environment ↔
      ¬(given = none ∧ ∃ bytes, environment .logFilter = some bytes ∧ Unusable bytes)) :=
  ⟨warns_iff given environment, fun text spoiled => ofText?_of_spoiled spoiled (warningFor text),
    warnsOfUnusable_iff given environment⟩

theorem spoiled_variable_unmentioned :
    let environment := Environment.empty.set .logFilter (some (Utf8.encode "bad level=x"))
    choose? none environment = some ⟨fallback, ""⟩ ∧ ¬WarnsOfUnusable none environment := by
  intro environment
  have value : environment .logFilter = some (Utf8.encode "bad level=x") :=
    Environment.set_same _ _ _
  have bad : Filter.ofText "bad level=x" = .error .invalid := by decide
  have spoiled := (Filter.ofText_eq_error_iff _ _).mp bad
  refine ⟨?_, ?_⟩
  · rw [choose?_of_variable value, ofText?_of_spoiled spoiled]
  · rw [warnsOfUnusable_iff, not_not]
    exact ⟨rfl, _, value, (unusable_encode_iff _).mpr spoiled⟩

end Selection

end UptimeGreeter.LogFilter
