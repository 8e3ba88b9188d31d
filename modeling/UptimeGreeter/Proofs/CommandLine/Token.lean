import UptimeGreeter.CommandLine.Token
import UptimeGreeter.Proofs.CommandLine.Line
import UptimeGreeter.Proofs.Text.Utf8

/-!
Which arguments are read as which token.
-/

namespace UptimeGreeter.CommandLine

namespace LongName

def body (name : LongName) : Option Bytes → Bytes
  | none => Utf8.encode name.text
  | some value => Utf8.encode name.text ++ Token.equalsSign :: value

def token : LongName → Option Bytes → Token
  | .setting chosen, value => .setting chosen value
  | .flag chosen, value => .flag chosen value

theorem ofText?_eq_some_iff (text : String) (name : LongName) :
    ofText? text = some name ↔ text = name.text := by
  constructor
  · intro found
    have same := List.find?_some found
    exact (of_decide_eq_true same).symm
  · rintro rfl
    cases name with
    | setting chosen => cases chosen <;> rfl
    | flag chosen => cases chosen <;> rfl

theorem text_injective : Function.Injective text := by
  intro left right same
  have found := (ofText?_eq_some_iff left.text left).mpr rfl
  rw [same, (ofText?_eq_some_iff right.text right).mpr rfl] at found
  exact (Option.some.inj found).symm

theorem equalsSign_not_mem (name : LongName) : Token.equalsSign ∉ Utf8.encode name.text := by
  cases name with
  | setting chosen => cases chosen <;> decide
  | flag chosen => cases chosen <;> decide

theorem body_ne_nil (name : LongName) (value : Option Bytes) : name.body value ≠ [] := by
  have text : Utf8.encode name.text ≠ [] := by
    cases name with
    | setting chosen => cases chosen <;> decide
    | flag chosen => cases chosen <;> decide
  cases value <;> simp [body, text]

end LongName

namespace Token

def ofName (name : Bytes) (value : Option Bytes) : Token :=
  match Utf8.decode? name >>= LongName.ofText? with
  | some known => known.token value
  | none => .unknownLong (Utf8.decodeLossy name)

theorem ofLong_of_none {body : Bytes} (uncut : Split.once? equalsSign body = none) :
    ofLong body = ofName body none := by
  simp only [ofLong, uncut, ofName]
  rcases Utf8.decode? body >>= LongName.ofText? with _ | ⟨chosen⟩ | ⟨chosen⟩ <;> rfl

theorem ofLong_of_some {body name value : Bytes}
    (cut : Split.once? equalsSign body = some (name, value)) :
    ofLong body = ofName name (some value) := by
  simp only [ofLong, cut, ofName]
  rcases Utf8.decode? name >>= LongName.ofText? with _ | ⟨chosen⟩ | ⟨chosen⟩ <;> rfl

theorem ofName_eq_token_iff (bytes : Bytes) (name : LongName) (found value : Option Bytes) :
    ofName bytes found = name.token value ↔ bytes = Utf8.encode name.text ∧ found = value := by
  have tokens (known : LongName) : known.token found = name.token value ↔
      known = name ∧ found = value := by
    cases known <;> cases name <;> simp [LongName.token]
  rw [ofName]
  cases read : Utf8.decode? bytes >>= LongName.ofText? with
  | some known =>
      obtain ⟨text, decoded, named⟩ := Option.bind_eq_some_iff.mp read
      rw [LongName.ofText?_eq_some_iff] at named
      rw [Utf8.decode?_eq_some_iff] at decoded
      rw [tokens, decoded, named, Utf8.encode_injective.eq_iff, LongName.text_injective.eq_iff]
  | none =>
      have unknown : name.token value ≠ .unknownLong (Utf8.decodeLossy bytes) := by
        cases name <;> simp [LongName.token]
      refine ⟨fun same => absurd same.symm unknown, ?_⟩
      rintro ⟨rfl, _⟩
      have known := (LongName.ofText?_eq_some_iff name.text name).mpr rfl
      simp [known] at read

theorem ofLong_eq_token_iff (body : Bytes) (name : LongName) (value : Option Bytes) :
    ofLong body = name.token value ↔ body = name.body value := by
  constructor
  · intro read
    cases cut : Split.once? equalsSign body with
    | none =>
        rw [ofLong_of_none cut] at read
        obtain ⟨named, rfl⟩ := (ofName_eq_token_iff _ _ _ _).mp read
        exact named
    | some parts =>
        rw [ofLong_of_some cut] at read
        obtain ⟨named, rfl⟩ := (ofName_eq_token_iff _ _ _ _).mp read
        rw [Split.eq_append_of_once? cut, named, LongName.body]
  · rintro rfl
    cases value with
    | none =>
        rw [LongName.body, ofLong_of_none (Split.once?_eq_none _ _ name.equalsSign_not_mem)]
        exact (ofName_eq_token_iff _ _ _ _).mpr ⟨rfl, rfl⟩
    | some value =>
        rw [LongName.body, ofLong_of_some (Split.once?_append _ _ _ name.equalsSign_not_mem)]
        exact (ofName_eq_token_iff _ _ _ _).mpr ⟨rfl, rfl⟩

theorem ofLong_cases (body : Bytes) :
    (∃ name value, ofLong body = LongName.token name value) ∨
      ∃ text, ofLong body = .unknownLong text := by
  have named (name : Bytes) (value : Option Bytes) :
      (∃ known given, ofName name value = LongName.token known given) ∨
        ∃ text, ofName name value = .unknownLong text := by
    rw [ofName]
    split
    · exact .inl ⟨_, _, rfl⟩
    · exact .inr ⟨_, rfl⟩
  cases cut : Split.once? equalsSign body with
  | none =>
      rw [ofLong_of_none cut]
      exact named body none
  | some parts =>
      rw [ofLong_of_some cut]
      exact named parts.1 (some parts.2)

theorem ofShort_cases (body : Bytes) :
    (∃ flag, ofShort body = .flag flag none) ∨ ∃ text, ofShort body = .unknownShort text := by
  rw [ofShort]
  split
  · split
    · exact .inl ⟨_, rfl⟩
    · exact .inr ⟨_, rfl⟩
  · exact .inr ⟨_, rfl⟩

theorem ofLong_ne_plain (body : Bytes) : ofLong body ≠ .plain := by
  rcases ofLong_cases body with ⟨name, value, long⟩ | ⟨text, long⟩
  · rw [long]
    cases name <;> simp [LongName.token]
  · simp [long]

theorem ofLong_ne_escape (body : Bytes) : ofLong body ≠ .escape := by
  rcases ofLong_cases body with ⟨name, value, long⟩ | ⟨text, long⟩
  · rw [long]
    cases name <;> simp [LongName.token]
  · simp [long]

theorem ofBytes_cases (argument : Bytes) :
    (CanFollow argument ∧ ofBytes argument = .plain) ∨
      (argument = [dash, dash] ∧ ofBytes argument = .escape) ∨
      (∃ body, body ≠ [] ∧ argument = dash :: dash :: body ∧ ofBytes argument = ofLong body) ∨
      ∃ second body, second ≠ dash ∧ argument = dash :: second :: body ∧
        ofBytes argument = ofShort (second :: body) := by
  cases argument with
  | nil => exact .inl ⟨.inr (by simp), rfl⟩
  | cons first rest =>
      by_cases dashFirst : first = dash
      · subst dashFirst
        cases rest with
        | nil => exact .inl ⟨.inl rfl, rfl⟩
        | cons second body =>
            by_cases dashSecond : second = dash
            · subst dashSecond
              by_cases empty : body = []
              · exact .inr (.inl ⟨by rw [empty], by simp [ofBytes, empty]⟩)
              · exact .inr (.inr (.inl ⟨body, empty, rfl, by simp [ofBytes, empty]⟩))
            · exact .inr (.inr (.inr ⟨second, body, dashSecond, rfl, by simp [ofBytes, dashSecond]⟩))
      · have noDash : (first :: rest).head? ≠ some 0x2D := fun same =>
          dashFirst (Option.some.inj same)
        exact .inl ⟨.inr noDash, by simp [ofBytes, dashFirst]⟩

theorem not_canFollow_dash (second : UInt8) (body : Bytes) :
    ¬CanFollow (dash :: second :: body) := by
  have lone : Utf8.encode "-" = [dash] := rfl
  simp [CanFollow, lone, dash]

theorem ofBytes_eq_plain_iff (argument : Bytes) :
    ofBytes argument = .plain ↔ CanFollow argument := by
  rcases ofBytes_cases argument with ⟨follows, read⟩ | ⟨rfl, read⟩ | ⟨body, _, rfl, read⟩ |
    ⟨second, body, _, rfl, read⟩
  · simp [read, follows]
  · simp [read, not_canFollow_dash]
  · simp [read, not_canFollow_dash, ofLong_ne_plain]
  · rcases ofShort_cases (second :: body) with ⟨flag, short⟩ | ⟨text, short⟩ <;>
      simp [read, short, not_canFollow_dash]

theorem ofBytes_eq_escape_iff (argument : Bytes) :
    ofBytes argument = .escape ↔ argument = Utf8.encode "--" := by
  have two : Utf8.encode "--" = [dash, dash] := rfl
  rw [two]
  rcases ofBytes_cases argument with ⟨follows, read⟩ | ⟨rfl, read⟩ | ⟨body, full, rfl, read⟩ |
    ⟨second, body, single, rfl, read⟩
  · simp only [read, reduceCtorEq, false_iff]
    rintro rfl
    exact not_canFollow_dash _ _ follows
  · simp [read]
  · simp [read, full, ofLong_ne_escape]
  · rcases ofShort_cases (second :: body) with ⟨flag, short⟩ | ⟨text, short⟩ <;>
      simp [read, short, single]

theorem ofBytes_eq_setting_iff (argument : Bytes) (chosen : Setting) (value : Option Bytes) :
    ofBytes argument = .setting chosen value ↔
      argument = dash :: dash :: (LongName.setting chosen).body value := by
  have long (body : Bytes) : ofLong body = .setting chosen value ↔
      body = (LongName.setting chosen).body value :=
    ofLong_eq_token_iff body (.setting chosen) value
  rcases ofBytes_cases argument with ⟨follows, read⟩ | ⟨rfl, read⟩ | ⟨body, _, rfl, read⟩ |
    ⟨second, body, single, rfl, read⟩
  · simp only [read, reduceCtorEq, false_iff]
    rintro rfl
    exact not_canFollow_dash _ _ follows
  · simp [read, (LongName.body_ne_nil _ value).symm]
  · simp [read, long]
  · rcases ofShort_cases (second :: body) with ⟨flag, short⟩ | ⟨text, short⟩ <;>
      simp [read, short, single]

theorem encode_option (chosen : Setting) :
    Utf8.encode chosen.option = dash :: dash :: Utf8.encode chosen.name := by
  cases chosen <;> rfl

theorem encode_option_equals (chosen : Setting) :
    Utf8.encode (chosen.option ++ "=") = dash :: dash :: Utf8.encode chosen.name ++ [equalsSign] := by
  cases chosen <;> rfl

theorem ofBytes_eq_apart_iff (argument : Bytes) (chosen : Setting) :
    ofBytes argument = .setting chosen none ↔ argument = Utf8.encode chosen.option := by
  rw [ofBytes_eq_setting_iff, encode_option]
  rfl

theorem ofBytes_eq_joined_iff (argument : Bytes) (chosen : Setting) (value : Bytes) :
    ofBytes argument = .setting chosen (some value) ↔
      argument = Utf8.encode (chosen.option ++ "=") ++ value := by
  rw [ofBytes_eq_setting_iff, encode_option_equals]
  simp [LongName.body, LongName.text]

end Token

end UptimeGreeter.CommandLine
