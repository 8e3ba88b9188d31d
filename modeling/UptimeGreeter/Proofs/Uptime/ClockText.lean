import UptimeGreeter.Proofs.Decimal.NumeralOrder
import UptimeGreeter.Uptime

/-!
The clock text of a duration stands for its whole seconds and for nothing else. Each number of
seconds has one text, and of two texts the shorter one, or else the one that comes first in the
order of their characters, stands for fewer seconds.
-/

namespace UptimeGreeter.Duration

open Decimal (Numeral padded)

structure ShowsMinutes (text : List Char) (minutes : Nat) : Prop where
  numeral : Numeral text.length text minutes
  wide : 2 ≤ text.length
  unpadded : 3 ≤ text.length → text.head? ≠ some '0'

inductive ShowsSeconds : List Char → Nat → Prop
  | clock {front back : List Char} {minutes seconds : Nat} (whole : ShowsMinutes front minutes)
      (rest : Numeral 2 back seconds) (below : seconds ≤ 59) :
      ShowsSeconds (front ++ ':' :: back) (60 * minutes + seconds)

structure Parts where
  seconds : UInt64
  nanoseconds : Fin 1000000000

def Parts.duration (parts : Parts) : Duration :=
  .ofParts parts.seconds.toNat parts.nanoseconds

def word? (value : Int) : Option Int :=
  if 0 ≤ value ∧ value < 2 ^ 128 then some value else none

/-- The clock text by way of words, or nothing if any value on the way is beyond them. -/
def Parts.clockText? (parts : Parts) : Option String := do
  let whole ← word? (parts.seconds.toNat * 1000)
  let milliseconds ← word? (whole + parts.nanoseconds.val / 1000000)
  let minutes ← word? (milliseconds / 60000)
  let seconds ← word? (milliseconds / 1000)
  let counted ← word? (minutes * 60)
  let rest ← word? (seconds - counted)
  return padded 2 minutes.toNat ++ ":" ++ padded 2 rest.toNat

theorem toList_clockText (duration : Duration) :
    duration.clockText.toList =
      (padded 2 (duration.seconds / 60)).toList ++
        ':' :: (padded 2 (duration.seconds % 60)).toList := by
  rw [clockText_eq, String.toList_append, String.toList_append, List.append_assoc]
  rfl

theorem showsMinutes_padded (minutes : Nat) : ShowsMinutes (padded 2 minutes).toList minutes := by
  have numeral := Decimal.numeral_padded 2 minutes
  have fewest := Decimal.fewest_padded (by decide : 0 < 2) minutes
  have length := numeral.length
  have wide : 2 ≤ (padded 2 minutes).toList.length := by
    rw [length]
    exact Nat.le_max_left _ _
  rw [← length] at numeral fewest
  exact ⟨numeral, wide, (numeral.fewest_iff wide).mp fewest⟩

theorem showsSeconds_clockText (duration : Duration) :
    ShowsSeconds duration.clockText.toList duration.seconds := by
  have rest := Decimal.numeral_padded_of_lt (by decide : 0 < 2)
    (by omega : duration.seconds % 60 < 10 ^ 2)
  have shown := ShowsSeconds.clock (showsMinutes_padded (duration.seconds / 60)) rest (by omega)
  rwa [Nat.div_add_mod, ← toList_clockText] at shown

theorem lex_append {front other : List Char} (less : List.Lex (· < ·) front other)
    (same : front.length = other.length) (back otherBack : List Char) :
    List.Lex (· < ·) (front ++ back) (other ++ otherBack) := by
  induction less with
  | nil => simp at same
  | rel first => exact .rel first
  | cons _ ih => exact .cons (ih (Nat.succ.inj same))

namespace ShowsMinutes

variable {text other : List Char} {minutes otherMinutes : Nat}

theorem length_le (shows : ShowsMinutes text minutes) (others : ShowsMinutes other otherMinutes)
    (order : minutes ≤ otherMinutes) : text.length ≤ other.length := by
  have fewest := (shows.numeral.fewest_iff shows.wide).mpr shows.unpadded
  exact fewest.width_le others.wide order others.numeral.lt_pow

theorem unique (shows : ShowsMinutes text minutes) (others : ShowsMinutes other minutes) :
    text = other := by
  have numeral := shows.numeral
  rw [Nat.le_antisymm (shows.length_le others (Nat.le_refl _))
    (others.length_le shows (Nat.le_refl _))] at numeral
  exact numeral.unique others.numeral

end ShowsMinutes

namespace ShowsSeconds

variable {text other : List Char} {total otherTotal : Nat}

theorem shortlex (shows : ShowsSeconds text total) (others : ShowsSeconds other otherTotal)
    (less : total < otherTotal) : List.Shortlex (· < ·) text other := by
  obtain @⟨front, back, minutes, seconds, whole, rest, below⟩ := shows
  obtain @⟨front', back', minutes', seconds', whole', rest', below'⟩ := others
  have order : minutes ≤ minutes' := by omega
  have tails : (':' :: back).length = (':' :: back').length := by
    rw [List.length_cons, List.length_cons, rest.length, rest'.length]
  rcases Nat.lt_or_eq_of_le (whole.length_le whole' order) with shorter | same
  · apply List.Shortlex.of_length_lt
    rw [List.length_append, List.length_append, tails]
    omega
  · apply List.Shortlex.of_lex
    · rw [List.length_append, List.length_append, tails, same]
    · rcases Nat.lt_or_eq_of_le order with earlier | rfl
      · have numeral := whole.numeral
        rw [same] at numeral
        exact lex_append (numeral.lex_of_lt whole'.numeral earlier) same _ _
      -- In the same minute the fronts are the same, and the seconds are left to decide.
      · obtain rfl := whole.unique whole'
        apply List.Lex.append_left
        exact .cons (rest.lex_of_lt rest' (by omega))

theorem total_unique (shows : ShowsSeconds text total) (others : ShowsSeconds text otherTotal) :
    total = otherTotal := by
  have irrefl := irrefl_of (List.Shortlex (α := Char) (· < ·)) text
  rcases Nat.lt_trichotomy total otherTotal with less | same | greater
  · exact absurd (shows.shortlex others less) irrefl
  · exact same
  · exact absurd (others.shortlex shows greater) irrefl

theorem text_unique (shows : ShowsSeconds text total) (others : ShowsSeconds other otherTotal)
    (same : total = otherTotal) : text = other := by
  obtain @⟨front, back, minutes, seconds, whole, rest, below⟩ := shows
  obtain @⟨front', back', minutes', seconds', whole', rest', below'⟩ := others
  obtain rfl : minutes = minutes' := by omega
  obtain rfl : seconds = seconds' := by omega
  rw [whole.unique whole', rest.unique rest']

end ShowsSeconds

theorem word?_of_fits {value : Int} (nonnegative : 0 ≤ value) (below : value < 2 ^ 128) :
    word? value = some value :=
  if_pos ⟨nonnegative, below⟩

namespace Parts

variable (parts other : Parts)

theorem seconds_duration : parts.duration.seconds = parts.seconds.toNat :=
  seconds_ofParts _ _ parts.nanoseconds.isLt

theorem clockText?_eq : parts.clockText? = some parts.duration.clockText := by
  have seconds := parts.seconds.toNat_lt
  have nanoseconds := parts.nanoseconds.isLt
  let milliseconds : Int := parts.seconds.toNat * 1000 + parts.nanoseconds.val / 1000000
  have minutes : (milliseconds / 60000).toNat = parts.seconds.toNat / 60 := by omega
  have rest : (milliseconds / 1000 - milliseconds / 60000 * 60).toNat =
      parts.seconds.toNat % 60 := by omega
  simp only [clockText?, Option.bind_eq_bind]
  rw [word?_of_fits (by omega) (by omega), Option.bind_some,
    word?_of_fits (by omega) (by omega), Option.bind_some,
    word?_of_fits (by omega) (by omega), Option.bind_some,
    word?_of_fits (by omega) (by omega), Option.bind_some,
    word?_of_fits (by omega) (by omega), Option.bind_some,
    word?_of_fits (by omega) (by omega), Option.bind_some]
  rw [minutes, rest, clockText_eq, seconds_duration]
  rfl

theorem showsSeconds_iff (total : Nat) :
    ShowsSeconds parts.duration.clockText.toList total ↔ total = parts.seconds.toNat := by
  have shown := parts.duration.showsSeconds_clockText
  rw [seconds_duration] at shown
  constructor
  · intro shows
    exact shows.total_unique shown
  · rintro rfl
    exact shown

theorem clockText_of_showsSeconds {text : String} {total : Nat}
    (shows : ShowsSeconds text.toList total) (same : total = parts.seconds.toNat) :
    parts.duration.clockText = text :=
  String.toList_injective (((parts.showsSeconds_iff _).mpr rfl).text_unique shows same.symm)

theorem clockText_eq_iff :
    parts.duration.clockText = other.duration.clockText ↔ parts.seconds = other.seconds := by
  have shown := (other.showsSeconds_iff _).mpr rfl
  constructor
  · intro same
    rw [← same, showsSeconds_iff] at shown
    exact UInt64.toNat_inj.mp shown.symm
  · intro same
    rw [← same] at shown
    exact parts.clockText_of_showsSeconds shown rfl

theorem shortlex_clockText_iff :
    List.Shortlex (· < ·) parts.duration.clockText.toList other.duration.clockText.toList ↔
      parts.seconds < other.seconds := by
  have shown := (parts.showsSeconds_iff _).mpr rfl
  have otherShown := (other.showsSeconds_iff _).mpr rfl
  rw [UInt64.lt_iff_toNat_lt]
  constructor
  · intro before
    by_contra order
    rcases Nat.lt_or_eq_of_le (Nat.le_of_not_lt order) with less | same
    · exact asymm_of _ before (otherShown.shortlex shown less)
    · rw [otherShown.text_unique shown same] at before
      exact irrefl_of _ _ before
  · exact shown.shortlex otherShown

end Parts

/-- Computed in words without leaving them, the clock text of a duration shows its whole seconds and
no others. All texts that show seconds of a word are clock texts, one for each number of seconds, in
the order of length and then of characters. -/
theorem clock_text_encodes_seconds (parts : Parts) :
    parts.clockText? = some parts.duration.clockText ∧
    (∀ total, ShowsSeconds parts.duration.clockText.toList total ↔ total = parts.seconds.toNat) ∧
    (∀ text : String, (∃ other : Parts, other.duration.clockText = text) ↔
      ∃ total < UInt64.size, ShowsSeconds text.toList total) ∧
    ∀ other : Parts,
      (parts.duration.clockText = other.duration.clockText ↔ parts.seconds = other.seconds) ∧
      (List.Shortlex (· < ·) parts.duration.clockText.toList other.duration.clockText.toList ↔
        parts.seconds < other.seconds) := by
  refine ⟨parts.clockText?_eq, parts.showsSeconds_iff, ?_,
    fun other => ⟨parts.clockText_eq_iff other, parts.shortlex_clockText_iff other⟩⟩
  intro text
  constructor
  · rintro ⟨other, rfl⟩
    exact ⟨_, other.seconds.toNat_lt, (other.showsSeconds_iff _).mpr rfl⟩
  · rintro ⟨total, fits, shows⟩
    let other : Parts := ⟨.ofNatLT total fits, 0⟩
    exact ⟨other, other.clockText_of_showsSeconds shows rfl⟩

example : (ofParts 18446744073709551615 999999999).clockText = "307445734561825860:15" := by
  decide

end UptimeGreeter.Duration
