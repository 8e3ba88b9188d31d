import UptimeGreeter.Proofs.Decimal.Numeral
import UptimeGreeter.Proofs.Text.Around
import UptimeGreeter.Proofs.Uptime.ClockText
import UptimeGreeter.Server.World

/-!
A greeting reads back as the whole seconds and the profile that it shows, even where the profile
holds the marks between which it stands.
-/

namespace UptimeGreeter

def Duration.readSeconds? (text : List Char) : Option Nat := do
  let (minutes, seconds) ← Split.once? ':' text
  return 60 * (← Decimal.natural? minutes) + (← Decimal.natural? seconds)

theorem Duration.readSeconds?_clockText (duration : Duration) :
    readSeconds? duration.clockText.toList = some duration.seconds := by
  have colon : ':' ∉ (Decimal.padded 2 (duration.seconds / 60)).toList :=
    Decimal.not_mem_padded _ _ rfl
  have whole : 60 * (duration.seconds / 60) + duration.seconds % 60 = duration.seconds :=
    Nat.div_add_mod duration.seconds 60
  rw [readSeconds?, toList_clockText, Split.once?_append _ _ _ colon]
  simp [Decimal.natural?_padded, whole]

theorem Duration.comma_not_mem_clockText (duration : Duration) :
    ',' ∉ duration.clockText.toList := by
  rw [toList_clockText, List.mem_append, List.mem_cons]
  rintro (minutes | same | seconds)
  · exact Decimal.not_mem_padded _ _ rfl minutes
  · cases same
  · exact Decimal.not_mem_padded _ _ rfl seconds

def Instant.wholeSeconds (now start : Instant) : Nat :=
  ((now.nanoseconds - start.nanoseconds) / 1000000000).toNat

theorem Instant.seconds_since (now start : Instant) :
    (now.since start).seconds = now.wholeSeconds start := by
  simp only [since, Duration.seconds, wholeSeconds]
  omega

namespace Greeting

/-- The whole seconds and the profile of a greeting. Of the text after the opening words, the first
comma with a blank ends the time, and the last bracket ends the profile. -/
def read? (text : String) : Option (Nat × String) := do
  let rest ← "Hello, Spring! (up ".toList.isPrefixOf? text.toList
  let (time, rest) ← Split.around? ", ".toList rest
  let seconds ← Duration.readSeconds? time
  if rest.getLast? = some ')' then return (seconds, String.ofList rest.dropLast) else none

theorem toList_text (greeting : Greeting) :
    greeting.text.toList =
      "Hello, Spring! (up ".toList ++ (greeting.uptime.clockText.toList ++
        (", ".toList ++ (greeting.profile.toList ++ [')']))) := by
  have shape : greeting.text =
      "Hello, Spring! (up " ++ greeting.uptime.clockText ++ ", " ++ greeting.profile ++ ")" := rfl
  have bracket : ")".toList = [')'] := rfl
  rw [shape]
  simp only [String.toList_append, List.append_assoc, bracket]

theorem read?_text (greeting : Greeting) :
    read? greeting.text = some (greeting.uptime.seconds, greeting.profile) := by
  have opening := List.isPrefixOf?_eq_some_iff_append_eq.mpr greeting.toList_text.symm
  have clear : Split.Clear ", ".toList greeting.uptime.clockText.toList :=
    Split.clear_of_not_mem greeting.uptime.comma_not_mem_clockText
  have closed : (greeting.profile.toList ++ [')']).getLast? = some ')' := by simp
  have profile : String.ofList (greeting.profile.toList ++ [')']).dropLast = greeting.profile := by
    rw [List.dropLast_concat, String.ofList_toList]
  simp only [read?, opening, Option.bind_eq_bind, Option.bind_some, Split.around?_append clear,
    Duration.readSeconds?_clockText, closed, profile, if_true]
  rfl

theorem text_eq_iff (greeting other : Greeting) :
    greeting.text = other.text ↔
      greeting.uptime.seconds = other.uptime.seconds ∧ greeting.profile = other.profile := by
  constructor
  · intro same
    have read := read?_text greeting
    rw [same, read?_text] at read
    exact ⟨(Prod.mk.inj (Option.some.inj read)).1.symm, (Prod.mk.inj (Option.some.inj read)).2.symm⟩
  · rintro ⟨seconds, profile⟩
    rw [text, text, Duration.clockText_eq, Duration.clockText_eq, seconds, profile]

end Greeting

namespace World

def shownProfile (world : World) (service : Service) : String :=
  (world.askProfile service.source).1.getD service.absentProfile

theorem greet_eq (world : World) (service : Service) (now : Instant) :
    (world.greet service now).1 =
      .text (Greeting.text ⟨now.since service.started, world.shownProfile service⟩) :=
  rfl

end World

/-- What a service says at an instant reads back as the whole seconds since its start and the
profile. So two greetings are the same exactly if both parts are. -/
theorem greeting_reads_back (world : World) (service : Service) (now : Instant) :
    (∃ text, (world.greet service now).1 = .text text ∧
      Greeting.read? text = some (now.wholeSeconds service.started, world.shownProfile service)) ∧
    ∀ (other : World) (otherService : Service) (otherNow : Instant),
      (world.greet service now).1 = (other.greet otherService otherNow).1 ↔
        now.wholeSeconds service.started = otherNow.wholeSeconds otherService.started ∧
          world.shownProfile service = other.shownProfile otherService := by
  constructor
  · refine ⟨_, world.greet_eq service now, ?_⟩
    rw [Greeting.read?_text, Instant.seconds_since]
  · intro other otherService otherNow
    rw [World.greet_eq, World.greet_eq, Answer.text.injEq, Greeting.text_eq_iff,
      Instant.seconds_since, Instant.seconds_since]

end UptimeGreeter
