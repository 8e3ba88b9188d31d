import UptimeGreeter.Text.Numeral

/-!
Elapsed time, and the text that shows it as minutes and seconds.
-/

namespace UptimeGreeter

structure Duration where
  nanoseconds : Nat
  deriving DecidableEq, Repr

namespace Duration

def ofParts (seconds nanoseconds : Nat) : Duration :=
  ⟨seconds * 1000000000 + nanoseconds⟩

def milliseconds (duration : Duration) : Nat :=
  duration.nanoseconds / 1000000

def seconds (duration : Duration) : Nat :=
  duration.nanoseconds / 1000000000

theorem seconds_ofParts (seconds nanoseconds : Nat) (proper : nanoseconds < 1000000000) :
    (ofParts seconds nanoseconds).seconds = seconds := by
  simp only [ofParts, Duration.seconds]
  omega

def clockText (duration : Duration) : String :=
  let minutes := duration.milliseconds / 60000
  let seconds := duration.milliseconds / 1000 - minutes * 60
  Decimal.padded 2 minutes ++ ":" ++ Decimal.padded 2 seconds

theorem clockText_eq (duration : Duration) :
    duration.clockText =
      Decimal.padded 2 (duration.seconds / 60) ++ ":" ++ Decimal.padded 2 (duration.seconds % 60) := by
  have minutes : duration.milliseconds / 60000 = duration.seconds / 60 := by
    simp only [milliseconds, seconds]
    omega
  have rest : duration.milliseconds / 1000 - duration.seconds / 60 * 60 = duration.seconds % 60 := by
    simp only [milliseconds, seconds]
    omega
  simp only [clockText, minutes, rest]

end Duration

/-- A reading of a clock that never runs backwards. -/
structure Instant where
  nanoseconds : Int
  deriving DecidableEq, Repr

namespace Instant

def ofMilliseconds (milliseconds : Int) : Instant :=
  ⟨milliseconds * 1000000⟩

def since (now start : Instant) : Duration :=
  ⟨(now.nanoseconds - start.nanoseconds).toNat⟩

end Instant

end UptimeGreeter
