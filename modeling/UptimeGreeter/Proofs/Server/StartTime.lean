import UptimeGreeter.Proofs.Calendar.Rfc3339
import UptimeGreeter.Proofs.Calendar.TimeText
import UptimeGreeter.Proofs.Server.Classification
import UptimeGreeter.Proofs.Server.HealthText

/-!
The start time that a service shows: one text in its descriptions and in its health reports, which
reads back as the start time that the service holds.
-/

namespace UptimeGreeter

open Calendar

namespace Service

def startText? (description : String) : Option (List Char) :=
  Split.between? "started_at: ".toList [','] description.toList

structure ShowsStart (service : Service) (text : List Char) : Prop where
  line : startText? service.describe = some text
  lines : startText? service.describeLines = some text
  health : ∀ clock profile (request : Http.Request), request.method = "GET" →
    request.uri.path = "/health" →
      Health.startText? (service.respond clock profile request).body = some text

variable (service : Service)

theorem startText?_eq {description front rest : String}
    (clear : Split.Clear "started_at: ".toList front.toList)
    (shape : description = front ++ "started_at: " ++ service.startedAt.text ++ "," ++ rest) :
    startText? description = some service.startedAt.text.toList := by
  have comma : ",".toList = [','] := rfl
  have quiet := service.startedAt.not_mem_text (by decide : ','.isDigit = false) (by decide)
  rw [startText?, shape]
  simp only [String.toList_append, List.append_assoc, comma]
  rw [Split.between?_clear_append clear, Split.between?_append _ (Split.clear_of_not_mem quiet)]

theorem startText?_describe :
    startText? service.describe = some service.startedAt.text.toList := by
  have opening : "GreetingService \x7b started_at: " = "GreetingService \x7b " ++ "started_at: " :=
    rfl
  have closing : ", absent_profile: " = "," ++ " absent_profile: " := rfl
  have clear : Split.Clear "started_at: ".toList "GreetingService \x7b ".toList := by decide
  have shape : service.describe = "GreetingService \x7b " ++ "started_at: " ++
      service.startedAt.text ++ "," ++ (" absent_profile: " ++ quote service.absentProfile ++
        ", .. \x7d") := by
    unfold describe
    rewrite [opening, closing]
    simp only [String.append_assoc]
  exact service.startText?_eq clear shape

theorem startText?_describeLines :
    startText? service.describeLines = some service.startedAt.text.toList := by
  have opening : "GreetingService \x7b\n    started_at: " =
      "GreetingService \x7b\n    " ++ "started_at: " := rfl
  have closing : ",\n    absent_profile: " = "," ++ "\n    absent_profile: " := rfl
  have clear : Split.Clear "started_at: ".toList "GreetingService \x7b\n    ".toList := by decide
  have shape : service.describeLines = "GreetingService \x7b\n    " ++ "started_at: " ++
      service.startedAt.text ++ "," ++ ("\n    absent_profile: " ++ quote service.absentProfile ++
        ",\n    ..\n\x7d") := by
    unfold describeLines
    rewrite [opening, closing]
    simp only [String.append_assoc]
  exact service.startText?_eq clear shape

theorem showsStart_startedAt : service.ShowsStart service.startedAt.text.toList where
  line := service.startText?_describe
  lines := service.startText?_describeLines
  health := by
    intro clock profile request get path
    have quiet := service.startedAt.not_mem_text (by decide : '"'.isDigit = false) (by decide)
    have answered : service.respond clock profile request = service.page clock profile .health :=
      service.respond_of_get clock profile get path
    rw [answered]
    exact (service.healthAt clock).startText?_text quiet

theorem showsStart_iff (text : List Char) :
    service.ShowsStart text ↔ text = service.startedAt.text.toList := by
  constructor
  · intro shows
    have line := shows.line
    rw [startText?_describe] at line
    exact (Option.some.inj line).symm
  · rintro rfl
    exact service.showsStart_startedAt

end Service

/-- The start time is shown as one text, a civil time that tells the start time held. It reads back
as that start time, so no service with another one shows it. -/
theorem start_time_reads_back (service : Service) :
    ∃ text, service.ShowsStart text ∧
      (∃ time : CivilTime, time.Written text ∧
        time.Tells service.startedAt.seconds service.startedAt.nanoseconds ∧
        (Rfc3339.DateTime text ↔ 0 ≤ time.date.year ∧ time.date.year ≤ 9999)) ∧
      Timestamp.read? text = some service.startedAt ∧
      ∀ other : Service, other.ShowsStart text ↔ other.startedAt = service.startedAt := by
  obtain ⟨time, written, tells⟩ := service.startedAt.exists_civil
  refine ⟨service.startedAt.text.toList, service.showsStart_startedAt,
    ⟨time, written, tells, written.dateTime_iff tells⟩, service.startedAt.read?_text, ?_⟩
  intro other
  rw [Service.showsStart_iff]
  constructor
  · intro same
    have read := service.startedAt.read?_text
    rw [same, Timestamp.read?_text] at read
    exact Option.some.inj read
  · intro same
    rw [same]

end UptimeGreeter
