import UptimeGreeter.Proofs.Decimal.Numeral
import UptimeGreeter.Proofs.Text.Around
import UptimeGreeter.Server.Service

/-!
What is read at the members of a health report, each between its name and the mark that ends it.
-/

namespace UptimeGreeter.Health

def readUptime? (text : String) : Option Nat :=
  (Split.between? "\"uptime_seconds\":".toList [','] text.toList).bind Decimal.natural?

def startText? (text : String) : Option (List Char) :=
  Split.between? "\"started_at\":\"".toList ['"'] text.toList

def front : String := "\x7b\"status\":\"ok\","

def back (health : Health) : String :=
  ",\"timestamp\":\"" ++ health.timestamp.text ++ "\",\"version\":\"" ++ version ++ "\"\x7d"

theorem text_eq (health : Health) :
    health.text = front ++ "\"uptime_seconds\":" ++ toString health.uptimeSeconds ++ "," ++
      "\"started_at\":\"" ++ health.startedAt.text ++ "\"" ++ health.back := by
  have opening : "\x7b\"status\":\"ok\",\"uptime_seconds\":" = front ++ "\"uptime_seconds\":" := rfl
  have between : ",\"started_at\":\"" = "," ++ "\"started_at\":\"" := rfl
  have closing : "\",\"timestamp\":\"" = "\"" ++ ",\"timestamp\":\"" := rfl
  unfold text back
  rewrite [opening, between, closing]
  simp only [String.append_assoc]

theorem toList_text (health : Health) :
    health.text.toList =
      front.toList ++ ("\"uptime_seconds\":".toList ++ (Nat.toDigits 10 health.uptimeSeconds ++
        ([','] ++ ("\"started_at\":\"".toList ++ (health.startedAt.text.toList ++
          (['"'] ++ health.back.toList)))))) := by
  have comma : ",".toList = [','] := rfl
  have quotation : "\"".toList = ['"'] := rfl
  simp only [text_eq, String.toList_append, List.append_assoc, comma, quotation,
    Decimal.toList_toString]

theorem readUptime?_text (health : Health) : readUptime? health.text = some health.uptimeSeconds := by
  have numeral := Decimal.numeral_toDigits health.uptimeSeconds
  have clear : Split.Clear "\"uptime_seconds\":".toList front.toList := by decide
  have digits : Split.Clear [','] (Nat.toDigits 10 health.uptimeSeconds) :=
    Split.clear_of_not_mem (numeral.not_mem rfl)
  rw [readUptime?, toList_text, Split.between?_clear_append clear, Split.between?_append _ digits,
    Option.bind_some, Decimal.natural?_toDigits]

theorem startText?_text (health : Health) (quiet : '"' ∉ health.startedAt.text.toList) :
    startText? health.text = some health.startedAt.text.toList := by
  have numeral := Decimal.numeral_toDigits health.uptimeSeconds
  have opening : "\"started_at\":\"".toList = '"' :: "started_at\":\"".toList := rfl
  have clear : Split.Clear "\"started_at\":\"".toList front.toList := by decide
  have name : Split.Clear "\"started_at\":\"".toList "\"uptime_seconds\":".toList := by decide
  have digits : Split.Clear "\"started_at\":\"".toList (Nat.toDigits 10 health.uptimeSeconds) := by
    rw [opening]
    exact Split.clear_of_not_mem (numeral.not_mem rfl)
  have comma : Split.Clear "\"started_at\":\"".toList [','] := by decide
  rw [startText?, toList_text, Split.between?_clear_append clear,
    Split.between?_clear_append name, Split.between?_clear_append digits,
    Split.between?_clear_append comma, Split.between?_append _ (Split.clear_of_not_mem quiet)]

end UptimeGreeter.Health
