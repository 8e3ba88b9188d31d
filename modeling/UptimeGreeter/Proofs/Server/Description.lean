import UptimeGreeter.Proofs.Server.StartTime
import UptimeGreeter.Proofs.Text.Quoted

/-!
The two descriptions of a service tell its start time and its text for an absent profile, and nothing
else that it holds.
-/

namespace UptimeGreeter

open Calendar Quoted

inductive Layout where
  | line
  | lines
  deriving DecidableEq, Repr

namespace Layout

def operation : Layout → Nat → Operation
  | .line => .describe
  | .lines => .describeLines

def describe : Layout → Service → String
  | .line => Service.describe
  | .lines => Service.describeLines

def opening : Layout → String
  | .line => "GreetingService \x7b started_at: "
  | .lines => "GreetingService \x7b\n    started_at: "

def divider : Layout → String
  | .line => ", absent_profile: "
  | .lines => ",\n    absent_profile: "

def closing : Layout → String
  | .line => ", .. \x7d"
  | .lines => ",\n    ..\n\x7d"

def height : Layout → Nat
  | .line => 1
  | .lines => 5

def rows : Layout → Service → List String
  | .line, service => [service.describe]
  | .lines, service =>
      ["GreetingService \x7b", "    started_at: " ++ service.startedAt.text ++ ",",
        "    absent_profile: " ++ quote service.absentProfile ++ ",", "    ..", "\x7d"]

def read? (layout : Layout) (description : String) : Option (Timestamp × String) := do
  let rest ← layout.opening.toList.isPrefixOf? description.toList
  let (time, rest) ← Split.around? layout.divider.toList rest
  let (text, rest) ← Quoted.read? rest
  if rest = layout.closing.toList then return (← Timestamp.read? time, String.ofList text) else none

variable (layout : Layout) (service : Service)

theorem describe_eq :
    layout.describe service = layout.opening ++ service.startedAt.text ++ layout.divider ++
      quote service.absentProfile ++ layout.closing := by
  cases layout <;> rfl

theorem toList_describe :
    (layout.describe service).toList =
      layout.opening.toList ++ (service.startedAt.text.toList ++ (layout.divider.toList ++
        (encode service.absentProfile.toList ++ layout.closing.toList))) := by
  simp only [describe_eq, String.toList_append, toList_quote, List.append_assoc]

theorem clear_divider : Split.Clear layout.divider.toList service.startedAt.text.toList := by
  have comma : ∃ rest, layout.divider.toList = ',' :: rest := by
    cases layout <;> exact ⟨_, rfl⟩
  obtain ⟨rest, starts⟩ := comma
  rw [starts]
  exact Split.clear_of_not_mem (service.startedAt.not_mem_text rfl (by decide))

theorem read?_describe :
    layout.read? (layout.describe service) = some (service.startedAt, service.absentProfile) := by
  have opened := List.isPrefixOf?_eq_some_iff_append_eq.mpr (layout.toList_describe service).symm
  have divided := Split.around?_append (layout.clear_divider service)
    (encode service.absentProfile.toList ++ layout.closing.toList)
  have quoted := read?_encode service.absentProfile.toList layout.closing.toList
  simp only [read?, Option.bind_eq_bind, Option.bind_eq_some_iff]
  refine ⟨_, opened, _, divided, _, quoted, ?_⟩
  simp only [if_true, Option.bind_eq_some_iff]
  refine ⟨_, service.startedAt.read?_text, ?_⟩
  rw [String.ofList_toList]
  rfl

theorem describe_eq_iff (other : Service) :
    layout.describe other = layout.describe service ↔
      other.startedAt = service.startedAt ∧ other.absentProfile = service.absentProfile := by
  constructor
  · intro same
    have read := layout.read?_describe other
    rw [same, read?_describe] at read
    have parts := Prod.mk.inj (Option.some.inj read)
    exact ⟨parts.1.symm, parts.2.symm⟩
  · rintro ⟨start, absent⟩
    apply String.toList_inj.mp
    rw [toList_describe, toList_describe, start, absent]

theorem unbroken_startedAt : Unbroken service.startedAt.text := by
  intro char member
  have marks : Unbroken "-+T:.Z" := by decide
  rcases service.startedAt.isDigit_or_mark_of_mem_text member with digit | mark
  · apply not_breaksLine_of_isDigit
    simp [Hexadecimal.isDigit, digit]
  · exact marks char mark

theorem unbroken_row {row : String} (listed : row ∈ layout.rows service) : Unbroken row := by
  have time := unbroken_startedAt service
  have quoted := unbroken_quote service.absentProfile
  cases layout with
  | line =>
      have front : Unbroken (opening .line) := by decide
      have middle : Unbroken (divider .line) := by decide
      have back : Unbroken (closing .line) := by decide
      have whole : row = describe .line service := List.mem_singleton.mp listed
      simp only [whole, describe_eq, unbroken_append]
      exact ⟨⟨⟨⟨front, time⟩, middle⟩, quoted⟩, back⟩
  | lines =>
      have start : Unbroken "    started_at: " := by decide
      have absent : Unbroken "    absent_profile: " := by decide
      have comma : Unbroken "," := by decide
      simp only [rows, List.mem_cons, List.not_mem_nil, or_false] at listed
      rcases listed with rfl | rfl | rfl | rfl | rfl
      · decide
      · simp only [unbroken_append]
        exact ⟨⟨start, time⟩, comma⟩
      · simp only [unbroken_append]
        exact ⟨⟨absent, quoted⟩, comma⟩
      · decide
      · decide

theorem intercalate_rows :
    ['\n'].intercalate ((layout.rows service).map String.toList) =
      (layout.describe service).toList := by
  cases layout with
  | line => simp only [rows, describe, List.map_singleton, List.intercalate_singleton]
  | lines =>
      have opened : opening .lines = "GreetingService \x7b" ++ "\n" ++ "    started_at: " := rfl
      have divided : divider .lines = "," ++ "\n" ++ "    absent_profile: " := rfl
      have closed : closing .lines = "," ++ "\n" ++ "    .." ++ "\n" ++ "\x7d" := rfl
      have newline : "\n".toList = ['\n'] := rfl
      simp only [describe_eq, opened, divided, closed, rows, String.toList_append, newline,
        List.map_cons, List.map_nil, List.intercalate, List.intersperse, List.flatten_cons,
        List.flatten_nil, List.append_assoc, List.append_nil]

theorem all_describe :
    Split.all '\n' (layout.describe service).toList = (layout.rows service).map String.toList := by
  rw [Split.all_eq_iff]
  refine ⟨?_, layout.intercalate_rows service, ?_⟩
  · cases layout <;> exact List.cons_ne_nil _ _
  · intro piece member inside
    obtain ⟨row, listed, rfl⟩ := List.mem_map.mp member
    exact layout.unbroken_row service listed '\n' inside (by decide)

theorem length_rows : (layout.rows service).length = layout.height := by
  cases layout <;> rfl

theorem perform_operation {world : World} {slot : Nat} {service : Service}
    (found : world.services[slot]? = some service) (clock : ClockReading) :
    world.perform clock (layout.operation slot) = (.text (layout.describe service), world) := by
  cases layout
  · rw [operation, World.perform, World.withSlot_of_getElem? found]
    rfl
  · rw [operation, World.perform, World.withSlot_of_getElem? found]
    rfl

end Layout

/-- In either layout the description of a service reads back as its start time and its absent text.
So any two services, in whatever worlds and at whatever clocks, are described alike exactly if they
agree in both. Describing leaves the world as it is, and a description has just the lines of its
layout. -/
theorem description_reads_back (layout : Layout) (world : World) (slot : Nat) (service : Service)
    (found : world.services[slot]? = some service) (clock : ClockReading) :
    ∃ text, world.perform clock (layout.operation slot) = (.text text, world) ∧
      layout.read? text = some (service.startedAt, service.absentProfile) ∧
      (Split.all '\n' text.toList).length = layout.height ∧
      (∀ row ∈ Split.all '\n' text.toList, ∀ char ∈ row, ¬BreaksLine char) ∧
      ∀ (other : World) (otherSlot : Nat) (otherService : Service) (otherClock : ClockReading),
        other.services[otherSlot]? = some otherService →
          ((other.perform otherClock (layout.operation otherSlot)).1 = .text text ↔
            otherService.startedAt = service.startedAt ∧
              otherService.absentProfile = service.absentProfile) := by
  refine ⟨layout.describe service, layout.perform_operation found clock,
    layout.read?_describe service, ?_, ?_, ?_⟩
  · rw [layout.all_describe, List.length_map, layout.length_rows]
  · intro row member
    rw [layout.all_describe] at member
    obtain ⟨text, listed, rfl⟩ := List.mem_map.mp member
    exact layout.unbroken_row service listed
  · intro other otherSlot otherService otherClock otherFound
    rw [layout.perform_operation otherFound, Answer.text.injEq, layout.describe_eq_iff]

theorem description_reads_back_imitated :
    let clock : ClockReading := ⟨⟨0⟩, .epoch, ⟨0⟩⟩
    let service : Service := ⟨⟨5⟩, .epoch, "\", .. \x7d\n\x1b\u0301\\", 0⟩
    let twin : Service := ⟨⟨70⟩, .epoch, "\", .. \x7d\n\x1b\u0301\\", 1⟩
    let world : World := ⟨.empty, [], [service]⟩
    let other : World := ⟨fun _ => some [0xFF], [⟨.fixed none, 4⟩], [service, twin]⟩
    world.services[0]? = some service ∧ other.services[1]? = some twin ∧
      ∃ text, world.perform clock (.describeLines 0) = (.text text, world) ∧
        Layout.lines.read? text = some (.epoch, "\", .. \x7d\n\x1b\u0301\\") ∧
        (Split.all '\n' text.toList).length = 5 ∧
        (other.perform clock (.describeLines 1)).1 = .text text := by
  intro clock service twin world other
  obtain ⟨text, described, read, height, _, alike⟩ :=
    description_reads_back .lines world 0 service rfl clock
  exact ⟨rfl, rfl, text, described, read, height, (alike other 1 twin clock rfl).mpr ⟨rfl, rfl⟩⟩

end UptimeGreeter
