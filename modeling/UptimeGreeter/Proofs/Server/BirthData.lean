import UptimeGreeter.Proofs.Server.StartTime
import UptimeGreeter.Proofs.Server.UptimeReports

/-!
What a service was created with stays as it is, and so does all that is told of it, to the service
itself and to its clones.
-/

namespace UptimeGreeter

open Http

def Birth.service (birth : Birth) (source : Nat) : Service :=
  ⟨birth.started, birth.startedAt, birth.absentProfile, source⟩

structure World.Bears (world : World) (slot : Nat) (birth : Birth) : Prop where
  data : ∃ source, world.services[slot]? = some (birth.service source)
  startedAt : ∀ clock, (world.perform clock (.startedAt slot)).1 = .time birth.startedAt
  absentProfile : ∀ clock,
    (world.perform clock (.absentProfile slot)).1 = .text birth.absentProfile
  line : ∀ clock source,
    (world.perform clock (.describe slot)).1 = .text (birth.service source).describe
  lines : ∀ clock source,
    (world.perform clock (.describeLines slot)).1 = .text (birth.service source).describeLines
  health : ∀ clock (request : Request), request.method = "GET" → request.uri.path = "/health" →
    ∃ response records, (world.perform clock (.request slot request)).1 =
        .response response records ∧
      Health.startText? response.body = some birth.startedAt.text.toList
  uptime : ∀ clock operation now, AsksUptime clock slot operation now →
    (world.perform clock operation).1.uptime? = some (now.wholeSeconds birth.started)

namespace World

theorem bears_of_getElem? {world : World} {slot source : Nat} {birth : Birth}
    (found : world.services[slot]? = some (birth.service source)) : world.Bears slot birth where
  data := ⟨source, found⟩
  startedAt := by
    intro clock
    rw [perform, withSlot_of_getElem? found]
    rfl
  absentProfile := by
    intro clock
    rw [perform, withSlot_of_getElem? found]
    rfl
  line := by
    intro clock other
    rw [perform, withSlot_of_getElem? found]
    rfl
  lines := by
    intro clock other
    rw [perform, withSlot_of_getElem? found]
    rfl
  health := by
    intro clock request get path
    obtain ⟨profile, records, answered⟩ := perform_request found clock request
    have shown := (birth.service source).showsStart_startedAt
    exact ⟨_, records, answered, shown.health clock profile request get path⟩
  uptime := by
    intro clock operation now asks
    exact uptime?_perform found asks

theorem bears_of_origin (environment : Environment) {operations : List (ClockReading × Operation)}
    {slot origin position : Nat} {birth : Birth}
    (descends : (History.origins (.ofRun (operations.take position)))[slot]? = some origin)
    (born : (operations[origin]?).map Prod.snd = some (.create birth)) :
    ((World.start environment).run (operations.take position)).2.Bears slot birth := by
  obtain ⟨other, object, otherBorn, found⟩ := History.keeps_of_origin descends
  have same := born.symm.trans (History.getElem?_of_ofRun_take otherBorn)
  obtain rfl := Operation.create.inj (Option.some.inj same)
  apply bears_of_getElem?
  rw [History.run_start, History.world, List.getElem?_map, found]
  rfl

end World

theorem History.exists_origin {environment : Environment}
    {operations : List (ClockReading × Operation)} {slot : Nat} {service : Service}
    (stands : ((World.start environment).run operations).2.services[slot]? = some service) :
    ∃ origin, (origins (.ofRun operations))[slot]? = some origin := by
  have inside := (List.getElem?_eq_some_iff.mp stands).1
  rw [run_start, world, List.length_map, ← length_origins] at inside
  exact ⟨_, List.getElem?_eq_getElem inside⟩

theorem History.ofRun_take (operations : List (ClockReading × Operation)) {position later : Nat}
    (order : position ≤ later) :
    ∃ between, ofRun (operations.take later) = between ++ ofRun (operations.take position) := by
  obtain ⟨more, rfl⟩ := Nat.exists_eq_add_of_le order
  refine ⟨ofRun ((operations.drop position).take more), ?_⟩
  rw [List.take_add, ofRun, ofRun, ofRun, List.map_append, List.reverse_append]

/-- A service that stands in a slot goes back to one creation, at that point of the run and at all
later ones. It has the data of that creation and tells them, whatever is done to it or to others. -/
theorem birth_data_stays (environment : Environment) (operations : List (ClockReading × Operation))
    (position slot : Nat) (service : Service)
    (stands : ((World.start environment).run (operations.take position)).2.services[slot]? =
      some service) :
    ∃ origin birth, (operations[origin]?).map Prod.snd = some (.create birth) ∧
      ∀ later, position ≤ later →
        (History.origins (.ofRun (operations.take later)))[slot]? = some origin ∧
        ((World.start environment).run (operations.take later)).2.Bears slot birth := by
  obtain ⟨origin, descends⟩ := History.exists_origin stands
  obtain ⟨birth, _, born, _⟩ := History.keeps_of_origin descends
  have created := History.getElem?_of_ofRun_take born
  refine ⟨origin, birth, created, ?_⟩
  intro later order
  obtain ⟨between, grown⟩ := History.ofRun_take operations order
  have still : (History.origins (.ofRun (operations.take later)))[slot]? = some origin := by
    rw [grown]
    exact History.origins_getElem?_append descends
  exact ⟨still, World.bears_of_origin environment still created⟩

theorem birth_data_stays_clone :
    let clock : ClockReading := ⟨⟨65000000000⟩, .epoch, ⟨0⟩⟩
    let birth : Birth := ⟨⟨5000000000⟩, .epoch, "none", .fixed none⟩
    let operations : List (ClockReading × Operation) :=
      [(clock, .create birth), (clock, .clone 0), (clock, .create ⟨⟨0⟩, .epoch, "", .environment⟩),
        (clock, .attach 1 .environment), (clock, .setProfile (some [0xFF])), (clock, .sayHello 1)]
    ((World.start .empty).run (operations.take 2)).2.services[1]? = some (birth.service 0) ∧
      ((World.start .empty).run operations).2.services[1]? = some (birth.service 2) ∧
      ((World.start .empty).run operations).2.Bears 1 birth := by
  intro clock birth operations
  obtain ⟨origin, created, born, stays⟩ :=
    birth_data_stays .empty operations 2 1 (birth.service 0) rfl
  obtain ⟨descends, bears⟩ := stays 6 (by decide)
  obtain rfl : 0 = origin := Option.some.inj descends
  obtain rfl : birth = created := Operation.create.inj (Option.some.inj born)
  exact ⟨rfl, rfl, bears⟩

end UptimeGreeter
