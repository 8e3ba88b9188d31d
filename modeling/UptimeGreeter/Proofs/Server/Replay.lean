import UptimeGreeter.Proofs.Server.History

/-!
The world that a run leaves behind is the one its history tells of, operation by operation.
-/

namespace UptimeGreeter

theorem set_idxOf_map {α β : Type} [DecidableEq α] {members : List α} (once : members.Nodup)
    {member : α} (present : member ∈ members) (before after : α → β)
    (others : ∀ other, other ≠ member → after other = before other) :
    (members.map before).set (members.idxOf member) (after member) = members.map after := by
  induction members with
  | nil => cases present
  | cons head members ih =>
      rw [List.nodup_cons] at once
      by_cases same : head = member
      · subst same
        have rest : members.map before = members.map after := by
          apply List.map_congr_left
          intro other later
          refine (others other ?_).symm
          rintro rfl
          exact once.1 later
        rw [List.idxOf_cons_self, List.map_cons, List.map_cons, List.set_cons_zero, rest]
      · rw [List.mem_cons] at present
        have later := present.resolve_left (Ne.symm same)
        rw [List.idxOf_cons_ne _ same, List.map_cons, List.map_cons, List.set_cons_succ,
          ih once.2 later, others head same]

namespace World

theorem run_cons (world : World) (clock : ClockReading) (operation : Operation)
    (rest : List (ClockReading × Operation)) :
    world.run ((clock, operation) :: rest) =
      ((world.perform clock operation).1 :: ((world.perform clock operation).2.run rest).1,
        ((world.perform clock operation).2.run rest).2) :=
  rfl

theorem run_append (world : World) (front back : List (ClockReading × Operation)) :
    (world.run (front ++ back)).1 = (world.run front).1 ++ ((world.run front).2.run back).1 := by
  induction front generalizing world with
  | nil => rfl
  | cons entry front ih => rw [List.cons_append, run_cons, run_cons, ih, List.cons_append]

theorem length_run (world : World) (operations : List (ClockReading × Operation)) :
    (world.run operations).1.length = operations.length := by
  induction operations generalizing world with
  | nil => rfl
  | cons entry operations ih => rw [run_cons, List.length_cons, ih, List.length_cons]

theorem run_getElem? (world : World) (past later : List (ClockReading × Operation))
    (clock : ClockReading) (operation : Operation) :
    (world.run (past ++ (clock, operation) :: later)).1[past.length]? =
      some ((world.run past).2.perform clock operation).1 := by
  have before : (world.run past).1.length ≤ past.length := Nat.le_of_eq (length_run world past)
  rw [run_append, List.getElem?_append_right before, length_run, Nat.sub_self, run_cons,
    List.getElem?_cons_zero]

end World

def Standing.service (standing : Standing) (source : Nat) : Service :=
  ⟨standing.started, standing.startedAt, standing.absentProfile, source⟩

namespace History

def held (history : History) (object : Installation) : SourceObject :=
  ⟨object.source, greetings object history⟩

/-- A service as it is after a history. Objects have the numbers of their places. -/
def stands (history : History) (standing : Standing) : Service :=
  standing.service ((installed history).idxOf standing.object)

def world (environment : Environment) (history : History) : World :=
  ⟨environment.set .buildProfile (profileValue (environment .buildProfile) history),
    (installed history).map (held history), (services history).map (stands history)⟩

theorem world_nil (environment : Environment) : world environment [] = .start environment := by
  simp only [world, World.start, profileValue, installed, services, Environment.set_self,
    List.map_nil]

section Slots

variable {environment : Environment} {history : History} {slot : Nat}
  {act : Service → Answer × World}

theorem withSlot_of_none (absent : (services history)[slot]? = none) :
    (world environment history).withSlot slot act = (.noSuchSlot, world environment history) := by
  rw [World.withSlot, world, List.getElem?_map, absent]
  rfl

theorem withSlot_of_some {standing : Standing}
    (found : (services history)[slot]? = some standing) :
    (world environment history).withSlot slot act = act (stands history standing) := by
  rw [World.withSlot, world, List.getElem?_map, found]
  rfl

theorem withSlot_world (keeps : ∀ service, (act service).2 = world environment history) :
    ((world environment history).withSlot slot act).2 = world environment history := by
  cases found : (services history)[slot]? with
  | none => rw [withSlot_of_none found]
  | some standing => rw [withSlot_of_some found, keeps]

end Slots

theorem held_cons_of_silent {history : History} {operation : Operation}
    (silent : greeter history operation = none) : held (operation :: history) = held history := by
  funext object
  rw [held, held, greetings_cons_of_silent silent]

theorem held_fresh (history : History) (source : ProfileSource) :
    held history ⟨history.length, source⟩ = ⟨source, 0⟩ := by
  rw [held, greetings_fresh (Nat.le_refl _)]

def asked (environment : Environment) (history : History) (object : Installation) : World :=
  { world environment history with
    sources := (installed history).map fun other =>
      ⟨other.source, greetings other history + if object = other then 1 else 0⟩ }

theorem askProfile_world (environment : Environment) {history : History} {standing : Standing}
    (present : standing ∈ services history) :
    (world environment history).askProfile (stands history standing).source =
      (standing.object.source.given (profileValue (environment .buildProfile) history)
        (greetings standing.object history), asked environment history standing.object) := by
  have member := object_mem_installed present
  have found : (world environment history).sources[(stands history standing).source]? =
      some (held history standing.object) := by
    rw [world, List.getElem?_map, stands, Standing.service, List.getElem?_idxOf member,
      Option.map_some]
  have counted := set_idxOf_map (nodup_installed history) member (held history)
    (fun other =>
      ⟨other.source, greetings other history + if standing.object = other then 1 else 0⟩)
    (fun other different => by rw [if_neg different.symm, Nat.add_zero, held])
  have value : (world environment history).environment .buildProfile =
      profileValue (environment .buildProfile) history :=
    Environment.set_same environment .buildProfile _
  simp only [World.askProfile, found, ProfileSource.profile_eq_given, value, asked]
  rw [if_pos rfl] at counted
  rw [← counted]
  rfl

theorem world_cons_of_greeter (environment : Environment) {history : History}
    {operation : Operation} {standing : Standing}
    (greeting : greeter history operation = some standing) :
    world environment (operation :: history) = asked environment history standing.object := by
  have counts : held (operation :: history) = fun other =>
      ⟨other.source, greetings other history + if standing.object = other then 1 else 0⟩ := by
    funext other
    rw [held, greetings_cons_of_greeter greeting]
  cases operation with
  | sayHello slot => rw [world, counts]; rfl
  | sayHelloAt slot now => rw [world, counts]; rfl
  | request slot request => rw [world, counts]; rfl
  | _ => cases greeting

theorem world_cons_of_idle (environment : Environment) {history : History} {operation : Operation}
    (silent : greeter history operation = none)
    (noObject : installed (operation :: history) = installed history)
    (noService : services (operation :: history) = services history)
    (noValue : ∀ initial, profileValue initial (operation :: history) = profileValue initial history) :
    world environment (operation :: history) = world environment history := by
  have same : stands (operation :: history) = stands history := by
    funext standing
    rw [stands, stands, noObject]
  rw [world, world, noObject, noService, noValue, held_cons_of_silent silent, same]

theorem stands_of_installed_append {history later : History} {more : List Installation}
    (grown : installed later = installed history ++ more) :
    (services history).map (stands later) = (services history).map (stands history) := by
  apply List.map_congr_left
  intro standing present
  rw [stands, stands, grown, List.idxOf_append_of_mem (object_mem_installed present)]

theorem stands_fresh {history later : History} (standing : Standing)
    (grown : installed later = installed history ++ [standing.object])
    (fresh : standing.object ∉ installed history) :
    stands later standing = standing.service (installed history).length := by
  rw [stands, grown, List.idxOf_append_of_notMem fresh, List.idxOf_cons_self, Nat.add_zero]

section Perform

variable (environment : Environment) (history : History) (clock : ClockReading)

theorem perform_create (birth : Birth) :
    ((world environment history).perform clock (.create birth)).2 =
      world environment (.create birth :: history) := by
  have silent : greeter history (.create birth) = none := rfl
  have grown : installed (.create birth :: history) =
      installed history ++ [⟨history.length, birth.source⟩] := rfl
  have added := stands_fresh
    ⟨birth.started, birth.startedAt, birth.absentProfile, ⟨history.length, birth.source⟩⟩ grown
    (fresh_not_mem history birth.source)
  simp only [world, held_cons_of_silent silent, grown, services, profileValue, List.map_append,
    stands_of_installed_append grown, List.map_cons, List.map_nil, added, held_fresh,
    World.perform, World.addSource, World.addService, List.length_map, Standing.service]

theorem perform_clone (slot : Nat) :
    ((world environment history).perform clock (.clone slot)).2 =
      world environment (.clone slot :: history) := by
  have silent : greeter history (.clone slot) = none := rfl
  rw [World.perform]
  cases found : (services history)[slot]? with
  | none =>
      have noService : services (.clone slot :: history) = services history := by
        rw [services, found, Option.toList_none, List.append_nil]
      rw [withSlot_of_none found, world_cons_of_idle environment silent rfl noService fun _ => rfl]
  | some standing =>
      rw [withSlot_of_some found]
      simp only [world, held_cons_of_silent silent, installed, services, profileValue, found,
        Option.toList_some, World.addService, List.map_append]
      rfl

theorem perform_attach (slot : Nat) (source : ProfileSource) :
    ((world environment history).perform clock (.attach slot source)).2 =
      world environment (.attach slot source :: history) := by
  have silent : greeter history (.attach slot source) = none := rfl
  rw [World.perform]
  cases found : (services history)[slot]? with
  | none =>
      have noObject : installed (.attach slot source :: history) = installed history := by
        rw [installed, found]
      have noService : services (.attach slot source :: history) = services history := by
        rw [services, found]
      rw [withSlot_of_none found,
        world_cons_of_idle environment silent noObject noService fun _ => rfl]
  | some standing =>
      have grown : installed (.attach slot source :: history) =
          installed history ++ [⟨history.length, source⟩] := by
        rw [installed, found]
      have added := stands_fresh { standing with object := ⟨history.length, source⟩ } grown
        (fresh_not_mem history source)
      rw [withSlot_of_some found]
      simp only [world, held_cons_of_silent silent, grown, services, profileValue, found,
        List.map_append, List.map_set, stands_of_installed_append grown, List.map_cons,
        List.map_nil, added, held_fresh, World.addSource, List.length_map]
      rfl

theorem perform_setProfile (value : Option Bytes) :
    ((world environment history).perform clock (.setProfile value)).2 =
      world environment (.setProfile value :: history) := by
  have silent : greeter history (.setProfile value) = none := rfl
  have replaced : (world environment history).environment.set .buildProfile value =
      environment.set .buildProfile value :=
    Environment.set_set environment .buildProfile _ value
  rw [World.perform, replaced]
  simp only [world, held_cons_of_silent silent, profileValue, installed, services]
  rfl

theorem perform_greeting {operation : Operation} {standing : Standing}
    (greeting : greeter history operation = some standing) :
    ((world environment history).perform clock operation).2 =
      world environment (operation :: history) := by
  rw [world_cons_of_greeter environment greeting]
  obtain ⟨slot, found, shape⟩ := greeter_cases greeting
  have consulted := askProfile_world environment (List.mem_of_getElem? found)
  rcases shape with rfl | ⟨now, rfl⟩ | ⟨request, greets, rfl⟩
  · rw [World.perform, withSlot_of_some found, World.greet, consulted]
  · rw [World.perform, withSlot_of_some found, World.greet, consulted]
  · rw [World.perform, withSlot_of_some found, World.answerRequest,
      if_pos ((asksProfile_iff request).mpr greets), consulted]

theorem perform_sayHelloAt_of_none {slot : Nat} (now : Instant)
    (silent : greeter history (.sayHelloAt slot now) = none) :
    ((world environment history).perform clock (.sayHelloAt slot now)).2 =
      world environment (.sayHelloAt slot now :: history) := by
  rw [world_cons_of_idle environment silent rfl rfl fun _ => rfl, World.perform,
    withSlot_of_none silent]

theorem perform_request_of_none {slot : Nat} {request : Http.Request}
    (silent : greeter history (.request slot request) = none) :
    ((world environment history).perform clock (.request slot request)).2 =
      world environment (.request slot request :: history) := by
  rw [world_cons_of_idle environment silent rfl rfl fun _ => rfl, World.perform]
  cases found : (services history)[slot]? with
  | none => rw [withSlot_of_none found]
  | some standing =>
      have declined : asksProfile request ≠ true := by
        rw [Ne, asksProfile_iff]
        intro greets
        rw [greeter, Operation.greetingSlot, if_pos greets, Option.bind_some, found] at silent
        cases silent
      rw [withSlot_of_some found, World.answerRequest, if_neg declined]

theorem perform_world (operation : Operation) :
    ((world environment history).perform clock operation).2 =
      world environment (operation :: history) := by
  cases greeting : greeter history operation with
  | some standing => exact perform_greeting environment history clock greeting
  | none =>
      cases operation with
      | create birth => exact perform_create environment history clock birth
      | clone slot => exact perform_clone environment history clock slot
      | attach slot source => exact perform_attach environment history clock slot source
      | setProfile value => exact perform_setProfile environment history clock value
      | readProfile => exact (world_cons_of_idle environment greeting rfl rfl fun _ => rfl).symm
      | sayHello slot =>
          exact perform_sayHelloAt_of_none environment history clock clock.now greeting
      | sayHelloAt slot now =>
          exact perform_sayHelloAt_of_none environment history clock now greeting
      | request slot request => exact perform_request_of_none environment history clock greeting
      | _ =>
          rw [world_cons_of_idle environment greeting rfl rfl fun _ => rfl]
          exact withSlot_world fun _ => rfl

end Perform

theorem run_world (environment : Environment) (history : History)
    (operations : List (ClockReading × Operation)) :
    ((world environment history).run operations).2 =
      world environment (ofRun operations ++ history) := by
  induction operations generalizing history with
  | nil => rfl
  | cons entry operations ih =>
      rw [World.run_cons, perform_world, ih, ofRun, ofRun, List.map_cons, List.reverse_cons,
        List.append_assoc, List.singleton_append]

theorem run_start (environment : Environment) (operations : List (ClockReading × Operation)) :
    ((World.start environment).run operations).2 = world environment (ofRun operations) := by
  rw [← world_nil, run_world, List.append_nil]

end History

end UptimeGreeter
