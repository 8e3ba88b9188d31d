import Mathlib.Data.List.Nodup
import UptimeGreeter.Server.World

/-!
What the operations of the past say about services and their sources, told without a world: which
objects were installed, which service asks which of them, and how many greetings each has served.
-/

namespace UptimeGreeter

/-- Operations that are over, the latest first. -/
abbrev History := List Operation

/-- A source object, which the operation that installed it tells apart from all others. -/
structure Installation where
  moment : Nat
  source : ProfileSource
  deriving DecidableEq, Repr

structure Standing where
  started : Instant
  startedAt : Calendar.Timestamp
  absentProfile : String
  object : Installation
  deriving DecidableEq, Repr

def Greets (request : Http.Request) : Prop :=
  (request.method = "GET" ∨ request.method = "HEAD") ∧ request.uri.path = "/"

instance (request : Http.Request) : Decidable (Greets request) := by
  unfold Greets
  infer_instance

theorem dispatch_of_greets {request : Http.Request} (greets : Greets request) :
    dispatch request = .serve .greeting (if request.method = "GET" then .get else .head) := by
  obtain ⟨method, path⟩ := greets
  rcases method with get | head
  · simp [dispatch, Route.ofPath?, Retrieval.ofMethod?, path, get]
  · simp [dispatch, Route.ofPath?, Retrieval.ofMethod?, path, head]

theorem asksProfile_iff (request : Http.Request) :
    asksProfile request = true ↔ Greets request := by
  constructor
  · intro asks
    unfold asksProfile dispatch Route.ofPath? Retrieval.ofMethod? at asks
    unfold Greets
    split_ifs at asks <;> simp_all
  · intro greets
    rw [asksProfile, dispatch_of_greets greets]

def Operation.greetingSlot : Operation → Option Nat
  | .sayHello slot => some slot
  | .sayHelloAt slot _ => some slot
  | .request slot asked => if Greets asked then some slot else none
  | _ => none

def ProfileSource.given (value : Option Bytes) (greetings : Nat) : ProfileSource → Option String
  | .environment => value.map Utf8.decodeLossy
  | .fixed profile => profile
  | .sequence profiles =>
      if before : greetings < profiles.length then profiles[greetings] else profiles.getLast?.join

theorem ProfileSource.profile_eq_given (environment : Environment) (asked : Nat)
    (source : ProfileSource) :
    source.profile environment asked = source.given (environment .buildProfile) asked := by
  cases source with
  | environment => rfl
  | fixed profile => rfl
  | sequence profiles =>
      rw [profile, given]
      split
      · rename_i before
        rw [Nat.min_eq_left (by omega), List.getElem?_eq_getElem before, Option.join_some]
      · rw [Nat.min_eq_right (by omega), List.getLast?_eq_getElem?]

namespace History

def ofRun (operations : List (ClockReading × Operation)) : History :=
  (operations.map Prod.snd).reverse

/-- The services in their slots. A clone asks the object that its origin asks at that time. -/
def services : History → List Standing
  | [] => []
  | .create birth :: past =>
      services past ++
        [⟨birth.started, birth.startedAt, birth.absentProfile, ⟨past.length, birth.source⟩⟩]
  | .clone slot :: past => services past ++ (services past)[slot]?.toList
  | .attach slot source :: past =>
      match (services past)[slot]? with
      | none => services past
      | some service => (services past).set slot { service with object := ⟨past.length, source⟩ }
  | _ :: past => services past

def installed : History → List Installation
  | [] => []
  | .create birth :: past => installed past ++ [⟨past.length, birth.source⟩]
  | .attach slot source :: past =>
      match (services past)[slot]? with
      | none => installed past
      | some _ => installed past ++ [⟨past.length, source⟩]
  | _ :: past => installed past

def greeter (past : History) (operation : Operation) : Option Standing :=
  operation.greetingSlot.bind fun slot => (services past)[slot]?

def greetings (object : Installation) : History → Nat
  | [] => 0
  | operation :: past =>
      greetings object past +
        if (greeter past operation).map Standing.object = some object then 1 else 0

def profileValue (initial : Option Bytes) : History → Option Bytes
  | [] => initial
  | .setProfile value :: _ => value
  | _ :: past => profileValue initial past

def shownProfile (initial : Option Bytes) (history : History) (service : Standing) : String :=
  (service.object.source.given (history.profileValue initial)
    (history.greetings service.object)).getD service.absentProfile

theorem moment_lt_length {history : History} {object : Installation}
    (present : object ∈ installed history) : object.moment < history.length := by
  induction history with
  | nil => cases present
  | cons operation past ih =>
      have grown (source : ProfileSource)
          (present : object ∈ installed past ++ [⟨past.length, source⟩]) :
          object.moment < past.length + 1 := by
        rw [List.mem_append, List.mem_singleton] at present
        rcases present with older | rfl
        · exact Nat.lt_succ_of_lt (ih older)
        · exact Nat.lt_succ_self _
      cases operation with
      | create birth => exact grown birth.source present
      | attach slot source =>
          rw [installed] at present
          split at present
          · exact Nat.lt_succ_of_lt (ih present)
          · exact grown source present
      | _ => exact Nat.lt_succ_of_lt (ih present)

theorem fresh_not_mem (past : History) (source : ProfileSource) :
    ⟨past.length, source⟩ ∉ installed past :=
  fun present => Nat.lt_irrefl _ (moment_lt_length present)

theorem nodup_installed (history : History) : (installed history).Nodup := by
  induction history with
  | nil => exact .nil
  | cons operation past ih =>
      have grown (source : ProfileSource) :
          List.Nodup (installed past ++ [⟨past.length, source⟩]) := by
        rw [← List.concat_eq_append]
        exact List.Nodup.concat (fresh_not_mem past source) ih
      cases operation with
      | create birth => exact grown birth.source
      | attach slot source =>
          rw [installed]
          split
          · exact ih
          · exact grown source
      | _ => exact ih

theorem object_mem_installed {history : History} {service : Standing}
    (present : service ∈ services history) : service.object ∈ installed history := by
  induction history generalizing service with
  | nil => cases present
  | cons operation past ih =>
      cases operation with
      | create birth =>
          rw [services, List.mem_append, List.mem_singleton] at present
          rw [installed, List.mem_append, List.mem_singleton]
          rcases present with older | rfl
          · exact .inl (ih older)
          · exact .inr rfl
      | clone slot =>
          rw [services, List.mem_append, Option.mem_toList] at present
          rcases present with older | origin
          · exact ih older
          · exact ih (List.mem_of_getElem? origin)
      | attach slot source =>
          rw [services] at present
          rw [installed]
          split at present
          · exact ih present
          · rw [List.mem_append, List.mem_singleton]
            rcases List.mem_or_eq_of_mem_set present with older | rfl
            · exact .inl (ih older)
            · exact .inr rfl
      | _ => exact ih present

theorem greeter_cases {past : History} {operation : Operation} {service : Standing}
    (greeting : greeter past operation = some service) :
    ∃ slot, (services past)[slot]? = some service ∧
      (operation = .sayHello slot ∨ (∃ now, operation = .sayHelloAt slot now) ∨
        ∃ request, Greets request ∧ operation = .request slot request) := by
  obtain ⟨slot, chosen, found⟩ := Option.bind_eq_some_iff.mp greeting
  refine ⟨slot, found, ?_⟩
  cases operation with
  | sayHello other =>
      obtain rfl := Option.some.inj chosen
      exact .inl rfl
  | sayHelloAt other now =>
      obtain rfl := Option.some.inj chosen
      exact .inr (.inl ⟨now, rfl⟩)
  | request other request =>
      obtain ⟨greets, same⟩ := Option.ite_none_right_eq_some.mp chosen
      obtain rfl := Option.some.inj same
      exact .inr (.inr ⟨request, greets, rfl⟩)
  | _ => cases chosen

theorem greetings_fresh {history : History} {object : Installation}
    (ahead : history.length ≤ object.moment) : greetings object history = 0 := by
  induction history with
  | nil => rfl
  | cons operation past ih =>
      rw [List.length_cons] at ahead
      have other : (greeter past operation).map Standing.object ≠ some object := by
        rintro asked
        obtain ⟨service, greeting, rfl⟩ := Option.map_eq_some_iff.mp asked
        obtain ⟨slot, found, _⟩ := greeter_cases greeting
        have older := moment_lt_length (object_mem_installed (List.mem_of_getElem? found))
        omega
      rw [greetings, ih (by omega), if_neg other]

theorem greetings_cons_of_silent {past : History} {operation : Operation}
    (silent : greeter past operation = none) (object : Installation) :
    greetings object (operation :: past) = greetings object past := by
  rw [greetings, silent, Option.map_none, if_neg (by simp), Nat.add_zero]

theorem greetings_cons_of_greeter {past : History} {operation : Operation} {service : Standing}
    (greeting : greeter past operation = some service) (object : Installation) :
    greetings object (operation :: past) =
      greetings object past + if service.object = object then 1 else 0 := by
  simp only [greetings, greeting, Option.map_some, Option.some.injEq]

theorem services_getElem?_append {later past : History} {slot : Nat} {service : Standing}
    (found : (services past)[slot]? = some service)
    (kept : ∀ operation ∈ later, ∀ source, operation ≠ .attach slot source) :
    (services (later ++ past))[slot]? = some service := by
  induction later with
  | nil => exact found
  | cons operation later ih =>
      rw [List.forall_mem_cons] at kept
      have stands := ih kept.2
      have inside := (List.getElem?_eq_some_iff.mp stands).1
      cases operation with
      | create birth => rw [List.cons_append, services, List.getElem?_append_left inside, stands]
      | clone other => rw [List.cons_append, services, List.getElem?_append_left inside, stands]
      | attach other source =>
          rw [List.cons_append, services]
          split
          · exact stands
          · have different : other ≠ slot := by
              rintro rfl
              exact kept.1 source rfl
            rw [List.getElem?_set_ne different, stands]
      | _ => exact stands

theorem profileValue_append (initial : Option Bytes) (later past : History) :
    profileValue initial (later ++ past) = profileValue (profileValue initial past) later := by
  induction later with
  | nil => rfl
  | cons operation later ih =>
      cases operation with
      | setProfile value => rfl
      | _ => exact ih

end History

end UptimeGreeter
