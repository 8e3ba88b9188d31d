import UptimeGreeter.Proofs.Server.Replay

/-!
Each greeting asks one source object once and shows what it gives. Nothing else asks a source.
-/

namespace UptimeGreeter

open Http

/-- Answers that show a greeting. To a request for the head alone its text is only logged. -/
inductive Shows (clock : ClockReading) (greeting : Instant → Greeting) : Operation → Answer → Prop
  | said (slot : Nat) : Shows clock greeting (.sayHello slot) (.text (greeting clock.now).text)
  | saidAt (slot : Nat) (now : Instant) :
      Shows clock greeting (.sayHelloAt slot now) (.text (greeting now).text)
  | served (slot : Nat) (request : Request) (response : Response) (records : List LogRecord)
      (status : response.status = .ok)
      (headers : response.headers =
        (Response.withBody "text/plain; charset=utf-8" (greeting clock.now).text).headers)
      (body : response.body =
        if request.method = "GET" then (greeting clock.now).text else "")
      (logged : (records.filter fun record => record.message = "greeting served").map
        LogRecord.fields = [[("greeting", (greeting clock.now).text)]]) :
      Shows clock greeting (.request slot request) (.response response records)

theorem Shows.exists_response {clock : ClockReading} {greeting : Instant → Greeting} {slot : Nat}
    {request : Request} {answer : Answer}
    (shows : Shows clock greeting (.request slot request) answer) (get : request.method = "GET") :
    ∃ response records, answer = .response response records ∧ response.status = .ok ∧
      response.body = (greeting clock.now).text := by
  cases shows with
  | served _ _ response records status _ body _ =>
      rw [if_pos get] at body
      exact ⟨response, records, rfl, status, body⟩

theorem Service.respond_of_greets (service : Service) (clock : ClockReading)
    (profile : Option String) {request : Request} (greets : Greets request) :
    service.respond clock profile request =
      { Response.withBody "text/plain; charset=utf-8" (service.greeting profile clock.now).text with
        body := if request.method = "GET" then (service.greeting profile clock.now).text else "" } := by
  rw [respond, dispatch_of_greets greets]
  by_cases get : request.method = "GET"
  · simp only [if_pos get]
    rfl
  · simp only [if_neg get]
    rfl

theorem Service.logged_of_greets (service : Service) (clock : ClockReading)
    (profile : Option String) {request : Request} (greets : Greets request) :
    ((service.requestRecords clock profile request).filter
      fun record => record.message = "greeting served").map LogRecord.fields =
        [[("greeting", (service.greeting profile clock.now).text)]] := by
  rw [requestRecords, if_pos ((asksProfile_iff request).mpr greets)]
  rfl

namespace History

variable (environment : Environment) (history : History) (clock : ClockReading)

def greeting (service : Standing) (now : Instant) : Greeting :=
  ⟨now.since service.started, shownProfile (environment .buildProfile) history service⟩

theorem perform_shows {operation : Operation} {service : Standing}
    (greets : greeter history operation = some service) :
    Shows clock (greeting environment history service) operation
      ((world environment history).perform clock operation).1 := by
  obtain ⟨slot, found, shape⟩ := greeter_cases greets
  have consulted := askProfile_world environment (List.mem_of_getElem? found)
  rcases shape with rfl | ⟨now, rfl⟩ | ⟨request, taken, rfl⟩
  · rw [World.perform, withSlot_of_some found, World.greet, consulted]
    exact .said slot
  · rw [World.perform, withSlot_of_some found, World.greet, consulted]
    exact .saidAt slot now
  · rw [World.perform, withSlot_of_some found, World.answerRequest,
      if_pos ((asksProfile_iff request).mpr taken), consulted]
    refine .served _ _ _ _ ?_ ?_ ?_ (Service.logged_of_greets _ clock _ taken)
    all_goals rw [Service.respond_of_greets _ clock _ taken]
    all_goals rfl

end History

/-- After any run, each source object has been asked as often as services that asked it have
greeted. A greeting shows what its object gives after all greetings before it, or else the
service's text for an absent profile. -/
theorem one_consultation_per_greeting (environment : Environment)
    (past later : List (ClockReading × Operation)) (clock : ClockReading) (operation : Operation) :
    (((World.start environment).run past).2.sources =
      (History.ofRun past).installed.map fun object =>
        ⟨object.source, (History.ofRun past).greetings object⟩) ∧
    ∀ service, (History.ofRun past).greeter operation = some service →
      ∃ answer, ((World.start environment).run
          (past ++ (clock, operation) :: later)).1[past.length]? = some answer ∧
        Shows clock (History.greeting environment (.ofRun past) service) operation answer := by
  constructor
  · rw [History.run_start]
    rfl
  · intro service greets
    refine ⟨_, World.run_getElem? _ past later clock operation, ?_⟩
    rw [History.run_start]
    exact History.perform_shows environment (.ofRun past) clock greets

theorem one_consultation_per_greeting_shared :
    let clock : ClockReading := ⟨⟨65000000000⟩, .epoch, ⟨0⟩⟩
    let past : List (ClockReading × Operation) :=
      [(clock, .create ⟨⟨0⟩, .epoch, "none", .sequence [some "first", some "second"]⟩),
        (clock, .clone 0), (clock, .sayHello 1), (clock, .attach 1 .environment),
        (clock, .setProfile (some []))]
    ∃ answer, ((World.start .empty).run (past ++ [(clock, .sayHello 0)])).1[5]? = some answer ∧
      Shows clock (fun now => ⟨now.since ⟨0⟩, "second"⟩) (.sayHello 0) answer := by
  intro clock past
  exact (one_consultation_per_greeting .empty past [] clock (.sayHello 0)).2
    ⟨⟨0⟩, .epoch, "none", ⟨0, .sequence [some "first", some "second"]⟩⟩ rfl

end UptimeGreeter
