import UptimeGreeter.Proofs.Http.TargetText
import UptimeGreeter.Proofs.Server.Classification
import UptimeGreeter.Proofs.Server.Consultation
import UptimeGreeter.Proofs.Server.Filtering

/-!
The log of a request agrees with its answer: who asked for what, the greeting that was served, and
the status. Whatever the filter, nothing else is logged of it.
-/

namespace UptimeGreeter

open Http
open LogFilter (Filter Matcher Selection Span)

instance (method : String) : Decidable (Retrieves method) :=
  inferInstanceAs (Decidable (method = "GET" ∨ method = "HEAD"))

def spanOf (method uri : String) (version : Version) : Span :=
  ⟨"tower_http::trace::make_span", "request", .debug,
    [("method", method), ("uri", uri), ("version", version.text)]⟩

def recount (span : Span) (served : Option String) (latency : Duration) (status : Nat) :
    List LogRecord :=
  ⟨.debug, "tower_http::trace::on_request", "started processing request", [], [], some span⟩ ::
    ((served.toList.map fun greeting =>
      ⟨.debug, "hello_spring::routes", "greeting served", [("greeting", greeting)], [],
        some span⟩) ++
    [⟨.debug, "tower_http::trace::on_response", "finished processing request",
      [("latency", toString latency.milliseconds ++ " ms"), ("status", toString status)],
      ["response_headers"], some span⟩])

theorem span_and_level_of_recount {span : Span} {served : Option String} {latency : Duration}
    {status : Nat} {record : LogRecord} (member : record ∈ recount span served latency status) :
    record.span = some span ∧ record.level = .debug := by
  simp only [recount, List.mem_cons, List.mem_append, List.mem_map, List.not_mem_nil,
    or_false] at member
  rcases member with rfl | ⟨greeting, _, rfl⟩ | rfl
  · exact ⟨rfl, rfl⟩
  · exact ⟨rfl, rfl⟩
  · exact ⟨rfl, rfl⟩

theorem filtered_recount (matcher : Matcher) (method uri : String) (version : Version)
    (served : Option String) (latency : Duration) (status : Nat) :
    LogRecord.filtered matcher (.upTo .debug)
        (recount (spanOf method uri version) served latency status) =
      recount (spanOf method uri version) served latency status := by
  have within : ∀ record ∈ recount (spanOf method uri version) served latency status,
      record.span = some (spanOf method uri version) :=
    fun _ member => (span_and_level_of_recount member).1
  apply LogRecord.filtered_upTo within (Nat.le_refl _)
  intro record member
  rw [(span_and_level_of_recount member).2]
  exact Nat.le_refl _

namespace Service

variable (service : Service) (clock : ClockReading) (profile : Option String) {request : Request}

theorem requestRecords_eq (request : Request) :
    service.requestRecords clock profile request =
      recount (spanOf request.method request.uri.text request.version)
        (if Greets request then some (service.greeting profile clock.now).text else none)
        clock.latency (service.respond clock profile request).status.code := by
  simp only [requestRecords, asksProfile_iff]
  by_cases greets : Greets request
  · rw [if_pos greets, if_pos greets]
    rfl
  · rw [if_neg greets, if_neg greets]
    rfl

theorem body_of_get (path : request.uri.path = "/") (get : request.method = "GET") :
    (service.respond clock profile request).body = (service.greeting profile clock.now).text := by
  rw [service.respond_of_greets clock profile ⟨.inl get, path⟩, if_pos get]

end Service

def World.consulted (world : World) (service : Service) (request : Request) : Option String :=
  if asksProfile request then (world.askProfile service.source).1 else none

theorem World.answerRequest_eq (world : World) (service : Service) (clock : ClockReading)
    (request : Request) :
    (world.answerRequest service clock request).1 =
      .response (service.respond clock (world.consulted service request) request)
        (service.requestRecords clock (world.consulted service request) request) := by
  unfold answerRequest consulted
  by_cases asks : asksProfile request
  · rw [if_pos asks, if_pos asks]
  · rw [if_neg asks, if_neg asks]

/-- What a request tells is what its answer shows, and to a request for the head alone what the
whole answer would have shown. -/
theorem World.answerRequest_recounts (world : World) (service : Service) (clock : ClockReading)
    (request : Request) :
    ∃ response records page pageRecords,
      (world.answerRequest service clock request).1 = .response response records ∧
      (world.answerRequest service clock { request with method := "GET" }).1 =
        .response page pageRecords ∧
      records = recount (spanOf request.method request.uri.text request.version)
        (if request.uri.path = "/" ∧ Retrieves request.method then some page.body else none)
        clock.latency response.status.code := by
  refine ⟨_, _, _, _, world.answerRequest_eq service clock request,
    world.answerRequest_eq service clock { request with method := "GET" }, ?_⟩
  rw [Service.requestRecords_eq]
  by_cases greets : Greets request
  · have whole : Greets { request with method := "GET" } := ⟨.inl rfl, greets.2⟩
    have consulted : world.consulted service { request with method := "GET" } =
        world.consulted service request := by
      simp only [World.consulted, asksProfile_iff, if_pos whole, if_pos greets]
    have taken : request.uri.path = "/" ∧ Retrieves request.method := ⟨greets.2, greets.1⟩
    rw [if_pos greets, if_pos taken, consulted,
      Service.body_of_get service clock _ whole.2 rfl]
  · have other : ¬(request.uri.path = "/" ∧ Retrieves request.method) :=
      fun taken => greets ⟨taken.2, taken.1⟩
    rw [if_neg other, if_neg greets]

/-- The log of a request at the level of debugging tells the truth about its answer, and under any
other filter some of it is left. -/
theorem log_recounts_request (world : World) (slot : Nat) (service : Service)
    (found : world.services[slot]? = some service) (clock : ClockReading)
    (method target body : String) (headers : List Header) (version : Version) (request : Request)
    (built : Request.build method target headers body = .ok request) :
    ∃ path uri response records page pageRecords,
      (∀ other : String, HasPath target.toList other.toList ↔ other = path) ∧
      (∀ other : String, WrittenAs target.toList other.toList ↔ other = uri) ∧
      (world.perform clock (.request slot { request with version })).1 =
        .response response records ∧
      (world.perform clock (.request slot { request with version, method := "GET" })).1 =
        .response page pageRecords ∧
      (method = "GET" → page = response) ∧
      ∀ (matcher : Matcher) (environment : Environment),
        ∃ debug, Selection.choose? (some "debug") environment = some debug ∧
          LogRecord.filtered matcher debug.filter records =
            recount (spanOf method uri version)
              (if path = "/" ∧ Retrieves method then some page.body else none)
              clock.latency response.status.code ∧
          ∀ filter : Filter,
            LogRecord.Reduces (LogRecord.filtered matcher debug.filter records)
              (LogRecord.filtered matcher filter records) := by
  obtain ⟨rfl, read⟩ := Request.of_build built
  obtain ⟨response, records, page, pageRecords, answered, whole, told⟩ :=
    world.answerRequest_recounts service clock { request with version }
  refine ⟨request.uri.path, request.uri.text, response, records, page, pageRecords,
    Uri.hasPath_iff read, Uri.writtenAs_iff read, ?_, ?_, ?_, ?_⟩
  · rw [World.perform, World.withSlot_of_getElem? found]
    exact answered
  · rw [World.perform, World.withSlot_of_getElem? found]
    exact whole
  · intro get
    have same : { request with version, method := "GET" } = { request with version } := by
      rw [← get]
    rw [same, answered] at whole
    exact (Answer.response.inj whole).1.symm
  · intro matcher environment
    rw [told]
    refine ⟨_, Selection.choose?_debug environment, filtered_recount .., ?_⟩
    intro filter
    rw [filtered_recount]
    exact LogRecord.reduces_filtered fun _ member => (span_and_level_of_recount member).1

theorem log_recounts_request_head :
    let service : Service := ⟨⟨0⟩, .epoch, "none", 0⟩
    let world : World := ⟨.empty, [⟨.sequence [some "first", some "second"], 0⟩], [service]⟩
    let clock : ClockReading := ⟨⟨65000000000⟩, .epoch, ⟨3000000⟩⟩
    let request : Request := ⟨"HEAD", ⟨some "http", some "h", "/", some "x"⟩, .http11, [], ""⟩
    let matcher : Matcher := fun pattern text => pattern = text
    ∃ response records debug selection,
      (world.perform clock (.request 0 request)).1 = .response response records ∧
      Selection.choose? (some "debug") .empty = some debug ∧
      Selection.choose? (some "hello_spring=loud") .empty = some selection ∧
      LogRecord.filtered matcher debug.filter records =
        recount (spanOf "HEAD" "http://h/?x" .http11) (some "Hello, Spring! (up 01:05, first)")
          ⟨3000000⟩ 200 ∧
      LogRecord.Reduces (LogRecord.filtered matcher debug.filter records)
        (LogRecord.filtered matcher selection.filter records) := by
  intro service world clock request matcher
  obtain ⟨path, uri, response, records, page, pageRecords, paths, texts, answered, whole, _, told⟩ :=
    log_recounts_request world 0 service rfl clock "HEAD" "HTTP://h?x#f" "" [] .http11 request
      (by decide)
  have scheme : ∀ char ∈ "HTTP".toList, Uri.isSchemeChar char := List.all_eq_true.mp (by decide)
  have authority : IsAuthority ['h'] := by decide
  have follows : FollowsPath "?x#f".toList := by rintro char ⟨⟩; rfl
  obtain rfl := (paths "/").mp (.bareAbsolute scheme authority follows)
  obtain rfl := (texts "http://h/?x").mp (.bareAbsolute scheme authority follows)
  have body : page.body = "Hello, Spring! (up 01:05, first)" := by
    obtain ⟨rfl, _⟩ := Answer.response.inj whole
    decide
  have status : response.status.code = 200 := by
    obtain ⟨rfl, _⟩ := Answer.response.inj answered
    decide
  obtain ⟨debug, chosen, full, reduced⟩ := told matcher .empty
  rw [if_pos ⟨rfl, .inr rfl⟩, body, status] at full
  exact ⟨response, records, debug, ⟨.upTo .info, Selection.warningFor "hello_spring=loud"⟩, answered,
    chosen, rfl, full, reduced _⟩

end UptimeGreeter
