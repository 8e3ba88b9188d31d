import UptimeGreeter.Proofs.Server.Classification
import UptimeGreeter.Proofs.Server.Replay
import UptimeGreeter.Server.Lifecycle

/-!
Of all that a client can vary in a request, only the method and the path have an effect. Two requests
that agree in both are answered alike and leave the same world, whatever is logged of them.
-/

namespace UptimeGreeter

open Http
open LogFilter (Filter Matcher)

structure Exchange where
  response : Response
  logged : List LogRecord
  left : World

def World.exchange? (world : World) (slot : Nat) (matcher : Matcher) (filter : Option Filter)
    (clock : ClockReading) (request : Request) : Option Exchange :=
  match world.perform clock (.request slot request) with
  | (.response response records, left) =>
      some ⟨response, (filter.map (LogRecord.filtered matcher · records)).getD [], left⟩
  | _ => none

inductive Operation.Alike : Operation → Operation → Prop
  | same (operation : Operation) : Alike operation operation
  | request (slot : Nat) {request other : Request} (method : request.method = other.method)
      (path : request.uri.path = other.uri.path) :
      Alike (.request slot request) (.request slot other)

def Operation.RunsAlike (operations others : List (ClockReading × Operation)) : Prop :=
  List.Forall₂ (fun entry other => entry.1 = other.1 ∧ entry.2.Alike other.2) operations others

def Answer.unlogged : Answer → Answer
  | .response page _ => .response page []
  | answer => answer

theorem dispatch_congr {request other : Request} (method : request.method = other.method)
    (path : request.uri.path = other.uri.path) : dispatch request = dispatch other := by
  simp only [dispatch, method, path]

namespace World

variable (world : World) (service : Service) (clock : ClockReading)

theorem askProfile_keeps (source : Nat) :
    (world.askProfile source).2.services = world.services ∧
      (world.askProfile source).2.environment = world.environment := by
  unfold askProfile
  split
  · exact ⟨rfl, rfl⟩
  · exact ⟨rfl, rfl⟩

theorem answerRequest_keeps (request : Request) :
    (world.answerRequest service clock request).2.services = world.services ∧
      (world.answerRequest service clock request).2.environment = world.environment := by
  unfold answerRequest
  by_cases asks : asksProfile request
  · rw [if_pos asks]
    exact world.askProfile_keeps service.source
  · rw [if_neg asks]
    exact ⟨rfl, rfl⟩

theorem answerRequest_congr {request other : Request} (same : dispatch request = dispatch other) :
    (world.answerRequest service clock request).1.unlogged =
        (world.answerRequest service clock other).1.unlogged ∧
      (world.answerRequest service clock request).2 =
        (world.answerRequest service clock other).2 := by
  have asks : asksProfile request = asksProfile other := by
    simp only [asksProfile, same]
  have responds (profile : Option String) :
      service.respond clock profile request = service.respond clock profile other := by
    simp only [Service.respond, same]
  simp only [answerRequest, asks, responds, Answer.unlogged, and_self]

theorem perform_alike {operation other : Operation} (alike : operation.Alike other) :
    (world.perform clock operation).1.unlogged = (world.perform clock other).1.unlogged ∧
      (world.perform clock operation).2 = (world.perform clock other).2 := by
  cases alike with
  | same => exact ⟨rfl, rfl⟩
  | request slot method path =>
      simp only [perform, withSlot]
      cases world.services[slot]? with
      | none => exact ⟨rfl, rfl⟩
      | some service => exact world.answerRequest_congr service clock (dispatch_congr method path)

theorem run_alike {operations others : List (ClockReading × Operation)}
    (alike : Operation.RunsAlike operations others) :
    (world.run operations).1.map Answer.unlogged = (world.run others).1.map Answer.unlogged ∧
      (world.run operations).2 = (world.run others).2 := by
  induction alike generalizing world with
  | nil => exact ⟨rfl, rfl⟩
  | @cons entry other operations others first later ih =>
      obtain ⟨clock, operation⟩ := entry
      obtain ⟨otherClock, operation'⟩ := other
      obtain ⟨rfl, same⟩ := first
      obtain ⟨answered, left⟩ := world.perform_alike clock same
      obtain ⟨answers, final⟩ := ih (world.perform clock operation).2
      rw [run_cons, run_cons, List.map_cons, List.map_cons, ← left, answers, answered, final]
      exact ⟨rfl, rfl⟩

theorem exchange?_eq {world : World} {slot : Nat} {service : Service}
    (found : world.services[slot]? = some service) (matcher : Matcher) (filter : Option Filter)
    (clock : ClockReading) (request : Request) :
    ∃ exchange, world.exchange? slot matcher filter clock request = some exchange ∧
      (world.perform clock (.request slot request)).1.unlogged =
        .response exchange.response [] ∧
      (world.perform clock (.request slot request)).2 = exchange.left := by
  rw [exchange?, perform, withSlot_of_getElem? found]
  refine ⟨_, rfl, ?_, rfl⟩
  rfl

end World

theorem Program.conversation?_tell (program : Program) (matcher : Matcher)
    (records : List LogRecord) :
    (program.tell matcher records).filterMap Event.conversation? = [] := by
  apply List.filterMap_eq_nil_iff.mpr
  intro event told
  obtain ⟨record, _, rfl⟩ := List.mem_map.mp told
  rfl

theorem Program.conversation?_attend (program other : Program) (matcher otherMatcher : Matcher)
    (link : Link) (world : World) (happenings : List Happening) :
    (program.attend matcher link world happenings).filterMap Event.conversation? =
      (other.attend otherMatcher link world happenings).filterMap Event.conversation? := by
  induction happenings generalizing world with
  | nil => rfl
  | cons happening rest ih =>
      cases happening with
      | signal signal =>
          rw [attend, attend, List.filterMap_append, List.filterMap_append,
            program.conversation?_tell, other.conversation?_tell]
      | connection clock bytes =>
          simp only [attend, List.filterMap_append, List.filterMap_cons, conversation?_tell,
            Event.conversation?, List.nil_append, ih]

/-- Two requests with one method and one path get the same response and leave the same world, under
any filters of the log. Services and environment are left as they were. Whatever follows, also
requests that differ in the same way, is answered as if they had not differed, and a program with
another filter says the same to its clients. -/
theorem only_method_and_path_count (world : World) (slot : Nat) (service : Service)
    (found : world.services[slot]? = some service) (clock : ClockReading)
    (method path target body otherTarget otherBody : String) (headers otherHeaders : List Header)
    (version otherVersion : Version) (request other : Request)
    (built : Request.build method target headers body = .ok request)
    (otherBuilt : Request.build method otherTarget otherHeaders otherBody = .ok other)
    (has : HasPath target.toList path.toList) (otherHas : HasPath otherTarget.toList path.toList)
    (matcher otherMatcher : Matcher) (filter otherFilter : Option Filter) :
    ∃ first second,
      world.exchange? slot matcher filter clock { request with version } = some first ∧
      world.exchange? slot otherMatcher otherFilter clock { other with version := otherVersion } =
        some second ∧
      first.response = second.response ∧ first.left = second.left ∧
      first.left.services = world.services ∧ first.left.environment = world.environment ∧
      (∀ later others : List (ClockReading × Operation), Operation.RunsAlike later others →
          (first.left.run later).1.map Answer.unlogged =
              (second.left.run others).1.map Answer.unlogged ∧
            (first.left.run later).2 = (second.left.run others).2) ∧
      ∀ (program otherProgram : Program) (link : Link) (happenings : List Happening),
        (program.attend matcher link first.left happenings).filterMap Event.conversation? =
          (otherProgram.attend otherMatcher link second.left happenings).filterMap
            Event.conversation? := by
  obtain ⟨sameMethod, read⟩ := Request.of_build built
  obtain ⟨otherMethod, otherRead⟩ := Request.of_build otherBuilt
  have samePath := (Uri.hasPath_iff read path).mp has
  have otherPath := (Uri.hasPath_iff otherRead path).mp otherHas
  have alike : Operation.Alike (.request slot { request with version })
      (.request slot { other with version := otherVersion }) :=
    .request slot (sameMethod.trans otherMethod.symm) (samePath.symm.trans otherPath)
  obtain ⟨first, exchanged, answered, left⟩ :=
    World.exchange?_eq found matcher filter clock { request with version }
  obtain ⟨second, otherExchanged, otherAnswered, otherLeft⟩ :=
    World.exchange?_eq found otherMatcher otherFilter clock { other with version := otherVersion }
  obtain ⟨sameAnswer, sameLeft⟩ := world.perform_alike clock alike
  rw [answered, otherAnswered] at sameAnswer
  rw [left, otherLeft] at sameLeft
  obtain ⟨services, environment⟩ :=
    world.answerRequest_keeps service clock { request with version }
  have kept : first.left = (world.answerRequest service clock { request with version }).2 := by
    rw [← left, World.perform, World.withSlot_of_getElem? found]
  rw [← kept] at services environment
  refine ⟨first, second, exchanged, otherExchanged, (Answer.response.inj sameAnswer).1, sameLeft,
    services, environment, ?_, ?_⟩
  · intro later others differing
    rw [← sameLeft]
    exact first.left.run_alike differing
  · intro program otherProgram link happenings
    rw [← sameLeft]
    exact program.conversation?_attend otherProgram matcher otherMatcher link first.left happenings

theorem only_method_and_path_count_unlogged :
    let service : Service := ⟨⟨0⟩, .epoch, "none", 0⟩
    let world : World := ⟨.empty, [⟨.sequence [some "first", some "second"], 0⟩], [service]⟩
    let clock : ClockReading := ⟨⟨65000000000⟩, .epoch, ⟨0⟩⟩
    let absolute : Request := ⟨"GET", ⟨some "http", some "h", "/", some "x"⟩, .http11, [], ""⟩
    let origin : Request := ⟨"GET", ⟨none, none, "/", none⟩, .http11, [⟨"accept", "*/*"⟩], "body"⟩
    let matcher : Matcher := fun pattern text => pattern = text
    ∃ first second,
      world.exchange? 0 matcher (some (.upTo .debug)) clock absolute = some first ∧
      world.exchange? 0 matcher none clock { origin with version := .http10 } = some second ∧
      first.response = second.response ∧ first.left = second.left ∧
      first.left.services = [service] ∧
      (first.left.perform clock (.request 0 absolute)).1.unlogged =
        (second.left.perform clock (.request 0 origin)).1.unlogged := by
  intro service world clock absolute origin matcher
  have scheme : ∀ char ∈ "http".toList, Uri.isSchemeChar char := List.all_eq_true.mp (by decide)
  have authority : IsAuthority ['h'] := by decide
  have query : FollowsPath ['?', 'x'] := by rintro char ⟨⟩; rfl
  have isPath : IsPath ['/'] := by decide
  have fragment : FollowsPath ['#', 'f'] := by rintro char ⟨⟩; rfl
  obtain ⟨first, second, exchanged, otherExchanged, response, left, services, _, later, _⟩ :=
    only_method_and_path_count world 0 service rfl clock "GET" "/" "http://h?x" "" "/#f" "body" []
      [⟨"accept", "*/*"⟩] .http11 .http10 absolute origin (by decide) (by decide)
      (.bareAbsolute scheme authority query) (.origin isPath fragment) matcher matcher
      (some (.upTo .debug)) none
  have alike : Operation.Alike (.request 0 absolute) (.request 0 origin) := .request 0 rfl rfl
  obtain ⟨answers, _⟩ := later [(clock, .request 0 absolute)] [(clock, .request 0 origin)]
    (.cons ⟨rfl, alike⟩ .nil)
  exact ⟨first, second, exchanged, otherExchanged, response, left, services,
    List.head_eq_of_cons_eq answers⟩

end UptimeGreeter
