import UptimeGreeter.Proofs.Http.Target
import UptimeGreeter.Server.World

/-!
The kind of an answer follows from the path of the request and its method alone, and nothing makes
two paths or two methods of different characters alike.
-/

namespace UptimeGreeter

open Http

def Route.path : Route → String
  | .greeting => "/"
  | .health => "/health"

def Route.contentType : Route → String
  | .greeting => "text/plain; charset=utf-8"
  | .health => "application/json"

def ServedPath (path : String) : Prop :=
  path = "/" ∨ path = "/health"

def Retrieves (method : String) : Prop :=
  method = "GET" ∨ method = "HEAD"

def Http.Response.contentTypes (response : Response) : List String :=
  (response.headers.filter (·.name = "content-type")).map (·.value)

structure Classified (path method : String) (response : Response) : Prop where
  ok_iff : response.status.code = 200 ↔ ServedPath path ∧ Retrieves method
  notAllowed_iff : response.status.code = 405 ↔ ServedPath path ∧ ¬Retrieves method
  notFound_iff : response.status.code = 404 ↔ ¬ServedPath path
  noOther : response.status.code = 200 ∨ response.status.code = 405 ∨ response.status.code = 404
  notAllowed : response.status.code = 405 →
    response.headers = [⟨"allow", "GET,HEAD"⟩, ⟨"content-length", "0"⟩] ∧ response.body = ""
  notFound : response.status.code = 404 →
    response.headers = [⟨"content-length", "0"⟩] ∧ response.body = ""
  plain_iff : response.contentTypes = ["text/plain; charset=utf-8"] ↔
    path = "/" ∧ Retrieves method
  json_iff : response.contentTypes = ["application/json"] ↔ path = "/health" ∧ Retrieves method

theorem ServedPath.exists_route {path : String} (served : ServedPath path) :
    ∃ route : Route, path = route.path := by
  rcases served with root | health
  · exact ⟨.greeting, root⟩
  · exact ⟨.health, health⟩

theorem Route.servedPath (route : Route) : ServedPath route.path := by
  cases route with
  | greeting => exact .inl rfl
  | health => exact .inr rfl

theorem Route.ofPath?_cases (path : String) :
    (∃ route, ofPath? path = some route ∧ path = route.path) ∨
      ofPath? path = none ∧ ¬ServedPath path := by
  unfold ofPath? ServedPath
  by_cases root : path = "/"
  · exact .inl ⟨.greeting, if_pos root, root⟩
  · by_cases health : path = "/health"
    · exact .inl ⟨.health, by rw [if_neg root, if_pos health], health⟩
    · exact .inr ⟨by rw [if_neg root, if_neg health], not_or.mpr ⟨root, health⟩⟩

theorem Retrieval.ofMethod?_cases (method : String) :
    (∃ retrieval, ofMethod? method = some retrieval ∧ Retrieves method) ∨
      ofMethod? method = none ∧ ¬Retrieves method := by
  unfold ofMethod? Retrieves
  by_cases get : method = "GET"
  · exact .inl ⟨.get, if_pos get, .inl get⟩
  · by_cases head : method = "HEAD"
    · exact .inl ⟨.head, by rw [if_neg get, if_pos head], .inr head⟩
    · exact .inr ⟨by rw [if_neg get, if_neg head], not_or.mpr ⟨get, head⟩⟩

namespace Classified

theorem of_notFound {path method : String} (unknown : ¬ServedPath path) :
    Classified path method .notFound := by
  have code : Response.notFound.status.code = 404 := rfl
  have types : Response.notFound.contentTypes = [] := rfl
  refine ⟨?_, ?_, ?_, .inr (.inr code), ?_, fun _ => ⟨rfl, rfl⟩, ?_, ?_⟩
  · simp [code, unknown]
  · simp [code, unknown]
  · simp [code, unknown]
  · simp [code]
  · have root : path ≠ "/" := fun root => unknown (.inl root)
    simp [types, root]
  · have health : path ≠ "/health" := fun health => unknown (.inr health)
    simp [types, health]

theorem of_methodNotAllowed {path method : String} (served : ServedPath path)
    (other : ¬Retrieves method) : Classified path method .methodNotAllowed := by
  have code : Response.methodNotAllowed.status.code = 405 := rfl
  have types : Response.methodNotAllowed.contentTypes = [] := rfl
  refine ⟨?_, ?_, ?_, .inr (.inl code), fun _ => ⟨rfl, rfl⟩, ?_, ?_, ?_⟩
  · simp [code, other]
  · simp [code, served, other]
  · simp [code, served]
  · simp [code]
  · simp [types, other]
  · simp [types, other]

theorem of_page {method : String} {response : Response} (route : Route)
    (retrieves : Retrieves method) (status : response.status = .ok)
    (types : response.contentTypes = [route.contentType]) :
    Classified route.path method response := by
  have code : response.status.code = 200 := by rw [status]; rfl
  have served := route.servedPath
  refine ⟨?_, ?_, ?_, .inl code, ?_, ?_, ?_, ?_⟩
  · simp [code, served, retrieves]
  · simp [code, retrieves]
  · simp [code, served]
  · simp [code]
  · simp [code]
  · cases route <;> simp [types, Route.contentType, Route.path, retrieves]
  · cases route <;> simp [types, Route.contentType, Route.path, retrieves]

end Classified

namespace Service

variable (service : Service) (clock : ClockReading) (profile : Option String)

theorem contentTypes_page (route : Route) :
    (service.page clock profile route).contentTypes = [route.contentType] := by
  cases route <;> simp [page, Response.contentTypes, Response.withBody, Route.contentType]

theorem respond_of_serve {request : Request} {route : Route} {retrieval : Retrieval}
    (served : dispatch request = .serve route retrieval) :
    (service.respond clock profile request).status = .ok ∧
      (service.respond clock profile request).headers =
        (service.page clock profile route).headers := by
  rw [respond, served]
  cases retrieval <;> cases route <;> exact ⟨rfl, rfl⟩

theorem respond_of_get {request : Request} {route : Route} (get : request.method = "GET")
    (path : request.uri.path = route.path) :
    service.respond clock profile request = service.page clock profile route := by
  have served : dispatch request = .serve route .get := by
    rw [dispatch, path, get]
    cases route <;> rfl
  rw [respond, served]

theorem respond_classified (request : Request) :
    Classified request.uri.path request.method (service.respond clock profile request) := by
  rcases Route.ofPath?_cases request.uri.path with ⟨route, found, path⟩ | ⟨missing, unknown⟩
  · rcases Retrieval.ofMethod?_cases request.method with
      ⟨retrieval, accepted, retrieves⟩ | ⟨refused, other⟩
    · have served : dispatch request = .serve route retrieval := by
        rw [dispatch, found, accepted]
      obtain ⟨status, headers⟩ := service.respond_of_serve clock profile served
      rw [path]
      refine .of_page route retrieves status ?_
      rw [Response.contentTypes, headers]
      exact service.contentTypes_page clock profile route
    · have answer : service.respond clock profile request = .methodNotAllowed := by
        rw [respond, dispatch, found, refused]
      rw [answer, path]
      exact .of_methodNotAllowed route.servedPath other
  · have answer : service.respond clock profile request = .notFound := by
      rw [respond, dispatch, missing]
    rw [answer]
    exact .of_notFound unknown

end Service

theorem World.withSlot_of_getElem? {world : World} {slot : Nat} {service : Service}
    (found : world.services[slot]? = some service) (act : Service → Answer × World) :
    world.withSlot slot act = act service := by
  rw [withSlot, found]

theorem World.perform_request {world : World} {slot : Nat} {service : Service}
    (found : world.services[slot]? = some service) (clock : ClockReading) (request : Request) :
    ∃ profile records, (world.perform clock (.request slot request)).1 =
      .response (service.respond clock profile request) records := by
  rw [perform, withSlot_of_getElem? found]
  exact ⟨_, _, rfl⟩

theorem Http.Request.of_build {method target body : String} {headers : List Header}
    {request : Request} (built : build method target headers body = .ok request) :
    request.method = method ∧ Uri.ofText target = .ok request.uri := by
  unfold build at built
  split_ifs at built with token
  split at built
  · cases built
  · rename_i uri read
    split at built
    · cases built
    · cases built
      exact ⟨rfl, read⟩

/-- Every service in every world answers every request that can be built, in either version, by
the one path of its target and by its method. -/
theorem answers_classified (world : World) (slot : Nat) (service : Service)
    (found : world.services[slot]? = some service) (clock : ClockReading)
    (method target body : String) (headers : List Header) (version : Version) (request : Request)
    (built : Request.build method target headers body = .ok request) :
    ∃ path response records,
      (∀ other : String, HasPath target.toList other.toList ↔ other = path) ∧
      (world.perform clock (.request slot { request with version })).1 =
        .response response records ∧
      Classified path method response := by
  obtain ⟨sameMethod, read⟩ := Request.of_build built
  obtain ⟨profile, records, answered⟩ := World.perform_request found clock { request with version }
  refine ⟨request.uri.path, _, records, Uri.hasPath_iff read, answered, ?_⟩
  rw [← sameMethod]
  exact service.respond_classified clock profile { request with version }

theorem answers_classified_bare :
    let service : Service := ⟨⟨0⟩, .epoch, "none", 0⟩
    let world : World := ⟨.empty, [⟨.fixed none, 0⟩], [service]⟩
    let clock : ClockReading := ⟨⟨65000000000⟩, .epoch, ⟨0⟩⟩
    let bare : Request := ⟨"HEAD", ⟨some "http", some "h", "/", some "x"⟩, .http11, [], ""⟩
    let coded : Request := ⟨"GET", ⟨none, none, "/%68ealth", none⟩, .http11, [], ""⟩
    (∃ response records, (world.perform clock (.request 0 { bare with version := .http10 })).1 =
        .response response records ∧ response.status.code = 200 ∧
        response.contentTypes = ["text/plain; charset=utf-8"]) ∧
      ∃ response records, (world.perform clock (.request 0 coded)).1 = .response response records ∧
        response.status.code = 404 := by
  intro service world clock bare coded
  constructor
  · obtain ⟨path, response, records, paths, answered, classified⟩ :=
      answers_classified world 0 service rfl clock "HEAD" "http://h?x" "" [] .http10 bare (by decide)
    have has : HasPath "http://h?x".toList "/".toList := by
      have scheme : ∀ char ∈ "http".toList, Uri.isSchemeChar char :=
        List.all_eq_true.mp (by decide)
      have authority : IsAuthority ['h'] := by decide
      have follows : FollowsPath ['?', 'x'] := by rintro char ⟨⟩; rfl
      exact .bareAbsolute scheme authority follows
    obtain rfl := (paths "/").mp has
    have retrieves : Retrieves "HEAD" := .inr rfl
    exact ⟨response, records, answered, classified.ok_iff.mpr ⟨.inl rfl, retrieves⟩,
      classified.plain_iff.mpr ⟨rfl, retrieves⟩⟩
  · obtain ⟨path, response, records, paths, answered, classified⟩ :=
      answers_classified world 0 service rfl clock "GET" "/%68ealth" "" [] .http11 coded (by decide)
    have isPath : IsPath "/%68ealth".toList := by decide
    have follows : FollowsPath [] := by rintro char ⟨⟩
    have has := HasPath.origin isPath follows
    rw [List.append_nil] at has
    obtain rfl := (paths "/%68ealth").mp has
    have unknown : ¬ServedPath "/%68ealth" := by unfold ServedPath; decide
    exact ⟨response, records, answered, classified.notFound_iff.mpr unknown⟩

end UptimeGreeter
