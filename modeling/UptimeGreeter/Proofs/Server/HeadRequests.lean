import UptimeGreeter.Proofs.Server.Classification
import UptimeGreeter.Proofs.Server.Replay
import UptimeGreeter.Proofs.Text.Utf8

/-!
A request for the head of a page is answered like one for the page, but for the body. It asks the
same sources, so one may stand for the other in a run without any change to the other answers.
-/

namespace UptimeGreeter

open Http

structure Http.Request.HeadOf (head get : Request) : Prop where
  asksHead : head.method = "HEAD"
  asksPage : get.method = "GET"
  path : head.uri.path = get.uri.path

def Http.Response.StatesLength (response : Response) : Prop :=
  response.headers.filter (·.name = "content-length") =
    [⟨"content-length", toString (Utf8.encode response.body).length⟩]

def Service.consultations (service : Service) (path : String) (source : Nat) : Nat :=
  if path = "/" ∧ source = service.source then 1 else 0

def World.moved (world : World) (service : Service) (path : String) : World :=
  { world with
    sources := world.sources.mapIdx fun source object =>
      ⟨object.source, object.asked + service.consultations path source⟩ }

inductive Operation.Swapped : Operation → Operation → Prop
  | same (operation : Operation) : Swapped operation operation
  | head (slot : Nat) {head get : Request} (pair : head.HeadOf get) :
      Swapped (.request slot get) (.request slot head)
  | get (slot : Nat) {head get : Request} (pair : head.HeadOf get) :
      Swapped (.request slot head) (.request slot get)

def Operation.RunsSwapped (operations others : List (ClockReading × Operation)) : Prop :=
  List.Forall₂ (fun entry other => entry.1 = other.1 ∧ entry.2.Swapped other.2) operations others

theorem Http.Response.statesLength_withBody (contentType body : String) :
    (withBody contentType body).StatesLength := by
  rw [StatesLength, Utf8.length_encode]
  rfl

theorem Http.Response.statesLength_notFound : notFound.StatesLength :=
  rfl

theorem dispatch_of_pair {head get : Request} (pair : head.HeadOf get) :
    (∃ route, dispatch get = .serve route .get ∧ dispatch head = .serve route .head) ∨
      dispatch get = .notFound ∧ dispatch head = .notFound := by
  have getMethod : Retrieval.ofMethod? get.method = some .get := by rw [pair.asksPage]; rfl
  have headMethod : Retrieval.ofMethod? head.method = some .head := by rw [pair.asksHead]; rfl
  rw [dispatch, dispatch, getMethod, headMethod, pair.path]
  cases Route.ofPath? get.uri.path with
  | none => exact .inr ⟨rfl, rfl⟩
  | some route => exact .inl ⟨route, rfl, rfl⟩

theorem asksProfile_of_pair {head get : Request} (pair : head.HeadOf get) :
    asksProfile head = asksProfile get := by
  rcases dispatch_of_pair pair with ⟨route, got, headed⟩ | ⟨got, headed⟩
  · rw [asksProfile, asksProfile, got, headed]
    cases route <;> rfl
  · rw [asksProfile, asksProfile, got, headed]

theorem asksProfile_of_get {get : Request} (method : get.method = "GET") :
    asksProfile get = true ↔ get.uri.path = "/" := by
  rw [asksProfile_iff, Greets]
  simp [method]

namespace Service

variable (service : Service) (clock : ClockReading) (profile : Option String)

theorem respond_head {head get : Request} (pair : head.HeadOf get) :
    service.respond clock profile head = (service.respond clock profile get).withoutBody := by
  rcases dispatch_of_pair pair with ⟨route, got, headed⟩ | ⟨got, headed⟩
  · rw [respond, respond, got, headed]
  · rw [respond, respond, got, headed]
    rfl

theorem statesLength_respond {head get : Request} (pair : head.HeadOf get) :
    (service.respond clock profile get).StatesLength := by
  rcases dispatch_of_pair pair with ⟨route, got, _⟩ | ⟨got, _⟩
  · rw [respond, got]
    cases route with
    | greeting => exact Response.statesLength_withBody _ _
    | health => exact Response.statesLength_withBody _ _
  · rw [respond, got]
    exact Response.statesLength_notFound

end Service

namespace World

variable (world : World) (service : Service) (clock : ClockReading)

theorem moved_eq {path : String} {sources : List SourceObject}
    (each : ∀ source : Nat, sources[source]? = world.sources[source]?.map fun object =>
      ⟨object.source, object.asked + service.consultations path source⟩) :
    world.moved service path = { world with sources } := by
  have same : world.sources.mapIdx (fun source object =>
      ⟨object.source, object.asked + service.consultations path source⟩) = sources := by
    apply List.ext_getElem?
    intro source
    rw [List.getElem?_mapIdx, each]
  rw [moved, same]

theorem moved_of_ne {path : String} (other : path ≠ "/") :
    world.moved service path = world := by
  apply moved_eq
  intro source
  cases world.sources[source]? with
  | none => rfl
  | some object => simp [Service.consultations, other]

theorem askProfile_eq_moved :
    (world.askProfile service.source).2 = world.moved service "/" := by
  have elsewhere (source : Nat) (different : source ≠ service.source) :
      world.sources[source]? = world.sources[source]?.map fun object =>
        ⟨object.source, object.asked + service.consultations "/" source⟩ := by
    cases world.sources[source]? with
    | none => rfl
    | some object => simp [Service.consultations, different]
  unfold askProfile
  symm
  split
  · rename_i missing
    apply moved_eq
    intro source
    by_cases here : source = service.source
    · rw [here, missing]
      rfl
    · exact elsewhere source here
  · rename_i object found
    apply moved_eq
    intro source
    by_cases here : source = service.source
    · rw [here, found, List.getElem?_set_self (List.getElem?_eq_some_iff.mp found).1]
      simp [Service.consultations]
    · rw [List.getElem?_set_ne (Ne.symm here)]
      exact elsewhere source here

theorem answerRequest_left {get : Request} (method : get.method = "GET") :
    (world.answerRequest service clock get).2 = world.moved service get.uri.path := by
  unfold answerRequest
  by_cases asks : asksProfile get
  · rw [if_pos asks, (asksProfile_of_get method).mp asks]
    exact world.askProfile_eq_moved service
  · rw [if_neg asks, moved_of_ne]
    exact fun root => asks ((asksProfile_of_get method).mpr root)

theorem perform_pair {slot : Nat} {service : Service} (found : world.services[slot]? = some service)
    {head get : Request} (pair : head.HeadOf get) :
    ∃ page records headRecords, page.StatesLength ∧
      world.perform clock (.request slot get) =
        (.response page records, world.moved service get.uri.path) ∧
      world.perform clock (.request slot head) =
        (.response page.withoutBody headRecords, world.moved service get.uri.path) := by
  have left := world.answerRequest_left service clock pair.asksPage
  rw [perform, perform, withSlot_of_getElem? found, withSlot_of_getElem? found, ← left]
  unfold answerRequest
  rw [asksProfile_of_pair pair]
  simp only [service.respond_head clock _ pair]
  exact ⟨_, _, _, service.statesLength_respond clock _ pair, rfl, rfl⟩

theorem perform_swapped {operation other : Operation} (swapped : operation.Swapped other) :
    (world.perform clock operation).2 = (world.perform clock other).2 := by
  have pairs (slot : Nat) {head get : Request} (pair : head.HeadOf get) :
      (world.perform clock (.request slot get)).2 =
        (world.perform clock (.request slot head)).2 := by
    cases found : world.services[slot]? with
    | none => rw [perform, perform, withSlot, withSlot, found]
    | some service =>
        obtain ⟨page, records, headRecords, _, got, headed⟩ := world.perform_pair clock found pair
        rw [got, headed]
  cases swapped with
  | same => rfl
  | head slot pair => exact pairs slot pair
  | get slot pair => exact (pairs slot pair).symm

theorem run_swapped {operations others : List (ClockReading × Operation)}
    (swapped : Operation.RunsSwapped operations others) :
    (world.run operations).2 = (world.run others).2 ∧
      ∀ position : Nat, operations[position]? = others[position]? →
        (world.run operations).1[position]? = (world.run others).1[position]? := by
  induction swapped generalizing world with
  | nil => exact ⟨rfl, fun _ _ => rfl⟩
  | @cons entry other operations others first later ih =>
      obtain ⟨clock, operation⟩ := entry
      obtain ⟨otherClock, operation'⟩ := other
      obtain ⟨rfl, same⟩ := first
      -- Swapped or not, the first operation leaves one world for both of the later runs.
      have left := world.perform_swapped clock same
      obtain ⟨final, answers⟩ := ih (world.perform clock operation).2
      rw [run_cons, run_cons, ← left]
      refine ⟨final, ?_⟩
      intro position unchanged
      cases position with
      | zero =>
          simp only [List.getElem?_cons_zero, Option.some.injEq, Prod.mk.injEq, true_and]
            at unchanged
          simp [unchanged]
      | succ position =>
          simp only [List.getElem?_cons_succ] at unchanged ⊢
          exact answers position unchanged

end World

/-- A request for the head of a page gets the status and the headers of the page without its body,
whose length in bytes is stated. Either asks the service's source once for a greeting and asks none
for any other page, so that a run in which some are swapped goes on as before. -/
theorem head_is_get_without_body (world : World) (slot : Nat) (service : Service)
    (found : world.services[slot]? = some service) (clock : ClockReading) (head get : Request)
    (pair : head.HeadOf get) :
    (∃ page briefly records headRecords left,
      world.perform clock (.request slot get) = (.response page records, left) ∧
      world.perform clock (.request slot head) = (.response briefly headRecords, left) ∧
      briefly.status = page.status ∧ briefly.headers = page.headers ∧ briefly.body = "" ∧
      page.StatesLength ∧ left = world.moved service get.uri.path) ∧
    ∀ (start : World) (operations others : List (ClockReading × Operation)),
      Operation.RunsSwapped operations others →
        (start.run operations).2 = (start.run others).2 ∧
        ∀ position : Nat, operations[position]? = others[position]? →
          (start.run operations).1[position]? = (start.run others).1[position]? := by
  constructor
  · obtain ⟨page, records, headRecords, stated, got, headed⟩ := world.perform_pair clock found pair
    exact ⟨page, page.withoutBody, records, headRecords, _, got, headed, rfl, rfl, rfl, stated, rfl⟩
  · intro start operations others swapped
    exact start.run_swapped swapped

theorem head_is_get_without_body_wide :
    let service : Service := ⟨⟨0⟩, .epoch, "none", 0⟩
    let source : ProfileSource := .sequence [some "é", some "later"]
    let world : World := ⟨.empty, [⟨source, 0⟩], [service]⟩
    let clock : ClockReading := ⟨⟨65000000000⟩, .epoch, ⟨0⟩⟩
    let get : Request := ⟨"GET", ⟨none, none, "/", none⟩, .http11, [], ""⟩
    let head : Request := { get with method := "HEAD" }
    (∃ briefly records left,
      world.perform clock (.request 0 head) = (.response briefly records, left) ∧
      briefly.headers = [⟨"content-type", "text/plain; charset=utf-8"⟩, ⟨"content-length", "29"⟩] ∧
      briefly.body = "" ∧ left.sources = [⟨source, 1⟩]) ∧
    (world.run [(clock, .request 0 head), (clock, .sayHello 0)]).1[1]? =
      (world.run [(clock, .request 0 get), (clock, .sayHello 0)]).1[1]? := by
  intro service source world clock get head
  have pair : head.HeadOf get := ⟨rfl, rfl, rfl⟩
  obtain ⟨⟨page, briefly, records, headRecords, left, got, headed, _, headers, body, _, asked⟩,
    runs⟩ := head_is_get_without_body world 0 service rfl clock head get pair
  have swapped : Operation.RunsSwapped [(clock, .request 0 head), (clock, .sayHello 0)]
      [(clock, .request 0 get), (clock, .sayHello 0)] :=
    .cons ⟨rfl, .get 0 pair⟩ (.cons ⟨rfl, .same _⟩ .nil)
  refine ⟨⟨briefly, headRecords, left, headed, ?_, body, ?_⟩, (runs world _ _ swapped).2 1 rfl⟩
  · rw [headers]
    obtain ⟨rfl, _⟩ := Answer.response.inj (Prod.mk.inj got).1
    decide
  · rw [asked]
    rfl

end UptimeGreeter
