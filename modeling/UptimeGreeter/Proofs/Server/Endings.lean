import UptimeGreeter.Proofs.Server.RequestLog
import UptimeGreeter.Server.Lifecycle

/-!
The ways in which a run ends. There are five, no run ends in two of them, and each settles what is
bound, what is told and complained of, and the exit code.
-/

namespace UptimeGreeter

open CommandLine LogFilter

def LogRecord.isOwnInfo (record : LogRecord) : Bool :=
  record.level = .info && "hello_spring".toList.isPrefixOf record.target.toList

namespace Event

def isRecord : Event → Bool
  | .print (.record _) => true
  | _ => false

def isOwnInfo : Event → Bool
  | .print (.record record) => record.isOwnInfo
  | _ => false

end Event

def acts (events : List Event) : List Event :=
  events.filter fun event => !event.isRecord

/-- Of the records, only the program's own at the level of information. -/
def notable (events : List Event) : List Event :=
  events.filter fun event => !event.isRecord || event.isOwnInfo

def complaintOf (causes : List String) : Event :=
  .complain ("Error: " ++ Report.text "hello-spring server failed" causes ++ "\n")

inductive Way where
  | refused
  | crashed
  | badHost
  | unbound
  | shutDown
  deriving DecidableEq, Repr

structure Launch.Starts (launch : Launch) (config : Config) (selection : Selection) : Prop where
  read : readConfig launch.arguments launch.environment = .ok config
  selected : Selection.choose? config.logLevel launch.environment = some selection

section Ways

variable (launch : Launch) (surroundings : Surroundings) (happenings : List Happening)

inductive EndsBy (events : List Event) : Way → Prop
  | refused {stop : Stop}
      (unread : readConfig launch.arguments launch.environment = .error stop)
      (seen : let text := stop.message (programName launch.arguments) launch.environment
        events =
          if stop = .help ∨ stop = .version then [.print (.text text), .exit 0]
          else [.complain text, .exit 2]) : EndsBy events .refused
  | crashed {config : Config}
      (read : readConfig launch.arguments launch.environment = .ok config)
      (unselected : Selection.choose? config.logLevel launch.environment = none)
      (seen : events = [.complain surroundings.crashNotice, .exit 101]) : EndsBy events .crashed
  | badHost {config : Config} {selection : Selection}
      (starts : launch.Starts config selection)
      (noAddress : Net.Address.ofText? config.host = none)
      (seen : notable events = eventsOfWarning selection.warning ++
        [complaintOf [s!"invalid bind host '{config.host}': expected an IP address"], .exit 1]) :
      EndsBy events .badHost
  | unbound {config : Config} {selection : Selection} {endpoint : Net.Endpoint} {cause : IoFailure}
      (starts : launch.Starts config selection)
      (resolved : config.endpoint = .ok endpoint)
      (failed : surroundings.bind endpoint = .error cause)
      (seen : notable events = eventsOfWarning selection.warning ++
        [.bind endpoint, complaintOf [s!"failed to bind {endpoint.text}", cause.message],
          .exit 1]) :
      EndsBy events .unbound
  | shutDown {config : Config} {selection : Selection} {endpoint : Net.Endpoint}
      {past later : List Happening} {signal : Signal}
      {conversations : List (Except IoFailure (List Reply))}
      (starts : launch.Starts config selection)
      (resolved : config.endpoint = .ok endpoint)
      (bound : surroundings.bind endpoint = .ok ())
      (order : happenings = past ++ .signal signal :: later)
      (first : ∀ earlier, .signal earlier ∉ past)
      (attended : conversations.length = past.length)
      (seen : acts events = eventsOfWarning selection.warning ++
        .bind endpoint :: (conversations.map .converse ++ [.exit 0]))
      (told : let running := LogRecord.serverRunning endpoint config.absentProfile
        (∀ record ∈ [running, .signalReceived signal, .shutdownComplete],
          selection.filter.allows record.shape) →
        notable events = eventsOfWarning selection.warning ++
          .bind endpoint :: .print (.record running) :: (conversations.map .converse ++
            [.print (.record (.signalReceived signal)), .print (.record .shutdownComplete),
              .exit 0])) :
      EndsBy events .shutDown

end Ways

@[simp] theorem acts_append (events more : List Event) :
    acts (events ++ more) = acts events ++ acts more :=
  List.filter_append ..

@[simp] theorem notable_append (events more : List Event) :
    notable (events ++ more) = notable events ++ notable more :=
  List.filter_append ..

@[simp] theorem acts_eventsOfWarning (warning : String) :
    acts (eventsOfWarning warning) = eventsOfWarning warning := by
  unfold eventsOfWarning
  split <;> rfl

@[simp] theorem notable_eventsOfWarning (warning : String) :
    notable (eventsOfWarning warning) = eventsOfWarning warning := by
  unfold eventsOfWarning
  split <;> rfl

namespace Program

variable (program : Program) (matcher : Matcher)

@[simp] theorem acts_tell (records : List LogRecord) :
    acts (program.tell matcher records) = [] := by
  simp [acts, tell, Event.isRecord]

theorem notable_tell_of_debug {records : List LogRecord}
    (debug : ∀ record ∈ records, record.level = .debug) :
    notable (program.tell matcher records) = [] := by
  apply List.filter_eq_nil_iff.mpr
  intro event told
  obtain ⟨shown, logged, rfl⟩ := List.mem_map.mp told
  obtain ⟨record, member, passes⟩ := List.mem_filterMap.mp logged
  have level := (LogRecord.level_of_through passes).trans (debug record member)
  simp [Event.isRecord, Event.isOwnInfo, LogRecord.isOwnInfo, level]

theorem notable_tell_of_allowed {records : List LogRecord}
    (own : ∀ record ∈ records,
      record.level = .info ∧ record.target = "hello_spring::server" ∧ record.span = none)
    (allowed : ∀ record ∈ records, program.filter.allows record.shape) :
    notable (program.tell matcher records) =
      records.map fun record => .print (.record record) := by
  have each : ∀ record ∈ records,
      LogRecord.through? matcher program.filter record = some record := by
    intro record member
    rw [LogRecord.through?, (own record member).2.2]
    exact if_pos (allowed record member)
  rw [tell, log, LogRecord.filtered_eq_self each]
  apply List.filter_eq_self.mpr
  intro event told
  obtain ⟨record, member, rfl⟩ := List.mem_map.mp told
  obtain ⟨level, target, _⟩ := own record member
  have inside : "hello_spring".toList.isPrefixOf "hello_spring::server".toList = true := by decide
  simp only [Event.isOwnInfo, LogRecord.isOwnInfo, level, target, inside, decide_true,
    Bool.and_self, Bool.or_true]

end Program

theorem Service.level_of_requestRecords {service : Service} {clock : ClockReading}
    {profile : Option String} {request : Http.Request} :
    ∀ record ∈ service.requestRecords clock profile request, record.level = .debug := by
  intro record member
  rw [requestRecords_eq] at member
  exact (span_and_level_of_recount member).2

namespace World

variable (world : World) (slot : Nat) (clock : ClockReading)

theorem level_of_reply (incoming : Http.Wire.Incoming) :
    ∀ record ∈ (world.reply slot clock incoming).1.records, record.level = .debug := by
  cases incoming with
  | refused status =>
      intro record member
      cases member
  | request request persistent =>
      simp only [reply, perform, withSlot]
      cases world.services[slot]? with
      | none =>
          intro record member
          cases member
      | some service => exact Service.level_of_requestRecords

theorem level_of_replies (incoming : List Http.Wire.Incoming) :
    ∀ reply ∈ (world.replies slot clock incoming).1, ∀ record ∈ reply.records,
      record.level = .debug := by
  induction incoming generalizing world with
  | nil =>
      intro reply member
      cases member
  | cons first rest ih =>
      simp only [replies, List.mem_cons]
      rintro answer (rfl | later)
      · exact world.level_of_reply slot clock first
      · exact ih _ answer later

theorem level_of_converse (link : Link) (bytes : Bytes) :
    ∀ record ∈ recordsOf (world.converse link slot clock bytes).1, record.level = .debug := by
  intro record member
  cases link with
  | down failure => cases member
  | up =>
      obtain ⟨answer, replied, told⟩ := List.mem_flatMap.mp member
      exact world.level_of_replies slot clock _ answer replied record told

end World

theorem exists_first_signal (happenings : List Happening) :
    (∀ signal, .signal signal ∉ happenings) ∨
      ∃ past signal later, happenings = past ++ .signal signal :: later ∧
        ∀ earlier, .signal earlier ∉ past := by
  induction happenings with
  | nil => exact .inl (by simp)
  | cons happening rest ih =>
      cases happening with
      | signal signal => exact .inr ⟨[], signal, rest, rfl, by simp⟩
      | connection clock bytes =>
          rcases ih with quiet | ⟨past, signal, later, rfl, first⟩
          · exact .inl (by simpa using quiet)
          · exact .inr ⟨.connection clock bytes :: past, signal, later, rfl, by simpa using first⟩

namespace Program

variable (program : Program) (matcher : Matcher) (link : Link)

theorem exit_not_mem_tell (records : List LogRecord) (code : Nat) :
    .exit code ∉ program.tell matcher records := by
  simp [tell]

theorem exit_not_mem_attend {happenings : List Happening}
    (quiet : ∀ signal, .signal signal ∉ happenings) (world : World) (code : Nat) :
    .exit code ∉ program.attend matcher link world happenings := by
  induction happenings generalizing world with
  | nil => simp [attend]
  | cons happening rest ih =>
      cases happening with
      | signal signal => exact absurd List.mem_cons_self (quiet signal)
      | connection clock bytes =>
          have later := ih (fun signal member => quiet signal (List.mem_cons_of_mem _ member))
          simp [attend, exit_not_mem_tell, later]

/-- Until the first signal each connection is attended to, and nothing but records of requests is
told in between. Nothing comes after the signal but the end. -/
theorem attend_until_signal {past : List Happening} (first : ∀ earlier, .signal earlier ∉ past)
    (signal : Signal) (later : List Happening) (world : World) :
    ∃ conversations : List (Except IoFailure (List Reply)), conversations.length = past.length ∧
      acts (program.attend matcher link world (past ++ .signal signal :: later)) =
        conversations.map .converse ++ [.exit 0] ∧
      notable (program.attend matcher link world (past ++ .signal signal :: later)) =
        conversations.map .converse ++
          (notable (program.tell matcher [.signalReceived signal, .shutdownComplete]) ++
            [.exit 0]) := by
  induction past generalizing world with
  | nil =>
      refine ⟨[], rfl, ?_, ?_⟩
      · rw [List.nil_append, attend, acts_append, acts_tell]
        rfl
      · rw [List.nil_append, attend, notable_append]
        rfl
  | cons happening past ih =>
      cases happening with
      | signal earlier => exact absurd List.mem_cons_self (first earlier)
      | connection clock bytes =>
          have rest := ih (fun earlier member => first earlier (List.mem_cons_of_mem _ member))
            (world.converse link 0 clock bytes).2
          obtain ⟨conversations, length, acted, noted⟩ := rest
          have debug := world.level_of_converse 0 clock link bytes
          refine ⟨(world.converse link 0 clock bytes).1 :: conversations, by simp [length], ?_, ?_⟩
          · rw [List.cons_append, attend, acts_append, acts_tell, List.map_cons, List.cons_append,
              ← acted]
            rfl
          · rw [List.cons_append, attend, notable_append, program.notable_tell_of_debug matcher debug,
              List.map_cons, List.cons_append, ← noted]
            rfl

theorem serve_until_signal (launch : Launch) (surroundings : Surroundings) (endpoint : Net.Endpoint)
    {happenings past later : List Happening} {signal : Signal}
    (order : happenings = past ++ .signal signal :: later)
    (first : ∀ earlier, .signal earlier ∉ past) :
    let running := LogRecord.serverRunning endpoint program.config.absentProfile
    ∃ conversations : List (Except IoFailure (List Reply)), conversations.length = past.length ∧
      acts (program.serve launch surroundings endpoint happenings) =
        conversations.map .converse ++ [.exit 0] ∧
      ((∀ record ∈ [running, .signalReceived signal, .shutdownComplete],
          program.filter.allows record.shape) →
        notable (program.serve launch surroundings endpoint happenings) =
          .print (.record running) :: (conversations.map .converse ++
            [.print (.record (.signalReceived signal)), .print (.record .shutdownComplete),
              .exit 0])) := by
  intro running
  let matcher := surroundings.matcher
  let world := program.config.world launch.environment surroundings.started surroundings.startedAt
  have opened : program.serve launch surroundings endpoint happenings =
      program.tell matcher [running] ++
        program.attend matcher surroundings.link world happenings := rfl
  obtain ⟨conversations, attended, acted, noted⟩ :=
    program.attend_until_signal matcher surroundings.link first signal later world
  rw [← order] at acted noted
  refine ⟨conversations, attended, ?_, ?_⟩
  · rw [opened, acts_append, acts_tell]
    exact acted
  · intro allowed
    have opening : notable (program.tell matcher [running]) = [.print (.record running)] := by
      apply program.notable_tell_of_allowed
      · simp [running, LogRecord.serverRunning]
      · intro record member
        rw [List.mem_singleton.mp member]
        exact allowed running List.mem_cons_self
    have closing : notable (program.tell matcher [.signalReceived signal, .shutdownComplete]) =
        [.print (.record (.signalReceived signal)), .print (.record .shutdownComplete)] := by
      apply program.notable_tell_of_allowed
      · simp [LogRecord.signalReceived, LogRecord.shutdownComplete]
      · intro record member
        exact allowed record (List.mem_cons_of_mem _ member)
    rw [opened, notable_append, opening, noted, closing]
    rfl

end Program

namespace Launch

variable (launch : Launch) (surroundings : Surroundings) (happenings : List Happening)

def program (config : Config) (selection : Selection) : Program :=
  ⟨config, selection.filter, selection.warning, LogStyle.ofEnvironment launch.environment⟩

def way : Way :=
  match readConfig launch.arguments launch.environment with
  | .error _ => .refused
  | .ok config =>
      match Selection.choose? config.logLevel launch.environment with
      | none => .crashed
      | some _ =>
          match config.endpoint with
          | .error _ => .badHost
          | .ok endpoint =>
              match surroundings.bind endpoint with
              | .error _ => .unbound
              | .ok () => .shutDown

variable {launch surroundings happenings}

theorem ofLaunch_of_starts {config : Config} {selection : Selection}
    (starts : launch.Starts config selection) :
    Program.ofLaunch launch = .ok (launch.program config selection) := by
  simp only [Program.ofLaunch, starts.read, starts.selected]
  rfl

theorem events_of_unread {stop : Stop}
    (unread : readConfig launch.arguments launch.environment = .error stop) :
    launch.events surroundings happenings = eventsOfStop launch stop := by
  rw [events, Program.ofLaunch, unread]

theorem endsBy_refused {stop : Stop}
    (unread : readConfig launch.arguments launch.environment = .error stop) :
    EndsBy launch surroundings happenings (launch.events surroundings happenings) .refused := by
  refine .refused unread ?_
  rw [events_of_unread unread]
  cases stop <;> rfl

theorem endsBy_crashed {config : Config}
    (read : readConfig launch.arguments launch.environment = .ok config)
    (unselected : Selection.choose? config.logLevel launch.environment = none) :
    EndsBy launch surroundings happenings (launch.events surroundings happenings) .crashed := by
  refine .crashed read unselected ?_
  simp only [events, Program.ofLaunch, read, unselected]
  rfl

theorem notable_tracing (program : Program) (matcher : Matcher) :
    notable (program.tell matcher [.tracingInitialized]) = [] := by
  apply program.notable_tell_of_debug
  simp [LogRecord.tracingInitialized]

section Started

variable {config : Config} {selection : Selection} (starts : launch.Starts config selection)

include starts

theorem endsBy_badHost {fault : InvalidHost} (unresolved : config.endpoint = .error fault) :
    EndsBy launch surroundings happenings (launch.events surroundings happenings) .badHost := by
  have resolution := unresolved
  unfold Config.endpoint at resolution
  split at resolution
  · cases resolution
  · rename_i noAddress
    obtain rfl := Except.error.inj resolution
    refine .badHost starts noAddress ?_
    rw [events, ofLaunch_of_starts starts]
    simp only [program, unresolved, notable_append, notable_tracing, notable_eventsOfWarning,
      List.append_nil]
    rfl

theorem endsBy_unbound {endpoint : Net.Endpoint} {cause : IoFailure}
    (resolved : config.endpoint = .ok endpoint)
    (failed : surroundings.bind endpoint = .error cause) :
    EndsBy launch surroundings happenings (launch.events surroundings happenings) .unbound := by
  refine .unbound starts resolved failed ?_
  rw [events, ofLaunch_of_starts starts]
  simp only [program, resolved, failed, notable_append, notable_tracing, notable_eventsOfWarning,
    List.append_nil]
  rfl

theorem events_of_bound {endpoint : Net.Endpoint} (resolved : config.endpoint = .ok endpoint)
    (bound : surroundings.bind endpoint = .ok ()) :
    let program := launch.program config selection
    launch.events surroundings happenings =
      eventsOfWarning selection.warning ++
        program.tell surroundings.matcher [.tracingInitialized] ++
          .bind endpoint :: program.serve launch surroundings endpoint happenings := by
  intro program
  rw [events, ofLaunch_of_starts starts]
  simp only [program, Launch.program, resolved, bound]

theorem endsBy_shutDown {endpoint : Net.Endpoint} {past later : List Happening} {signal : Signal}
    (resolved : config.endpoint = .ok endpoint) (bound : surroundings.bind endpoint = .ok ())
    (order : happenings = past ++ .signal signal :: later)
    (first : ∀ earlier, .signal earlier ∉ past) :
    EndsBy launch surroundings happenings (launch.events surroundings happenings) .shutDown := by
  obtain ⟨conversations, attended, acted, noted⟩ :=
    (launch.program config selection).serve_until_signal launch surroundings endpoint order first
  refine .shutDown starts resolved bound order first attended ?_ ?_
  · rw [events_of_bound starts resolved bound, acts_append, acts_append, acts_eventsOfWarning,
      Program.acts_tell, List.append_nil, ← acted]
    rfl
  · intro running allowed
    have begun : notable (launch.events surroundings happenings) =
        eventsOfWarning selection.warning ++
          .bind endpoint :: notable
            ((launch.program config selection).serve launch surroundings endpoint happenings) := by
      rw [events_of_bound starts resolved bound, notable_append, notable_append,
        notable_eventsOfWarning, notable_tracing, List.append_nil]
      rfl
    rw [begun, noted allowed]
    rfl

theorem exit_not_mem_events {endpoint : Net.Endpoint} (resolved : config.endpoint = .ok endpoint)
    (bound : surroundings.bind endpoint = .ok ()) (quiet : ∀ signal, .signal signal ∉ happenings)
    (code : Nat) : .exit code ∉ launch.events surroundings happenings := by
  have warned : .exit code ∉ eventsOfWarning selection.warning := by
    unfold eventsOfWarning
    split <;> simp
  rw [events_of_bound starts resolved bound]
  simp only [List.mem_append, List.mem_cons, Program.serve, warned, Program.exit_not_mem_tell,
    Program.exit_not_mem_attend _ _ _ quiet, reduceCtorEq, or_self, not_false_eq_true]

end Started

end Launch

namespace EndsBy

variable {launch : Launch} {surroundings : Surroundings} {happenings : List Happening}
  {events : List Event} {way : Way}

theorem eq_way (ends : EndsBy launch surroundings happenings events way) :
    way = launch.way surroundings := by
  cases ends with
  | refused unread _ => simp only [Launch.way, unread]
  | crashed read unselected _ => simp only [Launch.way, read, unselected]
  | badHost starts noAddress _ =>
      simp only [Launch.way, starts.read, starts.selected, Config.endpoint, noAddress]
  | unbound starts resolved failed _ =>
      simp only [Launch.way, starts.read, starts.selected, resolved, failed]
  | shutDown starts resolved bound _ _ _ _ _ =>
      simp only [Launch.way, starts.read, starts.selected, resolved, bound]

theorem exists_exit (ends : EndsBy launch surroundings happenings events way) :
    ∃ code, .exit code ∈ events := by
  cases ends with
  | @refused stop _ seen =>
      rw [seen]
      split
      · exact ⟨0, by simp⟩
      · exact ⟨2, by simp⟩
  | crashed _ _ seen =>
      rw [seen]
      exact ⟨101, by simp⟩
  | badHost _ _ seen =>
      have present : Event.exit 1 ∈ notable events := by
        rw [seen]
        simp
      exact ⟨1, List.mem_of_mem_filter present⟩
  | unbound _ _ _ seen =>
      have present : Event.exit 1 ∈ notable events := by
        rw [seen]
        simp
      exact ⟨1, List.mem_of_mem_filter present⟩
  | shutDown _ _ _ _ _ _ seen _ =>
      have present : Event.exit 0 ∈ acts events := by
        rw [seen]
        simp
      exact ⟨0, List.mem_of_mem_filter present⟩

end EndsBy

theorem Transcript.exitCode_eq_none_iff (events : List Event) :
    (ofEvents events).exitCode = none ↔ ∀ code, .exit code ∉ events := by
  simp only [ofEvents, List.findSome?_eq_none_iff]
  constructor
  · intro none code present
    cases none _ present
  · intro absent event member
    cases event with
    | exit code => exact absurd member (absent code)
    | _ => rfl

def Launch.IsBound (launch : Launch) (surroundings : Surroundings) : Prop :=
  ∃ config selection endpoint, launch.Starts config selection ∧ config.endpoint = .ok endpoint ∧
    surroundings.bind endpoint = .ok ()

theorem Launch.endsBy_or_goesOn (launch : Launch) (surroundings : Surroundings)
    (happenings : List Happening) :
    (∃ way, EndsBy launch surroundings happenings (launch.events surroundings happenings) way) ∨
      launch.IsBound surroundings ∧ ∀ signal, .signal signal ∉ happenings := by
  cases read : readConfig launch.arguments launch.environment with
  | error stop => exact .inl ⟨_, endsBy_refused read⟩
  | ok config =>
      cases selected : Selection.choose? config.logLevel launch.environment with
      | none => exact .inl ⟨_, endsBy_crashed read selected⟩
      | some selection =>
          have starts : launch.Starts config selection := ⟨read, selected⟩
          cases resolved : config.endpoint with
          | error fault => exact .inl ⟨_, endsBy_badHost starts resolved⟩
          | ok endpoint =>
              cases bound : surroundings.bind endpoint with
              | error cause => exact .inl ⟨_, endsBy_unbound starts resolved bound⟩
              | ok done =>
                  rcases exists_first_signal happenings with
                    quiet | ⟨past, signal, later, order, first⟩
                  · exact .inr ⟨⟨config, selection, endpoint, starts, resolved, bound⟩, quiet⟩
                  · exact .inl ⟨_, endsBy_shutDown starts resolved bound order first⟩

end UptimeGreeter
