import UptimeGreeter.CommandLine.Reading
import UptimeGreeter.Proofs.CommandLine.Token
import UptimeGreeter.Proofs.CommandLine.Value

/-!
Reading arguments takes in one item after another. A pending setting with a value behaves as if it
had been settled already, as long as the reading ends without a complaint.
-/

namespace UptimeGreeter.CommandLine

def Clean (outcome : Except Stop Progress) : Prop :=
  ∀ stop, outcome = .error stop → stop.exitCode = 0

theorem clean_ok (progress : Progress) : Clean (.ok progress) := by
  simp [Clean]

theorem clean_error {stop : Stop} : Clean (.error stop) ↔ stop.exitCode = 0 := by
  simp [Clean]

namespace Progress

theorem settleWith_eq_ok_iff (progress next : Progress) (chosen : Setting) (value : Bytes) :
    progress.settleWith chosen (some value) = .ok next ↔
      chosen ∉ progress.used ∧ ∃ assignment, Assigns chosen value assignment ∧
        next = ⟨none, progress.used ++ [chosen], progress.given ++ [assignment]⟩ := by
  simp only [settleWith]
  by_cases repeated : chosen ∈ progress.used
  · simp [repeated]
  · simp only [repeated, if_false, not_false_eq_true, true_and]
    cases read : Assignment.ofBytes chosen value with
    | error fault =>
        simp only [reduceCtorEq, false_iff, not_exists]
        rintro assignment ⟨assigns, _⟩
        rw [(ofBytes_eq_ok_iff _ _ _).mpr assigns] at read
        cases read
    | ok assignment =>
        have assigns := (ofBytes_eq_ok_iff _ _ _).mp read
        constructor
        · intro settled
          exact ⟨assignment, assigns, (Except.ok.inj settled).symm⟩
        · rintro ⟨other, others, rfl⟩
          rw [(ofBytes_eq_ok_iff _ _ _).mpr others] at read
          rw [Except.ok.inj read]

theorem exitCode_of_settleWith {progress : Progress} {chosen : Setting} {value : Option Bytes}
    {stop : Stop} (stopped : progress.settleWith chosen value = .error stop) :
    stop.exitCode = 2 := by
  simp only [settleWith] at stopped
  split at stopped
  · obtain rfl := Except.error.inj stopped
    rfl
  · split at stopped
    · obtain rfl := Except.error.inj stopped
      rfl
    · split at stopped
      · obtain rfl := Except.error.inj stopped
        rfl
      · cases stopped

theorem settle_of_pending_none {progress : Progress} (settled : progress.pending = none) :
    progress.settle = .ok progress := by
  simp [settle, settled]

theorem settle_of_pending {progress : Progress} {chosen : Setting} {value : Option Bytes}
    (pending : progress.pending = some ⟨chosen, value⟩) :
    progress.settle = progress.settleWith chosen value := by
  simp [settle, pending]

end Progress

section

variable {argument : Bytes}

theorem readArguments_nil (progress : Progress) :
    readArguments progress [] = progress.settle := by
  simp [readArguments]

theorem readArguments_apart {chosen : Setting}
    (token : Token.ofBytes argument = .setting chosen none) (progress : Progress)
    (rest : List Bytes) :
    readArguments progress (argument :: rest) = progress.settle.bind fun settled =>
      readArguments { settled with pending := some ⟨chosen, none⟩ } rest := by
  rw [readArguments.eq_def]
  simp only [token]
  cases progress.settle <;> rfl

theorem readArguments_joined {chosen : Setting} {value : Bytes}
    (token : Token.ofBytes argument = .setting chosen (some value)) (progress : Progress)
    (rest : List Bytes) :
    readArguments progress (argument :: rest) = progress.settle.bind fun settled =>
      (settled.settleWith chosen (some value)).bind fun next => readArguments next rest := by
  rw [readArguments.eq_def]
  simp only [token]
  cases progress.settle with
  | error => rfl
  | ok settled =>
      simp only [Except.bind]
      cases settled.settleWith chosen (some value) <;> rfl

theorem readArguments_awaited {chosen : Setting} (token : Token.ofBytes argument = .plain)
    (progress : Progress) (rest : List Bytes)
    (pending : progress.pending = some ⟨chosen, none⟩) :
    readArguments progress (argument :: rest) =
      readArguments { progress with pending := some ⟨chosen, some argument⟩ } rest := by
  rw [readArguments.eq_def]
  simp only [token, pending]

theorem readArguments_stray (token : Token.ofBytes argument = .plain) (progress : Progress)
    (rest : List Bytes) (noneAwaits : ∀ chosen, progress.pending ≠ some ⟨chosen, none⟩) :
    readArguments progress (argument :: rest) =
      .error (.unexpectedArgument (Utf8.decodeLossy argument)) := by
  rw [readArguments.eq_def]
  simp only [token]

theorem readArguments_escape (token : Token.ofBytes argument = .escape) (progress : Progress) :
    readArguments progress [argument] = progress.settle := by
  rw [readArguments.eq_def]
  simp only [token]

theorem readArguments_stray_behind (token : Token.ofBytes argument = .escape) (progress : Progress)
    (stray : Bytes) (rest : List Bytes) :
    readArguments progress (argument :: stray :: rest) =
      .error (.unexpectedArgument (Utf8.decodeLossy stray)) := by
  rw [readArguments.eq_def]
  simp only [token]

theorem readArguments_flag {flag : Flag} (token : Token.ofBytes argument = .flag flag none)
    (progress : Progress) (rest : List Bytes) :
    readArguments progress (argument :: rest) =
      progress.settle.bind fun _ => .error (stopOfFlag flag) := by
  rw [readArguments.eq_def]
  simp only [token]
  cases progress.settle <;> rfl

/-- Arguments that are complained about whatever was read before them. -/
def IsAmiss (argument : Bytes) (rest : List Bytes) : Prop :=
  (∃ flag value, Token.ofBytes argument = .flag flag (some value)) ∨
    (∃ name, Token.ofBytes argument = .unknownLong name) ∨
    (∃ text, Token.ofBytes argument = .unknownShort text) ∨
    (Token.ofBytes argument = .escape ∧ rest ≠ [])

theorem readArguments_amiss {rest : List Bytes} (amiss : IsAmiss argument rest)
    (progress : Progress) :
    ∃ stop, readArguments progress (argument :: rest) = .error stop ∧ stop.exitCode = 2 := by
  rw [readArguments.eq_def]
  rcases amiss with ⟨flag, value, token⟩ | ⟨name, token⟩ | ⟨text, token⟩ | ⟨token, more⟩
  · simp only [token]
    exact ⟨_, rfl, rfl⟩
  · simp only [token]
    exact ⟨_, rfl, rfl⟩
  · simp only [token]
    exact ⟨_, rfl, rfl⟩
  · simp only [token]
    cases rest with
    | nil => exact absurd rfl more
    | cons stray rest => exact ⟨_, rfl, rfl⟩

theorem argument_cases (argument : Bytes) (rest : List Bytes) :
    (∃ chosen, Token.ofBytes argument = .setting chosen none) ∨
      (∃ chosen value, Token.ofBytes argument = .setting chosen (some value)) ∨
      Token.ofBytes argument = .plain ∨ (Token.ofBytes argument = .escape ∧ rest = []) ∨
      (∃ flag, Token.ofBytes argument = .flag flag none) ∨ IsAmiss argument rest := by
  unfold IsAmiss
  cases Token.ofBytes argument with
  | setting chosen value => cases value <;> simp
  | flag flag value => cases value <;> simp
  | unknownLong name => simp
  | unknownShort text => simp
  | escape => by_cases last : rest = [] <;> simp [last]
  | plain => simp

end

def Progress.Awaits (progress : Progress) : Prop :=
  ∃ chosen, progress.pending = some ⟨chosen, none⟩

theorem Progress.settle_settled {progress settled : Progress}
    (settles : progress.settle = .ok settled) :
    settled.pending = none ∧ settled.settle = .ok settled := by
  have finished : settled.pending = none := by
    cases pending : progress.pending with
    | none =>
        rw [settle_of_pending_none pending] at settles
        rwa [← Except.ok.inj settles]
    | some waiting =>
        obtain ⟨chosen, value⟩ := waiting
        rw [settle_of_pending pending] at settles
        cases value with
        | none => cases settles
        | some value =>
            obtain ⟨_, assignment, _, rfl⟩ := (settleWith_eq_ok_iff _ _ _ _).mp settles
            rfl
  exact ⟨finished, settle_of_pending_none finished⟩

theorem Progress.settle_bind {α : Type} (progress : Progress) (next : Progress → Except Stop α) :
    progress.settle.bind next = progress.settle.bind fun settled => settled.settle.bind next := by
  cases settles : progress.settle with
  | error stop => rfl
  | ok settled => simp only [Except.bind, (settle_settled settles).2]

/-- Arguments that are read after what is pending is settled. -/
def SettlesFirst (arguments : List Bytes) : Prop :=
  ∀ progress : Progress, ¬progress.Awaits →
    readArguments progress arguments =
      progress.settle.bind fun settled => readArguments settled arguments

theorem settlesFirst_of_eq_settle {arguments : List Bytes}
    (read : ∀ progress, readArguments progress arguments = progress.settle) :
    SettlesFirst arguments := by
  intro progress _
  simp only [read]
  cases settles : progress.settle with
  | error stop => rfl
  | ok settled => exact (Progress.settle_settled settles).2.symm

theorem settlesFirst_of_eq_bind {arguments : List Bytes} {next : Progress → Except Stop Progress}
    (read : ∀ progress, readArguments progress arguments = progress.settle.bind next) :
    SettlesFirst arguments := by
  intro progress _
  simp only [read]
  exact progress.settle_bind next

theorem settlesFirst_or_complain (arguments : List Bytes) :
    SettlesFirst arguments ∨
    (∀ progress : Progress, ¬progress.Awaits →
      ∃ stop, readArguments progress arguments = .error stop ∧ stop.exitCode = 2) := by
  cases arguments with
  | nil => exact .inl (settlesFirst_of_eq_settle readArguments_nil)
  | cons argument rest =>
      rcases argument_cases argument rest with ⟨chosen, token⟩ | ⟨chosen, value, token⟩ | token |
        ⟨token, rfl⟩ | ⟨flag, token⟩ | amiss
      · exact .inl (settlesFirst_of_eq_bind fun progress => readArguments_apart token progress rest)
      · exact .inl (settlesFirst_of_eq_bind fun progress => readArguments_joined token progress rest)
      · right
        intro progress noneAwaits
        exact ⟨_, readArguments_stray token progress rest
          fun chosen pending => noneAwaits ⟨chosen, pending⟩, rfl⟩
      · exact .inl (settlesFirst_of_eq_settle (readArguments_escape token))
      · exact .inl (settlesFirst_of_eq_bind fun progress => readArguments_flag token progress rest)
      · right
        intro progress _
        exact readArguments_amiss amiss progress

section

variable {progress : Progress} {outcome : Except Stop Progress}

theorem Clean.error_ne (clean : Clean outcome) {stop : Stop} (complaint : stop.exitCode = 2) :
    .error stop ≠ outcome := by
  rintro rfl
  rw [clean_error.mp clean] at complaint
  cases complaint

theorem settleWith_bind_eq_iff (clean : Clean outcome) (chosen : Setting) (value : Option Bytes)
    (next : Progress → Except Stop Progress) :
    (progress.settleWith chosen value).bind next = outcome ↔
      ∃ settled, progress.settleWith chosen value = .ok settled ∧ next settled = outcome := by
  cases settles : progress.settleWith chosen value with
  | error stop =>
      have complaint := Progress.exitCode_of_settleWith settles
      simp [Except.bind, clean.error_ne complaint]
  | ok settled => simp [Except.bind]

/-- A pending setting with a value might as well have been settled before. -/
theorem readArguments_pending_iff (clean : Clean outcome) {chosen : Setting} {value : Bytes}
    (pending : progress.pending = some ⟨chosen, some value⟩) (rest : List Bytes) :
    readArguments progress rest = outcome ↔
      ∃ settled, progress.settleWith chosen (some value) = .ok settled ∧
        readArguments settled rest = outcome := by
  have noneAwaits : ¬progress.Awaits := by simp [Progress.Awaits, pending]
  rcases settlesFirst_or_complain rest with settleFirst | complain
  · rw [settleFirst progress noneAwaits, Progress.settle_of_pending pending,
      settleWith_bind_eq_iff clean]
  · obtain ⟨stop, read, complaint⟩ := complain progress noneAwaits
    simp only [read, clean.error_ne complaint, false_iff, not_exists]
    rintro settled ⟨settles, later⟩
    obtain ⟨_, assignment, _, rfl⟩ := (Progress.settleWith_eq_ok_iff _ _ _ _).mp settles
    obtain ⟨other, readLater, alsoComplaint⟩ :=
      complain ⟨none, progress.used ++ [chosen], progress.given ++ [assignment]⟩
        (by simp [Progress.Awaits])
    exact clean.error_ne alsoComplaint (readLater.symm.trans later)

theorem readArguments_item_iff (clean : Clean outcome) (settled : progress.pending = none)
    (item : Item) (rest : List Bytes) :
    readArguments progress (item.arguments ++ rest) = outcome ↔
      ∃ next, progress.settleWith item.setting (some item.value) = .ok next ∧
        readArguments next rest = outcome := by
  have settle := Progress.settle_of_pending_none settled
  cases spelling : item.spelling with
  | joined =>
      have token := (Token.ofBytes_eq_joined_iff _ item.setting item.value).mpr rfl
      simp only [Item.arguments, spelling, List.singleton_append]
      rw [readArguments_joined token, settle]
      exact settleWith_bind_eq_iff clean _ _ _
  | apart =>
      have option := (Token.ofBytes_eq_apart_iff _ item.setting).mpr rfl
      have value := (Token.ofBytes_eq_plain_iff _).mpr (item.fits spelling)
      simp only [Item.arguments, spelling, List.cons_append, List.nil_append]
      rw [readArguments_apart option, settle, Except.bind, readArguments_awaited value _ _ rfl,
        readArguments_pending_iff clean rfl]
      rfl

end

theorem Item.settlesFirst (item : Item) (rest : List Bytes) :
    SettlesFirst (item.arguments ++ rest) := by
  cases spelling : item.spelling with
  | joined =>
      have token := (Token.ofBytes_eq_joined_iff _ item.setting item.value).mpr rfl
      simp only [Item.arguments, spelling, List.singleton_append]
      exact settlesFirst_of_eq_bind fun progress => readArguments_joined token progress rest
  | apart =>
      have option := (Token.ofBytes_eq_apart_iff _ item.setting).mpr rfl
      simp only [Item.arguments, spelling, List.cons_append, List.nil_append]
      exact settlesFirst_of_eq_bind fun progress => readArguments_apart option progress _

theorem readArguments_item {progress : Progress} (settled : progress.pending = none) (item : Item)
    {rest : List Bytes} (first : SettlesFirst rest) :
    readArguments progress (item.arguments ++ rest) =
      (progress.settleWith item.setting (some item.value)).bind fun next =>
        readArguments next rest := by
  have settle := Progress.settle_of_pending_none settled
  cases spelling : item.spelling with
  | joined =>
      have token := (Token.ofBytes_eq_joined_iff _ item.setting item.value).mpr rfl
      simp only [Item.arguments, spelling, List.singleton_append]
      rw [readArguments_joined token, settle]
      rfl
  | apart =>
      have option := (Token.ofBytes_eq_apart_iff _ item.setting).mpr rfl
      have value := (Token.ofBytes_eq_plain_iff _).mpr (item.fits spelling)
      simp only [Item.arguments, spelling, List.cons_append, List.nil_append]
      rw [readArguments_apart option, settle, Except.bind, readArguments_awaited value _ _ rfl,
        first _ (by simp [Progress.Awaits]), Progress.settle_of_pending rfl]
      rfl

inductive Settles : Progress → List Item → Progress → Prop
  | nil (progress : Progress) : Settles progress [] progress
  | cons {progress next final : Progress} {item : Item} {items : List Item} :
      progress.settleWith item.setting (some item.value) = .ok next →
      Settles next items final → Settles progress (item :: items) final

theorem Progress.pending_of_settleWith {progress next : Progress} {chosen : Setting} {value : Bytes}
    (settles : progress.settleWith chosen (some value) = .ok next) : next.pending = none := by
  obtain ⟨_, assignment, _, rfl⟩ := (settleWith_eq_ok_iff _ _ _ _).mp settles
  rfl

theorem Settles.pending {progress final : Progress} {items : List Item}
    (settles : Settles progress items final) (settled : progress.pending = none) :
    final.pending = none := by
  induction settles with
  | nil => exact settled
  | cons first _ ih => exact ih (Progress.pending_of_settleWith first)

theorem readArguments_items_iff {progress : Progress} {outcome : Except Stop Progress}
    (clean : Clean outcome) (settled : progress.pending = none) (items : List Item)
    (rest : List Bytes) :
    readArguments progress (items.flatMap Item.arguments ++ rest) = outcome ↔
      ∃ final, Settles progress items final ∧ readArguments final rest = outcome := by
  induction items generalizing progress with
  | nil =>
      constructor
      · intro read
        exact ⟨progress, .nil progress, read⟩
      · rintro ⟨final, settles, read⟩
        cases settles
        exact read
  | cons item items ih =>
      rw [List.flatMap_cons, List.append_assoc, readArguments_item_iff clean settled]
      constructor
      · rintro ⟨next, first, read⟩
        obtain ⟨final, later, finished⟩ :=
          (ih (Progress.pending_of_settleWith first)).mp read
        exact ⟨final, .cons first later, finished⟩
      · rintro ⟨final, settles, finished⟩
        cases settles with
        | cons first later =>
            exact ⟨_, first, (ih (Progress.pending_of_settleWith first)).mpr ⟨final, later, finished⟩⟩

inductive Ending : List Bytes → Prop
  | nothing : Ending []
  | dashes : Ending [Utf8.encode "--"]
  | flag {argument : Bytes} {chosen : Flag} (rest : List Bytes) :
      Token.ofBytes argument = .flag chosen none → Ending (argument :: rest)

theorem value_of_awaiting {progress : Progress} {outcome : Except Stop Progress} {chosen : Setting}
    {arguments : List Bytes} (clean : Clean outcome)
    (pending : progress.pending = some ⟨chosen, none⟩)
    (read : readArguments progress arguments = outcome) :
    ∃ value rest, arguments = value :: rest ∧ CanFollow value := by
  have unsettled : progress.settle = .error (.missingValue chosen) := by
    rw [Progress.settle_of_pending pending, Progress.settleWith]
  have complaint : .error (.missingValue chosen) ≠ outcome := clean.error_ne rfl
  cases arguments with
  | nil => exact absurd (unsettled.symm.trans ((readArguments_nil progress).symm.trans read)) complaint
  | cons argument rest =>
      rcases argument_cases argument rest with ⟨other, token⟩ | ⟨other, value, token⟩ | token |
        ⟨token, rfl⟩ | ⟨flag, token⟩ | amiss
      · rw [readArguments_apart token, unsettled] at read
        exact absurd read complaint
      · rw [readArguments_joined token, unsettled] at read
        exact absurd read complaint
      · exact ⟨argument, rest, rfl, (Token.ofBytes_eq_plain_iff _).mp token⟩
      · rw [readArguments_escape token, unsettled] at read
        exact absurd read complaint
      · rw [readArguments_flag token, unsettled] at read
        exact absurd read complaint
      · obtain ⟨stop, stopped, amissToo⟩ := readArguments_amiss amiss progress
        exact absurd (stopped.symm.trans read) (clean.error_ne amissToo)

theorem exists_items_of_readArguments {outcome : Except Stop Progress} (clean : Clean outcome)
    (arguments : List Bytes) (progress : Progress) (settled : progress.pending = none)
    (read : readArguments progress arguments = outcome) :
    ∃ (items : List Item) (ending : List Bytes),
      arguments = items.flatMap Item.arguments ++ ending ∧ Ending ending := by
  generalize size : arguments.length = length
  induction length using Nat.strongRecOn generalizing arguments progress with
  | ind length ih =>
      have settle := Progress.settle_of_pending_none settled
      -- An item at the front leaves fewer arguments, and nothing is pending after it.
      have prepend (item : Item) (rest : List Bytes) (split : arguments = item.arguments ++ rest)
          (shorter : rest.length < length) :
          ∃ (items : List Item) (ending : List Bytes),
            arguments = items.flatMap Item.arguments ++ ending ∧ Ending ending := by
        rw [split, readArguments_item_iff clean settled] at read
        obtain ⟨next, first, later⟩ := read
        obtain ⟨items, ending, rfl, ends⟩ :=
          ih rest.length shorter rest next (Progress.pending_of_settleWith first) later rfl
        exact ⟨item :: items, ending, by rw [split, List.flatMap_cons, List.append_assoc], ends⟩
      cases arguments with
      | nil => exact ⟨[], [], rfl, .nothing⟩
      | cons argument rest =>
          rw [List.length_cons] at size
          rcases argument_cases argument rest with ⟨chosen, token⟩ | ⟨chosen, value, token⟩ | token |
            ⟨token, rfl⟩ | ⟨flag, token⟩ | amiss
          · have waiting := read
            rw [readArguments_apart token, settle] at waiting
            obtain ⟨value, later, rfl, follows⟩ := value_of_awaiting clean rfl waiting
            rw [List.length_cons] at size
            apply prepend ⟨chosen, value, .apart, fun _ => follows⟩ later ?_ (by omega)
            rw [(Token.ofBytes_eq_apart_iff _ _).mp token]
            rfl
          · apply prepend ⟨chosen, value, .joined, by simp⟩ rest ?_ (by omega)
            rw [(Token.ofBytes_eq_joined_iff _ _ _).mp token]
            rfl
          · rw [readArguments_stray token progress rest (by simp [settled])] at read
            exact absurd read (clean.error_ne rfl)
          · rw [(Token.ofBytes_eq_escape_iff _).mp token]
            exact ⟨[], _, rfl, .dashes⟩
          · exact ⟨[], argument :: rest, rfl, .flag rest token⟩
          · obtain ⟨stop, stopped, complaint⟩ := readArguments_amiss amiss progress
            exact absurd (stopped.symm.trans read) (clean.error_ne complaint)

end UptimeGreeter.CommandLine
