import UptimeGreeter.Proofs.CommandLine.Acceptance

/-!
Help and version are shown for a word that asks for them behind sound items for different settings.
What follows the word makes no difference, and neither does the environment.
-/

namespace UptimeGreeter.CommandLine

inductive AsksFor : Flag → Bytes → Prop
  | help : AsksFor .help (Utf8.encode "--help")
  | version : AsksFor .version (Utf8.encode "--version")
  | helpLetter (more : Bytes) : AsksFor .help (Utf8.encode "-h" ++ more)
  | versionLetter (more : Bytes) : AsksFor .version (Utf8.encode "-V" ++ more)

/-- Sound items for different settings, then a word that asks for a flag, then anything. -/
def LeadTo (arguments : List Bytes) (flag : Flag) : Prop :=
  ∃ (items : List Item) (word : Bytes) (rest : List Bytes),
    arguments = items.flatMap Item.arguments ++ word :: rest ∧
    (items.map Item.setting).Nodup ∧ (∀ item ∈ items, Sound item.setting item.value) ∧
    AsksFor flag word

namespace Token

theorem ofShort_eq_flag_iff (body : Bytes) (flag : Flag) :
    ofShort body = .flag flag none ↔
      ∃ letter more, Flag.ofLetter? letter = some flag ∧
        body = String.utf8EncodeChar letter ++ more := by
  rw [ofShort]
  constructor
  · intro read
    split at read
    · rename_i letter later first
      obtain ⟨more, rfl, _⟩ := (Utf8.pieces_eq_some_cons_iff _ _ _).mp first
      split at read
      · rename_i chosen found
        obtain ⟨rfl, _⟩ := Token.flag.inj read
        exact ⟨letter, more, found, rfl⟩
      · cases read
    · cases read
  · rintro ⟨letter, more, named, rfl⟩
    rw [Utf8.pieces_utf8EncodeChar_append]
    simp only [named]

theorem ofLetter?_eq_some_iff (letter : Char) (flag : Flag) :
    Flag.ofLetter? letter = some flag ↔
      letter = 'h' ∧ flag = .help ∨ letter = 'V' ∧ flag = .version := by
  constructor
  · intro named
    unfold Flag.ofLetter? at named
    split at named
    · exact .inl ⟨rfl, (Option.some.inj named).symm⟩
    · exact .inr ⟨rfl, (Option.some.inj named).symm⟩
    · cases named
  · rintro (⟨rfl, rfl⟩ | ⟨rfl, rfl⟩) <;> rfl

theorem ofBytes_eq_flag_iff (argument : Bytes) (flag : Flag) :
    ofBytes argument = .flag flag none ↔ AsksFor flag argument := by
  constructor
  · intro read
    rcases ofBytes_cases argument with ⟨_, plain⟩ | ⟨_, escape⟩ | ⟨body, _, rfl, long⟩ |
      ⟨second, body, _, rfl, short⟩
    · rw [plain] at read
      cases read
    · rw [escape] at read
      cases read
    · rw [long] at read
      obtain rfl := (ofLong_eq_token_iff body (.flag flag) none).mp read
      cases flag with
      | help => exact .help
      | version => exact .version
    · rw [short] at read
      obtain ⟨letter, more, named, same⟩ := (ofShort_eq_flag_iff _ flag).mp read
      rw [same]
      rcases (ofLetter?_eq_some_iff letter flag).mp named with ⟨rfl, rfl⟩ | ⟨rfl, rfl⟩
      · exact .helpLetter more
      · exact .versionLetter more
  · have short (letter : Char) (more : Bytes) (named : Flag.ofLetter? letter = some flag) :
        ofShort (String.utf8EncodeChar letter ++ more) = .flag flag none :=
      (ofShort_eq_flag_iff _ flag).mpr ⟨letter, more, named, rfl⟩
    intro asks
    cases asks with
    | help => rfl
    | version => rfl
    | helpLetter more => exact short 'h' more rfl
    | versionLetter more => exact short 'V' more rfl

end Token

theorem stopOfFlag_injective : Function.Injective stopOfFlag := by
  intro left right same
  cases left <;> cases right <;> first | rfl | cases same

theorem exitCode_stopOfFlag (flag : Flag) : (stopOfFlag flag).exitCode = 0 := by
  cases flag <;> rfl

theorem readArguments_eq_flag_iff (arguments : List Bytes) (flag : Flag) :
    readArguments .start arguments = .error (stopOfFlag flag) ↔ LeadTo arguments flag := by
  have clean : Clean (.error (stopOfFlag flag)) := clean_error.mpr (exitCode_stopOfFlag flag)
  constructor
  · intro read
    obtain ⟨items, ending, rfl, ends⟩ :=
      exists_items_of_readArguments clean arguments .start rfl read
    obtain ⟨final, settles, finished⟩ := (readArguments_items_iff clean rfl items ending).mp read
    have settled := Progress.settle_of_pending_none (settles.pending rfl)
    obtain ⟨once, _, assignments, all, rfl⟩ := (settles_iff rfl items _).mp settles
    have sound := (exists_allAssign_iff _).mp ⟨assignments, all⟩
    rw [List.forall_mem_map] at sound
    cases ends with
    | nothing =>
        rw [readArguments_nil, settled] at finished
        cases finished
    | dashes =>
        rw [readArguments_escape ((Token.ofBytes_eq_escape_iff _).mpr rfl), settled] at finished
        cases finished
    | flag rest token =>
        rename_i word chosen
        rw [readArguments_flag token, settled] at finished
        obtain rfl := stopOfFlag_injective (Except.error.inj finished)
        exact ⟨items, word, rest, rfl, once, sound,
          (Token.ofBytes_eq_flag_iff _ _).mp token⟩
  · rintro ⟨items, word, rest, rfl, once, sound, asks⟩
    have assigned : ∃ assignments, AllAssign (items.map Item.entry) assignments := by
      rw [exists_allAssign_iff, List.forall_mem_map]
      exact sound
    obtain ⟨assignments, all⟩ := assigned
    refine (readArguments_items_iff clean rfl items _).mpr ⟨_, (settles_iff rfl items _).mpr
      ⟨once, by simp [Progress.start], assignments, all, rfl⟩, ?_⟩
    rw [readArguments_flag ((Token.ofBytes_eq_flag_iff _ _).mpr asks)]
    rfl

theorem readConfig_eq_flag_iff (program : Bytes) (arguments : List Bytes)
    (environment : Environment) (flag : Flag) :
    readConfig (program :: arguments) environment = .error (stopOfFlag flag) ↔
      LeadTo arguments flag := by
  rw [← readArguments_eq_flag_iff]
  constructor
  · intro read
    rw [readConfig_cons] at read
    cases found : readArguments .start arguments with
    | error stop =>
        rw [found] at read
        rw [Except.error.inj read]
    | ok progress =>
        rw [found, Except.bind] at read
        cases opened : readVariables environment progress.used Setting.all with
        | ok others =>
            rw [opened] at read
            cases read
        | error stop =>
            -- What the environment is blamed for is never a flag.
            obtain ⟨setting, value, fault, _, _, rfl⟩ := readVariables_eq_error opened
            rw [opened] at read
            cases flag <;> cases read
  · intro read
    rw [readConfig_cons, read]
    rfl

/-- Reading never gets past a word that asks for a flag, whatever stands before it. -/
theorem exists_stop_of_asksFor {flag : Flag} {word : Bytes} (asks : AsksFor flag word)
    (front : List Bytes) (progress : Progress) :
    ∃ stop, ∀ rest, readArguments progress (front ++ word :: rest) = .error stop := by
  have token := (Token.ofBytes_eq_flag_iff _ _).mpr asks
  induction front generalizing progress with
  | nil =>
      simp only [List.nil_append, readArguments_flag token]
      cases progress.settle with
      | error stop => exact ⟨stop, fun _ => rfl⟩
      | ok settled => exact ⟨_, fun _ => rfl⟩
  | cons argument front ih =>
      simp only [List.cons_append]
      cases first : Token.ofBytes argument with
      | setting chosen value =>
          cases value with
          | none =>
              simp only [readArguments_apart first]
              cases progress.settle with
              | error stop => exact ⟨stop, fun _ => rfl⟩
              | ok settled => exact ih _
          | some value =>
              simp only [readArguments_joined first]
              cases progress.settle with
              | error stop => exact ⟨stop, fun _ => rfl⟩
              | ok settled =>
                  simp only [Except.bind]
                  cases settled.settleWith chosen (some value) with
                  | error stop => exact ⟨stop, fun _ => rfl⟩
                  | ok next => exact ih next
      | plain =>
          by_cases awaiting : ∃ chosen, progress.pending = some ⟨chosen, none⟩
          · obtain ⟨chosen, pending⟩ := awaiting
            simp only [readArguments_awaited first _ _ pending]
            exact ih _
          · exact ⟨_, fun rest => readArguments_stray first progress _ (not_exists.mp awaiting)⟩
      | escape =>
          -- The word stands behind the dashes, so there is a stray argument.
          cases front with
          | nil => exact ⟨_, readArguments_stray_behind first progress word⟩
          | cons stray front => exact ⟨_, fun _ => readArguments_stray_behind first progress stray _⟩
      | flag chosen value =>
          cases value with
          | none =>
              simp only [readArguments_flag first]
              cases progress.settle with
              | error stop => exact ⟨stop, fun _ => rfl⟩
              | ok settled => exact ⟨_, fun _ => rfl⟩
          | some value =>
              simp only [readArguments.eq_def, first]
              exact ⟨_, fun _ => rfl⟩
      | unknownLong name =>
          simp only [readArguments.eq_def, first]
          exact ⟨_, fun _ => rfl⟩
      | unknownShort text =>
          simp only [readArguments.eq_def, first]
          exact ⟨_, fun _ => rfl⟩

theorem readConfig_congr_behind {flag : Flag} {word : Bytes} (asks : AsksFor flag word)
    (program : Bytes) (front rest other : List Bytes) (environment otherEnvironment : Environment) :
    readConfig (program :: (front ++ word :: rest)) environment =
      readConfig (program :: (front ++ word :: other)) otherEnvironment := by
  obtain ⟨stop, stopped⟩ := exists_stop_of_asksFor asks front .start
  rw [readConfig_cons, readConfig_cons, stopped rest, stopped other]
  rfl

end UptimeGreeter.CommandLine
