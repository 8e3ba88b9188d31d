import UptimeGreeter.Proofs.CommandLine.Acceptance

/-!
A line is refused only for a value that does not read, on the line or in the variable of a setting
that it leaves open, and that value is the one complained about.
-/

namespace UptimeGreeter.CommandLine

theorem Progress.settleWith_eq_error {progress : Progress} {chosen : Setting} {value : Bytes}
    {stop : Stop} (unused : chosen ∉ progress.used)
    (stopped : progress.settleWith chosen (some value) = .error stop) :
    ∃ fault, Assignment.ofBytes chosen value = .error fault ∧ stop = .badValue chosen fault := by
  simp only [settleWith, unused, if_false] at stopped
  cases read : Assignment.ofBytes chosen value with
  | error fault =>
      rw [read] at stopped
      exact ⟨fault, rfl, (Except.error.inj stopped).symm⟩
  | ok assignment =>
      rw [read] at stopped
      cases stopped

namespace Line

def closing (line : Line) : List Bytes :=
  if line.closed then [Utf8.encode "--"] else []

theorem settlesFirst_closing (line : Line) : SettlesFirst line.closing := by
  unfold closing
  split
  · exact settlesFirst_of_eq_settle (readArguments_escape ((Token.ofBytes_eq_escape_iff _).mpr rfl))
  · exact settlesFirst_of_eq_settle readArguments_nil

end Line

theorem settlesFirst_items (items : List Item) {rest : List Bytes} (first : SettlesFirst rest) :
    SettlesFirst (items.flatMap Item.arguments ++ rest) := by
  cases items with
  | nil => exact first
  | cons item items =>
      rw [List.flatMap_cons, List.append_assoc]
      exact item.settlesFirst _

theorem blamed_of_readArguments_error (line : Line) (items : List Item)
    (once : (items.map Item.setting).Nodup) {progress : Progress}
    (settled : progress.pending = none) (unused : ∀ item ∈ items, item.setting ∉ progress.used)
    {stop : Stop}
    (stopped : readArguments progress (items.flatMap Item.arguments ++ line.closing) =
      .error stop) :
    ∃ item ∈ items, ∃ fault, Assignment.ofBytes item.setting item.value = .error fault ∧
      stop = .badValue item.setting fault := by
  induction items generalizing progress with
  | nil =>
      have read := readArguments_closing line settled
      rw [← Line.closing] at read
      rw [List.flatMap_nil, List.nil_append, read] at stopped
      cases stopped
  | cons item items ih =>
      rw [List.map_cons, List.nodup_cons] at once
      rw [List.forall_mem_cons] at unused
      rw [List.flatMap_cons, List.append_assoc, readArguments_item settled item
        (settlesFirst_items items line.settlesFirst_closing)] at stopped
      cases first : progress.settleWith item.setting (some item.value) with
      | error other =>
          rw [first] at stopped
          obtain rfl := Except.error.inj stopped
          obtain ⟨fault, bad, same⟩ := Progress.settleWith_eq_error unused.1 first
          exact ⟨item, List.mem_cons_self, fault, bad, same⟩
      | ok next =>
          rw [first] at stopped
          obtain ⟨_, assignment, _, rfl⟩ := (Progress.settleWith_eq_ok_iff _ _ _ _).mp first
          have later : ∀ other ∈ items, other.setting ∉ progress.used ++ [item.setting] := by
            intro other member
            rw [List.mem_append, List.mem_singleton, not_or]
            refine ⟨unused.2 other member, ?_⟩
            intro same
            exact once.1 (List.mem_map.mpr ⟨other, member, same⟩)
          obtain ⟨found, member, blamed⟩ := ih once.2 rfl later stopped
          exact ⟨found, List.mem_cons_of_mem _ member, blamed⟩

theorem Line.source_of_mem {line : Line} {item : Item} (member : item ∈ line.items)
    (environment : Environment) : line.source environment item.setting = some item.value := by
  have once : ((line.items.map Item.entry).map Prod.fst).Nodup := by
    rw [List.map_map]
    exact line.once
  have written : line.written item.setting = some item.value :=
    (lookup_eq_some_iff_mem once _ _).mpr (List.mem_map.mpr ⟨item, member, rfl⟩)
  rw [source, written, Option.some_or]

theorem Line.blamed_of_readConfig_error {program : Bytes} {line : Line} {environment : Environment}
    {stop : Stop} (stopped : readConfig (program :: line.arguments) environment = .error stop) :
    ∃ setting value fault, line.source environment setting = some value ∧
      Assignment.ofBytes setting value = .error fault ∧ stop = .badValue setting fault := by
  rw [readConfig_cons] at stopped
  cases read : readArguments .start line.arguments with
  | error other =>
      rw [read] at stopped
      obtain rfl := Except.error.inj stopped
      obtain ⟨item, member, fault, bad, rfl⟩ :=
        blamed_of_readArguments_error line line.items line.once rfl (by simp [Progress.start]) read
      exact ⟨item.setting, item.value, fault, source_of_mem member environment, bad, rfl⟩
  | ok progress =>
      obtain ⟨given, _, rfl⟩ := (readArguments_line_iff line progress).mp read
      rw [read, Except.bind] at stopped
      cases opened : readVariables environment line.settings Setting.all with
      | ok others =>
          rw [opened] at stopped
          cases stopped
      | error other =>
          rw [opened] at stopped
          obtain rfl := Except.error.inj stopped
          obtain ⟨setting, value, fault, member, bad, rfl⟩ := readVariables_eq_error opened
          obtain ⟨unused, found⟩ := (mem_openEntries_iff _ _ _ _).mp member
          refine ⟨setting, value, fault, ?_, bad, rfl⟩
          rw [source, (line.written_eq_none_iff setting).mpr unused, Option.none_or, found]

end UptimeGreeter.CommandLine
