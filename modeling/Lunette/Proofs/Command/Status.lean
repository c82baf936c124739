import Lunette.Proofs.Command.Options
import Lunette.Proofs.Command.Supply

/-!
# The exit status

When its arguments are accepted the command ends with status 0, 1 or 2: 1 for a text that is
turned down, and 2 for a form, a path or a file that is faulty.  One thing escapes it.  Standard
input is read before anything that could fail is watched, so bytes there that are no text leave
the command without an outcome, where the same bytes in a file are an error like any other.
-/

namespace Lunette.Command

/-- What is wrong with the form or the file that the options name. -/
inductive Faulty (files : FileReader) (options : Options) : RunError → Prop where
  | format (unknown : options.format ∉ formats) :
      Faulty files options (.unknownFormat options.format)
  | file {path : Text} {error : RunError} (sourceEq : options.source = some path)
      (isPath : options.isText = false) (faulty : FileFaulty files path error) :
      Faulty files options error

variable {files : FileReader} {input : List UInt8} {arguments : List Text} {options : Options}
  {request : Request} {error : RunError} {s : Text}

theorem FileFaulty.status_and_line {path : Text} (faulty : FileFaulty files path error) :
    error.status = 2 ∧ error.line = "[error] ".toList ++ error.message ∧ '\n' ∉ error.message := by
  cases faulty with
  | suffix unnamed => exact ⟨rfl, rfl, by decide⟩
  | null held => exact ⟨rfl, rfl, by decide⟩
  | file readEq => exact ⟨rfl, rfl, FileFault.newline_notMem_message _ _⟩
  | undecodable readEq decodeEq => exact ⟨rfl, rfl, Text.Utf8.Fault.newline_notMem_message _⟩

theorem Faulty.status_and_line (faulty : Faulty files options error) (formed : options.Formed) :
    error.status = 2 ∧ error.line = "[error] ".toList ++ error.message ∧ '\n' ∉ error.message := by
  cases faulty with
  | format unknown =>
      refine ⟨rfl, rfl, ?_⟩
      have formatEq := formed.resolve_left unknown
      change '\n' ∉ "Unknown output format: ".toList ++ options.format
      rw [formatEq]
      decide
  | file sourceEq isPath faulty => exact faulty.status_and_line

theorem request_of_source {source : Text} (sourceEq : options.source = some source) :
    options.request input =
      .ok ⟨source, options.isText, options.showTokens, options.format⟩ := by
  simp only [Options.request, sourceEq]

theorem run_of_unknown (unknown : request.format ∉ formats) :
    (run files request).run [] = .error (.unknownFormat request.format) [] := by
  have notKnown : formats.contains request.format = false := by
    simpa using unknown
  simp only [run, notKnown]
  rfl

theorem request_eq_error_iff {fault : Text.Utf8.Fault} :
    options.request input = .error fault ↔
      options.source = none ∧ Text.Utf8.decode input = .error fault := by
  cases sourceEq : options.source with
  | some source => simp [request_of_source sourceEq]
  | none =>
      simp only [Options.request, sourceEq, true_and]
      cases Text.Utf8.decode input <;> simp [bind, Except.bind, pure, Except.pure]

theorem format_of_request (requestEq : options.request input = .ok request) :
    request.format = options.format := by
  cases sourceEq : options.source with
  | some source =>
      rw [request_of_source sourceEq] at requestEq
      cases requestEq
      rfl
  | none =>
      simp only [Options.request, sourceEq] at requestEq
      cases decodeEq : Text.Utf8.decode input with
      | error fault =>
          rw [decodeEq] at requestEq
          cases requestEq
      | ok s =>
          rw [decodeEq] at requestEq
          cases requestEq
          rfl

/-- A request for something faulty fails for something that is. -/
theorem Faulty.exists_run (faulty : Faulty files options error)
    (requestEq : options.request input = .ok request) :
    ∃ found events, Faulty files options found ∧ NamesSource options events ∧
      (run files request).run [] = .error found events := by
  by_cases isFormat : options.format ∈ formats
  · cases faulty with
    | format unknown => exact absurd isFormat unknown
    | @file path _ sourceEq isPath faulty =>
        rw [request_of_source sourceEq] at requestEq
        cases requestEq
        rcases fileHolds_or_run files path with ⟨s, holds⟩ | ⟨found, events, spoils, readEq, reads⟩
        · exact absurd faulty holds.not_fileFaulty
        · refine ⟨found, events, .file sourceEq isPath spoils, ?_, ?_⟩
          · rintro event member other otherEq
            cases reads event member
            cases otherEq
            exact ⟨sourceEq, isPath⟩
          · rw [run_of_file isFormat isPath, EStateM.run_bind, readEq]
  · refine ⟨_, [], .format isFormat, List.forall_mem_nil _, ?_⟩
    rw [← format_of_request requestEq] at isFormat ⊢
    exact run_of_unknown isFormat

/-- Options lead to a text, or name something faulty, or leave standard input to be read where
it holds no text. -/
theorem obtains_or_faulty (files : FileReader) (input : List UInt8) (options : Options) :
    (∃ s, Obtains files input options s) ∨ (∃ error, Faulty files options error) ∨
      options.source = none ∧ ∃ fault, Text.Utf8.decode input = .error fault := by
  cases sourceEq : options.source with
  | none =>
      cases decodeEq : Text.Utf8.decode input with
      | error fault => exact .inr (.inr ⟨rfl, fault, rfl⟩)
      | ok s => exact .inl ⟨_, .input sourceEq decodeEq⟩
  | some source =>
      cases isTextEq : options.isText with
      | true => exact .inl ⟨source, .argument sourceEq isTextEq⟩
      | false =>
          rcases fileHolds_or_run files source with ⟨s, holds⟩ | ⟨error, events, faulty, -⟩
          · exact .inl ⟨s, .file sourceEq isTextEq holds⟩
          · exact .inr (.inl ⟨error, .file sourceEq isTextEq faulty⟩)

/-! ## Endings -/

/-- The ways in which the command ends on accepted options. -/
inductive Ends (files : FileReader) (input : List UInt8) (options : Options) : Outcome → Prop where
  | shown {s text : Text} {lines : List Text} (obtains : Obtains files input options s)
      (isFormat : options.format ∈ formats)
      (shows : Shows options.showTokens options.format s text) (logs : LogOf options lines) :
      Ends files input options ⟨0, linesText [text], linesText lines⟩
  | rejected {s : Text} {failure : Failure} {lines : List Text}
      (obtains : Obtains files input options s) (isFormat : options.format ∈ formats)
      (rejects : Rejects options.showTokens s failure) (logs : LogOf options lines) :
      Ends files input options
        ⟨1, [], linesText (lines ++ ["[error] >>> ".toList ++ failure.message])⟩
  | faulty {error : RunError} {lines : List Text} (faulty : Faulty files options error)
      (logs : LogOf options lines) :
      Ends files input options ⟨2, [], linesText (lines ++ ["[error] ".toList ++ error.message])⟩

section

variable (accepted : Options.ofArguments arguments = .ok options)

include accepted

theorem execute_eq_error_iff {fault : Text.Utf8.Fault} :
    execute files input arguments = .error fault ↔
      options.source = none ∧ Text.Utf8.decode input = .error fault := by
  rw [← request_eq_error_iff]
  simp only [execute, accepted]
  cases options.request input <;> simp [bind, Except.bind, pure, Except.pure]

theorem Faulty.execute (faulty : Faulty files options error)
    (requestEq : options.request input = .ok request) :
    ∃ found lines, Faulty files options found ∧ LogOf options lines ∧
      execute files input arguments =
        .ok ⟨2, [], linesText (lines ++ ["[error] ".toList ++ found.message])⟩ := by
  obtain ⟨found, events, isFaulty, names, runEq⟩ := faulty.exists_run requestEq
  have formed := Options.formed_of_ofArguments accepted
  obtain ⟨statusEq, lineEq, -⟩ := isFaulty.status_and_line formed
  refine ⟨found, _, isFaulty, names.logOf, ?_⟩
  rw [execute_of_request accepted requestEq, runEq, outcomeOf, statusEq, lineEq]

/-- Where standard input does not get in the way, the command ends. -/
theorem exists_ends (requestEq : options.request input = .ok request) :
    ∃ outcome, Ends files input options outcome ∧
      execute files input arguments = .ok outcome := by
  by_cases isFaulty : ∃ error, Faulty files options error
  · obtain ⟨error, faulty⟩ := isFaulty
    obtain ⟨found, lines, isFaulty, logs, executeEq⟩ := faulty.execute accepted requestEq
    exact ⟨_, .faulty isFaulty logs, executeEq⟩
  · have isFormat : options.format ∈ formats :=
      Decidable.byContradiction fun unknown => isFaulty ⟨_, .format unknown⟩
    rcases obtains_or_faulty files input options with
      ⟨s, obtains⟩ | faulty | ⟨sourceEq, fault, decodeEq⟩
    · rcases exists_shows_or_rejects options.showTokens isFormat s with
        ⟨text, shows⟩ | ⟨failure, rejects⟩
      · obtain ⟨lines, logs, executeEq⟩ := obtains.execute_of_shows accepted isFormat shows
        exact ⟨_, .shown obtains isFormat shows logs, executeEq⟩
      · obtain ⟨lines, logs, executeEq⟩ := obtains.execute_of_rejects accepted isFormat rejects
        exact ⟨_, .rejected obtains isFormat rejects logs, executeEq⟩
    · exact absurd faulty isFaulty
    · rw [request_eq_error_iff.mpr ⟨sourceEq, decodeEq⟩] at requestEq
      cases requestEq

theorem exists_request {outcome : Outcome}
    (executeEq : execute files input arguments = .ok outcome) :
    ∃ request, options.request input = .ok request := by
  cases requestEq : options.request input with
  | ok request => exact ⟨request, rfl⟩
  | error fault =>
      have escapes : execute files input arguments = .error fault :=
        (execute_eq_error_iff accepted).mpr (request_eq_error_iff.mp requestEq)
      rw [executeEq] at escapes
      cases escapes

theorem ends_of_execute {outcome : Outcome}
    (executeEq : execute files input arguments = .ok outcome) :
    Ends files input options outcome := by
  obtain ⟨request, requestEq⟩ := exists_request accepted executeEq
  obtain ⟨found, ends, foundEq⟩ : ∃ found, Ends files input options found ∧
      execute files input arguments = .ok found := exists_ends accepted requestEq
  cases executeEq.symm.trans foundEq
  exact ends

/-- Status 1 is for texts that are turned down. -/
theorem status_eq_one_iff {outcome : Outcome}
    (executeEq : execute files input arguments = .ok outcome) :
    outcome.status = 1 ↔ options.format ∈ formats ∧ ∃ s, Obtains files input options s ∧
      ∃ failure, Rejects options.showTokens s failure := by
  constructor
  · intro isOne
    cases ends_of_execute accepted executeEq with
    | shown => cases isOne
    | rejected obtains isFormat rejects => exact ⟨isFormat, _, obtains, _, rejects⟩
    | faulty => cases isOne
  · rintro ⟨isFormat, s, obtains, failure, rejects⟩
    obtain ⟨lines, -, rejectedEq⟩ := obtains.execute_of_rejects accepted isFormat rejects
    cases executeEq.symm.trans rejectedEq
    rfl

/-- Status 2 is for what is faulty besides. -/
theorem status_eq_two_iff {outcome : Outcome}
    (executeEq : execute files input arguments = .ok outcome) :
    outcome.status = 2 ↔ ∃ error, Faulty files options error := by
  constructor
  · intro isTwo
    cases ends_of_execute accepted executeEq with
    | shown => cases isTwo
    | rejected => cases isTwo
    | faulty isFaulty => exact ⟨_, isFaulty⟩
  · rintro ⟨error, isFaulty⟩
    obtain ⟨request, requestEq⟩ := exists_request accepted executeEq
    obtain ⟨found, lines, -, -, faultyEq⟩ := isFaulty.execute accepted requestEq
    cases executeEq.symm.trans faultyEq
    rfl

/-- Where the status is not 0 there is no output, and one line behind the log says why. -/
theorem exists_report {outcome : Outcome}
    (executeEq : execute files input arguments = .ok outcome) (notZero : outcome.status ≠ 0) :
    outcome.output = [] ∧ ∃ lines reason, LogOf options lines ∧ '\n' ∉ reason ∧
      outcome.messages = linesText (lines ++ ["[error] ".toList ++ reason]) := by
  cases ends_of_execute accepted executeEq with
  | shown => exact absurd rfl notZero
  | @rejected s failure lines _ _ rejects logs =>
      refine ⟨rfl, lines, ">>> ".toList ++ failure.message, logs, ?_, rfl⟩
      exact List.not_mem_append (by decide) rejects.newline_notMem_message
  | @faulty error lines isFaulty logs =>
      have formed := Options.formed_of_ofArguments accepted
      exact ⟨rfl, lines, error.message, logs, (isFaulty.status_and_line formed).2.2, rfl⟩

end

/-- What the status of a command says.  The command has no outcome exactly if standard input is
to be read and holds no text.  Every outcome has status 0, 1 or 2; status 1 tells that a text is
turned down and status 2 that the form or the file is faulty.  Either comes with no output and
with one line of report behind the log. -/
structure Reports (files : FileReader) (input : List UInt8) (options : Options)
    (answer : Except Text.Utf8.Fault Outcome) : Prop where
  escapes : ∀ fault, answer = .error fault ↔
    options.source = none ∧ Text.Utf8.decode input = .error fault
  status : ∀ outcome, answer = .ok outcome →
    outcome.status = 0 ∨ outcome.status = 1 ∨ outcome.status = 2
  rejected : ∀ outcome, answer = .ok outcome → (outcome.status = 1 ↔
    options.format ∈ formats ∧ ∃ s, Obtains files input options s ∧
      ∃ failure, Rejects options.showTokens s failure)
  faulty : ∀ outcome, answer = .ok outcome →
    (outcome.status = 2 ↔ ∃ error, Faulty files options error)
  report : ∀ outcome, answer = .ok outcome → outcome.status ≠ 0 →
    outcome.output = [] ∧ ∃ lines reason, LogOf options lines ∧ '\n' ∉ reason ∧
      outcome.messages = linesText (lines ++ ["[error] ".toList ++ reason])

/-- On accepted arguments the status says what has come of the source. -/
theorem reports_of_accepted (files : FileReader) (input : List UInt8) {arguments : List Text}
    {options : Options} (accepted : Options.ofArguments arguments = .ok options) :
    Reports files input options (execute files input arguments) := by
  refine ⟨fun fault => execute_eq_error_iff accepted, fun outcome executeEq => ?_,
    fun outcome => status_eq_one_iff accepted, fun outcome => status_eq_two_iff accepted,
    fun outcome => exists_report accepted⟩
  cases ends_of_execute accepted executeEq with
  | shown => exact .inl rfl
  | rejected => exact .inr (.inl rfl)
  | faulty => exact .inr (.inr rfl)

/-- The same byte that is no text ends the command with status 2 where it comes from a file. -/
theorem reports_of_undecodable :
    Options.ofArguments ["a.lua".toList] = .ok { source := some "a.lua".toList } ∧
      Reports (fun _ => .ok [0xff]) [] { source := some "a.lua".toList }
        (execute (fun _ => .ok [0xff]) [] ["a.lua".toList]) := by
  have accepted : Options.ofArguments ["a.lua".toList] =
      .ok { source := some "a.lua".toList } := by decide +kernel
  exact ⟨accepted, reports_of_accepted _ _ accepted⟩

/-- A byte that is no text is an error of status 2 in a file.  On standard input the same byte
leaves the command without an outcome, although its arguments are accepted. -/
theorem execute_escapes_input :
    execute (fun _ => .ok [0xff]) [] ["a.lua".toList] =
        .ok ⟨2, [], linesText ["[error] 'utf-8' codec can't decode byte 0xff".toList ++
          " in position 0: invalid start byte".toList]⟩ ∧
      Options.ofArguments [] = .ok {} ∧
      ¬ ∃ outcome, execute (fun _ => .ok [0xff]) [0xff] [] = .ok outcome := by
  have escapes : execute (fun _ => .ok [0xff]) [0xff] [] =
      .error ⟨0xff, 0, 1, .invalidStart⟩ := by decide +kernel
  refine ⟨by decide +kernel, by decide +kernel, ?_⟩
  rintro ⟨outcome, executeEq⟩
  rw [escapes] at executeEq
  cases executeEq

end Lunette.Command
