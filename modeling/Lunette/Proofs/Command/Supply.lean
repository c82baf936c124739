import Lunette.Proofs.Command.Run
import Lunette.Proofs.Text.Utf8

/-!
# Three ways to supply a source text

A source text comes as an argument, from the file that an argument names, or from standard
input.  However it comes, the command ends with the same status, the same output and the same
report.  The log stands in front of the report and only if it is asked for.  It shows the path
of the file as it is, so a path that is not a single line spreads over lines of the log.
-/

namespace Lunette.Command

open Ast

theorem linesText_append (first second : List Text) :
    linesText (first ++ second) = linesText first ++ linesText second :=
  List.flatMap_append

/-- Cut at its line feeds, the text of lines is these lines, and nothing behind the last one. -/
theorem splitOn_linesText {lines : List Text} (whole : ∀ line ∈ lines, '\n' ∉ line) :
    (linesText lines).splitOn '\n' = lines ++ [[]] := by
  have joined : linesText lines = List.intercalate ['\n'] (lines ++ [[]]) := by
    induction lines with
    | nil => rfl
    | cons line rest inductionHypothesis =>
        have restEq := inductionHypothesis fun other member =>
          whole other (List.mem_cons_of_mem _ member)
        have notNil : rest ++ [[]] ≠ [] := List.append_ne_nil_of_right_ne_nil _ (by simp)
        rw [List.cons_append, List.intercalate_cons_of_ne_nil notNil, ← restEq]
        rfl
  rw [joined]
  apply List.splitOn_intercalate
  · intro line member
    rcases List.mem_append.mp member with isLine | isEnd
    · exact whole line isLine
    · rw [List.mem_singleton.mp isEnd]
      exact List.not_mem_nil
  · exact List.append_ne_nil_of_right_ne_nil _ (by simp)

/-! ## From the options to the text -/

/-- The text that the options supply: the source argument, what the file that it names holds,
or standard input. -/
inductive Obtains (files : FileReader) (input : List UInt8) (options : Options) :
    Text → Prop where
  | argument {s : Text} (sourceEq : options.source = some s) (isText : options.isText = true) :
      Obtains files input options s
  | file {path s : Text} (sourceEq : options.source = some path)
      (isPath : options.isText = false) (holds : FileHolds files path s) :
      Obtains files input options s
  | input {s : Text} (sourceEq : options.source = none)
      (decodeEq : Text.Utf8.decode input = .ok s) :
      Obtains files input options (Text.unifyLineEndings s)

/-- The path of the source file, if one is named, is a single line. -/
def PathInLine (options : Options) : Prop :=
  ∀ path, options.source = some path → options.isText = false → '\n' ∉ path

/-- Lines of the log: there are none unless the log is asked for, each says that it is one, and
each is a single line if the path of the source file is. -/
structure LogOf (options : Options) (lines : List Text) : Prop where
  quiet : options.verbose = false → lines = []
  debug : ∀ line ∈ lines, "DEBUG ".toList <+: line
  oneLine : PathInLine options → ∀ line ∈ lines, '\n' ∉ line

/-- The events name no other path than that of the source file. -/
def NamesSource (options : Options) (events : List Event) : Prop :=
  ∀ event ∈ events, ∀ path, event.path? = some path →
    options.source = some path ∧ options.isText = false

variable {files : FileReader} {input : List UInt8} {arguments : List Text} {options : Options}
  {request : Request} {s text : Text}

theorem mem_shown {events : List Event} {verbose : Bool} {line : Text}
    (member : line ∈ outcomeOf.shown verbose events) :
    ∃ event ∈ events, event.line = line := by
  unfold outcomeOf.shown at member
  split at member
  · exact List.mem_map.mp member
  · cases member

theorem NamesSource.logOf {events : List Event} (names : NamesSource options events) :
    LogOf options (outcomeOf.shown options.verbose events) where
  quiet isQuiet := by rw [outcomeOf.shown, isQuiet, if_neg Bool.false_ne_true]
  debug line member := by
    obtain ⟨event, -, rfl⟩ := mem_shown member
    exact event.debug_prefix_line
  oneLine pathOneLine line member := by
    obtain ⟨event, isLogged, rfl⟩ := mem_shown member
    refine Event.newline_notMem_line fun path pathEq => ?_
    obtain ⟨sourceEq, isPath⟩ := names event isLogged path pathEq
    exact pathOneLine path sourceEq isPath

theorem NamesSource.append {first second : List Event} (names : NamesSource options first)
    (noPath : ∀ event ∈ second, event.path? = none) : NamesSource options (first ++ second) := by
  intro event member path pathEq
  rcases List.mem_append.mp member with inFirst | inSecond
  · exact names event inFirst path pathEq
  · rw [noPath event inSecond] at pathEq
    cases pathEq

theorem run_of_isText (isFormat : request.format ∈ formats) (isText : request.isText = true) :
    (run files request).run [] = (showSource request request.source).run [] := by
  have isKnown : formats.contains request.format = true := List.contains_iff_mem.mpr isFormat
  simp only [run, isKnown, isText]
  rfl

theorem run_of_file (isFormat : request.format ∈ formats) (isPath : request.isText = false) :
    (run files request).run [] =
      (readSource files request.source >>= showSource request).run [] := by
  have isKnown : formats.contains request.format = true := List.contains_iff_mem.mpr isFormat
  simp only [run, isKnown, isPath]
  rfl

/-- Where a text is supplied, the run goes on to show it. -/
theorem Obtains.exists_run (obtains : Obtains files input options s)
    (isFormat : options.format ∈ formats) :
    ∃ request events, options.request input = .ok request ∧
      request.showTokens = options.showTokens ∧ request.format = options.format ∧
      NamesSource options events ∧
      (run files request).run [] = (showSource request s).run events := by
  cases obtains with
  | argument sourceEq isText =>
      refine ⟨⟨s, options.isText, options.showTokens, options.format⟩, [], ?_, rfl, rfl,
        List.forall_mem_nil _, run_of_isText isFormat isText⟩
      simp only [Options.request, sourceEq]
  | @file path s sourceEq isPath holds =>
      refine ⟨⟨path, options.isText, options.showTokens, options.format⟩, [.reading path], ?_,
        rfl, rfl, ?_, ?_⟩
      · simp only [Options.request, sourceEq]
      · rintro event member other otherEq
        cases List.mem_singleton.mp member
        cases otherEq
        exact ⟨sourceEq, isPath⟩
      · rw [run_of_file isFormat isPath, EStateM.run_bind, holds.run]
  | @input s sourceEq decodeEq =>
      refine ⟨⟨Text.unifyLineEndings s, true, options.showTokens, options.format⟩, [], ?_, rfl,
        rfl, List.forall_mem_nil _, run_of_isText isFormat rfl⟩
      simp only [Options.request, sourceEq, decodeEq]
      rfl

/-! ## How the command ends -/

theorem execute_of_request (accepted : Options.ofArguments arguments = .ok options)
    (requestEq : options.request input = .ok request) :
    execute files input arguments =
      .ok (outcomeOf options.verbose ((run files request).run [])) := by
  simp only [execute, accepted, requestEq]
  rfl

namespace Obtains

variable (accepted : Options.ofArguments arguments = .ok options)
  (obtains : Obtains files input options s) (isFormat : options.format ∈ formats)

include accepted obtains isFormat

/-- A text that can be shown is shown, with status 0. -/
theorem execute_of_shows (shows : Shows options.showTokens options.format s text) :
    ∃ lines, LogOf options lines ∧
      execute files input arguments = .ok ⟨0, linesText [text], linesText lines⟩ := by
  obtain ⟨request, events, requestEq, tokensEq, formatEq, names, runEq⟩ :=
    obtains.exists_run isFormat
  rw [← tokensEq, ← formatEq] at shows
  obtain ⟨more, shownEq, noPath⟩ := shows.exists_run events
  refine ⟨_, (names.append noPath).logOf, ?_⟩
  rw [execute_of_request accepted requestEq, runEq, shownEq]
  rfl

/-- A text that is turned down is reported, with status 1. -/
theorem execute_of_rejects {failure : Failure}
    (rejects : Rejects options.showTokens s failure) :
    ∃ lines, LogOf options lines ∧
      execute files input arguments =
        .ok ⟨1, [], linesText (lines ++ ["[error] >>> ".toList ++ failure.message])⟩ := by
  obtain ⟨request, events, requestEq, tokensEq, formatEq, names, runEq⟩ :=
    obtains.exists_run isFormat
  rw [← tokensEq] at rejects
  obtain ⟨more, rejectedEq, noPath⟩ := rejects.exists_run events
  refine ⟨_, (names.append noPath).logOf, ?_⟩
  rw [execute_of_request accepted requestEq, runEq, rejectedEq]
  rfl

end Obtains

/-- How the command ends on a text, but for the log.  The text is shown with status 0 exactly if
it can be scanned and, unless its tokens are wanted, read as a program.  Otherwise there is no
output, and one line says why. -/
structure Concludes (showTokens : Bool) (format s : Text) (outcome : Outcome) : Prop where
  status_eq_zero_iff : outcome.status = 0 ↔
    (∃ tokens, Token.scan s = .ok tokens) ∧
      (showTokens = false → ∃ answer, Program.ofSource s = .ok answer)
  shown : outcome.status = 0 →
    outcome.messages = [] ∧ ∃ text, Shows showTokens format s text ∧
      outcome.output = text ++ ['\n']
  rejected : outcome.status ≠ 0 →
    outcome.status = 1 ∧ outcome.output = [] ∧ ∃ failure, Rejects showTokens s failure ∧
      '\n' ∉ failure.message ∧
        outcome.messages = "[error] >>> ".toList ++ failure.message ++ ['\n']

variable {showTokens : Bool} {format : Text}

theorem Shows.concludes (shows : Shows showTokens format s text) :
    Concludes showTokens format s ⟨0, linesText [text], []⟩ where
  status_eq_zero_iff := by
    refine iff_of_true rfl ?_
    cases shows with
    | tokens wanted scanEq => exact ⟨⟨_, scanEq⟩, by simp [wanted]⟩
    | tree wanted _ readEq | json wanted _ readEq =>
        exact ⟨⟨_, (Program.ofSource_eq_ok_iff.mp readEq).1⟩, fun _ => ⟨_, readEq⟩⟩
  shown _ := ⟨rfl, text, shows, List.append_nil _⟩
  rejected notZero := absurd rfl notZero

theorem Rejects.concludes {failure : Failure} (rejects : Rejects showTokens s failure) :
    Concludes showTokens format s
      ⟨1, [], linesText ["[error] >>> ".toList ++ failure.message]⟩ where
  status_eq_zero_iff := by
    refine iff_of_false Nat.one_ne_zero ?_
    rintro ⟨⟨tokens, tokensEq⟩, reads⟩
    cases rejects with
    | scan scanEq =>
        rw [scanEq] at tokensEq
        cases tokensEq
    | parse wanted errorEq =>
        obtain ⟨answer, answerEq⟩ := reads wanted
        rw [errorEq] at answerEq
        cases answerEq
  shown isZero := absurd isZero Nat.one_ne_zero
  rejected _ := ⟨rfl, rfl, failure, rejects, rejects.newline_notMem_message, List.append_nil _⟩

/-- The text is what the options supply: as it is in an argument, or in UTF-8 in the file that
an argument names or on standard input. -/
inductive Supplies (files : FileReader) (input : List UInt8) (options : Options) (s : Text) :
    Prop where
  | argument (sourceEq : options.source = some s) (isText : options.isText = true)
  | file {path : Text} (sourceEq : options.source = some path)
      (isPath : options.isText = false) (named : IsSourcePath path) (noNull : '\x00' ∉ path)
      (readEq : files path = .ok (Text.Utf8.encode s))
  | input (sourceEq : options.source = none) (inputEq : input = Text.Utf8.encode s)

theorem Supplies.obtains (supplies : Supplies files input options s) (noReturn : '\r' ∉ s) :
    Obtains files input options s := by
  have unified := Text.unifyLineEndings_of_notMem noReturn
  have decoded := Text.Utf8.decode_encode s
  cases supplies with
  | argument sourceEq isText => exact .argument sourceEq isText
  | file sourceEq isPath named noNull readEq =>
      have holds : FileHolds files _ (Text.unifyLineEndings s) :=
        .of named noNull readEq decoded
      rw [unified] at holds
      exact .file sourceEq isPath holds
  | input sourceEq inputEq =>
      rw [← inputEq] at decoded
      have obtains : Obtains files input options (Text.unifyLineEndings s) :=
        .input sourceEq decoded
      rwa [unified] at obtains

/-- The command ends with this outcome where it ends with the other one without the log.  The log
only adds lines in front of the messages.  They are the lines of text that they look like if the
path of the source file is one: the log shows the path as it is. -/
structure Agrees (options : Options) (quiet outcome : Outcome) : Prop where
  status : outcome.status = quiet.status
  output : outcome.output = quiet.output
  /-- Without the log the messages are the same. -/
  messages : options.verbose = false → outcome.messages = quiet.messages
  logged : ∃ lines, outcome.messages = linesText lines ++ quiet.messages ∧
    (∀ line ∈ lines, "DEBUG ".toList <+: line) ∧
      (PathInLine options → ∀ line ∈ lines, '\n' ∉ line)

theorem LogOf.agrees {lines : List Text} (logs : LogOf options lines) (quiet : Outcome) :
    Agrees options quiet ⟨quiet.status, quiet.output, linesText lines ++ quiet.messages⟩ where
  status := rfl
  output := rfl
  messages isQuiet := by
    rw [logs.quiet isQuiet]
    rfl
  logged := ⟨lines, rfl, logs.debug, logs.oneLine⟩

/-- Without the log the command ends with this very outcome. -/
theorem execute_eq_of_agrees (options : Options) {quiet : Outcome}
    (isQuiet : options.verbose = false)
    (ends : ∃ outcome, execute files input arguments = .ok outcome ∧
      Agrees options quiet outcome) : execute files input arguments = .ok quiet := by
  obtain ⟨⟨status, output, messages⟩, executeEq, rfl, rfl, messagesEq, -⟩ := ends
  cases messagesEq isQuiet
  exact executeEq

/-- A text without carriage returns leads to one ending of the command, whichever way it is
supplied, but for the log. -/
theorem exists_concludes_of_supplies (s : Text) (noReturn : '\r' ∉ s) (showTokens : Bool)
    {format : Text} (isFormat : format = "tree".toList ∨ format = "json".toList) :
    ∃ quiet, Concludes showTokens format s quiet ∧
      ∀ files input arguments options, Options.ofArguments arguments = .ok options →
        options.showTokens = showTokens → options.format = format →
        Supplies files input options s →
          ∃ outcome, execute files input arguments = .ok outcome ∧
            Agrees options quiet outcome := by
  have isKnown := mem_formats_iff.mpr isFormat
  rcases exists_shows_or_rejects showTokens isKnown s with ⟨text, shows⟩ | ⟨failure, rejects⟩
  · refine ⟨_, shows.concludes, ?_⟩
    rintro files input arguments options accepted rfl rfl supplies
    obtain ⟨lines, logs, executeEq⟩ :=
      (supplies.obtains noReturn).execute_of_shows accepted isKnown shows
    refine ⟨_, ?_, logs.agrees _⟩
    rw [executeEq, List.append_nil]
  · refine ⟨_, rejects.concludes, ?_⟩
    rintro files input arguments options accepted rfl rfl supplies
    obtain ⟨lines, logs, executeEq⟩ :=
      (supplies.obtains noReturn).execute_of_rejects accepted isKnown rejects
    refine ⟨_, ?_, logs.agrees _⟩
    rw [executeEq, linesText_append]

/-- A call whose argument is missing. -/
def brokenCall : Text := "f(;".toList

/-- A declaration. -/
def declared : Text := "local x;".toList

/-- A text that is turned down is so from an argument, from a file and from standard input.  A
text that is a program is shown as a tree and as JSON, also with a log. -/
theorem exists_concludes_thrice :
    ∃ rejected tree json, Concludes false "tree".toList brokenCall rejected ∧
      Concludes false "tree".toList declared tree ∧
      Concludes false "json".toList declared json ∧
      (execute (fun _ => .error .noSuchFile) [] ["-s".toList, brokenCall] = .ok rejected ∧
        execute (fun _ => .ok (Text.Utf8.encode brokenCall)) [] ["a.lua".toList] = .ok rejected ∧
        execute (fun _ => .error .noSuchFile) (Text.Utf8.encode brokenCall) [] = .ok rejected ∧
        rejected.status = 1) ∧
      (execute (fun _ => .error .noSuchFile) [] ["-s".toList, declared] = .ok tree ∧
        tree.output =
          "root\n  block\n    varstat\n      term Token(IDENTIFIER, 'x')\n".toList) ∧
      execute (fun _ => .error .noSuchFile) (Text.Utf8.encode declared) ["-fjson".toList] =
        .ok json ∧
      json.output = (Tree.branch .root [.branch .block [.branch .declaration
        [.leaf ⟨.identifier, ['x'], ⟨6, 1, 7⟩⟩]]]).toJson.toText ++ ['\n'] ∧
      ∃ outcome, execute (fun _ => .ok (Text.Utf8.encode declared)) []
          ["-vfjson".toList, "a.lua".toList] = .ok outcome ∧ Agrees
            { source := some "a.lua".toList, format := "json".toList, verbose := true }
            json outcome := by
  have named : IsSourcePath "a.lua".toList := ⟨".lua".toList, by decide, by decide⟩
  obtain ⟨rejected, rejectedConcludes, rejectedAgrees⟩ :=
    exists_concludes_of_supplies brokenCall (by decide) false (.inl rfl)
  obtain ⟨tree, treeConcludes, treeAgrees⟩ :=
    exists_concludes_of_supplies declared (by decide) false (.inl rfl)
  obtain ⟨json, jsonConcludes, jsonAgrees⟩ :=
    exists_concludes_of_supplies declared (by decide) false (.inr rfl)
  have rejectedEq : execute (fun _ => .error .noSuchFile) [] ["-s".toList, brokenCall] =
      .ok rejected :=
    execute_eq_of_agrees { source := some brokenCall, isText := true } rfl
      (rejectedAgrees _ _ _ _ (by decide +kernel) rfl rfl (.argument rfl rfl))
  have treeEq : execute (fun _ => .error .noSuchFile) [] ["-s".toList, declared] = .ok tree :=
    execute_eq_of_agrees { source := some declared, isText := true } rfl
      (treeAgrees _ _ _ _ (by decide +kernel) rfl rfl (.argument rfl rfl))
  have jsonEq : execute (fun _ => .error .noSuchFile) (Text.Utf8.encode declared)
      ["-fjson".toList] = .ok json :=
    execute_eq_of_agrees { format := "json".toList } rfl
      (jsonAgrees _ _ _ _ (by decide +kernel) rfl rfl (.input rfl rfl))
  have statusEq : (execute (fun _ => .error .noSuchFile) [] ["-s".toList, brokenCall]).map
      Outcome.status = .ok 1 := by decide +kernel
  have treeShown : (execute (fun _ => .error .noSuchFile) [] ["-s".toList, declared]).map
      Outcome.output = .ok
        "root\n  block\n    varstat\n      term Token(IDENTIFIER, 'x')\n".toList := by
    decide +kernel
  have jsonShown : (execute (fun _ => .error .noSuchFile) (Text.Utf8.encode declared)
      ["-fjson".toList]).map Outcome.output = .ok ((Tree.branch .root [.branch .block
        [.branch .declaration [.leaf ⟨.identifier, ['x'], ⟨6, 1, 7⟩⟩]]]).toJson.toText ++
          ['\n']) := by
    decide +kernel
  rw [rejectedEq] at statusEq
  rw [treeEq] at treeShown
  rw [jsonEq] at jsonShown
  refine ⟨rejected, tree, json, rejectedConcludes, treeConcludes, jsonConcludes,
    ⟨rejectedEq, ?file, ?input, Except.ok.inj statusEq⟩, ⟨treeEq, Except.ok.inj treeShown⟩,
    jsonEq, Except.ok.inj jsonShown, ?logged⟩
  case file =>
    exact execute_eq_of_agrees { source := some "a.lua".toList } rfl
      (rejectedAgrees _ _ _ _ (by decide +kernel) rfl rfl (.file rfl rfl named (by decide) rfl))
  case input =>
    exact execute_eq_of_agrees {} rfl
      (rejectedAgrees _ _ _ _ (by decide +kernel) rfl rfl (.input rfl rfl))
  case logged =>
    exact jsonAgrees _ _ _ _ (by decide +kernel) rfl rfl (.file rfl rfl named (by decide) rfl)

/-! ## A path that is not a single line -/

/-- The path of a source file that looks like a report from its second line on. -/
def brokenPath : Text := "x\n[error] >>> y.lua".toList

/-- The log shows the path as it is.  Where that is not a single line, not every line of the log
says that it is one, and one may look like a report although the program is shown. -/
theorem execute_brokenPath_looks_rejected :
    Options.ofArguments ["-v".toList, brokenPath] =
        .ok { source := some brokenPath, verbose := true } ∧
      Supplies (fun _ => .ok []) [] { source := some brokenPath, verbose := true } [] ∧
      ∃ outcome, execute (fun _ => .ok []) [] ["-v".toList, brokenPath] = .ok outcome ∧
        outcome.status = 0 ∧
        "[error] >>> y.lua".toList ∈ outcome.messages.splitOn '\n' ∧
        ¬ ∃ lines, outcome.messages = linesText lines ∧
          ∀ line ∈ lines, "DEBUG ".toList <+: line ∧ '\n' ∉ line := by
  have named : IsSourcePath brokenPath := ⟨".lua".toList, by decide, by decide⟩
  have executeEq : execute (fun _ => .ok []) [] ["-v".toList, brokenPath] =
      .ok ⟨0, linesText ["root".toList, "  block".toList], linesText
        ["DEBUG klua: reading x".toList, "[error] >>> y.lua".toList,
         "DEBUG klua.klua_lexer: scanned 1 tokens from 0 characters".toList,
         "DEBUG klua.klua_parser: parsing 1 tokens".toList,
         "DEBUG klua.klua_parser: parsed 0 top-level statements".toList]⟩ := by
    decide +kernel
  refine ⟨by decide +kernel, .file rfl rfl named (by decide) rfl, _, executeEq, rfl, ?_, ?_⟩
  · rw [splitOn_linesText (by decide)]
    decide
  · rintro ⟨lines, messagesEq, areLogged⟩
    have linesEq := congrArg (List.splitOn '\n') messagesEq
    rw [splitOn_linesText (by decide), splitOn_linesText fun line member =>
      (areLogged line member).2, List.append_cancel_right_eq] at linesEq
    have isLogged := areLogged "[error] >>> y.lua".toList (linesEq ▸ by decide)
    exact absurd isLogged.1 (by decide)

end Lunette.Command
