import Lunette.Proofs.Command.Report

/-!
# What a run does

A run first takes its source text from the request or from a file, and then shows the tokens or
the tree of the text, or turns it down.  What a text comes to depends on the text, on what is
shown and on the form of a tree, and not on where the text is from.
-/

namespace Lunette.Command

open Ast

/-! ## The log -/

/-- The path that an event names. -/
def Event.path? : Event → Option Text
  | .reading path => some path
  | _ => none

/-- Every line of the log says that it is one. -/
theorem Event.debug_prefix_line (event : Event) : "DEBUG ".toList <+: event.line := by
  have reads : "DEBUG ".toList <+: "DEBUG klua: reading ".toList := by decide
  have scans : "DEBUG ".toList <+: "DEBUG klua.klua_lexer: scanned ".toList := by decide
  have parses : "DEBUG ".toList <+: "DEBUG klua.klua_parser: parsing ".toList := by decide
  have parsed : "DEBUG ".toList <+: "DEBUG klua.klua_parser: parsed ".toList := by decide
  have goesOn {s : Text} (t : Text) (starts : "DEBUG ".toList <+: s) :
      "DEBUG ".toList <+: s ++ t := starts.trans (List.prefix_append s t)
  cases event with
  | reading path => exact goesOn _ reads
  | scanned tokens characters => exact goesOn _ (goesOn _ (goesOn _ (goesOn _ scans)))
  | parsing tokens => exact goesOn _ (goesOn _ parses)
  | parsed statements => exact goesOn _ (goesOn _ parsed)

/-- A line of the log is a single line unless it shows a path that is none. -/
theorem Event.newline_notMem_line {event : Event}
    (oneLine : ∀ path, event.path? = some path → '\n' ∉ path) : '\n' ∉ event.line := by
  cases event with
  | reading path => exact List.not_mem_append (by decide) (oneLine path rfl)
  | scanned tokens characters =>
      refine List.not_mem_append (List.not_mem_append (List.not_mem_append (List.not_mem_append
        ?_ (Text.newline_notMem_ofNat _)) ?_) (Text.newline_notMem_ofNat _)) ?_ <;> decide
  | parsing tokens =>
      refine List.not_mem_append (List.not_mem_append ?_ (Text.newline_notMem_ofNat _)) ?_ <;>
        decide
  | parsed statements =>
      refine List.not_mem_append (List.not_mem_append ?_ (Text.newline_notMem_ofNat _)) ?_ <;>
        decide

/-! ## What a text comes to -/

/-- How a text is shown: by its tokens, one a line, or by the tree of its program, in the form
that is asked for.  The text of a tree starts at level 0; the other form is JSON. -/
inductive Shows (showTokens : Bool) (format s : Text) : Text → Prop where
  | tokens {tokens : List Token} (wanted : showTokens = true)
      (scanEq : Token.scan s = .ok tokens) :
      Shows showTokens format s (Text.joinLines (tokens.map Token.shown))
  | tree {tokens : List Token} {program : Program} (wanted : showTokens = false)
      (isTree : format = "tree".toList) (readEq : Program.ofSource s = .ok (tokens, program)) :
      Shows showTokens format s (program.tree.dump 0)
  | json {tokens : List Token} {program : Program} (wanted : showTokens = false)
      (isJson : format = "json".toList) (readEq : Program.ofSource s = .ok (tokens, program)) :
      Shows showTokens format s program.tree.toJson.toText

theorem mem_formats_iff {format : Text} :
    format ∈ formats ↔ format = "tree".toList ∨ format = "json".toList := by
  simp [formats]

/-- A tree is shown in each of the forms that there are. -/
theorem exists_shows_of_ofSource {showTokens : Bool} {format s : Text} {tokens : List Token}
    {program : Program} (isFormat : format ∈ formats) (wanted : showTokens = false)
    (readEq : Program.ofSource s = .ok (tokens, program)) :
    ∃ text, Shows showTokens format s text := by
  rcases mem_formats_iff.mp isFormat with isTree | isJson
  · exact ⟨_, .tree wanted isTree readEq⟩
  · exact ⟨_, .json wanted isJson readEq⟩

/-- Why a text is turned down.  Where its tokens are shown they need not be a program. -/
inductive Rejects (showTokens : Bool) (s : Text) : Failure → Prop where
  | scan {error : ScanError} (scanEq : Token.scan s = .error error) :
      Rejects showTokens s (.scan error)
  | parse {error : ParseError} (wanted : showTokens = false)
      (readEq : Program.ofSource s = .error (.parse error)) :
      Rejects showTokens s (.parse error)

theorem exists_shows_or_rejects (showTokens : Bool) {format : Text}
    (isFormat : format ∈ formats) (s : Text) :
    (∃ text, Shows showTokens format s text) ∨ ∃ failure, Rejects showTokens s failure := by
  cases scanEq : Token.scan s with
  | error error => exact .inr ⟨_, .scan scanEq⟩
  | ok tokens =>
      cases showTokens with
      | true => exact .inl ⟨_, .tokens rfl scanEq⟩
      | false =>
          have sourceEq := Program.ofSource_of_scan_ok scanEq
          rcases Program.ofTokens_of_scan scanEq with ⟨program, readEq⟩ | ⟨error, readEq, -⟩
          · rw [readEq] at sourceEq
            exact .inl (exists_shows_of_ofSource isFormat rfl sourceEq)
          · rw [readEq] at sourceEq
            exact .inr ⟨_, .parse rfl sourceEq⟩

/-- Why a text is turned down is told in a single line. -/
theorem Rejects.newline_notMem_message {showTokens : Bool} {s : Text} {failure : Failure}
    (rejects : Rejects showTokens s failure) : '\n' ∉ failure.message := by
  cases rejects with
  | scan scanEq => exact Diagnostic.newline_notMem_message (ScanError.newline_notMem_text _)
  | @parse error _ readEq =>
      obtain ⟨tokens, scanEq, readEq⟩ := Program.ofSource_eq_parse_iff.mp readEq
      rcases Program.ofTokens_of_scan scanEq with ⟨program, okEq⟩ | ⟨other, errorEq, serves⟩
      · rw [okEq] at readEq
        cases readEq
      · rw [errorEq] at readEq
        cases readEq
        exact Diagnostic.newline_notMem_message serves.newline_notMem_text

variable {request : Request} {s : Text}

/-- A tree that can be shown is shown in its form. -/
theorem exists_run_showSource {tokens : List Token} {program : Program}
    (wanted : request.showTokens = false) (readEq : Program.ofSource s = .ok (tokens, program))
    (events : List Event) :
    ∃ more, (showSource request s).run events =
        .ok (showTree request.format program) (events ++ more) ∧
      ∀ event ∈ more, event.path? = none := by
  obtain ⟨scanEq, readEq⟩ := Program.ofSource_eq_ok_iff.mp readEq
  refine ⟨[.scanned tokens.length s.length, .parsing tokens.length,
    .parsed program.block.length], ?_, by simp [Event.path?]⟩
  simp only [showSource, scanEq, wanted, readEq, Bool.false_eq_true, if_false]
  change EStateM.Result.ok _ (events ++ [_] ++ [_] ++ [_]) = _
  rw [List.append_assoc, List.append_assoc]
  rfl

theorem Shows.exists_run {text : Text} (shows : Shows request.showTokens request.format s text)
    (events : List Event) :
    ∃ more, (showSource request s).run events = .ok text (events ++ more) ∧
      ∀ event ∈ more, event.path? = none := by
  cases shows with
  | @tokens tokens wanted scanEq =>
      refine ⟨[.scanned tokens.length s.length], ?_, by simp [Event.path?]⟩
      simp only [showSource, scanEq, wanted, if_true]
      rfl
  | @tree _ program wanted isTree readEq =>
      have shownEq : showTree request.format program = program.tree.dump 0 := by
        rw [showTree, isTree, if_neg (by decide)]
      rw [← shownEq]
      exact exists_run_showSource wanted readEq events
  | @json _ program wanted isJson readEq =>
      have shownEq : showTree request.format program = program.tree.toJson.toText :=
        if_pos isJson
      rw [← shownEq]
      exact exists_run_showSource wanted readEq events

theorem Rejects.exists_run {failure : Failure} (rejects : Rejects request.showTokens s failure)
    (events : List Event) :
    ∃ more, (showSource request s).run events = .error (.failure failure) (events ++ more) ∧
      ∀ event ∈ more, event.path? = none := by
  cases rejects with
  | scan scanEq =>
      refine ⟨[], ?_, List.forall_mem_nil _⟩
      simp only [showSource, scanEq, List.append_nil]
      rfl
  | @parse error wanted readEq =>
      obtain ⟨tokens, scanEq, readEq⟩ := Program.ofSource_eq_parse_iff.mp readEq
      refine ⟨[.scanned tokens.length s.length, .parsing tokens.length], ?_,
        by simp [Event.path?]⟩
      simp only [showSource, scanEq, wanted, readEq, Bool.false_eq_true, if_false]
      change EStateM.Result.error _ (events ++ [_] ++ [_]) = _
      rw [List.append_assoc]
      rfl

/-! ## Where a text is from -/

/-- A path is named as a source file. -/
def IsSourcePath (path : Text) : Prop :=
  ∃ suffix ∈ suffixes, suffix <:+ path

/-- The file at a path holds the text. -/
inductive FileHolds (files : FileReader) (path : Text) : Text → Prop where
  | of {bytes : List UInt8} {s : Text} (named : IsSourcePath path) (noNull : '\x00' ∉ path)
      (readEq : files path = .ok bytes) (decodeEq : Text.Utf8.decode bytes = .ok s) :
      FileHolds files path (Text.unifyLineEndings s)

/-- What is wrong with a path or with the file there. -/
inductive FileFaulty (files : FileReader) (path : Text) : RunError → Prop where
  | suffix (unnamed : ¬ IsSourcePath path) : FileFaulty files path .unsupportedSuffix
  | null (held : '\x00' ∈ path) : FileFaulty files path .embeddedNull
  | file {fault : FileFault} (readEq : files path = .error fault) :
      FileFaulty files path (.file fault path)
  | undecodable {bytes : List UInt8} {fault : Text.Utf8.Fault} (readEq : files path = .ok bytes)
      (decodeEq : Text.Utf8.decode bytes = .error fault) :
      FileFaulty files path (.undecodable fault)

variable {files : FileReader} {path : Text}

theorem FileHolds.not_fileFaulty {error : RunError} (holds : FileHolds files path s) :
    ¬ FileFaulty files path error := by
  obtain ⟨named, noNull, readEq, decodeEq⟩ := holds
  intro faulty
  cases faulty with
  | suffix unnamed => exact unnamed named
  | null held => exact noNull held
  | file faultEq => simp [readEq] at faultEq
  | undecodable otherEq faultEq =>
      cases readEq.symm.trans otherEq
      simp [decodeEq] at faultEq

theorem any_isSuffixOf_iff : suffixes.any (·.isSuffixOf path) = true ↔ IsSourcePath path := by
  simp [IsSourcePath]

theorem FileHolds.run (holds : FileHolds files path s) :
    (readSource files path).run [] = .ok s [.reading path] := by
  obtain ⟨named, noNull, readEq, decodeEq⟩ := holds
  have isNamed := any_isSuffixOf_iff.mpr named
  have notHeld : path.contains '\x00' = false := by simpa using noNull
  simp only [readSource, isNamed, notHeld, readEq, decodeEq]
  rfl

/-- A path leads to a text, or reading fails for something that is wrong. -/
theorem fileHolds_or_run (files : FileReader) (path : Text) :
    (∃ s, FileHolds files path s) ∨
      ∃ error log, FileFaulty files path error ∧
        (readSource files path).run [] = .error error log ∧
          ∀ event ∈ log, event = .reading path := by
  by_cases named : IsSourcePath path
  · have isNamed := any_isSuffixOf_iff.mpr named
    by_cases held : '\x00' ∈ path
    · have isHeld : path.contains '\x00' = true := by simpa using held
      refine .inr ⟨_, [.reading path], .null held, ?_, by simp⟩
      simp only [readSource, isNamed, isHeld]
      rfl
    · have notHeld : path.contains '\x00' = false := by simpa using held
      cases readEq : files path with
      | error fault =>
          refine .inr ⟨_, [.reading path], .file readEq, ?_, by simp⟩
          simp only [readSource, isNamed, notHeld, readEq]
          rfl
      | ok bytes =>
          cases decodeEq : Text.Utf8.decode bytes with
          | error fault =>
              refine .inr ⟨_, [.reading path], .undecodable readEq decodeEq, ?_, by simp⟩
              simp only [readSource, isNamed, notHeld, readEq, decodeEq]
              rfl
          | ok s => exact .inl ⟨_, .of named held readEq decodeEq⟩
  · have notNamed : suffixes.any (·.isSuffixOf path) = false :=
      Bool.eq_false_iff.mpr fun isNamed => named (any_isSuffixOf_iff.mp isNamed)
    refine .inr ⟨_, [], .suffix named, ?_, List.forall_mem_nil _⟩
    simp only [readSource, notNamed]
    rfl

end Lunette.Command
