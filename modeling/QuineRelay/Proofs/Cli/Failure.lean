import QuineRelay.Cli.Commands
import QuineRelay.Proofs.Cli.Arguments

/-!
# Commands that fail

A command that cannot be carried out leaves everything as it was. All arguments are read, and
the relay is composed, before the first file is written, so a fault anywhere among the
arguments keeps every other argument from having an effect.
-/

namespace QuineRelay.Cli

/-! ## Faults -/

/-- What is wrong with the arguments of a command that takes a list of languages. -/
inductive Fault (names : OptionNames) (arguments : List Text) : Prop
  /-- An argument is no option of the command. -/
  | unknown (argument : Text) (stands : argument ∈ standAlone arguments)
      (unknown : ¬ names.Has argument)
  /-- The arguments end with an `-o` that has nothing to take. -/
  | withoutValue (stands : ("-o" : Text) ∈ standAlone arguments)
  /-- The last list of languages is no route. -/
  | languages (list : Text) (e : CompositionError) (last : lastLanguages? arguments = some list)
      (rejected : Route.ofNameList (some list) = .error e)

/-- What is wrong with the arguments of `generate`. -/
inductive GenerateFault (arguments : List Text) : Prop
  | common (fault : Fault GenerateOptions.names arguments)
  /-- A count is malformed or too large. -/
  | count (opening value : Text) (counts : opening ∈ GenerateOptions.countOpenings)
      (stands : opening ++ value ∈ standAlone arguments) (malformed : ¬ Text.IsCount value)
  /-- The route that is chosen has no relay with the settings that are chosen. -/
  | composition (route : Route) (e : CompositionError)
      (chosen : Route.ofNameList (lastLanguages? arguments) = .ok route)
      (failure : Relay.compose (GenerateOptions.lastSettings arguments) route = .error e)

variable {names : OptionNames} {files : Files} {arguments : List Text}

/-- Where all arguments are read, only the list of languages can be at fault. -/
theorem Fault.exists_error {α ε : Type} {withOutput : α → Text → α}
    {readOne : α → Text → Except ε α} {languages : α → Option Text} {options options' : α}
    (h : Fault names arguments) (hreader : IsReader withOutput readOne names languages)
    (hread : readArguments withOutput readOne options arguments = .ok options')
    (hnone : languages options = none) : ∃ e, Route.ofNameList (languages options') = .error e := by
  cases h with
  | unknown argument stands unknown =>
      exact absurd (hreader.has_of_readArguments hread argument stands) unknown
  | withoutValue stands =>
      exact absurd (hreader.has_of_readArguments hread "-o" stands) hreader.output_unknown
  | languages list e last rejected =>
      rw [hreader.languages_of_readArguments hread hnone, last]
      exact ⟨e, rejected⟩

/-- Where `generate` can read its arguments, composing the relay fails. -/
theorem GenerateFault.exists_error {options : GenerateOptions} (h : GenerateFault arguments)
    (hread : GenerateOptions.readFrom {} arguments = .ok options) :
    ∃ e, composeRoute options.languages options.settings = .error e := by
  cases h with
  | common fault =>
      obtain ⟨e, he⟩ := fault.exists_error GenerateOptions.isReader hread rfl
      rw [composeRoute, he]
      exact ⟨e, rfl⟩
  | count opening value counts stands malformed =>
      exact absurd (GenerateOptions.isCount_of_readFrom counts hread stands) malformed
  | composition route e chosen failure =>
      rw [composeRoute, GenerateOptions.isReader.languages_of_readArguments hread rfl, chosen,
        GenerateOptions.settings_of_readFrom hread]
      exact ⟨e, failure⟩

/-! ## What a failed command does -/

/-- A failure that prints nothing to the output and leaves the files as they were. -/
structure FailsQuietly (files : Files) (outcome : Outcome) : Prop where
  exit_eq : outcome.exit = 1
  stdout_eq : outcome.stdout = []
  files_eq : outcome.files = files

theorem failsQuietly_failing (files : Files) (stderr : Text) :
    FailsQuietly files (.failing files stderr) :=
  ⟨rfl, rfl, rfl⟩

theorem GenerateFault.failsQuietly (h : GenerateFault arguments) (host : Host) (files : Files) :
    FailsQuietly files (run host files ("generate" :: arguments)) := by
  rw [run, if_pos rfl]
  cases hread : GenerateOptions.readFrom {} arguments with
  | error e => exact failsQuietly_failing files e.message
  | ok options =>
      obtain ⟨e, he⟩ := h.exists_error hread
      show FailsQuietly files (generate options files)
      rw [generate, he]
      exact failsQuietly_failing files _

theorem Fault.failsQuietly_readme (h : Fault ReadmeOptions.names arguments) (host : Host)
    (files : Files) : FailsQuietly files (run host files ("readme" :: arguments)) := by
  rw [run, if_neg (by decide), if_neg (by decide), if_pos rfl]
  cases hread : ReadmeOptions.readFrom {} arguments with
  | error e => exact failsQuietly_failing files e.message
  | ok options =>
      obtain ⟨e, he⟩ := h.exists_error ReadmeOptions.isReader hread rfl
      show FailsQuietly files (readme host options files)
      rw [readme, he]
      exact failsQuietly_failing files _

/-- A command with a fault among its arguments, or without a relay to generate, fails, prints
nothing to its output and changes no file. -/
theorem faulty_command_changes_nothing (host : Host) (files : Files) (arguments : List Text) :
    (GenerateFault arguments → FailsQuietly files (run host files ("generate" :: arguments))) ∧
    (Fault ReadmeOptions.names arguments →
      FailsQuietly files (run host files ("readme" :: arguments))) := by
  constructor
  · intro h
    exact h.failsQuietly host files
  · intro h
    exact h.failsQuietly_readme host files

/-- A host without toolchains. -/
def bareHost : Host where
  shell files _ _ := { status := .code 127, stdout := [], stderr := [], files }
  packageTool _ _ := none
  elapsed _ := "0s"
  draw snippet := snippet.headline

/-- A count without digits between options that would write files, a limit that no origin keeps,
and an `-o` that has swallowed the one before the last. -/
theorem faulty_command_changes_nothing_bareHost :
    FailsQuietly Files.empty
        (run bareHost Files.empty ["generate", "--all", "-o", "QR.rb", "--width=+", "--dir=out"]) ∧
      FailsQuietly Files.empty
        (run bareHost Files.empty ["generate", "--langs=c", "--dir=out", "--max-size=1"]) ∧
      FailsQuietly Files.empty
        (run bareHost Files.empty ["readme", "-o", "-o", "--no-probe", "-o"]) := by
  refine ⟨?_, ?_, ?_⟩
  · apply (faulty_command_changes_nothing bareHost Files.empty _).1
    refine .count "--width=" "+" (by decide) (by decide) ?_
    rw [← Text.isSome_word?_iff]
    decide
  · apply (faulty_command_changes_nothing bareHost Files.empty _).1
    have hchosen : Route.ofNameList (lastLanguages? ["--langs=c", "--dir=out", "--max-size=1"])
        = .ok ⟨[Language.c], by decide⟩ := by
      rfl
    have hfails : (Relay.compose
        (GenerateOptions.lastSettings ["--langs=c", "--dir=out", "--max-size=1"])
        ⟨[Language.c], by decide⟩).isOk = false := by
      decide +kernel
    obtain ⟨e, he⟩ := exists_error_of_isOk hfails
    exact .composition _ e hchosen he
  · apply (faulty_command_changes_nothing bareHost Files.empty _).2
    exact .withoutValue (by decide)

end QuineRelay.Cli
