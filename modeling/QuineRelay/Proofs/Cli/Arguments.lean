import QuineRelay.Cli.Options
import QuineRelay.Proofs.Results
import QuineRelay.Proofs.Text.Numeral

/-!
# Arguments that are read

An `-o` swallows the argument behind it, so only some arguments of a command stand alone.
When a command can read its arguments, it has taken every one that stands alone for an option
of its own, and of the options of one kind the last is in force.
-/

namespace QuineRelay.Cli

/-! ## Reading from left to right -/

/-- The arguments that are neither the value of an `-o` nor an `-o` that has one. -/
def standAlone : List Text → List Text
  | [] => []
  | [argument] => [argument]
  | argument :: next :: rest =>
    if argument = "-o" then standAlone rest else argument :: standAlone (next :: rest)

example : standAlone ["-o", "-o", "--all", "-o"] = (["--all", "-o"] : List Text) := rfl

section

variable {α β ε : Type} {withOutput : α → Text → α} {readOne : α → Text → Except ε α}
  {options options' : α} {arguments : List Text}

/-- What holds of the options before the first argument and is kept by every argument holds of
the options that are read. -/
theorem readArguments_induction {motive : List Text → α → Prop}
    (output : ∀ read options path, motive read options → motive read (withOutput options path))
    (one : ∀ read options argument options', readOne options argument = .ok options' →
      motive read options → motive (read ++ [argument]) options')
    (init : motive [] options)
    (h : readArguments withOutput readOne options arguments = .ok options') :
    motive (standAlone arguments) options' := by
  -- Arguments that were read before are added for the induction.
  have general : ∀ read options, motive read options →
      readArguments withOutput readOne options arguments = .ok options' →
      motive (read ++ standAlone arguments) options' := by
    clear init h
    induction arguments using standAlone.induct with
    | case1 =>
        intro read options hread h
        obtain rfl := Except.ok.inj h
        rwa [standAlone, List.append_nil]
    | case2 argument =>
        intro read options hread h
        exact one read options argument options' h hread
    | case3 next rest ih =>
        intro read options hread h
        rw [readArguments, if_pos rfl] at h
        rw [standAlone, if_pos rfl]
        exact ih read _ (output read options next hread) h
    | case4 argument next rest hne ih =>
        intro read options hread h
        rw [readArguments, if_neg hne] at h
        rw [standAlone, if_neg hne, List.append_cons]
        cases hone : readOne options argument with
        | error e =>
            rw [hone] at h
            cases h
        | ok after =>
            rw [hone] at h
            exact ih (read ++ [argument]) after (one read options argument after hone hread) h
  exact general [] options init h

/-- Each argument that stands alone is one that could be read. -/
theorem accepts_of_readArguments (Accepts : Text → Prop)
    (hone : ∀ options argument options', readOne options argument = .ok options' →
      Accepts argument)
    (h : readArguments withOutput readOne options arguments = .ok options') :
    ∀ argument ∈ standAlone arguments, Accepts argument := by
  apply readArguments_induction (motive := fun read _ => ∀ argument ∈ read, Accepts argument)
    _ _ _ h
  · intro read options path hread
    exact hread
  · intro read options argument options' hstep hread
    rw [List.forall_mem_append, List.forall_mem_singleton]
    exact ⟨hread, hone options argument options' hstep⟩
  · simp

/-- Where every argument sets `field` to its value, if it has one, the last value is in force. -/
theorem field_of_readArguments (field : α → β) (value? : Text → Option β)
    (houtput : ∀ options path, field (withOutput options path) = field options)
    (hone : ∀ options argument options', readOne options argument = .ok options' →
      field options' = (value? argument).getD (field options))
    (h : readArguments withOutput readOne options arguments = .ok options') :
    field options' = ((standAlone arguments).reverse.findSome? value?).getD (field options) := by
  apply readArguments_induction
    (motive := fun read current =>
      field current = (read.reverse.findSome? value?).getD (field options)) _ _ _ h
  · intro read current path hread
    rw [houtput, hread]
  · intro read current argument current' hstep hread
    rw [hone current argument current' hstep, hread, List.reverse_append, List.reverse_singleton,
      List.singleton_append, List.findSome?_cons]
    cases value? argument with
    | none => rfl
    | some value => rfl
  · rfl

end

/-! ## Options -/

/-- The options of a command that take no second argument: those without a value, and what the
others begin with. -/
structure OptionNames where
  flags : List Text
  openings : List Text

/-- Whether an argument is one of these options. -/
def OptionNames.Has (names : OptionNames) (argument : Text) : Prop :=
  argument ∈ names.flags ∨ ∃ opening ∈ names.openings, opening <+: argument

instance (names : OptionNames) (argument : Text) : Decidable (names.Has argument) :=
  inferInstanceAs (Decidable (_ ∨ _))

theorem OptionNames.has_append {names : OptionNames} {opening : Text}
    (h : opening ∈ names.openings) (value : Text) : names.Has (opening ++ value) :=
  .inr ⟨opening, h, List.prefix_append opening value⟩

/-- The last list of languages among the arguments that stand alone. -/
def lastLanguages? (arguments : List Text) : Option Text :=
  (standAlone arguments).reverse.findSome? (Text.afterOpening? "--langs=")

/-- The last count among the arguments that stand alone and begin with `opening`. -/
def lastCount? (opening : Text) (arguments : List Text) : Option Nat :=
  (standAlone arguments).reverse.findSome? fun argument =>
    (Text.afterOpening? opening argument).bind Text.word?

/-- An option of its own makes no difference to what is found. -/
theorem getD_findSome?_map_some {α β : Type} (value? : α → Option β) (members : List α) :
    (members.findSome? fun member => (value? member).map some).getD none
      = members.findSome? value? := by
  have hmap : (members.findSome? value?).map some
      = members.findSome? fun member => (value? member).map some := List.map_findSome?
  rw [← hmap]
  cases members.findSome? value? with
  | none => rfl
  | some value => rfl

/-- A reader that takes only these options, `-o` not among them, and keeps the list of a
`--langs=` in `languages`. -/
structure IsReader {α ε : Type} (withOutput : α → Text → α) (readOne : α → Text → Except ε α)
    (names : OptionNames) (languages : α → Option Text) : Prop where
  output_unknown : ¬ names.Has "-o"
  has_of_readOne : ∀ options argument options', readOne options argument = .ok options' →
    names.Has argument
  languages_withOutput : ∀ options path, languages (withOutput options path) = languages options
  languages_of_readOne : ∀ options argument options', readOne options argument = .ok options' →
    languages options'
      = ((Text.afterOpening? "--langs=" argument).map some).getD (languages options)

namespace IsReader

variable {α ε : Type} {withOutput : α → Text → α} {readOne : α → Text → Except ε α}
  {names : OptionNames} {languages : α → Option Text} {options options' : α}
  {arguments : List Text}

theorem has_of_readArguments (hreader : IsReader withOutput readOne names languages)
    (h : readArguments withOutput readOne options arguments = .ok options') :
    ∀ argument ∈ standAlone arguments, names.Has argument :=
  accepts_of_readArguments names.Has hreader.has_of_readOne h

theorem languages_of_readArguments (hreader : IsReader withOutput readOne names languages)
    (h : readArguments withOutput readOne options arguments = .ok options')
    (hnone : languages options = none) : languages options' = lastLanguages? arguments := by
  rw [lastLanguages?, ← getD_findSome?_map_some, ← hnone]
  exact field_of_readArguments languages _ hreader.languages_withOutput
    hreader.languages_of_readOne h

end IsReader

theorem number_eq_ok_iff {option value : Text} {n : Nat} :
    number option value = .ok n ↔ Text.word? value = some n := by
  rw [number]
  cases Text.word? value with
  | none => simp
  | some m => simp

namespace GenerateOptions

variable {options options' : GenerateOptions} {argument : Text} {arguments : List Text}

/-- The options of `generate`. -/
def names : OptionNames where
  flags := ["--all"]
  openings := ["--dir=", "--langs=", "--width=", "--max-size="]

/-- What the options that are read become with one more argument. -/
inductive Reads (options : GenerateOptions) : Text → GenerateOptions → Prop
  | all : Reads options "--all" { options with directory := some "." }
  | directory (directory : Text) :
      Reads options ("--dir=" ++ directory) { options with directory := some directory }
  | languages (languages : Text) :
      Reads options ("--langs=" ++ languages) { options with languages := some languages }
  | width (value : Text) (width : Nat) (count : Text.word? value = some width) :
      Reads options ("--width=" ++ value)
        { options with settings := { options.settings with lineWidth := width } }
  | sizeLimit (value : Text) (limit : Nat) (count : Text.word? value = some limit) :
      Reads options ("--max-size=" ++ value)
        { options with settings := { options.settings with sizeLimit := limit } }

theorem reads_of_readOne (h : options.readOne argument = .ok options') :
    Reads options argument options' := by
  rw [readOne] at h
  split at h
  · rename_i hall
    obtain rfl := Except.ok.inj h
    rw [hall]
    exact .all
  split at h
  · rename_i directory hdirectory
    obtain rfl := Except.ok.inj h
    obtain rfl := Text.afterOpening?_eq_some_iff.1 hdirectory
    exact .directory directory
  split at h
  · rename_i languages hlanguages
    obtain rfl := Except.ok.inj h
    obtain rfl := Text.afterOpening?_eq_some_iff.1 hlanguages
    exact .languages languages
  split at h
  · rename_i value hvalue
    obtain ⟨width, hwidth, rfl⟩ := map_eq_ok_iff.1 h
    obtain rfl := Text.afterOpening?_eq_some_iff.1 hvalue
    exact .width value width (number_eq_ok_iff.1 hwidth)
  split at h
  · rename_i value hvalue
    obtain ⟨limit, hlimit, rfl⟩ := map_eq_ok_iff.1 h
    obtain rfl := Text.afterOpening?_eq_some_iff.1 hvalue
    exact .sizeLimit value limit (number_eq_ok_iff.1 hlimit)
  · cases h

theorem Reads.has (h : Reads options argument options') : names.Has argument := by
  cases h with
  | all => exact .inl (by decide)
  | directory value => exact OptionNames.has_append (by decide) value
  | languages value => exact OptionNames.has_append (by decide) value
  | width value => exact OptionNames.has_append (by decide) value
  | sizeLimit value => exact OptionNames.has_append (by decide) value

theorem Reads.languages_eq (h : Reads options argument options') :
    options'.languages
      = ((Text.afterOpening? "--langs=" argument).map some).getD options.languages := by
  cases h with
  | all | directory value | languages value | width value | sizeLimit value => rfl

theorem Reads.lineWidth_eq (h : Reads options argument options') :
    options'.settings.lineWidth = ((Text.afterOpening? "--width=" argument).bind
      Text.word?).getD options.settings.lineWidth := by
  cases h with
  | all | directory value | languages value | sizeLimit value => rfl
  | width value width count =>
      rw [Text.afterOpening?_eq_some_iff.2 rfl, Option.bind_some, count]
      rfl

theorem Reads.sizeLimit_eq (h : Reads options argument options') :
    options'.settings.sizeLimit = ((Text.afterOpening? "--max-size=" argument).bind
      Text.word?).getD options.settings.sizeLimit := by
  cases h with
  | all | directory value | languages value | width value => rfl
  | sizeLimit value limit count =>
      rw [Text.afterOpening?_eq_some_iff.2 rfl, Option.bind_some, count]
      rfl

/-- What begins a count. -/
def countOpenings : List Text :=
  ["--width=", "--max-size="]

theorem Reads.isCount {opening value : Text} (hopening : opening ∈ countOpenings)
    (h : Reads options argument options') (hargument : argument = opening ++ value) :
    Text.IsCount value := by
  have hvalue := Text.afterOpening?_eq_some_iff.2 hargument
  rcases List.mem_cons.1 hopening with rfl | hopening
  · cases h with
    | all | directory | languages | sizeLimit => cases hvalue
    | width value' width count =>
        rw [List.append_cancel_left hargument] at count
        exact Text.isCount_of_word? count
  · obtain rfl := List.mem_singleton.1 hopening
    cases h with
    | all | directory | languages | width => cases hvalue
    | sizeLimit value' limit count =>
        rw [List.append_cancel_left hargument] at count
        exact Text.isCount_of_word? count

/-- The settings that the last counts among the arguments choose. -/
def lastSettings (arguments : List Text) : Settings where
  lineWidth := (lastCount? "--width=" arguments).getD ({} : Settings).lineWidth
  sizeLimit := (lastCount? "--max-size=" arguments).getD ({} : Settings).sizeLimit

theorem isReader : IsReader withOutput readOne names languages where
  output_unknown := by decide
  has_of_readOne := fun _ _ _ h => (reads_of_readOne h).has
  languages_withOutput := fun _ _ => rfl
  languages_of_readOne := fun _ _ _ h => (reads_of_readOne h).languages_eq

/-- Every count that stands alone is well-formed. -/
theorem isCount_of_readFrom {opening value : Text} (hopening : opening ∈ countOpenings)
    (h : readFrom {} arguments = .ok options) (hmem : opening ++ value ∈ standAlone arguments) :
    Text.IsCount value := by
  refine accepts_of_readArguments
    (fun argument => argument = opening ++ value → Text.IsCount value) ?_ h _ hmem rfl
  intro options argument options' hone
  exact (reads_of_readOne hone).isCount hopening

theorem settings_of_readFrom (h : readFrom {} arguments = .ok options) :
    options.settings = lastSettings arguments := by
  have hwidth : options.settings.lineWidth = (lastSettings arguments).lineWidth := by
    refine field_of_readArguments (fun options => options.settings.lineWidth) _ ?_ ?_ h
    · intro options path
      rfl
    · intro options argument options' hone
      exact (reads_of_readOne hone).lineWidth_eq
  have hlimit : options.settings.sizeLimit = (lastSettings arguments).sizeLimit := by
    refine field_of_readArguments (fun options => options.settings.sizeLimit) _ ?_ ?_ h
    · intro options path
      rfl
    · intro options argument options' hone
      exact (reads_of_readOne hone).sizeLimit_eq
  calc options.settings = ⟨options.settings.lineWidth, options.settings.sizeLimit⟩ := rfl
    _ = lastSettings arguments := by rw [hwidth, hlimit]

end GenerateOptions

namespace ReadmeOptions

variable {options options' : ReadmeOptions} {argument : Text}

/-- The options of `readme`. -/
def names : OptionNames where
  flags := ["--no-probe"]
  openings := ["--langs="]

/-- What the options that are read become with one more argument. -/
inductive Reads (options : ReadmeOptions) : Text → ReadmeOptions → Prop
  | languages (languages : Text) :
      Reads options ("--langs=" ++ languages) { options with languages := some languages }
  | withoutProbe : Reads options "--no-probe" { options with withoutProbe := true }

theorem reads_of_readOne (h : options.readOne argument = .ok options') :
    Reads options argument options' := by
  rw [readOne] at h
  split at h
  · rename_i languages hlanguages
    obtain rfl := Except.ok.inj h
    obtain rfl := Text.afterOpening?_eq_some_iff.1 hlanguages
    exact .languages languages
  split at h
  · rename_i hprobe
    obtain rfl := Except.ok.inj h
    rw [hprobe]
    exact .withoutProbe
  · cases h

theorem Reads.has (h : Reads options argument options') : names.Has argument := by
  cases h with
  | languages value => exact OptionNames.has_append (by decide) value
  | withoutProbe => exact .inl (by decide)

theorem Reads.languages_eq (h : Reads options argument options') :
    options'.languages
      = ((Text.afterOpening? "--langs=" argument).map some).getD options.languages := by
  cases h with
  | languages value | withoutProbe => rfl

theorem isReader : IsReader withOutput readOne names languages where
  output_unknown := by decide
  has_of_readOne := fun _ _ _ h => (reads_of_readOne h).has
  languages_withOutput := fun _ _ => rfl
  languages_of_readOne := fun _ _ _ h => (reads_of_readOne h).languages_eq

end ReadmeOptions

end QuineRelay.Cli
