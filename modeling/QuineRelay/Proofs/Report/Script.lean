import Mathlib.Algebra.Ring.Nat
import Mathlib.Data.List.Nodup
import QuineRelay.Report.Script
import QuineRelay.Route

/-!
# A script closes the ring

The commands of a script, performed in order over the files that they read and write. What a
command does is left open, apart from two things: one that is not redirected leaves the files
of the stages alone, and the last one of a stage, when it finds the source of its stage, writes
the source of the next stage to its target. A script has one command for each step, so commands
are told apart by their numbers; two commands of the same text may do different things.

The copy of the origin is written like the file of one more stage. With it among the files the
invariant is the same before every stage: all files up to that of the stage hold their sources.
-/

namespace QuineRelay.Report

/-- What the files hold, by their names. -/
abbrev Contents := Text → Option Bytes

/-- What the command of a number and a text makes of the files. -/
abbrev Effect := Nat → Text → Contents → Contents

/-- The files after all `commands`, the first of which has the given number. -/
def perform (effect : Effect) (number : Nat) (contents : Contents) : List Text → Contents
  | [] => contents
  | command :: rest => perform effect (number + 1) (effect number command contents) rest

/-- The file of a stage. After the last stage there is the copy of the origin. -/
def stageFile (toolchains : List Toolchain) (stage : Nat) : Text :=
  (toolchains[stage]?.map Toolchain.file).getD finalFile

/-- Number of the first command of a stage: there is one command for each earlier step. -/
def firstCommand (toolchains : List Toolchain) (stage : Nat) : Nat :=
  ((toolchains.take stage).map fun toolchain => toolchain.steps.length).sum

/-- The command of a step whose output goes to a file. -/
def redirected (step : Step) (file target : Text) : Text :=
  step.commandFor file ++ " > " ++ target

/-- Toolchains that can pass the origin around: no file is written by two stages, and every
stage ends with a step that prints. -/
structure IsRing (toolchains : List Toolchain) : Prop where
  nodup : (toolchains.map Toolchain.file).Nodup
  finalFile_notMem : finalFile ∉ toolchains.map Toolchain.file
  run_last : ∀ toolchain ∈ toolchains, ∃ step, toolchain.steps.getLast? = some step ∧
    step.kind = .run

/-- What is known of the commands: which of them leave the files of the ring alone, and what
the others write when they find the source of their stage. -/
structure PassesOn (effect : Effect) (toolchains : List Toolchain) (sources : Nat → Bytes) :
    Prop where
  keeps : ∀ stage toolchain, toolchains[stage]? = some toolchain →
    ∀ j step, toolchain.steps.dropLast[j]? = some step →
    ∀ contents, ∀ name ∈ finalFile :: toolchains.map Toolchain.file,
      effect (firstCommand toolchains stage + j) (step.commandFor toolchain.file) contents name
        = contents name
  writes : ∀ stage toolchain, toolchains[stage]? = some toolchain →
    ∀ step, toolchain.steps.getLast? = some step →
    ∀ contents, contents toolchain.file = some (sources stage) →
      effect (firstCommand toolchains stage + (toolchain.steps.length - 1))
          (redirected step toolchain.file (stageFile toolchains (stage + 1))) contents
          (stageFile toolchains (stage + 1))
        = some (sources ((stage + 1) % toolchains.length))
  keeps_others : ∀ stage toolchain, toolchains[stage]? = some toolchain →
    ∀ step, toolchain.steps.getLast? = some step →
    ∀ contents, contents toolchain.file = some (sources stage) →
    ∀ other ∈ toolchains, other.file ≠ stageFile toolchains (stage + 1) →
      effect (firstCommand toolchains stage + (toolchain.steps.length - 1))
          (redirected step toolchain.file (stageFile toolchains (stage + 1))) contents other.file
        = contents other.file

variable {effect : Effect} {toolchains : List Toolchain} {sources : Nat → Bytes}
  {contents : Contents} {toolchain : Toolchain} {stage : Nat}

/-! ## Commands by their numbers -/

theorem length_stageCommands (file target : Text) (steps : List Step) :
    (stageCommands file target steps).length = steps.length := by
  fun_induction stageCommands file target steps with
  | case1 => rfl
  | case2 step => rfl
  | case3 step => rfl
  | case4 step rest hrest ih => rw [List.length_cons, List.length_cons, ih]

theorem length_commands (toolchains : List Toolchain) :
    (commands toolchains).length
      = (toolchains.map fun toolchain => toolchain.steps.length).sum := by
  induction toolchains with
  | nil => rfl
  | cons toolchain rest ih =>
      rw [commands, List.length_append, length_stageCommands, ih, List.map_cons, List.sum_cons]

/-- Only the last command of a stage is redirected. -/
theorem stageCommands_concat {step : Step} (hrun : step.kind = .run) (file target : Text)
    (front : List Step) :
    stageCommands file target (front ++ [step])
      = front.map (fun earlier => earlier.commandFor file) ++ [redirected step file target] := by
  induction front with
  | nil => simp only [List.nil_append, stageCommands, hrun, redirected, List.map_nil]
  | cons earlier front ih =>
      obtain ⟨next, rest, hnext⟩ := List.exists_cons_of_ne_nil
        (List.append_ne_nil_of_right_ne_nil front (List.cons_ne_nil step []))
      rw [List.map_cons, List.cons_append, List.cons_append, ← ih, hnext]
      rfl

theorem drop_commands (toolchains : List Toolchain) (stage : Nat) :
    (commands toolchains).drop (firstCommand toolchains stage)
      = commands (toolchains.drop stage) := by
  induction toolchains generalizing stage with
  | nil => rw [firstCommand, List.take_nil, List.drop_nil, List.map_nil, List.sum_nil]; rfl
  | cons toolchain rest ih =>
      cases stage with
      | zero => rfl
      | succ stage =>
          have hfirst : firstCommand (toolchain :: rest) (stage + 1)
              = toolchain.steps.length + firstCommand rest stage := by
            rw [firstCommand, List.take_succ_cons, List.map_cons, List.sum_cons, firstCommand]
          rw [commands, hfirst, ← List.drop_drop, List.drop_left' (length_stageCommands _ _ _), ih,
            List.drop_succ_cons]

theorem firstCommand_succ (h : toolchains[stage]? = some toolchain) :
    firstCommand toolchains (stage + 1)
      = firstCommand toolchains stage + toolchain.steps.length := by
  rw [firstCommand, List.take_add_one, h, Option.toList_some, List.map_append, List.sum_append]
  simp [firstCommand]

/-- The commands of a stage are those of its steps, the last of them redirected to the file of
the next stage. -/
theorem commands_of_stage (hring : IsRing toolchains) (h : toolchains[stage]? = some toolchain) :
    ∃ step, toolchain.steps.getLast? = some step ∧
      ((commands toolchains).drop (firstCommand toolchains stage)).take toolchain.steps.length
        = toolchain.steps.dropLast.map (fun earlier => earlier.commandFor toolchain.file)
          ++ [redirected step toolchain.file (stageFile toolchains (stage + 1))] := by
  obtain ⟨step, hstep, hrun⟩ := hring.run_last toolchain (List.mem_of_getElem? h)
  refine ⟨step, hstep, ?_⟩
  obtain ⟨hlt, hget⟩ := List.getElem?_eq_some_iff.1 h
  have htarget : (((toolchains.drop (stage + 1)).head?.map Toolchain.file).getD finalFile)
      = stageFile toolchains (stage + 1) := by
    rw [List.head?_drop, stageFile]
  rw [drop_commands, List.drop_eq_getElem_cons hlt, hget, commands, htarget,
    List.take_left' (length_stageCommands _ _ _)]
  conv_lhs => rw [← List.dropLast_append_getLast? step hstep]
  exact stageCommands_concat hrun _ _ _

/-! ## Performing commands -/

theorem perform_append (effect : Effect) (number : Nat) (contents : Contents)
    (front back : List Text) :
    perform effect number contents (front ++ back)
      = perform effect (number + front.length) (perform effect number contents front) back := by
  induction front generalizing number contents with
  | nil => rfl
  | cons command front ih =>
      rw [List.cons_append, perform, ih, perform, List.length_cons]
      congr 1
      omega

/-- A file that no command changes holds what it held before. -/
theorem perform_eq_of_keeps {number : Nat} {commands : List Text} {name : Text}
    (h : ∀ j command, commands[j]? = some command →
      ∀ contents, effect (number + j) command contents name = contents name) :
    perform effect number contents commands name = contents name := by
  induction commands generalizing number contents with
  | nil => rfl
  | cons command rest ih =>
      rw [perform, ih]
      · exact h 0 command rfl contents
      · intro j later hj
        rw [Nat.add_assoc, Nat.add_comm 1]
        exact h (j + 1) later hj

/-! ## The files of the ring -/

theorem stageFile_eq (h : toolchains[stage]? = some toolchain) :
    stageFile toolchains stage = toolchain.file := by
  rw [stageFile, h, Option.map_some, Option.getD_some]

theorem getElem?_files (h : stage ≤ toolchains.length) :
    (toolchains.map Toolchain.file ++ [finalFile])[stage]? = some (stageFile toolchains stage) := by
  rcases Nat.lt_or_eq_of_le h with hlt | rfl
  · have hget : toolchains[stage]? = some toolchains[stage] := List.getElem?_eq_getElem hlt
    rw [List.getElem?_append_left (by rwa [List.length_map]), List.getElem?_map, hget,
      stageFile_eq hget, Option.map_some]
  · simp [stageFile]

theorem stageFile_mem (h : stage ≤ toolchains.length) :
    stageFile toolchains stage ∈ finalFile :: toolchains.map Toolchain.file := by
  have hmem := List.mem_of_getElem? (getElem?_files h)
  simpa [or_comm] using hmem

/-- No two stages share a file, nor does the copy of the origin. -/
theorem IsRing.stageFile_inj (hring : IsRing toolchains) {i j : Nat} (hi : i ≤ toolchains.length)
    (hj : j ≤ toolchains.length) (h : stageFile toolchains i = stageFile toolchains j) : i = j := by
  have hnodup : (toolchains.map Toolchain.file ++ [finalFile]).Nodup := by
    rw [← List.concat_eq_append]
    exact hring.nodup.concat hring.finalFile_notMem
  refine (List.getElem?_inj ?_ hnodup).1 ?_
  · simpa using Nat.lt_succ_of_le hi
  · rw [getElem?_files hi, getElem?_files hj, h]

/-- Every file up to that of `stage` holds the source that belongs there. -/
def HoldsThrough (toolchains : List Toolchain) (sources : Nat → Bytes) (stage : Nat)
    (contents : Contents) : Prop :=
  ∀ i ≤ stage, contents (stageFile toolchains i) = some (sources (i % toolchains.length))

/-- The commands of a stage fill the file of the next one and keep those before it. -/
theorem HoldsThrough.next (hring : IsRing toolchains)
    (heffect : PassesOn effect toolchains sources) (h : toolchains[stage]? = some toolchain)
    (hholds : HoldsThrough toolchains sources stage contents) :
    HoldsThrough toolchains sources (stage + 1)
      (perform effect (firstCommand toolchains stage) contents
        (((commands toolchains).drop (firstCommand toolchains stage)).take
          toolchain.steps.length)) := by
  obtain ⟨step, hstep, hcommands⟩ := commands_of_stage hring h
  obtain ⟨hlt, -⟩ := List.getElem?_eq_some_iff.1 h
  rw [hcommands, perform_append, List.length_map, List.length_dropLast]
  -- The steps before the last one change no file of the ring.
  have hbefore : HoldsThrough toolchains sources stage
      (perform effect (firstCommand toolchains stage) contents
        (toolchain.steps.dropLast.map fun earlier => earlier.commandFor toolchain.file)) := by
    intro i hi
    rw [perform_eq_of_keeps, hholds i hi]
    intro j command hj before
    rw [List.getElem?_map, Option.map_eq_some_iff] at hj
    obtain ⟨earlier, hearlier, rfl⟩ := hj
    exact heffect.keeps stage toolchain h j earlier hearlier before _ (stageFile_mem (by omega))
  generalize perform effect (firstCommand toolchains stage) contents
    (toolchain.steps.dropLast.map fun earlier => earlier.commandFor toolchain.file) = before
    at hbefore
  have hsource : before toolchain.file = some (sources stage) := by
    have hstage := hbefore stage (Nat.le_refl _)
    rwa [stageFile_eq h, Nat.mod_eq_of_lt hlt] at hstage
  rw [perform, perform]
  intro i hi
  by_cases hnext : i = stage + 1
  · subst i
    exact heffect.writes stage toolchain h step hstep before hsource
  · have hi : i ≤ stage := by omega
    have hget : toolchains[i]? = some toolchains[i] := List.getElem?_eq_getElem (by omega)
    have hne : stageFile toolchains i ≠ stageFile toolchains (stage + 1) := by
      intro heq
      exact hnext (hring.stageFile_inj (by omega) hlt heq)
    have hkept := heffect.keeps_others stage toolchain h step hstep before hsource toolchains[i]
      (List.getElem_mem (by omega))
    rw [← stageFile_eq hget] at hkept
    rw [hkept hne, hbefore i hi]

theorem firstCommand_le (toolchains : List Toolchain) (stage : Nat) :
    firstCommand toolchains stage ≤ (commands toolchains).length := by
  rw [length_commands, firstCommand]
  conv_rhs => rw [← List.take_append_drop stage toolchains, List.map_append, List.sum_append]
  exact Nat.le_add_right _ _

/-- After the commands of `stage` stages every file up to the next one holds its source. -/
theorem holdsThrough_take (hring : IsRing toolchains)
    (heffect : PassesOn effect toolchains sources)
    (hstart : HoldsThrough toolchains sources 0 contents) (hle : stage ≤ toolchains.length) :
    HoldsThrough toolchains sources stage
      (perform effect 0 contents ((commands toolchains).take (firstCommand toolchains stage))) := by
  induction stage with
  | zero => exact hstart
  | succ stage ih =>
      have hget : toolchains[stage]? = some toolchains[stage] := List.getElem?_eq_getElem hle
      rw [firstCommand_succ hget, List.take_add, perform_append, Nat.zero_add,
        List.length_take_of_le (firstCommand_le toolchains stage)]
      exact (ih (Nat.le_of_succ_le hle)).next hring heffect hget

/-- A script has one command for each step, and in each stage only the last command is
redirected, to the file of the next stage. Whatever the commands do besides, a script that
starts with the origin in its file leaves every source in the file of its stage, and a copy of
the origin. -/
theorem script_closes_ring (hring : IsRing toolchains) :
    (commands toolchains).length
      = (toolchains.map fun toolchain => toolchain.steps.length).sum ∧
    (∀ stage toolchain, toolchains[stage]? = some toolchain →
      ∃ step, toolchain.steps.getLast? = some step ∧
        ((commands toolchains).drop (firstCommand toolchains stage)).take toolchain.steps.length
          = toolchain.steps.dropLast.map (fun earlier => earlier.commandFor toolchain.file)
            ++ [redirected step toolchain.file (stageFile toolchains (stage + 1))]) ∧
    ∀ (effect : Effect) (sources : Nat → Bytes) (contents : Contents) (first : Toolchain),
      PassesOn effect toolchains sources → toolchains[0]? = some first →
      contents first.file = some (sources 0) →
        (∀ stage toolchain, toolchains[stage]? = some toolchain →
          perform effect 0 contents (commands toolchains) toolchain.file
            = some (sources stage)) ∧
        perform effect 0 contents (commands toolchains) finalFile = some (sources 0) := by
  refine ⟨length_commands toolchains, fun _ _ h => commands_of_stage hring h, ?_⟩
  intro effect sources contents first heffect hfirst hstart
  have hholds : HoldsThrough toolchains sources 0 contents := by
    intro i hi
    obtain rfl := Nat.le_zero.1 hi
    rw [stageFile_eq hfirst, Nat.zero_mod, hstart]
  have hall := holdsThrough_take hring heffect hholds (Nat.le_refl toolchains.length)
  have hlast : firstCommand toolchains toolchains.length = (commands toolchains).length := by
    rw [firstCommand, List.take_length, length_commands]
  rw [hlast, List.take_length] at hall
  constructor
  · intro stage toolchain h
    obtain ⟨hlt, -⟩ := List.getElem?_eq_some_iff.1 h
    have hstage := hall stage (Nat.le_of_lt hlt)
    rwa [stageFile_eq h, Nat.mod_eq_of_lt hlt] at hstage
  · have hcopy := hall toolchains.length (Nat.le_refl _)
    rwa [stageFile, List.getElem?_eq_none (Nat.le_refl _), Option.map_none, Option.getD_none,
      Nat.mod_self] at hcopy

example : IsRing Route.standard.toolchains := ⟨by decide, by decide, by decide⟩

/-- The commands of a ring of two programs, where the second is compiled before it is run: each
writes one file, whatever it finds. -/
def rubyAndC (number : Nat) (_ : Text) (contents : Contents) (name : Text) : Option Bytes :=
  match number with
  | 0 => if name = "QR.c" then some [1] else contents name
  | 1 => if name = "QR" then some [2] else contents name
  | _ => if name = "QR2.rb" then some [0] else contents name

/-- Ruby and C, with nothing but the origin in the beginning. -/
theorem script_closes_ring_ruby_c :
    ∃ (toolchains : List Toolchain) (sources : Nat → Bytes) (contents : Contents),
      toolchains = [Language.origin, Language.c.toolchain] ∧
      IsRing toolchains ∧ PassesOn rubyAndC toolchains sources ∧
      contents "QR.rb" = some (sources 0) ∧
      commands toolchains
        = (["ruby QR.rb > QR.c", "gcc -o QR QR.c", "./QR > QR2.rb"] : List Text) ∧
      perform rubyAndC 0 contents (commands toolchains) "QR.c" = some (sources 1) ∧
      perform rubyAndC 0 contents (commands toolchains) "QR2.rb" = some (sources 0) := by
  let toolchains : List Toolchain := [Language.origin, Language.c.toolchain]
  let sources : Nat → Bytes := fun stage => if stage = 0 then [0] else [1]
  let contents : Contents := fun name => if name = "QR.rb" then some [0] else none
  have hring : IsRing toolchains := ⟨by decide, by decide, by decide⟩
  have heffect : PassesOn rubyAndC toolchains sources := by
    constructor
    · intro stage toolchain hstage j step hstep before name hname
      match stage, j with
      | 0, j => cases hstage; cases hstep
      | 1, 0 =>
          have hne : name ≠ "QR" := by
            rintro rfl
            exact absurd hname (by decide)
          exact if_neg hne
      | 1, j + 1 => cases hstage; cases hstep
      | stage + 2, j => cases hstage
    · intro stage toolchain hstage step hstep before hsource
      match stage with
      | 0 => cases hstage; rfl
      | 1 =>
          have hround : (1 + 1) % toolchains.length = 0 := Nat.mod_self 2
          cases hstage
          rw [hround]
          rfl
      | stage + 2 => cases hstage
    · intro stage toolchain hstage step hstep before hsource other hother hne
      match stage with
      | 0 => cases hstage; exact if_neg hne
      | 1 => cases hstage; exact if_neg hne
      | stage + 2 => cases hstage
  obtain ⟨-, -, hcloses⟩ := script_closes_ring hring
  obtain ⟨hfiles, hcopy⟩ := hcloses rubyAndC sources contents _ heffect rfl rfl
  exact ⟨toolchains, sources, contents, rfl, hring, heffect, rfl, by decide +kernel,
    hfiles 1 _ rfl, hcopy⟩

end QuineRelay.Report
