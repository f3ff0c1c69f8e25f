import QuineRelay.Verify.Runner

/-!
# Steps up to the first failure

The steps of a stage, run in order. They all succeed, and the output is that of the
last one; or there is a first one that does not succeed, and nothing after it is run.
-/

namespace QuineRelay.Verify

variable {shell : ShellFunction} {toolchain : Toolchain} {directory : Path} {printed : Bytes}
  {files : Files} {steps : List Step}

/-- What the steps give, each on the files that the one before left. -/
def results (shell : ShellFunction) (toolchain : Toolchain) (directory : Path) (files : Files) :
    List Step → List CommandResult
  | [] => []
  | step :: rest =>
    let result := shell files directory (step.commandFor toolchain.file)
    result :: results shell toolchain directory result.files rest

/-- The output of the last step, `printed` when there is none. -/
def lastOutput (printed : Bytes) (results : List CommandResult) : Bytes :=
  (results.getLast?.map CommandResult.stdout).getD printed

/-- The files that the last step left. -/
def lastFiles (files : Files) (results : List CommandResult) : Files :=
  (results.getLast?.map CommandResult.files).getD files

/-- Every step succeeded. -/
def AllSucceed (results : List CommandResult) : Prop :=
  ∀ result ∈ results, result.status.succeeded = true

/-- The result at `k` is the first that is not a success. -/
structure FirstFailure (results : List CommandResult) (k : Nat) (result : CommandResult) :
    Prop where
  getElem?_eq : results[k]? = some result
  earlier : AllSucceed (results.take k)
  fails : result.status.succeeded = false

theorem lastOutput_cons (result : CommandResult) (results : List CommandResult) :
    lastOutput printed (result :: results) = lastOutput result.stdout results := by
  rw [lastOutput, lastOutput, List.getLast?_cons]
  cases results.getLast? <;> rfl

theorem lastFiles_cons (result : CommandResult) (results : List CommandResult) :
    lastFiles files (result :: results) = lastFiles result.files results := by
  rw [lastFiles, lastFiles, List.getLast?_cons]
  cases results.getLast? <;> rfl

theorem allSucceed_cons {result : CommandResult} {results : List CommandResult} :
    AllSucceed (result :: results) ↔ result.status.succeeded = true ∧ AllSucceed results :=
  List.forall_mem_cons

/-- Either every step succeeds, or there is a first one that does not. -/
theorem allSucceed_or_firstFailure (results : List CommandResult) :
    AllSucceed results ∨ ∃ k result, FirstFailure results k result := by
  induction results with
  | nil => exact .inl (by simp [AllSucceed])
  | cons first rest ih =>
      cases hfirst : first.status.succeeded with
      | false => exact .inr ⟨0, first, rfl, by simp [AllSucceed], hfirst⟩
      | true =>
          rcases ih with hall | ⟨k, result, hk, hearlier, hfails⟩
          · exact .inl (allSucceed_cons.2 ⟨hfirst, hall⟩)
          · exact .inr ⟨k + 1, result, hk, allSucceed_cons.2 ⟨hfirst, hearlier⟩, hfails⟩

/-- Steps that all succeed give the output and the files of the last one. -/
theorem runSteps_of_allSucceed (h : AllSucceed (results shell toolchain directory files steps)) :
    runSteps shell toolchain directory printed files steps
      = (.ok (lastOutput printed (results shell toolchain directory files steps)),
        lastFiles files (results shell toolchain directory files steps)) := by
  induction steps generalizing files printed with
  | nil => rfl
  | cons step rest ih =>
      rw [results] at h ⊢
      obtain ⟨hfirst, hrest⟩ := allSucceed_cons.1 h
      rw [runSteps, if_pos hfirst, ih hrest, lastOutput_cons, lastFiles_cons]

/-- The first step that does not succeed is reported, and its files are left. -/
theorem runSteps_of_firstFailure (printed : Bytes) {k : Nat} {result : CommandResult}
    (h : FirstFailure (results shell toolchain directory files steps) k result) :
    ∃ step, steps[k]? = some step ∧
      runSteps shell toolchain directory printed files steps
        = (.error (.step toolchain.name (step.commandFor toolchain.file) result.status
          (Utf8.decodeLossy result.stderr)), result.files) := by
  induction steps generalizing files printed k with
  | nil => cases h.getElem?_eq
  | cons step rest ih =>
      obtain ⟨hk, hearlier, hfails⟩ := h
      rw [results] at hk hearlier
      cases k with
      | zero =>
          obtain rfl := Option.some.inj hk
          refine ⟨step, rfl, ?_⟩
          rw [runSteps, if_neg (by rw [hfails]; simp)]
      | succ k =>
          obtain ⟨hfirst, hearlier⟩ := allSucceed_cons.1 hearlier
          obtain ⟨failing, hfailing, hrun⟩ := ih _ ⟨hk, hearlier, hfails⟩
          refine ⟨failing, hfailing, ?_⟩
          rw [runSteps, if_pos hfirst, hrun]

end QuineRelay.Verify
