import QuineRelay.Proofs.Results
import QuineRelay.Proofs.Text.Blank
import QuineRelay.Report.Versions

/-!
# Each package is looked up once

A probe answers from memory when it was asked for a package before, and otherwise asks the
package tool. What the tool answers may change from call to call, so it matters which calls
are made. After any lookups the probe is as if the tool had been asked for the distinct
packages, in the order of their first lookups, and every answer had been kept. One lookup
keeps this, and then so does a run of them.
-/

namespace QuineRelay.Report

/-- A package tool that is called anew for each question. Its reply may depend on the number
of calls before, and what it keeps are the arguments of all calls. -/
def askNext (reply : Nat → List Text → Option CommandResult) (calls : List (List Text))
    (package : Text) : Option Text × List (List Text) :=
  (versionIn (reply calls.length (versionQuery package)), calls ++ [versionQuery package])

/-- There is no version when the tool is missing or fails, or when it prints only white
space. -/
theorem versionIn_eq_none_iff {answer : Option CommandResult} :
    versionIn answer = none ↔ ∀ result, answer = some result → result.status.succeeded = true →
      Text.IsBlank (Utf8.decodeLossy result.stdout) := by
  cases answer with
  | none => simp [versionIn]
  | some result =>
      simp only [versionIn, Option.some.injEq, forall_eq', ← Text.trim_eq_nil_iff]
      cases result.status.succeeded <;> simp

section

variable {State : Type} (query : State → Text → Option Text × State) (tool : State)

/-! ## Asking without memory -/

/-- Asks the tool for packages one after the other: each with its answer, and the tool
afterwards. -/
def askEach (tool : State) : List Text → List (Text × Option Text) × State
  | [] => ([], tool)
  | package :: rest =>
    let (answer, tool) := query tool package
    let (answers, tool) := askEach tool rest
    ((package, answer) :: answers, tool)

theorem askEach_append (front back : List Text) :
    askEach query tool (front ++ back)
      = ((askEach query tool front).1 ++ (askEach query (askEach query tool front).2 back).1,
        (askEach query (askEach query tool front).2 back).2) := by
  induction front generalizing tool with
  | nil => rfl
  | cons package front ih =>
      simp only [List.cons_append, askEach, ih]

theorem map_fst_askEach (packages : List Text) :
    (askEach query tool packages).1.map Prod.fst = packages := by
  induction packages generalizing tool with
  | nil => rfl
  | cons package packages ih =>
      rw [askEach, List.map_cons, ih]

/-- The packages that were asked for have an answer, and no others. -/
theorem lookup_askEach_eq_none_iff {package : Text} {packages : List Text} :
    (askEach query tool packages).1.lookup package = none ↔ package ∉ packages := by
  rw [lookup_eq_none_iff_notMem, map_fst_askEach]

/-! ## Asking with memory -/

namespace Probe

/-- The probe after lookups of `packages`: the tool was asked for each of them once. -/
def after (packages : List Text) : Probe State :=
  { tool := (askEach query tool packages.eraseDups).2
    answers := (askEach query tool packages.eraseDups).1 }

variable {package : Text} {packages : List Text}

theorem lookup_after_eq_none_iff :
    (after query tool packages).answers.lookup package = none ↔ package ∉ packages := by
  rw [after, lookup_askEach_eq_none_iff, List.mem_eraseDups]

/-- Looking up a package again changes nothing. -/
theorem after_concat_of_mem (h : package ∈ packages) :
    after query tool (packages ++ [package]) = after query tool packages := by
  have hdistinct : (packages ++ [package]).eraseDups = packages.eraseDups := by
    rw [List.eraseDups_append]
    simp [List.removeAll, h]
  rw [after, after, hdistinct]

/-- The first lookup of a package asks the tool once more, and keeps its answer. -/
theorem after_concat_of_notMem (h : package ∉ packages) :
    after query tool (packages ++ [package])
      = { tool := (query (after query tool packages).tool package).2
          answers := (after query tool packages).answers
            ++ [(package, (query (after query tool packages).tool package).1)] } := by
  have hdistinct : (packages ++ [package]).eraseDups = packages.eraseDups ++ [package] := by
    rw [List.eraseDups_append]
    simp [List.removeAll, h, List.eraseDups_cons]
  rw [after, after, hdistinct, askEach_append]
  rfl

/-- What is remembered is not forgotten. -/
theorem remembered_after_append (h : package ∈ packages) (more : List Text) :
    (after query tool (packages ++ more)).remembered package
      = (after query tool packages).remembered package := by
  have hfound : ((after query tool packages).answers.lookup package).isSome = true := by
    rw [Option.isSome_iff_ne_none]
    exact fun hnone => (lookup_after_eq_none_iff query tool).1 hnone h
  obtain ⟨answer, hanswer⟩ := Option.isSome_iff_exists.1 hfound
  have hkept : (after query tool (packages ++ more)).answers.lookup package = some answer := by
    rw [after] at hanswer ⊢
    rw [List.eraseDups_append, askEach_append, List.lookup_append, hanswer]
    rfl
  rw [remembered, remembered, hkept, hanswer]

/-- The first answer for a package is the one that is remembered. -/
theorem remembered_after_concat (h : package ∉ packages) :
    (after query tool (packages ++ [package])).remembered package
      = (query (after query tool packages).tool package).1 := by
  have hnone := (lookup_after_eq_none_iff query tool).2 h
  rw [after_concat_of_notMem query tool h, remembered, List.lookup_append, hnone]
  simp

/-- One lookup answers with what is then remembered. -/
theorem version_after :
    (after query tool packages).version query package
      = ((after query tool (packages ++ [package])).remembered package,
        after query tool (packages ++ [package])) := by
  by_cases h : package ∈ packages
  · rw [after_concat_of_mem query tool h, version]
    cases hanswer : (after query tool packages).answers.lookup package with
    | none => exact absurd h ((lookup_after_eq_none_iff query tool).1 hanswer)
    | some answer => simp only [remembered, hanswer, Option.join_some]
  · rw [remembered_after_concat query tool h, after_concat_of_notMem query tool h, version,
      (lookup_after_eq_none_iff query tool).2 h]

/-- Lookups one after the other answer with what is remembered in the end. -/
theorem versions_after (seen packages : List Text) :
    (after query tool seen).versions query packages
      = (packages.map (after query tool (seen ++ packages)).remembered,
        after query tool (seen ++ packages)) := by
  induction packages generalizing seen with
  | nil =>
      rw [List.append_nil]
      rfl
  | cons package packages ih =>
      have hmem : package ∈ seen ++ [package] :=
        List.mem_append_right seen (List.mem_singleton_self package)
      rw [versions, version_after]
      simp only [ih]
      rw [← remembered_after_append query tool hmem packages, List.append_assoc,
        List.singleton_append, List.map_cons]

/-- A new probe asks the tool for each package once. -/
theorem versions_eq (packages : List Text) :
    versions query { tool } packages
      = (packages.map (after query tool packages).remembered, after query tool packages) :=
  versions_after query tool [] packages

end Probe

end

/-! ## Counting the calls -/

variable (reply : Nat → List Text → Option CommandResult)

theorem tool_askEach_askNext (calls : List (List Text)) (packages : List Text) :
    (askEach (askNext reply) calls packages).2 = calls ++ packages.map versionQuery := by
  induction packages generalizing calls with
  | nil => exact (List.append_nil calls).symm
  | cons package packages ih =>
      rw [askEach, ih]
      simp [askNext]

namespace Probe

theorem tool_after_askNext (packages : List Text) :
    (after (askNext reply) [] packages).tool = packages.eraseDups.map versionQuery :=
  tool_askEach_askNext reply [] packages.eraseDups

/-- Each package is looked up once. The tool is called for the distinct packages, in the order
of their first lookups: a lookup calls it only when it is the first of its package. Every
lookup of a package has the answer that the tool gave at the first one, also when that was no
version. With a tool of any kind, a probe is what the tool leaves that was asked for the
distinct packages one after the other. -/
theorem versions_ask_once (packages : List Text) :
    (versions (askNext reply) { tool := [] } packages).2.tool
      = packages.eraseDups.map versionQuery ∧
    (∀ package, (versions (askNext reply) { tool := [] } (packages ++ [package])).2.tool
      = (versions (askNext reply) { tool := [] } packages).2.tool
        ++ if package ∈ packages then [] else [versionQuery package]) ∧
    (∀ front package back, packages = front ++ package :: back → package ∉ front →
      ∀ k : Nat, packages[k]? = some package →
        (versions (askNext reply) { tool := [] } packages).1[k]?
          = some (versionIn (reply front.eraseDups.length (versionQuery package)))) ∧
    (∀ answer, versionIn answer = none ↔ ∀ result, answer = some result →
      result.status.succeeded = true → Text.IsBlank (Utf8.decodeLossy result.stdout)) ∧
    ∀ {State : Type} (query : State → Text → Option Text × State) (tool : State),
      versions query { tool } packages
        = (packages.map (after query tool packages).remembered, after query tool packages) := by
  refine ⟨?_, fun package => ?_, ?_, fun answer => versionIn_eq_none_iff,
    fun query tool => versions_eq query tool packages⟩
  · rw [versions_eq, tool_after_askNext]
  · rw [versions_eq, versions_eq]
    by_cases h : package ∈ packages
    · rw [after_concat_of_mem _ _ h, if_pos h, List.append_nil]
    · rw [after_concat_of_notMem _ _ h, if_neg h]
      rfl
  · rintro front package back rfl hfirst k hk
    have hsplit : front ++ package :: back = (front ++ [package]) ++ back := by simp
    have hmem : package ∈ front ++ [package] :=
      List.mem_append_right front (List.mem_singleton_self package)
    rw [versions_eq, List.getElem?_map, hk, Option.map_some, hsplit,
      remembered_after_append _ _ hmem, remembered_after_concat _ _ hfirst, askNext,
      tool_after_askNext, List.length_map]

/-- A tool that is missing when it is called first, and knows every package later. -/
def lateTool (calls : Nat) (_ : List Text) : Option CommandResult :=
  if calls = 0 then none
  else some { status := .code 0, stdout := Utf8.encode "13.2\n", stderr := [], files := .empty }

/-- The package that was asked for before the tool was there has no version later either, and
is not asked for again. -/
theorem versions_ask_once_lateTool :
    (versions (askNext lateTool) { tool := [] } ["ghc", "gcc", "ghc", "gcc"]).1[2]? = some none ∧
      (versions (askNext lateTool) { tool := [] } ["ghc", "gcc", "ghc", "gcc"]).1[3]?
        = some (some ("13.2" : Text)) ∧
      (versions (askNext lateTool) { tool := [] } ["ghc", "gcc", "ghc", "gcc"]).2.tool
        = [versionQuery "ghc", versionQuery "gcc"] := by
  obtain ⟨hcalls, -, hanswer, -, -⟩ := versions_ask_once lateTool ["ghc", "gcc", "ghc", "gcc"]
  refine ⟨?_, ?_, hcalls.trans (by decide)⟩
  · exact (hanswer [] "ghc" ["gcc", "ghc", "gcc"] rfl (by decide) 2 rfl).trans (by decide)
  · exact (hanswer ["ghc"] "gcc" ["ghc", "gcc"] rfl (by decide) 3 rfl).trans (by decide +kernel)

end Probe

end QuineRelay.Report
