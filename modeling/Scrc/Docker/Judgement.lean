import Scrc.Docker.Isolation

/-!
# What the judge computes

On the daemon of `Scrc.Docker.Isolation` a configured engine and the suite runner compute a
function: from the configuration, what containers do, and a script, to a judgement.  The function
knows no containers, no calls and no accumulator.

* `DockerConfig.built`: what a configured engine builds from a script.
* `judgeTests`: the tests judged one after the other, up to the first that fails.
* `DockerConfig.judge`: the judgement on a script.
* `gives_judgement`: the suite runner on the engine reports this judgement.
-/

namespace Scrc

open Interaction SuiteReference

/-! ## The function -/

section Function

variable (B : Behaviour) (artifact : Workload → GoString → List TarEntry)

/-- What the strategy of a language builds in its runtime. -/
def LanguageRuntime.built (runtime : LanguageRuntime) (script : Script) : Built :=
  if runtime.language = .python then pythonBuilt runtime B script.limits script.source
  else if runtime.language = .go then
    goStrategy.built runtime B artifact script.limits script.source
  else if runtime.language = .c then
    cStrategy.built runtime B artifact script.limits script.source
  else if runtime.language = .cpp then
    cppStrategy.built runtime B artifact script.limits script.source
  else if runtime.language = .java then
    javaStrategy.built runtime B artifact script.limits script.source
  else .error

/-- What an engine with this configuration builds from a script. -/
def DockerConfig.built (cfg : DockerConfig) (script : Script) : Built :=
  match cfg.languages.lookup script.language with
  | none => .error
  | some langCfg =>
      match newLanguageRuntime script.language langCfg (newContainerEngine cfg.defaultLimits) with
      | .error _ => .error
      | .ok runtime => runtime.built B artifact script

end Function

/-- What is observed of a test that is not run. -/
def Observed.skipped : Observed := ⟨.notRun, [], [], 0⟩

/-- The tests one after the other, each with its verdict in place of the status of the run; after
the first verdict that is not OK no test is run. -/
def judgeTests (run : GoString → Observed) : List TestCase → List (TestCase × Observed)
  | [] => []
  | test :: rest =>
      let x := run test.input
      let verdict := x.verdict test
      (test, { x with status := verdict }) ::
        if verdict = .ok then judgeTests run rest
        else rest.map fun skipped => (skipped, Observed.skipped)

/-- A status, and every test with what is observed of it. -/
structure Judgement where
  status : Status
  tests : List (TestCase × Observed)
  deriving DecidableEq

/-- The first verdict that is not OK decides. -/
def judgeStatus (tests : List (TestCase × Observed)) : Status :=
  match tests.find? fun entry => entry.2.status ≠ .ok with
  | some entry => entry.2.status
  | none => .ok

/-- The judgement on a script with these tests; none when it cannot be built at all. -/
def Built.judgement (K : Built) (tests : List TestCase) : Option Judgement :=
  match K with
  | .script run =>
      if tests = [] then some ⟨(run []).status, []⟩
      else some ⟨judgeStatus (judgeTests run tests), judgeTests run tests⟩
  | .failed => some ⟨.buildFail, []⟩
  | .error => none

/-- What an entry of a report says. -/
def TestResult.graded (e : TestResult) : TestCase × Observed :=
  (e.case, ⟨e.status, e.stdout, e.stderr, e.exitCode⟩)

/-- The judgement on a script by an engine with this configuration. -/
def DockerConfig.judge (cfg : DockerConfig) (B : Behaviour)
    (artifact : Workload → GoString → List TarEntry) (script : Script) : Option Judgement :=
  (cfg.built B artifact script).judgement script.tests

/-- What a report says: the status and the tests, without durations and error texts. -/
def RunReport.judgement (report : RunReport) : Option Judgement :=
  report.result.map fun r => ⟨r.status, r.tests.map TestResult.graded⟩

/-! ## Suites -/

section Suite

variable {run : GoString → Observed} {test : TestCase} {tests : List TestCase}
  {outs : Nat → RunOutcome}

/-- The decisive test of a suite: the first one, or one of the others. -/
theorem decisive_cons :
    decisive (test :: tests) outs =
      if (outs 0).verdict test ≠ .ok then some 0
      else (decisive tests fun i => outs (i + 1)).map (· + 1) := by
  unfold decisive
  rw [List.length_cons, List.range_succ_eq_map, List.find?_cons]
  have first : verdict (test :: tests) outs 0 = (outs 0).verdict test := rfl
  by_cases good : (outs 0).verdict test = .ok
  · simp only [first, good, ne_eq, not_true_eq_false, decide_false, ↓reduceIte, List.find?_map]
    rfl
  · simp only [first, good, ne_eq, not_false_eq_true, decide_true, ↓reduceIte]

theorem executed_cons_bad (bad : (outs 0).verdict test ≠ .ok) :
    executed (test :: tests) outs = 1 := by
  unfold executed
  rw [decisive_cons, if_pos bad]

theorem executed_cons_good (good : (outs 0).verdict test = .ok) :
    executed (test :: tests) outs = executed tests (fun i => outs (i + 1)) + 1 := by
  unfold executed
  rw [decisive_cons, if_neg (not_not_intro good)]
  cases decisive tests fun i => outs (i + 1) with
  | none => rfl
  | some k => rfl

/-- An entry behind a first test that passes is that of the remaining suite. -/
theorem graded_succ (good : (outs 0).verdict test = .ok) (i : Nat) :
    (entry (test :: tests) outs (i + 1)).graded =
      (entry tests (fun i => outs (i + 1)) i).graded := by
  have status : entryStatus (test :: tests) outs (i + 1) =
      entryStatus tests (fun i => outs (i + 1)) i := by
    unfold entryStatus
    rw [decisive_cons, if_neg (not_not_intro good)]
    cases decisive tests fun i => outs (i + 1) with
    | none => rfl
    | some k =>
        simp only [Option.map_some, Nat.add_lt_add_iff_right, Nat.add_right_cancel_iff]
        rfl
  unfold entry TestResult.graded
  rw [executed_cons_good good, status]
  by_cases ran : i < executed tests fun i => outs (i + 1)
  · rw [if_pos ran, if_pos (Nat.succ_lt_succ ran)]
    rfl
  · rw [if_neg ran, if_neg fun later => ran (Nat.lt_of_succ_lt_succ later)]
    rfl

/-- Behind a first test that fails nothing is run, so these tests are graded as skipped whatever
they would have shown. -/
theorem graded_skipped (bad : (outs 0).verdict test ≠ .ok) {i : Nat} (inRange : i < tests.length) :
    (entry (test :: tests) outs (i + 1)).graded = (tests[i], Observed.skipped) := by
  have past : executed (test :: tests) outs ≤ i + 1 := by
    rw [executed_cons_bad bad]
    omega
  unfold entry TestResult.graded
  rw [if_neg (Nat.not_lt.mpr past), entryStatus_of_le past (Nat.succ_lt_succ inRange)]
  simp only [List.getElem!_cons_succ, getElem!_pos tests i inRange]
  rfl

/-- The first test is always run, and graded by what its run shows. -/
theorem graded_zero {x : Observed} (shown : (outs 0).Shows x) :
    (entry (test :: tests) outs 0).graded = (test, { x with status := x.verdict test }) := by
  have ran : 0 < executed (test :: tests) outs := by
    rw [lt_executed_iff]
    exact ⟨Nat.zero_lt_succ _, fun i absurd => (Nat.not_lt_zero i absurd).elim⟩
  have status : entryStatus (test :: tests) outs 0 = x.verdict test :=
    (entryStatus_of_lt ran).trans (shown.verdict test)
  unfold entry TestResult.graded
  rw [if_pos ran, status]
  obtain ⟨r, returned, rfl, -⟩ := shown
  rw [returned]
  rfl

/-- **The tests of a suite** are judged one after the other.  Induction on the tests: behind the
first one stands the suite of the others. -/
theorem graded_eq_judgeTests
    (shown : ∀ i < executed tests outs, (outs i).Shows (run tests[i]!.input)) :
    (List.range tests.length).map (fun i => (entry tests outs i).graded) = judgeTests run tests := by
  induction tests generalizing outs with
  | nil => rfl
  | cons test tests ih =>
      have ran : 0 < executed (test :: tests) outs := by
        rw [lt_executed_iff]
        exact ⟨Nat.zero_lt_succ _, fun i absurd => (Nat.not_lt_zero i absurd).elim⟩
      have first : (outs 0).Shows (run test.input) := shown 0 ran
      have verdict : (outs 0).verdict test = (run test.input).verdict test := first.verdict test
      rw [List.length_cons, List.range_succ_eq_map, List.map_cons, List.map_map, graded_zero first]
      unfold judgeTests
      refine congrArg _ ?_
      by_cases good : (run test.input).verdict test = .ok
      · have passed := verdict.trans good
        have later : ∀ i < executed tests fun i => outs (i + 1),
            (outs (i + 1)).Shows (run tests[i]!.input) := by
          intro i inside
          have inside' : i + 1 < executed (test :: tests) outs := by
            rw [executed_cons_good passed]
            omega
          exact shown (i + 1) inside'
        rw [if_pos good, ← ih later]
        exact List.map_congr_left fun i _ => graded_succ passed i
      · have failed : (outs 0).verdict test ≠ .ok := fun same => good (verdict.symm.trans same)
        rw [if_neg good]
        apply List.ext_getElem
        · rw [List.length_map, List.length_range, List.length_map]
        · intro i inRange _
          rw [List.length_map, List.length_range] at inRange
          simp only [List.getElem_map, List.getElem_range, Function.comp_apply]
          exact graded_skipped failed inRange

/-- **The status of a suite** is that of the first test that fails. -/
theorem overall_eq_judgeStatus :
    overall tests outs =
      judgeStatus ((List.range tests.length).map fun i => (entry tests outs i).graded) := by
  unfold judgeStatus overall
  rw [List.find?_map]
  cases decided : decisive tests outs with
  | none =>
      have all : ∀ i ∈ List.range tests.length, (entry tests outs i).status = .ok := by
        intro i member
        have status : (entry tests outs i).status = entryStatus tests outs i := by
          unfold entry
          split <;> rfl
        rw [status]
        unfold entryStatus
        rw [decided]
      rw [List.find?_eq_none.mpr]
      · rfl
      · intro i member bad
        exact absurd (all i member) (of_decide_eq_true bad)
  | some k =>
      obtain ⟨inRange, bad, before⟩ := of_decisive_eq_some decided
      have status : ∀ i ≤ k, (entry tests outs i).status = verdict tests outs i := by
        intro i upTo
        have ran : i < executed tests outs := by
          unfold executed
          rw [decided]
          exact Nat.lt_succ_of_le upTo
        unfold entry
        rw [if_pos ran, entryStatus_of_lt ran]
      have found : (List.range tests.length).find?
          ((fun entry : TestCase × Observed => decide (entry.2.status ≠ .ok)) ∘
            fun i => (entry tests outs i).graded) = some k := by
        rw [List.find?_range_eq_some]
        refine ⟨decide_eq_true ?_, List.mem_range.mpr inRange, fun i earlier => ?_⟩
        · exact fun same => bad ((status k (Nat.le_refl k)).symm.trans same)
        · have good := (status i (Nat.le_of_lt earlier)).trans (before i earlier)
          exact Bool.not_eq_true' _ ▸ decide_eq_false (not_not_intro good)
      rw [found]
      exact (status k (Nat.le_refl k)).symm

/-- The report on what was built says the judgement.  The cases are those of a report: a failed
build, a single run, a suite. -/
theorem Built.Reports.judgement {K : Built} {script : Script} {report : RunReport}
    (reports : K.Reports script report) : report.judgement = K.judgement script.tests := by
  unfold RunReport.judgement Built.judgement
  cases K with
  | error =>
      rw [show report.result = none from reports]
      rfl
  | failed =>
      obtain ⟨r, present, status, tests⟩ := reports
      rw [present, Option.map_some, status, tests]
      rfl
  | script run =>
      rcases reports with ⟨untested, o, ⟨r, rfl, observed, tests⟩, present⟩ | ⟨tested, outs, rfl, shown⟩
      · simp only [untested, ↓reduceIte]
        rw [present, ← observed]
        simp only [RunOutcome.finished, Option.map_some, tests, List.map_nil]
        rfl
      · simp only [tested, ↓reduceIte, referenceReport, Option.map_some, overall_eq_judgeStatus,
          List.map_map]
        have graded := graded_eq_judgeTests shown
        rw [graded]
        exact congrArg (fun tests => some (Judgement.mk _ tests)) graded

end Suite

/-! ## Engines -/

theorem newLanguageRuntime_language {lang : Language} {cfg : LanguageConfig} {env : ContainerEngine}
    {runtime : LanguageRuntime} (h : newLanguageRuntime lang cfg env = .ok runtime) :
    runtime.language = lang := by
  unfold newLanguageRuntime at h
  split at h
  · cases h
  · rw [← Except.ok.inj h]

/-- The module that the registry finds is built from the configuration of the language. -/
theorem newModules_find {env : ContainerEngine} {languages : List (Language × LanguageConfig)}
    {mods : List Module} (h : newModules env languages = .ok mods) (lang : Language) :
    (languages.lookup lang = none ∧ mods.find? (fun m => m.runtime.language = lang) = none) ∨
      ∃ cfg m, languages.lookup lang = some cfg ∧ newModule lang cfg env = .ok m ∧
        mods.find? (fun m => m.runtime.language = lang) = some m := by
  induction languages generalizing mods with
  | nil =>
      cases h
      exact Or.inl ⟨rfl, rfl⟩
  | cons entry rest ih =>
      rcases entry with ⟨lang', cfg⟩
      unfold newModules at h
      cases first : newModule lang' cfg env with
      | error err =>
          rw [first] at h
          cases h
      | ok m =>
          rw [first] at h
          cases others : newModules env rest with
          | error err =>
              simp only [others] at h
              cases h
          | ok mods' =>
              simp only [others] at h
              cases h
              have named : m.runtime.language = lang' :=
                newLanguageRuntime_language (newModule_ok first).1
              rw [List.lookup_cons, List.find?_cons]
              by_cases here : lang = lang'
              · subst here
                simp only [named, decide_true, beq_self_eq_true]
                exact Or.inr ⟨cfg, m, rfl, first, rfl⟩
              · have other : (lang == lang') = false := beq_eq_false_iff_ne.mpr here
                have away : decide (m.runtime.language = lang) = false :=
                  decide_eq_false fun same => here (same.symm.trans named)
                rw [other, away]
                exact ih others

section Engine

variable {B : Behaviour} {artifact : Workload → GoString → List TarEntry} {s : Records}

/-- A strategy builds what its language does: Python takes the source itself, and the others compile
it to an artifact. -/
theorem gives_runtime {runtime : LanguageRuntime} {strategy : LanguageStrategy}
    (registered : strategyForLanguage runtime.language = .ok strategy) (script : Script) :
    Gives B (leavesArtifact artifact) s (strategy runtime script) fun o _ =>
      (runtime.built B artifact script).Describes B artifact o := by
  unfold strategyForLanguage at registered
  unfold LanguageRuntime.built
  by_cases python : runtime.language = .python
  · rw [if_pos python] at registered ⊢
    cases registered
    exact gives_python
  rw [if_neg python] at registered ⊢
  by_cases go : runtime.language = .go
  · rw [if_pos go] at registered ⊢
    cases registered
    exact gives_compiled
  rw [if_neg go] at registered ⊢
  by_cases c : runtime.language = .c
  · rw [if_pos c] at registered ⊢
    cases registered
    exact gives_compiled
  rw [if_neg c] at registered ⊢
  by_cases cpp : runtime.language = .cpp
  · rw [if_pos cpp] at registered ⊢
    cases registered
    exact gives_compiled
  rw [if_neg cpp] at registered ⊢
  by_cases java : runtime.language = .java
  · rw [if_pos java] at registered ⊢
    cases registered
    exact gives_compiled
  rw [if_neg java] at registered
  cases registered

/-- An engine builds what its configuration says, for the language of the script; a script of any
other language is refused. -/
theorem gives_built {cfg : DockerConfig} {engine : Engine Docker}
    (built : newEngineWithClient cfg = .ok engine) (script : Script) :
    Gives B (leavesArtifact artifact) s (engine.prepare script) fun o _ =>
      (cfg.built B artifact script).Describes B artifact o := by
  unfold newEngineWithClient newRegistryWithClient at built
  cases modules : newModules (newContainerEngine cfg.defaultLimits) cfg.languages with
  | error err =>
      simp only [modules] at built
      cases built
  | ok mods =>
      simp only [modules] at built
      cases registered : newRegistry mods with
      | error err =>
          simp only [registered] at built
          cases built
      | ok r =>
          simp only [registered] at built
          cases built
          have found := newModules_find modules script.language
          rw [← newRegistry_modules registered] at found
          simp only [Registry.prepare, Registry.moduleFor, DockerConfig.built]
          rcases found with ⟨unknown, missing⟩ | ⟨langCfg, m, known, module, here⟩
          · rw [unknown, missing]
            exact ⟨_, rfl⟩
          · obtain ⟨runtime, strategy⟩ := newModule_ok module
            have language := newLanguageRuntime_language runtime
            rw [known, here]
            simp only [runtime]
            unfold Module.prepare
            simp only [language, ne_eq, not_true_eq_false, ↓reduceIte]
            apply gives_ensureImage.bind
            intro err s' noError
            subst noError
            exact gives_runtime (language ▸ strategy) script

/-- **The judgement.**  The suite runner on a configured engine reports the judgement on what the
engine builds. -/
theorem gives_judgement {cfg : DockerConfig} {engine : Engine Docker}
    (built : newEngineWithClient cfg = .ok engine) (script : Script) :
    Gives B (leavesArtifact artifact) s (SuiteRunner.run engine script) fun report _ =>
      report.judgement = cfg.judge B artifact script :=
  (gives_suiteRunner (gives_built built script)).mono fun _ _ reports => reports.judgement

end Engine

end Scrc
