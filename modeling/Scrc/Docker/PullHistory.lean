import Scrc.Docker.SharedImages

/-!
# Which calls fail in `ensureImage`

A sequence of calls of `module.Prepare` on one language module, each with its own context and its
own outcomes of the pulls it would make.  `pullOnce` pulls in the first call that comes to
`ensureImage`, and `pullErr` remembers the outcome for every later one.

* `pullCells`: the cell of the language, as one call sees it.
* `pulls_done`: once the cell is settled, nothing is pulled any more.
* `ensureImage_remembers`: which later calls fail in `ensureImage`, and with what.
-/

namespace Scrc

open Interaction

/-! ## Calls -/

/-- The circumstances of a call: whether its context is over, and what a pull of each image would
come to under a live one. -/
structure Attempt where
  ctxErr : Option CtxErr
  pull : GoString → Stream Unit

/-- A pull under a context that is over is refused. -/
def Attempt.imagePull (a : Attempt) (ref : GoString) : Stream Unit :=
  match a.ctxErr with
  | some err => .refused err.toError
  | none => a.pull ref

/-- The cell of the language during one call: `pullOnce` runs its body for the first caller, pulls
come out as the circumstances say, and `pullErr` is what was stored.  Nothing may be pulled when
`pullOnce` is done. -/
def pullCells (a : Attempt) : Contract Docker PullCell where
  obliges cell
    | .imagePull _ _ => cell.once ≠ .done
    | _ => True
  allows cell
    | .pullOnceDo _, first => first = decide (cell.once = .fresh)
    | .imagePull _ ref, r => r = a.imagePull ref
    | .pullErr _, r => r = cell.pullErr
    | _, _ => True
  next cell
    | .pullOnceDo _, true => { cell with once := .running }
    | .pullOnceDone _, _ => { cell with once := .done }
    | .setPullErr _ err, _ => { cell with pullErr := some err }
    | _, _ => cell

/-- A call of `module.Prepare`: its circumstances, what it did, and what it returned. -/
structure PrepareCall where
  script : Script
  attempt : Attempt
  trace : List (Event Docker)
  outcome : PrepareOutcome Docker

/-- The calls are made one after the other, the first with this cell. -/
def CallsFrom (m : Module) : PullCell → List PrepareCall → Prop
  | _, [] => True
  | cell, c :: later =>
      Exec (m.prepare c.script) c.trace c.outcome ∧ (pullCells c.attempt).Allowed cell c.trace ∧
        CallsFrom m ((pullCells c.attempt).after cell c.trace) later

namespace PrepareCall

variable (m : Module) (c : PrepareCall)

/-- The script is for the module's language, so the call comes to `ensureImage`. -/
def comes : Bool := c.script.language = m.runtime.language

/-- The pulls that the call makes, or would make, succeed. -/
def PullsSucceed : Prop := ∀ ref ∈ m.runtime.images, c.attempt.imagePull ref = .value ()

/-- The context of the call is live, and both pulls would succeed. -/
def Favourable : Prop :=
  c.attempt.ctxErr = none ∧ ∀ ref ∈ m.runtime.images, c.attempt.pull ref = .value ()

/-- The call fails in `ensureImage`: that is all it does, and it returns an error. -/
def FailsInEnsureImage : Prop :=
  c.comes m = true ∧ ∃ err, Exec m.runtime.ensureImage c.trace (some err) ∧ c.outcome = .failed err

end PrepareCall

/-! ## One call -/

/-- The error of the first pull that fails. -/
def Attempt.pullErr (a : Attempt) : List GoString → Option PullError
  | [] => none
  | ref :: refs =>
      match a.imagePull ref with
      | .refused err => some (.pull ref err)
      | .broken err => some (.consume ref err)
      | .value _ => a.pullErr refs

theorem Attempt.pullErr_eq_none {a : Attempt} {refs : List GoString} :
    a.pullErr refs = none ↔ ∀ ref ∈ refs, a.imagePull ref = .value () := by
  induction refs with
  | nil => exact ⟨fun _ ref absurd => (List.not_mem_nil absurd).elim, fun _ => rfl⟩
  | cons ref refs ih =>
      rw [List.forall_mem_cons, ← ih, pullErr]
      cases a.imagePull ref with
      | refused err => exact ⟨fun absurd => (nomatch absurd), fun both => nomatch both.1⟩
      | broken err => exact ⟨fun absurd => (nomatch absurd), fun both => nomatch both.1⟩
      | value _ => exact ⟨fun rest => ⟨rfl, rest⟩, And.right⟩

section Call

variable {α : Type} {a : Attempt} {cell : PullCell}

theorem cell_ask {c : DockerCall} {k : DockerReply c → Proc Docker α} {Q : α → PullCell → Prop}
    (owed : (pullCells a).obliges cell c) (next : ∀ r, (pullCells a).allows cell c r →
      (k r).Meets (pullCells a) ((pullCells a).next cell c r) Q) :
    (ask c >>= k).Meets (pullCells a) cell Q :=
  ⟨owed, next⟩

/-- What only uses the images leaves the cell alone: the cell is changed by the `Do` of its
`sync.Once` and by nothing else. -/
theorem cell_uses {images : List GoString} {p : Proc Docker α} {R : α → Prop}
    (uses : Uses images p R) : p.Meets (pullCells a) cell fun v cell' => R v ∧ cell' = cell := by
  refine uses.of_calls (fun c uses => ?_) fun c r uses => ?_
  · cases c with
    | imagePull => cases uses
    | _ => trivial
  · cases c with
    | pullOnceDo => cases uses
    | pullOnceDone => cases uses
    | setPullErr => cases uses
    | _ => rfl

theorem cell_pullImage (ref : GoString) (unsettled : cell.once ≠ .done) :
    (pullImage ref).Meets (pullCells a) cell fun r cell' =>
      r = a.pullErr [ref] ∧ cell' = cell := by
  unfold pullImage
  refine cell_ask unsettled fun r allowed => ?_
  rw [Attempt.pullErr, ← show r = a.imagePull ref from allowed]
  cases r with
  | refused err => exact ⟨rfl, rfl⟩
  | broken err => exact ⟨rfl, rfl⟩
  | value _ => exact ⟨rfl, rfl⟩

/-- The errors of two lists of pulls: that of the first list, or else that of the second, which is
not tried after a failure. -/
theorem Attempt.pullErr_cons (ref : GoString) (refs : List GoString) :
    a.pullErr (ref :: refs) = (a.pullErr [ref]).or (a.pullErr refs) := by
  rw [pullErr, pullErr, pullErr]
  cases a.imagePull ref with
  | refused err => rfl
  | broken err => rfl
  | value _ => rfl

/-- The body stores the error of the first pull that fails, if there is one. -/
theorem cell_pullImages (l : LanguageRuntime) (clean : cell.pullErr = none)
    (unsettled : cell.once ≠ .done) :
    l.pullImages.Meets (pullCells a) cell fun _ cell' =>
      cell' = { cell with pullErr := a.pullErr l.images } := by
  have store : ∀ {err refs}, a.pullErr refs = some err →
      (ask (.setPullErr l.language err)).Meets (pullCells a) cell fun _ cell' =>
        cell' = { cell with pullErr := a.pullErr refs } := by
    intro err refs failed
    refine ⟨trivial, fun _ _ => ?_⟩
    rw [failed]
    rfl
  have keep : ∀ {refs}, a.pullErr refs = none → cell = { cell with pullErr := a.pullErr refs } := by
    intro refs pulled
    rw [pulled, ← clean]
  unfold LanguageRuntime.pullImages LanguageRuntime.images
  apply (cell_pullImage l.config.image unsettled).bind
  intro first cell' reached
  obtain ⟨rfl, rfl⟩ := reached
  split
  · next err failed =>
      split
      · refine store ?_
        rw [Attempt.pullErr_cons, failed]
        rfl
      · exact store failed
  · next pulled =>
      split
      · apply (cell_pullImage l.config.runImage unsettled).bind
        intro second cell'' reached
        obtain ⟨rfl, rfl⟩ := reached
        have rest : a.pullErr [l.config.image, l.config.runImage] =
            a.pullErr [l.config.runImage] := by
          rw [Attempt.pullErr_cons, pulled]
          rfl
        rw [rest]
        split
        · next err failed => exact store failed
        · next pulled => exact keep pulled
      · exact keep pulled

/-- `ensureImage` in a call: the first one pulls, and every one returns what was stored. -/
theorem cell_ensureImage (l : LanguageRuntime)
    (settled : cell = {} ∨ cell.once = .done) :
    l.ensureImage.Meets (pullCells a) cell fun r cell' =>
      cell' = (if cell.once = .done then cell else { once := .done, pullErr := a.pullErr l.images }) ∧
        r = cell'.pullErr.map PullError.toError := by
  have read : ∀ cell' : PullCell, (do
      let pullErr : Option PullError ← ask (.pullErr l.language)
      return pullErr.map PullError.toError).Meets (pullCells a) cell' fun r cell'' =>
        cell'' = cell' ∧ r = cell''.pullErr.map PullError.toError := by
    intro cell'
    refine cell_ask trivial fun r allowed => ?_
    cases show r = cell'.pullErr from allowed
    exact ⟨rfl, rfl⟩
  unfold LanguageRuntime.ensureImage
  refine cell_ask trivial fun first allowed => ?_
  cases show first = decide (cell.once = .fresh) from allowed
  rcases settled with rfl | done
  · apply (cell_pullImages l rfl OnceState.noConfusion).bind
    intro _ cell' pulled
    subst pulled
    exact cell_ask trivial fun _ _ => read _
  · rw [done, if_pos rfl]
    exact read cell

end Call

/-- Once the cell is settled it stays so, and nothing is pulled any more. -/
theorem pulls_done {a : Attempt} {cell : PullCell} {t : List (Event Docker)}
    (done : cell.once = .done) (allowed : (pullCells a).Allowed cell t)
    (obeyed : (pullCells a).Obeyed cell t) : t.filterMap pullOf = [] := by
  induction t generalizing cell with
  | nil => rfl
  | cons e t ih =>
      obtain ⟨c, r⟩ := e
      have settled : ((pullCells a).next cell c r).once = .done := by
        cases c with
        | pullOnceDo lang =>
            have again : r = decide (cell.once = .fresh) := allowed.1
            rw [done] at again
            rw [again]
            exact done
        | pullOnceDone => rfl
        | _ => exact done
      rw [filterMap_event, ih settled allowed.2 obeyed.2]
      cases c with
      | imagePull => exact absurd done obeyed.1
      | _ => rfl

/-- What a call returns that comes to `ensureImage`, and the cell after it. -/
theorem cell_module {lang : Language} {m : Module}
    (chosen : strategyForLanguage lang = .ok m.strategy) {a : Attempt} {cell : PullCell}
    (settled : cell = {} ∨ cell.once = .done) (script : Script) :
    (m.prepare script).Meets (pullCells a) cell fun o cell' =>
      if script.language = m.runtime.language then
        cell' = (if cell.once = .done then cell
          else { once := .done, pullErr := a.pullErr m.runtime.images }) ∧
        ∀ err, cell'.pullErr = some err → o = .failed err.toError
      else cell' = cell := by
  unfold Module.prepare
  by_cases comes : script.language = m.runtime.language
  · rw [if_neg (not_not.mpr comes)]
    apply (cell_ensureImage m.runtime settled).bind
    intro r cell' reached
    obtain ⟨same, rfl⟩ := reached
    cases stored : cell'.pullErr with
    | some err =>
        refine (if_pos comes).mpr ⟨same, fun err' same' => ?_⟩
        rw [stored] at same'
        cases same'
        rfl
    | none =>
        refine (cell_uses (uses_strategy chosen m.runtime script)).mono fun o cell'' both => ?_
        obtain ⟨-, rfl⟩ := both
        refine (if_pos comes).mpr ⟨same, fun err absurd => ?_⟩
        rw [stored] at absurd
        cases absurd
  · rw [if_pos comes]
    exact meets_ret.mpr ((if_neg comes).mpr rfl)

/-! ## A sequence of calls -/

/-- The cell after a sequence of calls. -/
def cellAfter (cell : PullCell) (calls : List PrepareCall) : PullCell :=
  calls.foldl (fun cell c => (pullCells c.attempt).after cell c.trace) cell

section Calls

variable {lang : Language} {m : Module} {cell : PullCell} {calls later : List PrepareCall}
  {c : PrepareCall}

theorem callsFrom_append :
    CallsFrom m cell (calls ++ later) ↔
      CallsFrom m cell calls ∧ CallsFrom m (cellAfter cell calls) later := by
  induction calls generalizing cell with
  | nil => exact ⟨fun calls => ⟨trivial, calls⟩, And.right⟩
  | cons c calls ih =>
      have rest := @ih ((pullCells c.attempt).after cell c.trace)
      exact (and_congr_right fun _ => (and_congr_right fun _ => rest).trans and_assoc.symm).trans
        and_assoc.symm

/-- What one call does to the cell, when no other call is in the body of the `Do`: nothing, when it
does not come to `ensureImage` or comes there late, and otherwise it settles it. -/
theorem after_call (chosen : strategyForLanguage lang = .ok m.strategy)
    (settled : cell = {} ∨ cell.once = .done)
    (run : Exec (m.prepare c.script) c.trace c.outcome)
    (allowed : (pullCells c.attempt).Allowed cell c.trace) :
    (pullCells c.attempt).after cell c.trace =
      if c.comes m ∧ cell.once ≠ .done then
        { once := .done, pullErr := c.attempt.pullErr m.runtime.images }
      else cell := by
  have one := ((cell_module chosen settled c.script).sound run allowed).2
  by_cases comes : c.script.language = m.runtime.language
  · rw [if_pos comes] at one
    rw [one.1]
    by_cases done : cell.once = .done
    · rw [if_pos done, if_neg fun both => both.2 done]
    · rw [if_neg done, if_pos ⟨decide_eq_true comes, done⟩]
  · rw [if_neg comes] at one
    rw [one, if_neg fun both => comes (of_decide_eq_true both.1)]

/-- Once it is settled, the cell stays as it is, over any number of calls; the induction is on their
history. -/
theorem cellAfter_done (chosen : strategyForLanguage lang = .ok m.strategy)
    (done : cell.once = .done) (history : CallsFrom m cell calls) : cellAfter cell calls = cell := by
  induction calls with
  | nil => rfl
  | cons c calls ih =>
      obtain ⟨run, allowed, rest⟩ := history
      have same := after_call chosen (Or.inr done) run allowed
      rw [if_neg fun both => both.2 done] at same
      rw [same] at rest
      simp only [cellAfter, List.foldl_cons, same]
      exact ih rest

/-- The first call that comes to `ensureImage` settles the cell. -/
theorem cellAfter_eq (chosen : strategyForLanguage lang = .ok m.strategy)
    (history : CallsFrom m {} calls) :
    cellAfter {} calls =
      match calls.find? fun c => c.comes m with
      | none => {}
      | some first => { once := .done, pullErr := first.attempt.pullErr m.runtime.images } := by
  induction calls with
  | nil => rfl
  | cons c calls ih =>
      obtain ⟨run, allowed, rest⟩ := history
      have one := after_call chosen (Or.inl rfl) run allowed
      simp only [cellAfter, List.foldl_cons]
      by_cases comes : c.comes m = true
      · rw [if_pos ⟨comes, OnceState.noConfusion⟩] at one
        rw [one] at rest ⊢
        rw [List.find?_cons_of_pos comes]
        exact cellAfter_done chosen rfl rest
      · rw [if_neg fun both => comes both.1] at one
        rw [one] at rest ⊢
        rw [List.find?_cons_of_neg comes]
        exact ih rest

/-- A call fails in `ensureImage` when it comes to it and finds an error stored. -/
theorem failsInEnsureImage_iff (chosen : strategyForLanguage lang = .ok m.strategy)
    (settled : cell = {} ∨ cell.once = .done)
    (run : Exec (m.prepare c.script) c.trace c.outcome)
    (allowed : (pullCells c.attempt).Allowed cell c.trace) :
    c.FailsInEnsureImage m ↔
      c.comes m = true ∧ ((pullCells c.attempt).after cell c.trace).pullErr ≠ none := by
  constructor
  · rintro ⟨comes, err, ensured, -⟩
    have stored := ((cell_ensureImage m.runtime settled).sound ensured allowed).2.2
    refine ⟨comes, fun none => ?_⟩
    rw [none] at stored
    cases stored
  · rintro ⟨comes, stored⟩
    refine ⟨comes, ?_⟩
    unfold Module.prepare at run
    rw [if_neg (not_not.mpr (of_decide_eq_true comes)), exec_bind] at run
    obtain ⟨t₁, t₂, r, split, ensured, rest⟩ := run
    rw [split, Contract.allowed_append] at allowed
    have reached := ((cell_ensureImage m.runtime settled).sound ensured allowed.1).2
    cases r with
    | some err =>
        obtain ⟨rfl, failed⟩ := exec_ret.mp rest
        rw [List.append_nil] at split
        rw [split]
        exact ⟨err, ensured, failed⟩
    | none =>
        have kept := ((cell_uses (uses_strategy chosen m.runtime c.script)).sound rest allowed.2).2.2
        rw [split, Contract.after_append, kept] at stored
        exact (stored (Option.map_eq_none_iff.mp reached.2.symm)).elim

/-- A call that comes to `ensureImage` returns the error that is stored after it. -/
theorem outcome_of_stored (chosen : strategyForLanguage lang = .ok m.strategy)
    (settled : cell = {} ∨ cell.once = .done)
    (run : Exec (m.prepare c.script) c.trace c.outcome)
    (allowed : (pullCells c.attempt).Allowed cell c.trace) (comes : c.comes m = true)
    {err : PullError} (stored : ((pullCells c.attempt).after cell c.trace).pullErr = some err) :
    c.outcome = .failed err.toError := by
  have one := ((cell_module chosen settled c.script).sound run allowed).2
  rw [if_pos (of_decide_eq_true comes)] at one
  exact one.2 err stored

/-- The first call that comes to `ensureImage` returns the error of its pulls. -/
theorem outcome_first (chosen : strategyForLanguage lang = .ok m.strategy)
    (history : CallsFrom m {} calls) {first : PrepareCall}
    (found : calls.find? (fun c => c.comes m) = some first) {err : PullError}
    (failed : first.attempt.pullErr m.runtime.images = some err) :
    first.outcome = .failed err.toError := by
  obtain ⟨comes, before, after, rfl, others⟩ := List.find?_eq_some_iff_append.mp found
  obtain ⟨earlier, run, allowed, -⟩ := callsFrom_append.mp history
  have nobody : before.find? (fun c => c.comes m) = none :=
    List.find?_eq_none.mpr fun c member => by simpa using others c member
  have fresh := cellAfter_eq chosen earlier
  rw [nobody] at fresh
  rw [fresh] at allowed
  refine outcome_of_stored chosen (Or.inl rfl) run allowed comes ?_
  rw [after_call chosen (Or.inl rfl) run allowed, if_pos ⟨comes, OnceState.noConfusion⟩]
  exact failed

/-- A call that comes to `ensureImage` after another one pulls nothing; it fails there when the
pulls of the first one that came had not succeeded, and with the error of that one. -/
theorem later_call (chosen : strategyForLanguage lang = .ok m.strategy)
    (history : CallsFrom m {} (calls ++ [c])) {first : PrepareCall}
    (found : calls.find? (fun c => c.comes m) = some first) (comes : c.comes m = true) :
    c.trace.filterMap pullOf = [] ∧ (c.FailsInEnsureImage m ↔ ¬ first.PullsSucceed m) ∧
      (¬ first.PullsSucceed m → c.outcome = first.outcome) := by
  obtain ⟨before, run, allowed, -⟩ := callsFrom_append.mp history
  have cell := cellAfter_eq chosen before
  rw [found] at cell
  rw [cell] at allowed
  have same := after_call chosen (Or.inr rfl) run allowed
  rw [if_neg fun both => both.2 rfl] at same
  refine ⟨?_, ?_, fun failed => ?_⟩
  · have kept := ((cell_module chosen (Or.inr rfl) c.script).sound run allowed).1
    exact pulls_done rfl allowed kept
  · rw [failsInEnsureImage_iff chosen (Or.inr rfl) run allowed, same]
    exact (and_iff_right comes).trans (not_congr Attempt.pullErr_eq_none)
  · obtain ⟨err, stored⟩ := Option.ne_none_iff_exists'.mp (mt Attempt.pullErr_eq_none.mp failed)
    rw [outcome_first chosen before found stored]
    refine outcome_of_stored chosen (Or.inr rfl) run allowed comes ?_
    rw [same]
    exact stored

/-- A call that is the first to come to `ensureImage` does not fail there when its pulls succeed. -/
theorem first_call (chosen : strategyForLanguage lang = .ok m.strategy)
    (history : CallsFrom m {} (calls ++ [c])) (nobody : calls.find? (fun c => c.comes m) = none)
    (favourable : c.Favourable m) : ¬ c.FailsInEnsureImage m := by
  obtain ⟨before, run, allowed, -⟩ := callsFrom_append.mp history
  have cell := cellAfter_eq chosen before
  rw [nobody] at cell
  rw [cell] at allowed
  have pulled : c.attempt.pullErr m.runtime.images = none := by
    refine Attempt.pullErr_eq_none.mpr fun ref inside => ?_
    unfold Attempt.imagePull
    rw [favourable.1]
    exact favourable.2 ref inside
  rw [failsInEnsureImage_iff chosen (Or.inl rfl) run allowed,
    after_call chosen (Or.inl rfl) run allowed]
  rintro ⟨comes, stored⟩
  rw [if_pos ⟨comes, OnceState.noConfusion⟩] at stored
  exact stored pulled

end Calls

/-- **A failed pull is remembered.**  A call whose own pulls would succeed fails in `ensureImage`
exactly when it comes there and the pulls of the first call that did had not succeeded.  And
whatever its circumstances, a call that comes there after another one pulls nothing: it fails there
when the pulls of the first one had not succeeded, with the error of that one, and only then. -/
theorem ensureImage_remembers {lang : Language} {cfg : LanguageConfig} {env : ContainerEngine}
    {m : Module} (built : newModule lang cfg env = .ok m) {calls : List PrepareCall}
    {c : PrepareCall} (history : CallsFrom m {} (calls ++ [c])) :
    (c.Favourable m → (c.FailsInEnsureImage m ↔ c.comes m = true ∧
      ∃ first, calls.find? (fun c => c.comes m) = some first ∧ ¬ first.PullsSucceed m)) ∧
    ∀ first, calls.find? (fun c => c.comes m) = some first → c.comes m = true →
      c.trace.filterMap pullOf = [] ∧ (c.FailsInEnsureImage m ↔ ¬ first.PullsSucceed m) ∧
        (¬ first.PullsSucceed m → c.outcome = first.outcome) := by
  have chosen := (newModule_ok built).2
  refine ⟨fun favourable => ⟨fun fails => ?_, ?_⟩, fun first found comes => ?_⟩
  · cases found : calls.find? fun c => c.comes m with
    | none => exact absurd fails (first_call chosen history found favourable)
    | some first =>
        have later := later_call chosen history found fails.1
        exact ⟨fails.1, first, rfl, later.2.1.mp fails⟩
  · rintro ⟨comes, first, found, failed⟩
    exact (later_call chosen history found comes).2.1.mpr failed
  · exact later_call chosen history found comes

/-! ## A cancelled first call -/

/-- The module of Python in `pythonConfig`. -/
def pythonModule : Module where
  runtime := ⟨.python, ⟨"python:3.12-alpine", "python:3.12-alpine", "/tmp"⟩,
    newContainerEngine pythonConfig.defaultLimits⟩
  strategy := pythonStrategy

theorem pythonModule_built :
    newModule .python ⟨"python:3.12-alpine", [], []⟩ (newContainerEngine pythonConfig.defaultLimits) =
      .ok pythonModule := rfl

/-- What is stored when the first pull is cancelled. -/
def cancelledPull : PullError := .pull "python:3.12-alpine" CtxErr.canceled.toError

/-- The first call, made under a context that is cancelled. -/
def cancelledCall : PrepareCall where
  script := echoTwice
  attempt := ⟨some .canceled, fun _ => .value ()⟩
  trace := [⟨.pullOnceDo .python, true⟩,
    ⟨.imagePull .caller "python:3.12-alpine", .refused CtxErr.canceled.toError⟩,
    ⟨.setPullErr .python cancelledPull, ()⟩, ⟨.pullOnceDone .python, ()⟩,
    ⟨.pullErr .python, some cancelledPull⟩]
  outcome := .failed cancelledPull.toError

/-- A later call, whose pull would succeed. -/
def laterCall : PrepareCall where
  script := echoTwice
  attempt := ⟨none, fun _ => .value ()⟩
  trace := [⟨.pullOnceDo .python, false⟩, ⟨.pullErr .python, some cancelledPull⟩]
  outcome := .failed cancelledPull.toError

theorem laterCall_favourable : laterCall.Favourable pythonModule := ⟨rfl, fun _ _ => rfl⟩

theorem laterCall_history : CallsFrom pythonModule {} ([cancelledCall] ++ [laterCall]) := by
  have first : Exec (pythonModule.prepare echoTwice) cancelledCall.trace cancelledCall.outcome :=
    .call (.call (.call (.call (.call (.ret _)))))
  have later : Exec (pythonModule.prepare echoTwice) laterCall.trace laterCall.outcome :=
    .call (.call (.ret _))
  exact ⟨first, ⟨rfl, rfl, trivial, trivial, rfl, trivial⟩, later, ⟨rfl, rfl, trivial⟩, trivial⟩

/-- The later call pulls nothing, and returns the error of the cancelled one. -/
theorem ensureImage_remembers_cancelled :
    laterCall.FailsInEnsureImage pythonModule ∧ laterCall.trace.filterMap pullOf = [] ∧
      laterCall.outcome = cancelledCall.outcome := by
  have failed : ¬ cancelledCall.PullsSucceed pythonModule := fun succeed =>
    nomatch succeed "python:3.12-alpine" List.mem_cons_self
  obtain ⟨favourably, after⟩ := ensureImage_remembers pythonModule_built laterCall_history
  obtain ⟨pulled, -, outcome⟩ := after cancelledCall rfl rfl
  exact ⟨(favourably laterCall_favourable).mpr ⟨rfl, cancelledCall, rfl, failed⟩, pulled,
    outcome failed⟩

/-- A call can fail in `ensureImage` although its own pulls would succeed. -/
theorem laterCall_fails :
    ¬ ∀ lang cfg env m calls c, newModule lang cfg env = .ok m → CallsFrom m {} (calls ++ [c]) →
        c.Favourable m → ¬ c.FailsInEnsureImage m := by
  intro recovers
  refine recovers _ _ _ pythonModule [cancelledCall] laterCall pythonModule_built
    laterCall_history laterCall_favourable ⟨rfl, cancelledPull.toError, ?_, rfl⟩
  exact .call (.call (.ret _))

end Scrc
