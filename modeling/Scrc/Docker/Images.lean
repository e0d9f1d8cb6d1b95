import Scrc.Docker.TimeLimit

/-!
# Pulling images and using them

Which calls have to do with the images of a language: the pulls of `ensureImage`, and the containers
that the rest of a preparation and the runs of prepared scripts create.

* `Uses`: what comes after `ensureImage` pulls nothing, and creates containers only from the images
  that `ensureImage` pulls.
* `pullContract`: where a thread is with the images of its language, and what it may do there.
* `pulls_module`: what `module.Prepare` keeps to.
-/

namespace Scrc

open Interaction

/-! ## The parts that only use images -/

/-- The images that `ensureImage` pulls. -/
def LanguageRuntime.images (l : LanguageRuntime) : List GoString :=
  if l.config.runImage ≠ l.config.image then [l.config.image, l.config.runImage]
  else [l.config.image]

/-- The call has nothing to do with pulling, and makes a container from one of the images only. -/
def DockerCall.Uses (images : List GoString) : DockerCall → Prop
  | .pullOnceDo _ => False
  | .pullOnceDone _ => False
  | .setPullErr _ _ => False
  | .pullErr _ => False
  | .imagePull _ _ => False
  | .containerCreate _ config _ => config.image ∈ images
  | _ => True

section Uses

variable {α : Type} {images : List GoString} {id : GoString} {start : Int64}

/-- The program makes such calls only, and what it returns satisfies `R`. -/
abbrev Uses (images : List GoString) (p : Proc Docker α) (R : α → Prop) : Prop :=
  p.Meets (Contract.calls (DockerCall.Uses images)) () fun a _ => R a

/-- One call that names only these images, or none, and then the rest. -/
theorem uses_ask {c : DockerCall} {k : DockerReply c → Proc Docker α} {R : α → Prop}
    (uses : c.Uses images) (next : ∀ r, Uses images (k r) R) : Uses images (ask c >>= k) R :=
  ⟨uses, fun r _ => next r⟩

/-- The end of a run uses no image: it waits, stops, reads the logs, and no such call creates
anything. -/
theorem uses_concluding {p : Proc Docker α} (concluding : Concludes p) :
    Uses images p fun _ => True := by
  refine concluding.calls_mono fun c concludes => ?_
  cases c with
  | pullOnceDo => cases concludes
  | pullOnceDone => cases concludes
  | setPullErr => cases concludes
  | pullErr => cases concludes
  | imagePull => cases concludes
  | containerCreate => cases concludes
  | _ => trivial

/-- Programs that only ask the contexts name no image at all. -/
theorem uses_asking {p : Proc Docker α} (asking : Asks p) : Uses images p fun _ => True :=
  uses_concluding (concludes_asking asking)

/-- The one call that creates a container names the image it is given. -/
theorem uses_createContainerWithImage (runtime : LanguageRuntime) (limits : RunLimits)
    (cmd : List GoString) (attachStdin : Bool) {image : GoString} (inside : image ∈ images) :
    Uses images (createContainerWithImage runtime limits cmd attachStdin image) fun _ => True := by
  unfold createContainerWithImage
  refine uses_ask inside fun r => ?_
  cases r with
  | error err => trivial
  | ok id => trivial

/-- After its creation a container is known by its id, so that no image is named any more. -/
theorem uses_runAttached (limits : RunLimits) (stdin : GoString) (attachStdin : Bool) :
    Uses images (runAttached limits id stdin attachStdin) fun _ => True := by
  have started : ∀ start, Uses images (runStarted limits id start) fun _ => True :=
    fun start => uses_concluding (concludes_runStarted limits)
  unfold runAttached
  refine uses_ask trivial fun start => uses_ask trivial fun r => ?_
  cases r with
  | error err => trivial
  | ok _ =>
      simp only
      split
      · refine uses_ask trivial fun r => ?_
        cases r with
        | error err => trivial
        | ok _ => exact uses_ask trivial fun _ => started start
      · exact started start

/-- Nor is any while the files are copied into it. -/
theorem uses_runCreated (runtime : LanguageRuntime) (limits : RunLimits) (files : List FileSpec)
    (stdin : GoString) (attachStdin : Bool) :
    Uses images (runCreated runtime limits files id stdin attachStdin) fun _ => True := by
  unfold runCreated
  apply (uses_asking (asks_copyFiles id runtime.config.workdir files)).bind
  intro r _ _
  cases r with
  | error err => trivial
  | ok _ =>
      simp only
      split
      · refine (uses_asking asks_callerOrBackground).bind fun ctx _ _ => uses_ask trivial fun r => ?_
        cases r with
        | error err => trivial
        | ok _ =>
            exact (uses_runAttached limits stdin attachStdin).deferring fun _ _ _ =>
              uses_ask trivial fun _ => trivial
      · exact uses_runAttached limits stdin attachStdin

/-- Nor while it is removed. -/
theorem uses_cleanup : Uses images (cleanup id) fun _ => True :=
  uses_ask trivial fun _ => trivial

/-- The image for builds is one of the images of a language. -/
theorem LanguageRuntime.image_mem (l : LanguageRuntime) : l.config.image ∈ l.images := by
  unfold LanguageRuntime.images
  split
  · exact List.mem_cons_self
  · exact List.mem_cons_self

/-- So is the image for runs, whether it is configured or falls back to the one for builds. -/
theorem LanguageRuntime.runImage_mem (l : LanguageRuntime) : l.runImage ∈ l.images := by
  unfold LanguageRuntime.runImage
  split
  · unfold LanguageRuntime.images
    split
    · exact List.mem_cons_of_mem _ List.mem_cons_self
    · next same => exact List.mem_singleton.mpr (not_not.mp same)
  · exact l.image_mem

/-- A run makes its container from the run image, whatever comes of the creation. -/
theorem uses_runProgram (runtime : LanguageRuntime) (limits : RunLimits) (command : List GoString)
    (files : List FileSpec) (stdin : GoString) (attachStdin : Bool) :
    Uses runtime.images (runProgram runtime limits command files stdin attachStdin)
      fun _ => True := by
  unfold runProgram
  apply (uses_createContainerWithImage _ _ _ _ runtime.runImage_mem).bind
  intro created _ _
  cases created with
  | error err => trivial
  | ok id =>
      exact (uses_runCreated runtime _ files stdin attachStdin).deferring fun _ _ _ => uses_cleanup

/-- What a preparation returns may be run on any input. -/
def PrepareOutcome.RunsOn (images : List GoString) (o : PrepareOutcome Docker) : Prop :=
  ∀ p, o.prepared = some p → ∀ stdin, Uses images (p.run stdin) fun _ => True

/-- Where no script is prepared there is nothing that could be run. -/
theorem PrepareOutcome.RunsOn.none {o : PrepareOutcome Docker} (none : o.prepared = none) :
    o.RunsOn images := by
  intro p prepared
  rw [none] at prepared
  cases prepared

/-- What the extraction prepares runs on the image for runs of its language. -/
theorem uses_extract (spec : CompiledLanguage) (lang : LanguageRuntime) (runLimits : RunLimits)
    (buildResult : Result) :
    Uses lang.images (spec.extract lang runLimits id buildResult) (·.RunsOn lang.images) := by
  unfold CompiledLanguage.extract
  split
  · exact .none rfl
  · have copied : ∀ path, Uses lang.images (copyFileFromContainer id path) fun _ => True := by
      intro path
      unfold copyFileFromContainer
      refine uses_ask trivial fun r => ?_
      cases r with
      | error err => trivial
      | ok entries => trivial
    apply (copied _).bind
    intro r _ _
    cases r with
    | error err => exact .none rfl
    | ok binary =>
        intro p prepared stdin
        cases prepared
        exact uses_runProgram lang runLimits _ _ stdin true

/-- The build that was started names no image, and leaves this to the extraction. -/
theorem uses_buildStarted (spec : CompiledLanguage) (lang : LanguageRuntime)
    (runLimits buildLimits : RunLimits) :
    Uses lang.images (spec.buildStarted lang runLimits buildLimits id start)
      (·.RunsOn lang.images) := by
  unfold CompiledLanguage.buildStarted
  apply (uses_concluding (concludes_awaitExit buildLimits)).bind
  intro awaited _ _
  cases awaited with
  | failed err => exact .none rfl
  | timeLimit =>
      apply (uses_concluding concludes_handleTimeLimit).bind
      intro outcome _ _
      rcases outcome with ⟨result, _ | err⟩
      · exact .none rfl
      · exact .none rfl
  | exited status =>
      apply (uses_asking (asks_collectResult id start status)).bind
      intro r _ _
      cases r with
      | error err => exact .none rfl
      | ok buildResult => exact uses_extract spec lang runLimits buildResult

/-- A build makes its container from the build image, and prepares a script that runs on the image
for runs. -/
theorem uses_prepare (spec : CompiledLanguage) (lang : LanguageRuntime) (script : Script) :
    Uses lang.images (spec.prepare lang script) (·.RunsOn lang.images) := by
  unfold CompiledLanguage.prepare createContainer
  apply (uses_createContainerWithImage _ _ _ _ lang.image_mem).bind
  intro created _ _
  cases created with
  | error err => exact .none rfl
  | ok id =>
      refine Proc.Meets.deferring (R := fun o _ => o.RunsOn lang.images) ?_ fun o _ runs =>
        uses_cleanup.mono fun _ _ _ => runs
      unfold CompiledLanguage.buildCreated
      apply (uses_asking (asks_copyFiles _ _ _)).bind
      intro r _ _
      cases r with
      | error err => exact .none rfl
      | ok _ =>
          refine uses_ask trivial fun start => uses_ask trivial fun r => ?_
          cases r with
          | error err => exact .none rfl
          | ok _ => exact uses_buildStarted spec lang _ _

/-- Every strategy keeps to the images of its own language, in its builds and in the runs of what it
prepares. -/
theorem uses_strategy {lang : Language} {strategy : LanguageStrategy}
    (chosen : strategyForLanguage lang = .ok strategy) (l : LanguageRuntime) (script : Script) :
    Uses l.images (strategy l script) (·.RunsOn l.images) := by
  rcases strategyForLanguage_cases chosen with rfl | ⟨spec, rfl⟩
  · intro p prepared stdin
    cases prepared
    exact uses_runProgram l script.limits _ _ stdin true
  · exact uses_prepare spec l script

end Uses

/-! ## The phases of a thread -/

/-- Where a thread is with the images of its language. -/
inductive PullPhase where
  | idle
  /-- In the body of `pullOnce.Do`, with these images still to pull. -/
  | pulling (rest : List GoString)
  /-- ... after a pull that failed. -/
  | failing
  /-- ... after the error was stored. -/
  | failed
  /-- Past `pullOnce.Do`. -/
  | past
  /-- `pullErr` was nil. -/
  | ready
  | refused

/-- The thread is in the body of `pullOnce.Do`. -/
def PullPhase.inBody : PullPhase → Bool
  | .pulling _ => true
  | .failing => true
  | .failed => true
  | _ => false

/-- What a call of a thread of `lang` needs of its phase. -/
def pullObliges (lang : Language) (images : List GoString) (ph : PullPhase) : DockerCall → Prop
  | .pullOnceDo l => ph = .idle ∧ l = lang
  | .imagePull _ ref => ∃ rest, ph = .pulling (ref :: rest)
  | .setPullErr l _ => ph = .failing ∧ l = lang
  | .pullOnceDone l => (ph = .pulling [] ∨ ph = .failed) ∧ l = lang
  | .pullErr l => ph = .past ∧ l = lang
  | .containerCreate _ config _ => ph = .ready ∧ config.image ∈ images
  | _ => True

/-- The phase after a call with its reply. -/
def PullPhase.next (images : List GoString) (ph : PullPhase) :
    (c : DockerCall) → DockerReply c → PullPhase
  | .pullOnceDo _, true => .pulling images
  | .pullOnceDo _, false => .past
  | .imagePull _ _, .value _ =>
      match ph with
      | .pulling (_ :: rest) => .pulling rest
      | other => other
  | .imagePull _ _, _ => .failing
  | .setPullErr _ _, _ => .failed
  | .pullOnceDone _, _ => .past
  | .pullErr _, none => .ready
  | .pullErr _, some _ => .refused
  | _, _ => ph

/-- The contract of a thread of `lang` whose images are `images`: every reply is possible. -/
def pullContract (lang : Language) (images : List GoString) : Contract Docker PullPhase where
  obliges := pullObliges lang images
  allows _ _ _ := True
  next := PullPhase.next images

section Contract

variable {α : Type} {lang : Language} {images : List GoString} {ph : PullPhase}

/-- One call that is in order in this phase, and then the rest in the next. -/
theorem pulls_ask {c : DockerCall} {k : DockerReply c → Proc Docker α} {Q : α → PullPhase → Prop}
    (owed : pullObliges lang images ph c)
    (next : ∀ r, (k r).Meets (pullContract lang images) (ph.next images c r) Q) :
    (ask c >>= k).Meets (pullContract lang images) ph Q :=
  ⟨owed, fun r _ => next r⟩

/-- A pull that succeeds takes the image off the list; one that fails ends the pulling, and no other
image is tried. -/
theorem pulls_pullImage {ref : GoString} {rest : List GoString} :
    (pullImage ref).Meets (pullContract lang images) (.pulling (ref :: rest)) fun r ph' =>
      (r = none ∧ ph' = .pulling rest) ∨ ∃ err, r = some err ∧ ph' = .failing := by
  unfold pullImage
  refine pulls_ask ⟨rest, rfl⟩ fun r => ?_
  cases r with
  | refused err => exact Or.inr ⟨_, rfl, rfl⟩
  | broken err => exact Or.inr ⟨_, rfl, rfl⟩
  | value _ => exact Or.inl ⟨rfl, rfl⟩

/-- The body pulls the images in turn, and stores the error of the one that failed. -/
theorem pulls_pullImages (l : LanguageRuntime) :
    l.pullImages.Meets (pullContract l.language images) (.pulling l.images) fun _ ph' =>
      ph' = .pulling [] ∨ ph' = .failed := by
  have store : ∀ err, (ask (.setPullErr l.language err)).Meets (pullContract l.language images)
      .failing fun _ ph' => ph' = .pulling [] ∨ ph' = .failed :=
    fun err => ⟨⟨rfl, rfl⟩, fun _ _ => Or.inr rfl⟩
  unfold LanguageRuntime.pullImages LanguageRuntime.images
  split
  · apply pulls_pullImage.bind
    intro first ph' reached
    rcases reached with ⟨rfl, rfl⟩ | ⟨err, rfl, rfl⟩
    · apply pulls_pullImage.bind
      intro second ph' reached
      rcases reached with ⟨rfl, rfl⟩ | ⟨err, rfl, rfl⟩
      · exact Or.inl rfl
      · exact store err
    · exact store err
  · apply pulls_pullImage.bind
    intro first ph' reached
    rcases reached with ⟨rfl, rfl⟩ | ⟨err, rfl, rfl⟩
    · exact Or.inl rfl
    · exact store err

/-- Whoever comes through `ensureImage` without an error finds the images pulled, be it by this call
or by an earlier one. -/
theorem pulls_ensureImage (l : LanguageRuntime) :
    l.ensureImage.Meets (pullContract l.language l.images) .idle fun r ph' =>
      r = none → ph' = .ready := by
  have read : (do
      let pullErr : Option PullError ← ask (.pullErr l.language)
      return pullErr.map PullError.toError).Meets (pullContract l.language l.images) .past
        fun r ph' => r = none → ph' = PullPhase.ready := by
    refine pulls_ask ⟨rfl, rfl⟩ fun r => ?_
    cases r with
    | none => exact fun _ => rfl
    | some err => exact fun absurd => nomatch absurd
  unfold LanguageRuntime.ensureImage
  refine pulls_ask ⟨rfl, rfl⟩ fun first => ?_
  cases first with
  | false => exact read
  | true =>
      apply (pulls_pullImages l).bind
      intro _ ph' reached
      exact pulls_ask ⟨reached, rfl⟩ fun _ => read

/-- In the phase `ready` a thread may do everything that only uses the images. -/
theorem pulls_uses {p : Proc Docker α} {R : α → Prop} (uses : Uses images p R) :
    p.Meets (pullContract lang images) PullPhase.ready fun a ph' => R a ∧ ph' = .ready := by
  refine uses.of_calls (fun c uses => ?_) fun c r uses => ?_
  · cases c with
    | containerCreate => exact ⟨rfl, uses⟩
    | pullOnceDo => cases uses
    | pullOnceDone => cases uses
    | setPullErr => cases uses
    | pullErr => cases uses
    | imagePull => cases uses
    | _ => trivial
  · cases c with
    | pullOnceDo => cases uses
    | pullOnceDone => cases uses
    | setPullErr => cases uses
    | pullErr => cases uses
    | imagePull => cases uses
    | _ => rfl

/-- The phase in which a thread may return a prepared script: that one may be run. -/
def Readied (images : List GoString) (o : Option (PreparedScript Docker)) (ph : PullPhase) : Prop :=
  ∀ p, o = some p → ph = .ready ∧ ∀ stdin, Uses images (p.run stdin) fun _ => True

/-- A preparation names an image only after `ensureImage`, and what it prepares is readied for its
runs. -/
theorem pulls_module {m : Module} (chosen : strategyForLanguage lang = .ok m.strategy)
    (script : Script) :
    (m.prepare script).Meets (pullContract m.runtime.language m.runtime.images) .idle fun o ph =>
      Readied m.runtime.images o.prepared ph := by
  unfold Module.prepare
  split
  · exact fun p absurd => nomatch absurd
  · apply (pulls_ensureImage m.runtime).bind
    intro r ph reached
    cases r with
    | some err => exact fun p absurd => nomatch absurd
    | none =>
        rw [reached rfl]
        exact (pulls_uses (uses_strategy chosen m.runtime script)).mono fun o ph both p prepared =>
          ⟨both.2, both.1 p prepared⟩

end Contract

end Scrc
