import Mathlib.Data.List.Count
import Mathlib.Data.List.Nodup
import Scrc.Simulator.Scenario

/-!
# The producer of the simulator

`ScriptProducerService.run` sends what the generator `stream_scripts` yields and counts it, while
`expected_counts_from_scenarios` says without looking at the generator how much that is.

* `passes`: the submissions of a number of passes over the scenarios.
* `exec_streamPass`, `exec_streamScripts`: what is sent is the beginning of them, wherever the stop
  event or an exception ends the generator.
* `submissions_expected`: sent to the end they have pairwise distinct ids, and the counters are the
  expected ones.

The loop of the generator is given a number of passes that it may make at most; a number that is
large enough makes no difference.
-/

namespace Scrc

open Interaction

/-! ## The generator -/

/-- The calls of the producer; an exception is its text. -/
inductive ProducerCall where
  /-- `stop_event.is_set()` -/
  | isSet
  /-- `stop_event.wait(interval_s)` -/
  | wait (interval : Rat)
  /-- `time.sleep(interval_s)` -/
  | sleep (interval : Rat)
  /-- `producer.send`, and `get` of the future that it returns -/
  | send (topic key : String) (value : Json.Value)
  | flush
  | close

@[reducible]
def ProducerReply : ProducerCall → Type
  | .isSet => Bool
  | .wait _ => Bool
  | .sleep _ => Unit
  | .send _ _ _ => Except String Unit
  | .flush => Unit
  | .close => Unit

abbrev Producer : Interface := ⟨ProducerCall, ProducerReply⟩

abbrev askProducer (c : ProducerCall) : Proc Producer (ProducerReply c) :=
  Proc.ask (I := Producer) c

/-- How a pass over the scenarios ends: behind the last one, at the stop event, or in an exception
of the loop that it yields to. -/
inductive PassEnd where
  | passed
  | stopped
  | raised (err : String)
  deriving DecidableEq

/-- How the generator ends; the last case is that of passes that were not allowed for. -/
inductive StreamEnd where
  | ended
  | raised (err : String)
  | outOfPasses
  deriving DecidableEq

/-- `stop_event is not None and stop_event.is_set()` -/
def stopRequested (stopEvent : Bool) : Proc Producer Bool :=
  if stopEvent then askProducer .isSet else return false

/-- The end of an iteration: whether the stop event ends the pause. -/
def pause (stopEvent : Bool) (interval : Rat) : Proc Producer Bool :=
  if interval ≤ 0 then return false
  else if stopEvent then askProducer (.wait interval)
  else do
    askProducer (.sleep interval)
    return false

/-- `max_iterations is not None and iteration > max_iterations` -/
def exhausted (maxIterations : Option Int) (iteration : Nat) : Bool :=
  match maxIterations with
  | none => false
  | some bound => bound < iteration

section Generator

-- `body` is the loop that the generator yields to
variable (body : Counter → Submission → Proc Producer (Except String Counter)) (stopEvent : Bool)

/-- The loop of `stream_scripts` over the scenarios. -/
def streamPass (iteration : Nat) :
    List ScriptScenario → Counter → Proc Producer (PassEnd × Counter)
  | [], counters => return (.passed, counters)
  | scenario :: rest, counters => do
      if ← stopRequested stopEvent then
        return (.stopped, counters)
      match ← body counters ⟨scenario, iteration⟩ with
      | .error err => return (.raised err, counters)
      | .ok counters => streamPass iteration rest counters

/-- `stream_scripts`, from the pass of this number on. -/
def streamScripts (scenarios : List ScriptScenario) (interval : Rat) (maxIterations : Option Int) :
    Nat → Nat → Counter → Proc Producer (StreamEnd × Counter)
  | 0, _, counters => return (.outOfPasses, counters)
  | allowed + 1, iteration, counters => do
      match ← streamPass body stopEvent iteration scenarios counters with
      | (.stopped, counters) => return (.ended, counters)
      | (.raised err, counters) => return (.raised err, counters)
      | (.passed, counters) =>
          if exhausted maxIterations (iteration + 1) then
            return (.ended, counters)
          if ← pause stopEvent interval then
            return (.ended, counters)
          streamScripts scenarios interval maxIterations allowed (iteration + 1) counters

end Generator

/-! ## The scenarios -/

def languageExtensions : List (String × String) :=
  [("python", ".py"), ("go", ".go"), ("c", ".c"), ("cpp", ".cpp"), ("java", ".java")]

def outcomes : List String := ["ok", "wa", "tl", "ml", "bf"]

def sumTests : List ScenarioTest := [⟨1, "1 2 3\n", "6\n"⟩, ⟨2, "10 -5 7\n", "12\n"⟩]

def scenarioConfig : List (String × ScenarioLimits × List ScenarioTest) :=
  [("ok", ⟨2000, 256 * 1024 * 1024⟩, sumTests),
    ("wa", ⟨2000, 256 * 1024 * 1024⟩, sumTests),
    ("tl", ⟨1000, 256 * 1024 * 1024⟩, [⟨1, "", ""⟩]),
    ("ml", ⟨5000, 16 * 1024 * 1024⟩, [⟨1, "", ""⟩]),
    ("bf", ⟨2000, 256 * 1024 * 1024⟩, [])]

/-- `load_script_source`; `readText` reads a file of a directory under `SCRIPTS_DIR`, and the lookup
is that of a dictionary. -/
def loadScriptSource (readText : String → String → String) (language outcome : String) :
    Option String :=
  (languageExtensions.lookup language).map fun extension =>
    readText language (outcome ++ extension)

def buildScenarios (readText : String → String → String) : Option (List ScriptScenario) :=
  (languageExtensions.flatMap fun entry => outcomes.map fun outcome => (entry.1, outcome)).mapM
    fun (language, outcome) => do
      let source ← loadScriptSource readText language outcome
      let config ← scenarioConfig.lookup outcome
      return ⟨language, outcome, source, config.1, config.2⟩

/-- There are scenarios, whatever the sources are, and no two of them have one type. -/
theorem buildScenarios_distinct (readText : String → String → String) :
    ∃ scenarios, buildScenarios readText = some scenarios ∧ scenarios ≠ [] ∧
      (scenarios.map ScriptScenario.type).Nodup := by
  have types : (buildScenarios readText).map (fun scenarios => scenarios.map ScriptScenario.type) =
      some (languageExtensions.flatMap fun entry => outcomes.map fun outcome =>
        entry.1 ++ "-" ++ outcome) := rfl
  obtain ⟨scenarios, built, types⟩ := Option.map_eq_some_iff.mp types
  refine ⟨scenarios, built, fun empty => ?_, ?_⟩
  · rw [empty] at types
    exact absurd types (by decide +kernel)
  · rw [types]
    decide +kernel

/-! ## The service -/

structure ScriptProducerService where
  topic : String
  interval : Rat
  maxIterations : Option Int
  scenarios : List ScriptScenario
  counters : Counter := fun _ => 0

/-- `__init__`; `built` is what `build_scenarios` returns. -/
def newScriptProducerService (topic : String) (interval : Rat) (maxIterations : Option Int)
    (scenarios : Option (List ScriptScenario)) (built : List ScriptScenario) :
    ScriptProducerService where
  topic := topic
  interval := interval
  maxIterations := maxIterations
  scenarios := match scenarios with
    | none => built
    | some [] => built
    | some given => given

/-- The body of the loop of `run`. -/
def ScriptProducerService.publish (service : ScriptProducerService) (counters : Counter)
    (b : Submission) : Proc Producer (Except String Counter) := do
  match ← askProducer (.send service.topic b.id (b.scenario.toPayload b.iteration)) with
  | .error err => return .error err
  | .ok _ => return .ok (counters.add b.scenario.type)

/-- `run`, once `create_producer` has returned a producer, with the counters that it leaves. -/
def ScriptProducerService.run (service : ScriptProducerService) (stopEvent : Bool) (allowed : Nat) :
    Proc Producer (StreamEnd × Counter) :=
  Proc.deferring
    (do
      askProducer .flush
      askProducer .close)
    (streamScripts service.publish stopEvent service.scenarios service.interval
      service.maxIterations allowed 1 service.counters)

def expectedCountsFromScenarios (scenarios : List ScriptScenario) (iterations : Int) : Counter :=
  if iterations ≤ 0 then fun _ => 0
  else scenarios.foldl (fun counts s => Function.update counts s.type iterations.toNat) fun _ => 0

/-! ## What is published -/

/-- The message that an event puts on a topic. -/
def publishedBy : Event Producer → Option (String × String × Json.Value)
  | ⟨.send topic key value, .ok _⟩ => some (topic, key, value)
  | _ => none

/-- The messages that are acknowledged, in their order. -/
def published (t : List (Event Producer)) : List (String × String × Json.Value) :=
  t.filterMap publishedBy

/-- The message about a submission. -/
def submissionMessage (topic : String) (b : Submission) : String × String × Json.Value :=
  (topic, b.id, b.scenario.toPayload b.iteration)

/-- Neither the stop event nor an exception. -/
def Smooth : Event Producer → Prop
  | ⟨.isSet, set⟩ => set = false
  | ⟨.wait _, set⟩ => set = false
  | ⟨.send _ _ _, acknowledged⟩ => acknowledged = .ok ()
  | _ => True

/-- The submissions of so many passes, from the one of this number on. -/
def passes (scenarios : List ScriptScenario) : Nat → Nat → List Submission
  | _, 0 => []
  | first, count + 1 =>
      (scenarios.map fun scenario => ⟨scenario, first⟩) ++ passes scenarios (first + 1) count

/-- The counters when so many submissions have been published. -/
def Counter.addAll (counters : Counter) (bs : List Submission) : Counter :=
  bs.foldl (fun counters b => counters.add b.scenario.type) counters

@[simp] theorem published_append (t u : List (Event Producer)) :
    published (t ++ u) = published t ++ published u := List.filterMap_append

@[simp] theorem Counter.addAll_append (counters : Counter) (bs bs' : List Submission) :
    counters.addAll (bs ++ bs') = (counters.addAll bs).addAll bs' := List.foldl_append

/-- What happens in `t` from the counters `old` to `new`: these submissions are published. -/
structure Publishes (topic : String) (bs : List Submission) (old : Counter)
    (t : List (Event Producer)) (new : Counter) : Prop where
  messages : published t = bs.map (submissionMessage topic)
  counters : new = old.addAll bs

/-- The stop event or an exception ends what was to publish `due` in `t`. -/
def CutShort (topic : String) (due : List Submission) (old : Counter) (t : List (Event Producer))
    (new : Counter) : Prop :=
  (¬ ∀ e ∈ t, Smooth e) ∧ ∃ done, done <+: due ∧ Publishes topic done old t new

section Runs

variable {topic : String} {t t' : List (Event Producer)} {bs bs' due : List Submission}
  {old mid new : Counter} {stopEvent : Bool}

theorem Publishes.nil (quiet : published t = []) : Publishes topic [] old t old := ⟨quiet, rfl⟩

theorem Publishes.append (first : Publishes topic bs old t mid)
    (second : Publishes topic bs' mid t' new) : Publishes topic (bs ++ bs') old (t ++ t') new := by
  refine ⟨?_, ?_⟩
  · rw [published_append, first.messages, second.messages, List.map_append]
  · rw [Counter.addAll_append, ← first.counters]
    exact second.counters

/-- A call that publishes nothing, after the others. -/
theorem Publishes.then (first : Publishes topic bs old t new) (quiet : published t' = []) :
    Publishes topic bs old (t ++ t') new := by
  have both := first.append (.nil quiet)
  rw [List.append_nil] at both
  exact both

theorem CutShort.before (first : Publishes topic bs old t mid)
    (cut : CutShort topic due mid t' new) : CutShort topic (bs ++ due) old (t ++ t') new := by
  obtain ⟨rough, done, begun, sent⟩ := cut
  refine ⟨fun smooth => rough fun e member => smooth e (List.mem_append_right t member), bs ++ done,
    (List.prefix_append_right_inj bs).mpr begun, first.append sent⟩

theorem CutShort.then (cut : CutShort topic due old t new) (quiet : published t' = []) :
    CutShort topic due old (t ++ t') new := by
  obtain ⟨rough, done, begun, sent⟩ := cut
  exact ⟨fun smooth => rough fun e member => smooth e (List.mem_append_left t' member), done, begun,
    sent.then quiet⟩

theorem CutShort.extend (cut : CutShort topic due old t new) (rest : List Submission) :
    CutShort topic (due ++ rest) old t new := by
  obtain ⟨rough, done, begun, sent⟩ := cut
  exact ⟨rough, done, begun.trans (List.prefix_append due rest), sent⟩

/-- A call ends it before anything is published. -/
theorem CutShort.here (quiet : published t = []) (rough : ¬ ∀ e ∈ t, Smooth e) :
    CutShort topic due old t old := ⟨rough, [], List.nil_prefix, .nil quiet⟩

/-- The stop event is looked at. -/
theorem exec_stopRequested {stop : Bool} (run : Exec (stopRequested stopEvent) t stop) :
    published t = [] ∧ (stop = true → ¬ ∀ e ∈ t, Smooth e) := by
  unfold stopRequested at run
  cases stopEvent with
  | false =>
      obtain ⟨rfl, rfl⟩ := exec_ret.mp run
      exact ⟨rfl, nofun⟩
  | true =>
      obtain ⟨set, t', rfl, rest⟩ := exec_call.mp run
      obtain ⟨rfl, rfl⟩ := exec_ret.mp rest
      refine ⟨rfl, fun raised smooth => ?_⟩
      have unset : stop = false := smooth _ List.mem_cons_self
      rw [unset] at raised
      cases raised

theorem exec_pause {interval : Rat} {stop : Bool} (run : Exec (pause stopEvent interval) t stop) :
    published t = [] ∧ (stop = true → ¬ ∀ e ∈ t, Smooth e) := by
  unfold pause at run
  split at run
  · obtain ⟨rfl, rfl⟩ := exec_ret.mp run
    exact ⟨rfl, nofun⟩
  · cases stopEvent with
    | false =>
        obtain ⟨_, t', rfl, rest⟩ := exec_call.mp run
        obtain ⟨rfl, rfl⟩ := exec_ret.mp rest
        exact ⟨rfl, nofun⟩
    | true =>
        obtain ⟨set, t', rfl, rest⟩ := exec_call.mp run
        obtain ⟨rfl, rfl⟩ := exec_ret.mp rest
        refine ⟨rfl, fun raised smooth => ?_⟩
        have unset : stop = false := smooth _ List.mem_cons_self
        rw [unset] at raised
        cases raised

variable {service : ScriptProducerService}

/-- One submission is published and counted, or it is not acknowledged. -/
theorem exec_publish {b : Submission} {r : Except String Counter}
    (run : Exec (service.publish old b) t r) :
    (∃ new, r = .ok new ∧ Publishes service.topic [b] old t new) ∨
      ∃ err, r = .error err ∧ published t = [] ∧ ¬ ∀ e ∈ t, Smooth e := by
  unfold ScriptProducerService.publish at run
  obtain ⟨acknowledged, t', rfl, rest⟩ := exec_call.mp run
  cases acknowledged with
  | error err =>
      obtain ⟨rfl, rfl⟩ := exec_ret.mp rest
      refine Or.inr ⟨err, rfl, rfl, fun smooth => ?_⟩
      exact nomatch smooth _ List.mem_cons_self
  | ok =>
      obtain ⟨rfl, rfl⟩ := exec_ret.mp rest
      exact Or.inl ⟨_, rfl, rfl, rfl⟩

/-- **One pass** publishes a submission of every scenario, or it is cut short. -/
theorem exec_streamPass {iteration : Nat} {scenarios : List ScriptScenario}
    {r : PassEnd × Counter}
    (run : Exec (streamPass service.publish stopEvent iteration scenarios old) t r) :
    (r.1 = .passed ∧ Publishes service.topic (scenarios.map (⟨·, iteration⟩)) old t r.2) ∨
      r.1 ≠ .passed ∧ CutShort service.topic (scenarios.map (⟨·, iteration⟩)) old t r.2 := by
  induction scenarios generalizing old t with
  | nil =>
      obtain ⟨rfl, rfl⟩ := exec_ret.mp run
      exact Or.inl ⟨rfl, .nil rfl⟩
  | cons scenario scenarios ih =>
      unfold streamPass at run
      obtain ⟨t₁, t₂, stop, rfl, asked, run⟩ := exec_bind.mp run
      obtain ⟨quiet, raised⟩ := exec_stopRequested asked
      have before : Publishes service.topic [] old t₁ old := .nil quiet
      cases stop with
      | true =>
          obtain ⟨rfl, rfl⟩ := exec_ret.mp run
          exact Or.inr ⟨nofun, (CutShort.here quiet (raised rfl)).then rfl⟩
      | false =>
          obtain ⟨t₃, t₄, sent, rfl, published, run⟩ := exec_bind.mp run
          rcases exec_publish published with ⟨mid, rfl, one⟩ | ⟨err, rfl, quiet', rough⟩
          · rcases ih run with ⟨passed, others⟩ | ⟨stopped, cut⟩
            · exact Or.inl ⟨passed, before.append (one.append others)⟩
            · exact Or.inr ⟨stopped, .before before (.before one cut)⟩
          · obtain ⟨rfl, rfl⟩ := exec_ret.mp run
            exact Or.inr ⟨nofun, .before before ((CutShort.here quiet' rough).then rfl)⟩

/-- What follows a pass over all scenarios. -/
def afterPass (service : ScriptProducerService) (stopEvent : Bool) (allowed iteration : Nat)
    (counters : Counter) : Proc Producer (StreamEnd × Counter) :=
  if exhausted service.maxIterations (iteration + 1) then .ret (.ended, counters)
  else pause stopEvent service.interval >>= fun stop =>
    if stop then .ret (.ended, counters)
    else streamScripts service.publish stopEvent service.scenarios service.interval
      service.maxIterations allowed (iteration + 1) counters

/-- The generator makes a pass and goes on, or the pass is cut short. -/
theorem exec_streamScripts_succ {first allowed : Nat} {r : StreamEnd × Counter}
    (run : Exec (streamScripts service.publish stopEvent service.scenarios service.interval
      service.maxIterations (allowed + 1) first old) t r) :
    (∃ t₁ t₂ mid, t = t₁ ++ t₂ ∧
      Publishes service.topic (service.scenarios.map (⟨·, first⟩)) old t₁ mid ∧
        Exec (afterPass service stopEvent allowed first mid) t₂ r) ∨
      r.1 ≠ .outOfPasses ∧
        CutShort service.topic (service.scenarios.map (⟨·, first⟩)) old t r.2 := by
  unfold streamScripts at run
  obtain ⟨t₁, t₂, ⟨passEnd, mid⟩, rfl, pass, run⟩ := exec_bind.mp run
  rcases exec_streamPass pass with ⟨rfl, all⟩ | ⟨stopped, cut⟩
  · exact Or.inl ⟨t₁, t₂, mid, rfl, all, run⟩
  · right
    cases passEnd with
    | passed => exact absurd rfl stopped
    | stopped =>
        obtain ⟨rfl, rfl⟩ := exec_ret.mp run
        exact ⟨nofun, cut.then rfl⟩
    | raised err =>
        obtain ⟨rfl, rfl⟩ := exec_ret.mp run
        exact ⟨nofun, cut.then rfl⟩

/-- **The generator** publishes every pass, or it is cut short.  The induction is on the passes that
are left. -/
theorem exec_streamScripts {first count allowed : Nat}
    (last : service.maxIterations = some ((first + count : Nat) : Int)) (enough : count < allowed)
    {r : StreamEnd × Counter}
    (run : Exec (streamScripts service.publish stopEvent service.scenarios service.interval
      service.maxIterations allowed first old) t r) :
    (r.1 = .ended ∧
      Publishes service.topic (passes service.scenarios first (count + 1)) old t r.2) ∨
      r.1 ≠ .outOfPasses ∧
        CutShort service.topic (passes service.scenarios first (count + 1)) old t r.2 := by
  induction count generalizing first allowed old t with
  | zero =>
      obtain ⟨allowed, rfl⟩ : ∃ n, allowed = n + 1 := ⟨allowed - 1, by omega⟩
      have whole : passes service.scenarios first (0 + 1) =
          service.scenarios.map (⟨·, first⟩) := List.append_nil _
      rw [whole]
      rcases exec_streamScripts_succ run with ⟨t₁, t₂, mid, rfl, all, run⟩ | cut
      · have reached : exhausted service.maxIterations (first + 1) = true := by
          rw [last]
          exact decide_eq_true (by omega)
        unfold afterPass at run
        rw [if_pos reached] at run
        obtain ⟨rfl, rfl⟩ := exec_ret.mp run
        exact Or.inl ⟨rfl, all.then rfl⟩
      · exact Or.inr cut
  | succ count ih =>
      obtain ⟨allowed, rfl⟩ : ∃ n, allowed = n + 1 := ⟨allowed - 1, by omega⟩
      have whole : passes service.scenarios first (count + 1 + 1) =
          service.scenarios.map (⟨·, first⟩) ++ passes service.scenarios (first + 1) (count + 1) :=
        rfl
      rw [whole]
      rcases exec_streamScripts_succ run with ⟨t₁, t₂, mid, rfl, all, run⟩ | ⟨inPasses, cut⟩
      · have more : exhausted service.maxIterations (first + 1) = false := by
          rw [last]
          exact decide_eq_false (by omega)
        unfold afterPass at run
        rw [if_neg (by rw [more]; nofun)] at run
        obtain ⟨t₃, t₄, stop, rfl, waited, run⟩ := exec_bind.mp run
        obtain ⟨quiet, raised⟩ := exec_pause waited
        cases stop with
        | true =>
            obtain ⟨rfl, rfl⟩ := exec_ret.mp run
            exact Or.inr ⟨nofun, .before all ((CutShort.here quiet (raised rfl)).then rfl)⟩
        | false =>
            have later : service.maxIterations = some ((first + 1 + count : Nat) : Int) := by
              rw [last]
              congr 2
              omega
            have paused : Publishes service.topic [] mid t₃ mid := .nil quiet
            rcases ih later (by omega) run with ⟨ended, others⟩ | ⟨inPasses, cut⟩
            · exact Or.inl ⟨ended, all.append (paused.append others)⟩
            · have resumed := CutShort.before paused cut
              exact Or.inr ⟨inPasses, .before all resumed⟩
      · exact Or.inr ⟨inPasses, cut.extend _⟩

/-- `run` ends as the generator does. -/
theorem exec_run {count allowed : Nat}
    (bound : service.maxIterations = some ((count + 1 : Nat) : Int))
    (enough : count < allowed) {r : StreamEnd × Counter}
    (run : Exec (service.run stopEvent allowed) t r) :
    (r.1 = .ended ∧
      Publishes service.topic (passes service.scenarios 1 (count + 1)) service.counters t r.2) ∨
      r.1 ≠ .outOfPasses ∧
        CutShort service.topic (passes service.scenarios 1 (count + 1)) service.counters t r.2 := by
  unfold ScriptProducerService.run Proc.deferring at run
  obtain ⟨t₁, t₂, r', rfl, streamed, rest⟩ := exec_bind.mp run
  have closes : published t₂ = [] ∧ r = r' := by
    obtain ⟨t₃, t₄, _, rfl, cleanup, returns⟩ := exec_bind.mp rest
    obtain ⟨_, _, rfl, flushed⟩ := exec_call.mp cleanup
    obtain ⟨_, _, rfl, closed⟩ := exec_call.mp flushed
    obtain ⟨rfl, -⟩ := exec_ret.mp closed
    obtain ⟨rfl, rfl⟩ := exec_ret.mp returns
    exact ⟨rfl, rfl⟩
  obtain ⟨quiet, rfl⟩ := closes
  have bound : service.maxIterations = some ((1 + count : Nat) : Int) := by
    rw [bound, Nat.add_comm]
  rcases exec_streamScripts bound enough streamed with ⟨ended, all⟩ | ⟨inPasses, cut⟩
  · exact Or.inl ⟨ended, all.then quiet⟩
  · exact Or.inr ⟨inPasses, cut.then quiet⟩

end Runs

/-! ## What is expected -/

section Expected

variable {scenarios : List ScriptScenario} {type : String}

theorem Counter.addAll_apply (counters : Counter) (bs : List Submission) (type : String) :
    counters.addAll bs type = counters type + bs.countP fun b => b.scenario.type = type := by
  induction bs generalizing counters with
  | nil => rfl
  | cons b bs ih =>
      refine (ih (counters.add b.scenario.type)).trans ?_
      rw [List.countP_cons, Counter.add]
      by_cases here : b.scenario.type = type
      · simp only [here, Function.update_self, decide_true, ↓reduceIte]
        omega
      · simp only [Function.update_of_ne (Ne.symm here), here, decide_false, Bool.false_eq_true,
          ↓reduceIte, Nat.add_zero]

/-- Every pass counts the scenarios with a property once. -/
theorem countP_passes (p : ScriptScenario → Bool) (first count : Nat) :
    (passes scenarios first count).countP (fun b => p b.scenario) = count * scenarios.countP p := by
  induction count generalizing first with
  | zero => simp [passes]
  | succ count ih =>
      unfold passes
      rw [List.countP_append, List.countP_map, ih, Nat.succ_mul, Nat.add_comm]
      rfl

/-- A type is expected when a scenario has it. -/
theorem expectedCounts_apply {iterations : Int} (positive : 0 < iterations) :
    expectedCountsFromScenarios scenarios iterations type =
      if type ∈ scenarios.map ScriptScenario.type then iterations.toNat else 0 := by
  have fold : ∀ counts : Counter,
      scenarios.foldl (fun counts s => Function.update counts s.type iterations.toNat) counts type =
        if type ∈ scenarios.map ScriptScenario.type then iterations.toNat else counts type := by
    induction scenarios with
    | nil => exact fun counts => rfl
    | cons s scenarios ih =>
        intro counts
        rw [List.foldl_cons, ih, List.map_cons]
        by_cases later : type ∈ scenarios.map ScriptScenario.type
        · rw [if_pos later, if_pos (List.mem_cons_of_mem _ later)]
        · rw [if_neg later]
          by_cases here : type = s.type
          · rw [here, Function.update_self, if_pos List.mem_cons_self]
          · rw [Function.update_of_ne here, if_neg]
            exact fun member => later (List.mem_of_ne_of_mem here member)
  unfold expectedCountsFromScenarios
  rw [if_neg (by omega)]
  exact fold _

/-- With pairwise distinct types, so many passes count what is expected. -/
theorem addAll_passes (distinct : (scenarios.map ScriptScenario.type).Nodup) (count : Nat) :
    Counter.addAll (fun _ => 0) (passes scenarios 1 (count + 1)) =
      expectedCountsFromScenarios scenarios ((count + 1 : Nat) : Int) := by
  funext type
  have once : scenarios.countP (fun s => s.type = type) =
      if type ∈ scenarios.map ScriptScenario.type then 1 else 0 := by
    have counted : scenarios.countP (fun s => s.type = type) =
        (scenarios.map ScriptScenario.type).count type := by
      rw [List.count_eq_countP, List.countP_map]
      exact List.countP_congr fun s _ => by simp
    rw [counted, List.Nodup.count distinct]
  rw [Counter.addAll_apply, countP_passes (fun s => decide (s.type = type)), once,
    expectedCounts_apply (by omega)]
  by_cases known : type ∈ scenarios.map ScriptScenario.type
  · rw [if_pos known, if_pos known, Nat.mul_one, Nat.zero_add]
    rfl
  · rw [if_neg known, if_neg known, Nat.mul_zero]

theorem iteration_of_mem_passes {first count : Nat} {b : Submission}
    (member : b ∈ passes scenarios first count) : first ≤ b.iteration := by
  induction count generalizing first with
  | zero => cases member
  | succ count ih =>
      rcases List.mem_append.mp member with now | later
      · obtain ⟨s, -, rfl⟩ := List.mem_map.mp now
        exact Nat.le_refl first
      · have := ih later
        omega

/-- No two submissions of so many passes have one id. -/
theorem ids_passes (distinct : (scenarios.map ScriptScenario.type).Nodup) (first count : Nat) :
    ((passes scenarios first count).map Submission.id).Nodup := by
  induction count generalizing first with
  | zero => exact List.nodup_nil
  | succ count ih =>
      unfold passes
      rw [List.map_append, List.nodup_append, List.map_map]
      refine ⟨?_, ih (first + 1), ?_⟩
      · refine List.Nodup.of_map (fun id => (rpartition id).1) ?_
        rw [List.map_map]
        have types : scenarios.map ((fun id => (rpartition id).1) ∘ Submission.id ∘
            fun scenario => ⟨scenario, first⟩) = scenarios.map ScriptScenario.type := by
          refine List.map_congr_left fun s _ => ?_
          exact congrArg Prod.fst (rpartition_append (hyphen_not_mem_toString first))
        rw [types]
        exact distinct
      · intro id now id' later same
        obtain ⟨s, -, rfl⟩ := List.mem_map.mp now
        obtain ⟨b, member, rfl⟩ := List.mem_map.mp later
        have iteration : first = b.iteration := (Submission.parts_of_id (b := ⟨s, first⟩) same).2
        have := iteration_of_mem_passes member
        omega

end Expected

/-- **Producer and expectation.**  The submissions of the passes have pairwise distinct ids, so many
of each scenario.  Every run publishes the beginning of them and counts no more than is expected;
without the stop event and with all messages acknowledged it publishes all of them, and its counters
are the expected ones. -/
theorem submissions_expected (topic : String) (interval : Rat)
    (scenarios built : List ScriptScenario) (some_scenario : scenarios ≠ [])
    (distinct : (scenarios.map ScriptScenario.type).Nodup) {k : Nat}
    (positive : 1 ≤ k) (stopEvent : Bool) {allowed : Nat} (enough : k ≤ allowed) :
    let service := newScriptProducerService topic interval (some (k : Int)) (some scenarios) built
    let due := passes scenarios 1 k
    let expected := expectedCountsFromScenarios scenarios k
    (due.map Submission.id).Nodup ∧
    (∀ s ∈ scenarios, due.countP (fun b => b.scenario = s) = k) ∧
    ∀ t r, Exec (service.run stopEvent allowed) t r →
      r.1 ≠ .outOfPasses ∧
      (∃ done, done <+: due ∧ published t = done.map (submissionMessage topic)) ∧
      (∀ type, r.2 type ≤ expected type) ∧
      ((∀ e ∈ t, Smooth e) → r.1 = .ended ∧ published t = due.map (submissionMessage topic) ∧
        r.2 = expected) := by
  intro service due expected
  obtain ⟨count, rfl⟩ : ∃ n, k = n + 1 := ⟨k - 1, by omega⟩
  have given : service.scenarios = scenarios := by
    cases scenarios with
    | nil => exact absurd rfl some_scenario
    | cons s rest => rfl
  have counted : Counter.addAll (fun _ => 0) due = expected := addAll_passes distinct count
  refine ⟨ids_passes distinct 1 (count + 1), fun s member => ?_, fun t r run => ?_⟩
  · have once : scenarios.countP (fun s' => s' = s) = 1 := by
      have nodup : scenarios.Nodup := List.Nodup.of_map _ distinct
      refine Eq.trans ?_ (List.count_eq_one_of_mem nodup member)
      exact List.countP_congr fun s' _ => by simp
    rw [countP_passes (fun s' => decide (s' = s)), once, Nat.mul_one]
  · have bound : service.maxIterations = some ((count + 1 : Nat) : Int) := rfl
    have ends := exec_run bound enough run
    rw [given] at ends
    rcases ends with ⟨ended, sent⟩ | ⟨inPasses, rough, done, begun, sent⟩
    · have counters : r.2 = expected := sent.counters.trans counted
      refine ⟨by rw [ended]; nofun, ⟨due, List.prefix_rfl, sent.messages⟩, fun type => ?_,
        fun _ => ⟨ended, sent.messages, counters⟩⟩
      exact Nat.le_of_eq (congrFun counters type)
    · refine ⟨inPasses, ⟨done, begun, sent.messages⟩, fun type => ?_,
        fun smooth => absurd smooth rough⟩
      obtain ⟨rest, whole⟩ := begun
      have whole : due = done ++ rest := whole.symm
      rw [← counted, whole, sent.counters, Counter.addAll_apply, Counter.addAll_apply,
        List.countP_append]
      exact Nat.add_le_add_left (Nat.le_add_right _ _) 0

/-- Answers without the stop event, and with every message acknowledged. -/
def acknowledge (_ : List (Event Producer)) : (c : ProducerCall) → ProducerReply c
  | .isSet => false
  | .wait _ => false
  | .sleep _ => ()
  | .send _ _ _ => .ok ()
  | .flush => ()
  | .close => ()

/-- One scenario of every outcome in Python, in two passes without a pause. -/
theorem submissions_expected_twice :
    let scenarios := outcomes.map fun outcome =>
      { (printOneSubmission 2000).scenario with outcome := outcome }
    let service := newScriptProducerService "scripts" 0 (some 2) (some scenarios) []
    ((service.run true 2).answered acknowledge []).2.2 =
      expectedCountsFromScenarios scenarios 2 := by
  intro scenarios service
  have smooth : ∀ e ∈ ((service.run true 2).answered acknowledge []).1, Smooth e :=
    Proc.answered_all (P := fun c r => Smooth ⟨c, r⟩)
      (fun past c => by cases c <;> first | rfl | trivial)
      _ _
  exact ((submissions_expected "scripts" 0 scenarios [] (List.cons_ne_nil _ _) (by decide +kernel)
    (k := 2) (by decide) true (by decide)).2.2 _ _ (exec_answered _ _ _)).2.2.2 smooth |>.2.2

end Scrc
