import Mathlib.Algebra.Order.Field.Rat
import Scrc.Simulator.Collector
import Scrc.Simulator.Producer

/-!
# The load of the benchmark

`BenchmarkLoadGenerator` draws the language and the outcome of each submission by their weights,
registers the submission with the collector, and sends it.

* `PyFloat`: the arithmetic of floats, which is a parameter; `LawfulPyFloat` is what is used of it.
* `meets_pickScenario`: what is drawn is a scenario, and a language or an outcome without weight
  is not drawn unless it is the first.
* `meets_loadLoop`: the submissions are numbered from 1, each is registered before it is sent, and
  `produced` counts those that were acknowledged.

The loop of the generator is given a number of turns that it may make at most.
-/

namespace Scrc

open Interaction

/-! ## Floats -/

/-- The arithmetic of floats. -/
class PyFloat (α : Type) extends Zero α, One α, NatCast α, Neg α, Add α, Sub α, Mul α, Div α,
    Max α, LE α, LT α where
  /-- `sum` of a list of floats -/
  sum : List α → α
  /-- `math.log` -/
  log : α → α
  decidableLE : DecidableLE α
  decidableLT : DecidableLT α
  decidableEq : DecidableEq α

attribute [reducible, instance] PyFloat.decidableLE PyFloat.decidableLT PyFloat.decidableEq

/-- What holds of zero, whose sign is left out.  A sum of positive floats is never NaN, so it is
positive unless it is at most zero; NaN itself is neither. -/
class LawfulPyFloat (α : Type) [PyFloat α] : Prop where
  add_zero (x : α) : x + 0 = x
  zero_div {x : α} (positive : 0 < x) : 0 / x = 0
  sum_positive {xs : List α} (all : ∀ x ∈ xs, 0 < x) (some : ¬ PyFloat.sum xs ≤ 0) :
    0 < PyFloat.sum xs
  max_zero {x : α} (nonpositive : x ≤ 0) : max x 0 = 0

/-! ## Profiles -/

structure LoadProfile (α : Type) where
  name : String
  submissionsPerMinute : α
  languageWeights : List (String × α)
  outcomeWeights : List (String × α)
  tlMultiplier : α

section Profiles

variable {α : Type} [PyFloat α]

/-- `_normalise` -/
def normalise (weights : List (String × α)) : Except String (List (String × α)) :=
  let total := PyFloat.sum ((weights.map Prod.snd).filter fun value => 0 < value)
  if total ≤ 0 then .error "LoadProfile weights must sum to > 0"
  else .ok (weights.map fun (key, value) => (key, max value 0 / total))

namespace LoadProfile

/-- `self.language_weights.get(lang, 0.0)` -/
def languageWeight (profile : LoadProfile α) (language : String) : α :=
  (profile.languageWeights.lookup language).getD 0

/-- `self.outcome_weights.get(outcome, 0.0)`, multiplied for the time limit. -/
def outcomeWeight (profile : LoadProfile α) (outcome : String) : α :=
  let weight := (profile.outcomeWeights.lookup outcome).getD 0
  if profile.tlMultiplier ≠ 1 ∧ outcome = "tl" then weight * profile.tlMultiplier else weight

def normalisedLanguageWeights (profile : LoadProfile α) : Except String (List (String × α)) :=
  normalise (languageExtensions.map fun entry => (entry.1, profile.languageWeight entry.1))

def normalisedOutcomeWeights (profile : LoadProfile α) : Except String (List (String × α)) :=
  normalise (outcomes.map fun outcome => (outcome, profile.outcomeWeight outcome))

end LoadProfile

/-! ## The calls -/

/-- The calls of the main thread of a run of the benchmark; an exception is its text, and times are
whole numbers of nanoseconds. -/
inductive BenchCall (α : Type) where
  /-- `create_consumer(...)` -/
  | createConsumer
  /-- `thread.start()` -/
  | startThread
  /-- `create_producer(...)` -/
  | createProducer
  /-- `time.time()` -/
  | time
  /-- `time.sleep(...)` -/
  | sleep (nanoseconds : Int)
  /-- `random.random()` -/
  | random
  /-- `_stop_event.is_set()` of the generator -/
  | isSet
  /-- `_stop_event.wait(timeout=remaining)` of the generator -/
  | wait (remaining : α)
  /-- `register_submission(record)` -/
  | register (record : SubmissionRecord)
  /-- `producer.send`, and `get` of the future that it returns -/
  | send (topic key : String) (value : Json.Value)
  | flush
  | closeProducer
  | setBenchmarkWindow (startTs endTs : Int)
  /-- `not self._pending`, under the lock -/
  | nothingPending
  /-- `_stop_event.set()` of the collector -/
  | setStop
  /-- `_consumer_thread.join(timeout=...)`; the reply is whether the thread has ended, at which the
  code does not look. -/
  | join (nanoseconds : Int)
  /-- `_service.close()` -/
  | closeConsumer
  | buildDataframe (filterWindow : Bool)

@[reducible]
def BenchReply {α : Type} : BenchCall α → Type
  | .createConsumer => Except String Unit
  | .startThread => Unit
  | .createProducer => Except String Unit
  | .time => Int
  | .sleep _ => Unit
  | .random => α
  | .isSet => Bool
  | .wait _ => Bool
  | .register _ => Unit
  | .send _ _ _ => Except String Unit
  | .flush => Unit
  | .closeProducer => Unit
  | .setBenchmarkWindow _ _ => Unit
  | .nothingPending => Bool
  | .setStop => Unit
  | .join _ => Bool
  | .closeConsumer => Unit
  | .buildDataframe _ => List Row

abbrev Bench (α : Type) : Interface := ⟨BenchCall α, BenchReply⟩

abbrev askBench (c : BenchCall α) : Proc (Bench α) (BenchReply c) := Proc.ask (I := Bench α) c

/-! ## Draws -/

/-- The loop of `_weighted_choice`, with the sum of the weights so far. -/
def firstReaching (r : α) : α → List (String × α) → Option String
  | _, [] => none
  | upto, (key, weight) :: rest =>
      if r ≤ upto + weight then some key else firstReaching r (upto + weight) rest

/-- `next(iter(weights))` -/
def firstKey : List (String × α) → Except String String
  | [] => .error "StopIteration"
  | (key, _) :: _ => .ok key

/-- `_weighted_choice` -/
def weightedChoice (weights : List (String × α)) : Proc (Bench α) (Except String String) := do
  let total := PyFloat.sum (weights.map Prod.snd)
  if total ≤ 0 then
    return .error "Weights must sum to > 0"
  let u ← askBench .random
  match firstReaching (u * total) 0 weights with
  | some key => return .ok key
  | none => return firstKey weights

structure LoadGenerator (α : Type) where
  topic : String
  profile : LoadProfile α
  languageWeights : List (String × α)
  outcomeWeights : List (String × α)
  scenarios : List ScriptScenario

/-- `__init__`; `built` is what `build_scenarios` returns. -/
def newLoadGenerator (topic : String) (profile : LoadProfile α) (built : List ScriptScenario) :
    Except String (LoadGenerator α) := do
  let languageWeights ← profile.normalisedLanguageWeights
  let outcomeWeights ← profile.normalisedOutcomeWeights
  return ⟨topic, profile, languageWeights, outcomeWeights, built⟩

namespace LoadGenerator

/-- `_scenario_lookup.get((language, outcome))`; the last entry of a key is the one that is kept. -/
def scenarioLookup (generator : LoadGenerator α) (language outcome : String) :
    Option ScriptScenario :=
  generator.scenarios.reverse.find? fun s => s.language = language ∧ s.outcome = outcome

/-- `_pick_scenario` -/
def pickScenario (generator : LoadGenerator α) : Proc (Bench α) (Except String ScriptScenario) := do
  match ← weightedChoice generator.languageWeights with
  | .error err => return .error err
  | .ok language =>
      match ← weightedChoice generator.outcomeWeights with
      | .error err => return .error err
      | .ok outcome =>
          match generator.scenarioLookup language outcome with
          | some scenario => return .ok scenario
          | none =>
              match generator.scenarioLookup language "ok" with
              | some scenario => return .ok scenario
              | none => return .error "KeyError"

/-- `_sleep_for_next` -/
def sleepForNext (lambdaPerSec : α) : Proc (Bench α) Unit := do
  let u ← askBench .random
  let delay := -PyFloat.log (1 - u) / lambdaPerSec
  let _ ← askBench (.wait (max delay 0))

end LoadGenerator

/-- The record of a submission. -/
def Submission.record (b : Submission) (sentTs : Int) : SubmissionRecord :=
  ⟨b.id, b.scenario.language, b.scenario.outcome, sentTs⟩

structure LoadStatistics where
  produced : Nat
  startedAt : Int
  finishedAt : Int

def nanosecondsPerSecond : Int := 1000000000

/-- `duration_s`, in nanoseconds. -/
def LoadStatistics.duration (stats : LoadStatistics) : Int :=
  max (stats.finishedAt - stats.startedAt) 0

/-- So many in this time, for a minute; an exact quotient, where the source divides floats. -/
def perMinute (count : Nat) (nanoseconds : Int) : Rat :=
  (count : Rat) / ((nanoseconds : Rat) / (nanosecondsPerSecond : Rat)) * 60

def LoadStatistics.throughputPerMinute (stats : LoadStatistics) : Rat :=
  if stats.duration = 0 then 0 else perMinute stats.produced stats.duration

/-- How the loop of `run` ends; the last case is that of turns that were not allowed for. -/
inductive LoopEnd where
  | passed
  | raised (err : String)
  | outOfTurns

/-- How `run` ends. -/
inductive LoadEnd where
  | finished (stats : LoadStatistics)
  | raised (err : String)
  | outOfTurns

namespace LoadGenerator

/-- The loop of `run`, from this value of `_iteration_counter` on. -/
def loadLoop (generator : LoadGenerator α) (lambdaPerSec : α) (deadline : Int) :
    Nat → Nat → Nat → Proc (Bench α) (LoopEnd × Nat)
  | 0, _, produced => return (.outOfTurns, produced)
  | allowed + 1, iteration, produced => do
      if deadline ≤ (← askBench .time) then
        return (.passed, produced)
      if ← askBench .isSet then
        return (.passed, produced)
      match ← generator.pickScenario with
      | .error err => return (.raised err, produced)
      | .ok scenario =>
          let b : Submission := ⟨scenario, iteration⟩
          let sentTs ← askBench .time
          askBench (.register (b.record sentTs))
          match ← askBench (.send generator.topic b.id (scenario.toPayload iteration)) with
          | .error err => return (.raised err, produced)
          | .ok _ =>
              sleepForNext lambdaPerSec
              generator.loadLoop lambdaPerSec deadline allowed (iteration + 1) (produced + 1)

/-- `run`, of a generator that has not run yet. -/
def run (generator : LoadGenerator α) (duration : Int) (allowed : Nat) :
    Proc (Bench α) LoadEnd := do
  match ← askBench .createProducer with
  | .error err => return .raised err
  | .ok _ =>
      let startedAt ← askBench .time
      let lambdaPerSec := generator.profile.submissionsPerMinute / ((60 : Nat) : α)
      if lambdaPerSec ≤ 0 then
        return .raised "LoadProfile submissions_per_minute must be > 0"
      let ended ← Proc.deferring
        (do
          askBench .flush
          askBench .closeProducer)
        (generator.loadLoop lambdaPerSec (startedAt + duration) allowed 1 0)
      match ended with
      | (.outOfTurns, _) => return .outOfTurns
      | (.raised err, _) => return .raised err
      | (.passed, produced) => return .finished ⟨produced, startedAt, ← askBench .time⟩

end LoadGenerator

/-! ## What is drawn -/

/-- The key is the first, or has weight. -/
def Weighted (weights : List (String × α)) (key : String) : Prop :=
  weights.head?.map Prod.fst = some key ∨ ∃ weight, (key, weight) ∈ weights ∧ weight ≠ 0

section Draws

variable {weights : List (String × α)} {key : String} {r upto : α}

theorem firstKey_weighted (first : firstKey weights = .ok key) : Weighted weights key := by
  cases weights with
  | nil => cases first
  | cons entry rest =>
      cases first
      exact Or.inl rfl

variable [LawfulPyFloat α]

/-- A key without weight reaches nothing that was not reached before. -/
theorem firstReaching_weight (before : ¬ r ≤ upto)
    (reached : firstReaching r upto weights = some key) :
    ∃ weight, (key, weight) ∈ weights ∧ weight ≠ 0 := by
  induction weights generalizing upto with
  | nil => cases reached
  | cons entry rest ih =>
      obtain ⟨other, weight⟩ := entry
      unfold firstReaching at reached
      split at reached
      · next here =>
          cases reached
          refine ⟨weight, List.mem_cons_self, fun none => before ?_⟩
          rw [none, LawfulPyFloat.add_zero] at here
          exact here
      · next further =>
          obtain ⟨weight, member, some⟩ := ih further reached
          exact ⟨weight, List.mem_cons_of_mem _ member, some⟩

theorem firstReaching_weighted (reached : firstReaching r 0 weights = some key) :
    Weighted weights key := by
  cases weights with
  | nil => cases reached
  | cons entry rest =>
      obtain ⟨other, weight⟩ := entry
      unfold firstReaching at reached
      split at reached
      · cases reached
        exact Or.inl rfl
      · next further =>
          obtain ⟨weight, member, some⟩ := firstReaching_weight further reached
          exact Or.inr ⟨weight, List.mem_cons_of_mem _ member, some⟩

/-- A weight that is not positive is nothing when it is normalised: it is taken as zero, and the sum
that it is divided by is positive. -/
theorem normalise_weighted {normal : List (String × α)} (ok : normalise weights = .ok normal)
    (weighted : Weighted normal key) :
    weights.head?.map Prod.fst = some key ∨ ∃ weight, (key, weight) ∈ weights ∧ ¬ weight ≤ 0 := by
  unfold normalise at ok
  simp only at ok
  split at ok
  · cases ok
  · next some_weight =>
      cases ok
      have positive := LawfulPyFloat.sum_positive
        (fun x member => of_decide_eq_true (List.mem_filter.mp member).2) some_weight
      rcases weighted with first | ⟨weight, member, some⟩
      · left
        rw [List.head?_map, Option.map_map] at first
        exact first
      · obtain ⟨⟨other, value⟩, inside, same⟩ := List.mem_map.mp member
        cases same
        refine Or.inr ⟨value, inside, fun nonpositive => some ?_⟩
        rw [LawfulPyFloat.max_zero nonpositive, LawfulPyFloat.zero_div positive]

end Draws

/-! ## Scenarios that are drawn -/

/-- A scenario whose language and outcome have weight, or are the first. -/
structure Drawn (profile : LoadProfile α) (scenarios : List ScriptScenario) (s : ScriptScenario) :
    Prop where
  member : s ∈ scenarios
  language : s.language = "python" ∨ ¬ profile.languageWeight s.language ≤ 0
  outcome : s.outcome = "ok" ∨ ¬ profile.outcomeWeight s.outcome ≤ 0

/-- Every pair of a language and an outcome has a scenario. -/
def Complete (scenarios : List ScriptScenario) : Prop :=
  ∀ language ∈ languageExtensions.map Prod.fst, ∀ outcome ∈ outcomes,
    ∃ s ∈ scenarios, s.language = language ∧ s.outcome = outcome

theorem buildScenarios_complete {readText : String → String → String}
    {scenarios : List ScriptScenario} (built : buildScenarios readText = some scenarios) :
    Complete scenarios := by
  have pairs : (buildScenarios readText).map
      (fun scenarios => scenarios.map fun s => (s.language, s.outcome)) =
        some (languageExtensions.flatMap fun entry => outcomes.map fun outcome =>
          (entry.1, outcome)) := rfl
  rw [built] at pairs
  intro language known outcome member
  obtain ⟨entry, inside, rfl⟩ := List.mem_map.mp known
  have pair : (entry.1, outcome) ∈ scenarios.map fun s => (s.language, s.outcome) := by
    have all : scenarios.map (fun s => (s.language, s.outcome)) = _ := Option.some.inj pairs
    rw [all]
    exact List.mem_flatMap.mpr ⟨entry, inside, List.mem_map_of_mem member⟩
  obtain ⟨s, here, same⟩ := List.mem_map.mp pair
  exact ⟨s, here, congrArg Prod.fst same, congrArg Prod.snd same⟩

namespace LoadGenerator

/-- The weights are those of the profile, and no lookup of a scenario fails. -/
structure Sound (generator : LoadGenerator α) : Prop where
  languageWeights : generator.profile.normalisedLanguageWeights = .ok generator.languageWeights
  outcomeWeights : generator.profile.normalisedOutcomeWeights = .ok generator.outcomeWeights
  scenarios : Complete generator.scenarios

theorem sound_of_new {topic : String} {profile : LoadProfile α} {built : List ScriptScenario}
    {generator : LoadGenerator α} (complete : Complete built)
    (new : newLoadGenerator topic profile built = .ok generator) :
    generator.Sound ∧ generator.topic = topic ∧ generator.profile = profile ∧
      generator.scenarios = built := by
  unfold newLoadGenerator at new
  obtain ⟨languages, languageWeights, new⟩ := bind_ok.mp new
  obtain ⟨outcomes, outcomeWeights, new⟩ := bind_ok.mp new
  cases new
  exact ⟨⟨languageWeights, outcomeWeights, complete⟩, rfl, rfl, rfl⟩

variable {generator : LoadGenerator α} {language outcome : String} [LawfulPyFloat α]

theorem Sound.drawn_language (sound : generator.Sound)
    (weighted : Weighted generator.languageWeights language) :
    language ∈ languageExtensions.map Prod.fst ∧
      (language = "python" ∨ ¬ generator.profile.languageWeight language ≤ 0) := by
  rcases normalise_weighted sound.languageWeights weighted with first | ⟨weight, member, some⟩
  · cases first
    exact ⟨List.mem_cons_self, Or.inl rfl⟩
  · obtain ⟨entry, inside, same⟩ := List.mem_map.mp member
    cases same
    exact ⟨List.mem_map_of_mem inside, Or.inr some⟩

theorem Sound.drawn_outcome (sound : generator.Sound)
    (weighted : Weighted generator.outcomeWeights outcome) :
    outcome ∈ outcomes ∧ (outcome = "ok" ∨ ¬ generator.profile.outcomeWeight outcome ≤ 0) := by
  rcases normalise_weighted sound.outcomeWeights weighted with first | ⟨weight, member, some⟩
  · cases first
    exact ⟨List.mem_cons_self, Or.inl rfl⟩
  · obtain ⟨outcome, inside, same⟩ := List.mem_map.mp member
    cases same
    exact ⟨inside, Or.inr some⟩

/-- The scenario of a pair that is drawn is found, and is the one of this pair. -/
theorem Sound.lookup (sound : generator.Sound)
    (languageWeighted : Weighted generator.languageWeights language)
    (outcomeWeighted : Weighted generator.outcomeWeights outcome) :
    ∃ s, generator.scenarioLookup language outcome = some s ∧
      Drawn generator.profile generator.scenarios s := by
  obtain ⟨knownLanguage, someLanguage⟩ := sound.drawn_language languageWeighted
  obtain ⟨knownOutcome, someOutcome⟩ := sound.drawn_outcome outcomeWeighted
  obtain ⟨s, member, rfl, rfl⟩ := sound.scenarios _ knownLanguage _ knownOutcome
  have found : (generator.scenarioLookup s.language s.outcome).isSome := by
    unfold scenarioLookup
    rw [List.find?_isSome]
    exact ⟨s, List.mem_reverse.mpr member, by simp⟩
  obtain ⟨other, found⟩ := Option.isSome_iff_exists.mp found
  have inside := List.mem_reverse.mp (List.mem_of_find?_eq_some found)
  unfold scenarioLookup at found
  have fits := List.find?_some found
  simp only [decide_eq_true_eq] at fits
  obtain ⟨sameLanguage, sameOutcome⟩ := fits
  refine ⟨other, found, inside, ?_, ?_⟩
  · rw [sameLanguage]
    exact someLanguage
  · rw [sameOutcome]
    exact someOutcome

end LoadGenerator

/-! ## What the main thread may count on -/

/-- A row about this record. -/
structure Row.About (row : Row) (record : SubmissionRecord) : Prop where
  scriptId : row.scriptId = record.scriptId
  language : row.language = record.language
  outcome : row.outcome = record.outcome
  sentTs : row.sentTs = record.sentTs

/-- The filter of `build_dataframe`. -/
def inWindow (window : Option (Int × Int)) (sentTs : Int) : Bool :=
  match window with
  | none => true
  | some (startTs, endTs) => startTs ≤ sentTs && sentTs < endTs

/-- What the main thread has seen and done: the time, the registered records, the acknowledged
messages, the window, whether it found nothing pending, and whether the thread of the consumer has
ended. -/
structure BenchSight where
  now : Int := 0
  registered : List SubmissionRecord := []
  acknowledged : List (String × String × Json.Value) := []
  window : Option (Int × Int) := none
  emptied : Bool := false
  joined : Bool := false

/-- The table: rows about registered records, one for each at most, in the window; all of these when
nothing was pending and the thread of the consumer had ended. -/
structure Tabulates (w : BenchSight) (window : Option (Int × Int)) (rows : List Row) : Prop where
  distinct : (rows.map Row.scriptId).Nodup
  registered : ∀ row ∈ rows, ∃ record ∈ w.registered, row.About record
  within : ∀ row ∈ rows, inWindow window row.sentTs = true
  complete : w.emptied = true → w.joined = true → ∀ record ∈ w.registered,
    inWindow window record.sentTs = true →
      rows.countP (fun row => row.scriptId = record.scriptId) = 1

def benchAllows (w : BenchSight) : (c : BenchCall α) → BenchReply c → Prop
  | .time, now => w.now ≤ now
  -- nobody calls `stop` of the generator
  | .isSet, set => set = false
  | .buildDataframe filterWindow, rows => Tabulates w (if filterWindow then w.window else none) rows
  | _, _ => True

def BenchSight.next (w : BenchSight) : (c : BenchCall α) → BenchReply c → BenchSight
  | .time, now => { w with now := now }
  | .register record, _ => { w with registered := w.registered ++ [record] }
  | .send topic key value, .ok _ =>
      { w with acknowledged := w.acknowledged ++ [(topic, key, value)] }
  | .setBenchmarkWindow startTs endTs, _ => { w with window := some (startTs, endTs) }
  | .nothingPending, empty => { w with emptied := w.emptied || empty }
  | .join _, ended => { w with joined := w.joined || ended }
  | _, _ => w

/-- No id is registered twice, and none after the wait. -/
def benching : Contract (Bench α) BenchSight where
  obliges w
    | .register record =>
        w.emptied = false ∧ record.scriptId ∉ w.registered.map SubmissionRecord.scriptId
    | _ => True
  allows := benchAllows
  next := BenchSight.next

/-! ## The submissions of a run -/

/-- A submission that was sent at this time. -/
structure TimedSubmission where
  submission : Submission
  sentTs : Int

def TimedSubmission.record (b : TimedSubmission) : SubmissionRecord := b.submission.record b.sentTs

/-- Between these times these submissions were registered, sent and acknowledged, one by one. -/
structure Generated (generator : LoadGenerator α) (startedAt lastAt : Int)
    (bs : List TimedSubmission) (w : BenchSight) : Prop where
  registered : w.registered = bs.map TimedSubmission.record
  acknowledged : w.acknowledged =
    bs.map fun b => submissionMessage generator.topic b.submission
  numbered : bs.map (fun b => b.submission.iteration) = List.range' 1 bs.length
  drawn : ∀ b ∈ bs, Drawn generator.profile generator.scenarios b.submission.scenario
  sent : ∀ b ∈ bs, startedAt ≤ b.sentTs ∧ b.sentTs ≤ lastAt

section Runs

variable {generator : LoadGenerator α} {startedAt lastAt : Int} {bs : List TimedSubmission}
  {w w' : BenchSight}

/-- Submissions with different numbers have different ids. -/
theorem ids_nodup (numbered : bs.map (fun b => b.submission.iteration) = List.range' 1 bs.length) :
    (bs.map fun b => b.submission.id).Nodup := by
  have iterations : (bs.map fun b => b.submission.iteration).Nodup := by
    rw [numbered]
    exact List.nodup_range'
  refine List.pairwise_map.mpr ((List.pairwise_map.mp iterations).imp ?_)
  exact fun apart same => apart (Submission.parts_of_id same).2

theorem Generated.fresh (generated : Generated generator startedAt lastAt bs w)
    (b : TimedSubmission) (next : b.submission.iteration = bs.length + 1) :
    b.submission.id ∉ w.registered.map SubmissionRecord.scriptId := by
  intro known
  rw [generated.registered, List.map_map] at known
  obtain ⟨other, member, same⟩ := List.mem_map.mp known
  have number := (Submission.parts_of_id same).2
  have earlier : other.submission.iteration ∈ List.range' 1 bs.length := by
    rw [← generated.numbered]
    exact List.mem_map_of_mem member
  obtain ⟨k, less, counted⟩ := List.mem_range'.mp earlier
  omega

/-- One more submission. -/
theorem Generated.more (generated : Generated generator startedAt lastAt bs w) {b : TimedSubmission}
    (next : b.submission.iteration = bs.length + 1)
    (drawn : Drawn generator.profile generator.scenarios b.submission.scenario)
    (late : startedAt ≤ b.sentTs) (later : lastAt ≤ b.sentTs)
    (registered : w'.registered = w.registered ++ [b.record])
    (acknowledged : w'.acknowledged =
      w.acknowledged ++ [submissionMessage generator.topic b.submission]) :
    Generated generator startedAt b.sentTs (bs ++ [b]) w' := by
  refine ⟨?_, ?_, ?_, ?_, ?_⟩
  · rw [registered, generated.registered, List.map_append]
    rfl
  · rw [acknowledged, generated.acknowledged, List.map_append]
    rfl
  · rw [List.map_append, generated.numbered, List.length_append, List.map_singleton, next,
      List.length_singleton, List.range'_1_concat, Nat.add_comm 1]
  · intro other member
    rcases List.mem_append.mp member with old | new
    · exact generated.drawn other old
    · rw [List.mem_singleton.mp new]
      exact drawn
  · intro other member
    rcases List.mem_append.mp member with old | new
    · exact ⟨(generated.sent other old).1, (generated.sent other old).2.trans later⟩
    · rw [List.mem_singleton.mp new]
      exact ⟨late, le_refl _⟩

/-- Nothing more is registered or acknowledged, until a later time. -/
theorem Generated.later (generated : Generated generator startedAt lastAt bs w) {now : Int}
    (later : lastAt ≤ now) (registered : w'.registered = w.registered)
    (acknowledged : w'.acknowledged = w.acknowledged) : Generated generator startedAt now bs w' :=
  ⟨registered.trans generated.registered, acknowledged.trans generated.acknowledged,
    generated.numbered, generated.drawn,
    fun b member => ⟨(generated.sent b member).1, (generated.sent b member).2.trans later⟩⟩

section Draws

variable [LawfulPyFloat α]

theorem meets_weightedChoice (weights : List (String × α)) :
    (weightedChoice weights).Meets benching w fun r w' =>
      w' = w ∧ ∀ key, r = .ok key → Weighted weights key := by
  unfold weightedChoice
  simp only
  split
  · refine ⟨rfl, fun key ok => ?_⟩
    cases ok
  · refine ⟨trivial, fun u _ => ?_⟩
    show Proc.Meets benching (match firstReaching _ 0 weights with
      | some key => return .ok key
      | none => return firstKey weights) w _
    split
    · next key reached =>
        refine ⟨rfl, fun other ok => ?_⟩
        cases ok
        exact firstReaching_weighted reached
    · exact ⟨rfl, fun key first => firstKey_weighted first⟩

omit [LawfulPyFloat α] in
theorem meets_sleepForNext (lambdaPerSec : α) :
    (LoadGenerator.sleepForNext lambdaPerSec).Meets benching w fun _ w' => w' = w :=
  ⟨trivial, fun _ _ => ⟨trivial, fun _ _ => rfl⟩⟩

theorem meets_pickScenario (sound : generator.Sound) :
    generator.pickScenario.Meets benching w fun r w' =>
      w' = w ∧ ∀ s, r = .ok s → Drawn generator.profile generator.scenarios s := by
  unfold LoadGenerator.pickScenario
  refine (meets_weightedChoice _).bind ?_
  rintro language w' ⟨rfl, weighted⟩
  cases language with
  | error err =>
      refine ⟨rfl, fun s ok => ?_⟩
      cases ok
  | ok language =>
      refine (meets_weightedChoice _).bind ?_
      rintro outcome w' ⟨rfl, outcomeWeighted⟩
      cases outcome with
      | error err =>
          refine ⟨rfl, fun s ok => ?_⟩
          cases ok
      | ok outcome =>
          obtain ⟨s, found, drawn⟩ :=
            sound.lookup (weighted language rfl) (outcomeWeighted outcome rfl)
          simp only [found]
          refine ⟨rfl, fun other ok => ?_⟩
          cases ok
          exact drawn

/-- What the loop has not changed. -/
structure BenchSight.SameWindow (w w' : BenchSight) : Prop where
  later : w.now ≤ w'.now
  window : w'.window = w.window
  emptied : w'.emptied = w.emptied

/-- How the loop leaves what there was before it. -/
def Looped (generator : LoadGenerator α) (startedAt deadline : Int) (w : BenchSight)
    (r : LoopEnd × Nat) (w' : BenchSight) : Prop :=
  w.SameWindow w' ∧ (r.1 = .passed → deadline ≤ w'.now ∧ ∃ bs,
    Generated generator startedAt w'.now bs w' ∧ r.2 = bs.length ∧
      (bs ≠ [] → startedAt < deadline))

/-- **The loop.**  It goes on with the numbers, and ends when the time is over. -/
theorem meets_loadLoop (sound : generator.Sound) (lambdaPerSec : α) (deadline : Int) (allowed : Nat)
    (generated : Generated generator startedAt w.now bs w) (begun : startedAt ≤ w.now)
    (waiting : w.emptied = false) (busy : bs ≠ [] → startedAt < deadline) :
    (generator.loadLoop lambdaPerSec deadline allowed (bs.length + 1) bs.length).Meets benching w
      (Looped generator startedAt deadline w) := by
  induction allowed generalizing bs w with
  | zero =>
      refine ⟨⟨le_refl _, rfl, rfl⟩, fun passed => ?_⟩
      cases passed
  | succ allowed ih =>
      unfold LoadGenerator.loadLoop
      refine ⟨trivial, fun now later => ?_⟩
      show Proc.Meets benching (if deadline ≤ now then _ else _) { w with now := now } _
      split
      · next late =>
          exact ⟨⟨later, rfl, rfl⟩, fun _ => ⟨late, bs, generated.later later rfl rfl, rfl, busy⟩⟩
      · next early =>
          refine ⟨trivial, fun set unset => ?_⟩
          cases (show set = false from unset)
          refine (meets_pickScenario sound).bind ?_
          rintro picked _ ⟨rfl, drawn⟩
          cases picked with
          | error err =>
              refine ⟨⟨later, rfl, rfl⟩, fun passed => ?_⟩
              cases passed
          | ok scenario =>
              refine ⟨trivial, fun sentTs after => ?_⟩
              have waited : now ≤ sentTs := after
              let b : TimedSubmission := ⟨⟨scenario, bs.length + 1⟩, sentTs⟩
              refine ⟨⟨waiting, generated.fresh b rfl⟩, fun _ _ => ⟨trivial, fun reply _ => ?_⟩⟩
              cases reply with
              | error err =>
                  refine ⟨⟨later.trans waited, rfl, rfl⟩, fun passed => ?_⟩
                  cases passed
              | ok _ =>
                  refine (meets_sleepForNext lambdaPerSec).bind ?_
                  rintro _ _ rfl
                  let sent : BenchSight :=
                    { w with
                      now := sentTs
                      registered := w.registered ++ [b.record]
                      acknowledged := w.acknowledged ++
                        [submissionMessage generator.topic b.submission] }
                  have more : Generated generator startedAt sent.now (bs ++ [b]) sent :=
                    generated.more (b := b) rfl (drawn scenario rfl)
                      (begun.trans (later.trans waited)) (later.trans waited) rfl rfl
                  have next := ih more (begun.trans (later.trans waited)) waiting
                    fun _ => lt_of_le_of_lt (begun.trans later) (not_le.mp early)
                  rw [List.length_append, List.length_singleton] at next
                  refine next.mono ?_
                  rintro r w' ⟨same, ended⟩
                  exact ⟨⟨(later.trans waited).trans same.later, same.window, same.emptied⟩, ended⟩

/-- The loop of a new generator, and what is done behind it. -/
theorem meets_cleanedLoop (sound : generator.Sound) (lambdaPerSec : α) (deadline : Int)
    (allowed : Nat) (unregistered : w.registered = []) (unsent : w.acknowledged = [])
    (waiting : w.emptied = false) :
    (Proc.deferring
      (do
        askBench .flush
        askBench .closeProducer)
      (generator.loadLoop lambdaPerSec deadline allowed 1 0)).Meets benching w
        (Looped generator w.now deadline w) := by
  have none : Generated generator w.now w.now [] w := by
    refine ⟨unregistered, unsent, rfl, ?_, ?_⟩
    · intro b member
      cases member
    · intro b member
      cases member
  have loop := meets_loadLoop sound lambdaPerSec deadline allowed none (le_refl _) waiting
    fun some => absurd rfl some
  exact loop.deferring fun r w' ended => ⟨trivial, fun _ _ => ⟨trivial, fun _ _ => ended⟩⟩

/-- What a finished run has done. -/
structure Loaded (generator : LoadGenerator α) (stats : LoadStatistics)
    (bs : List TimedSubmission) (w : BenchSight) : Prop where
  generated : Generated generator stats.startedAt stats.finishedAt bs w
  produced : stats.produced = bs.length
  ordered : stats.startedAt ≤ stats.finishedAt
  busy : bs ≠ [] → stats.startedAt < stats.finishedAt
  now : w.now = stats.finishedAt

/-- **The load.**  `produced` counts the submissions, and all of them are within the times. -/
theorem meets_load (sound : generator.Sound) (duration : Int) (allowed : Nat)
    (unregistered : w.registered = []) (unsent : w.acknowledged = [])
    (waiting : w.emptied = false) :
    (generator.run duration allowed).Meets benching w fun r w' => ∀ stats, r = .finished stats →
      w.now ≤ stats.startedAt ∧ ∃ bs, Loaded generator stats bs w' := by
  unfold LoadGenerator.run
  refine ⟨trivial, fun created _ => ?_⟩
  cases created with
  | error err =>
      intro stats same
      cases same
  | ok _ =>
      refine ⟨trivial, fun startedAt later => ?_⟩
      show Proc.Meets benching (if _ ≤ (0 : α) then _ else _) { w with now := startedAt } _
      split
      · intro stats same
        cases same
      · refine (meets_cleanedLoop (w := { w with now := startedAt }) sound _ _ allowed unregistered
          unsent waiting).bind ?_
        rintro ⟨ended, produced⟩ w' ⟨same, passed⟩
        cases ended with
        | outOfTurns =>
            intro stats other
            cases other
        | raised err =>
            intro stats other
            cases other
        | passed =>
            refine ⟨trivial, fun finishedAt last => ?_⟩
            have finished : w'.now ≤ finishedAt := last
            obtain ⟨late, bs, generated, counted, busy⟩ := passed rfl
            intro stats own
            cases own
            refine ⟨later, bs, generated.later finished rfl rfl, counted,
              same.later.trans finished, fun some => ?_, rfl⟩
            exact lt_of_lt_of_le (busy some) (late.trans finished)

end Draws

end Runs

end Profiles

end Scrc
