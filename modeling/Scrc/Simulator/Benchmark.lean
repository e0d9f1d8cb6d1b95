import Scrc.Lib.Transition
import Scrc.Simulator.Scenario

/-!
# Benchmark runs

Each run of the benchmark has a load generator, which numbers its submissions from 1, and a
collector, which joins what it reads from the results topic with what the generator registered, by
the id alone.  All runs share the topics, and the result of a submission is published at any later
moment.

* `Benchmark.Step`: the steps of the runs, of the runners and of the broker.
* `Timely`: a collector that reads the result of another run's submission has none of that id
  pending.
* `rows_paired`: after timely steps every row joins a submission with its own result; after any
  other step one row is wrong for good.

Times are whole numbers of clock ticks.
-/

namespace Scrc

open Interaction Transition

/-! ## Collectors -/

structure SubmissionRecord where
  scriptId : String
  language : String
  outcome : String
  sentTs : Int
  deriving DecidableEq

/-- A result message as a collector reads it. -/
structure CollectedResult extends ReceivedResult where
  status : Option String
  durationMs : Option Int
  deriving DecidableEq

/-- A row of `_completed`. -/
structure Row where
  scriptId : String
  language : String
  outcome : String
  status : Option String
  durationMs : Option Int
  sentTs : Int
  completedTs : Int
  latency : Int
  deriving DecidableEq

def makeRow (scriptId : String) (record : SubmissionRecord) (payload : CollectedResult)
    (completedTs : Int) : Row where
  scriptId := scriptId
  language := record.language
  outcome := record.outcome
  status := payload.status
  durationMs := payload.durationMs
  sentTs := record.sentTs
  completedTs := completedTs
  latency := max (completedTs - record.sentTs) 0

/-- A submission and the run it belongs to; the runs are numbered from 0. -/
structure RunSubmission extends Submission where
  run : Nat
  deriving DecidableEq

/-- The record of a submission. -/
def RunSubmission.record (b : RunSubmission) (sentTs : Int) : SubmissionRecord :=
  ⟨b.id, b.scenario.language, b.scenario.outcome, sentTs⟩

/-- An entry of `_pending`, with the submission it was registered for, which the code does not
keep. -/
structure PendingEntry where
  record : SubmissionRecord
  submission : RunSubmission

/-- A message of the results topic, with the submission it is the result of, which no message
says. -/
structure Answer where
  payload : CollectedResult
  submission : RunSubmission

/-- An entry of `_completed`, with the submission registered and the answer it was joined with. -/
structure CompletedEntry where
  row : Row
  submission : RunSubmission
  answer : Answer

/-- A run: its load generator and its collector. -/
structure BenchmarkRun where
  group : String
  /-- The next value of `_iteration_counter`. -/
  iteration : Nat := 1
  /-- The submission that is registered and not sent yet. -/
  sending : Option RunSubmission := none
  generating : Bool := true
  /-- The consumer thread has not ended. -/
  collecting : Bool := true
  /-- The position in each partition of the results topic, once there is one. -/
  position : Nat → Option Nat := fun _ => none
  pending : String → Option PendingEntry := fun _ => none
  completed : List CompletedEntry := []

namespace BenchmarkRun

/-- `register_submission`, with the payload made just before it. -/
def register (r : BenchmarkRun) (b : RunSubmission) (sentTs : Int) : BenchmarkRun :=
  { r with
    iteration := r.iteration + 1
    sending := some b
    pending := Function.update r.pending b.id (some ⟨b.record sentTs, b⟩) }

theorem register_pending {r : BenchmarkRun} {b : RunSubmission} {sentTs : Int} :
    (r.register b sentTs).pending b.id = some ⟨b.record sentTs, b⟩ := Function.update_self ..

/-- `_handle_result`. -/
def handleResult (r : BenchmarkRun) (scriptId : String) (answer : Answer) (completedTs : Int) :
    BenchmarkRun :=
  match r.pending scriptId with
  | none => r
  | some entry =>
      { r with
        pending := Function.update r.pending scriptId none
        completed := r.completed ++
          [⟨makeRow scriptId entry.record answer.payload completedTs, entry.submission, answer⟩] }

/-- One message in the loop of `runner`. -/
def handleMessage (r : BenchmarkRun) (answer : Answer) (completedTs : Int) : BenchmarkRun :=
  match answer.payload.scriptId with
  | none => r
  | some scriptId => if scriptId = "" then r else r.handleResult scriptId answer completedTs

/-- The position in a partition. -/
def seek (r : BenchmarkRun) (partition position : Nat) : BenchmarkRun :=
  { r with position := Function.update r.position partition (some position) }

/-- A pending entry joined with an answer. -/
def join (r : BenchmarkRun) (scriptId : String) (entry : PendingEntry) (answer : Answer)
    (completedTs : Int) : BenchmarkRun :=
  { r with
    pending := Function.update r.pending scriptId none
    completed := r.completed ++
      [⟨makeRow scriptId entry.record answer.payload completedTs, entry.submission, answer⟩] }

theorem join_pending {r : BenchmarkRun} {scriptId : String} {entry : PendingEntry} {answer : Answer}
    {completedTs : Int} (other : String) :
    (r.join scriptId entry answer completedTs).pending other =
      if other = scriptId then none else r.pending other := Function.update_apply ..

/-- A message with an id is joined with what is pending under it. -/
theorem handleMessage_pending {r : BenchmarkRun} {answer : Answer} {completedTs : Int}
    {scriptId : String} {entry : PendingEntry} (id : answer.payload.scriptId = some scriptId)
    (nonempty : scriptId ≠ "") (pending : r.pending scriptId = some entry) :
    r.handleMessage answer completedTs = r.join scriptId entry answer completedTs := by
  unfold handleMessage handleResult
  simp only [id, nonempty, pending, ↓reduceIte]
  rfl

/-- Any other message changes nothing. -/
theorem handleMessage_cases (r : BenchmarkRun) (answer : Answer) (completedTs : Int) :
    r.handleMessage answer completedTs = r ∨
      ∃ scriptId entry, answer.payload.scriptId = some scriptId ∧
        r.pending scriptId = some entry ∧
          r.handleMessage answer completedTs = r.join scriptId entry answer completedTs := by
  cases id : answer.payload.scriptId with
  | none =>
      left
      unfold handleMessage
      rw [id]
  | some scriptId =>
      by_cases empty : scriptId = ""
      · left
        unfold handleMessage
        simp only [id, empty, ↓reduceIte]
      · cases pending : r.pending scriptId with
        | none =>
            left
            unfold handleMessage handleResult
            simp only [id, empty, pending, ↓reduceIte]
        | some entry =>
            right
            exact ⟨scriptId, entry, rfl, pending, handleMessage_pending id empty pending⟩

end BenchmarkRun

/-! ## Runs on shared topics -/

/-- The runs so far, the scripts topic, the partitions of the results topic with the offsets that
the consumer groups have committed, and all submissions that were registered. -/
structure Benchmark where
  runs : List BenchmarkRun := []
  scripts : List RunSubmission := []
  results : Nat → List Answer := fun _ => []
  committed : String → Nat → Option Nat := fun _ _ => none
  submitted : List RunSubmission := []

/-- A step that can be taken; `run` is the index of a run. -/
inductive BenchmarkAction where
  | start (group : String)
  | register (run : Nat) (scenario : ScriptScenario) (sentTs : Int)
  | send (run : Nat)
  | finish (run : Nat)
  | assign (run partition : Nat)
  | poll (run partition : Nat) (completedTs : Int)
  | commit (run partition : Nat)
  | stop (run : Nat)
  | publish (partition : Nat) (answer : Answer)

namespace Benchmark

/-- The run of index `i` changed. -/
def withRun (s : Benchmark) (i : Nat) (r : BenchmarkRun) : Benchmark :=
  { s with runs := s.runs.set i r }

inductive Step : Benchmark → BenchmarkAction → Benchmark → Prop
  /-- The generator of every earlier run has returned; its collector may still be in its last
  poll. -/
  | start {s : Benchmark} (group : String) (finished : ∀ r ∈ s.runs, r.generating = false) :
      Step s (.start group) { s with runs := s.runs ++ [{ group := group }] }
  /-- One turn of `BenchmarkLoadGenerator.run` up to the call of `send`. -/
  | register {s : Benchmark} {i : Nat} {r : BenchmarkRun} (scenario : ScriptScenario) (sentTs : Int)
      (here : s.runs[i]? = some r) (generating : r.generating = true) (idle : r.sending = none) :
      Step s (.register i scenario sentTs)
        { s with
          runs := s.runs.set i (r.register ⟨⟨scenario, r.iteration⟩, i⟩ sentTs)
          submitted := s.submitted ++ [⟨⟨scenario, r.iteration⟩, i⟩] }
  | send {s : Benchmark} {i : Nat} {r : BenchmarkRun} {b : RunSubmission}
      (here : s.runs[i]? = some r) (sending : r.sending = some b) :
      Step s (.send i)
        { s with runs := s.runs.set i { r with sending := none }, scripts := s.scripts ++ [b] }
  | finish {s : Benchmark} {i : Nat} {r : BenchmarkRun} (here : s.runs[i]? = some r) :
      Step s (.finish i) (s.withRun i { r with generating := false, sending := none })
  /-- A group without a committed offset begins at the latest one. -/
  | assign {s : Benchmark} {i p : Nat} {r : BenchmarkRun} (here : s.runs[i]? = some r)
      (collecting : r.collecting = true) (unassigned : r.position p = none) :
      Step s (.assign i p)
        (s.withRun i (r.seek p ((s.committed r.group p).getD (s.results p).length)))
  | poll {s : Benchmark} {i p k : Nat} {r : BenchmarkRun} {a : Answer} (completedTs : Int)
      (here : s.runs[i]? = some r) (collecting : r.collecting = true)
      (position : r.position p = some k) (next : (s.results p)[k]? = some a) :
      Step s (.poll i p completedTs)
        (s.withRun i ((r.handleMessage a completedTs).seek p (k + 1)))
  | commit {s : Benchmark} {i p k : Nat} {r : BenchmarkRun} (here : s.runs[i]? = some r)
      (position : r.position p = some k) :
      Step s (.commit i p)
        { s with
          committed := Function.update s.committed r.group
            (Function.update (s.committed r.group) p (some k)) }
  | stop {s : Benchmark} {i : Nat} {r : BenchmarkRun} (here : s.runs[i]? = some r) :
      Step s (.stop i) (s.withRun i { r with collecting := false })
  /-- A runner publishes a report on a submission that was sent. -/
  | publish {s : Benchmark} {p : Nat} {a : Answer} (sent : a.submission ∈ s.scripts)
      (answered : a.submission.Answered a.payload.toReceivedResult) :
      Step s (.publish p a)
        { s with results := Function.update s.results p (s.results p ++ [a]) }

/-- The row in `c` is about the submission of `c` and made from the answer of `c`, the submission
was registered in run `i`, and the answer is the result of this very submission. -/
structure Joined (s : Benchmark) (i : Nat) (c : CompletedEntry) : Prop where
  row : ∃ sentTs completedTs,
    c.row = makeRow c.submission.id (c.submission.record sentTs) c.answer.payload completedTs
  registered : c.submission ∈ s.submitted
  run : c.submission.run = i
  own : c.answer.submission = c.submission

/-- Every row of every collector pairs a submission of its run with its own result. -/
def Paired (s : Benchmark) : Prop :=
  ∀ (i : Nat) (r : BenchmarkRun), s.runs[i]? = some r → ∀ c ∈ r.completed, s.Joined i c

/-- A collector that reads a result whose id it has pending reads the result of its own run. -/
def Timely (s : Benchmark) : BenchmarkAction → Prop
  | .poll i p _ => ∀ (r : BenchmarkRun) (k : Nat) (a : Answer) (scriptId : String),
      s.runs[i]? = some r → r.position p = some k → (s.results p)[k]? = some a →
        a.payload.scriptId = some scriptId → r.pending scriptId ≠ none → a.submission.run = i
  | _ => True

/-! ## The invariant -/

/-- What holds of run `i` when these submissions were registered. -/
structure RunInv (submitted : List RunSubmission) (i : Nat) (r : BenchmarkRun) : Prop where
  numbered : ∀ b ∈ submitted, b.run = i → b.iteration < r.iteration
  sending : ∀ b, r.sending = some b → b ∈ submitted
  pending : ∀ scriptId e, r.pending scriptId = some e →
    e.submission ∈ submitted ∧ e.submission.run = i ∧ e.submission.id = scriptId ∧
      ∃ sentTs, e.record = e.submission.record sentTs

/-- Submissions are known by run and iteration, and what is on the topics was registered. -/
structure Inv (s : Benchmark) : Prop where
  runs : ∀ i r, s.runs[i]? = some r → RunInv s.submitted i r
  known : ∀ b ∈ s.submitted, b.run < s.runs.length
  unique : ∀ b ∈ s.submitted, ∀ b' ∈ s.submitted,
    b.run = b'.run → b.iteration = b'.iteration → b = b'
  scripts : ∀ b ∈ s.scripts, b ∈ s.submitted
  results : ∀ p, ∀ a ∈ s.results p,
    a.submission ∈ s.submitted ∧ a.payload.scriptId = some a.submission.id

section Steps

variable {s s' : Benchmark} {a : BenchmarkAction} {i j : Nat} {r r' : BenchmarkRun}

/-- Run `i` changed: the other runs are what they were. -/
theorem getElem?_withRun (there : (s.runs.set i r)[j]? = some r') :
    (j = i ∧ r' = r) ∨ (j ≠ i ∧ s.runs[j]? = some r') := by
  by_cases same : i = j
  · subst same
    rw [List.getElem?_set_self'] at there
    obtain ⟨old, -, rfl⟩ := Option.map_eq_some_iff.mp there
    exact Or.inl ⟨rfl, rfl⟩
  · rw [List.getElem?_set_ne same] at there
    exact Or.inr ⟨Ne.symm same, there⟩

theorem Inv.withRun (inv : Inv s) (own : RunInv s.submitted i r) : Inv (s.withRun i r) where
  runs j r' there := by
    rcases getElem?_withRun there with ⟨rfl, rfl⟩ | ⟨-, there⟩
    · exact own
    · exact inv.runs j r' there
  known b member := by
    rw [Benchmark.withRun, List.length_set]
    exact inv.known b member
  unique := inv.unique
  scripts := inv.scripts
  results := inv.results

/-- What a run may do to its state, as long as it registers nothing. -/
theorem RunInv.mono {submitted : List RunSubmission} (inv : RunInv submitted i r)
    (iteration : r'.iteration = r.iteration) (sending : ∀ b, r'.sending = some b → r.sending = some b)
    (pending : ∀ scriptId e, r'.pending scriptId = some e → r.pending scriptId = some e) :
    RunInv submitted i r' where
  numbered b member here := by
    rw [iteration]
    exact inv.numbered b member here
  sending b now := inv.sending b (sending b now)
  pending scriptId e now := inv.pending scriptId e (pending scriptId e now)

theorem RunInv.handleMessage {submitted : List RunSubmission} (inv : RunInv submitted i r)
    (answer : Answer) (completedTs : Int) :
    RunInv submitted i (r.handleMessage answer completedTs) := by
  rcases r.handleMessage_cases answer completedTs with same | ⟨scriptId, entry, -, -, joined⟩
  · rw [same]
    exact inv
  · rw [joined]
    refine inv.mono rfl (fun b now => now) fun other e now => ?_
    rw [BenchmarkRun.join_pending] at now
    by_cases here : other = scriptId
    · rw [if_pos here] at now
      exact nomatch now
    · rw [if_neg here] at now
      exact now

/-- A submission of another run is registered. -/
theorem RunInv.grow {submitted : List RunSubmission} {new : RunSubmission}
    (inv : RunInv submitted i r) (other : new.run ≠ i) : RunInv (submitted ++ [new]) i r where
  numbered b member here := by
    rcases List.mem_append.mp member with earlier | last
    · exact inv.numbered b earlier here
    · rw [List.mem_singleton.mp last] at here
      exact absurd here other
  sending b now := List.mem_append_left _ (inv.sending b now)
  pending scriptId e now := by
    obtain ⟨known, rest⟩ := inv.pending scriptId e now
    exact ⟨List.mem_append_left _ known, rest⟩

/-- The submission of the next iteration is registered. -/
theorem RunInv.register {submitted : List RunSubmission} (inv : RunInv submitted i r)
    (scenario : ScriptScenario) (sentTs : Int) :
    RunInv (submitted ++ [⟨⟨scenario, r.iteration⟩, i⟩]) i
      (r.register ⟨⟨scenario, r.iteration⟩, i⟩ sentTs) where
  numbered b member here := by
    rcases List.mem_append.mp member with earlier | last
    · exact Nat.lt_succ_of_lt (inv.numbered b earlier here)
    · rw [List.mem_singleton.mp last]
      exact Nat.lt_succ_self r.iteration
  sending b now := by
    cases now
    exact List.mem_append_right _ List.mem_cons_self
  pending scriptId e now := by
    have now : Function.update r.pending _ _ scriptId = some e := now
    rw [Function.update_apply] at now
    by_cases fresh : scriptId = (⟨⟨scenario, r.iteration⟩, i⟩ : RunSubmission).id
    · rw [if_pos fresh] at now
      cases now
      exact ⟨List.mem_append_right _ List.mem_cons_self, rfl, fresh.symm, sentTs, rfl⟩
    · rw [if_neg fresh] at now
      obtain ⟨known, rest⟩ := inv.pending scriptId e now
      exact ⟨List.mem_append_left _ known, rest⟩

theorem Inv.register (inv : Inv s) (scenario : ScriptScenario) (sentTs : Int)
    (here : s.runs[i]? = some r) :
    Inv { s with
      runs := s.runs.set i (r.register ⟨⟨scenario, r.iteration⟩, i⟩ sentTs)
      submitted := s.submitted ++ [⟨⟨scenario, r.iteration⟩, i⟩] } where
  runs j r' there := by
    rcases getElem?_withRun there with ⟨rfl, rfl⟩ | ⟨other, there⟩
    · exact (inv.runs j r here).register scenario sentTs
    · exact (inv.runs j r' there).grow (Ne.symm other)
  known b member := by
    rw [List.length_set]
    rcases List.mem_append.mp member with earlier | last
    · exact inv.known b earlier
    · rw [List.mem_singleton.mp last]
      exact (List.getElem?_eq_some_iff.mp here).1
  unique b member b' member' run iteration := by
    -- the iteration is larger than those of the earlier submissions of the run
    have fresh : ∀ c ∈ s.submitted, c.run = i → c.iteration ≠ r.iteration := fun c earlier own =>
      Nat.ne_of_lt ((inv.runs i r here).numbered c earlier own)
    rcases List.mem_append.mp member with earlier | last
    · rcases List.mem_append.mp member' with earlier' | last'
      · exact inv.unique b earlier b' earlier' run iteration
      · rw [List.mem_singleton.mp last'] at run iteration
        exact absurd iteration (fresh b earlier run)
    · rw [List.mem_singleton.mp last] at run iteration ⊢
      rcases List.mem_append.mp member' with earlier' | last'
      · exact absurd iteration.symm (fresh b' earlier' run.symm)
      · exact (List.mem_singleton.mp last').symm
  scripts b member := List.mem_append_left _ (inv.scripts b member)
  results p a member := by
    obtain ⟨known, id⟩ := inv.results p a member
    exact ⟨List.mem_append_left _ known, id⟩

/-- Every step keeps the invariant. -/
theorem Inv.step (inv : Inv s) (step : Step s a s') : Inv s' := by
  cases step with
  | start group finished =>
      refine ⟨fun j r there => ?_, fun b member => ?_, inv.unique, inv.scripts, inv.results⟩
      · by_cases inside : j < s.runs.length
        · rw [List.getElem?_append_left inside] at there
          exact inv.runs j r there
        · -- no submission belongs to the new run
          rw [List.getElem?_append_right (Nat.le_of_not_lt inside)] at there
          have new : r = { group := group } :=
            (List.mem_singleton.mp (List.mem_of_getElem? there))
          rw [new]
          refine ⟨fun b member here => ?_, nofun, nofun⟩
          exact absurd (here ▸ inv.known b member) inside
      · rw [List.length_append]
        exact Nat.lt_add_right _ (inv.known b member)
  | register scenario sentTs here generating idle => exact inv.register scenario sentTs here
  | @send i r b here sending =>
      have own := inv.runs i r here
      have moved := inv.withRun (i := i) (r := { r with sending := none })
        (own.mono rfl nofun fun _ _ now => now)
      refine ⟨moved.runs, moved.known, moved.unique, fun b' member => ?_, moved.results⟩
      rcases List.mem_append.mp member with earlier | last
      · exact inv.scripts b' earlier
      · rw [List.mem_singleton.mp last]
        exact own.sending b sending
  | finish here =>
      exact inv.withRun ((inv.runs _ _ here).mono rfl nofun fun _ _ now => now)
  | assign here collecting unassigned =>
      exact inv.withRun ((inv.runs _ _ here).mono rfl (fun _ now => now) fun _ _ now => now)
  | poll completedTs here collecting position next =>
      exact inv.withRun (((inv.runs _ _ here).handleMessage _ completedTs).mono rfl
        (fun _ now => now) fun _ _ now => now)
  | commit here position => exact ⟨inv.runs, inv.known, inv.unique, inv.scripts, inv.results⟩
  | stop here =>
      exact inv.withRun ((inv.runs _ _ here).mono rfl (fun _ now => now) fun _ _ now => now)
  | @publish p answer sent answered =>
      refine ⟨inv.runs, inv.known, inv.unique, inv.scripts, fun p' a member => ?_⟩
      have member : a ∈ Function.update s.results p (s.results p ++ [answer]) p' := member
      rw [Function.update_apply] at member
      by_cases here : p' = p
      · rw [if_pos here] at member
        rcases List.mem_append.mp member with earlier | last
        · exact inv.results p a earlier
        · rw [List.mem_singleton.mp last]
          exact ⟨inv.scripts _ sent, answered.scriptId.2⟩
      · rw [if_neg here] at member
        exact inv.results p' a member

/-! ## Rows -/

/-- A step makes the row `c` in run `i`: a collector reads an answer whose id it has pending. -/
structure Adds (s : Benchmark) (a : BenchmarkAction) (i : Nat) (c : CompletedEntry) : Prop where
  polls : ∃ p k completedTs r scriptId e, a = .poll i p completedTs ∧ s.runs[i]? = some r ∧
    r.position p = some k ∧ (s.results p)[k]? = some c.answer ∧
    c.answer.payload.scriptId = some scriptId ∧ r.pending scriptId = some e ∧
    c = ⟨makeRow scriptId e.record c.answer.payload completedTs, e.submission, c.answer⟩

/-- Where the rows after a step come from. -/
theorem step_completed (step : Step s a s') (there : s'.runs[i]? = some r') {c : CompletedEntry}
    (member : c ∈ r'.completed) :
    (∃ r, s.runs[i]? = some r ∧ c ∈ r.completed) ∨ Adds s a i c := by
  -- a run that is changed keeps its rows, unless it joins a row
  have keeps : ∀ {j r₁ r₂}, s.runs[j]? = some r₁ → (s.runs.set j r₂)[i]? = some r' →
      r₂.completed = r₁.completed → ∃ r, s.runs[i]? = some r ∧ c ∈ r.completed := by
    intro j r₁ r₂ here there same
    rcases getElem?_withRun there with ⟨rfl, rfl⟩ | ⟨-, there⟩
    · rw [same] at member
      exact ⟨r₁, here, member⟩
    · exact ⟨r', there, member⟩
  cases step with
  | start group finished =>
      left
      by_cases inside : i < s.runs.length
      · rw [List.getElem?_append_left inside] at there
        exact ⟨r', there, member⟩
      · rw [List.getElem?_append_right (Nat.le_of_not_lt inside)] at there
        rw [List.mem_singleton.mp (List.mem_of_getElem? there)] at member
        exact nomatch member
  | register scenario sentTs here generating idle => exact Or.inl (keeps here there rfl)
  | send here sending => exact Or.inl (keeps here there rfl)
  | finish here => exact Or.inl (keeps here there rfl)
  | assign here collecting unassigned => exact Or.inl (keeps here there rfl)
  | @poll j p k r answer completedTs here collecting position next =>
      rcases getElem?_withRun there with ⟨rfl, rfl⟩ | ⟨-, there⟩
      · have member : c ∈ (r.handleMessage answer completedTs).completed := member
        rcases r.handleMessage_cases answer completedTs with
          same | ⟨scriptId, e, id, pending, joined⟩
        · rw [same] at member
          exact Or.inl ⟨r, here, member⟩
        · rw [joined] at member
          rcases List.mem_append.mp member with earlier | last
          · exact Or.inl ⟨r, here, earlier⟩
          · right
            rw [List.mem_singleton.mp last]
            exact ⟨p, k, completedTs, r, scriptId, e, rfl, here, position, next, id, pending, rfl⟩
      · exact Or.inl ⟨r', there, member⟩
  | commit here position => exact Or.inl ⟨r', there, member⟩
  | stop here => exact Or.inl (keeps here there rfl)
  | publish sent answered => exact Or.inl ⟨r', there, member⟩

/-- Rows stay. -/
theorem completed_stays (step : Step s a s') (here : s.runs[i]? = some r) {c : CompletedEntry}
    (member : c ∈ r.completed) : ∃ r', s'.runs[i]? = some r' ∧ c ∈ r'.completed := by
  have keeps : ∀ {j r₁ r₂}, s.runs[j]? = some r₁ → (∀ c ∈ r₁.completed, c ∈ r₂.completed) →
      ∃ r', (s.runs.set j r₂)[i]? = some r' ∧ c ∈ r'.completed := by
    intro j r₁ r₂ changed stay
    by_cases same : j = i
    · subst same
      rw [here] at changed
      cases changed
      exact ⟨r₂, List.getElem?_set_self (List.getElem?_eq_some_iff.mp here).1, stay c member⟩
    · exact ⟨r, (List.getElem?_set_ne same).trans here, member⟩
  cases step with
  | start group finished =>
      have inside : i < s.runs.length := (List.getElem?_eq_some_iff.mp here).1
      exact ⟨r, (List.getElem?_append_left inside).trans here, member⟩
  | register scenario sentTs changed generating idle => exact keeps changed fun c old => old
  | send changed sending => exact keeps changed fun c old => old
  | finish changed => exact keeps changed fun c old => old
  | assign changed collecting unassigned => exact keeps changed fun c old => old
  | @poll j p k r answer completedTs changed collecting position next =>
      refine keeps changed fun c old => ?_
      rcases r.handleMessage_cases answer completedTs with same | ⟨scriptId, e, -, -, joined⟩
      · have stays : c ∈ (r.handleMessage answer completedTs).completed := by
          rw [same]
          exact old
        exact stays
      · have stays : c ∈ (r.handleMessage answer completedTs).completed := by
          rw [joined]
          exact List.mem_append_left _ old
        exact stays
  | commit changed position => exact ⟨r, here, member⟩
  | stop changed => exact keeps changed fun c old => old
  | publish sent answered => exact ⟨r, here, member⟩

/-- The submissions registered stay. -/
theorem submitted_stays (step : Step s a s') {b : RunSubmission} (known : b ∈ s.submitted) :
    b ∈ s'.submitted := by
  cases step with
  | register scenario sentTs here generating idle => exact List.mem_append_left _ known
  | _ => exact known

/-- An id names one submission of a run. -/
theorem Inv.eq_of_id (inv : Inv s) {b b' : RunSubmission} (known : b ∈ s.submitted)
    (known' : b' ∈ s.submitted) (run : b.run = b'.run) (id : b.id = b'.id) : b = b' :=
  inv.unique b known b' known' run (Submission.parts_of_id id).2

/-- A row made in a timely step joins a submission with its own result. -/
theorem Adds.joined {c : CompletedEntry} (adds : Adds s a i c) (inv : Inv s) (timely : Timely s a) :
    s.Joined i c := by
  obtain ⟨p, k, completedTs, r, scriptId, e, rfl, here, position, next, id, pending, made⟩ :=
    adds.polls
  have run : c.answer.submission.run = i :=
    timely r k c.answer scriptId here position next id (pending ▸ Option.some_ne_none e)
  obtain ⟨known, own⟩ := inv.results p c.answer (List.mem_of_getElem? next)
  obtain ⟨registered, ofRun, named, sentTs, record⟩ := (inv.runs i r here).pending scriptId e pending
  have submission : c.submission = e.submission := by rw [made]
  have sameId : scriptId = c.answer.submission.id := Option.some.inj (id.symm.trans own)
  have same : c.answer.submission = e.submission :=
    inv.eq_of_id known registered (run.trans ofRun.symm) (sameId.symm.trans named.symm)
  refine ⟨⟨sentTs, completedTs, ?_⟩, ?_, ?_, ?_⟩
  · rw [submission, named, ← record, made]
  · rw [submission]
    exact registered
  · rw [submission]
    exact ofRun
  · rw [submission]
    exact same

/-- A row joins a submission with the result of another one. -/
def Mixed (s : Benchmark) : Prop :=
  ∃ (i : Nat) (r : BenchmarkRun) (c : CompletedEntry),
    s.runs[i]? = some r ∧ c ∈ r.completed ∧ c.answer.submission ≠ c.submission

theorem Mixed.step (mixed : Mixed s) (step : Step s a s') : Mixed s' := by
  obtain ⟨i, r, c, here, member, wrong⟩ := mixed
  obtain ⟨r', there, stays⟩ := completed_stays step here member
  exact ⟨i, r', c, there, stays, wrong⟩

theorem Mixed.not_paired (mixed : Mixed s) : ¬ Paired s := by
  obtain ⟨i, r, c, here, member, wrong⟩ := mixed
  exact fun paired => wrong (paired i r here c member).own

theorem Paired.step (paired : Paired s) (inv : Inv s) (timely : Timely s a) (step : Step s a s') :
    Paired s' := by
  intro i r' there c member
  have joined : s.Joined i c := by
    rcases step_completed step there member with ⟨r, here, earlier⟩ | adds
    · exact paired i r here c earlier
    · exact adds.joined inv timely
  exact ⟨joined.row, submitted_stays step joined.registered, joined.run, joined.own⟩

/-- A step that is not timely mixes two submissions. -/
theorem mixed_of_not_timely (inv : Inv s) (step : Step s a s') (late : ¬ Timely s a) : Mixed s' := by
  cases step with
  | @poll i p k r answer completedTs here collecting position next =>
      unfold Timely at late
      push Not at late
      obtain ⟨r₁, k₁, a₁, scriptId, here₁, position₁, next₁, id, pending, other⟩ := late
      cases here.symm.trans here₁
      cases position.symm.trans position₁
      cases next.symm.trans next₁
      obtain ⟨e, pending⟩ := Option.ne_none_iff_exists'.mp pending
      obtain ⟨-, ofRun, -⟩ := (inv.runs i r here).pending scriptId e pending
      have own := (inv.results p answer (List.mem_of_getElem? next)).2
      have nonempty : scriptId ≠ "" := by
        rw [Option.some.inj (id.symm.trans own)]
        exact answer.submission.scenario.id_ne_empty _
      have joined : r.handleMessage answer completedTs = r.join scriptId e answer completedTs :=
        BenchmarkRun.handleMessage_pending id nonempty pending
      refine ⟨i, _, ⟨makeRow scriptId e.record answer.payload completedTs, e.submission, answer⟩,
        List.getElem?_set_self (List.getElem?_eq_some_iff.mp here).1, ?_, ?_⟩
      · show _ ∈ (r.handleMessage answer completedTs).completed
        rw [joined]
        exact List.mem_append_right _ List.mem_cons_self
      · intro same
        exact other (same ▸ ofRun)
  | _ => exact absurd trivial late

end Steps

/-! ## Runs -/

/-- A timely step. -/
def TimelyStep (s s' : Benchmark) : Prop := ∃ a, Step s a s' ∧ Timely s a

/-- Any step. -/
def AnyStep (s s' : Benchmark) : Prop := ∃ a, Step s a s'

theorem inv_nil : Inv {} := ⟨nofun, nofun, nofun, nofun, fun _ => nofun⟩

theorem inv_of_reaches {s : Benchmark} (run : Reaches AnyStep {} s) : Inv s :=
  run.invariant (fun _ _ inv ⟨_, step⟩ => Inv.step inv step) inv_nil

/-- After a step that is not timely. -/
theorem unpaired_of_late {s s' : Benchmark} {a : BenchmarkAction} (run : Reaches AnyStep {} s)
    (step : Step s a s') (late : ¬ Timely s a) : ∃ s, Reaches AnyStep {} s ∧ ¬ Paired s :=
  ⟨s', run.tail ⟨a, step⟩, (mixed_of_not_timely (inv_of_reaches run) step late).not_paired⟩

/-- **Benchmark rows.**  As long as no collector reads the result of another run's submission while
an own submission of that id is pending, every row joins a submission of its run with its own
result.  The first time one does, a row joins two submissions, and it stays. -/
theorem rows_paired (s : Benchmark) :
    (Reaches TimelyStep {} s → Paired s) ∧
    ∀ s' a, Reaches TimelyStep {} s → Step s a s' → ¬ Timely s a →
      ∀ s'', Reaches AnyStep s' s'' → ¬ Paired s'' := by
  have invariant : Reaches TimelyStep {} s → Inv s ∧ Paired s := by
    intro run
    refine run.invariant (P := fun s => Inv s ∧ Paired s) (fun s s' before step => ?_)
      ⟨inv_nil, nofun⟩
    obtain ⟨a, step, timely⟩ := step
    exact ⟨before.1.step step, before.2.step before.1 timely step⟩
  refine ⟨fun run => (invariant run).2, fun s' a run step late s'' later => ?_⟩
  have mixed : Mixed s' := mixed_of_not_timely (invariant run).1 step late
  have stays : Mixed s'' :=
    later.invariant (fun s s' mixed ⟨_, step⟩ => Mixed.step mixed step) mixed
  exact stays.not_paired

/-- The first submission of a run. -/
def firstSubmission (run : Nat) : RunSubmission := ⟨printOneSubmission 2000, run⟩

/-- The result of the first submission of the first run. -/
def lateAnswer : Answer := ⟨⟨⟨some "python-ok-1", some "python-ok-1"⟩, none, none⟩, firstSubmission 0⟩

/-- The first run ends before its only submission is answered.  The second run registers one of the
same id, and its collector joins it with the answer to the first. -/
theorem lateAnswer_mixed : ¬ ∀ s, Reaches AnyStep {} s → Paired s := by
  intro paired
  let scenario := (printOneSubmission 2000).scenario
  have first : Reaches AnyStep {} _ := .single ⟨_, .start "benchmark-base-run1" nofun⟩
  have first := first.tail ⟨_, .assign (i := 0) (p := 0) rfl rfl rfl⟩
  have first := first.tail ⟨_, .register (i := 0) scenario 0 rfl rfl rfl⟩
  have first := first.tail ⟨_, .send (i := 0) rfl rfl⟩
  have first := first.tail ⟨_, .finish (i := 0) rfl⟩
  have first := first.tail ⟨_, .stop (i := 0) rfl⟩
  have second := first.tail ⟨_, .start "benchmark-base-run2" (by decide)⟩
  have second := second.tail ⟨_, .assign (i := 1) (p := 0) rfl rfl rfl⟩
  have second := second.tail ⟨_, .register (i := 1) scenario 60 rfl rfl rfl⟩
  have second := second.tail
    ⟨_, .publish (p := 0) (a := lateAnswer) List.mem_cons_self printOneSubmission_answered⟩
  obtain ⟨s, run, unpaired⟩ := unpaired_of_late second
    (.poll (i := 1) (p := 0) (a := lateAnswer) 61 rfl rfl rfl rfl) fun timely =>
      absurd (timely _ _ _ (firstSubmission 1).id rfl rfl rfl (by decide) fun absent =>
        Option.some_ne_none _ (BenchmarkRun.register_pending.symm.trans absent)) (by decide)
  exact unpaired (paired s run)

end Benchmark

end Scrc
