import Scrc.Docker.Preparation
import Scrc.Executor.DispatchProgress
import Scrc.Executor.DispatchSafety
import Scrc.Kafka.Decode
import Scrc.Kafka.Publisher

/-!
# Shutdown

The wiring of `main`: the consumer, the executor and the publisher under the one context that the
shutdown signal cancels.  `ExecuteFromProducer` waits for the scripts in flight, but their reports
are published under the context that is already cancelled.

* `service`: the surroundings of `ExecuteFromProducer` in `main`.
* `Orderly`: steps that cancel the context, or fetch under it, at a harmless moment only.
* `orderly_published`: after orderly steps every accepted script has its report delivered.
* `loses`: with a script to be published under a cancelled context, its report can be lost.
* `shutdown_publishes`: the two together, `disorderly_step` between them.
-/

namespace Scrc

open Interaction Transition Dispatch

/-! ## The wiring -/

/-- What surrounds `ExecuteFromProducer` in `main`: the messages of the scripts topic not read yet,
whether the signal context is cancelled, and the messages delivered to the results topic. -/
structure Process where
  unread : List Message
  cancelled : Bool := false
  delivered : List ResultMessage := []

/-- What a call of `WriteMessages` does until it returns: it delivers the message, or it fails,
which it does under a cancelled context only. -/
def Writes (p : Process) (e : Event Writer) (p' : Process) : Prop :=
  match e.reply with
  | .ok _ => p' = { p with delivered := p.delivered ++ [e.call.msg] }
  | .error _ => p.cancelled = true ∧ p' = p

/-- The surroundings of `ExecuteFromProducer` in `main`.  Reading yields the next message or fails;
the callback publishes and logs the error; meanwhile messages arrive and the signal may come. -/
def service : Surroundings Process where
  nextScript p answer p' :=
    (∃ msg rest, p.unread = msg :: rest ∧ answer = Consumer.nextScript (.ok msg) ∧
      p' = { p with unread := rest }) ∨
    ∃ err, answer = Consumer.nextScript (.error err) ∧ p' = p
  onReport := some fun p report p' =>
    ∃ timestamp e err, Exec (publishRunReport timestamp .caller report) [e] err ∧ Writes p e p'
  elsewhere p p' :=
    (∃ msg, p' = { p with unread := p.unread ++ [msg] }) ∨
    (p.cancelled = false ∧ p' = { p with cancelled := true })

/-- The messages delivered are the reports that the runs returned, one on each script that was
fetched. -/
def Published (s : Dispatch Process) : Prop :=
  ∃ stamped : List (GoString × RunReport),
    s.around.delivered = stamped.map (fun p => resultMessage p.1 p.2) ∧
      (stamped.map Prod.snd).Perm s.reported ∧
      (stamped.map fun p => p.2.script).Perm s.fetched

/-! ## Orderly steps -/

/-- The goroutine is past the publication of its report. -/
def Worker.published (w : Worker) : Option Script :=
  match w.pc with
  | .releasing => some w.script
  | .leaving => some w.script
  | .ended => some w.script
  | _ => none

/-- The report that the goroutine is about to publish. -/
def Worker.pending (w : Worker) : Option RunReport :=
  match w.pc with
  | .reporting report => some report
  | _ => none

/-- No script that was fetched is still to be published. -/
def Settled (s : Dispatch Process) : Prop :=
  s.loop.script = none ∧ ∀ w ∈ s.workers, w.published ≠ none

/-- A step that cancels the context only when nothing is left to publish, and fetches a script only
while the context is live. -/
structure Orderly (engine : Engine Docker) (maxScripts maxParallel : Int)
    (s s' : Dispatch Process) : Prop where
  step : Step service engine maxScripts maxParallel s s'
  cancels : s.around.cancelled = false → s'.around.cancelled = true → Settled s
  fetches : s'.fetched ≠ s.fetched → s.around.cancelled = false

section Orderly

variable {engine : Engine Docker} {maxScripts maxParallel : Int} {s s' : Dispatch Process}

/-- What orderly steps preserve: a cancelled context finds nothing left to publish, and a report is
delivered or about to be published. -/
structure Tidy (s : Dispatch Process) : Prop where
  settled : s.around.cancelled = true → Settled s
  delivered : ∃ stamped : List (GoString × RunReport),
    s.around.delivered = stamped.map (fun p => resultMessage p.1 p.2) ∧
      (stamped.map Prod.snd ++ s.workers.filterMap Worker.pending).Perm s.reported

/-- A publication that returns has delivered its message, or it failed under a cancelled context. -/
theorem publish_cases {p p' : Process} {report : RunReport}
    (effect : ∃ timestamp e err, Exec (publishRunReport timestamp .caller report) [e] err ∧
      Writes p e p') :
    (∃ timestamp, p' = { p with delivered := p.delivered ++ [resultMessage timestamp report] }) ∨
      p.cancelled = true ∧ p' = p := by
  obtain ⟨timestamp, e, err, run, writes⟩ := effect
  unfold publishRunReport at run
  obtain ⟨reply, rest, same, -⟩ := exec_call.mp run
  cases same
  cases reply with
  | error cause => exact Or.inr writes
  | ok => exact Or.inl ⟨timestamp, writes⟩

/-- A step of the loop that neither fetches nor starts a goroutine. -/
theorem Tidy.turn (tidy : Tidy s) (workers : s'.workers = s.workers)
    (cancelled : s'.around.cancelled = s.around.cancelled)
    (delivered : s'.around.delivered = s.around.delivered) (reported : s'.reported = s.reported)
    (script : s.loop.script = none → s'.loop.script = none) : Tidy s' where
  settled gone := by
    rw [cancelled] at gone
    obtain ⟨nothing, all⟩ := tidy.settled gone
    exact ⟨script nothing, by rw [workers]; exact all⟩
  delivered := by
    rw [workers, delivered, reported]
    exact tidy.delivered

/-- What is delivered stays accounted for when a goroutine moves that is not about to publish. -/
theorem Tidy.delivered_move (tidy : Tidy s) {i : Nat} {v w : Worker}
    (here : s.workers[i]? = some v) (before : v.pending = none) (after : w.pending = none) :
    ∃ stamped : List (GoString × RunReport),
      s.around.delivered = stamped.map (fun p => resultMessage p.1 p.2) ∧
        (stamped.map Prod.snd ++ (s.workers.set i w).filterMap Worker.pending).Perm s.reported := by
  obtain ⟨stamped, messages, reports⟩ := tidy.delivered
  refine ⟨stamped, messages, ?_⟩
  have kept : ((s.workers.set i w).filterMap Worker.pending).Perm
      (s.workers.filterMap Worker.pending) :=
    (perm_filterMap_set Worker.pending here (after.trans before.symm) (List.Perm.refl _)).symm
  exact (kept.append_left _).trans reports

/-- A step of a goroutine after its publication. -/
theorem Tidy.past (tidy : Tidy s) {i : Nat} {v w : Worker} (here : s.workers[i]? = some v)
    (workers : s'.workers = s.workers.set i w) (loop : s'.loop = s.loop)
    (around : s'.around = s.around) (reported : s'.reported = s.reported)
    (before : v.pending = none) (after : w.pending = none) (published : w.published ≠ none) :
    Tidy s' where
  settled gone := by
    rw [around] at gone
    obtain ⟨nothing, all⟩ := tidy.settled gone
    refine ⟨by rw [loop]; exact nothing, ?_⟩
    rw [workers]
    intro u member
    rcases List.mem_or_eq_of_mem_set member with old | rfl
    · exact all u old
    · exact published
  delivered := by
    rw [workers, around, reported]
    exact tidy.delivered_move here before after

theorem Tidy.step (tidy : Tidy s)
    (orderly : Orderly engine maxScripts maxParallel s s') : Tidy s' := by
  obtain ⟨step, cancels, fetches⟩ := orderly
  cases step with
  | limit here reached => exact tidy.turn rfl rfl rfl rfl fun _ => rfl
  | fetch here below => exact tidy.turn rfl rfl rfl rfl fun _ => rfl
  | failed here answer =>
      rcases answer with ⟨msg, rest, unread, -, rfl⟩ | ⟨err, -, rfl⟩
      · exact tidy.turn rfl rfl rfl rfl fun _ => rfl
      · exact tidy.turn rfl rfl rfl rfl fun _ => rfl
  | @script script p here answer =>
      rcases answer with ⟨msg, rest, unread, -, rfl⟩ | ⟨err, absurd, -⟩
      · have live : s.around.cancelled = false := by
          apply fetches
          intro same
          have longer := congrArg List.length (fetched_script s.answers script)
          have count := congrArg List.length same
          unfold Dispatch.fetched at count
          rw [longer, List.length_append, List.length_singleton] at count
          omega
        exact
          { settled := fun gone => by
              rw [live] at gone
              cases gone
            delivered := tidy.delivered }
      · cases absurd
  | acquire here room =>
      exact tidy.turn rfl rfl rfl rfl fun nothing => by rw [here] at nothing; cases nothing
  | add here =>
      exact tidy.turn rfl rfl rfl rfl fun nothing => by rw [here] at nothing; cases nothing
  | count here =>
      exact tidy.turn rfl rfl rfl rfl fun nothing => by rw [here] at nothing; cases nothing
  | @spawn script here =>
      exact
        { settled := fun gone => by
            have nothing := (tidy.settled gone).1
            rw [here] at nothing
            cases nothing
          delivered := by
            obtain ⟨stamped, messages, reports⟩ := tidy.delivered
            refine ⟨stamped, messages, ?_⟩
            have same : (s.workers ++ [(⟨script, .spawned⟩ : Worker)]).filterMap Worker.pending =
                s.workers.filterMap Worker.pending :=
              List.filterMap_append.trans (List.append_nil _)
            rw [same]
            exact reports }
  | wait here zero => exact tidy.turn rfl rfl rfl rfl fun _ => rfl
  | run here =>
      exact
        { settled := fun gone =>
            absurd rfl ((tidy.settled gone).2 _ (List.mem_of_getElem? here))
          delivered := tidy.delivered_move here rfl rfl }
  | finish here returns silent => cases silent
  | @announce i script report here returns called =>
      obtain ⟨stamped, messages, reports⟩ := tidy.delivered
      have gain := perm_filterMap_set_gain (b := ⟨script, .reporting report⟩) Worker.pending here rfl
        rfl (List.Perm.refl _)
      exact
        { settled := fun gone =>
            absurd rfl ((tidy.settled gone).2 _ (List.mem_of_getElem? here))
          delivered := by
            refine ⟨stamped, messages, (gain.symm.append_left _).trans ?_⟩
            rw [← List.append_assoc]
            exact reports.append_right [report] }
  | @report i script report p here effect =>
      obtain ⟨f, present, effect⟩ := effect
      cases present
      have before := fun gone => (tidy.settled gone).2 _ (List.mem_of_getElem? here)
      rcases publish_cases effect with ⟨timestamp, rfl⟩ | ⟨gone, -⟩
      · obtain ⟨stamped, messages, reports⟩ := tidy.delivered
        have lose := perm_filterMap_set_lose (b := ⟨script, .releasing⟩) Worker.pending here rfl rfl
        exact
          { settled := fun gone => absurd rfl (before gone)
            delivered := by
              refine ⟨stamped ++ [(timestamp, report)], ?_, ?_⟩
              · rw [List.map_append, ← messages]
                rfl
              · rw [List.map_append, List.append_assoc]
                exact (lose.symm.append_left _).trans reports }
      · exact absurd rfl (before gone)
  | release here held => exact tidy.past here rfl rfl rfl rfl rfl rfl (Option.some_ne_none _)
  | done here => exact tidy.past here rfl rfl rfl rfl rfl rfl (Option.some_ne_none _)
  | elsewhere moves =>
      rcases moves with ⟨msg, rfl⟩ | ⟨live, rfl⟩
      · exact tidy.turn rfl rfl rfl rfl id
      · exact
          { settled := fun _ => cancels live rfl
            delivered := tidy.delivered }

/-- After orderly steps every script that was fetched has its report delivered at the return. -/
theorem orderly_published {unread : List Message}
    (run : Reaches (Orderly engine maxScripts maxParallel) (initial { unread := unread }) s)
    {err : Option GoError} (returned : s.loop = .returned err) : Published s := by
  have start : Inv service maxScripts maxParallel (initial { unread := unread }) ∧
      Tidy (initial { unread := unread }) := by
    refine ⟨inv_initial _, ?_, [], rfl, List.Perm.refl _⟩
    intro gone
    cases gone
  obtain ⟨inv, tidy⟩ := run.invariant
    (P := fun s => Inv service maxScripts maxParallel s ∧ Tidy s)
    (fun _ _ before orderly => ⟨before.1.step orderly.step, before.2.step orderly⟩) start
  have none : s.workers.filterMap Worker.pending = [] := by
    apply List.filterMap_eq_nil_iff.mpr
    intro w member
    unfold Worker.pending
    rw [inv.all_ended returned w member]
  obtain ⟨stamped, messages, reports⟩ := tidy.delivered
  rw [none, List.append_nil] at reports
  refine ⟨stamped, messages, reports, ?_⟩
  have scripts := reports.map RunReport.script
  rw [List.map_map] at scripts
  exact scripts.trans (inv.reported_fetched returned nofun)

end Orderly

/-! ## Disorderly steps -/

section Disorderly

variable {engine : Engine Docker} {maxScripts maxParallel : Int} {s s' : Dispatch Process}

/-- The surroundings under a cancelled context in which nothing succeeds any more. -/
def failing : Surroundings Process where
  nextScript p answer p' := answer = .error CtxErr.canceled.toError ∧ p' = p
  onReport := some fun p _ p' => p' = p
  elsewhere _ _ := False

theorem failing_finite : Finite failing fun _ => 0 where
  script answer := nomatch answer.1
  error _ := Nat.le_refl 0
  callback _ _ := Nat.le_refl 0
  elsewhere := id

theorem failing_responsive (engine : Engine Docker) : Responsive failing engine where
  producer p := ⟨_, p, rfl, rfl⟩
  runtime script :=
    ⟨_, _, exec_answered servingDaemon (SuiteRunner.run engine script) []⟩
  callback := by
    intro f present p report
    cases present
    exact ⟨p, rfl⟩

/-- What `failing` does, `service` may do under a cancelled context. -/
theorem failing_step (gone : s.around.cancelled = true)
    (step : Step failing engine maxScripts maxParallel s s') :
    Step service engine maxScripts maxParallel s s' ∧ s'.around = s.around ∧
      s'.fetched = s.fetched := by
  cases step with
  | limit here reached => exact ⟨.limit here reached, rfl, rfl⟩
  | fetch here below => exact ⟨.fetch here below, rfl, rfl⟩
  | failed here answer =>
      obtain ⟨cause, rfl⟩ := answer
      cases cause
      exact ⟨.failed here (Or.inr ⟨_, rfl, rfl⟩), rfl, fetched_failed _ _⟩
  | script here answer => cases answer.1
  | acquire here room => exact ⟨.acquire here room, rfl, rfl⟩
  | add here => exact ⟨.add here, rfl, rfl⟩
  | count here => exact ⟨.count here, rfl, rfl⟩
  | spawn here => exact ⟨.spawn here, rfl, rfl⟩
  | wait here zero => exact ⟨.wait here zero, rfl, rfl⟩
  | run here => exact ⟨.run here, rfl, rfl⟩
  | finish here returns silent => cases silent
  | announce here returns called => exact ⟨.announce here returns nofun, rfl, rfl⟩
  | @report i script report p here effect =>
      obtain ⟨f, present, effect⟩ := effect
      cases present
      cases effect
      have fails : Exec (publishRunReport [] .caller report)
          [⟨⟨.caller, resultMessage [] report⟩, .error CtxErr.canceled.toError⟩]
          (some (.wrap "write message" CtxErr.canceled.toError)) := .call (.ret _)
      exact ⟨.report here ⟨_, rfl, [], _, _, fails, gone, rfl⟩, rfl, rfl⟩
  | release here held => exact ⟨.release here held, rfl, rfl⟩
  | done here => exact ⟨.done here, rfl, rfl⟩
  | elsewhere moves => cases moves

theorem failing_reaches (gone : s.around.cancelled = true)
    (run : Reaches (Step failing engine maxScripts maxParallel) s s') :
    Reaches (Step service engine maxScripts maxParallel) s s' ∧ s'.around = s.around ∧
      s'.fetched = s.fetched := by
  induction run with
  | refl => exact ⟨.refl, rfl, rfl⟩
  | tail _ last ih =>
      obtain ⟨run, around, fetched⟩ := ih
      obtain ⟨step, around', fetched'⟩ := failing_step (by rw [around]; exact gone) last
      exact ⟨.tail run step, around'.trans around, fetched'.trans fetched⟩

/-- The invariant does not see which of the two the surroundings are. -/
theorem inv_failing (inv : Inv service maxScripts maxParallel s) :
    Inv failing maxScripts maxParallel s :=
  { inv with
    reported := fun _ => inv.reported nofun
    silent := nofun
    called := fun _ _ _ _ => nofun }

/-- A message was delivered for the goroutines past publication only. -/
def Sparse (s : Dispatch Process) : Prop :=
  s.around.delivered.length ≤ s.workers.countP fun w => w.published.isSome

theorem Sparse.move (sparse : Sparse s) {i : Nat} {v w : Worker} (here : s.workers[i]? = some v)
    (workers : s'.workers = s.workers.set i w) (around : s'.around = s.around)
    (same : w.published.isSome = v.published.isSome) : Sparse s' := by
  have moved := countP_set_add (b := w) (fun w => w.published.isSome) here
  unfold Sparse at *
  rw [workers, around]
  simp only [same] at moved
  omega

theorem Sparse.step (sparse : Sparse s)
    (step : Step service engine maxScripts maxParallel s s') : Sparse s' := by
  cases step with
  | limit here reached => exact sparse
  | fetch here below => exact sparse
  | failed here answer =>
      rcases answer with ⟨msg, rest, unread, -, rfl⟩ | ⟨err, -, rfl⟩
      · exact sparse
      · exact sparse
  | script here answer =>
      rcases answer with ⟨msg, rest, unread, -, rfl⟩ | ⟨err, absurd, -⟩
      · exact sparse
      · cases absurd
  | acquire here room => exact sparse
  | add here => exact sparse
  | count here => exact sparse
  | spawn here =>
      unfold Sparse at *
      rw [List.countP_append]
      exact Nat.le_add_right_of_le sparse
  | wait here zero => exact sparse
  | run here => exact sparse.move here rfl rfl rfl
  | finish here returns silent => cases silent
  | announce here returns called => exact sparse.move here rfl rfl rfl
  | @report i script report p here effect =>
      obtain ⟨f, present, effect⟩ := effect
      cases present
      have moved :=
        countP_set_add (b := ⟨script, .releasing⟩) (fun w => w.published.isSome) here
      unfold Sparse at *
      simp only [Worker.published, Option.isSome, Bool.toNat_true, Bool.toNat_false] at *
      rcases publish_cases effect with ⟨timestamp, rfl⟩ | ⟨-, rfl⟩
      · simp only [List.length_append, List.length_singleton]
        omega
      · omega
  | release here held => exact sparse.move here rfl rfl rfl
  | done here => exact sparse.move here rfl rfl rfl
  | elsewhere moves =>
      rcases moves with ⟨msg, rfl⟩ | ⟨live, rfl⟩
      · exact sparse
      · exact sparse

/-- Before everything is published there are fewer messages than scripts. -/
theorem Sparse.short (sparse : Sparse s) (inv : Inv service maxScripts maxParallel s)
    (unsettled : ¬ Settled s) : s.around.delivered.length < s.fetched.length := by
  have bound := List.countP_le_length (p := fun w : Worker => w.published.isSome) (l := s.workers)
  have fetched := congrArg List.length inv.fetched
  rw [List.length_append, List.length_map] at fetched
  unfold Sparse at sparse
  cases here : s.loop.script with
  | some script =>
      rw [here, Option.toList_some, List.length_singleton] at fetched
      omega
  | none =>
      have fewer : s.workers.countP (fun w => w.published.isSome) ≠ s.workers.length := by
        intro all
        apply unsettled
        refine ⟨here, fun w member => ?_⟩
        exact Option.isSome_iff_ne_none.mp (List.countP_eq_length.mp all w member)
      omega

/-- From a state under a cancelled context in which a script is still to be published, a return can
be reached at which its report is not delivered. -/
theorem loses {unread : List Message}
    (reachable : Reachable service engine maxScripts maxParallel { unread := unread } s)
    (gone : s.around.cancelled = true) (unsettled : ¬ Settled s) :
    ∃ s' err, Reaches (Step service engine maxScripts maxParallel) s s' ∧
      s'.loop = .returned err ∧ ¬ Published s' := by
  have inv := reachable_inv reachable
  have sparse : Sparse s := reachable.invariant (fun _ _ before step => before.step step)
    (Nat.le_refl 0)
  obtain ⟨s', err, run, returned⟩ :=
    (inv_failing inv).returns failing_finite (failing_responsive engine)
  obtain ⟨run, around, fetched⟩ := failing_reaches gone run
  refine ⟨s', err, run, returned, ?_⟩
  rintro ⟨stamped, messages, -, scripts⟩
  have short := sparse.short inv unsettled
  have delivered := congrArg List.length messages
  have perm := scripts.length_eq
  rw [List.length_map] at delivered perm
  rw [around] at delivered
  rw [fetched] at perm
  omega

/-- A step that keeps the context and the scripts fetched is orderly. -/
theorem orderly_of_same (step : Step service engine maxScripts maxParallel s s')
    (cancelled : s'.around.cancelled = s.around.cancelled) (fetched : s'.fetched = s.fetched) :
    Orderly engine maxScripts maxParallel s s' where
  step := step
  cancels live gone := by
    rw [cancelled, live] at gone
    cases gone
  fetches changed := absurd fetched changed

/-- A step that is not orderly leaves a script to be published under a cancelled context. -/
theorem disorderly_step (step : Step service engine maxScripts maxParallel s s')
    (disorderly : ¬ Orderly engine maxScripts maxParallel s s') :
    s'.around.cancelled = true ∧ ¬ Settled s' := by
  have same := fun cancelled fetched => disorderly (orderly_of_same step cancelled fetched)
  cases step with
  | limit here reached => exact absurd rfl (same rfl)
  | fetch here below => exact absurd rfl (same rfl)
  | failed here answer =>
      rcases answer with ⟨msg, rest, unread, -, rfl⟩ | ⟨err, -, rfl⟩
      · exact absurd (fetched_failed _ _) (same rfl)
      · exact absurd (fetched_failed _ _) (same rfl)
  | script here answer =>
      rcases answer with ⟨msg, rest, unread, ok, rfl⟩ | ⟨err, absurd, -⟩
      · cases here' : s.around.cancelled with
        | true => exact ⟨rfl, fun settled => nomatch settled.1⟩
        | false =>
            refine absurd ⟨.script here (Or.inl ⟨msg, rest, unread, ok, rfl⟩), ?_, ?_⟩ disorderly
            · intro live gone
              rw [live] at gone
              cases gone
            · exact fun _ => here'
      · cases absurd
  | acquire here room => exact absurd rfl (same rfl)
  | add here => exact absurd rfl (same rfl)
  | count here => exact absurd rfl (same rfl)
  | spawn here => exact absurd rfl (same rfl)
  | wait here zero => exact absurd rfl (same rfl)
  | run here => exact absurd rfl (same rfl)
  | finish here returns silent => cases silent
  | announce here returns called => exact absurd rfl (same rfl)
  | report here effect =>
      obtain ⟨f, present, effect⟩ := effect
      cases present
      rcases publish_cases effect with ⟨timestamp, rfl⟩ | ⟨-, rfl⟩
      · exact absurd rfl (same rfl)
      · exact absurd rfl (same rfl)
  | release here held => exact absurd rfl (same rfl)
  | done here => exact absurd rfl (same rfl)
  | elsewhere moves =>
      rcases moves with ⟨msg, rfl⟩ | ⟨live, rfl⟩
      · exact absurd rfl (same rfl)
      · refine ⟨rfl, fun settled => disorderly ⟨.elsewhere (Or.inr ⟨live, rfl⟩), ?_, ?_⟩⟩
        · exact fun _ _ => settled
        · exact fun changed => absurd rfl changed

/-- **Graceful shutdown, exactly.**  When the context is cancelled only while no accepted script is
still to be published, and scripts are fetched only while it is live, every script that
`NextScript` returned has its report delivered when `ExecuteFromProducer` returns.  After any other
step a return can be reached at which a report is missing. -/
theorem shutdown_publishes (engine : Engine Docker) (maxScripts maxParallel : Int)
    (unread : List Message) :
    (∀ s err, Reaches (Orderly engine maxScripts maxParallel) (initial { unread := unread }) s →
      s.loop = .returned err → Published s) ∧
    ∀ s s', Reachable service engine maxScripts maxParallel { unread := unread } s →
      Step service engine maxScripts maxParallel s s' →
      ¬ Orderly engine maxScripts maxParallel s s' →
      ∃ last err, Reaches (Step service engine maxScripts maxParallel) s' last ∧
        last.loop = .returned err ∧ ¬ Published last := by
  constructor
  · intro s err run returned
    exact orderly_published run returned
  · intro s s' reachable step disorderly
    obtain ⟨gone, unsettled⟩ := disorderly_step step disorderly
    exact loses (.tail reachable step) gone unsettled

end Disorderly

/-! ## A signal while a script runs -/

/-- A message with a script. -/
def submission : Message :=
  ⟨"scripts", 0, "s1", "\x7b\"language\":\"python\",\"source\":\"print(1)\"\x7d"⟩

/-- The script of `submission`. -/
def submitted : Script := ⟨"s1", .python, "print(1)", ⟨0, 0⟩, []⟩

/-- The call for `submission` when its script is running and the signal comes. -/
def terminated : Dispatch Process where
  around := { unread := [], cancelled := true }
  tokens := 1
  waitGroup := 1
  processed := 1
  workers := [⟨submitted, .running⟩]
  answers := [.ok submitted]
  ran := [submitted]

theorem terminated_reachable :
    Reachable service pythonEngine 0 1 { unread := [submission] } terminated :=
  .head (.fetch rfl (by decide)) <|
  .head (.script (e := { unread := [] }) rfl
    (Or.inl ⟨submission, [], rfl, by decide, rfl⟩)) <|
  .head (.acquire rfl (by decide)) <| .head (.add rfl) <| .head (.count rfl) <|
  .head (.spawn rfl) <| .head (.run (i := 0) rfl) <|
  .head (.elsewhere (Or.inr ⟨rfl, rfl⟩)) .refl

/-- The signal comes while a script runs: its report can be lost. -/
theorem terminated_unpublished :
    ¬ ∀ s err, Reachable service pythonEngine 0 1 { unread := [submission] } s →
      s.loop = .returned err → Published s := by
  intro published
  have unsettled : ¬ Settled terminated := fun settled =>
    settled.2 _ List.mem_cons_self rfl
  obtain ⟨s, err, run, returned, lost⟩ := loses terminated_reachable rfl unsettled
  exact lost (published s err (terminated_reachable.trans run) returned)

end Scrc
