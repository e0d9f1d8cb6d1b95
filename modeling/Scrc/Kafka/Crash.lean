import Scrc.Kafka.Shutdown

/-!
# Crashes

The scripts topic with the offset of the consumer group, and a runner that may crash at any step and
is started again at that offset.  `ReadMessage` commits the offset of a message before it returns
it, so a script that the runner holds is not delivered again.

* `Deployment.Step`: submissions, commits, the steps of `ExecuteFromProducer`, crashes and restarts.
* `Careful`: steps that end the process only when it holds no script, and publish every report.
* `step_cases`: what a step does to the scripts committed, published and held.
* `committed_kept`: after careful steps every committed script is published or held; after any other
  step one is lost for good.
-/

namespace Scrc

open Interaction Transition Dispatch

/-! ## The deployment -/

/-- The scripts topic with the offset that the group has committed, and the results topic.  `inHand`
is the message that `ReadMessage` has committed and not returned. -/
structure Broker where
  topic : List Message
  committed : Nat := 0
  inHand : Option Message := none
  results : List ResultMessage := []

/-- What a call of `WriteMessages` does until it returns: it delivers the message, or it fails. -/
def Broker.Writes (b : Broker) (e : Event Writer) (b' : Broker) : Prop :=
  match e.reply with
  | .ok _ => b' = { b with results := b.results ++ [e.call.msg] }
  | .error _ => b' = b

/-- The offset of the next message is committed, and the message is in hand. -/
def Broker.commit (b : Broker) (msg : Message) : Broker :=
  { b with committed := b.committed + 1, inHand := some msg }

/-- The surroundings of `ExecuteFromProducer`.  `ReadMessage` returns the message in hand or fails;
the callback publishes and logs the error. -/
def broker : Surroundings Broker where
  nextScript b answer b' :=
    (∃ msg, b.inHand = some msg ∧ answer = Consumer.nextScript (.ok msg) ∧
      b' = { b with inHand := none }) ∨
    ∃ err, b.inHand = none ∧ answer = Consumer.nextScript (.error err) ∧ b' = b
  onReport := some fun b report b' =>
    ∃ timestamp e err, Exec (publishRunReport timestamp .caller report) [e] err ∧ b.Writes e b'
  elsewhere _ _ := False

/-- The runner process, with the broker around it, and whether it is alive. -/
structure Deployment where
  process : Dispatch Broker
  up : Bool := true

namespace Deployment

/-- The runner with the broker changed. -/
def withBroker (d : Deployment) (b : Broker) : Deployment :=
  { d with process := { d.process with around := b } }

inductive Step (engine : Engine Docker) (maxScripts maxParallel : Int) :
    Deployment → Deployment → Prop
  | submit {d : Deployment} (msg : Message) :
      Step engine maxScripts maxParallel d
        (d.withBroker { d.process.around with topic := d.process.around.topic ++ [msg] })
  /-- `ReadMessage` commits the offset of the next message. -/
  | commit {d : Deployment} {msg : Message} (alive : d.up = true)
      (reading : d.process.loop = .fetching) (free : d.process.around.inHand = none)
      (next : d.process.around.topic[d.process.around.committed]? = some msg) :
      Step engine maxScripts maxParallel d
        (d.withBroker (d.process.around.commit msg))
  /-- A step of `ExecuteFromProducer`. -/
  | turn {d : Deployment} {p : Dispatch Broker} (alive : d.up = true)
      (step : Dispatch.Step broker engine maxScripts maxParallel d.process p) :
      Step engine maxScripts maxParallel d { d with process := p }
  /-- The process ends, and its memory is gone. -/
  | crash {d : Deployment} (alive : d.up = true) :
      Step engine maxScripts maxParallel d
        { process := initial { d.process.around with inHand := none }, up := false }
  | restart {d : Deployment} (dead : d.up = false) :
      Step engine maxScripts maxParallel d { d with up := true }

/-- A deployment that begins with these messages in the topic. -/
def start (topic : List Message) : Deployment where
  process := initial { topic := topic }

end Deployment

/-! ## What is committed, published and held -/

/-- The scripts of messages; messages without one are no submissions. -/
def scriptsOf (msgs : List Message) : List Script :=
  msgs.filterMap fun msg => (decodeScriptMessage msg).toOption

/-- The script, until its report is published. -/
def Worker.unpublished (w : Worker) : Option Script :=
  match w.pc with
  | .spawned => some w.script
  | .running => some w.script
  | .reporting _ => some w.script
  | _ => none

namespace Deployment

/-- The submissions whose offset has been committed. -/
def committed (d : Deployment) : List Script :=
  scriptsOf (d.process.around.topic.take d.process.around.committed)

/-- The messages in the results topic. -/
def results (d : Deployment) : List ResultMessage := d.process.around.results

/-- The scripts that the process holds: in `ReadMessage`, in the loop, and in the goroutines that
have not published. -/
def held (d : Deployment) : List Script :=
  scriptsOf d.process.around.inHand.toList ++
    (d.process.loop.script.toList ++ d.process.workers.filterMap Worker.unpublished)

/-- Every committed submission has a published report or is held. -/
def Kept (d : Deployment) : Prop :=
  ∃ stamped : List (GoString × RunReport),
    d.results = stamped.map (fun p => resultMessage p.1 p.2) ∧
      d.committed.Subperm (stamped.map (fun p => p.2.script) ++ d.held)

/-- ... and nothing else is published or held. -/
def Balanced (d : Deployment) : Prop :=
  ∃ stamped : List (GoString × RunReport),
    d.results = stamped.map (fun p => resultMessage p.1 p.2) ∧
      d.committed.Perm (stamped.map (fun p => p.2.script) ++ d.held)

/-- A step that ends the process only when it holds no script, and in which a publication that
returns has delivered its message. -/
structure Careful (engine : Engine Docker) (maxScripts maxParallel : Int) (d d' : Deployment) :
    Prop where
  step : Step engine maxScripts maxParallel d d'
  ends : d.up = true → d'.up = false → d.held = []
  publishes : ∀ (i : Nat) (script : Script) (report : RunReport),
    d.process.workers[i]? = some ⟨script, .reporting report⟩ →
      d'.process.workers[i]? = some ⟨script, .releasing⟩ → d'.results ≠ d.results

/-- A step by which nothing gets lost: it moves held scripts about, commits one that is held from
then on, or publishes the report on one that was held. -/
inductive Keeps (d d' : Deployment) : Prop
  | stay (committed : d'.committed = d.committed) (results : d'.results = d.results)
      (held : d'.held.Perm d.held)
  | commit (script : Script) (committed : d'.committed = d.committed ++ [script])
      (results : d'.results = d.results) (held : d'.held.Perm (script :: d.held))
  | publish (timestamp : GoString) (report : RunReport) (committed : d'.committed = d.committed)
      (results : d'.results = d.results ++ [resultMessage timestamp report])
      (held : d.held.Perm (report.script :: d'.held))

/-- A step by which something held gets lost. -/
structure Drops (d d' : Deployment) : Prop where
  committed : d'.committed = d.committed
  results : d'.results = d.results
  held : d'.held.length < d.held.length

end Deployment

/-! ## What a step does -/

namespace Deployment

section Steps

variable {engine : Engine Docker} {maxScripts maxParallel : Int} {d d' : Deployment}

theorem scriptsOf_append (msgs more : List Message) :
    scriptsOf (msgs ++ more) = scriptsOf msgs ++ scriptsOf more := List.filterMap_append

theorem scriptsOf_singleton (msg : Message) :
    scriptsOf [msg] = (decodeScriptMessage msg).toOption.toList := by
  unfold scriptsOf
  rw [filterMap_cons_toList, List.filterMap_nil, List.append_nil]

/-- A step of the process that ends no publication is careful. -/
theorem Careful.quiet {p : Dispatch Broker} (alive : d.up = true)
    (step : Dispatch.Step broker engine maxScripts maxParallel d.process p)
    (same : ∀ (i : Nat) (script : Script) (report : RunReport),
      d.process.workers[i]? = some ⟨script, .reporting report⟩ →
        p.workers[i]? = some ⟨script, .reporting report⟩) :
    Careful engine maxScripts maxParallel d { d with process := p } where
  step := .turn alive step
  ends _ dead := by
    rw [alive] at dead
    cases dead
  publishes i script report before after := by
    rw [same i script report before] at after
    cases after

/-- A goroutine that does not publish moves. -/
theorem set_publishing {workers : List Worker} {i : Nat} {v w : Worker} (here : workers[i]? = some v)
    (other : ∀ report, v.pc ≠ .reporting report) (j : Nat) (script : Script) (report : RunReport)
    (before : workers[j]? = some ⟨script, .reporting report⟩) :
    (workers.set i w)[j]? = some ⟨script, .reporting report⟩ := by
  by_cases same : i = j
  · subst same
    rw [here] at before
    cases before
    exact (other report rfl).elim
  · rw [List.getElem?_set_ne same]
    exact before

/-- A step of the loop that keeps what it holds, and of the broker only the message in hand. -/
theorem Keeps.loop {p : Dispatch Broker} (workers : p.workers = d.process.workers)
    (topic : p.around.topic = d.process.around.topic)
    (offset : p.around.committed = d.process.around.committed)
    (results : p.around.results = d.process.around.results)
    (held : scriptsOf p.around.inHand.toList ++ p.loop.script.toList =
      scriptsOf d.process.around.inHand.toList ++ d.process.loop.script.toList) :
    Keeps d { d with process := p } := by
  refine .stay ?_ results ?_
  · unfold committed
    rw [topic, offset]
  · unfold Deployment.held
    rw [← List.append_assoc, ← List.append_assoc, held, workers]

/-- A step of a goroutine that keeps the script it has to publish. -/
theorem Keeps.worker {p : Dispatch Broker} {i : Nat} {v w : Worker}
    (here : d.process.workers[i]? = some v) (workers : p.workers = d.process.workers.set i w)
    (loop : p.loop = d.process.loop) (around : p.around = d.process.around)
    (same : w.unpublished = v.unpublished) : Keeps d { d with process := p } := by
  refine .stay ?_ ?_ ?_
  · unfold committed
    rw [around]
  · unfold results
    rw [around]
  · unfold Deployment.held
    rw [around, loop, workers]
    have kept := perm_filterMap_set (b := w) Worker.unpublished here same (List.Perm.refl _)
    exact (kept.symm.append_left _).append_left _

/-- **One step of the process.**  It is careful and loses nothing, or it is not and drops a
script. -/
theorem turn_cases (inv : Inv broker maxScripts maxParallel d.process) (alive : d.up = true)
    {p : Dispatch Broker} (step : Dispatch.Step broker engine maxScripts maxParallel d.process p) :
    Careful engine maxScripts maxParallel d { d with process := p } ∧
        Keeps d { d with process := p } ∨
      ¬ Careful engine maxScripts maxParallel d { d with process := p } ∧
        Drops d { d with process := p } := by
  have whole := step
  have calm := fun same => Careful.quiet alive step (p := p) same
  cases step with
  | limit here reached =>
      exact Or.inl ⟨calm fun _ _ _ => id, .loop rfl rfl rfl rfl (by rw [here]; rfl)⟩
  | fetch here below =>
      exact Or.inl ⟨calm fun _ _ _ => id, .loop rfl rfl rfl rfl (by rw [here]; rfl)⟩
  | @failed err b here answer =>
      refine Or.inl ⟨calm fun _ _ _ => id, ?_⟩
      rcases answer with ⟨msg, inHand, decoded, rfl⟩ | ⟨cause, free, -, rfl⟩
      · refine .loop rfl rfl rfl rfl ?_
        have none : scriptsOf d.process.around.inHand.toList = [] := by
          rw [inHand]
          refine (scriptsOf_singleton msg).trans ?_
          rw [show decodeScriptMessage msg = .error err from decoded.symm]
          rfl
        rw [none, here]
        rfl
      · exact .loop rfl rfl rfl rfl (by rw [here]; rfl)
  | @script script b here answer =>
      refine Or.inl ⟨calm fun _ _ _ => id, ?_⟩
      rcases answer with ⟨msg, inHand, decoded, rfl⟩ | ⟨cause, free, absurd, -⟩
      · refine .loop rfl rfl rfl rfl ?_
        have one : scriptsOf d.process.around.inHand.toList = [script] := by
          rw [inHand]
          refine (scriptsOf_singleton msg).trans ?_
          rw [show decodeScriptMessage msg = .ok script from decoded.symm]
          rfl
        rw [one, here]
        rfl
      · cases absurd
  | acquire here room =>
      exact Or.inl ⟨calm fun _ _ _ => id, .loop rfl rfl rfl rfl (by rw [here]; rfl)⟩
  | add here =>
      exact Or.inl ⟨calm fun _ _ _ => id, .loop rfl rfl rfl rfl (by rw [here]; rfl)⟩
  | count here =>
      exact Or.inl ⟨calm fun _ _ _ => id, .loop rfl rfl rfl rfl (by rw [here]; rfl)⟩
  | @spawn script here =>
      refine Or.inl ⟨calm fun i script report before => ?_, .stay rfl rfl ?_⟩
      · rw [List.getElem?_append_left (List.getElem?_eq_some_iff.mp before).1]
        exact before
      · unfold held
        rw [here, List.filterMap_append]
        refine List.Perm.append_left _ ?_
        exact @List.perm_append_comm _ (d.process.workers.filterMap Worker.unpublished) [script]
  | wait here zero =>
      exact Or.inl ⟨calm fun _ _ _ => id, .loop rfl rfl rfl rfl (by rw [here]; rfl)⟩
  | run here =>
      exact Or.inl ⟨calm (set_publishing here nofun), .worker here rfl rfl rfl rfl⟩
  | finish here returns silent => cases silent
  | announce here returns called =>
      exact Or.inl ⟨calm (set_publishing here nofun), .worker here rfl rfl rfl rfl⟩
  | @report i script report b here effect =>
      obtain ⟨f, present, effect⟩ := effect
      cases present
      obtain ⟨timestamp, e, err, run, writes⟩ := effect
      unfold publishRunReport at run
      obtain ⟨reply, rest, same, -⟩ := exec_call.mp run
      cases same
      have lose := perm_filterMap_set_lose (b := ⟨script, .releasing⟩) Worker.unpublished here rfl rfl
      have own : report.script = script := inv.own _ (List.mem_of_getElem? here) report rfl
      have moved : d.held.Perm (script :: (scriptsOf d.process.around.inHand.toList ++
          (d.process.loop.script.toList ++
            (d.process.workers.set i ⟨script, .releasing⟩).filterMap Worker.unpublished))) := by
        refine (lose.append_left _).append_left _ |>.trans ?_
        refine (List.perm_middle.append_left _).trans ?_
        exact List.perm_middle
      cases reply with
      | ok _ =>
          cases show b = _ from writes
          refine Or.inl ⟨⟨.turn alive whole, fun _ dead => ?_, fun _ _ _ _ _ same => ?_⟩, ?_⟩
          · rw [alive] at dead
            cases dead
          · have longer := congrArg List.length same
            simp only [results, List.length_append, List.length_singleton] at longer
            omega
          · refine .publish timestamp report rfl rfl ?_
            rw [own]
            exact moved
      | error cause =>
          cases show b = d.process.around from writes
          refine Or.inr ⟨fun careful => ?_, rfl, rfl, ?_⟩
          · refine careful.publishes i script report here ?_ rfl
            exact List.getElem?_set_self (List.getElem?_eq_some_iff.mp here).1
          · rw [moved.length_eq]
            exact Nat.lt_succ_self _
  | release here held =>
      exact Or.inl ⟨calm (set_publishing here nofun), .worker here rfl rfl rfl rfl⟩
  | done here =>
      exact Or.inl ⟨calm (set_publishing here nofun), .worker here rfl rfl rfl rfl⟩
  | elsewhere moves => cases moves

theorem held_initial (b : Broker) (up : Bool) (free : b.inHand = none) :
    held { process := initial b, up := up } = [] := by
  unfold held
  rw [show (initial b).around.inHand = none from free]
  rfl

/-- What holds of the process alone, and of the offset. -/
structure Sane (maxScripts maxParallel : Int) (d : Deployment) : Prop where
  process : Inv broker maxScripts maxParallel d.process
  offset : d.process.around.committed ≤ d.process.around.topic.length

/-- The steps of the process leave the topic and its offset alone. -/
theorem turn_topic {p p' : Dispatch Broker}
    (step : Dispatch.Step broker engine maxScripts maxParallel p p') :
    p'.around.topic = p.around.topic ∧ p'.around.committed = p.around.committed := by
  cases step with
  | failed here answer =>
      rcases answer with ⟨msg, inHand, decoded, rfl⟩ | ⟨cause, free, -, rfl⟩
      · exact ⟨rfl, rfl⟩
      · exact ⟨rfl, rfl⟩
  | script here answer =>
      rcases answer with ⟨msg, inHand, decoded, rfl⟩ | ⟨cause, free, -, rfl⟩
      · exact ⟨rfl, rfl⟩
      · exact ⟨rfl, rfl⟩
  | report here effect =>
      obtain ⟨f, present, effect⟩ := effect
      cases present
      obtain ⟨timestamp, ⟨call, reply⟩, err, run, writes⟩ := effect
      cases reply with
      | ok _ =>
          rw [show _ = _ from writes]
          exact ⟨rfl, rfl⟩
      | error cause =>
          rw [show _ = _ from writes]
          exact ⟨rfl, rfl⟩
  | elsewhere moves => cases moves
  | _ => exact ⟨rfl, rfl⟩

theorem Sane.step (sane : Sane maxScripts maxParallel d)
    (step : Step engine maxScripts maxParallel d d') : Sane maxScripts maxParallel d' := by
  have inv := sane.process
  have around : ∀ b : Broker, Inv broker maxScripts maxParallel { d.process with around := b } :=
    fun b => inv.turn rfl rfl rfl rfl inv.room rfl rfl inv.fetched inv.below inv.limit inv.returned
  cases step with
  | submit msg =>
      exact ⟨around _, Nat.le_trans sane.offset (List.sublist_append_left _ [msg]).length_le⟩
  | commit alive reading free next =>
      exact ⟨around _, (List.getElem?_eq_some_iff.mp next).1⟩
  | turn alive step =>
      obtain ⟨topic, offset⟩ := turn_topic step
      refine ⟨inv.step step, ?_⟩
      simp only [topic, offset]
      exact sane.offset
  | crash alive => exact ⟨inv_initial _, sane.offset⟩
  | restart dead => exact ⟨inv, sane.offset⟩

/-- **One step**: it is careful and loses nothing, or it is not and something is lost. -/
theorem step_cases (sane : Sane maxScripts maxParallel d)
    (step : Step engine maxScripts maxParallel d d') :
    Careful engine maxScripts maxParallel d d' ∧ Keeps d d' ∨
      ¬ Careful engine maxScripts maxParallel d d' ∧ Drops d d' := by
  have whole := step
  cases step with
  | submit msg =>
      refine Or.inl ⟨⟨whole, fun up dead => ?_, fun i script report before after => ?_⟩, ?_⟩
      · rw [show d.up = false from dead] at up
        cases up
      · rw [show d.process.workers[i]? = _ from after] at before
        cases before
      · refine .stay ?_ rfl (List.Perm.refl _)
        exact congrArg scriptsOf (List.take_append_of_le_length sane.offset)
  | @commit msg alive reading free next =>
      refine Or.inl ⟨⟨whole, fun _ dead => ?_, fun i script report before after => ?_⟩, ?_⟩
      · rw [show d.up = false from dead] at alive
        cases alive
      · rw [show d.process.workers[i]? = _ from after] at before
        cases before
      · have grows : (d.withBroker (d.process.around.commit msg)).committed =
            d.committed ++ (decodeScriptMessage msg).toOption.toList := by
          unfold committed withBroker Broker.commit
          rw [List.take_add_one, next, scriptsOf_append, Option.toList_some, scriptsOf_singleton]
        have holds : (d.withBroker (d.process.around.commit msg)).held =
            (decodeScriptMessage msg).toOption.toList ++ d.held := by
          unfold held withBroker Broker.commit
          rw [free, Option.toList_some, scriptsOf_singleton]
          rfl
        cases decoded : decodeScriptMessage msg with
        | ok script =>
            rw [decoded] at grows holds
            refine .commit script grows rfl ?_
            rw [holds]
            exact List.Perm.refl _
        | error err =>
            rw [decoded] at grows holds
            refine .stay (grows.trans (List.append_nil _)) rfl ?_
            rw [holds]
            exact List.Perm.refl _
  | turn alive step => exact turn_cases sane.process alive step
  | crash alive =>
      have empty : held { process := initial { d.process.around with inHand := none }, up := false } =
          [] := held_initial _ _ rfl
      by_cases idle : d.held = []
      · refine Or.inl ⟨⟨whole, fun _ _ => idle, fun i script report before after => ?_⟩, ?_⟩
        · cases after
        · refine .stay rfl rfl ?_
          rw [empty, idle]
      · refine Or.inr ⟨fun careful => idle (careful.ends alive rfl), rfl, rfl, ?_⟩
        rw [empty]
        exact List.length_pos_iff.mpr idle
  | restart dead =>
      refine Or.inl ⟨⟨whole, fun alive => ?_, fun i script report before after => ?_⟩, ?_⟩
      · rw [dead] at alive
        cases alive
      · rw [show d.process.workers[i]? = _ from after] at before
        cases before
      · exact .stay rfl rfl (List.Perm.refl _)

/-! ## Runs -/

theorem sane_start (topic : List Message) : Sane maxScripts maxParallel (start topic) :=
  ⟨inv_initial _, Nat.zero_le _⟩

theorem balanced_start (topic : List Message) : Balanced (start topic) := ⟨[], rfl, List.Perm.refl _⟩

/-- A step that loses nothing keeps the balance. -/
theorem Balanced.keeps (balanced : Balanced d) (keeps : Keeps d d') : Balanced d' := by
  obtain ⟨stamped, messages, scripts⟩ := balanced
  cases keeps with
  | stay committed results held =>
      refine ⟨stamped, results.trans messages, ?_⟩
      rw [committed]
      exact scripts.trans (held.symm.append_left _)
  | commit script committed results held =>
      refine ⟨stamped, results.trans messages, ?_⟩
      rw [committed]
      refine (scripts.append_right _).trans ((List.perm_append_singleton _ _).trans ?_)
      exact List.perm_middle.symm.trans (held.symm.append_left _)
  | publish timestamp report committed results held =>
      refine ⟨stamped ++ [(timestamp, report)], ?_, ?_⟩
      · rw [results, messages, List.map_append]
        rfl
      · rw [committed, List.map_append, List.append_assoc]
        exact scripts.trans (held.append_left _)

theorem Balanced.kept (balanced : Balanced d) : Kept d := by
  obtain ⟨stamped, messages, scripts⟩ := balanced
  exact ⟨stamped, messages, scripts.subperm⟩

/-- More scripts are committed than published and held. -/
def Short (d : Deployment) : Prop := d.results.length + d.held.length < d.committed.length

theorem Short.not_kept (short : Short d) : ¬ Kept d := by
  rintro ⟨stamped, messages, scripts⟩
  have length := scripts.length_le
  unfold Short at short
  rw [List.length_append, List.length_map] at length
  rw [messages, List.length_map] at short
  omega

/-- What is lost stays lost. -/
theorem Short.step (sane : Sane maxScripts maxParallel d) (short : Short d)
    (step : Step engine maxScripts maxParallel d d') : Short d' := by
  unfold Short at *
  rcases step_cases sane step with ⟨-, keeps⟩ | ⟨-, drops⟩
  · cases keeps with
    | stay committed results held =>
        rw [committed, results, held.length_eq]
        exact short
    | commit script committed results held =>
        rw [committed, results, held.length_eq, List.length_append, List.length_cons,
          List.length_singleton]
        omega
    | publish timestamp report committed results held =>
        have length := held.length_eq
        rw [committed, results, List.length_append, List.length_singleton]
        rw [List.length_cons] at length
        omega
  · have less := drops.held
    rw [drops.committed, drops.results]
    omega

/-- A step that drops something leaves the deployment short. -/
theorem Balanced.drops (balanced : Balanced d) (drops : Drops d d') : Short d' := by
  obtain ⟨stamped, messages, scripts⟩ := balanced
  have length := scripts.length_eq
  have less := drops.held
  unfold Short
  rw [drops.committed, drops.results, messages, List.length_map]
  rw [List.length_append, List.length_map] at length
  omega

end Steps

/-- **No submission is lost**, as long as the process ends only when it holds none and every report
is published: then each committed submission has a published report or is held, at every moment.
After any other step one is lost, and stays lost. -/
theorem committed_kept (engine : Engine Docker) (maxScripts maxParallel : Int) (topic : List Message) :
    (∀ d, Reaches (Careful engine maxScripts maxParallel) (start topic) d → Kept d) ∧
    ∀ d d', Reaches (Careful engine maxScripts maxParallel) (start topic) d →
      Step engine maxScripts maxParallel d d' → ¬ Careful engine maxScripts maxParallel d d' →
        ∀ d'', Reaches (Step engine maxScripts maxParallel) d' d'' → ¬ Kept d'' := by
  have invariant : ∀ d, Reaches (Careful engine maxScripts maxParallel) (start topic) d →
      Sane maxScripts maxParallel d ∧ Balanced d := by
    intro d run
    refine run.invariant (P := fun d => Sane maxScripts maxParallel d ∧ Balanced d)
      (fun d d' before careful => ?_) ⟨sane_start topic, balanced_start topic⟩
    refine ⟨before.1.step careful.step, ?_⟩
    rcases step_cases before.1 careful.step with ⟨-, keeps⟩ | ⟨absurd, -⟩
    · exact before.2.keeps keeps
    · exact (absurd careful).elim
  refine ⟨fun d run => (invariant d run).2.kept, fun d d' run step careless d'' later => ?_⟩
  obtain ⟨sane, balanced⟩ := invariant d run
  have short : Short d' := by
    rcases step_cases sane step with ⟨careful, -⟩ | ⟨-, drops⟩
    · exact (careless careful).elim
    · exact balanced.drops drops
  have both := later.invariant (P := fun d => Sane maxScripts maxParallel d ∧ Short d)
    (fun _ _ before step => ⟨before.1.step step, before.2.step before.1 step⟩)
    ⟨sane.step step, short⟩
  exact both.2.not_kept

/-! ## A crash while a script runs -/

/-- The runner when the script of `submission` is running. -/
def busy : Deployment where
  process := {
    around := { topic := [submission], committed := 1 }
    tokens := 1
    waitGroup := 1
    processed := 1
    workers := [⟨submitted, .running⟩]
    answers := [.ok submitted]
    ran := [submitted] }

/-- The runner after a crash at that point. -/
def crashed : Deployment where
  process := initial { topic := [submission], committed := 1 }
  up := false

theorem busy_reached : Reaches (Step pythonEngine 0 1) (start [submission]) busy :=
  .head (.turn rfl (.fetch rfl (by decide))) <|
  .head (.commit rfl rfl rfl rfl) <|
  .head (.turn rfl (.script (e := { topic := [submission], committed := 1 }) rfl
    (Or.inl ⟨submission, rfl, by decide, rfl⟩))) <|
  .head (.turn rfl (.acquire rfl (by decide))) <| .head (.turn rfl (.add rfl)) <|
  .head (.turn rfl (.count rfl)) <| .head (.turn rfl (.spawn rfl)) <|
  .head (.turn rfl (.run (i := 0) rfl)) .refl

/-- The runner crashes while a script runs, which is committed and will not be delivered again. -/
theorem crashed_lost :
    ¬ ∀ d, Reaches (Step pythonEngine 0 1) (start [submission]) d → Kept d := by
  intro kept
  have lost : Short crashed := by
    unfold Short
    decide
  exact lost.not_kept (kept crashed (busy_reached.tail (.crash rfl)))

end Deployment

end Scrc
