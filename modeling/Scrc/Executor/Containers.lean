import Scrc.Executor.Workers

/-!
# Containers of a call

The containers that there are while `ExecuteFromProducer` runs, however its goroutines interleave
and whatever the daemon replies.

* `Ledger`: the containers that were created and not asked to be removed.
* `Workers.Holding`: every suite keeps the contract of `Scrc.Docker.Lifecycle` from its phase, a
  goroutine outside of `suites.Run` has no container, and the ledger lists what the phases have.
* `containers_bounded`: there are no more containers than parallel runs allowed, no two suites have
  business with one container, and none is left at the return.
-/

namespace Scrc

open Interaction Transition

/-- The containers that were created and not asked to be removed, and all ids that were given. -/
structure Ledger where
  live : List GoString := []
  used : List GoString := []

/-- Any reply is possible, but that an id is given twice. -/
def Ledger.answers (l : Ledger) (c : DockerCall) (r : DockerReply c) (l' : Ledger) : Prop :=
  (∀ id, createdId ⟨c, r⟩ = some id → id ∉ l.used) ∧
    l' = ⟨l.live.diff (removedId ⟨c, r⟩).toList ++ (createdId ⟨c, r⟩).toList,
      l.used ++ (createdId ⟨c, r⟩).toList⟩

/-- A call can always be answered, though it be with an error. -/
theorem Ledger.answering : Workers.Answering (I := Docker) Ledger.answers := by
  intro l c
  have reply : ∀ r, createdId ⟨c, r⟩ = none → ∃ r l', Ledger.answers l c r l' := by
    intro r uncreated
    refine ⟨r, _, fun id created => ?_, rfl⟩
    rw [uncreated] at created
    cases created
  cases c with
  | ctxErr => exact reply none rfl
  | withTimeout => exact reply () rfl
  | now => exact reply 0 rfl
  | since => exact reply 0 rfl
  | pullOnceDo => exact reply false rfl
  | pullOnceDone => exact reply () rfl
  | setPullErr => exact reply () rfl
  | pullErr => exact reply none rfl
  | imagePull => exact reply (.refused .eof) rfl
  | closeWrite => exact reply () rfl
  | closeAttach => exact reply () rfl
  | containerWait => exact reply (.ctxDone .canceled) rfl
  | containerLogs => exact reply (.refused .eof) rfl
  | _ => exact reply (.error .eof) rfl

/-! ## Lists with an entry for each goroutine -/

section Entries

variable {α β γ : Type} {as : List α} {bs : List β} {a b : α} {i j : Nat}

theorem getElem?_snoc (here : (as ++ [b])[i]? = some a) :
    as[i]? = some a ∨ i = as.length ∧ a = b := by
  rcases Nat.lt_trichotomy i as.length with less | rfl | more
  · rw [List.getElem?_append_left less] at here
    exact Or.inl here
  · rw [List.getElem?_concat_length] at here
    exact Or.inr ⟨rfl, (Option.some.inj here).symm⟩
  · rw [List.getElem?_eq_none (by rw [List.length_append, List.length_singleton]; omega)] at here
    cases here

theorem getElem?_of_set (there : (as.set i b)[j]? = some a) :
    (j = i ∧ a = b) ∨ (j ≠ i ∧ as[j]? = some a) := by
  by_cases same : j = i
  · subst same
    have inside := (List.getElem?_eq_some_iff.mp there).1
    rw [List.length_set] at inside
    rw [List.getElem?_set_self inside] at there
    exact Or.inl ⟨rfl, (Option.some.inj there).symm⟩
  · rw [List.getElem?_set_ne (Ne.symm same)] at there
    exact Or.inr ⟨same, there⟩

/-- Where entries with something to show have a `p` beside them, there are as many of these. -/
theorem length_filterMap_le_countP {f : β → Option γ} {p : α → Bool} (length : bs.length = as.length)
    (beside : ∀ (i : Nat) a b, as[i]? = some a → bs[i]? = some b → f b ≠ none → p a = true) :
    (bs.filterMap f).length ≤ as.countP p := by
  induction bs generalizing as with
  | nil => exact Nat.zero_le _
  | cons b bs ih =>
      cases as with
      | nil => cases length
      | cons a as =>
          have rest := ih (Nat.succ.inj length) fun i => beside (i + 1)
          have first := beside 0 a b rfl rfl
          rw [filterMap_cons_toList, List.length_append, List.countP_cons]
          cases shown : f b with
          | none =>
              rw [Option.toList_none, List.length_nil]
              omega
          | some x =>
              rw [if_pos (first (shown ▸ nofun)), Option.toList_some, List.length_singleton]
              omega

/-- An entry that shows what no other does is found at one place only. -/
theorem index_unique {f : α → Option β} (distinct : (as.filterMap f).Nodup) {x : β}
    (here : as[i]? = some a) (there : as[j]? = some b) (shown : f a = some x)
    (shown' : f b = some x) : j = i := by
  by_contra different
  rw [((perm_of_getElem? here).filterMap f).nodup_iff, filterMap_cons_toList, shown] at distinct
  refine (List.nodup_cons.mp distinct).1 (List.mem_filterMap.mpr ⟨b, ?_, shown'⟩)
  exact List.mem_eraseIdx_iff_getElem?.mpr ⟨j, different, there⟩

end Entries

/-! ## The phase after a call -/

section Own

variable {s : Phase} {c : DockerCall} {r : DockerReply c} {id : GoString}

/-- Without a creation and a removal a suite runner keeps its container. -/
theorem own_kept (uncreated : createdId ⟨c, r⟩ = none) (unremoved : removedId ⟨c, r⟩ = none) :
    (lifecycleNext s c r).own = s.own := by
  unfold lifecycleNext
  split
  · cases uncreated
  · cases unremoved
  · exact Phase.own_update _ fun _ => rfl
  · exact Phase.own_update _ fun _ => rfl
  · exact Phase.own_update _ fun _ => rfl
  · refine Phase.own_update _ fun c => ?_
    unfold Container.afterWait
    split <;> rfl
  · refine Phase.own_update _ fun c => ?_
    unfold Container.afterCtxErr
    split <;> rfl
  · exact Phase.own_update _ fun _ => rfl
  · rfl

/-- A suite runner removes its own container, and has none then. -/
theorem own_of_removed (owed : lifecycleObliges s c) (removed : removedId ⟨c, r⟩ = some id) :
    s.own = some id ∧ (lifecycleNext s c r).own = none ∧ createdId ⟨c, r⟩ = none := by
  unfold removedId at removed
  split at removed
  · rename_i same
    cases same
    cases removed
    exact ⟨owed.2.2.own, rfl, rfl⟩
  · cases removed

end Own

/-! ## The invariant -/

namespace Workers

variable {cfg : DockerConfig} {engine : Engine Docker} {ε : Type} {S : Surroundings ε}
  {maxScripts maxParallel : Int} {e : ε} {w w' : Workers Docker ε Ledger} {phases : List Phase}

/-- Where the suites are in their contracts, one phase for each goroutine. -/
structure Holding (w : Workers Docker ε Ledger) (phases : List Phase) : Prop where
  suites : phases.length = w.suites.length
  workers : phases.length = w.dispatch.workers.length
  keeps : ∀ (i : Nat) suite s, w.suites[i]? = some suite → phases[i]? = some s →
    Keeps s suite.2 fun _ s' => s' = .absent
  outside : ∀ (i : Nat) worker s, w.dispatch.workers[i]? = some worker → phases[i]? = some s →
    worker.pc ≠ .running → s = .absent
  live : w.runtime.live.Perm (phases.filterMap Phase.own)
  distinct : w.runtime.live.Nodup
  given : ∀ id ∈ w.runtime.live, id ∈ w.runtime.used

namespace Holding

theorem phase (holding : Holding w phases) {i : Nat} {suite : Script × Proc Docker RunReport}
    (here : w.suites[i]? = some suite) : ∃ s, phases[i]? = some s := by
  have inside := (List.getElem?_eq_some_iff.mp here).1
  rw [← holding.suites] at inside
  exact ⟨_, List.getElem?_eq_getElem inside⟩

/-- A step in which the goroutines inside of their suites stay there. -/
theorem service (holding : Holding w phases) {d : Dispatch ε}
    (nobody : d.workers.length = w.dispatch.workers.length)
    (inside : ∀ (i : Nat) (script : Script), w.dispatch.workers[i]? = some ⟨script, .running⟩ →
      d.workers[i]? = some ⟨script, .running⟩) : Holding { w with dispatch := d } phases where
  suites := holding.suites
  workers := holding.workers.trans nobody.symm
  keeps := holding.keeps
  outside := by
    intro i worker s there place out
    have index := (List.getElem?_eq_some_iff.mp there).1
    rw [nobody] at index
    refine holding.outside i _ s (List.getElem?_eq_getElem index) place fun running => out ?_
    have stays := inside i (w.dispatch.workers[i]).script (by
      rw [List.getElem?_eq_getElem index, ← running])
    rw [there] at stays
    exact congrArg Worker.pc (Option.some.inj stays)
  live := holding.live
  distinct := holding.distinct
  given := holding.given

theorem spawn (prepares : ∀ script, Prepares (engine.prepare script)) (holding : Holding w phases)
    (script : Script) (loop : LoopPc) :
    Holding
      { w with
        dispatch :=
          { w.dispatch with loop := loop, workers := w.dispatch.workers ++ [⟨script, .spawned⟩] }
        suites := w.suites ++ [(script, SuiteRunner.run engine script)] }
      (phases ++ [.absent]) where
  suites := by
    rw [List.length_append, List.length_append, holding.suites]
    rfl
  workers := by
    rw [List.length_append, List.length_append, holding.workers]
    rfl
  keeps := by
    intro i suite s there place
    rcases getElem?_snoc place with before | ⟨rfl, rfl⟩
    · rcases getElem?_snoc there with old | ⟨rfl, rfl⟩
      · exact holding.keeps i suite s old before
      · rw [← holding.suites, List.getElem?_eq_none (Nat.le_refl _)] at before
        cases before
    · rcases getElem?_snoc there with old | ⟨-, rfl⟩
      · rw [holding.suites, List.getElem?_eq_none (Nat.le_refl _)] at old
        cases old
      · exact (keeps_suiteRunner (prepares script)).mono fun _ _ post => post.1
  outside := by
    intro i worker s there place out
    rcases getElem?_snoc place with before | ⟨rfl, rfl⟩
    · rcases getElem?_snoc there with old | ⟨rfl, rfl⟩
      · exact holding.outside i worker s old before out
      · rw [← holding.workers, List.getElem?_eq_none (Nat.le_refl _)] at before
        cases before
    · rfl
  live := by
    rw [List.filterMap_append]
    exact holding.live.trans (List.Perm.of_eq (List.append_nil _).symm)
  distinct := holding.distinct
  given := holding.given

/-- What a call does to the ledger, and to the phase of the suite that makes it. -/
theorem ledger (holding : Holding w phases) {i : Nat} {s : Phase} {c : DockerCall}
    {r : DockerReply c} {l : Ledger} (place : phases[i]? = some s) (owed : lifecycleObliges s c)
    (answered : Ledger.answers w.runtime c r l) :
    l.live.Perm ((phases.set i (lifecycleNext s c r)).filterMap Phase.own) ∧ l.live.Nodup ∧
      ∀ id ∈ l.live, id ∈ l.used := by
  obtain ⟨fresh, rfl⟩ := answered
  cases created : createdId ⟨c, r⟩ with
  | some id =>
      have unremoved : removedId ⟨c, r⟩ = none := by
        cases removed : removedId ⟨c, r⟩ with
        | none => rfl
        | some id' =>
            have uncreated := (own_of_removed owed removed).2.2
            rw [created] at uncreated
            cases uncreated
      obtain ⟨absent, own⟩ := own_of_created owed created
      simp only [unremoved, Option.toList_none, List.diff_nil, Option.toList_some]
      refine ⟨perm_filterMap_set_gain Phase.own place absent own holding.live, ?_, ?_⟩
      · refine List.nodup_append.mpr ⟨holding.distinct, List.nodup_singleton id, ?_⟩
        rintro a member _ single rfl
        rw [List.mem_singleton.mp single] at member
        exact fresh id created (holding.given id member)
      · intro a member
        rcases List.mem_append.mp member with old | new
        · exact List.mem_append_left _ (holding.given a old)
        · exact List.mem_append_right _ new
  | none =>
      simp only [Option.toList_none, List.append_nil]
      cases removed : removedId ⟨c, r⟩ with
      | none =>
          rw [Option.toList_none, List.diff_nil]
          exact ⟨perm_filterMap_set Phase.own place (own_kept created removed) holding.live,
            holding.distinct, holding.given⟩
      | some id =>
          obtain ⟨own, gone, -⟩ := own_of_removed owed removed
          have lost := perm_filterMap_set_lose Phase.own place own gone
          rw [Option.toList_some, List.diff_cons, List.diff_nil]
          refine ⟨?_, holding.distinct.erase id, fun a member =>
            holding.given a (List.mem_of_mem_erase member)⟩
          have rest := (holding.live.trans lost).erase id
          rwa [List.erase_cons_head] at rest

theorem call (holding : Holding w phases) {i : Nat} {script : Script} {c : DockerCall}
    {k : DockerReply c → Proc Docker RunReport} {r : DockerReply c} {l : Ledger}
    (running : w.dispatch.workers[i]? = some ⟨script, .running⟩)
    (here : w.suites[i]? = some (script, .call c k)) (answered : Ledger.answers w.runtime c r l) :
    ∃ phases', Holding { w with suites := w.suites.set i (script, k r), runtime := l } phases' := by
  obtain ⟨s, place⟩ := holding.phase here
  have meets := holding.keeps i _ s here place
  obtain ⟨live, distinct, given⟩ := holding.ledger place meets.1 answered
  refine ⟨phases.set i (lifecycleNext s c r), ?_, ?_, ?_, ?_, live, distinct, given⟩
  · rw [List.length_set, List.length_set]
    exact holding.suites
  · rw [List.length_set]
    exact holding.workers
  · intro j suite s' there place'
    rcases getElem?_of_set place' with ⟨rfl, rfl⟩ | ⟨other, old'⟩
    · rcases getElem?_of_set there with ⟨-, rfl⟩ | ⟨absurd, -⟩
      · exact meets.2 r trivial
      · exact (absurd rfl).elim
    · rcases getElem?_of_set there with ⟨absurd, -⟩ | ⟨-, old⟩
      · exact (other absurd).elim
      · exact holding.keeps j suite s' old old'
  · intro j worker s' there place' out
    rcases getElem?_of_set place' with ⟨rfl, rfl⟩ | ⟨-, old'⟩
    · have there : w.dispatch.workers[j]? = some worker := there
      rw [running] at there
      cases there
      exact absurd rfl out
    · exact holding.outside j worker s' there old' out

/-- A suite that has returned has no container, so its goroutine may go on. -/
theorem leave (holding : Holding w phases) {i : Nat} {script : Script} {report : RunReport}
    (here : w.suites[i]? = some (script, .ret report)) (worker : Worker)
    (reported : List RunReport) :
    Holding
      { w with
        dispatch :=
          { w.dispatch with workers := w.dispatch.workers.set i worker, reported := reported } }
      phases where
  suites := holding.suites
  workers := by
    rw [List.length_set]
    exact holding.workers
  keeps := holding.keeps
  outside := by
    intro j worker' s there place out
    rcases getElem?_of_set there with ⟨rfl, rfl⟩ | ⟨-, old⟩
    · exact holding.keeps j _ s here place
    · exact holding.outside j worker' s old place out
  live := holding.live
  distinct := holding.distinct
  given := holding.given

theorem step (prepares : ∀ script, Prepares (engine.prepare script)) (holding : Holding w phases)
    (step : Step S engine maxScripts maxParallel Ledger.answers w w') :
    ∃ phases', Holding w' phases' := by
  cases step with
  | service step nobody inside => exact ⟨phases, holding.service nobody inside⟩
  | spawn here => exact ⟨_, holding.spawn prepares _ _⟩
  | call running here answered => exact holding.call running here answered
  | finish running here silent => exact ⟨phases, holding.leave here _ _⟩
  | announce running here called => exact ⟨phases, holding.leave here _ _⟩

theorem of_reaches (prepares : ∀ script, Prepares (engine.prepare script))
    (run : Reaches (Step S engine maxScripts maxParallel Ledger.answers) (initial e {}) w) :
    ∃ phases, Holding w phases := by
  refine run.invariant (P := fun w => ∃ phases, Holding w phases) ?_ ?_
  · rintro w w' ⟨phases, holding⟩ step
    exact holding.step prepares step
  · exact ⟨[], rfl, rfl, nofun, nofun, .nil, .nil, nofun⟩

/-- Only a goroutine inside of its suite has a container, and it has one at a time. -/
theorem live_le (holding : Holding w phases) :
    w.runtime.live.length ≤ w.dispatch.workers.countP Worker.busy := by
  rw [holding.live.length_eq]
  refine length_filterMap_le_countP holding.workers fun i worker s there place shown => ?_
  by_cases running : worker.pc = .running
  · unfold Worker.busy
    rw [running]
  · rw [holding.outside i worker s there place running] at shown
    exact absurd rfl shown

/-- A pending call is about the container that the phase of its suite has. -/
theorem pending (holding : Holding w phases) {i : Nat} {script : Script} {c : DockerCall}
    {k : DockerReply c → Proc Docker RunReport} {id : GoString}
    (here : w.suites[i]? = some (script, .call c k)) (about : c.container = some id) :
    ∃ s, phases[i]? = some s ∧ s.own = some id := by
  obtain ⟨s, place⟩ := holding.phase here
  exact ⟨s, place, own_of_obliges (holding.keeps i _ s here place).1 about⟩

end Holding

end Workers

/-- **Containers of a call.**  In every state that a call of `ExecuteFromProducer` reaches, however
its goroutines interleave and whatever the daemon replies, the containers that were created and not
asked to be removed are at most as many as the goroutines in a suite or its callback, and so as the
parallel runs allowed; the next call of a suite that is about a container is about one of these, and
no other suite has its next call about the same; and at the return none of them is left. -/
theorem containers_bounded {cfg : DockerConfig} {engine : Engine Docker} {ε : Type}
    {S : Surroundings ε} {maxScripts maxParallel : Int} {e : ε} {w : Workers Docker ε Ledger}
    (built : newEngineWithClient cfg = .ok engine)
    (run : Reaches (Workers.Step S engine maxScripts maxParallel Ledger.answers)
      (Workers.initial e {}) w) :
    w.runtime.live.length ≤ w.dispatch.workers.countP Worker.busy ∧
    (w.runtime.live.length : Int) ≤ max 1 maxParallel ∧
    (∀ (i : Nat) script c k id, w.suites[i]? = some (script, .call c k) → c.container = some id →
      id ∈ w.runtime.live ∧
        ∀ (j : Nat) script' c' k', w.suites[j]? = some (script', .call c' k') →
          c'.container = some id → j = i) ∧
    ∀ err, w.dispatch.loop = .returned err → w.runtime.live = [] := by
  obtain ⟨phases, holding⟩ := Workers.Holding.of_reaches (newEngineWithClient_prepares built) run
  have reachable := Workers.refines run
  have inv := Dispatch.reachable_inv reachable
  have most := holding.live_le
  refine ⟨most, ?_, ?_, fun err returned => ?_⟩
  · have busy : w.dispatch.workers.countP Worker.busy ≤ w.dispatch.workers.countP Worker.holding :=
      List.countP_mono_left fun worker _ =>
        Dispatch.Worker.holding_of_busy worker
    have tokens := inv.tokens
    have room := inv.room
    rw [Dispatch.capacity_eq] at room
    unfold Dispatch.inFlight at tokens
    omega
  · intro i script c k id here about
    obtain ⟨s, place, own⟩ := holding.pending here about
    refine ⟨?_, fun j script' c' k' there about' => ?_⟩
    · exact holding.live.mem_iff.mpr (List.mem_filterMap.mpr ⟨s, List.mem_of_getElem? place, own⟩)
    · obtain ⟨s', place', own'⟩ := holding.pending there about'
      have distinct := holding.live.nodup_iff.mp holding.distinct
      exact index_unique distinct place place' own own'
  · have idle : w.dispatch.workers.countP Worker.busy = 0 := by
      refine List.countP_eq_zero.mpr fun worker member => ?_
      unfold Worker.busy
      rw [inv.all_ended returned worker member]
      exact nofun
    rw [idle] at most
    exact List.length_eq_zero_iff.mp (Nat.le_zero.mp most)

theorem containers_bounded_twoMessages :
    ∃ (w : Workers Docker (List Message) Ledger) (err : Option GoError),
      w.dispatch.loop = .returned err ∧ w.runtime.live = [] := by
  have start : Reaches (Workers.Step stream pythonEngine 0 2 Ledger.answers)
      (Workers.initial twoMessages {}) (Workers.initial twoMessages {}) := .refl
  obtain ⟨w, err, run, returned⟩ := Workers.returns stream_finite (stream_responsive pythonEngine)
    Ledger.answering start
  exact ⟨w, err, returned, (containers_bounded pythonEngine_built run).2.2.2 err returned⟩

end Scrc
