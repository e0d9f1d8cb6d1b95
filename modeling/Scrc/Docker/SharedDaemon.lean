import Mathlib.Data.Fintype.EquivFin
import Scrc.Docker.Judgement
import Scrc.Docker.Sessions
import Scrc.Lib.Pool

/-!
# Suites that share a daemon

Any number of suite runners on the daemon of `Scrc.Docker.Isolation`, whose calls interleave in any
order.  The daemon gives every container an id of its own; the contract of `Scrc.Docker.Lifecycle`
lets a suite runner name no container but the one it has, so what the others do leaves its container
alone.

* `SharedDaemon.answers`: the replies of the daemon, and the containers after them.
* `Owned`: the invariant, no container is that of two suite runners, and each sees its own.
* `suites_judged`: every suite runner that has returned reports the judgement, as it would alone.
-/

namespace Scrc

open Interaction Transition

/-! ## The daemon -/

/-- The containers of the daemon, and the ids it has given. -/
structure SharedDaemon where
  records : Records := fun _ => default
  used : List GoString := []

/-- What is replied to a call, and the daemon after it; no id is given twice. -/
def SharedDaemon.answers (B : Behaviour) (artifact : Workload → GoString → List TarEntry)
    (d : SharedDaemon) (c : DockerCall) (r : DockerReply c) (d' : SharedDaemon) : Prop :=
  B.allows (leavesArtifact artifact) d.records c r ∧
    (∀ id, createdId ⟨c, r⟩ = some id → id ∉ d.used) ∧
    d' = ⟨d.records.next c r, d.used ++ (createdId ⟨c, r⟩).toList⟩

/-- Where every program ends, every call is answered: there is a reply that the behaviour allows,
whatever else is going on at the daemon. -/
theorem SharedDaemon.answering {B : Behaviour} (exits : ∀ w, B.timeToExit w ≠ none)
    (artifact : Workload → GoString → List TarEntry) (d : SharedDaemon) (c : DockerCall) :
    ∃ r d', SharedDaemon.answers B artifact d c r d' := by
  have reply : ∀ r, B.allows (leavesArtifact artifact) d.records c r → createdId ⟨c, r⟩ = none →
      ∃ r d', SharedDaemon.answers B artifact d c r d' := by
    intro r allows uncreated
    refine ⟨r, _, allows, fun id created => ?_, rfl⟩
    rw [uncreated] at created
    cases created
  cases c with
  | containerCreate ctx config host =>
      obtain ⟨id, fresh⟩ := Infinite.exists_notMem_finset d.used.toFinset
      refine ⟨.ok id, _, ⟨id, rfl⟩, fun id' created => ?_, rfl⟩
      cases created
      exact fun used => fresh (List.mem_toFinset.mpr used)
  | containerWait ctx id => exact reply _ (B.awaits_awaited exits _ ctx) rfl
  | containerInspect ctx id => exact reply (.ok (some _)) ⟨_, rfl, Option.some_inj⟩ rfl
  | copyFromContainer ctx id path => exact reply (.ok _) ⟨_, rfl, rfl⟩ rfl
  | ctxErr => exact reply none rfl rfl
  | pullErr => exact reply none rfl rfl
  | imagePull => exact reply (.value ()) rfl rfl
  | containerRemove => exact reply (.ok ()) rfl rfl
  | copyToContainer => exact reply (.ok ()) rfl rfl
  | containerAttach => exact reply (.ok ()) rfl rfl
  | writeStdin => exact reply (.ok ()) rfl rfl
  | containerStart => exact reply (.ok ()) rfl rfl
  | containerLogs => exact reply (.value _) rfl rfl
  | containerStop => exact reply (.ok ()) rfl rfl
  | now => exact reply (0 : Int64) trivial rfl
  | since => exact reply (0 : Int64) trivial rfl
  | pullOnceDo => exact reply true trivial rfl
  | _ => exact reply () trivial rfl

/-- Suite runners for any scripts, started at any time. -/
def suiteSystem (engine : Engine Docker) (B : Behaviour)
    (artifact : Workload → GoString → List TarEntry) :
    System Docker Script RunReport SharedDaemon where
  starts _ script p := p = SuiteRunner.run engine script
  answers _ := SharedDaemon.answers B artifact

/-- The daemon and its suite runners. -/
abbrev SuitePool := Pool Docker Script RunReport SharedDaemon

/-! ## What a call reads and changes -/

section Frame

variable {B : Behaviour} {artifact : Workload → GoString → List TarEntry} {s s' : Records}
  {c : DockerCall} {r : DockerReply c} {id : GoString}

/-- A reply depends on the container that the call names, and on no other. -/
theorem allows_of_agree (agree : ∀ id, c.container = some id → s id = s' id)
    (allows : B.allows (leavesArtifact artifact) s c r) :
    B.allows (leavesArtifact artifact) s' c r := by
  cases c with
  | containerWait ctx id =>
      have allows : B.Awaits (s id) ctx r := allows
      rw [agree id rfl] at allows
      exact allows
  | containerInspect ctx id =>
      have allows : ∃ killed, r = .ok killed ∧
        (killed = some true ↔ B.oomKilled (s id).work = true) := allows
      rw [agree id rfl] at allows
      exact allows
  | containerLogs ctx id =>
      have allows : r = .value (B.output (s id)) := allows
      rw [agree id rfl] at allows
      exact allows
  | copyFromContainer ctx id path =>
      have allows : ∃ entries, r = .ok entries ∧ leavesArtifact artifact (s id).work path entries :=
        allows
      rw [agree id rfl] at allows
      exact allows
  | _ => exact allows

theorem change_of_ne {other : GoString} {f : ContainerRecord → ContainerRecord}
    (ne : id ≠ other) : s.change other f id = s id := Function.update_of_ne ne ..

/-- A call changes the container that it creates or names, and no other. -/
theorem next_frame (other : c.container ≠ some id) (old : createdId ⟨c, r⟩ ≠ some id) :
    s.next c r id = s id := by
  unfold Records.next
  split
  · exact change_of_ne fun same => old (congrArg some same.symm)
  · exact change_of_ne fun same => other (congrArg some same.symm)
  · exact change_of_ne fun same => other (congrArg some same.symm)
  · exact change_of_ne fun same => other (congrArg some same.symm)
  · exact change_of_ne fun same => other (congrArg some same.symm)
  · rfl

/-- What a call makes of a container depends on what the container was. -/
theorem next_of_agree (here : s id = s' id) : s.next c r id = s'.next c r id := by
  have change : ∀ (other : GoString) (f : ContainerRecord → ContainerRecord),
      s.change other f id = s'.change other f id := by
    intro other f
    by_cases same : id = other
    · subst same
      rw [Records.change_self, Records.change_self, here]
    · rw [change_of_ne same, change_of_ne same, here]
  unfold Records.next
  split
  · exact change _ _
  · exact change _ _
  · exact change _ _
  · exact change _ _
  · exact change _ _
  · exact here

/-- A container that is created is the same whatever was there. -/
theorem next_created (created : createdId ⟨c, r⟩ = some id) :
    s.next c r id = s'.next c r id := by
  unfold createdId at created
  split at created
  · rename_i same
    cases same
    cases created
    simp only [Records.next, Records.change_self]
  · cases created

end Frame

/-! ## The container of a suite runner -/

/-- The id of the container that a suite runner has. -/
def Phase.own : Phase → Option GoString
  | .absent => none
  | .present c => some c.id

section Own

variable {s : Phase} {c : DockerCall} {r : DockerReply c} {id : GoString}

theorem Phase.Holds.own {P : Container → Prop} (holds : s.Holds id P) : s.own = some id := by
  cases s with
  | absent => exact holds.elim
  | present c => exact congrArg some holds.1

@[simp] theorem Phase.own_update (f : Container → Container) (same : ∀ c, (f c).id = c.id) :
    (s.update f).own = s.own := by
  cases s with
  | absent => rfl
  | present c => exact congrArg some (same c)

/-- A call names the suite runner's own container, for the life cycle obliges no other. -/
theorem own_of_obliges (owed : lifecycleObliges s c) (names : c.container = some id) :
    s.own = some id := by
  cases c with
  | containerRemove ctx id' force =>
      cases names
      exact owed.2.2.own
  | copyToContainer => cases names; exact Phase.Holds.own owed
  | containerAttach => cases names; exact Phase.Holds.own owed
  | writeStdin => cases names; exact Phase.Holds.own owed
  | closeWrite => cases names; exact Phase.Holds.own owed
  | closeAttach => cases names; exact Phase.Holds.own owed
  | containerStart => cases names; exact Phase.Holds.own owed
  | containerWait => cases names; exact Phase.Holds.own owed
  | containerInspect => cases names; exact Phase.Holds.own owed
  | containerLogs => cases names; exact Phase.Holds.own owed
  | containerStop => cases names; exact Phase.Holds.own owed
  | copyFromContainer => cases names; exact Phase.Holds.own owed
  | _ => cases names

/-- A suite runner creates a container when it has none, and then has this one. -/
theorem own_of_created (owed : lifecycleObliges s c) (created : createdId ⟨c, r⟩ = some id) :
    s.own = none ∧ (lifecycleNext s c r).own = some id := by
  unfold createdId at created
  split at created
  · rename_i same
    cases same
    cases created
    have absent : s = .absent := owed
    subst absent
    exact ⟨rfl, rfl⟩
  · cases created

/-- Without a creation it keeps its container or gives it up. -/
theorem own_next (uncreated : createdId ⟨c, r⟩ = none) :
    (lifecycleNext s c r).own = none ∨ (lifecycleNext s c r).own = s.own := by
  unfold lifecycleNext
  split
  · cases uncreated
  · exact Or.inl rfl
  · exact Or.inr (Phase.own_update _ fun _ => rfl)
  · exact Or.inr (Phase.own_update _ fun _ => rfl)
  · exact Or.inr (Phase.own_update _ fun _ => rfl)
  · refine Or.inr (Phase.own_update _ fun c => ?_)
    unfold Container.afterWait
    split <;> rfl
  · refine Or.inr (Phase.own_update _ fun c => ?_)
    unfold Container.afterCtxErr
    split <;> rfl
  · exact Or.inr (Phase.own_update _ fun _ => rfl)
  · exact Or.inr rfl

end Own

/-! ## The invariant -/

/-- Where a suite runner is: its phase, and the containers as it knows them. -/
abbrev SuitePlace := Script × (Phase × Records)

/-- The container of a suite runner. -/
def SuitePlace.own (p : SuitePlace) : Option GoString := p.2.1.own

/-- No container is that of two suite runners, each was given its id, and each suite runner knows
its own container. -/
structure Owned (d : SharedDaemon) (places : List SuitePlace) : Prop where
  distinct : (places.filterMap SuitePlace.own).Nodup
  given : ∀ id ∈ places.filterMap SuitePlace.own, id ∈ d.used
  known : ∀ p ∈ places, ∀ id, p.own = some id → p.2.2 id = d.records id

namespace Owned

variable {d : SharedDaemon} {places places' : List SuitePlace}

theorem perm (owned : Owned d places) (perm : places.Perm places') : Owned d places' where
  distinct := (perm.filterMap _).nodup_iff.mp owned.distinct
  given id member := owned.given id ((perm.filterMap _).mem_iff.mpr member)
  known p member := owned.known p (perm.mem_iff.mpr member)

/-- A suite runner starts without a container, so that those of the others stay distinct. -/
theorem start (owned : Owned d places) (script : Script) (records : Records) :
    Owned d (places ++ [(script, (.absent, records))]) := by
  have same : (places ++ [(script, (Phase.absent, records))]).filterMap SuitePlace.own =
      places.filterMap SuitePlace.own := by
    rw [List.filterMap_append]
    exact List.append_nil _
  refine ⟨same ▸ owned.distinct, same ▸ owned.given, fun p member => ?_⟩
  rcases List.mem_append.mp member with before | new
  · exact owned.known p before
  · rw [List.mem_singleton.mp new]
    exact fun _ absurd => nomatch absurd

/-- **One answer.**  The suite runner at the head makes a call that it may make; the others keep
their containers. -/
theorem answer {script : Script} {s : Phase} {records : Records} {others : List SuitePlace}
    {c : DockerCall} {r : DockerReply c} (owned : Owned d ((script, (s, records)) :: others))
    (owed : lifecycleObliges s c) (fresh : ∀ id, createdId ⟨c, r⟩ = some id → id ∉ d.used) :
    Owned ⟨d.records.next c r, d.used ++ (createdId ⟨c, r⟩).toList⟩
      ((script, (lifecycleNext s c r, records.next c r)) :: others) := by
  have distinct := owned.distinct
  have given := owned.given
  rw [filterMap_cons_toList] at distinct given
  have others_distinct : (others.filterMap SuitePlace.own).Nodup := (List.nodup_append.mp distinct).2.1
  have others_given : ∀ id ∈ others.filterMap SuitePlace.own, id ∈ d.used := fun id member =>
    given id (List.mem_append_right _ member)
  -- the container named by the call is the caller's, the one created is new: neither is another's
  have apart : ∀ p ∈ others, ∀ id, p.own = some id →
      c.container ≠ some id ∧ createdId ⟨c, r⟩ ≠ some id := by
    intro p member id own
    have inside : id ∈ others.filterMap SuitePlace.own := List.mem_filterMap.mpr ⟨p, member, own⟩
    refine ⟨fun names => ?_, fun created => fresh id created (others_given id inside)⟩
    have mine : SuitePlace.own (script, (s, records)) = some id := own_of_obliges owed names
    rw [mine] at distinct
    exact (List.nodup_cons.mp distinct).1 inside
  have own_cases : (createdId ⟨c, r⟩ = none ∧ ((lifecycleNext s c r).own = none ∨
      (lifecycleNext s c r).own = s.own)) ∨
      ∃ id, createdId ⟨c, r⟩ = some id ∧ (lifecycleNext s c r).own = some id := by
    cases created : createdId ⟨c, r⟩ with
    | none => exact Or.inl ⟨rfl, own_next created⟩
    | some id => exact Or.inr ⟨id, rfl, (own_of_created owed created).2⟩
  refine ⟨?_, ?_, ?_⟩
  · rw [filterMap_cons_toList]
    show ((lifecycleNext s c r).own.toList ++ _).Nodup
    rcases own_cases with ⟨-, gone | kept⟩ | ⟨id, created, mine⟩
    · rw [gone]
      exact others_distinct
    · rw [kept]
      exact distinct
    · rw [mine]
      refine List.nodup_cons.mpr ⟨fun inside => ?_, others_distinct⟩
      exact fresh id created (others_given id inside)
  · intro id member
    rw [filterMap_cons_toList] at member
    have member : id ∈ (lifecycleNext s c r).own.toList ++ others.filterMap SuitePlace.own := member
    rcases List.mem_append.mp member with mine | other
    · rcases own_cases with ⟨-, gone | kept⟩ | ⟨id', created, mine'⟩
      · rw [gone] at mine
        cases mine
      · rw [kept] at mine
        exact List.mem_append_left _ (given id (List.mem_append_left _ mine))
      · rw [mine'] at mine
        rw [created]
        exact List.mem_append_right _ mine
    · exact List.mem_append_left _ (others_given id other)
  · intro p member id own
    rcases List.mem_cons.mp member with rfl | other
    · have own : (lifecycleNext s c r).own = some id := own
      rcases own_cases with ⟨-, gone | kept⟩ | ⟨id', created, mine⟩
      · rw [gone] at own
        cases own
      · exact next_of_agree (owned.known _ List.mem_cons_self id (kept.symm.trans own))
      · cases own.symm.trans mine
        exact next_created created
    · obtain ⟨unnamed, uncreated⟩ := apart p other id own
      refine Eq.trans ?_ (next_frame unnamed uncreated).symm
      exact owned.known p (List.mem_cons_of_mem _ other) id own

end Owned

/-! ## Every suite runner -/

section Suites

variable {cfg : DockerConfig} {engine : Engine Docker} (B : Behaviour)
  (artifact : Workload → GoString → List TarEntry)

/-- What a suite runner keeps to, the report it returns, and the invariant of the daemon. -/
def suiteDiscipline (cfg : DockerConfig) :
    Discipline Docker Script RunReport SharedDaemon (Phase × Records) where
  contract _ := lifecycle.both (B.daemon (leavesArtifact artifact))
  post script report _ :=
    report.judgement = cfg.judge B artifact script
  inv := Owned

variable {B artifact}

theorem suites_keptByStarts (built : newEngineWithClient cfg = .ok engine) :
    (suiteDiscipline B artifact cfg).KeptByStarts (suiteSystem engine B artifact) := by
  intro pool members script p sound started
  subst started
  have keeps : Keeps .absent (SuiteRunner.run engine script) _ :=
    keeps_suiteRunner (newEngineWithClient_prepares built script)
  have gives : Gives B (leavesArtifact artifact) (fun _ => default) (SuiteRunner.run engine script) _ :=
    gives_judgement built script
  exact ⟨_, (keeps.both gives).mono fun _ _ both => both.2, sound.inv.start script _⟩

theorem suites_keptByAnswers :
    (suiteDiscipline B artifact cfg).KeptByAnswers (suiteSystem engine B artifact) := by
  intro d places i script q c r d' owned here owed answered
  rcases answered with ⟨allows, fresh, rfl⟩
  have known : ∀ id, c.container = some id → d.records id = q.2 id := by
    intro id names
    have own : SuitePlace.own (script, q) = some id := own_of_obliges owed.1 names
    exact (owned.known _ (List.mem_of_getElem? here) id own).symm
  refine ⟨⟨trivial, allows_of_agree known allows⟩, ?_⟩
  have next := (owned.perm (perm_of_getElem? here)).answer owed.1 fresh
  exact next.perm (set_perm_of_getElem? here).symm

/-- In every pool reached the suite runners keep to the discipline. -/
theorem suites_sound (built : newEngineWithClient cfg = .ok engine) {pool : SuitePool}
    (run : Reaches (Pool.Step (suiteSystem engine B artifact)) ⟨[], {}⟩ pool) :
    ∃ members, (suiteDiscipline B artifact cfg).Sound pool members := by
  have start : (suiteDiscipline B artifact cfg).Sound ⟨[], {}⟩ [] :=
    ⟨rfl, fun _ absurd => (List.not_mem_nil absurd).elim, List.nodup_nil,
      fun _ absurd => (List.not_mem_nil absurd).elim, fun _ absurd => (List.not_mem_nil absurd).elim⟩
  exact Discipline.sound_of_reaches (suites_keptByStarts built) suites_keptByAnswers start run

theorem judged_of_sound {pool : SuitePool} {members : List (Tracked Docker Script RunReport _)}
    (sound : (suiteDiscipline B artifact cfg).Sound pool members) {script : Script}
    {report : RunReport} (returned : (script, .ret report) ∈ pool.threads) :
    report.judgement = cfg.judge B artifact script := by
  rw [sound.threads] at returned
  obtain ⟨m, member, same⟩ := List.mem_map.mp returned
  have follows := sound.follows m member
  cases m
  cases same
  exact follows

/-- **Suites that share a daemon.**  Whatever suite runners are started and however their calls
interleave, one that has returned reports the judgement on its script. -/
theorem suites_judged (built : newEngineWithClient cfg = .ok engine) {pool : SuitePool}
    (run : Reaches (Pool.Step (suiteSystem engine B artifact)) ⟨[], {}⟩ pool) {script : Script}
    {report : RunReport} (returned : (script, .ret report) ∈ pool.threads) :
    report.judgement = cfg.judge B artifact script := by
  obtain ⟨members, sound⟩ := suites_sound built run
  exact judged_of_sound sound returned

/-- The daemon after these calls and replies. -/
def SharedDaemon.past (B : Behaviour) (artifact : Workload → GoString → List TarEntry)
    (t : List (Event Docker)) : SharedDaemon where
  records := (B.daemon (leavesArtifact artifact)).after (fun _ => default) t
  used := created t

/-- Containers have been numbered by the calls before them. -/
def NumberedByCalls (t : List (Event Docker)) : Prop :=
  ∀ id ∈ created t, ∃ n < t.length, id = lit "c" ++ natText n

/-- A daemon that does what `B` says keeps to that, and gives no id twice. -/
theorem serve_answers (exits : ∀ w, B.timeToExit w ≠ none) {t : List (Event Docker)}
    (numbered : NumberedByCalls t) (c : DockerCall) :
    SharedDaemon.answers B artifact (.past B artifact t) c (B.serve artifact t c)
        (.past B artifact (t ++ [⟨c, B.serve artifact t c⟩])) ∧
      NumberedByCalls (t ++ [⟨c, B.serve artifact t c⟩]) := by
  have own : ∀ id, createdId ⟨c, B.serve artifact t c⟩ = some id →
      id = lit "c" ++ natText t.length := by
    intro id here
    cases c with
    | containerCreate => exact (Option.some.inj here).symm
    | _ => cases here
  have split : created (t ++ [⟨c, B.serve artifact t c⟩]) =
      created t ++ (createdId ⟨c, B.serve artifact t c⟩).toList := by
    rw [created_append]
    unfold created
    rw [filterMap_cons_toList, List.filterMap_nil, List.append_nil]
  refine ⟨⟨B.serve_allows exits artifact t c, fun id here used => ?_, ?_⟩, fun id member => ?_⟩
  · obtain ⟨n, before, same⟩ := numbered id used
    rw [own id here, natText_eq, natText_eq] at same
    exact absurd (Decimal.digits_injective (List.append_cancel_left same)) (Nat.ne_of_gt before)
  · unfold SharedDaemon.past
    rw [split, Contract.after_append]
    rfl
  · rw [List.length_append, List.length_singleton]
    rw [split] at member
    rcases List.mem_append.mp member with old | new
    · obtain ⟨n, before, same⟩ := numbered id old
      exact ⟨n, Nat.lt_succ_of_lt before, same⟩
    · exact ⟨t.length, Nat.lt_succ_self _, own id (Option.mem_toList.mp new)⟩

/-- Suite runners that take turns on such a daemon reach the state that is computed, and the ids
stay numbered by the calls. -/
theorem reaches_taking_turns (exits : ∀ w, B.timeToExit w ≠ none) (turns : List Nat)
    {threads : List (Script × Proc Docker RunReport)} {t : List (Event Docker)}
    (numbered : NumberedByCalls t) :
    NumberedByCalls (interleaved (B.serve artifact) turns threads t).2 ∧
      Reaches (Pool.Step (suiteSystem engine B artifact)) ⟨threads, .past B artifact t⟩
        ⟨(interleaved (B.serve artifact) turns threads t).1,
          .past B artifact (interleaved (B.serve artifact) turns threads t).2⟩ :=
  reaches_interleaved (P := NumberedByCalls)
    (fun _ _ c numbered => (serve_answers exits numbered c).1)
    (fun _ c numbered => (serve_answers exits numbered c).2) turns numbered

end Suites

/-- A script that expects something else than it prints. -/
def echoOnce : Script := { echoTwice with id := "once", tests := [⟨1, "3\n", "4\n"⟩] }

/-- Two suite runners that take so many turns, after these calls and replies. -/
def takingTurns (turns : Nat) (threads : List (Script × Proc Docker RunReport))
    (t : List (Event Docker)) : List (Script × Proc Docker RunReport) × List (Event Docker) :=
  interleaved (echo.serve (leaves [])) ((List.range turns).map (· % 2)) threads t

/-- The pool that is left. -/
def turnsPool (run : List (Script × Proc Docker RunReport) × List (Event Docker)) : SuitePool :=
  ⟨run.1, .past echo (leaves []) run.2⟩

/-- Two suite runners, whose calls alternate: at one point each has a container of its own, and at
the end each has judged its own script. -/
theorem suites_judged_turns :
    ∃ (middle last : SuitePool) (report report' : RunReport),
      Reaches (Pool.Step (suiteSystem pythonEngine echo (leaves []))) ⟨[], {}⟩ middle ∧
      Reaches (Pool.Step (suiteSystem pythonEngine echo (leaves []))) middle last ∧
      middle.pending.map DockerCall.container = [some (lit "c8"), some (lit "c9")] ∧
      last.returned = [(echoTwice, report), (echoOnce, report')] ∧
      report.judgement = some ⟨.ok, [(⟨1, "1\n", "1\n"⟩, ⟨.ok, "1\n", [], 0⟩),
        (⟨2, "2\n", "2\n"⟩, ⟨.ok, "2\n", [], 0⟩)]⟩ ∧
      report'.judgement =
        some ⟨.wrongAnswer, [(⟨1, "3\n", "4\n"⟩, ⟨.wrongAnswer, "3\n", [], 0⟩)]⟩ := by
  have exits : ∀ w, echo.timeToExit w ≠ none := fun _ => Option.some_ne_none 0
  have start : NumberedByCalls [] := fun _ absurd => (List.not_mem_nil absurd).elim
  let middle := takingTurns 20
    [(echoTwice, SuiteRunner.run pythonEngine echoTwice),
      (echoOnce, SuiteRunner.run pythonEngine echoOnce)] []
  let last := takingTurns 60 middle.1 middle.2
  obtain ⟨numbered, first⟩ := reaches_taking_turns exits (List.map (· % 2) (.range 20)) start
  obtain ⟨-, second⟩ := reaches_taking_turns exits (List.map (· % 2) (.range 60)) numbered
  have begun : Reaches (Pool.Step (suiteSystem pythonEngine echo (leaves []))) ⟨[], {}⟩
      (turnsPool middle) := .head (.start rfl) (.head (.start rfl) first)
  have scripts : (turnsPool last).returned.map Prod.fst = [echoTwice, echoOnce] := by decide +kernel
  obtain ⟨⟨_, report⟩, later, returned, rfl, scripts⟩ := List.map_eq_cons_iff.mp scripts
  obtain ⟨⟨_, report'⟩, none, rfl, rfl, nothing⟩ := List.map_eq_cons_iff.mp scripts
  obtain rfl := List.map_eq_nil_iff.mp nothing
  have judged : ∀ script report, (script, report) ∈ (turnsPool last).returned →
      report.judgement = pythonConfig.judge echo (leaves []) script := fun _ _ member =>
    suites_judged pythonEngine_built (begun.trans second) (Pool.mem_returned member)
  rw [returned] at judged
  refine ⟨_, _, report, report', begun, second, by decide +kernel, returned, ?_, ?_⟩
  · rw [judged _ _ List.mem_cons_self]
    decide +kernel
  · rw [judged _ _ (List.mem_cons_of_mem _ List.mem_cons_self)]
    decide +kernel

end Scrc
