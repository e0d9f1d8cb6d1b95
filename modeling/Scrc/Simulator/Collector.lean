import Mathlib.Data.List.Nodup
import Scrc.Simulator.Benchmark

/-!
# Waiting for the results of a run

The collector of a run moves a result from `_pending` to `_completed` in two critical sections.
Between them the result is in neither, and a thread that finds nothing pending then and builds its
table misses the row.

* `Collecting.Step`: the thread that registers, waits and builds, and the thread that handles
  results; a block under the lock is one step.
* `Inv`: every registered id is pending, at hand or completed, and once.
* `rows_after_waiting`: rows are about registered ids, one for each at most, and the table built
  after the wait has them all unless the other thread is between its two critical sections.
-/

namespace Scrc

open Transition

/-! ## The collector -/

/-- The fields of `BenchmarkResultCollector` that its lock protects; `pending` holds the values of a
dictionary, each under its own `scriptId`. -/
structure ResultCollector where
  pending : List SubmissionRecord := []
  completed : List Row := []

namespace ResultCollector

/-- `register_submission`: an assignment to a key of the dictionary. -/
def registerSubmission (c : ResultCollector) (record : SubmissionRecord) : ResultCollector :=
  if c.pending.any fun r => r.scriptId = record.scriptId then
    { c with pending := c.pending.map fun r =>
        if r.scriptId = record.scriptId then record else r }
  else { c with pending := c.pending ++ [record] }

/-- The first block of `_handle_result`: `pop` with the default `None`. -/
def popPending (c : ResultCollector) (scriptId : String) :
    Option SubmissionRecord × ResultCollector :=
  (c.pending.find? fun r => r.scriptId = scriptId,
    { c with pending := c.pending.eraseP fun r => r.scriptId = scriptId })

/-- The second block of `_handle_result`. -/
def appendCompleted (c : ResultCollector) (row : Row) : ResultCollector :=
  { c with completed := c.completed ++ [row] }

/-- `build_dataframe` without the filter: the rows, whose order is that of the table. -/
def buildDataframe (c : ResultCollector) : List Row := c.completed

variable {c : ResultCollector} {record : SubmissionRecord} {scriptId : String}

theorem registerSubmission_fresh
    (fresh : record.scriptId ∉ c.pending.map SubmissionRecord.scriptId) :
    c.registerSubmission record = { c with pending := c.pending ++ [record] } := by
  unfold registerSubmission
  rw [if_neg]
  intro present
  obtain ⟨r, member, same⟩ := List.any_eq_true.mp present
  exact fresh (List.mem_map.mpr ⟨r, member, of_decide_eq_true same⟩)

theorem popPending_absent (absent : (c.popPending scriptId).1 = none) :
    (c.popPending scriptId).2 = c := by
  have kept : c.pending.eraseP (fun r => r.scriptId = scriptId) = c.pending :=
    List.eraseP_of_forall_not fun r member => by
      simpa using List.find?_eq_none.mp absent r member
  unfold popPending
  rw [kept]

/-- What is popped was pending under its id, and everything else stays. -/
theorem popPending_found (found : (c.popPending scriptId).1 = some record) :
    record.scriptId = scriptId ∧
      c.pending.Perm (record :: (c.popPending scriptId).2.pending) := by
  obtain ⟨matching, before, after, split, others⟩ := List.find?_eq_some_iff_append.mp found
  have named : record.scriptId = scriptId := of_decide_eq_true matching
  have rest : (c.popPending scriptId).2.pending = before ++ after := by
    have skip : ∀ r ∈ before, ¬ (decide (r.scriptId = scriptId) = true) := by
      intro r member
      simpa using others r member
    have head : (record :: after).eraseP (fun r => r.scriptId = scriptId) = after :=
      List.eraseP_cons_of_pos matching
    unfold popPending
    rw [split, List.eraseP_append_right _ skip, head]
  rw [rest, split]
  exact ⟨named, List.perm_middle⟩

end ResultCollector

/-- The thread that registers, from the call of `wait_for_pending` on with what that returned for:
that nothing was pending, or that its time was over. -/
inductive MainThread where
  | registering
  | waiting
  | returned (emptied : Bool)
  | built (emptied : Bool) (rows : List Row)

/-- `wait_for_pending` has returned because nothing was pending. -/
def MainThread.emptied : MainThread → Bool
  | .registering => false
  | .waiting => false
  | .returned emptied => emptied
  | .built emptied _ => emptied

/-- Both threads and the collector; `handling` is the row that the handler has made and not appended
yet, and `registered` remembers the ids. -/
structure Collecting where
  collector : ResultCollector := {}
  handling : Option Row := none
  main : MainThread := .registering
  registered : List String := []

/-- A step that can be taken. -/
inductive CollectingAction where
  | register (record : SubmissionRecord)
  | wait
  | check
  | expire
  | build
  | pop (scriptId : String) (payload : CollectedResult) (completedTs : Int)
  | append

namespace Collecting

inductive Step : Collecting → CollectingAction → Collecting → Prop
  | register {s : Collecting} (record : SubmissionRecord) (registering : s.main = .registering)
      (distinct : record.scriptId ∉ s.registered) :
      Step s (.register record)
        { s with
          collector := s.collector.registerSubmission record
          registered := s.registered ++ [record.scriptId] }
  | wait {s : Collecting} (registering : s.main = .registering) :
      Step s .wait { s with main := .waiting }
  /-- A turn of the loop that finds something pending changes nothing. -/
  | sleep {s : Collecting} (waiting : s.main = .waiting) (some : s.collector.pending ≠ []) :
      Step s .check s
  | check {s : Collecting} (waiting : s.main = .waiting) (empty : s.collector.pending = []) :
      Step s .check { s with main := .returned true }
  | expire {s : Collecting} (waiting : s.main = .waiting) :
      Step s .expire { s with main := .returned false }
  | build {s : Collecting} {emptied : Bool} (returned : s.main = .returned emptied) :
      Step s .build { s with main := .built emptied s.collector.buildDataframe }
  | rebuild {s : Collecting} {emptied : Bool} {rows : List Row}
      (built : s.main = .built emptied rows) :
      Step s .build { s with main := .built emptied s.collector.buildDataframe }
  | unknown {s : Collecting} (scriptId : String) (payload : CollectedResult) (completedTs : Int)
      (idle : s.handling = none) (absent : (s.collector.popPending scriptId).1 = none) :
      Step s (.pop scriptId payload completedTs)
        { s with collector := (s.collector.popPending scriptId).2 }
  | pop {s : Collecting} {record : SubmissionRecord} (scriptId : String) (payload : CollectedResult)
      (completedTs : Int) (idle : s.handling = none)
      (found : (s.collector.popPending scriptId).1 = some record) :
      Step s (.pop scriptId payload completedTs)
        { s with
          collector := (s.collector.popPending scriptId).2
          handling := some (makeRow scriptId record payload completedTs) }
  | append {s : Collecting} {row : Row} (made : s.handling = some row) :
      Step s .append { s with collector := s.collector.appendCompleted row, handling := none }

/-- Rows are about registered ids, and no two about one. -/
structure Accounted (s : Collecting) : Prop where
  registered : ∀ row ∈ s.collector.completed, row.scriptId ∈ s.registered
  once : (s.collector.completed.map Row.scriptId).Nodup

/-- The table built after a wait that found nothing pending has one row for each registered id. -/
def TableComplete (s : Collecting) : Prop :=
  ∀ rows, s.main = .built true rows → ∀ scriptId ∈ s.registered,
    rows.countP (fun row => row.scriptId = scriptId) = 1

/-- After such a wait the table is not built between the two blocks of `_handle_result`. -/
def Timely (s : Collecting) : CollectingAction → Prop
  | .build => s.main.emptied = true → s.handling = none
  | _ => True

/-! ## The invariant -/

/-- The ids that are pending, at hand or completed. -/
def ids (s : Collecting) : List String :=
  s.collector.pending.map SubmissionRecord.scriptId ++
    (s.handling.toList.map Row.scriptId ++ s.collector.completed.map Row.scriptId)

/-- Every registered id is pending, at hand or completed, and once; after a wait that found nothing
pending nothing is. -/
structure Inv (s : Collecting) : Prop where
  distinct : s.registered.Nodup
  conserved : s.ids.Perm s.registered
  emptied : s.main.emptied = true → s.collector.pending = []

section Steps

variable {s s' : Collecting} {a : CollectingAction}

/-- A row that is made is at hand under the id that was pending. -/
theorem ids_pop {scriptId : String} {record : SubmissionRecord} (payload : CollectedResult)
    (completedTs : Int) (idle : s.handling = none)
    (found : (s.collector.popPending scriptId).1 = some record) :
    (ids { s with
        collector := (s.collector.popPending scriptId).2
        handling := some (makeRow scriptId record payload completedTs) }).Perm s.ids := by
  obtain ⟨named, rest⟩ := ResultCollector.popPending_found found
  have before := (rest.map SubmissionRecord.scriptId).append_right
    (s.collector.completed.map Row.scriptId)
  have ids : s.ids = s.collector.pending.map SubmissionRecord.scriptId ++
      s.collector.completed.map Row.scriptId := by
    unfold Collecting.ids
    rw [idle]
    rfl
  rw [ids]
  refine List.Perm.trans ?_ before.symm
  rw [List.map_cons, named]
  exact List.perm_middle

/-- A row that is appended is completed under the id at hand. -/
theorem ids_append {row : Row} (made : s.handling = some row) :
    (ids { s with collector := s.collector.appendCompleted row, handling := none }).Perm s.ids := by
  have ids : s.ids = s.collector.pending.map SubmissionRecord.scriptId ++
      (row.scriptId :: s.collector.completed.map Row.scriptId) := by
    unfold Collecting.ids
    rw [made]
    rfl
  rw [ids]
  refine List.Perm.append_left _ ?_
  simp only [Option.toList_none, List.map_nil, List.nil_append, ResultCollector.appendCompleted,
    List.map_append, List.map_cons]
  exact List.perm_append_singleton _ _

theorem Inv.step (inv : Inv s) (step : Step s a s') : Inv s' := by
  cases step with
  | register record registering distinct =>
      have unknown : record.scriptId ∉ s.ids := fun known =>
        distinct (inv.conserved.mem_iff.mp known)
      have fresh := ResultCollector.registerSubmission_fresh
        fun pending => unknown (List.mem_append_left _ pending)
      refine ⟨List.nodup_append.mpr ⟨inv.distinct, List.nodup_singleton _, ?_⟩, ?_,
        fun emptied => ?_⟩
      · intro id known other member same
        exact distinct (List.mem_singleton.mp member ▸ same ▸ known)
      · unfold ids
        simp only [fresh, List.map_append, List.map_cons, List.map_nil]
        rw [List.append_assoc]
        refine List.Perm.trans ?_ (inv.conserved.append_right [record.scriptId])
        unfold ids
        rw [List.append_assoc]
        exact List.Perm.append_left _ List.perm_append_comm
      · rw [registering] at emptied
        cases emptied
  | wait registering => exact ⟨inv.distinct, inv.conserved, nofun⟩
  | sleep waiting some => exact inv
  | check waiting empty => exact ⟨inv.distinct, inv.conserved, fun _ => empty⟩
  | expire waiting => exact ⟨inv.distinct, inv.conserved, nofun⟩
  | build returned =>
      refine ⟨inv.distinct, inv.conserved, fun emptied => inv.emptied ?_⟩
      rw [returned]
      exact emptied
  | rebuild built =>
      refine ⟨inv.distinct, inv.conserved, fun emptied => inv.emptied ?_⟩
      rw [built]
      exact emptied
  | unknown scriptId payload completedTs idle absent =>
      rw [ResultCollector.popPending_absent absent]
      exact inv
  | pop scriptId payload completedTs idle found =>
      refine ⟨inv.distinct, (ids_pop payload completedTs idle found).trans inv.conserved,
        fun emptied => ?_⟩
      -- nothing is pending any more, so nothing was popped
      have rest := (ResultCollector.popPending_found found).2
      rw [inv.emptied emptied] at rest
      exact absurd rest.symm.eq_nil (List.cons_ne_nil _ _)
  | append made =>
      exact ⟨inv.distinct, (ids_append made).trans inv.conserved, inv.emptied⟩

/-- Rows are accounted for in every state. -/
theorem Inv.accounted (inv : Inv s) : Accounted s := by
  have completed : (s.collector.completed.map Row.scriptId).Sublist s.ids :=
    (List.sublist_append_right _ _).trans (List.sublist_append_right _ _)
  refine ⟨fun row member => ?_, completed.nodup (inv.conserved.nodup_iff.mpr inv.distinct)⟩
  exact inv.conserved.mem_iff.mp (completed.subset (List.mem_map_of_mem member))

/-- When nothing is pending, what is completed and what is at hand are the registered ids. -/
theorem Inv.completed (inv : Inv s) (empty : s.collector.pending = []) :
    (s.handling.toList.map Row.scriptId ++ s.collector.completed.map Row.scriptId).Perm
      s.registered := by
  have conserved := inv.conserved
  unfold ids at conserved
  rw [empty] at conserved
  exact conserved

theorem countP_scriptId (rows : List Row) (scriptId : String) :
    rows.countP (fun row => row.scriptId = scriptId) = (rows.map Row.scriptId).count scriptId := by
  rw [List.count_eq_countP, List.countP_map]
  exact List.countP_congr fun row _ => by simp

/-- The table built after a wait that found nothing pending has all rows exactly when none is at
hand. -/
theorem Inv.tableComplete_iff (inv : Inv s) (step : Step s .build s')
    (emptied : s.main.emptied = true) :
    TableComplete s' ↔ s.handling = none := by
  have table : s'.registered = s.registered ∧ s'.main = .built true s.collector.completed := by
    cases step with
    | build returned =>
        rw [returned] at emptied
        exact ⟨rfl, congrArg (MainThread.built · _) emptied⟩
    | rebuild built =>
        rw [built] at emptied
        exact ⟨rfl, congrArg (MainThread.built · _) emptied⟩
  have completed := inv.completed (inv.emptied emptied)
  unfold TableComplete
  rw [table.1, table.2]
  cases made : s.handling with
  | none =>
      rw [made] at completed
      have completed : (s.collector.completed.map Row.scriptId).Perm s.registered := completed
      refine iff_of_true (fun rows same scriptId known => ?_) rfl
      cases same
      rw [countP_scriptId, completed.count_eq scriptId]
      exact List.count_eq_one_of_mem inv.distinct known
  | some row =>
      rw [made] at completed
      refine iff_of_false (fun complete => ?_) nofun
      -- the id at hand is registered and has no row yet
      have known : row.scriptId ∈ s.registered := completed.mem_iff.mp List.mem_cons_self
      have one := complete _ rfl row.scriptId known
      have both := completed.count_eq row.scriptId
      rw [List.count_eq_one_of_mem inv.distinct known, ← one, countP_scriptId] at both
      simp at both

/-- A step other than the building keeps what the table has. -/
theorem TableComplete.step (complete : TableComplete s) (inv : Inv s) (step : Step s a s')
    (timely : Timely s a) : TableComplete s' := by
  have rebuilt : ∀ {s'}, Step s .build s' → Timely s .build → TableComplete s' := by
    intro s' step timely
    cases emptied : s.main.emptied with
    | true => exact (inv.tableComplete_iff step emptied).mpr (timely emptied)
    | false =>
        intro rows same
        cases step with
        | build returned =>
            rw [returned] at emptied
            cases same
            cases emptied
        | rebuild built =>
            rw [built] at emptied
            cases same
            cases emptied
  cases step with
  | register record registering distinct =>
      intro rows same
      rw [registering] at same
      cases same
  | wait registering => exact fun rows same => nomatch same
  | sleep waiting some => exact complete
  | check waiting empty => exact fun rows same => nomatch same
  | expire waiting => exact fun rows same => nomatch same
  | build returned => exact rebuilt (.build returned) timely
  | rebuild built => exact rebuilt (.rebuild built) timely
  | unknown scriptId payload completedTs idle absent => exact complete
  | pop scriptId payload completedTs idle found => exact complete
  | append made => exact complete

end Steps

/-! ## Runs -/

/-- Any step. -/
def AnyStep (s s' : Collecting) : Prop := ∃ a, Step s a s'

/-- A timely step. -/
def TimelyStep (s s' : Collecting) : Prop := ∃ a, Step s a s' ∧ Timely s a

theorem inv_start : Inv {} := ⟨List.nodup_nil, List.Perm.refl _, nofun⟩

theorem inv_of_reaches {s : Collecting} (run : Reaches AnyStep {} s) : Inv s :=
  run.invariant (fun _ _ inv ⟨_, step⟩ => Inv.step inv step) inv_start

/-- **Rows after waiting.**  In every run rows are about registered ids, one for each at most.  As
long as no table is built between the two blocks of `_handle_result`, every table built after a wait
that found nothing pending has one row for each registered id; a table that is built there misses
one. -/
theorem rows_after_waiting (s : Collecting) :
    (Reaches AnyStep {} s → Accounted s) ∧ (Reaches TimelyStep {} s → TableComplete s) ∧
    ∀ s' a, Reaches AnyStep {} s → Step s a s' → ¬ Timely s a → ¬ TableComplete s' := by
  refine ⟨fun run => (inv_of_reaches run).accounted, fun run => ?_, fun s' a run step late => ?_⟩
  · have invariant : Inv s ∧ TableComplete s := by
      refine run.invariant (P := fun s => Inv s ∧ TableComplete s) (fun s s' before step => ?_)
        ⟨inv_start, nofun⟩
      obtain ⟨a, step, timely⟩ := step
      exact ⟨before.1.step step, before.2.step before.1 step timely⟩
    exact invariant.2
  · have inv := inv_of_reaches run
    cases a with
    | build =>
        unfold Timely at late
        push Not at late
        exact fun complete => late.2 ((inv.tableComplete_iff step late.1).mp complete)
    | _ => exact absurd trivial late

/-- A submission, and a result of it. -/
def onlyRecord : SubmissionRecord := ⟨"python-ok-1", "python", "ok", 0⟩

def onlyResult : CollectedResult := ⟨⟨some "python-ok-1", some "python-ok-1"⟩, some "OK", some 5⟩

/-- Its row is appended before the wait, and the table has it. -/
theorem rows_after_waiting_one :
    ∃ s, s.main = .built true [makeRow "python-ok-1" onlyRecord onlyResult 1] ∧
      TableComplete s := by
  have run : Reaches TimelyStep {} _ := .single ⟨_, .register onlyRecord rfl nofun, trivial⟩
  have run := run.tail ⟨_, .pop "python-ok-1" onlyResult 1 rfl rfl, trivial⟩
  have run := run.tail ⟨_, .append rfl, trivial⟩
  have run := run.tail ⟨_, .wait rfl, trivial⟩
  have run := run.tail ⟨_, .check rfl rfl, trivial⟩
  have run := run.tail ⟨_, .build rfl, fun _ => rfl⟩
  exact ⟨_, rfl, (rows_after_waiting _).2.1 run⟩

/-- The result of the only submission is popped, and the wait and the table come before its row. -/
theorem onlyRow_missed : ¬ ∀ s, Reaches AnyStep {} s → Accounted s ∧ TableComplete s := by
  intro has
  have run : Reaches AnyStep {} _ := .single ⟨_, .register onlyRecord rfl nofun⟩
  have run := run.tail ⟨_, .wait rfl⟩
  have run := run.tail ⟨_, .pop "python-ok-1" onlyResult 1 rfl rfl⟩
  have run := run.tail ⟨_, .check rfl rfl⟩
  have run := run.tail ⟨_, .build rfl⟩
  exact absurd ((has _ run).2 _ rfl "python-ok-1" List.mem_cons_self) (by decide)

end Collecting

end Scrc
