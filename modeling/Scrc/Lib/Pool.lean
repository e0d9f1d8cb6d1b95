import Scrc.Lib.Interaction
import Scrc.Lib.Transition

/-!
# Pools of programs

Programs of `Scrc.Lib.Interaction` that run side by side and share a state: a step starts a thread,
or answers the pending call of one thread.  Every thread carries a tag, under which it was started.

* `Pool.Step`: the step relation of a pool, by what may be started and how calls are answered.
* `Discipline`: a contract for each thread, and an invariant that ties the shared state to where the
  threads are in their contracts.
* `Discipline.sound_of_reaches`: a discipline that both kinds of step keep holds along every run.
* `interleaved`: the run of given threads that take turns, against one fixed way of answering.
-/

namespace Interaction

open Transition

/-- The threads, each with its tag and what is left of it, and the state they share. -/
structure Pool (I : Interface) (τ α σ : Type) where
  threads : List (τ × Proc I α)
  shared : σ

/-- `starts threads t p`: beside these threads `p` may be started under the tag `t`.
`answers t s c r s'`: a thread of tag `t` may get the answer `r` to `c`, which leaves `s'`. -/
structure System (I : Interface) (τ α σ : Type) where
  starts : List (τ × Proc I α) → τ → Proc I α → Prop
  answers : τ → σ → (c : I.Call) → I.Reply c → σ → Prop

variable {I : Interface} {τ α σ S : Type}

inductive Pool.Step (sys : System I τ α σ) : Pool I τ α σ → Pool I τ α σ → Prop
  | start {threads : List (τ × Proc I α)} {s : σ} {t : τ} {p : Proc I α}
      (started : sys.starts threads t p) : Step sys ⟨threads, s⟩ ⟨threads ++ [(t, p)], s⟩
  | answer {threads : List (τ × Proc I α)} {s s' : σ} {i : Nat} {t : τ} {c : I.Call}
      {k : I.Reply c → Proc I α} {r : I.Reply c} (here : threads[i]? = some (t, .call c k))
      (answered : sys.answers t s c r s') : Step sys ⟨threads, s⟩ ⟨threads.set i (t, k r), s'⟩

/-- A thread with its place in its contract. -/
structure Tracked (I : Interface) (τ α S : Type) where
  tag : τ
  rest : Proc I α
  state : S

/-- What each thread keeps to and returns with, by its tag, and an invariant of the shared state
and the places of all threads. -/
structure Discipline (I : Interface) (τ α σ S : Type) where
  contract : τ → Contract I S
  post : τ → α → S → Prop
  inv : σ → List (τ × S) → Prop

namespace Discipline

variable (D : Discipline I τ α σ S)

/-- The thread meets its contract from its place. -/
def Follows (m : Tracked I τ α S) : Prop := m.rest.Meets (D.contract m.tag) m.state (D.post m.tag)

/-- Every thread has a place from which it meets its contract, and the invariant holds. -/
structure Sound (pool : Pool I τ α σ) (members : List (Tracked I τ α S)) : Prop where
  threads : pool.threads = members.map fun m => (m.tag, m.rest)
  follows : ∀ m ∈ members, D.Follows m
  inv : D.inv pool.shared (members.map fun m => (m.tag, m.state))

/-- What a start has to establish: the new thread meets its contract from some place. -/
def KeptByStarts (sys : System I τ α σ) : Prop :=
  ∀ pool members t p, D.Sound pool members → sys.starts pool.threads t p →
    ∃ q, p.Meets (D.contract t) q (D.post t) ∧
      D.inv pool.shared (members.map (fun m => (m.tag, m.state)) ++ [(t, q)])

/-- What an answer has to establish, for a call that its thread may make. -/
def KeptByAnswers (sys : System I τ α σ) : Prop :=
  ∀ s places i t q c r s', D.inv s places → places[i]? = some (t, q) → (D.contract t).obliges q c →
    sys.answers t s c r s' →
    (D.contract t).allows q c r ∧ D.inv s' (places.set i (t, (D.contract t).next q c r))

variable {D} {sys : System I τ α σ} {pool pool' : Pool I τ α σ} {members : List (Tracked I τ α S)}

/-- A pending call is one that its thread may make. -/
theorem Sound.obliges (sound : D.Sound pool members) {t : τ} {c : I.Call} {k : I.Reply c → Proc I α}
    (pending : (t, .call c k) ∈ pool.threads) :
    ∃ q, (t, q) ∈ members.map (fun m => (m.tag, m.state)) ∧ (D.contract t).obliges q c := by
  rw [sound.threads] at pending
  obtain ⟨⟨tag, rest, q⟩, member, same⟩ := List.mem_map.mp pending
  cases same
  exact ⟨q, List.mem_map.mpr ⟨_, member, rfl⟩, (sound.follows _ member).1⟩

theorem Sound.step (starts : D.KeptByStarts sys) (answers : D.KeptByAnswers sys)
    (sound : D.Sound pool members) (step : pool.Step sys pool') :
    ∃ members', D.Sound pool' members' := by
  cases step with
  | @start threads s t p started =>
      obtain ⟨q, meets, inv⟩ := starts _ members _ _ sound started
      refine ⟨members ++ [⟨t, p, q⟩], ?_, ?_, ?_⟩
      · rw [List.map_append, ← sound.threads]
        rfl
      · intro m member
        rcases List.mem_append.mp member with before | new
        · exact sound.follows m before
        · rw [List.mem_singleton.mp new]
          exact meets
      · rw [List.map_append]
        exact inv
  | @answer threads s s' i t c k r here answered =>
      have threads_eq := sound.threads
      have place := here
      simp only at threads_eq
      rw [threads_eq, List.getElem?_map] at place
      obtain ⟨⟨tag, rest, q⟩, inside, same⟩ := Option.map_eq_some_iff.mp place
      cases same
      have follows := sound.follows _ (List.mem_of_getElem? inside)
      have here : (members.map fun m => (m.tag, m.state))[i]? = some (tag, q) := by
        rw [List.getElem?_map, inside]
        rfl
      obtain ⟨allowed, inv⟩ := answers _ _ _ _ _ _ _ _ sound.inv here follows.1 answered
      refine ⟨members.set i ⟨tag, k r, (D.contract tag).next q c r⟩, ?_, ?_, ?_⟩
      · rw [List.map_set, ← threads_eq]
      · intro m member
        rcases List.mem_or_eq_of_mem_set member with before | rfl
        · exact sound.follows m before
        · exact follows.2 r allowed
      · rw [List.map_set]
        exact inv

/-- **Soundness.**  A discipline that starts and answers keep holds in every pool reached. -/
theorem sound_of_reaches (starts : D.KeptByStarts sys) (answers : D.KeptByAnswers sys)
    (sound : D.Sound pool members) (run : Reaches (Pool.Step sys) pool pool') :
    ∃ members', D.Sound pool' members' :=
  run.invariant (P := fun pool => ∃ members, D.Sound pool members)
    (fun _ _ before step => before.elim fun _ sound => sound.step starts answers step)
    ⟨members, sound⟩

end Discipline

/-! ## Runs against fixed answers -/

/-- The threads whose numbers are given take turns, and `h`, which sees the calls and replies so
far, answers them; what is left of the threads, and the calls and replies after that. -/
def interleaved (h : List (Event I) → (c : I.Call) → I.Reply c) :
    List Nat → List (τ × Proc I α) → List (Event I) → List (τ × Proc I α) × List (Event I)
  | [], threads, past => (threads, past)
  | i :: turns, threads, past =>
      match threads[i]? with
      | some (t, .call c k) =>
          interleaved h turns (threads.set i (t, k (h past c))) (past ++ [⟨c, h past c⟩])
      | _ => interleaved h turns threads past

/-- Answers that are possible in the state after the calls so far make a run of the pool. -/
theorem reaches_interleaved {h : List (Event I) → (c : I.Call) → I.Reply c}
    {state : List (Event I) → σ} {P : List (Event I) → Prop}
    (possible : ∀ t past c, P past →
      sys.answers t (state past) c (h past c) (state (past ++ [⟨c, h past c⟩])))
    (kept : ∀ past c, P past → P (past ++ [⟨c, h past c⟩])) (turns : List Nat)
    {threads : List (τ × Proc I α)} {past : List (Event I)} (start : P past) :
    P (interleaved h turns threads past).2 ∧
      Reaches (Pool.Step sys) ⟨threads, state past⟩
        ⟨(interleaved h turns threads past).1, state (interleaved h turns threads past).2⟩ := by
  induction turns generalizing threads past with
  | nil => exact ⟨start, .refl⟩
  | cons i turns ih =>
      unfold interleaved
      split
      · next t c k here =>
          obtain ⟨holds, run⟩ := ih (kept past c start)
          exact ⟨holds, .head (.answer here (possible t past c start)) run⟩
      · exact ih start

namespace Pool

variable (pool : Pool I τ α σ)

/-- The calls that are pending. -/
def pending : List I.Call :=
  pool.threads.filterMap fun
    | (_, .call c _) => some c
    | (_, .ret _) => none

/-- What has been returned, with the tags of the threads. -/
def returned : List (τ × α) :=
  pool.threads.filterMap fun
    | (t, .ret a) => some (t, a)
    | (_, .call _ _) => none

theorem mem_returned {pool : Pool I τ α σ} {t : τ} {a : α} (member : (t, a) ∈ pool.returned) :
    (t, .ret a) ∈ pool.threads := by
  obtain ⟨⟨t', p⟩, there, same⟩ := List.mem_filterMap.mp member
  cases p with
  | ret a' =>
      cases same
      exact there
  | call c k => cases same

end Pool

end Interaction
