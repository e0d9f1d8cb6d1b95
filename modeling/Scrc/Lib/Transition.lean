import Mathlib.Algebra.GroupWithZero.Nat
import Mathlib.Data.List.Perm.Basic
import Mathlib.Logic.Relation
import Mathlib.Order.Basic

/-!
# Step relations, and pools of workers

Rules for systems given by a step relation, and for the part of such a state that is a pool: a
list of workers in which a step changes one entry.

* `Reaches.invariant`: what every step preserves holds along every run.
* `exists_final`: when a measure decreases with every step, every run can be taken to its end.
* `countP_set_add`, `sum_map_set_add`, `perm_filterMap_set` with `_gain` and `_lose`: what a pool
  contributes when one worker moves.
-/

namespace Transition

variable {σ τ : Type}

/-- The states that a run from `s` reaches. -/
abbrev Reaches (step : σ → σ → Prop) : σ → σ → Prop := Relation.ReflTransGen step

section Runs

variable {step : σ → σ → Prop} {s s' : σ}

/-- What every step preserves holds along every run. -/
theorem Reaches.invariant {P : σ → Prop} (keeps : ∀ s s', P s → step s s' → P s')
    (run : Reaches step s s') (start : P s) : P s' := by
  induction run with
  | refl => exact start
  | tail _ last ih => exact keeps _ _ ih last

/-- No step leaves `s`. -/
def Final (step : σ → σ → Prop) (s : σ) : Prop := ∀ s', ¬ step s s'

/-- **Termination by a measure.**  When every step decreases `μ`, a final state is reached. -/
theorem exists_final (μ : σ → Nat) (decreases : ∀ s s', step s s' → μ s' < μ s) (s : σ) :
    ∃ s', Reaches step s s' ∧ Final step s' := by
  induction bound : μ s using Nat.strongRecOn generalizing s with
  | _ n ih =>
      by_cases final : Final step s
      · exact ⟨s, .refl, final⟩
      · unfold Final at final
        push Not at final
        obtain ⟨next, first⟩ := final
        have less : μ next < n := by
          rw [← bound]
          exact decreases s next first
        obtain ⟨last, rest, final⟩ := ih _ less next rfl
        exact ⟨last, .head first rest, final⟩

end Runs

/-! ## Pools -/

section Pool

variable {α β : Type} {l : List α} {i : Nat} {a b : α}

theorem perm_of_getElem? (here : l[i]? = some a) : l.Perm (a :: l.eraseIdx i) := by
  obtain ⟨inside, rfl⟩ := List.getElem?_eq_some_iff.mp here
  exact (List.getElem_cons_eraseIdx_perm inside).symm

theorem set_perm_of_getElem? (here : l[i]? = some a) : (l.set i b).Perm (b :: l.eraseIdx i) := by
  obtain ⟨inside, rfl⟩ := List.getElem?_eq_some_iff.mp here
  exact List.set_perm_cons_eraseIdx inside b

/-- How many workers satisfy `p`, when one moves from `a` to `b`. -/
theorem countP_set_add (p : α → Bool) (here : l[i]? = some a) :
    (l.set i b).countP p + (p a).toNat = l.countP p + (p b).toNat := by
  have count : ∀ c : α, (c :: l.eraseIdx i).countP p = (l.eraseIdx i).countP p + (p c).toNat := by
    intro c
    rw [List.countP_cons]
    cases p c <;> rfl
  rw [(set_perm_of_getElem? here).countP_eq p, (perm_of_getElem? here).countP_eq p, count, count]
  omega

/-- What the workers weigh together, when one moves from `a` to `b`. -/
theorem sum_map_set_add (f : α → Nat) (here : l[i]? = some a) :
    ((l.set i b).map f).sum + f a = (l.map f).sum + f b := by
  rw [((set_perm_of_getElem? here).map f).sum_nat, ((perm_of_getElem? here).map f).sum_nat,
    List.map_cons, List.map_cons, List.sum_cons, List.sum_cons]
  omega

/-- A move that keeps what `f` reads of a worker. -/
theorem map_set_same (f : α → β) (here : l[i]? = some a) (same : f b = f a) :
    (l.set i b).map f = l.map f := by
  obtain ⟨inside, rfl⟩ := List.getElem?_eq_some_iff.mp here
  have there : i < (l.map f).length := by rwa [List.length_map]
  rw [List.map_set, same, ← List.getElem_map f (h := there)]
  exact List.set_getElem_self there

theorem filterMap_cons_toList (f : α → Option β) (c : α) (rest : List α) :
    (c :: rest).filterMap f = (f c).toList ++ rest.filterMap f := by
  rw [List.filterMap_cons]
  cases f c with
  | none => rfl
  | some x => rfl

/-- A move that does not change what a worker has to show keeps a record of it. -/
theorem perm_filterMap_set (f : α → Option β) (here : l[i]? = some a) (same : f b = f a)
    {record : List β} (kept : record.Perm (l.filterMap f)) :
    record.Perm ((l.set i b).filterMap f) := by
  have before := (perm_of_getElem? here).filterMap f
  have after := (set_perm_of_getElem? (b := b) here).filterMap f
  rw [filterMap_cons_toList] at before after
  rw [same] at after
  exact kept.trans (before.trans after.symm)

/-- A move by which a worker that had nothing to show has `x` to show adds it to a record. -/
theorem perm_filterMap_set_gain (f : α → Option β) (here : l[i]? = some a) {x : β}
    (none : f a = none) (gain : f b = some x) {record : List β}
    (kept : record.Perm (l.filterMap f)) :
    (record ++ [x]).Perm ((l.set i b).filterMap f) := by
  have before := (perm_of_getElem? here).filterMap f
  have after := (set_perm_of_getElem? (b := b) here).filterMap f
  rw [filterMap_cons_toList] at before after
  rw [none] at before
  rw [gain] at after
  refine (List.perm_append_singleton x record).trans (List.Perm.trans ?_ after.symm)
  exact (kept.trans before).cons x

/-- A move by which a worker that had `x` to show has nothing to show any more. -/
theorem perm_filterMap_set_lose (f : α → Option β) (here : l[i]? = some a) {x : β}
    (shown : f a = some x) (none : f b = none) :
    (l.filterMap f).Perm (x :: (l.set i b).filterMap f) := by
  have before := (perm_of_getElem? here).filterMap f
  have after := (set_perm_of_getElem? (b := b) here).filterMap f
  rw [filterMap_cons_toList] at before after
  rw [shown] at before
  rw [none] at after
  exact before.trans (after.symm.cons x)

end Pool

end Transition
