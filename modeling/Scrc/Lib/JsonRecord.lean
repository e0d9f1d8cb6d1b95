import Mathlib.Data.List.Nodup
import Mathlib.Data.List.Perm.Basic
import Scrc.Lib.Json

/-!
# Records that are read from objects

A decoder that goes through the members of an object and puts each into the field of a record that
its key names.  The order of the members does not matter as long as no two of them name one field.

* `Value.Shuffled`: equal values, up to the order of the members of their objects.
* `Record`: the fields of a record, which are independent, and how each is read.
* `Record.read_perm`, `Record.read_shuffled`: what is read does not depend on the order.
-/

namespace Json

/-- Equal up to the order of members, whose keys are pairwise different for `fold`; objects inside
of others are looked into to this depth. -/
def Value.Shuffled {κ : Type} (fold : Bytes → κ) : Nat → Value → Value → Prop
  | 0, v, w => v = w
  | n + 1, v, w =>
      v = w ∨
      (∃ ms ns ms', v = .object ms ∧ w = .object ms' ∧ (ms.map fun m => fold m.1).Nodup ∧
        ms.Perm ns ∧ List.Forall₂ (fun m m' => m.1 = m'.1 ∧ m.2.Shuffled fold n m'.2) ns ms') ∨
      ∃ vs ws, v = .array vs ∧ w = .array ws ∧ List.Forall₂ (Shuffled fold n) vs ws

/-- A record whose fields are set one by one; `decode` has the old content of the field. -/
structure Record (σ : Type) where
  Field : Type
  Content : Field → Type
  get : (f : Field) → σ → Content f
  set : (f : Field) → σ → Content f → σ
  frame : ∀ {f g : Field} (s : σ) (x : Content f), f ≠ g → get g (set f s x) = get g s
  comm : ∀ {f g : Field} (s : σ) (x : Content f) (y : Content g), f ≠ g →
    set g (set f s x) y = set f (set g s y) x
  field : Bytes → Option Field
  decode : (f : Field) → Content f → Value → Option (Content f)

namespace Record

variable {σ : Type} (R : Record σ)

/-- A member that names no field is skipped. -/
def step (s : σ) (m : Bytes × Value) : Option σ :=
  match R.field m.1 with
  | none => some s
  | some f => (R.decode f (R.get f s) m.2).map (R.set f s)

def read (s : σ) (ms : List (Bytes × Value)) : Option σ := ms.foldlM R.step s

variable {R} {m m' : Bytes × Value} {ms ns : List (Bytes × Value)} {s : σ}

theorem step_unknown (unknown : R.field m.1 = none) : R.step s m = some s := by
  unfold step
  rw [unknown]

theorem step_field {f : R.Field} (named : R.field m.1 = some f) :
    R.step s m = (R.decode f (R.get f s) m.2).map (R.set f s) := by
  unfold step
  rw [named]

/-- Two members that name different fields, in either order. -/
theorem step_comm (apart : R.field m.1 = R.field m'.1 → R.field m.1 = none) (s : σ) :
    ((R.step s m).bind fun s => R.step s m') = (R.step s m').bind fun s => R.step s m := by
  cases first : R.field m.1 with
  | none => simp only [step_unknown first, Option.bind_some, Option.bind_fun_some]
  | some f =>
      cases second : R.field m'.1 with
      | none => simp only [step_unknown second, Option.bind_some, Option.bind_fun_some]
      | some g =>
          have different : f ≠ g := fun same => by
            rw [first, second, same] at apart
            cases apart rfl
          simp only [step_field first, step_field second, Option.bind_map, Function.comp_def,
            R.frame _ _ different, R.frame _ _ different.symm]
          cases R.decode f (R.get f s) m.2 with
          | none => cases R.decode g (R.get g s) m'.2 <;> rfl
          | some x =>
              cases R.decode g (R.get g s) m'.2 with
              | none => rfl
              | some y => exact congrArg some (R.comm s x y different)

theorem read_eq_foldl (s : Option σ) (ms : List (Bytes × Value)) :
    (s.bind fun s => R.read s ms) = ms.foldl (fun s m => s.bind fun s => R.step s m) s := by
  induction ms generalizing s with
  | nil => exact Option.bind_fun_some s
  | cons m ms ih =>
      rw [List.foldl_cons, ← ih]
      cases s with
      | none => rfl
      | some s => rfl

/-- **Order.**  Members that name pairwise different fields are read alike in every order. -/
theorem read_perm (perm : ms.Perm ns)
    (apart : ∀ m ∈ ms, ∀ m' ∈ ms, m ≠ m' → R.field m.1 = R.field m'.1 → R.field m.1 = none)
    (s : σ) : R.read s ms = R.read s ns := by
  have folds := fun ms : List (Bytes × Value) => read_eq_foldl (R := R) (some s) ms
  rw [← Option.bind_some s (R.read · ms), ← Option.bind_some s (R.read · ns), folds, folds]
  refine perm.foldl_eq' (fun m member m' member' s => ?_) (some s)
  by_cases same : m = m'
  · rw [same]
  · rw [Option.bind_assoc, Option.bind_assoc]
    exact Option.bind_congr fun s _ => step_comm (apart m member m' member' same) s

/-- The fields read values alike that are related. -/
def Respects (R : Record σ) (rel : Value → Value → Prop) : Prop :=
  ∀ f x v w, rel v w → R.decode f x v = R.decode f x w

theorem read_congr {rel : Value → Value → Prop} (respects : R.Respects rel)
    (related : List.Forall₂ (fun m m' => m.1 = m'.1 ∧ rel m.2 m'.2) ms ns) (s : σ) :
    R.read s ms = R.read s ns := by
  induction related generalizing s with
  | nil => rfl
  | @cons m m' ms ns head _ ih =>
      have same : R.step s m = R.step s m' := by
        unfold step
        rw [head.1]
        cases R.field m'.1 with
        | none => rfl
        | some f => exact congrArg (Option.map (R.set f s)) (respects f _ _ _ head.2)
      unfold read at *
      rw [List.foldlM_cons, List.foldlM_cons, same]
      exact Option.bind_congr fun s _ => ih s

/-- **Order, and values inside.**  An object is read like one with its members in another order,
and with values that its fields read alike. -/
theorem read_shuffled {κ : Type} {fold : Bytes → κ} {rel : Value → Value → Prop}
    {ms' : List (Bytes × Value)}
    (folded : ∀ k k', R.field k = R.field k' → R.field k ≠ none → fold k = fold k')
    (respects : R.Respects rel) (distinct : (ms.map fun m => fold m.1).Nodup) (perm : ms.Perm ns)
    (related : List.Forall₂ (fun m m' => m.1 = m'.1 ∧ rel m.2 m'.2) ns ms') (s : σ) :
    R.read s ms = R.read s ms' := by
  refine (read_perm perm (fun m member m' member' different named => ?_) s).trans
    (read_congr respects related s)
  by_contra known
  exact different (List.inj_on_of_nodup_map distinct member member' (folded _ _ named known))

/-- What a decoder that reports errors reads. -/
theorem read_toOption {ε : Type} {f : σ → Bytes × Value → Except ε σ}
    (same : ∀ s m, (f s m).toOption = R.step s m) (s : σ) (ms : List (Bytes × Value)) :
    (ms.foldlM f s).toOption = R.read s ms := by
  induction ms generalizing s with
  | nil => rfl
  | cons m ms ih =>
      unfold read at *
      rw [List.foldlM_cons, List.foldlM_cons, ← same]
      cases f s m with
      | error err => rfl
      | ok s' => exact ih s'

end Record

end Json
