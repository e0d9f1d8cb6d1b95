import Scrc.Lib.Interaction
import Scrc.Lib.Transition

/-!
# Programs in an environment

A program of `Scrc.Lib.Interaction` in an environment that has a state of its own: while a call is
pending the environment may move by itself, and in some of its states it may answer the call.  Time,
for one, passes that way.

* `Environment.Step`: the step relation of a program in its environment.
* `Environment.Finds`: what some run comes to, found by choosing its answers and moves.
* `Environment.restrict`: the environment with fewer moves.
* `Proc.Always`: at every moment of every run `P` holds, and at the return `Q`.  It is computed over
  the tree, call by call; `Always.sound` carries it along every run.
* `Proc.Always.of_invariant`, `Proc.Always.steady`: how it is proved for one call, and for a program
  whose calls all keep an invariant.
-/

namespace Interaction

open Transition

/-- `answers s c r s'`: in the state `s` the pending call `c` may be answered by `r`, which leaves
`s'`; `moves c s s'`: while `c` is pending, the environment may go from `s` to `s'`. -/
structure Environment (I : Interface) (σ : Type) where
  answers : σ → (c : I.Call) → I.Reply c → σ → Prop
  moves : I.Call → σ → σ → Prop

/-- A program, or what is left of it, and the state of its environment. -/
structure Config (I : Interface) (α σ : Type) where
  rest : Proc I α
  around : σ

variable {I : Interface} {α β σ : Type}

namespace Environment

inductive Step (E : Environment I σ) : Config I α σ → Config I α σ → Prop
  | answer {c : I.Call} {k : I.Reply c → Proc I α} {r : I.Reply c} {s s' : σ}
      (answered : E.answers s c r s') : Step E ⟨.call c k, s⟩ ⟨k r, s'⟩
  | move {c : I.Call} {k : I.Reply c → Proc I α} {s s' : σ} (moved : E.moves c s s') :
      Step E ⟨.call c k, s⟩ ⟨.call c k, s'⟩

/-- The environment with those of its moves only that satisfy `ok`. -/
def restrict (E : Environment I σ) (ok : I.Call → σ → σ → Prop) : Environment I σ where
  answers := E.answers
  moves c s s' := E.moves c s s' ∧ ok c s s'

variable {E : Environment I σ}

/-- The moves made while a call is pending. -/
theorem reaches_move {c : I.Call} {k : I.Reply c → Proc I α} {s s' : σ}
    (moves : Reaches (E.moves c) s s') :
    Reaches E.Step ⟨.call c k, s⟩ ⟨.call c k, s'⟩ :=
  moves.lift (fun s => (⟨.call c k, s⟩ : Config I α σ)) fun _ _ moved => .move moved

/-- Some run from `a` comes to a configuration that satisfies `Q`. -/
def Finds (E : Environment I σ) (a : Config I α σ) (Q : Config I α σ → Prop) : Prop :=
  ∃ b, Reaches E.Step a b ∧ Q b

theorem Finds.here {a : Config I α σ} {Q : Config I α σ → Prop} (post : Q a) : E.Finds a Q :=
  ⟨a, .refl, post⟩

/-- The pending call is answered by `r`. -/
theorem Finds.answer {c : I.Call} {k : I.Reply c → Proc I α} {s s' : σ} {Q : Config I α σ → Prop}
    (r : I.Reply c) (answered : E.answers s c r s') (rest : E.Finds ⟨k r, s'⟩ Q) :
    E.Finds ⟨.call c k, s⟩ Q := by
  obtain ⟨b, run, post⟩ := rest
  exact ⟨b, .head (.answer answered) run, post⟩

/-- The environment moves to `s'` first. -/
theorem Finds.move {c : I.Call} {k : I.Reply c → Proc I α} {s : σ} {Q : Config I α σ → Prop}
    (s' : σ) (moves : Reaches (E.moves c) s s') (rest : E.Finds ⟨.call c k, s'⟩ Q) :
    E.Finds ⟨.call c k, s⟩ Q := by
  obtain ⟨b, run, post⟩ := rest
  exact ⟨b, (reaches_move moves).trans run, post⟩

end Environment

/-! ## What holds all the time -/

/-- From `s` on, `P` holds at every moment, and a value is returned in a state as `Q` says. -/
def Proc.Always (E : Environment I σ) (P : σ → Prop) : Proc I α → σ → (α → σ → Prop) → Prop
  | .ret a, s, Q => P s ∧ Q a s
  | .call c k, s, Q => ∀ s', Reaches (E.moves c) s s' →
      P s' ∧ ∀ r s'', E.answers s' c r s'' → (k r).Always E P s'' Q

section Always

variable {E : Environment I σ} {P : σ → Prop} {s : σ}

theorem Proc.Always.now {p : Proc I α} {Q : α → σ → Prop} (always : p.Always E P s Q) : P s := by
  cases p with
  | ret a => exact always.1
  | call c k => exact (always s .refl).1

theorem Proc.Always.step {a b : Config I α σ} {Q : α → σ → Prop}
    (always : a.rest.Always E P a.around Q) (step : E.Step a b) : b.rest.Always E P b.around Q := by
  cases step with
  | answer answered => exact (always _ .refl).2 _ _ answered
  | move moved => exact fun s' later => always s' (.head moved later)

/-- **Soundness.**  Along every run `P` holds, and `Q` at the return. -/
theorem Proc.Always.sound {p p' : Proc I α} {s' : σ} {Q : α → σ → Prop}
    (always : p.Always E P s Q) (run : Reaches E.Step ⟨p, s⟩ ⟨p', s'⟩) :
    P s' ∧ ∀ a, p' = .ret a → Q a s' := by
  have later : p'.Always E P s' Q :=
    run.invariant (P := fun c : Config I α σ => c.rest.Always E P c.around Q)
      (fun _ _ before step => before.step step) always
  refine ⟨later.now, fun a returned => ?_⟩
  subst returned
  exact later.2

theorem Proc.Always.mono {p : Proc I α} {Q Q' : α → σ → Prop} (always : p.Always E P s Q)
    (imp : ∀ a s', P s' → Q a s' → Q' a s') : p.Always E P s Q' := by
  induction p generalizing s with
  | ret a => exact ⟨always.1, imp a s always.1 always.2⟩
  | call c k ih =>
      intro s' moves
      obtain ⟨here, later⟩ := always s' moves
      exact ⟨here, fun r s'' answered => ih r (later r s'' answered)⟩

theorem Proc.Always.bind {p : Proc I α} {f : α → Proc I β} {R : α → σ → Prop} {Q : β → σ → Prop}
    (first : p.Always E P s R) (second : ∀ a s', R a s' → (f a).Always E P s' Q) :
    (p >>= f).Always E P s Q := by
  induction p generalizing s with
  | ret a => exact second a s first.2
  | call c k ih =>
      intro s' moves
      obtain ⟨here, later⟩ := first s' moves
      exact ⟨here, fun r s'' answered => ih r (later r s'' answered)⟩

theorem Proc.Always.deferring {cleanup : Proc I Unit} {body : Proc I α} {Q R : α → σ → Prop}
    (first : body.Always E P s R)
    (last : ∀ a s', R a s' → cleanup.Always E P s' fun _ s'' => Q a s'') :
    (Proc.deferring cleanup body).Always E P s Q := by
  apply first.bind
  intro a s' mid
  have cleaned : cleanup.Always E P s' fun _ s'' => P s'' ∧ Q a s'' :=
    (last a s' mid).mono fun _ _ here post => ⟨here, post⟩
  exact cleaned.bind fun _ _ both => both

/-- One call: an invariant that the moves keep while it is pending. -/
theorem Proc.Always.of_invariant {c : I.Call} {k : I.Reply c → Proc I α} {Q : α → σ → Prop}
    (J : σ → Prop) (start : J s) (holds : ∀ s, J s → P s)
    (stable : ∀ s s', J s → E.moves c s s' → J s')
    (next : ∀ s r s', J s → E.answers s c r s' → (k r).Always E P s' Q) :
    (Proc.call c k).Always E P s Q := by
  intro s' moves
  have kept : J s' := moves.invariant stable start
  exact ⟨holds s' kept, fun r s'' answered => next s' r s'' kept answered⟩

/-- A program whose calls are all in `A`, while the moves and the answers of such calls keep `J`. -/
theorem Proc.Always.steady {A : I.Call → Prop} {J : σ → Prop} {R : α → Prop} {p : Proc I α}
    (only : p.Meets (Contract.calls A) () fun a _ => R a) (start : J s) (holds : ∀ s, J s → P s)
    (stable : ∀ c s s', A c → J s → E.moves c s s' → J s')
    (answered : ∀ c s r s', A c → J s → E.answers s c r s' → J s') :
    p.Always E P s fun a s' => R a ∧ J s' := by
  induction p generalizing s with
  | ret a => exact ⟨holds s start, only, start⟩
  | call c k ih =>
      refine .of_invariant J start holds (fun s s' => stable c s s' only.1) ?_
      intro s r s' kept reply
      exact ih r (only.2 r trivial) (answered c s r s' only.1 kept reply)

end Always

end Interaction
