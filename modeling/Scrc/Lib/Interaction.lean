import Mathlib.Logic.Basic

/-!
# Programs that call the outside world

A program that talks to services it does not contain is a tree: it returns, or it makes a call
and goes on with the reply.  `Proc I α` is that tree over an `Interface` (the calls, and the
type of the reply to each), with no meaning attached to the calls.

* `Exec p t a`: the program `p` makes exactly the calls of `t`, gets the replies of `t`, and
  returns `a`.  Nothing restricts the replies, so a statement about every `Exec` is a statement
  about every behaviour of the outside world.
* `Proc.LeadsTo`: what is left of a program in the middle of an execution.
* `Contract` and `Proc.Meets`: an automaton over the calls that says which call the program may
  make (`obliges`) and which reply it may count on (`allows`).  `Meets` is computed over the tree,
  composes along `bind` (`meets_bind`), and is sound for every execution (`Meets.sound`).
* `Contract.both`: two contracts at once (`Meets.both`).
* `Proc.Returns`: the case without obligations, a postcondition whatever is replied.
* `Proc.Can`: the dual, what a program does for some allowed replies; every such behaviour is an
  execution (`Can.realize`).
* `Proc.Alike`: two programs that make the same calls, whatever is replied, and return related
  values; they have the same traces (`Alike.sameTraces`).
* `Proc.answered`: the run against one fixed way of answering, an execution that can be evaluated.
* `Shows`: what an execution shows of its events, which composes along `bind` (`shows_bind`); calls
  that show nothing add nothing (`Meets.shows_nil`).
* `Interface.plus`: the calls of two interfaces; a program over the first is one over both
  (`Proc.inl`), with the same executions (`exec_inl`), which a contract over both allows as its
  part for the first does (`Contract.allowed_left`).

Nothing here names a particular program or service.
-/

namespace Interaction

/-- What a program can ask for: the calls, and the type of the reply to each. -/
structure Interface where
  Call : Type
  Reply : Call → Type

/-- A call together with the reply it got. -/
structure Event (I : Interface) where
  call : I.Call
  reply : I.Reply call

/-- A program over `I`: it returns a value, or makes a call and continues with the reply. -/
inductive Proc (I : Interface) (α : Type) : Type where
  | ret (a : α)
  | call (c : I.Call) (k : I.Reply c → Proc I α)

variable {I : Interface} {α β S : Type}

namespace Proc

def bind : Proc I α → (α → Proc I β) → Proc I β
  | .ret a, f => f a
  | .call c k, f => .call c fun r => (k r).bind f

instance : Monad (Proc I) where
  pure := .ret
  bind := Proc.bind

/-- Make one call and return its reply. -/
def ask (c : I.Call) : Proc I (I.Reply c) := .call c .ret

/-- Run `body`, then `cleanup`, and return what `body` returned. -/
def deferring (cleanup : Proc I Unit) (body : Proc I α) : Proc I α := do
  let a ← body
  cleanup
  return a

@[simp] theorem pure_eq (a : α) : (pure a : Proc I α) = .ret a := rfl

@[simp] theorem ret_bind (a : α) (f : α → Proc I β) : (Proc.ret a >>= f) = f a := rfl

@[simp] theorem call_bind (c : I.Call) (k : I.Reply c → Proc I α) (f : α → Proc I β) :
    (Proc.call c k >>= f) = .call c fun r => k r >>= f := rfl

/-- With the next two, programs are a monad.  The induction is on the calls that the first program
makes. -/
theorem bind_ret (p : Proc I α) : (p >>= Proc.ret) = p := by
  induction p with
  | ret a => rfl
  | call c k ih => rw [call_bind]; exact congrArg _ (funext ih)

theorem bind_assoc {γ : Type} (p : Proc I α) (f : α → Proc I β) (g : β → Proc I γ) :
    ((p >>= f) >>= g) = (p >>= fun a => f a >>= g) := by
  induction p with
  | ret a => rfl
  | call c k ih => simp only [call_bind]; exact congrArg _ (funext ih)

instance : LawfulMonad (Proc I) :=
  LawfulMonad.mk' (Proc I) bind_ret (fun _ _ => rfl) bind_assoc

end Proc

/-! ## Executions -/

/-- `Exec p t a`: the program `p` runs through the calls and replies of `t` and returns `a`. -/
inductive Exec : Proc I α → List (Event I) → α → Prop
  | ret (a : α) : Exec (.ret a) [] a
  | call {c : I.Call} {k : I.Reply c → Proc I α} {r : I.Reply c} {t : List (Event I)} {a : α} :
      Exec (k r) t a → Exec (.call c k) (⟨c, r⟩ :: t) a

/-- A program that returns makes no call, and returns this value only. -/
@[simp] theorem exec_ret {a b : α} {t : List (Event I)} :
    Exec (.ret a) t b ↔ t = [] ∧ b = a := by
  constructor
  · intro h
    cases h
    exact ⟨rfl, rfl⟩
  · rintro ⟨rfl, rfl⟩
    exact .ret _

/-- An execution of a program that asks is one reply and an execution of what comes after it. -/
@[simp] theorem exec_call {c : I.Call} {k : I.Reply c → Proc I α} {t : List (Event I)} {a : α} :
    Exec (.call c k) t a ↔ ∃ r t', t = ⟨c, r⟩ :: t' ∧ Exec (k r) t' a := by
  constructor
  · intro h
    cases h with
    | call rest => exact ⟨_, _, rfl, rest⟩
  · rintro ⟨r, t', rfl, rest⟩
    exact .call rest

/-- A sequence runs through the first part, and then through the second. -/
theorem exec_bind {p : Proc I α} {f : α → Proc I β} {t : List (Event I)} {b : β} :
    Exec (p >>= f) t b ↔ ∃ t₁ t₂ a, t = t₁ ++ t₂ ∧ Exec p t₁ a ∧ Exec (f a) t₂ b := by
  induction p generalizing t with
  | ret a =>
      constructor
      · intro run
        exact ⟨[], t, a, rfl, .ret a, run⟩
      · rintro ⟨t₁, t₂, a', rfl, first, second⟩
        obtain ⟨rfl, rfl⟩ := exec_ret.mp first
        exact second
  | call c k ih =>
      constructor
      · intro run
        obtain ⟨r, t', rfl, rest⟩ := exec_call.mp run
        obtain ⟨t₁, t₂, a, rfl, first, second⟩ := (ih r).mp rest
        exact ⟨_, t₂, a, rfl, .call first, second⟩
      · rintro ⟨t₁, t₂, a, rfl, first, second⟩
        obtain ⟨r, t', rfl, rest⟩ := exec_call.mp first
        exact .call ((ih r).mpr ⟨t', t₂, a, rfl, rest, second⟩)

/-- The program returns `a` in some execution whose events show `os`, where `f` says what an event
shows. -/
def Shows {O : Type} (f : Event I → Option O) (p : Proc I α) (os : List O) (a : α) : Prop :=
  ∃ t, Exec p t a ∧ t.filterMap f = os

section Shows

variable {O : Type} {f : Event I → Option O} {os : List O}

/-- The same for what an execution shows. -/
@[simp] theorem shows_ret {a b : α} :
    Shows f (.ret a) os b ↔ os = [] ∧ b = a := by
  constructor
  · rintro ⟨t, run, rfl⟩
    obtain ⟨rfl, rfl⟩ := exec_ret.mp run
    exact ⟨rfl, rfl⟩
  · rintro ⟨rfl, rfl⟩
    exact ⟨[], .ret _, rfl⟩

theorem filterMap_event (e : Event I) (t : List (Event I)) :
    (e :: t).filterMap f = (f e).toList ++ t.filterMap f := by
  rw [List.filterMap_cons]
  cases f e <;> rfl

/-- A call shows what its event shows, and then what comes after it shows. -/
@[simp] theorem shows_call {c : I.Call} {k : I.Reply c → Proc I α} {a : α} :
    Shows f (.call c k) os a ↔
      ∃ r os', os = (f ⟨c, r⟩).toList ++ os' ∧ Shows f (k r) os' a := by
  constructor
  · rintro ⟨t, run, rfl⟩
    obtain ⟨r, t', rfl, rest⟩ := exec_call.mp run
    exact ⟨r, _, filterMap_event _ t', t', rest, rfl⟩
  · rintro ⟨r, _, rfl, t', rest, rfl⟩
    exact ⟨⟨c, r⟩ :: t', .call rest, filterMap_event _ t'⟩

/-- A sequence shows what its parts show. -/
theorem shows_bind {p : Proc I α} {g : α → Proc I β} {b : β} :
    Shows f (p >>= g) os b ↔
      ∃ os₁ os₂ a, os = os₁ ++ os₂ ∧ Shows f p os₁ a ∧ Shows f (g a) os₂ b := by
  constructor
  · rintro ⟨t, run, rfl⟩
    obtain ⟨t₁, t₂, a, rfl, first, second⟩ := exec_bind.mp run
    exact ⟨_, _, a, List.filterMap_append, ⟨t₁, first, rfl⟩, t₂, second, rfl⟩
  · rintro ⟨_, _, a, rfl, ⟨t₁, first, rfl⟩, t₂, second, rfl⟩
    exact ⟨t₁ ++ t₂, exec_bind.mpr ⟨t₁, t₂, a, rfl, first, second⟩, List.filterMap_append⟩

end Shows

/-- After some calls that `p` makes, with their replies, `q` is left of it. -/
def Proc.LeadsTo (p q : Proc I α) : Prop := ∃ t, ∀ t' a, Exec q t' a → Exec p (t ++ t') a

theorem Proc.LeadsTo.refl (p : Proc I α) : p.LeadsTo p := ⟨[], fun _ _ run => run⟩

/-- Whatever is replied, what comes after a call is led to. -/
theorem Proc.LeadsTo.call {p : Proc I α} {c : I.Call} {k : I.Reply c → Proc I α}
    (leads : p.LeadsTo (.call c k)) (r : I.Reply c) : p.LeadsTo (k r) := by
  obtain ⟨t, before⟩ := leads
  refine ⟨t ++ [⟨c, r⟩], fun t' a rest => ?_⟩
  rw [List.append_assoc]
  exact before _ a (.call rest)

theorem Proc.LeadsTo.trans {p q q' : Proc I α} (first : p.LeadsTo q) (second : q.LeadsTo q') :
    p.LeadsTo q' := by
  obtain ⟨t₁, before₁⟩ := first
  obtain ⟨t₂, before₂⟩ := second
  refine ⟨t₁ ++ t₂, fun t a run => ?_⟩
  rw [List.append_assoc]
  exact before₁ _ a (before₂ t a run)

/-- The first part of a sequence runs through. -/
theorem Proc.LeadsTo.bind {p : Proc I α} {f : α → Proc I β} {t : List (Event I)} {a : α}
    (first : Exec p t a) : (p >>= f).LeadsTo (f a) :=
  ⟨t, fun t' _ rest => exec_bind.mpr ⟨t, t', a, rfl, first, rest⟩⟩

/-- A program that leads to a return has an execution that ends there. -/
theorem Proc.LeadsTo.exec {p : Proc I α} {a : α} (leads : p.LeadsTo (.ret a)) : ∃ t, Exec p t a := by
  obtain ⟨t, before⟩ := leads
  exact ⟨_, before [] a (.ret a)⟩

/-! ## Contracts -/

/-- An automaton over calls and replies.  In state `s` the program owes `obliges s c` when it
makes the call `c`, and may count on `allows s c r` for the reply. -/
structure Contract (I : Interface) (S : Type) where
  obliges : S → I.Call → Prop
  allows : S → (c : I.Call) → I.Reply c → Prop
  next : S → (c : I.Call) → I.Reply c → S

/-- The contract without state that asks nothing and only restricts the replies. -/
def Contract.replies (allows : (c : I.Call) → I.Reply c → Prop) : Contract I Unit where
  obliges _ _ := True
  allows _ := allows
  next _ _ _ := ()

/-- The contract without state that allows every reply and permits the calls in `A` only. -/
def Contract.calls (A : I.Call → Prop) : Contract I Unit where
  obliges _ := A
  allows _ _ _ := True
  next _ _ _ := ()

namespace Contract

variable (C : Contract I S)

/-- The state the automaton is in after a trace. -/
def after : S → List (Event I) → S
  | s, [] => s
  | s, e :: t => after (C.next s e.call e.reply) t

/-- Every reply of the trace is one the program may count on. -/
def Allowed : S → List (Event I) → Prop
  | _, [] => True
  | s, e :: t => C.allows s e.call e.reply ∧ Allowed (C.next s e.call e.reply) t

/-- Every call of the trace is one the program may make. -/
def Obeyed : S → List (Event I) → Prop
  | _, [] => True
  | s, e :: t => C.obliges s e.call ∧ Obeyed (C.next s e.call e.reply) t

/-- The state of a contract after two traces is that of the second after the first. -/
theorem after_append {s : S} {t₁ t₂ : List (Event I)} :
    C.after s (t₁ ++ t₂) = C.after (C.after s t₁) t₂ := by
  induction t₁ generalizing s with
  | nil => rfl
  | cons e t₁ ih => exact ih

/-- Replies are allowed along two traces, when those of the second are so in the state after the
first. -/
theorem allowed_append {s : S} {t₁ t₂ : List (Event I)} :
    C.Allowed s (t₁ ++ t₂) ↔ C.Allowed s t₁ ∧ C.Allowed (C.after s t₁) t₂ := by
  induction t₁ generalizing s with
  | nil => exact ⟨fun allowed => ⟨trivial, allowed⟩, And.right⟩
  | cons e t₁ ih => exact (and_congr_right fun _ => ih).trans and_assoc.symm

/-- A contract that allows more replies, and leads to the same states, allows more traces. -/
theorem Allowed.mono {C C' : Contract I S} {s : S} {t : List (Event I)}
    (allowed : C.Allowed s t) (wider : ∀ s c r, C.allows s c r → C'.allows s c r)
    (next : ∀ s c r, C'.next s c r = C.next s c r) : C'.Allowed s t := by
  induction t generalizing s with
  | nil => trivial
  | cons e t ih =>
      refine ⟨wider s e.call e.reply allowed.1, ?_⟩
      rw [next]
      exact ih allowed.2

/-- A contract that only limits single replies allows a trace, when each of its replies is in order.
-/
theorem allowed_replies {allows : (c : I.Call) → I.Reply c → Prop} {t : List (Event I)}
    (h : ∀ e ∈ t, allows e.call e.reply) : (Contract.replies allows).Allowed () t := by
  induction t with
  | nil => trivial
  | cons e t ih =>
      exact ⟨h e List.mem_cons_self, ih fun e' he' => h e' (List.mem_cons_of_mem _ he')⟩

end Contract

/-- From state `s` the program keeps to the contract and, whatever allowed replies it gets,
returns a value and reaches a state that satisfy `Q`. -/
def Proc.Meets (C : Contract I S) : Proc I α → S → (α → S → Prop) → Prop
  | .ret a, s, Q => Q a s
  | .call c k, s, Q =>
      C.obliges s c ∧ ∀ r, C.allows s c r → (k r).Meets C (C.next s c r) Q

section Meets

variable {C : Contract I S} {s : S}

@[simp] theorem meets_ret {a : α} {Q : α → S → Prop} :
    (Proc.ret a : Proc I α).Meets C s Q ↔ Q a s := Iff.rfl

/-- At a call the contract must oblige it, and whatever reply it allows, the rest must meet it from
the next state on. -/
@[simp] theorem meets_call {c : I.Call} {k : I.Reply c → Proc I α} {Q : α → S → Prop} :
    (Proc.call c k).Meets C s Q ↔
      C.obliges s c ∧ ∀ r, C.allows s c r → (k r).Meets C (C.next s c r) Q := Iff.rfl

/-- The rule of sequence: what holds between the two programs is the postcondition of the first.  It
holds in both directions. -/
theorem meets_bind {p : Proc I α} {f : α → Proc I β} {Q : β → S → Prop} :
    (p >>= f).Meets C s Q ↔ p.Meets C s fun a s' => (f a).Meets C s' Q := by
  induction p generalizing s with
  | ret a => rfl
  | call c k ih =>
      simp only [Proc.call_bind, meets_call]
      exact and_congr_right fun _ => forall_congr' fun r => imp_congr_right fun _ => ih r

/-- The rule of consequence, for the postcondition. -/
theorem Proc.Meets.mono {p : Proc I α} {Q Q' : α → S → Prop} (h : p.Meets C s Q)
    (imp : ∀ a s', Q a s' → Q' a s') : p.Meets C s Q' := by
  induction p generalizing s with
  | ret a => exact imp a s h
  | call c k ih => exact ⟨h.1, fun r allowed => ih r (h.2 r allowed)⟩

/-- Sequencing: establish a midpoint for the first part, then start the second part from it. -/
theorem Proc.Meets.bind {p : Proc I α} {f : α → Proc I β} {R : α → S → Prop}
    {Q : β → S → Prop} (first : p.Meets C s R)
    (second : ∀ a s', R a s' → (f a).Meets C s' Q) : (p >>= f).Meets C s Q :=
  meets_bind.mpr (first.mono second)

/-- A deferred call is made in the state in which the body ends, and may not change what is
returned. -/
theorem Proc.Meets.deferring {cleanup : Proc I Unit} {body : Proc I α} {Q R : α → S → Prop}
    (first : body.Meets C s R)
    (last : ∀ a s', R a s' → cleanup.Meets C s' fun _ s'' => Q a s'') :
    (Proc.deferring cleanup body).Meets C s Q :=
  first.bind fun a s' mid => (last a s' mid).bind fun _ _ post => post

/-- A program whose calls are all in `A` keeps the contract from a state that such calls do not
change. -/
theorem Proc.Meets.of_calls {A : I.Call → Prop} {R : α → Prop} {p : Proc I α}
    (only : p.Meets (Contract.calls A) () fun a _ => R a) (owed : ∀ c, A c → C.obliges s c)
    (same : ∀ c r, A c → C.next s c r = s) : p.Meets C s fun a s' => R a ∧ s' = s := by
  induction p with
  | ret a => exact ⟨only, rfl⟩
  | call c k ih =>
      refine ⟨owed c only.1, fun r _ => ?_⟩
      rw [same c r only.1]
      exact ih r (only.2 r trivial)

/-- A program whose calls are all in `A` makes no others, when all of those are permitted. -/
theorem Proc.Meets.calls_mono {A A' : I.Call → Prop} {R : α → Prop} {p : Proc I α}
    (only : p.Meets (Contract.calls A) () fun a _ => R a) (wider : ∀ c, A c → A' c) :
    p.Meets (Contract.calls A') () fun a _ => R a :=
  (only.of_calls (C := Contract.calls A') wider fun _ _ _ => rfl).mono fun _ _ both => both.1

/-- Both contracts at once. -/
def Contract.both {S' : Type} (C : Contract I S) (C' : Contract I S') : Contract I (S × S') where
  obliges s c := C.obliges s.1 c ∧ C'.obliges s.2 c
  allows s c r := C.allows s.1 c r ∧ C'.allows s.2 c r
  next s c r := (C.next s.1 c r, C'.next s.2 c r)

/-- Two contracts are met at once, each with a state of its own, when each is met. -/
theorem Proc.Meets.both {S' : Type} {C' : Contract I S'} {s' : S'} {p : Proc I α}
    {Q : α → S → Prop} {Q' : α → S' → Prop} (first : p.Meets C s Q) (second : p.Meets C' s' Q') :
    p.Meets (C.both C') (s, s') fun a t => Q a t.1 ∧ Q' a t.2 := by
  induction p generalizing s s' with
  | ret a => exact ⟨first, second⟩
  | call c k ih =>
      exact ⟨⟨first.1, second.1⟩, fun r allowed =>
        ih r (first.2 r allowed.1) (second.2 r allowed.2)⟩

/-- Two contracts that agree on the calls in `A` are the same to a program whose calls are all in
`A`. -/
theorem Proc.Meets.of_agree {C' : Contract I S} {A : I.Call → Prop} {p : Proc I α}
    {Q : α → S → Prop} (meets : p.Meets C s Q)
    (only : p.Meets (Contract.calls A) () fun _ _ => True)
    (owed : ∀ s c, A c → C.obliges s c → C'.obliges s c)
    (allowed : ∀ s c r, A c → C'.allows s c r → C.allows s c r)
    (next : ∀ s c r, A c → C'.next s c r = C.next s c r) : p.Meets C' s Q := by
  induction p generalizing s with
  | ret a => exact meets
  | call c k ih =>
      refine ⟨owed s c only.1 meets.1, fun r replied => ?_⟩
      rw [next s c r only.1]
      exact ih r (meets.2 r (allowed s c r only.1 replied)) (only.2 r trivial)

/-- **Soundness.**  Along an execution with allowed replies, a program that meets the contract
makes only calls it may make, and its result satisfies the postcondition in the state reached. -/
theorem Proc.Meets.sound {p : Proc I α} {Q : α → S → Prop} {t : List (Event I)} {a : α}
    (h : p.Meets C s Q) (run : Exec p t a) (allowed : C.Allowed s t) :
    C.Obeyed s t ∧ Q a (C.after s t) := by
  induction run generalizing s with
  | ret a => exact ⟨trivial, h⟩
  | call rest ih =>
      obtain ⟨obeyed, post⟩ := ih (h.2 _ allowed.1) allowed.2
      exact ⟨⟨h.1, obeyed⟩, post⟩

/-- A program shows nothing when its calls are all in `A` and those show nothing. -/
theorem Proc.Meets.shows_nil {O : Type} {f : Event I → Option O} {A : I.Call → Prop} {p : Proc I α}
    {R : α → Unit → Prop} {os : List O} {a : α} (only : p.Meets (Contract.calls A) () R)
    (silent : ∀ c r, A c → f ⟨c, r⟩ = none) (shown : Shows f p os a) : os = [] := by
  obtain ⟨t, run, rfl⟩ := shown
  induction run with
  | ret a => rfl
  | @call c k r t a rest ih =>
      rw [filterMap_event, silent c r only.1]
      exact ih (only.2 r trivial)

/-- The stateless case: a postcondition under a restriction of the replies. -/
theorem Proc.Meets.sound_replies {allows : (c : I.Call) → I.Reply c → Prop} {p : Proc I α}
    {Q : α → Unit → Prop} {t : List (Event I)} {a : α}
    (h : p.Meets (Contract.replies allows) () Q) (run : Exec p t a)
    (allowed : ∀ e ∈ t, allows e.call e.reply) : Q a () :=
  (h.sound run (Contract.allowed_replies allowed)).2

/-- A contract that allows every reply allows every trace. -/
theorem Contract.allowed_of_all (all : ∀ s c r, C.allows s c r) (t : List (Event I)) :
    C.Allowed s t := by
  induction t generalizing s with
  | nil => trivial
  | cons e t ih => exact ⟨all s e.call e.reply, ih⟩

/-- A contract about calls alone allows every reply. -/
theorem Contract.allowed_calls {A : I.Call → Prop} (t : List (Event I)) :
    (Contract.calls A).Allowed () t :=
  allowed_of_all (fun _ _ _ => trivial) t

/-- A contract without obligations is met. -/
theorem Proc.Meets.any (free : ∀ s c, C.obliges s c) (p : Proc I α) :
    p.Meets C s fun _ _ => True := by
  induction p generalizing s with
  | ret a => trivial
  | call c k ih => exact ⟨free s c, fun r _ => ih r⟩

/-- Whatever is replied, the values that the program returns satisfy `R`. -/
abbrev Proc.Returns (p : Proc I α) (R : α → Prop) : Prop :=
  p.Meets (Contract.calls fun _ => True) () fun a _ => R a

/-- What a program returns may be shown without regard to the replies. -/
theorem Proc.Returns.ask {c : I.Call} {k : I.Reply c → Proc I α} {R : α → Prop}
    (next : ∀ r, (k r).Returns R) : (Proc.ask c >>= k).Returns R :=
  ⟨trivial, fun r _ => next r⟩

theorem Proc.Returns.any (p : Proc I α) : p.Returns fun _ => True :=
  Proc.Meets.any (fun _ _ => trivial) p

/-- What is shown of all returns holds of that of any execution. -/
theorem Proc.Returns.sound {p : Proc I α} {R : α → Prop} {t : List (Event I)} {a : α}
    (returns : p.Returns R) (run : Exec p t a) : R a :=
  (Proc.Meets.sound returns run (Contract.allowed_calls t)).2

end Meets

/-- From state `s` the program can, with some allowed replies, return a value and reach a state that
satisfy `Q`. -/
def Proc.Can (C : Contract I S) : Proc I α → S → (α → S → Prop) → Prop
  | .ret a, s, Q => Q a s
  | .call c k, s, Q => ∃ r, C.allows s c r ∧ (k r).Can C (C.next s c r) Q

section Can

variable {C : Contract I S} {s : S}

/-- Sequencing: what the second part can do from where the first part can get. -/
theorem Proc.Can.bind {p : Proc I α} {f : α → Proc I β} {R : α → S → Prop} {Q : β → S → Prop}
    (first : p.Can C s R) (second : ∀ a s', R a s' → (f a).Can C s' Q) : (p >>= f).Can C s Q := by
  induction p generalizing s with
  | ret a => exact second a s first
  | call c k ih =>
      obtain ⟨r, allowed, rest⟩ := first
      exact ⟨r, allowed, ih r rest⟩

/-- The rule for a deferred call, where replies may be chosen. -/
theorem Proc.Can.deferring {cleanup : Proc I Unit} {body : Proc I α} {Q R : α → S → Prop}
    (first : body.Can C s R) (last : ∀ a s', R a s' → cleanup.Can C s' fun _ s'' => Q a s'') :
    (Proc.deferring cleanup body).Can C s Q :=
  first.bind fun a s' mid => (last a s' mid).bind fun _ _ post => post

/-- Where some reply is allowed to every call, a program can do what it must. -/
theorem Proc.Meets.can {A : I.Call → Prop} {p : Proc I α} {Q : α → S → Prop} (meets : p.Meets C s Q)
    (only : p.Meets (Contract.calls A) () fun _ _ => True)
    (live : ∀ s c, A c → ∃ r, C.allows s c r) : p.Can C s Q := by
  induction p generalizing s with
  | ret a => exact meets
  | call c k ih =>
      obtain ⟨r, allowed⟩ := live s c only.1
      exact ⟨r, allowed, ih r (meets.2 r allowed) (only.2 r trivial)⟩

/-- **Realization.**  What a program can do, it does in some execution with allowed replies. -/
theorem Proc.Can.realize {p : Proc I α} {Q : α → S → Prop} (can : p.Can C s Q) :
    ∃ t a, Exec p t a ∧ C.Allowed s t ∧ Q a (C.after s t) := by
  induction p generalizing s with
  | ret a => exact ⟨[], a, .ret a, trivial, can⟩
  | call c k ih =>
      obtain ⟨r, allowed, rest⟩ := can
      obtain ⟨t, a, run, later, post⟩ := ih r rest
      exact ⟨⟨c, r⟩ :: t, a, .call run, ⟨allowed, later⟩, post⟩

end Can

/-! ## Two programs -/

/-- The programs make the same calls, whatever is replied, and return related values. -/
inductive Proc.Alike (R : α → β → Prop) : Proc I α → Proc I β → Prop
  | ret {a : α} {b : β} : R a b → Alike R (.ret a) (.ret b)
  | call {c : I.Call} {k : I.Reply c → Proc I α} {k' : I.Reply c → Proc I β} :
      (∀ r, Alike R (k r) (k' r)) → Alike R (.call c k) (.call c k')

/-- The programs have the same traces, and what they return along each of them is related. -/
def Proc.SameTraces (R : α → β → Prop) (p : Proc I α) (q : Proc I β) : Prop :=
  ∀ t, (∀ a, Exec p t a → ∃ b, Exec q t b ∧ R a b) ∧ ∀ b, Exec q t b → ∃ a, Exec p t a ∧ R a b

section Alike

theorem Proc.Alike.refl (p : Proc I α) : p.Alike Eq p := by
  induction p with
  | ret a => exact .ret rfl
  | call c k ih => exact .call ih

/-- Being alike is symmetric, with the relation the other way round. -/
theorem Proc.Alike.swap {R : α → β → Prop} {p : Proc I α} {q : Proc I β} (alike : p.Alike R q) :
    q.Alike (fun b a => R a b) p := by
  induction alike with
  | ret related => exact .ret related
  | call _ ih => exact .call ih

/-- Programs that are alike can be followed by programs that are alike for related values. -/
theorem Proc.Alike.bind {γ δ : Type} {R : α → β → Prop} {S : γ → δ → Prop} {p : Proc I α}
    {q : Proc I β} {f : α → Proc I γ} {g : β → Proc I δ} (first : p.Alike R q)
    (second : ∀ a b, R a b → (f a).Alike S (g b)) : (p >>= f).Alike S (q >>= g) := by
  induction first with
  | ret related => exact second _ _ related
  | call _ ih => exact .call ih

/-- The same first part, and then parts that are alike. -/
theorem Proc.Alike.after {S : β → β → Prop} (p : Proc I α) {f g : α → Proc I β}
    (second : ∀ a, (f a).Alike S (g a)) : (p >>= f).Alike S (p >>= g) :=
  (refl p).bind fun a _ same => same ▸ second a

/-- The same deferred call after either program. -/
theorem Proc.Alike.deferring {R : α → β → Prop} {cleanup : Proc I Unit} {p : Proc I α}
    {q : Proc I β} (first : p.Alike R q) :
    (Proc.deferring cleanup p).Alike R (Proc.deferring cleanup q) :=
  first.bind fun _ _ related => (refl cleanup).bind fun _ _ _ => .ret related

/-- Along a trace of the one, the other returns a related value. -/
theorem Proc.Alike.exec {R : α → β → Prop} {p : Proc I α} {q : Proc I β} {t : List (Event I)}
    {a : α} (alike : p.Alike R q) (run : Exec p t a) : ∃ b, Exec q t b ∧ R a b := by
  induction run generalizing q with
  | ret a =>
      cases alike with
      | ret related => exact ⟨_, .ret _, related⟩
  | call rest ih =>
      cases alike with
      | call later =>
          obtain ⟨b, run, related⟩ := ih (later _)
          exact ⟨b, .call run, related⟩

/-- The traces of programs that are alike are the same, since each reply leads to programs that are
alike again. -/
theorem Proc.Alike.sameTraces {R : α → β → Prop} {p : Proc I α} {q : Proc I β}
    (alike : p.Alike R q) : p.SameTraces R q :=
  fun _ => ⟨fun _ run => alike.exec run, fun _ run => alike.swap.exec run⟩

end Alike

/-! ## Runs against fixed answers -/

/-- Answer each call by `h`, which sees the calls and replies so far; the trace and the result. -/
def Proc.answered (h : List (Event I) → (c : I.Call) → I.Reply c) :
    Proc I α → List (Event I) → List (Event I) × α
  | .ret a, _ => ([], a)
  | .call c k, past =>
      let r := h past c
      let rest := (k r).answered h (past ++ [⟨c, r⟩])
      (⟨c, r⟩ :: rest.1, rest.2)

/-- The run against fixed answers goes through the first program and then through the second, whose
answers may depend on what came before. -/
theorem Proc.answered_bind (h : List (Event I) → (c : I.Call) → I.Reply c) (p : Proc I α)
    (f : α → Proc I β) (past : List (Event I)) :
    (p >>= f).answered h past =
      let first := p.answered h past
      let second := (f first.2).answered h (past ++ first.1)
      (first.1 ++ second.1, second.2) := by
  induction p generalizing past with
  | ret a => simp only [ret_bind, answered, List.append_nil, List.nil_append]
  | call c k ih =>
      simp only [call_bind, answered, ih, List.cons_append, List.append_assoc, List.nil_append]

/-- It is an execution, so whatever is proved of all executions can be seen on it. -/
theorem exec_answered (h : List (Event I) → (c : I.Call) → I.Reply c) (p : Proc I α)
    (past : List (Event I)) : Exec p (p.answered h past).1 (p.answered h past).2 := by
  induction p generalizing past with
  | ret a => exact .ret a
  | call c k ih => exact .call (ih _ _)

/-- Answers that a contract allows in the state it is in make a trace that it allows. -/
theorem Proc.answered_allowed {C : Contract I S} {s : S}
    {h : List (Event I) → (c : I.Call) → I.Reply c}
    (keeps : ∀ past c, C.allows (C.after s past) c (h past c)) (p : Proc I α)
    (past : List (Event I)) : C.Allowed (C.after s past) (p.answered h past).1 := by
  induction p generalizing past with
  | ret a => trivial
  | call c k ih =>
      have rest := ih (h past c) (past ++ [⟨c, h past c⟩])
      rw [Contract.after_append] at rest
      exact ⟨keeps past c, rest⟩

/-- What holds of every answer holds of every reply of the trace. -/
theorem Proc.answered_all {h : List (Event I) → (c : I.Call) → I.Reply c}
    {P : (c : I.Call) → I.Reply c → Prop} (all : ∀ past c, P c (h past c)) (p : Proc I α)
    (past : List (Event I)) : ∀ e ∈ (p.answered h past).1, P e.call e.reply := by
  induction p generalizing past with
  | ret a => exact fun _ absurd => nomatch absurd
  | call c k ih =>
      intro e member
      rcases List.mem_cons.mp member with rfl | later
      · exact all past c
      · exact ih _ _ e later

/-! ## Two interfaces -/

/-- The calls of both interfaces. -/
@[reducible]
def Interface.plus (I J : Interface) : Interface where
  Call := I.Call ⊕ J.Call
  Reply
    | .inl c => I.Reply c
    | .inr c => J.Reply c

section Plus

variable {J : Interface}

/-- The program, where other calls could be made as well. -/
def Proc.inl : Proc I α → Proc (I.plus J) α
  | .ret a => .ret a
  | .call c k => .call (.inl c) fun r => (k r).inl

/-- The event of the first interface. -/
def Event.left? : Event (I.plus J) → Option (Event I)
  | ⟨.inl c, r⟩ => some ⟨c, r⟩
  | ⟨.inr _, _⟩ => none

/-- What a contract over both says about the calls of the first. -/
def Contract.left (C : Contract (I.plus J) S) : Contract I S where
  obliges s c := C.obliges s (.inl c)
  allows s c := C.allows s (.inl c)
  next s c := C.next s (.inl c)

/-- An execution of the program over both makes the calls of one over the first. -/
theorem exec_inl {p : Proc I α} {t : List (Event (I.plus J))} {a : α} (run : Exec p.inl t a) :
    ∃ t' : List (Event I), Exec p t' a ∧ t = t'.map (fun e => ⟨.inl e.call, e.reply⟩) ∧
      t.filterMap Event.left? = t' := by
  induction p generalizing t with
  | ret b =>
      obtain ⟨rfl, rfl⟩ := exec_ret.mp run
      exact ⟨[], .ret _, rfl, rfl⟩
  | call c k ih =>
      obtain ⟨r, t₁, rfl, rest⟩ := exec_call.mp run
      obtain ⟨t', own, rfl, kept⟩ := ih r rest
      refine ⟨⟨c, r⟩ :: t', .call own, rfl, ?_⟩
      rw [List.filterMap_cons]
      exact congrArg (⟨c, r⟩ :: ·) kept

/-- A trace of calls of the first interface changes a contract over both as it changes its part. -/
theorem Contract.after_left {C : Contract (I.plus J) S} {s : S} {t : List (Event I)} :
    C.after s (t.map fun e => ⟨.inl e.call, e.reply⟩) = C.left.after s t := by
  induction t generalizing s with
  | nil => rfl
  | cons e t ih => exact ih

/-- And it is allowed by the one as by the other. -/
theorem Contract.allowed_left {C : Contract (I.plus J) S} {s : S} {t : List (Event I)} :
    C.Allowed s (t.map fun e => ⟨.inl e.call, e.reply⟩) ↔ C.left.Allowed s t := by
  induction t generalizing s with
  | nil => rfl
  | cons e t ih => exact and_congr_right fun _ => ih

end Plus

end Interaction
