import Mathlib.Data.Multiset.Filter
import Scrc.Docker.Images
import Scrc.Lib.Pool

/-!
# Images are pulled before they are used

Calls of `Engine.Prepare` and runs of the scripts they prepared, in any interleaving.  The threads
share the `pullOnce` and the `pullErr` of each language, and a log of all calls with their replies.

* `PullInv`: the invariant of one language, over its shared cell, its pulls so far, and the phases
  of its threads.
* `images_before_use`: a container is created only from an image that its language has pulled, and
  no language pulls an image twice.
-/

namespace Scrc

open Interaction Transition

/-! ## The shared state -/

/-- A `sync.Once`. -/
inductive OnceState where
  | fresh
  /-- The body of the first `Do` has not returned. -/
  | running
  | done
  deriving DecidableEq

/-- `pullOnce` and `pullErr` of a language. -/
structure PullCell where
  once : OnceState := .fresh
  pullErr : Option PullError := none
  deriving DecidableEq

/-- What the threads share, and the log of their calls, each with the language it was made for. -/
structure SharedImages where
  cells : Language → PullCell := fun _ => {}
  log : List (Language × Event Docker) := []

/-- How a call may be answered, and the cells after it.  The first `Do` runs its body; another one
returns when that body has. -/
def cellsAnswer (cells : Language → PullCell) :
    (c : DockerCall) → DockerReply c → (Language → PullCell) → Prop
  | .pullOnceDo l, true, cells' =>
      (cells l).once = .fresh ∧ cells' = Function.update cells l { cells l with once := .running }
  | .pullOnceDo l, false, cells' => (cells l).once = .done ∧ cells' = cells
  | .pullOnceDone l, _, cells' => cells' = Function.update cells l { cells l with once := .done }
  | .setPullErr l err, _, cells' =>
      cells' = Function.update cells l { cells l with pullErr := some err }
  | .pullErr l, r, cells' => r = (cells l).pullErr ∧ cells' = cells
  | _, _, cells' => cells' = cells

/-- `Engine.Prepare`; the thread ends with the prepared script. -/
def prepareThread (engine : Engine Docker) (script : Script) :
    Proc Docker (Option (PreparedScript Docker)) := do
  let outcome ← engine.prepare script
  return outcome.prepared

/-- `PreparedScript.Run`. -/
def runThread (prepared : PreparedScript Docker) (stdin : GoString) :
    Proc Docker (Option (PreparedScript Docker)) := do
  let _ ← prepared.run stdin
  return none

/-- Calls of `Prepare` for any scripts, and runs of what they prepared on any inputs.  A thread is
tagged by the language of its script. -/
def engineSystem (engine : Engine Docker) :
    System Docker Language (Option (PreparedScript Docker)) SharedImages where
  starts threads lang p :=
    (∃ script, script.language = lang ∧ p = prepareThread engine script) ∨
      ∃ prepared stdin, (lang, .ret (some prepared)) ∈ threads ∧ p = runThread prepared stdin
  answers lang s c r s' :=
    cellsAnswer s.cells c r s'.cells ∧ s'.log = s.log ++ [(lang, ⟨c, r⟩)]

/-- An engine in use: its threads and what they share. -/
abbrev EnginePool := Pool Docker Language (Option (PreparedScript Docker)) SharedImages

/-- A pull of an image: the image, and whether `pullImage` returns nil. -/
def pullOf : Event Docker → Option (GoString × Bool)
  | ⟨.imagePull _ ref, .value _⟩ => some (ref, true)
  | ⟨.imagePull _ ref, .refused _⟩ => some (ref, false)
  | ⟨.imagePull _ ref, .broken _⟩ => some (ref, false)
  | _ => none

/-- The pulls of a language, in order. -/
def pulls (lang : Language) (log : List (Language × Event Docker)) : List (GoString × Bool) :=
  log.filterMap fun e => if e.1 = lang then pullOf e.2 else none

/-- Every container was created from an image that its language had pulled before. -/
def PulledFirst (log : List (Language × Event Docker)) : Prop :=
  ∀ before lang ctx config host r after,
    log = before ++ (lang, ⟨.containerCreate ctx config host, r⟩) :: after →
      (config.image, true) ∈ pulls lang before

/-- The thread is about to pull `ref` for `lang`. -/
def pullsNext (lang : Language) (ref : GoString)
    (thread : Language × Proc Docker (Option (PreparedScript Docker))) : Bool :=
  match thread with
  | (l, .call (.imagePull _ ref') _) => l = lang ∧ ref' = ref
  | _ => false

/-! ## The invariant of one language -/

/-- How many threads are in the body of `pullOnce.Do`. -/
def bodies (phases : Multiset PullPhase) : Nat := phases.countP fun ph => ph.inBody = true

theorem bodies_cons (ph : PullPhase) (others : Multiset PullPhase) :
    bodies (ph ::ₘ others) = bodies others + if ph.inBody = true then 1 else 0 :=
  Multiset.countP_cons _ _ _

/-- What holds of the cell of a language, its pulls so far and the phases of its threads. -/
structure PullInv (images : List GoString) (cell : PullCell) (pulled : List (GoString × Bool))
    (phases : Multiset PullPhase) : Prop where
  /-- One thread at most is in the body, and it is there while `Do` runs. -/
  body : bodies phases = if cell.once = .running then 1 else 0
  fresh : cell.once = .fresh → pulled = [] ∧ cell.pullErr = none
  order : pulled.map Prod.fst <+: images
  pulling : ∀ rest, .pulling rest ∈ phases →
    pulled.map Prod.fst ++ rest = images ∧ cell.pullErr = none ∧ ∀ p ∈ pulled, p.2 = true
  failed : .failed ∈ phases → cell.pullErr ≠ none
  past : .past ∈ phases → cell.once = .done
  ready : .ready ∈ phases → cell.once = .done ∧ cell.pullErr = none
  done : cell.once = .done → cell.pullErr = none →
    pulled.map Prod.fst = images ∧ ∀ p ∈ pulled, p.2 = true

namespace PullInv

variable {images : List GoString} {cell : PullCell} {pulled : List (GoString × Bool)}
  {phases others : Multiset PullPhase} {ph : PullPhase}

theorem start (images : List GoString) : PullInv images {} [] 0 where
  body := rfl
  fresh _ := ⟨rfl, rfl⟩
  order := List.nil_prefix
  pulling _ absurd := (Multiset.notMem_zero _ absurd).elim
  failed absurd := (Multiset.notMem_zero _ absurd).elim
  past absurd := (Multiset.notMem_zero _ absurd).elim
  ready absurd := (Multiset.notMem_zero _ absurd).elim
  done absurd := nomatch absurd

/-- A thread outside the body may be added in a phase that agrees with the cell. -/
theorem add (inv : PullInv images cell pulled phases) (out : ph.inBody = false)
    (past : ph = .past → cell.once = .done)
    (ready : ph = .ready → cell.once = .done ∧ cell.pullErr = none) :
    PullInv images cell pulled (ph ::ₘ phases) where
  body := by
    rw [bodies_cons, out]
    exact inv.body
  fresh := inv.fresh
  order := inv.order
  pulling rest member := by
    rcases Multiset.mem_cons.mp member with rfl | other
    · cases out
    · exact inv.pulling rest other
  failed member := by
    rcases Multiset.mem_cons.mp member with rfl | other
    · cases out
    · exact inv.failed other
  past member := by
    rcases Multiset.mem_cons.mp member with same | other
    · exact past same.symm
    · exact inv.past other
  ready member := by
    rcases Multiset.mem_cons.mp member with same | other
    · exact ready same.symm
    · exact inv.ready other
  done := inv.done

/-- A thread outside the body may be left out: the invariant speaks of it only through the thread
inside. -/
theorem drop (inv : PullInv images cell pulled (ph ::ₘ others)) (out : ph.inBody = false) :
    PullInv images cell pulled others where
  body := by
    rw [← inv.body, bodies_cons, out]
    rfl
  fresh := inv.fresh
  order := inv.order
  pulling rest member := inv.pulling rest (Multiset.mem_cons_of_mem member)
  failed member := inv.failed (Multiset.mem_cons_of_mem member)
  past member := inv.past (Multiset.mem_cons_of_mem member)
  ready member := inv.ready (Multiset.mem_cons_of_mem member)
  done := inv.done

/-- Threads that have not come to `pullOnce.Do`, or were refused. -/
def Waiting (others : Multiset PullPhase) : Prop := ∀ ph ∈ others, ph = .idle ∨ ph = .refused

/-- Before the end of the body, the threads outside it are waiting. -/
theorem waiting (inv : PullInv images cell pulled (ph ::ₘ others)) (early : cell.once ≠ .done)
    (alone : bodies others = 0) : Waiting others := by
  intro q member
  have out := Multiset.countP_eq_zero.mp alone q member
  cases q with
  | idle => exact Or.inl rfl
  | refused => exact Or.inr rfl
  | pulling rest => exact absurd rfl out
  | failing => exact absurd rfl out
  | failed => exact absurd rfl out
  | past => exact absurd (inv.past (Multiset.mem_cons_of_mem member)) early
  | ready => exact absurd (inv.ready (Multiset.mem_cons_of_mem member)).1 early

/-- While a thread is in the body, `Do` runs, and the other threads are waiting. -/
theorem inside (inv : PullInv images cell pulled (ph ::ₘ others)) (inBody : ph.inBody = true) :
    cell.once = .running ∧ Waiting others := by
  have count := inv.body
  rw [bodies_cons, if_pos inBody] at count
  have running : cell.once = .running := by
    by_contra other
    rw [if_neg other] at count
    omega
  rw [if_pos running] at count
  refine ⟨running, inv.waiting ?_ (by omega)⟩
  rw [running]
  exact OnceState.noConfusion

/-- Beside waiting threads, the invariant is about one thread. -/
theorem of_waiting (waiting : Waiting others)
    (body : (if ph.inBody = true then 1 else 0) = if cell.once = .running then 1 else 0)
    (fresh : cell.once ≠ .fresh) (order : pulled.map Prod.fst <+: images)
    (pulling : ∀ rest, ph = .pulling rest →
      pulled.map Prod.fst ++ rest = images ∧ cell.pullErr = none ∧ ∀ p ∈ pulled, p.2 = true)
    (failed : ph = .failed → cell.pullErr ≠ none) (past : ph = .past → cell.once = .done)
    (ready : ph ≠ .ready)
    (done : cell.once = .done → cell.pullErr = none →
      pulled.map Prod.fst = images ∧ ∀ p ∈ pulled, p.2 = true) :
    PullInv images cell pulled (ph ::ₘ others) where
  body := by
    have none : bodies others = 0 := by
      refine Multiset.countP_eq_zero.mpr fun q member => ?_
      rcases waiting q member with rfl | rfl
      · exact Bool.false_ne_true
      · exact Bool.false_ne_true
    rw [bodies_cons, none, ← body, Nat.zero_add]
  fresh absurd := (fresh absurd).elim
  order := order
  pulling rest member := by
    rcases Multiset.mem_cons.mp member with same | other
    · exact pulling rest same.symm
    · rcases waiting _ other with absurd | absurd <;> cases absurd
  failed member := by
    rcases Multiset.mem_cons.mp member with same | other
    · exact failed same.symm
    · rcases waiting _ other with absurd | absurd <;> cases absurd
  past member := by
    rcases Multiset.mem_cons.mp member with same | other
    · exact past same.symm
    · rcases waiting _ other with absurd | absurd <;> cases absurd
  ready member := by
    rcases Multiset.mem_cons.mp member with same | other
    · exact (ready same.symm).elim
    · rcases waiting _ other with absurd | absurd <;> cases absurd
  done := done

/-- The first `Do` starts its body, with all images still to be pulled; no other thread can be
inside. -/
theorem enter (inv : PullInv images cell pulled (.idle ::ₘ others)) (first : cell.once = .fresh) :
    PullInv images { cell with once := .running } pulled (.pulling images ::ₘ others) := by
  obtain ⟨rfl, noErr⟩ := inv.fresh first
  have alone := inv.body
  rw [first, bodies_cons] at alone
  have early : cell.once ≠ .done := by
    rw [first]
    exact OnceState.noConfusion
  refine of_waiting (inv.waiting early alone) rfl OnceState.noConfusion inv.order ?_
    PullPhase.noConfusion PullPhase.noConfusion PullPhase.noConfusion OnceState.noConfusion
  rintro rest ⟨⟩
  exact ⟨rfl, noErr, fun p absurd => nomatch absurd⟩

/-- The next image is pulled by the thread in the body, and is taken off the list when that
succeeds. -/
theorem pull {ref : GoString} {rest : List GoString}
    (inv : PullInv images cell pulled (.pulling (ref :: rest) ::ₘ others)) (ok : Bool) :
    PullInv images cell (pulled ++ [(ref, ok)])
      ((if ok then .pulling rest else .failing) ::ₘ others) := by
  obtain ⟨running, waiting⟩ := inv.inside rfl
  obtain ⟨todo, noErr, good⟩ := inv.pulling _ (Multiset.mem_cons_self _ _)
  have refs : (pulled ++ [(ref, ok)]).map Prod.fst ++ rest = images := by
    rw [List.map_append, List.append_assoc]
    exact todo
  have notFresh : cell.once ≠ .fresh := by
    rw [running]
    exact OnceState.noConfusion
  have notDone : cell.once ≠ .done := by
    rw [running]
    exact OnceState.noConfusion
  cases ok with
  | false =>
      exact of_waiting waiting (by rw [running]; rfl) notFresh ⟨rest, refs⟩
        (fun _ => PullPhase.noConfusion) PullPhase.noConfusion PullPhase.noConfusion
        PullPhase.noConfusion fun absurd => (notDone absurd).elim
  | true =>
      refine of_waiting waiting (by rw [running]; rfl) notFresh ⟨rest, refs⟩ ?_
        PullPhase.noConfusion PullPhase.noConfusion PullPhase.noConfusion
        fun absurd => (notDone absurd).elim
      rintro rest' ⟨⟩
      refine ⟨refs, noErr, fun p member => ?_⟩
      rcases List.mem_append.mp member with before | new
      · exact good p before
      · rw [List.mem_singleton.mp new]

/-- The error of a failed pull is stored before the body returns, so that later calls find it. -/
theorem fail (inv : PullInv images cell pulled (.failing ::ₘ others)) (err : PullError) :
    PullInv images { cell with pullErr := some err } pulled (.failed ::ₘ others) := by
  obtain ⟨running, waiting⟩ := inv.inside rfl
  refine of_waiting waiting (by rw [running]; rfl) ?_ inv.order (fun _ => PullPhase.noConfusion)
    (fun _ => Option.some_ne_none err) PullPhase.noConfusion PullPhase.noConfusion ?_
  · rw [running]
    exact OnceState.noConfusion
  · rw [running]
    exact OnceState.noConfusion

/-- The body returns, and from then on every `Do` returns at once. -/
theorem finish (inv : PullInv images cell pulled (ph ::ₘ others))
    (last : ph = .pulling [] ∨ ph = .failed) :
    PullInv images { cell with once := .done } pulled (.past ::ₘ others) := by
  have inBody : ph.inBody = true := by rcases last with rfl | rfl <;> rfl
  obtain ⟨running, waiting⟩ := inv.inside inBody
  refine of_waiting waiting rfl OnceState.noConfusion inv.order (fun _ => PullPhase.noConfusion)
    PullPhase.noConfusion (fun _ => rfl) PullPhase.noConfusion fun _ noErr => ?_
  rcases last with rfl | rfl
  · obtain ⟨todo, -, good⟩ := inv.pulling [] (Multiset.mem_cons_self _ _)
    rw [List.append_nil] at todo
    exact ⟨todo, good⟩
  · exact (inv.failed (Multiset.mem_cons_self _ _) noErr).elim

/-- A later `Do` returns when the body has, which is what `sync.Once` promises to all callers. -/
theorem wait (inv : PullInv images cell pulled (.idle ::ₘ others)) (done : cell.once = .done) :
    PullInv images cell pulled (.past ::ₘ others) :=
  (inv.drop rfl).add rfl (fun _ => done) PullPhase.noConfusion

/-- `pullErr` is read after the `Do`: a thread is ready when nothing is stored, and refused
otherwise. -/
theorem read (inv : PullInv images cell pulled (.past ::ₘ others)) :
    PullInv images cell pulled
      ((match cell.pullErr with | none => .ready | some _ => .refused) ::ₘ others) := by
  have done := inv.past (Multiset.mem_cons_self _ _)
  cases found : cell.pullErr with
  | none =>
      exact (inv.drop rfl).add rfl PullPhase.noConfusion fun _ => ⟨done, found⟩
  | some err => exact (inv.drop rfl).add rfl PullPhase.noConfusion PullPhase.noConfusion

end PullInv

/-! ## The threads of a language -/

/-- The phases of the threads of a language. -/
def phases (lang : Language) (places : List (Language × PullPhase)) : Multiset PullPhase :=
  ↑(places.filterMap fun p => if p.1 = lang then some p.2 else none)

section Phases

variable {lang lang' : Language} {places : List (Language × PullPhase)} {ph ph' : PullPhase} {i : Nat}

theorem phases_cons_same : phases lang ((lang, ph) :: places) = ph ::ₘ phases lang places := by
  unfold phases
  rw [filterMap_cons_toList]
  simp only [↓reduceIte]
  rfl

theorem phases_cons_other (other : lang' ≠ lang) :
    phases lang ((lang', ph) :: places) = phases lang places := by
  unfold phases
  rw [filterMap_cons_toList]
  simp only [other, ↓reduceIte]
  rfl

theorem phases_perm {places' : List (Language × PullPhase)} (perm : places.Perm places') :
    phases lang places = phases lang places' :=
  Multiset.coe_eq_coe.mpr (perm.filterMap _)

theorem mem_phases : ph ∈ phases lang places ↔ (lang, ph) ∈ places := by
  unfold phases
  rw [Multiset.mem_coe, List.mem_filterMap]
  constructor
  · rintro ⟨⟨l, q⟩, member, found⟩
    simp only at found
    split at found
    · next same =>
        cases found
        rw [← same]
        exact member
    · cases found
  · intro member
    exact ⟨_, member, if_pos rfl⟩

/-- A thread of the language moves: the phases of the others are what they were. -/
theorem phases_set (here : places[i]? = some (lang, ph)) :
    ∃ others, phases lang places = ph ::ₘ others ∧
      ∀ ph', phases lang (places.set i (lang, ph')) = ph' ::ₘ others := by
  refine ⟨phases lang (places.eraseIdx i), ?_, fun ph' => ?_⟩
  · rw [phases_perm (perm_of_getElem? here), phases_cons_same]
  · rw [phases_perm (set_perm_of_getElem? here), phases_cons_same]

/-- A thread of another language moves, which is not seen among the phases of this one. -/
theorem phases_set_other (here : places[i]? = some (lang', ph)) (other : lang' ≠ lang) :
    phases lang (places.set i (lang', ph')) = phases lang places := by
  rw [phases_perm (set_perm_of_getElem? here), phases_cons_other other,
    phases_perm (perm_of_getElem? here), phases_cons_other other]

theorem phases_append : phases lang (places ++ [(lang', ph)]) = phases lang ((lang', ph) :: places) :=
  phases_perm List.perm_append_comm

end Phases

/-! ## The log -/

section Log

variable {lang lang' : Language} {log : List (Language × Event Docker)} {e : Event Docker}

theorem pulls_append_same : pulls lang (log ++ [(lang, e)]) = pulls lang log ++ (pullOf e).toList := by
  unfold pulls
  rw [List.filterMap_append, filterMap_cons_toList]
  simp only [↓reduceIte, List.filterMap_nil, List.append_nil]

theorem pulls_append_other (other : lang' ≠ lang) :
    pulls lang (log ++ [(lang', e)]) = pulls lang log := by
  unfold pulls
  rw [List.filterMap_append, filterMap_cons_toList]
  simp only [other, ↓reduceIte, Option.toList_none, List.filterMap_nil, List.append_nil]

theorem PulledFirst.append (first : PulledFirst log)
    (last : ∀ ctx config host r, e = ⟨.containerCreate ctx config host, r⟩ →
      (config.image, true) ∈ pulls lang log) : PulledFirst (log ++ [(lang, e)]) := by
  intro before lang' ctx config host r after split
  rcases List.eq_nil_or_concat after with rfl | ⟨after, entry, rfl⟩
  · obtain ⟨rfl, same⟩ := List.append_inj' split rfl
    cases same
    exact last ctx config host r rfl
  · rw [List.concat_eq_append, ← List.cons_append, ← List.append_assoc] at split
    obtain ⟨rfl, -⟩ := List.append_inj' split rfl
    exact first before lang' ctx config host r after rfl

end Log

/-! ## One step -/

section Step

variable {lang : Language} {images : List GoString} {cells cells' : Language → PullCell}
  {ph : PullPhase} {c : DockerCall} {r : DockerReply c}

/-- A thread leaves the cells of the other languages alone. -/
theorem cellsAnswer_frame (owed : pullObliges lang images ph c) (answer : cellsAnswer cells c r cells')
    {other : Language} (apart : other ≠ lang) : cells' other = cells other := by
  cases c with
  | pullOnceDo l =>
      obtain ⟨-, rfl⟩ := owed
      cases r with
      | true =>
          rw [answer.2]
          exact Function.update_of_ne apart _ _
      | false => rw [answer.2]
  | pullOnceDone l =>
      obtain ⟨-, rfl⟩ := owed
      rw [show cells' = _ from answer]
      exact Function.update_of_ne apart _ _
  | setPullErr l err =>
      obtain ⟨-, rfl⟩ := owed
      rw [show cells' = _ from answer]
      exact Function.update_of_ne apart _ _
  | pullErr l => rw [answer.2]
  | _ => rw [show cells' = cells from answer]

/-- What a call of a thread does to the invariant of its language. -/
theorem PullInv.step {pulled : List (GoString × Bool)} {others : Multiset PullPhase}
    (inv : PullInv images (cells lang) pulled (ph ::ₘ others)) (owed : pullObliges lang images ph c)
    (answer : cellsAnswer cells c r cells') :
    PullInv images (cells' lang) (pulled ++ (pullOf ⟨c, r⟩).toList)
      (ph.next images c r ::ₘ others) := by
  cases c with
  | pullOnceDo l =>
      obtain ⟨rfl, rfl⟩ := owed
      cases r with
      | true =>
          obtain ⟨fresh, rfl⟩ := answer
          rw [Function.update_self]
          have entered := inv.enter fresh
          rwa [← List.append_nil pulled] at entered
      | false =>
          obtain ⟨done, rfl⟩ := answer
          have waited := inv.wait done
          rwa [← List.append_nil pulled] at waited
  | imagePull ctx ref =>
      obtain ⟨rest, rfl⟩ := owed
      rw [show cells' = cells from answer]
      cases r with
      | value _ => exact inv.pull true
      | refused err => exact inv.pull false
      | broken err => exact inv.pull false
  | setPullErr l err =>
      obtain ⟨rfl, rfl⟩ := owed
      rw [show cells' = _ from answer, Function.update_self]
      have failed := inv.fail err
      rwa [← List.append_nil pulled] at failed
  | pullOnceDone l =>
      obtain ⟨last, rfl⟩ := owed
      rw [show cells' = _ from answer, Function.update_self]
      have finished := inv.finish last
      rwa [← List.append_nil pulled] at finished
  | pullErr l =>
      obtain ⟨rfl, rfl⟩ := owed
      obtain ⟨same, rfl⟩ := answer
      have read := inv.read
      rw [← same, ← List.append_nil pulled] at read
      cases r with
      | none => exact read
      | some err => exact read
  | _ =>
      rw [show cells' = cells from answer]
      rw [← List.append_nil pulled] at inv
      exact inv

end Step

/-! ## The discipline of the threads -/

/-- The images of a language of the engine. -/
def Registry.images (r : Registry) (lang : Language) : List GoString :=
  match r.moduleFor lang with
  | .error _ => []
  | .ok m => m.runtime.images

/-- The invariants of all languages, and of the log. -/
structure EngineInv (r : Registry) (s : SharedImages) (places : List (Language × PullPhase)) :
    Prop where
  languages : ∀ lang,
    PullInv (r.images lang) (s.cells lang) (pulls lang s.log) (phases lang places)
  first : PulledFirst s.log

/-- Every thread keeps to the contract of its language. -/
def imageDiscipline (r : Registry) :
    Discipline Docker Language (Option (PreparedScript Docker)) SharedImages PullPhase where
  contract lang := pullContract lang (r.images lang)
  post lang o ph := Readied (r.images lang) o ph
  inv := EngineInv r

section Engine

variable {r : Registry}

/-- In the phase `ready` every image has been pulled with success, by whichever thread was in the
body. -/
theorem PullInv.pulled {images : List GoString} {cell : PullCell} {pulled : List (GoString × Bool)}
    {phases : Multiset PullPhase} (inv : PullInv images cell pulled phases) (ready : .ready ∈ phases)
    {image : GoString} (inside : image ∈ images) : (image, true) ∈ pulled := by
  obtain ⟨done, noErr⟩ := inv.ready ready
  obtain ⟨refs, good⟩ := inv.done done noErr
  rw [← refs] at inside
  obtain ⟨p, member, rfl⟩ := List.mem_map.mp inside
  rw [← good p member]
  exact member

theorem kept_by_answers (engine : Engine Docker) :
    (imageDiscipline r).KeptByAnswers (engineSystem engine) := by
  intro s places i lang ph c reply s' inv here owed answered
  obtain ⟨cells, log⟩ := answered
  refine ⟨trivial, fun lang' => ?_, ?_⟩
  · rw [log]
    by_cases same : lang = lang'
    · subst same
      obtain ⟨others, before, after⟩ := phases_set here
      have kept := inv.languages lang
      rw [before] at kept
      rw [pulls_append_same, after]
      exact kept.step owed cells
    · rw [pulls_append_other same, phases_set_other here same,
        cellsAnswer_frame owed cells (Ne.symm same)]
      exact inv.languages lang'
  · rw [log]
    refine inv.first.append fun ctx config host r' create => ?_
    cases create
    obtain ⟨rfl, inside⟩ := owed
    exact (inv.languages lang).pulled (mem_phases.mpr (List.mem_of_getElem? here)) inside

/-- A call of `Prepare` starts in the phase `idle` and keeps to the phases, whichever module takes
it. -/
theorem pulls_engine {cfg : DockerConfig} {env : ContainerEngine}
    (modules : ∀ m ∈ r.modules, ∃ entry ∈ cfg.languages, newModule entry.1 entry.2 env = .ok m)
    (script : Script) :
    (r.prepare script).Meets (pullContract script.language (r.images script.language)) .idle
      fun o ph => Readied (r.images script.language) o.prepared ph := by
  unfold Registry.prepare Registry.images
  cases found : r.moduleFor script.language with
  | error err => exact fun p absurd => nomatch absurd
  | ok m =>
      unfold Registry.moduleFor at found
      split at found
      · next m' which =>
          cases found
          have matching := List.find?_some which
          rw [decide_eq_true_eq] at matching
          obtain ⟨entry, -, module⟩ := modules m (List.mem_of_find?_eq_some which)
          rw [← matching]
          exact pulls_module (newModule_ok module).2 script
      · cases found

theorem kept_by_starts {cfg : DockerConfig} {env : ContainerEngine}
    (modules : ∀ m ∈ r.modules, ∃ entry ∈ cfg.languages, newModule entry.1 entry.2 env = .ok m) :
    (imageDiscipline r).KeptByStarts (engineSystem ⟨r.prepare⟩) := by
  intro pool members lang p sound started
  have adds : ∀ ph : PullPhase, ph.inBody = false → ph ≠ .past →
      (ph = .ready → (lang, PullPhase.ready) ∈ members.map fun m => (m.tag, m.state)) →
      EngineInv r pool.shared (members.map (fun m => (m.tag, m.state)) ++ [(lang, ph)]) := by
    intro ph out notPast ready
    refine ⟨fun lang' => ?_, sound.inv.first⟩
    have kept := sound.inv.languages lang'
    rw [phases_append]
    by_cases same : lang = lang'
    · subst same
      rw [phases_cons_same]
      exact kept.add out (fun past => (notPast past).elim) fun isReady =>
        kept.ready (mem_phases.mpr (ready isReady))
    · rw [phases_cons_other same]
      exact kept
  rcases started with ⟨script, rfl, rfl⟩ | ⟨prepared, stdin, returned, rfl⟩
  · refine ⟨.idle, ?_, adds .idle rfl PullPhase.noConfusion PullPhase.noConfusion⟩
    exact (pulls_engine modules script).bind fun o ph readied => readied
  · rw [sound.threads] at returned
    obtain ⟨m, member, same⟩ := List.mem_map.mp returned
    rcases m with ⟨tag, rest, ph⟩
    cases same
    obtain ⟨rfl, uses⟩ := sound.follows _ member prepared rfl
    refine ⟨.ready, ?_, adds .ready rfl PullPhase.noConfusion fun _ =>
      List.mem_map.mpr ⟨_, member, rfl⟩⟩
    exact (pulls_uses (uses stdin)).bind fun o ph _ p absurd => nomatch absurd

/-- A thread that is about to pull is in the body of `pullOnce.Do`. -/
theorem pending_pull {m : Tracked Docker Language (Option (PreparedScript Docker)) PullPhase}
    (follows : (imageDiscipline r).Follows m) {lang : Language} {ref : GoString}
    (pending : pullsNext lang ref (m.tag, m.rest) = true) :
    m.tag = lang ∧ ∃ rest, m.state = .pulling (ref :: rest) := by
  rcases m with ⟨tag, ret | ⟨c, k⟩, ph⟩
  · cases pending
  · cases c with
    | imagePull ctx ref' =>
        obtain ⟨rfl, rfl⟩ : tag = lang ∧ ref' = ref := of_decide_eq_true pending
        exact ⟨rfl, follows.1⟩
    | _ => cases pending

theorem pending_le_bodies
    {members : List (Tracked Docker Language (Option (PreparedScript Docker)) PullPhase)}
    (follows : ∀ m ∈ members, (imageDiscipline r).Follows m) (lang : Language) (ref : GoString) :
    (members.map fun m => (m.tag, m.rest)).countP (pullsNext lang ref) ≤
      bodies (phases lang (members.map fun m => (m.tag, m.state))) := by
  induction members with
  | nil => exact Nat.zero_le _
  | cons m members ih =>
      have rest := ih fun m' member => follows m' (List.mem_cons_of_mem _ member)
      rw [List.map_cons, List.map_cons, List.countP_cons]
      by_cases pending : pullsNext lang ref (m.tag, m.rest) = true
      · obtain ⟨rfl, _, pulling⟩ := pending_pull (follows m List.mem_cons_self) pending
        rw [if_pos pending, pulling, phases_cons_same, bodies_cons]
        exact Nat.succ_le_succ rest
      · rw [if_neg pending, Nat.add_zero]
        by_cases same : m.tag = lang
        · subst same
          rw [phases_cons_same, bodies_cons]
          exact Nat.le_add_right_of_le rest
        · rw [phases_cons_other same]
          exact rest

theorem Registry.images_nodup (r : Registry) (lang : Language) : (r.images lang).Nodup := by
  unfold Registry.images
  split
  · exact List.nodup_nil
  · unfold LanguageRuntime.images
    split
    · next differ =>
        refine List.nodup_cons.mpr ⟨?_, List.nodup_singleton _⟩
        intro inside
        exact differ (List.mem_singleton.mp inside).symm
    · exact List.nodup_singleton _

end Engine

/-- **Images are present before they are used.**  In every pool reached, each container was created
from an image that its language had pulled before, a creation still pending names such an image, and
the pulls of an image by a language, the pending ones included, are one at most. -/
theorem images_before_use {cfg : DockerConfig} {engine : Engine Docker}
    (built : newEngineWithClient cfg = .ok engine) {pool : EnginePool}
    (run : Reaches (Pool.Step (engineSystem engine)) ⟨[], {}⟩ pool) :
    PulledFirst pool.shared.log ∧
    (∀ lang ctx config host k,
      (lang, Proc.call (I := Docker) (.containerCreate ctx config host) k) ∈ pool.threads →
        (config.image, true) ∈ pulls lang pool.shared.log) ∧
    ∀ lang ref,
      ((pulls lang pool.shared.log).map Prod.fst).count ref +
        pool.threads.countP (pullsNext lang ref) ≤ 1 := by
  obtain ⟨r, rfl, modules⟩ := newEngineWithClient_ok built
  have start : (imageDiscipline r).Sound ⟨[], {}⟩ [] := by
    refine ⟨rfl, fun m absurd => (List.not_mem_nil absurd).elim, fun lang => PullInv.start _, ?_⟩
    intro before lang ctx config host reply after split
    exact absurd split.symm (List.append_ne_nil_of_right_ne_nil before (List.cons_ne_nil _ _))
  obtain ⟨members, sound⟩ :=
    Discipline.sound_of_reaches (kept_by_starts modules) (kept_by_answers _) start run
  refine ⟨sound.inv.first, fun lang ctx config host k pending => ?_, fun lang ref => ?_⟩
  · obtain ⟨ph, place, rfl, inside⟩ := sound.obliges pending
    exact (sound.inv.languages lang).pulled (mem_phases.mpr place) inside
  · have inv := sound.inv.languages lang
    have distinct : (((pulls lang pool.shared.log).map Prod.fst)).Nodup :=
      (r.images_nodup lang).sublist inv.order.sublist
    have pending := pending_le_bodies sound.follows lang ref
    rw [inv.body, ← sound.threads] at pending
    by_cases none : pool.threads.countP (pullsNext lang ref) = 0
    · rw [none]
      exact List.nodup_iff_count_le_one.mp distinct ref
    · obtain ⟨thread, member, next⟩ := List.countP_pos_iff.mp (Nat.pos_of_ne_zero none)
      rw [sound.threads] at member
      obtain ⟨m, inside, rfl⟩ := List.mem_map.mp member
      obtain ⟨rfl, rest, pulling⟩ := pending_pull (sound.follows m inside) next
      obtain ⟨todo, -, -⟩ := inv.pulling (ref :: rest)
        (mem_phases.mpr (List.mem_map.mpr ⟨m, inside, by rw [pulling]⟩))
      have once := r.images_nodup m.tag
      rw [← todo] at once
      have fresh : ref ∉ (pulls m.tag pool.shared.log).map Prod.fst := by
        intro again
        exact List.disjoint_of_nodup_append once again List.mem_cons_self
      rw [List.count_eq_zero_of_not_mem fresh, Nat.zero_add]
      refine Nat.le_trans pending ?_
      split
      · exact Nat.le_refl 1
      · exact Nat.zero_le 1

/-! ## One script of Python -/

/-- The cells when only that of Python has changed. -/
def pythonCells (cell : PullCell) : Language → PullCell := fun l => if l = .python then cell else {}

theorem update_pythonCells (before after : PullCell) :
    pythonCells after = Function.update (pythonCells before) .python after := by
  funext l
  by_cases same : l = .python
  · rw [same, Function.update_self]
    rfl
  · rw [Function.update_of_ne same]
    exact (if_neg same).trans (if_neg same).symm

/-- The prepared script of `echoTwice`. -/
def echoPrepared : PreparedScript Docker where
  run stdin := runProgram
    ⟨.python, ⟨"python:3.12-alpine", "python:3.12-alpine", "/tmp"⟩,
      newContainerEngine pythonConfig.defaultLimits⟩
    echoTwice.limits ["python", "script.py"] [⟨"script.py", 0o644, echoTwice.source⟩] stdin true
  close := .ret ()

/-- The image of Python was pulled, `echoTwice` is prepared, and a run of it has started. -/
def echoPool : EnginePool where
  threads := [(.python, .ret (some echoPrepared)), (.python, runThread echoPrepared "1\n")]
  shared := {
    cells := pythonCells { once := .done }
    log := [(.python, ⟨.pullOnceDo .python, true⟩),
      (.python, ⟨.imagePull .caller "python:3.12-alpine", .value ()⟩),
      (.python, ⟨.pullOnceDone .python, ()⟩), (.python, ⟨.pullErr .python, none⟩)] }

theorem answer_step {engine : Engine Docker}
    {threads : List (Language × Proc Docker (Option (PreparedScript Docker)))} {s : SharedImages}
    {lang : Language} {i : Nat} {c : DockerCall}
    {k : DockerReply c → Proc Docker (Option (PreparedScript Docker))} (r : DockerReply c)
    (cells : Language → PullCell) (here : threads[i]? = some (lang, .call c k))
    (answer : cellsAnswer s.cells c r cells) :
    Pool.Step (engineSystem engine) ⟨threads, s⟩
      ⟨threads.set i (lang, k r), ⟨cells, s.log ++ [(lang, ⟨c, r⟩)]⟩⟩ :=
  .answer here ⟨answer, rfl⟩

theorem echoPool_reached :
    Reaches (Pool.Step (engineSystem pythonEngine)) ⟨[], ⟨pythonCells {}, []⟩⟩ echoPool := by
  refine .head (.start (Or.inl ⟨echoTwice, rfl, rfl⟩)) ?_
  refine .head (answer_step (i := 0) (c := .pullOnceDo .python) true
    (pythonCells { once := .running }) rfl ⟨rfl, update_pythonCells _ _⟩) ?_
  refine .head (answer_step (i := 0) (c := .imagePull .caller "python:3.12-alpine") (.value ()) _
    rfl rfl) ?_
  refine .head (answer_step (i := 0) (c := .pullOnceDone .python) ()
    (pythonCells { once := .done }) rfl (update_pythonCells _ _)) ?_
  refine .head (answer_step (i := 0) (c := .pullErr .python) none _ rfl ⟨rfl, rfl⟩) ?_
  refine .head (.start (Or.inr ⟨echoPrepared, "1\n", List.mem_cons_self, rfl⟩)) ?_
  exact .refl

theorem pythonCells_start : pythonCells {} = fun _ => {} := by
  funext l
  exact ite_self _

theorem images_before_use_echo :
    (lit "python:3.12-alpine", true) ∈ pulls .python echoPool.shared.log := by
  have run := echoPool_reached
  rw [pythonCells_start] at run
  exact (images_before_use pythonEngine_built run).2.1 .python .caller _ _ _
    (List.mem_cons_of_mem _ List.mem_cons_self)

end Scrc

