import Scrc.Docker.Preparation

/-!
# Container sessions

What the contract of `Scrc.Docker.Lifecycle` means for the list of calls a run of the suite runner
leaves behind, without an automaton: the list falls into sessions, one for each container that was
created, from its creation to its forced removal.

* `Session`: what is done between the two, call by call against the calls before it.
* `Sessions`: sessions one after the other, with nothing about a container outside of them.
* `sessions_of_obeyed`: a trace that obeys the contract and ends without a container is `Sessions`.
* `Sessions.removed_last`: when the daemon gives every container its own id, the removal is the
  last call on that id, and the only removal of it.
-/

namespace Scrc

open Interaction

/-! ## Calls by what they do to a container -/

namespace DockerCall

/-- The container a call is about. -/
def container : DockerCall → Option GoString
  | .containerRemove _ id _ => some id
  | .copyToContainer _ id _ _ => some id
  | .containerAttach _ id => some id
  | .writeStdin id _ => some id
  | .closeWrite id => some id
  | .closeAttach id => some id
  | .containerStart _ id => some id
  | .containerWait _ id => some id
  | .containerInspect _ id => some id
  | .containerLogs _ id => some id
  | .containerStop _ id => some id
  | .copyFromContainer _ id _ => some id
  | _ => none

def creates : DockerCall → Bool
  | .containerCreate _ _ _ => true
  | _ => false

def removes : DockerCall → Bool
  | .containerRemove _ _ _ => true
  | _ => false

/-- Files are copied into the container, or its streams are attached. -/
def fills : DockerCall → Bool
  | .copyToContainer _ _ _ _ => true
  | .containerAttach _ _ => true
  | _ => false

def starts : DockerCall → Bool
  | .containerStart _ _ => true
  | _ => false

def stops : DockerCall → Bool
  | .containerStop _ _ => true
  | _ => false

/-- The call makes sense on a started container only. -/
def usesStarted : DockerCall → Bool
  | .writeStdin _ _ => true
  | .closeWrite _ => true
  | .containerWait _ _ => true
  | .containerInspect _ _ => true
  | .containerLogs _ _ => true
  | .containerStop _ _ => true
  | .copyFromContainer _ _ _ => true
  | _ => false

end DockerCall

/-! ## What happened so far -/

section Past

variable (id : GoString) (past : List (Event Docker))

def Copied : Prop :=
  ∃ ctx path files, (⟨.copyToContainer ctx id path files, .ok ()⟩ : Event Docker) ∈ past

def Attached : Prop := ∃ ctx, (⟨.containerAttach ctx id, .ok ()⟩ : Event Docker) ∈ past

def Started : Prop := ∃ ctx, (⟨.containerStart ctx id, .ok ()⟩ : Event Docker) ∈ past

/-- A wait under a positive deadline on the caller's context failed with deadline exceeded. -/
def DeadlineMissed : Prop :=
  ∃ timeout > 0, ∃ event : WaitEvent, event.deadlineExceeded = true ∧
    (⟨.containerWait (.withTimeout .caller timeout) id, event⟩ : Event Docker) ∈ past

/-- ... and after that the caller's context was found live. -/
def TimeLimitExpired : Prop :=
  ∃ before after, past = before ++ after ∧ DeadlineMissed id before ∧
    (⟨.ctxErr .caller, none⟩ : Event Docker) ∈ after

end Past

/-- The call is in its place: about this container, which is neither created nor removed by it,
and after what has to come before it. -/
structure InOrder (id : GoString) (attachStdin : Bool) (past : List (Event Docker))
    (c : DockerCall) : Prop where
  own : c.container = none ∨ c.container = some id
  between : c.creates = false ∧ c.removes = false
  fill : c.fills = true → ¬ Started id past
  start : c.starts = true →
    Copied id past ∧ (attachStdin = true → Attached id past) ∧ ¬ Started id past
  use : c.usesStarted = true → Started id past
  stop : c.stops = true → TimeLimitExpired id past ∧ ∀ e ∈ past, e.call.stops = false

/-- The calls between the creation of a container and its removal. -/
def Session (id : GoString) (attachStdin : Bool) (body : List (Event Docker)) : Prop :=
  ∀ past e, past ++ [e] <+: body → InOrder id attachStdin past e.call

/-- The id of the container that a call created. -/
def createdId : Event Docker → Option GoString
  | ⟨.containerCreate _ _ _, .ok id⟩ => some id
  | _ => none

/-- The id of the container that a call removes. -/
def removedId : Event Docker → Option GoString
  | ⟨.containerRemove _ id _, _⟩ => some id
  | _ => none

def created (t : List (Event Docker)) : List GoString := t.filterMap createdId
def removed (t : List (Event Docker)) : List GoString := t.filterMap removedId

/-- Sessions one after the other.  A session ends in a forced removal under a context that is not
the caller's; outside of sessions no call is about a container. -/
inductive Sessions : List (Event Docker) → Prop
  | done : Sessions []
  | aside {e : Event Docker} {t : List (Event Docker)} (notCreated : createdId e = none)
      (noContainer : e.call.container = none) (rest : Sessions t) : Sessions (e :: t)
  | session {ctx ctx' : Ctx} {config : ContainerConfig} {host : HostConfig} {id : GoString}
      {body t : List (Event Docker)} {r : Except GoError Unit}
      (order : Session id config.attachStdin body) (notCaller : ctx'.ofCaller = false)
      (rest : Sessions t) :
      Sessions (⟨.containerCreate ctx config host, .ok id⟩ ::
        (body ++ ⟨.containerRemove ctx' id true, r⟩ :: t))

/-! ## The automaton reads the past -/

/-- What the automaton knows of a container is what the calls since its creation say. -/
structure Describes (id : GoString) (attachStdin : Bool) (past : List (Event Docker))
    (c : Container) : Prop where
  sameId : c.id = id
  sameStdin : c.attachStdin = attachStdin
  copied : c.copied = true → Copied id past
  attached : c.attached = true → Attached id past
  started : c.started = true ↔ Started id past
  expired : c.limit = .expired → DeadlineMissed id past
  expiredLive : c.limit = .expiredLive → TimeLimitExpired id past
  stopped : (∃ e ∈ past, e.call.stops = true) → c.limit = .stopped

section Describes

variable {id : GoString} {attachStdin : Bool} {past : List (Event Docker)} {c : Container}

theorem Describes.start : Describes id attachStdin [] { id := id, attachStdin := attachStdin } where
  sameId := rfl
  sameStdin := rfl
  copied absurd := nomatch absurd
  attached absurd := nomatch absurd
  started := ⟨(nomatch ·), fun ⟨_, member⟩ => nomatch member⟩
  expired absurd := nomatch absurd
  expiredLive absurd := nomatch absurd
  stopped := fun ⟨_, member, _⟩ => nomatch member

theorem Copied.extend (h : Copied id past) (e : Event Docker) : Copied id (past ++ [e]) := by
  obtain ⟨ctx, path, files, member⟩ := h
  exact ⟨ctx, path, files, List.mem_append_left _ member⟩

theorem Attached.extend (h : Attached id past) (e : Event Docker) : Attached id (past ++ [e]) := by
  obtain ⟨ctx, member⟩ := h
  exact ⟨ctx, List.mem_append_left _ member⟩

theorem Started.extend (h : Started id past) (e : Event Docker) : Started id (past ++ [e]) := by
  obtain ⟨ctx, member⟩ := h
  exact ⟨ctx, List.mem_append_left _ member⟩

theorem DeadlineMissed.extend (h : DeadlineMissed id past) (e : Event Docker) :
    DeadlineMissed id (past ++ [e]) := by
  obtain ⟨timeout, positive, event, exceeded, member⟩ := h
  exact ⟨timeout, positive, event, exceeded, List.mem_append_left _ member⟩

theorem TimeLimitExpired.extend (h : TimeLimitExpired id past) (e : Event Docker) :
    TimeLimitExpired id (past ++ [e]) := by
  obtain ⟨before, after, rfl, missed, live⟩ := h
  exact ⟨before, after ++ [e], List.append_assoc _ _ _, missed, List.mem_append_left _ live⟩

/-- Whether the container is started changes with a successful start only. -/
theorem Describes.started_extend (h : Describes id attachStdin past c) {e : Event Docker}
    (notStart : ∀ ctx, e ≠ ⟨.containerStart ctx id, .ok ()⟩) :
    c.started = true ↔ Started id (past ++ [e]) := by
  rw [h.started]
  constructor
  · intro before
    exact before.extend e
  · intro ⟨ctx, member⟩
    rcases List.mem_append.mp member with before | now
    · exact ⟨ctx, before⟩
    · exact absurd (List.mem_singleton.mp now).symm (notStart ctx)

theorem Describes.stopped_extend (h : Describes id attachStdin past c) {e : Event Docker}
    (notStop : e.call.stops = false) :
    (∃ e' ∈ past ++ [e], e'.call.stops = true) → c.limit = .stopped := by
  intro ⟨e', member, stops⟩
  rcases List.mem_append.mp member with before | now
  · exact h.stopped ⟨e', before, stops⟩
  · rw [List.mem_singleton] at now
    rw [now, notStop] at stops
    cases stops

/-- An event that neither starts nor stops the container leaves the description true. -/
theorem Describes.extend (h : Describes id attachStdin past c) {e : Event Docker}
    (notStart : ∀ ctx, e ≠ ⟨.containerStart ctx id, .ok ()⟩) (notStop : e.call.stops = false) :
    Describes id attachStdin (past ++ [e]) c where
  sameId := h.sameId
  sameStdin := h.sameStdin
  copied yes := (h.copied yes).extend e
  attached yes := (h.attached yes).extend e
  started := h.started_extend notStart
  expired yes := (h.expired yes).extend e
  expiredLive yes := (h.expiredLive yes).extend e
  stopped := h.stopped_extend notStop

/-- A container that may still be stopped was not stopped before. -/
theorem Describes.not_stopped (h : Describes id attachStdin past c) (limit : c.limit ≠ .stopped) :
    ∀ e ∈ past, e.call.stops = false := by
  intro e member
  by_contra stops
  exact limit (h.stopped ⟨e, member, by simpa using stops⟩)

/-- A wait under the deadline that fails there is on record. -/
theorem Describes.wait (h : Describes id attachStdin past c) (ctx : Ctx) (event : WaitEvent) :
    Describes id attachStdin (past ++ [⟨.containerWait ctx id, event⟩]) (c.afterWait ctx event) := by
  have kept := h.extend (e := ⟨.containerWait ctx id, event⟩) (fun _ eq => by cases eq) rfl
  unfold Container.afterWait
  split
  · rename_i missed
    have record : DeadlineMissed id (past ++ [⟨.containerWait ctx id, event⟩]) := by
      obtain ⟨-, deadline, exceeded⟩ := missed
      unfold Ctx.hasCallerDeadline at deadline
      split at deadline
      · exact ⟨_, deadline, event, exceeded, List.mem_append_right _ List.mem_cons_self⟩
      · cases deadline
    have unstopped : c.limit ≠ .stopped := by
      rw [missed.1]
      exact LimitPhase.noConfusion
    exact { kept with
      expired := fun _ => record
      expiredLive := fun live => by cases live
      stopped := fun some_stop => absurd (kept.stopped some_stop) unstopped }
  · exact kept

/-- The check of the caller's context after a missed deadline is on record. -/
theorem Describes.ctxErr (h : Describes id attachStdin past c) (err : Option CtxErr) :
    Describes id attachStdin (past ++ [⟨.ctxErr .caller, err⟩]) (c.afterCtxErr err) := by
  have kept := h.extend (e := ⟨.ctxErr .caller, err⟩) (fun _ eq => nomatch eq) rfl
  unfold Container.afterCtxErr
  split
  · rename_i live
    obtain ⟨expired, rfl⟩ := live
    have unstopped : c.limit ≠ .stopped := by
      rw [expired]
      exact LimitPhase.noConfusion
    exact { kept with
      expired := fun absurd => nomatch absurd
      expiredLive := fun _ => ⟨past, _, rfl, h.expired expired, List.mem_cons_self⟩
      stopped := fun some_stop => absurd (kept.stopped some_stop) unstopped }
  · exact kept

/-- **One call of a session.**  The automaton stays with the container and describes it. -/
theorem Describes.step (h : Describes id attachStdin past c) {e : Event Docker}
    (owed : lifecycleObliges (.present c) e.call) (kept : e.call.removes = false) :
    ∃ c', lifecycleNext (.present c) e.call e.reply = .present c' ∧
      Describes id attachStdin (past ++ [e]) c' := by
  rcases e with ⟨call, reply⟩
  have last : ∀ e : Event Docker, e ∈ past ++ [e] :=
    fun e => List.mem_append_right _ List.mem_cons_self
  cases call with
  | containerCreate ctx config host => cases owed
  | containerRemove ctx id force => cases kept
  | copyToContainer ctx id' path files =>
      have same : id' = id := owed.1.symm.trans h.sameId
      subst same
      cases reply with
      | error err => exact ⟨c, rfl, h.extend (fun _ eq => nomatch eq) rfl⟩
      | ok =>
          have kept := h.extend (e := ⟨.copyToContainer ctx id' path files, .ok ()⟩)
            (fun _ eq => nomatch eq) rfl
          exact ⟨{ c with copied := true }, rfl,
            { kept with copied := fun _ => ⟨ctx, path, files, last _⟩ }⟩
  | containerAttach ctx id' =>
      have same : id' = id := owed.1.symm.trans h.sameId
      subst same
      cases reply with
      | error err => exact ⟨c, rfl, h.extend (fun _ eq => nomatch eq) rfl⟩
      | ok =>
          have kept := h.extend (e := ⟨.containerAttach ctx id', .ok ()⟩)
            (fun _ eq => nomatch eq) rfl
          exact ⟨{ c with attached := true }, rfl, { kept with attached := fun _ => ⟨ctx, last _⟩ }⟩
  | containerStart ctx id' =>
      have same : id' = id := owed.1.symm.trans h.sameId
      subst same
      cases reply with
      | error err => exact ⟨c, rfl, h.extend (fun _ eq => nomatch eq) rfl⟩
      | ok =>
          exact ⟨{ c with started := true }, rfl,
            { sameId := h.sameId
              sameStdin := h.sameStdin
              copied := fun yes => (h.copied yes).extend _
              attached := fun yes => (h.attached yes).extend _
              started := ⟨fun _ => ⟨ctx, last _⟩, fun _ => rfl⟩
              expired := fun yes => (h.expired yes).extend _
              expiredLive := fun yes => (h.expiredLive yes).extend _
              stopped := h.stopped_extend rfl }⟩
  | containerWait ctx id' =>
      have same : id' = id := owed.1.symm.trans h.sameId
      subst same
      exact ⟨_, rfl, h.wait ctx reply⟩
  | ctxErr ctx =>
      cases ctx with
      | caller => exact ⟨_, rfl, h.ctxErr reply⟩
      | background => exact ⟨c, rfl, h.extend (fun _ eq => nomatch eq) rfl⟩
      | withTimeout parent timeout => exact ⟨c, rfl, h.extend (fun _ eq => nomatch eq) rfl⟩
  | containerStop ctx id' =>
      have same : id' = id := owed.1.symm.trans h.sameId
      subst same
      exact ⟨{ c with limit := .stopped }, rfl,
        { sameId := h.sameId
          sameStdin := h.sameStdin
          copied := fun yes => (h.copied yes).extend _
          attached := fun yes => (h.attached yes).extend _
          started := h.started_extend fun _ eq => nomatch eq
          expired := fun absurd => nomatch absurd
          expiredLive := fun absurd => nomatch absurd
          stopped := fun _ => rfl }⟩
  | _ => exact ⟨c, rfl, h.extend (fun _ eq => nomatch eq) rfl⟩

/-- What a call owes to the automaton is what its place among the calls before it requires. -/
theorem Describes.inOrder (h : Describes id attachStdin past c) {call : DockerCall}
    (owed : lifecycleObliges (.present c) call) (kept : call.removes = false) :
    InOrder id attachStdin past call := by
  have fresh : c.started = false → ¬ Started id past := by
    intro notStarted started
    rw [h.started.mpr started] at notStarted
    cases notStarted
  have never : ∀ {P : Prop}, false = true → P := fun absurd => nomatch absurd
  cases call with
  | containerCreate ctx config host => cases owed
  | containerRemove ctx id force => cases kept
  | copyToContainer ctx id' path files =>
      have same : id' = id := owed.1.symm.trans h.sameId
      exact ⟨Or.inr (congrArg some same), ⟨rfl, rfl⟩, fun _ => fresh owed.2, never, never, never⟩
  | containerAttach ctx id' =>
      have same : id' = id := owed.1.symm.trans h.sameId
      exact ⟨Or.inr (congrArg some same), ⟨rfl, rfl⟩, fun _ => fresh owed.2, never, never, never⟩
  | containerStart ctx id' =>
      obtain ⟨same, notStarted, copied, attached⟩ := owed
      refine ⟨Or.inr (congrArg some (same.symm.trans h.sameId)), ⟨rfl, rfl⟩, never, fun _ => ?_,
        never, never⟩
      refine ⟨h.copied copied, fun stdin => h.attached (attached ?_), fresh notStarted⟩
      rw [h.sameStdin]
      exact stdin
  | containerStop ctx id' =>
      obtain ⟨same, started, expired⟩ := owed
      refine ⟨Or.inr (congrArg some (same.symm.trans h.sameId)), ⟨rfl, rfl⟩, never, never,
        fun _ => h.started.mp started, fun _ => ⟨h.expiredLive expired, h.not_stopped ?_⟩⟩
      rw [expired]
      exact LimitPhase.noConfusion
  | writeStdin id' data =>
      have same : id' = id := owed.1.symm.trans h.sameId
      exact ⟨Or.inr (congrArg some same), ⟨rfl, rfl⟩, never, never,
        fun _ => h.started.mp owed.2.1, never⟩
  | closeWrite id' =>
      have same : id' = id := owed.1.symm.trans h.sameId
      exact ⟨Or.inr (congrArg some same), ⟨rfl, rfl⟩, never, never,
        fun _ => h.started.mp owed.2.1, never⟩
  | closeAttach id' =>
      have same : id' = id := owed.1.symm.trans h.sameId
      exact ⟨Or.inr (congrArg some same), ⟨rfl, rfl⟩, never, never, never, never⟩
  | containerWait ctx id' =>
      have same : id' = id := owed.1.symm.trans h.sameId
      exact ⟨Or.inr (congrArg some same), ⟨rfl, rfl⟩, never, never,
        fun _ => h.started.mp owed.2, never⟩
  | containerInspect ctx id' =>
      have same : id' = id := owed.1.symm.trans h.sameId
      exact ⟨Or.inr (congrArg some same), ⟨rfl, rfl⟩, never, never,
        fun _ => h.started.mp owed.2, never⟩
  | containerLogs ctx id' =>
      have same : id' = id := owed.1.symm.trans h.sameId
      exact ⟨Or.inr (congrArg some same), ⟨rfl, rfl⟩, never, never,
        fun _ => h.started.mp owed.2, never⟩
  | copyFromContainer ctx id' path =>
      have same : id' = id := owed.1.symm.trans h.sameId
      exact ⟨Or.inr (congrArg some same), ⟨rfl, rfl⟩, never, never,
        fun _ => h.started.mp owed.2, never⟩
  | _ => exact ⟨Or.inl rfl, ⟨rfl, rfl⟩, never, never, never, never⟩

end Describes

/-! ## From the contract to sessions -/

theorem Session.start (id : GoString) (attachStdin : Bool) : Session id attachStdin [] := by
  intro past e isPrefix
  exact absurd (List.prefix_nil.mp isPrefix) (List.append_ne_nil_of_right_ne_nil _ (by simp))

theorem Session.extend {id : GoString} {attachStdin : Bool} {body : List (Event Docker)}
    (h : Session id attachStdin body) {e : Event Docker}
    (next : InOrder id attachStdin body e.call) : Session id attachStdin (body ++ [e]) := by
  intro past e' isPrefix
  rcases List.prefix_concat_iff.mp isPrefix with whole | before
  · obtain ⟨rfl, same⟩ := List.append_inj' whole rfl
    cases same
    exact next
  · exact h past e' before

/-- What is ahead: without a container sessions; with one, its removal, and sessions after that. -/
def Ahead (t : List (Event Docker)) : Phase → Prop
  | .absent => Sessions t
  | .present c => ∀ id attachStdin past, Describes id attachStdin past c →
      Session id attachStdin past → ∃ body ctx r rest,
        t = body ++ ⟨.containerRemove ctx id true, r⟩ :: rest ∧ ctx.ofCaller = false ∧
        Session id attachStdin (past ++ body) ∧ Sessions rest

/-- One call when there is no container: nothing happens to one, or a session begins. -/
theorem ahead_of_absent {e : Event Docker} {t : List (Event Docker)}
    (owed : lifecycleObliges .absent e.call)
    (later : Ahead t (lifecycleNext .absent e.call e.reply)) : Sessions (e :: t) := by
  rcases e with ⟨call, reply⟩
  cases call with
  | containerCreate ctx config host =>
      cases reply with
      | error err => exact .aside rfl rfl later
      | ok id =>
          obtain ⟨body, ctx', r, rest, rfl, notCaller, order, sessions⟩ :=
            later id config.attachStdin [] .start (.start _ _)
          exact .session order notCaller sessions
  | ctxErr ctx => cases ctx <;> exact .aside rfl rfl later
  | containerRemove ctx id force => exact owed.2.2.elim
  | copyToContainer ctx id path files => exact owed.elim
  | containerAttach ctx id => exact owed.elim
  | writeStdin id data => exact owed.elim
  | closeWrite id => exact owed.elim
  | closeAttach id => exact owed.elim
  | containerStart ctx id => exact owed.elim
  | containerWait ctx id => exact owed.elim
  | containerInspect ctx id => exact owed.elim
  | containerLogs ctx id => exact owed.elim
  | containerStop ctx id => exact owed.elim
  | copyFromContainer ctx id path => exact owed.elim
  | _ => exact .aside rfl rfl later

/-- One call during a session: the session goes on, or this is the removal. -/
theorem ahead_of_present {e : Event Docker} {t : List (Event Docker)} {c : Container}
    (owed : lifecycleObliges (.present c) e.call)
    (later : Ahead t (lifecycleNext (.present c) e.call e.reply)) : Ahead (e :: t) (.present c) := by
  intro id attachStdin past described session
  cases removal : e.call.removes with
  | false =>
      obtain ⟨c', same, described'⟩ := described.step owed removal
      rw [same] at later
      obtain ⟨body, ctx, r, rest, rfl, notCaller, order, sessions⟩ :=
        later id attachStdin _ described' (session.extend (described.inOrder owed removal))
      rw [List.append_assoc] at order
      exact ⟨e :: body, ctx, r, rest, rfl, notCaller, order, sessions⟩
  | true =>
      rcases e with ⟨call, reply⟩
      cases call with
      | containerRemove ctx id' force =>
          obtain ⟨rfl, notCaller, same, -⟩ := owed
          have here : id' = id := same.symm.trans described.sameId
          subst here
          rw [← List.append_nil past] at session
          exact ⟨[], ctx, reply, t, rfl, notCaller, session, later⟩
      | _ => cases removal

theorem ahead_of_obeyed {s : Phase} {t : List (Event Docker)} (obeyed : lifecycle.Obeyed s t)
    (ends : lifecycle.after s t = .absent) : Ahead t s := by
  induction t generalizing s with
  | nil =>
      cases s with
      | absent => exact .done
      | present c => cases ends
  | cons e t ih =>
      have later := ih obeyed.2 ends
      cases s with
      | absent => exact ahead_of_absent obeyed.1 later
      | present c => exact ahead_of_present obeyed.1 later

/-- **Sessions from the contract.**  A trace that obeys the contract, from no container to no
container, is a list of sessions. -/
theorem sessions_of_obeyed {t : List (Event Docker)} (obeyed : lifecycle.Obeyed .absent t)
    (ends : lifecycle.after .absent t = .absent) : Sessions t := ahead_of_obeyed obeyed ends

/-! ## What sessions give -/

theorem created_append (t u : List (Event Docker)) : created (t ++ u) = created t ++ created u :=
  List.filterMap_append

theorem removed_append (t u : List (Event Docker)) : removed (t ++ u) = removed t ++ removed u :=
  List.filterMap_append

theorem createdId_of_not_creates {e : Event Docker} (h : e.call.creates = false) :
    createdId e = none := by
  rcases e with ⟨call, reply⟩
  cases call with
  | containerCreate ctx config host => cases h
  | _ => rfl

theorem removedId_of_not_removes {e : Event Docker} (h : e.call.removes = false) :
    removedId e = none := by
  rcases e with ⟨call, reply⟩
  cases call with
  | containerRemove ctx id force => cases h
  | _ => rfl

/-- Every call of a session is in its place, which is said by what has happened in the session
before it. -/
theorem Session.inOrder {id : GoString} {attachStdin : Bool} {body : List (Event Docker)}
    (h : Session id attachStdin body) {e : Event Docker} (member : e ∈ body) :
    ∃ past, InOrder id attachStdin past e.call := by
  obtain ⟨past, later, rfl⟩ := List.append_of_mem member
  refine ⟨past, h past e ⟨later, ?_⟩⟩
  rw [List.append_assoc]
  rfl

theorem Session.created_eq {id : GoString} {attachStdin : Bool} {body : List (Event Docker)}
    (h : Session id attachStdin body) : created body = [] := by
  apply List.filterMap_eq_nil_iff.mpr
  intro e member
  obtain ⟨past, place⟩ := h.inOrder member
  exact createdId_of_not_creates place.between.1

theorem Session.removed_eq {id : GoString} {attachStdin : Bool} {body : List (Event Docker)}
    (h : Session id attachStdin body) : removed body = [] := by
  apply List.filterMap_eq_nil_iff.mpr
  intro e member
  obtain ⟨past, place⟩ := h.inOrder member
  exact removedId_of_not_removes place.between.2

theorem removedId_of_noContainer {e : Event Docker} (h : e.call.container = none) :
    removedId e = none := by
  apply removedId_of_not_removes
  rcases e with ⟨call, reply⟩
  cases call with
  | containerRemove ctx id force => cases h
  | _ => rfl

/-- The lists of a session and what follows it: one container is created, the same is removed, and
the rest adds its own. -/
theorem Session.created_then {ctx ctx' : Ctx} {config : ContainerConfig} {host : HostConfig}
    {id : GoString} {body : List (Event Docker)} {r : Except GoError Unit}
    (h : Session id config.attachStdin body) (t : List (Event Docker)) :
    created (⟨.containerCreate ctx config host, .ok id⟩ ::
        (body ++ ⟨.containerRemove ctx' id true, r⟩ :: t)) = id :: created t ∧
      removed (⟨.containerCreate ctx config host, .ok id⟩ ::
        (body ++ ⟨.containerRemove ctx' id true, r⟩ :: t)) = id :: removed t := by
  have createdSplit := created_append body (⟨.containerRemove ctx' id true, r⟩ :: t)
  have removedSplit := removed_append body (⟨.containerRemove ctx' id true, r⟩ :: t)
  rw [h.created_eq] at createdSplit
  rw [h.removed_eq] at removedSplit
  exact ⟨congrArg (id :: ·) createdSplit, removedSplit⟩

/-- The containers are removed in the order in which they are created, each one once. -/
theorem Sessions.removed_eq_created {t : List (Event Docker)} (h : Sessions t) :
    removed t = created t := by
  induction h with
  | done => rfl
  | aside notCreated noContainer rest ih =>
      unfold removed created at *
      rw [List.filterMap_cons_none (removedId_of_noContainer noContainer),
        List.filterMap_cons_none notCreated, ih]
  | session order notCaller rest ih =>
      rw [(order.created_then _).1, (order.created_then _).2, ih]

/-- A call names a container that was created, by the session that the call is part of. -/
theorem Sessions.named {t : List (Event Docker)} (h : Sessions t) {e : Event Docker}
    (member : e ∈ t) {id : GoString} (named : e.call.container = some id) : id ∈ created t := by
  induction h with
  | done => cases member
  | aside notCreated noContainer rest ih =>
      unfold created
      rw [List.filterMap_cons_none notCreated]
      rcases List.mem_cons.mp member with rfl | later
      · rw [noContainer] at named
        cases named
      · exact ih later
  | session order notCaller rest ih =>
      rw [(order.created_then _).1]
      rcases List.mem_cons.mp member with rfl | later
      · cases named
      · rcases List.mem_append.mp later with inside | after
        · obtain ⟨past, place⟩ := order.inOrder inside
          rcases place.own with none | own
          · rw [none] at named
            cases named
          · rw [own] at named
            cases named
            exact List.mem_cons_self
        · rcases List.mem_cons.mp after with rfl | after
          · cases named
            exact List.mem_cons_self
          · exact List.mem_cons_of_mem _ (ih after)

/-- **The removal is the last word.**  When every container gets its own id, each one is removed by
force under a context that is not the caller's; nothing is called on it afterwards, and it was not
removed before. -/
theorem Sessions.removed_last {t : List (Event Docker)} (h : Sessions t)
    (distinct : (created t).Nodup) {id : GoString} (member : id ∈ created t) :
    ∃ before ctx r after, t = before ++ ⟨.containerRemove ctx id true, r⟩ :: after ∧
      ctx.ofCaller = false ∧ id ∉ removed before ∧ ∀ e ∈ after, e.call.container ≠ some id := by
  induction h with
  | done => cases member
  | @aside e t notCreated noContainer rest ih =>
      unfold created at distinct member
      rw [List.filterMap_cons_none notCreated] at distinct member
      obtain ⟨before, ctx, r, after, rfl, notCaller, first, last⟩ := ih distinct member
      refine ⟨e :: before, ctx, r, after, rfl, notCaller, ?_, last⟩
      unfold removed
      rw [List.filterMap_cons_none (removedId_of_noContainer noContainer)]
      exact first
  | @session ctx ctx' config host here body t r order notCaller rest ih =>
      rw [(order.created_then t).1] at distinct member
      obtain ⟨apart, distinct⟩ := List.nodup_cons.mp distinct
      rcases List.mem_cons.mp member with rfl | later
      · refine ⟨⟨.containerCreate ctx config host, .ok id⟩ :: body, ctx', r, t, rfl, notCaller,
          ?_, fun e after named => apart (rest.named after named)⟩
        have none : removed (⟨.containerCreate ctx config host, .ok id⟩ :: body) = [] :=
          order.removed_eq
        rw [none]
        exact List.not_mem_nil
      · obtain ⟨before, ctx'', r', after, split, notCaller', first, last⟩ := ih distinct later
        refine ⟨⟨.containerCreate ctx config host, .ok here⟩ ::
          (body ++ ⟨.containerRemove ctx' here true, r⟩ :: before), ctx'', r', after, ?_,
          notCaller', ?_, last⟩
        · rw [split, List.cons_append, List.append_assoc, List.cons_append]
        · rw [(order.created_then before).2, List.mem_cons, not_or]
          exact ⟨fun same => apart (same ▸ later), first⟩

theorem Session.of_prefix {id : GoString} {attachStdin : Bool} {p body : List (Event Docker)}
    (h : Session id attachStdin body) (isPrefix : p <+: body) : Session id attachStdin p :=
  fun past e before => h past e (before.trans isPrefix)

/-- **No overlap.**  At every point of a run the containers removed so far are the ones created so
far, or all of them but the last: the one that exists. -/
theorem Sessions.at_most_one {t : List (Event Docker)} (h : Sessions t) {p : List (Event Docker)}
    (isPrefix : p <+: t) : created p = removed p ∨ ∃ id, created p = removed p ++ [id] := by
  induction h generalizing p with
  | done =>
      rw [List.prefix_nil.mp isPrefix]
      exact Or.inl rfl
  | aside notCreated noContainer rest ih =>
      rcases List.prefix_cons_iff.mp isPrefix with rfl | ⟨q, rfl, before⟩
      · exact Or.inl rfl
      · unfold created removed at *
        rw [List.filterMap_cons_none notCreated,
          List.filterMap_cons_none (removedId_of_noContainer noContainer)]
        exact ih before
  | @session ctx ctx' config host id body t r order notCaller rest ih =>
      have during : ∀ q, q <+: body →
          created (⟨.containerCreate ctx config host, .ok id⟩ :: q) =
            removed (⟨.containerCreate ctx config host, .ok id⟩ :: q) ++ [id] := by
        intro q inside
        have part := order.of_prefix inside
        have createdNow : created (⟨.containerCreate ctx config host, .ok id⟩ :: q) = [id] :=
          congrArg (id :: ·) part.created_eq
        have removedNow : removed (⟨.containerCreate ctx config host, .ok id⟩ :: q) = [] :=
          part.removed_eq
        rw [createdNow, removedNow]
        rfl
      rcases List.prefix_cons_iff.mp isPrefix with rfl | ⟨q, rfl, before⟩
      · exact Or.inl rfl
      · rcases List.prefix_or_prefix_of_prefix before (List.prefix_append _ _) with inside | past
        · exact Or.inr ⟨id, during q inside⟩
        · obtain ⟨q', rfl⟩ := past
          rcases List.prefix_cons_iff.mp ((List.prefix_append_right_inj body).mp before) with
            rfl | ⟨q'', rfl, before'⟩
          · refine Or.inr ⟨id, ?_⟩
            rw [List.append_nil]
            exact during body (List.prefix_refl _)
          · rw [(order.created_then q'').1, (order.created_then q'').2]
            rcases ih before' with equal | ⟨id', one⟩
            · exact Or.inl (congrArg (id :: ·) equal)
            · exact Or.inr ⟨id', congrArg (id :: ·) one⟩

/-! ## The runs of the suite runner -/

/-- **Container lifecycle.**  Whatever the daemon replies and whenever the caller's context ends,
one `Run` of the suite runner leaves sessions behind: each container is filled and attached before
its start, used after it, stopped at most once and only for its time limit, and removed by force
at the end; as many are removed as are created, never more than one exists, and when ids are not
given out twice the removal is the last call on the id. -/
theorem suiteRunner_sessions {cfg : DockerConfig} {engine : Engine Docker}
    (built : newEngineWithClient cfg = .ok engine) {script : Script} {t : List (Event Docker)}
    {report : RunReport} (run : Exec (SuiteRunner.run engine script) t report) :
    Sessions t ∧ removed t = created t ∧
      (∀ p, p <+: t → created p = removed p ∨ ∃ id, created p = removed p ++ [id]) ∧
      ((created t).Nodup → ∀ id ∈ created t, ∃ before ctx r after,
        t = before ++ ⟨.containerRemove ctx id true, r⟩ :: after ∧ ctx.ofCaller = false ∧
        id ∉ removed before ∧ ∀ e ∈ after, e.call.container ≠ some id) := by
  have keeps := keeps_suiteRunner (newEngineWithClient_prepares built script)
  obtain ⟨obeyed, ends, -⟩ := keeps.sound run (lifecycle_allowed _ _)
  have sessions := sessions_of_obeyed obeyed ends
  refine ⟨sessions, sessions.removed_eq_created, fun p isPrefix => sessions.at_most_one isPrefix, ?_⟩
  intro distinct id member
  exact sessions.removed_last distinct member

/-- A script with two tests on the engine for Python, against a daemon that serves every call: two
containers, one after the other. -/
theorem suiteRunner_sessions_echo :
    created ((SuiteRunner.run pythonEngine echoTwice).answered servingDaemon []).1 =
        [lit "c4", lit "c21"] ∧
      Sessions ((SuiteRunner.run pythonEngine echoTwice).answered servingDaemon []).1 ∧
      removed ((SuiteRunner.run pythonEngine echoTwice).answered servingDaemon []).1 =
        created ((SuiteRunner.run pythonEngine echoTwice).answered servingDaemon []).1 := by
  have life := suiteRunner_sessions pythonEngine_built
    (exec_answered servingDaemon (SuiteRunner.run pythonEngine echoTwice) [])
  exact ⟨by decide, life.1, life.2.1⟩

end Scrc
