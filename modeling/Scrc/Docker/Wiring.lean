import Scrc.Docker.Judgement

/-!
# The wiring of an engine

`newEngineWithClient` ranges over a Go map, which comes in an order of its own every time.  What it
builds, and whether, is the same for every order.

* `DockerConfig.Usable`: what a configuration has to have.
* `DockerConfig.prepare`: preparing by the configuration alone, without modules or a registry.
* `newEngineWithClient_eq`: an engine that is built prepares scripts so.
* `engine_of_map`: the order in which the map is ranged over makes no difference.
-/

namespace Scrc

open Interaction

/-- The languages that have a strategy. -/
def supportedLanguages : List Language := [.python, .go, .c, .cpp, .java]

/-- The map is not empty, and every entry of it makes a module. -/
structure DockerConfig.Usable (cfg : DockerConfig) : Prop where
  nonempty : cfg.languages ≠ []
  image : ∀ entry ∈ cfg.languages, entry.2.image ≠ []
  supported : ∀ entry ∈ cfg.languages, entry.1 ∈ supportedLanguages

/-- What a script is prepared with: the module of the configuration of its language. -/
def DockerConfig.prepare (cfg : DockerConfig) (script : Script) :
    Proc Docker (PrepareOutcome Docker) :=
  match cfg.languages.lookup script.language with
  | none => .ret (.failed (.new (lit "no runtime module registered for language " ++
      quote script.language.name)))
  | some langCfg =>
      match newModule script.language langCfg (newContainerEngine cfg.defaultLimits) with
      | .error err => .ret (.failed err)
      | .ok m => m.prepare script

/-! ## Entries of a map -/

section Lookup

variable {α β : Type} [DecidableEq α] {l l' : List (α × β)} {k : α} {v : β}

/-- What is found under a key is an entry of the map. -/
theorem lookup_mem (found : l.lookup k = some v) : (k, v) ∈ l := by
  induction l with
  | nil => cases found
  | cons entry l ih =>
      rw [List.lookup_cons] at found
      by_cases same : k = entry.1
      · rw [beq_iff_eq.mpr same] at found
        cases found
        rw [same]
        exact List.mem_cons_self
      · rw [beq_eq_false_iff_ne.mpr same] at found
        exact List.mem_cons_of_mem _ (ih found)

/-- In a map, whose keys are distinct, an entry is what is found under its key, wherever it stands.
-/
theorem lookup_of_mem (distinct : (l.map Prod.fst).Nodup) (member : (k, v) ∈ l) :
    l.lookup k = some v := by
  induction l with
  | nil => cases member
  | cons entry l ih =>
      obtain ⟨apart, distinct⟩ := List.nodup_cons.mp distinct
      rw [List.lookup_cons]
      rcases List.mem_cons.mp member with rfl | later
      · rw [beq_self_eq_true]
      · have other : k ≠ entry.1 := by
          rintro rfl
          exact apart (List.mem_map.mpr ⟨_, later, rfl⟩)
        rw [beq_eq_false_iff_ne.mpr other]
        exact ih distinct later

/-- A map in another order has the same entries, so the same is found under each key. -/
theorem lookup_perm (distinct : (l.map Prod.fst).Nodup) (perm : l'.Perm l) (k : α) :
    l'.lookup k = l.lookup k := by
  have distinct' : (l'.map Prod.fst).Nodup := (perm.map Prod.fst).nodup_iff.mpr distinct
  cases found : l'.lookup k with
  | some v => exact (lookup_of_mem distinct (perm.mem_iff.mp (lookup_mem found))).symm
  | none =>
      cases found' : l.lookup k with
      | none => rfl
      | some v =>
          rw [lookup_of_mem distinct' (perm.mem_iff.mpr (lookup_mem found'))] at found
          cases found

end Lookup

/-! ## What is built -/

/-- There is a strategy for exactly the five languages. -/
theorem strategyForLanguage_supported {lang : Language} :
    (∃ strategy, strategyForLanguage lang = .ok strategy) ↔ lang ∈ supportedLanguages := by
  simp only [supportedLanguages, List.mem_cons, List.not_mem_nil, or_false]
  unfold strategyForLanguage
  constructor
  · rintro ⟨strategy, found⟩
    by_contra unsupported
    simp only [not_or] at unsupported
    obtain ⟨python, go, c, cpp, java⟩ := unsupported
    rw [if_neg python, if_neg go, if_neg c, if_neg cpp, if_neg java] at found
    cases found
  · rintro (rfl | rfl | rfl | rfl | rfl) <;> exact ⟨_, rfl⟩

/-- A module needs an image and a supported language; the image for runs may be left out. -/
theorem newModule_ok_iff {lang : Language} {cfg : LanguageConfig} (env : ContainerEngine) :
    (∃ m, newModule lang cfg env = .ok m) ↔ cfg.image ≠ [] ∧ lang ∈ supportedLanguages := by
  rw [← strategyForLanguage_supported]
  unfold newModule newLanguageRuntime
  by_cases missing : cfg.image = []
  · rw [if_pos missing]
    exact ⟨nofun, fun both => absurd missing both.1⟩
  · rw [if_neg missing]
    cases strategyForLanguage lang with
    | error err => exact ⟨nofun, fun both => nomatch both.2⟩
    | ok strategy => exact ⟨fun _ => ⟨missing, _, rfl⟩, fun _ => ⟨_, rfl⟩⟩

/-- All entries of the map have to be usable, since the first that is not is an error. -/
theorem newModules_ok_iff {languages : List (Language × LanguageConfig)} (env : ContainerEngine) :
    (∃ mods, newModules env languages = .ok mods) ↔
      ∀ entry ∈ languages, entry.2.image ≠ [] ∧ entry.1 ∈ supportedLanguages := by
  induction languages with
  | nil => exact ⟨fun _ _ absurd => (List.not_mem_nil absurd).elim, fun _ => ⟨[], rfl⟩⟩
  | cons entry rest ih =>
      obtain ⟨lang, cfg⟩ := entry
      rw [List.forall_mem_cons, ← ih, ← newModule_ok_iff env, newModules]
      cases newModule lang cfg env with
      | error err => exact ⟨nofun, fun both => nomatch both.1⟩
      | ok m =>
          cases newModules env rest with
          | error err => exact ⟨nofun, fun both => nomatch both.2⟩
          | ok mods => exact ⟨fun _ => ⟨⟨m, rfl⟩, mods, rfl⟩, fun _ => ⟨_, rfl⟩⟩

/-- The modules come in the order of the entries, one for each. -/
theorem newModules_languages {languages : List (Language × LanguageConfig)} {env : ContainerEngine}
    {mods : List Module} (built : newModules env languages = .ok mods) :
    (mods.map fun m => m.runtime.language) = languages.map Prod.fst := by
  induction languages generalizing mods with
  | nil =>
      cases built
      rfl
  | cons entry rest ih =>
      obtain ⟨lang, cfg⟩ := entry
      unfold newModules at built
      cases first : newModule lang cfg env with
      | error err =>
          rw [first] at built
          cases built
      | ok m =>
          rw [first] at built
          cases others : newModules env rest with
          | error err =>
              simp only [others] at built
              cases built
          | ok mods' =>
              simp only [others] at built
              cases built
              rw [List.map_cons, List.map_cons, ih others]
              exact congrArg (· :: _) (newLanguageRuntime_language (newModule_ok first).1)

/-- Modules of named and distinct languages are registered one after another, without a duplicate or
a missing name to refuse. -/
theorem registerAll_distinct {seen : List Language} {mods : List Module}
    (named : ∀ m ∈ mods, m.runtime.language.name ≠ [])
    (distinct : (mods.map fun m => m.runtime.language).Nodup)
    (fresh : ∀ m ∈ mods, m.runtime.language ∉ seen) : registerAll seen mods = .ok () := by
  induction mods generalizing seen with
  | nil => rfl
  | cons m mods ih =>
      obtain ⟨apart, distinct⟩ := List.nodup_cons.mp distinct
      unfold registerAll
      rw [if_neg (named m List.mem_cons_self), if_neg (fresh m List.mem_cons_self)]
      refine ih (fun m' later => named m' (List.mem_cons_of_mem _ later)) distinct ?_
      intro m' later seen'
      rcases List.mem_cons.mp seen' with same | before
      · exact apart (List.mem_map.mpr ⟨m', later, same⟩)
      · exact fresh m' (List.mem_cons_of_mem _ later) before

/-- Of named modules without repetition, a registry refuses only to have none.  The names are
compared as they are. -/
theorem newRegistry_ok_iff {mods : List Module}
    (named : ∀ m ∈ mods, m.runtime.language.name ≠ [])
    (distinct : (mods.map fun m => m.runtime.language).Nodup) :
    (∃ r, newRegistry mods = .ok r) ↔ mods ≠ [] := by
  have all : registerAll [] mods = .ok () :=
    registerAll_distinct named distinct fun _ _ absurd => (List.not_mem_nil absurd).elim
  unfold newRegistry
  split
  · rename_i err failed
    rw [all] at failed
    cases failed
  · by_cases empty : mods = []
    · rw [dif_pos empty]
      exact ⟨nofun, fun nonempty => absurd empty nonempty⟩
    · rw [dif_neg empty]
      exact ⟨fun _ => empty, fun _ => ⟨_, rfl⟩⟩

/-- The supported languages have names, so the check for an empty one never fails for them. -/
theorem supportedLanguages_named {lang : Language} (supported : lang ∈ supportedLanguages) :
    lang.name ≠ [] := by
  revert lang
  decide

variable {cfg cfg' : DockerConfig} {engine : Engine Docker}

/-- What makes a configuration usable does not mention the order of its entries. -/
theorem usable_iff :
    cfg.Usable ↔ cfg.languages ≠ [] ∧
      ∀ entry ∈ cfg.languages, entry.2.image ≠ [] ∧ entry.1 ∈ supportedLanguages :=
  ⟨fun usable => ⟨usable.nonempty, fun entry member =>
    ⟨usable.image entry member, usable.supported entry member⟩⟩,
    fun both => ⟨both.1, fun entry member => (both.2 entry member).1,
      fun entry member => (both.2 entry member).2⟩⟩

/-- An engine is built exactly from a usable configuration; every way to fail is one of the
conditions. -/
theorem newEngineWithClient_usable :
    (∃ engine, newEngineWithClient cfg = .ok engine) ↔ cfg.Usable := by
  rw [usable_iff, ← newModules_ok_iff (newContainerEngine cfg.defaultLimits)]
  unfold newEngineWithClient newRegistryWithClient
  cases modules : newModules (newContainerEngine cfg.defaultLimits) cfg.languages with
  | error err => exact ⟨nofun, fun both => nomatch both.2⟩
  | ok mods =>
      have languages := newModules_languages modules
      have entries := (newModules_ok_iff _).mp ⟨mods, modules⟩
      have named : ∀ m ∈ mods, m.runtime.language.name ≠ [] := by
        intro m member
        have inside : m.runtime.language ∈ mods.map fun m => m.runtime.language :=
          List.mem_map.mpr ⟨m, member, rfl⟩
        rw [languages] at inside
        obtain ⟨entry, listed, same⟩ := List.mem_map.mp inside
        rw [← same]
        exact supportedLanguages_named (entries entry listed).2
      have registered := newRegistry_ok_iff named (languages ▸ cfg.keys)
      have empty : mods = [] ↔ cfg.languages = [] := by
        rw [← List.length_eq_zero_iff, ← List.length_eq_zero_iff, ← List.length_map (f := Prod.fst),
          ← languages, List.length_map]
      simp only
      cases found : newRegistry mods with
      | error err =>
          refine ⟨nofun, fun both => ?_⟩
          obtain ⟨r, absurd⟩ := registered.mpr fun none => both.1 (empty.mp none)
          rw [found] at absurd
          cases absurd
      | ok r =>
          refine ⟨fun _ => ⟨fun none => ?_, mods, rfl⟩, fun _ => ⟨_, rfl⟩⟩
          exact registered.mp ⟨r, found⟩ (empty.mpr none)

/-- ... and it prepares scripts as the configuration says. -/
theorem newEngineWithClient_eq (built : newEngineWithClient cfg = .ok engine) :
    engine = ⟨cfg.prepare⟩ := by
  unfold newEngineWithClient newRegistryWithClient at built
  cases modules : newModules (newContainerEngine cfg.defaultLimits) cfg.languages with
  | error err =>
      simp only [modules] at built
      cases built
  | ok mods =>
      simp only [modules] at built
      cases registered : newRegistry mods with
      | error err =>
          simp only [registered] at built
          cases built
      | ok r =>
          simp only [registered] at built
          cases built
          refine congrArg Engine.mk (funext fun script => ?_)
          have found := newModules_find modules script.language
          rw [← newRegistry_modules registered] at found
          unfold Registry.prepare Registry.moduleFor DockerConfig.prepare
          rcases found with ⟨unknown, missing⟩ | ⟨langCfg, m, known, module, here⟩
          · rw [unknown, missing]
            rfl
          · rw [known, here]
            simp only [module]

/-- So a map is usable in every order in which `range` goes over it, or in none. -/
theorem DockerConfig.Usable.perm (usable : cfg.Usable) (perm : cfg'.languages.Perm cfg.languages) :
    cfg'.Usable where
  nonempty empty := usable.nonempty (List.nil_perm.mp (empty ▸ perm))
  image entry member := usable.image entry (perm.mem_iff.mp member)
  supported entry member := usable.supported entry (perm.mem_iff.mp member)

/-- A script is prepared by what is found under its language, and what is found does not depend on
the order. -/
theorem DockerConfig.prepare_perm (perm : cfg'.languages.Perm cfg.languages)
    (limits : cfg'.defaultLimits = cfg.defaultLimits) : cfg'.prepare = cfg.prepare := by
  funext script
  unfold DockerConfig.prepare
  rw [lookup_perm cfg.keys perm, limits]

/-- **Maps have no order.**  Of a configuration whose languages are ranged over in another order the
same engine is built or none: one is, when there are languages, all with a strategy and an image.
It prepares a script with the module of the configured language, and refuses other languages. -/
theorem engine_of_map (perm : cfg'.languages.Perm cfg.languages)
    (limits : cfg'.defaultLimits = cfg.defaultLimits) :
    (∀ engine, newEngineWithClient cfg' = .ok engine ↔ newEngineWithClient cfg = .ok engine) ∧
    ((∃ engine, newEngineWithClient cfg = .ok engine) ↔ cfg.Usable) ∧
    ∀ engine, newEngineWithClient cfg = .ok engine → ∀ script,
      (∀ langCfg, (script.language, langCfg) ∈ cfg.languages →
        ∃ m, newModule script.language langCfg (newContainerEngine cfg.defaultLimits) = .ok m ∧
          engine.prepare script = m.prepare script) ∧
      (script.language ∉ cfg.languages.map Prod.fst →
        engine.prepare script = .ret (.failed (.new
          (lit "no runtime module registered for language " ++ quote script.language.name)))) := by
  have same := DockerConfig.prepare_perm perm limits
  refine ⟨fun engine => ?_, newEngineWithClient_usable, fun engine built script => ⟨?_, ?_⟩⟩
  · constructor
    · intro built
      obtain ⟨engine', built'⟩ :=
        newEngineWithClient_usable.mpr ((newEngineWithClient_usable.mp ⟨_, built⟩).perm perm.symm)
      rw [newEngineWithClient_eq built, same, ← newEngineWithClient_eq built', built']
    · intro built
      obtain ⟨engine', built'⟩ :=
        newEngineWithClient_usable.mpr ((newEngineWithClient_usable.mp ⟨_, built⟩).perm perm)
      rw [newEngineWithClient_eq built, ← same, ← newEngineWithClient_eq built', built']
  · intro langCfg member
    have usable := newEngineWithClient_usable.mp ⟨_, built⟩
    obtain ⟨m, module⟩ := (newModule_ok_iff (newContainerEngine cfg.defaultLimits)).mpr
      ⟨usable.image _ member, usable.supported _ member⟩
    refine ⟨m, module, ?_⟩
    rw [newEngineWithClient_eq built]
    simp only [DockerConfig.prepare, lookup_of_mem cfg.keys member, module]
  · intro unknown
    rw [newEngineWithClient_eq built]
    simp only [DockerConfig.prepare]
    cases found : cfg.languages.lookup script.language with
    | none => rfl
    | some langCfg => exact absurd (List.mem_map.mpr ⟨_, lookup_mem found, rfl⟩) unknown

/-- Two languages, in the one order and the other. -/
def pythonThenC : DockerConfig where
  languages := [(.python, ⟨"python:3.12-alpine", [], []⟩), (.c, ⟨"gcc:14", "alpine:3.20", []⟩)]
  defaultLimits := ⟨0, 0⟩
  keys := by decide

def cThenPython : DockerConfig where
  languages := [(.c, ⟨"gcc:14", "alpine:3.20", []⟩), (.python, ⟨"python:3.12-alpine", [], []⟩)]
  defaultLimits := ⟨0, 0⟩
  keys := by decide

theorem engine_of_map_swapped :
    ∃ engine, newEngineWithClient pythonThenC = .ok engine ∧
      newEngineWithClient cThenPython = .ok engine := by
  obtain ⟨same, -, -⟩ :=
    engine_of_map (show cThenPython.languages.Perm pythonThenC.languages from .swap _ _ []) rfl
  exact ⟨_, rfl, (same _).mpr rfl⟩

end Scrc
