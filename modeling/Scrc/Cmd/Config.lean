import Scrc.Docker.Wiring
import Scrc.Kafka.Decode

/-!
# Configuration from the environment

Package `main`, the part that reads environment variables: which brokers and topics are used, how
many scripts are run and how many at once, and the configuration of the Docker runtime.

* `loadAppConfig`, `dockerConfigFromEnv`: the two configurations.
* `dockerConfigFromEnv_usable`: what the second has whatever the variables say.
* `loadAppConfig_environ`: what the first has, and that it is read back from its own spelling.
-/

namespace Scrc

/-- What `os.Getenv` returns; nothing when the variable is not set. -/
abbrev Environ := String → GoString

def envOrDefault (getenv : Environ) (key fallback : String) : GoString :=
  if getenv key ≠ [] then getenv key else lit fallback

/-! ## Lists of brokers -/

/-- The encodings of the code points that `unicode.IsSpace` accepts. -/
def whiteSpace : List GoString :=
  [[9], [10], [11], [12], [13], [32], [0xC2, 0x85], [0xC2, 0xA0], [0xE1, 0x9A, 0x80],
    [0xE2, 0x80, 0x80], [0xE2, 0x80, 0x81], [0xE2, 0x80, 0x82], [0xE2, 0x80, 0x83],
    [0xE2, 0x80, 0x84], [0xE2, 0x80, 0x85], [0xE2, 0x80, 0x86], [0xE2, 0x80, 0x87],
    [0xE2, 0x80, 0x88], [0xE2, 0x80, 0x89], [0xE2, 0x80, 0x8A], [0xE2, 0x80, 0xA8],
    [0xE2, 0x80, 0xA9], [0xE2, 0x80, 0xAF], [0xE2, 0x81, 0x9F], [0xE3, 0x80, 0x80]]

/-- What is left of a string without the leading ones of `spaces`, of which at most so many. -/
def trimLeft (spaces : List GoString) : Nat → GoString → GoString
  | 0, s => s
  | n + 1, s =>
      match spaces.find? fun space => space.isPrefixOf s with
      | some space => trimLeft spaces n (s.drop space.length)
      | none => s

/-- `strings.TrimSpace`. -/
def trimSpace (s : GoString) : GoString :=
  let left := trimLeft whiteSpace s.length s
  (trimLeft (whiteSpace.map List.reverse) left.length left.reverse).reverse

def parseBrokerList (raw : GoString) : List GoString :=
  (raw.splitOn 44).filterMap fun field =>
    let trimmed := trimSpace field
    if trimmed ≠ [] then some trimmed else none

/-! ## Numbers -/

/-- `strconv.Atoi`, and `strconv.ParseInt(raw, 10, 64)`; there is no number when it fails. -/
def atoi (raw : GoString) : Option Int :=
  match raw with
  | 43 :: rest => if rest.head? = some 45 then none else parseInt rest
  | _ => parseInt raw

def parseMaxScripts (raw : GoString) : Int :=
  if raw = [] then 0
  else
    match atoi raw with
    | none => 0
    | some value => if value < 0 then 0 else value

def parseMaxParallel (raw : GoString) : Int :=
  if raw = [] then 1
  else
    match atoi raw with
    | none => 1
    | some value => if value ≤ 0 then 1 else value

def parseBytes (raw : GoString) : Int64 :=
  if raw = [] then 0
  else
    match atoi raw with
    | none => 0
    | some value => if value < 0 then 0 else Int64.ofInt value

/-- `parseDuration`; `time.ParseDuration` is a parameter, since it computes with floats. -/
def parseDuration (timeParseDuration : GoString → Option Duration) (raw : GoString)
    (fallback : Duration) : Duration :=
  if raw = [] then fallback
  else
    match timeParseDuration raw with
    | none => fallback
    | some d => d

/-! ## The configurations -/

structure AppConfig where
  kafkaBrokers : List GoString
  scriptsTopic : GoString
  resultsTopic : GoString
  groupID : GoString
  maxScripts : Int
  maxParallel : Int
  deriving DecidableEq

def loadAppConfig (getenv : Environ) : AppConfig where
  kafkaBrokers := parseBrokerList (envOrDefault getenv "KAFKA_BROKERS" "kafka:9092")
  scriptsTopic := envOrDefault getenv "KAFKA_TOPIC" "scripts"
  resultsTopic := envOrDefault getenv "KAFKA_RESULTS_TOPIC" "script-results"
  groupID := envOrDefault getenv "KAFKA_GROUP_ID" "scrc-runner"
  maxScripts := parseMaxScripts (getenv "SCRIPT_EXPECTED")
  maxParallel := parseMaxParallel (getenv "RUNNER_MAX_PARALLEL")

def containerWorkdir : String := "/tmp"

/-- `dockerConfigFromEnv`, with the languages in the order in which the source has them. -/
def dockerConfigFromEnv (timeParseDuration : GoString → Option Duration) (getenv : Environ) :
    DockerConfig where
  languages :=
    [(.python,
      { image := envOrDefault getenv "PYTHON_IMAGE" "python:3.12-alpine"
        runImage := []
        workdir := envOrDefault getenv "PYTHON_WORKDIR" containerWorkdir }),
    (.go,
      { image := envOrDefault getenv "GO_IMAGE" "golang:1.22-alpine"
        runImage := envOrDefault getenv "GO_RUN_IMAGE" "alpine:3.20"
        workdir := envOrDefault getenv "GO_WORKDIR" containerWorkdir }),
    (.c,
      { image := envOrDefault getenv "C_IMAGE" "gcc:14"
        runImage := envOrDefault getenv "C_RUN_IMAGE" "alpine:3.20"
        workdir := envOrDefault getenv "C_WORKDIR" containerWorkdir }),
    (.cpp,
      { image := envOrDefault getenv "CPP_IMAGE" "gcc:14"
        runImage := envOrDefault getenv "CPP_RUN_IMAGE" "alpine:3.20"
        workdir := envOrDefault getenv "CPP_WORKDIR" containerWorkdir }),
    (.java,
      { image := envOrDefault getenv "JAVA_IMAGE" "eclipse-temurin:21-jdk-alpine"
        runImage := envOrDefault getenv "JAVA_RUN_IMAGE" "eclipse-temurin:21-jre-alpine"
        workdir := envOrDefault getenv "JAVA_WORKDIR" containerWorkdir })]
  defaultLimits :=
    { timeLimit := parseDuration timeParseDuration (getenv "RUNNER_TIME_LIMIT") 0
      memoryLimitBytes := parseBytes (getenv "RUNNER_MEMORY_LIMIT") }
  keys := by simp only [List.map_cons, List.map_nil]; decide

/-! ## What they have -/

/-- A variable with a default is never empty, as an empty value counts as unset. -/
theorem envOrDefault_ne_nil (getenv : Environ) (key : String) {fallback : String}
    (nonempty : fallback ≠ "") : envOrDefault getenv key fallback ≠ [] := by
  unfold envOrDefault
  split
  · assumption
  · exact lit_ne_nil nonempty

/-- Every language has a strategy and an image, whatever the environment. -/
theorem dockerConfigFromEnv_usable (timeParseDuration : GoString → Option Duration)
    (getenv : Environ) : (dockerConfigFromEnv timeParseDuration getenv).Usable where
  nonempty := nofun
  image := by
    simp only [dockerConfigFromEnv, List.forall_mem_cons]
    refine ⟨?_, ?_, ?_, ?_, ?_, fun _ absurd => (List.not_mem_nil absurd).elim⟩ <;>
      exact envOrDefault_ne_nil _ _ (by decide)
  supported := by
    simp only [dockerConfigFromEnv, List.forall_mem_cons]
    refine ⟨?_, ?_, ?_, ?_, ?_, fun _ absurd => (List.not_mem_nil absurd).elim⟩ <;> decide

/-- `strconv.Atoi` refuses what does not fit in 64 bits. -/
theorem atoi_fits {raw : GoString} {n : Int} (read : atoi raw = some n) : Fits n := by
  unfold atoi at read
  split at read
  · split at read
    · cases read
    · exact parseInt_fits read
  · exact parseInt_fits read

theorem intText_ne_nil (n : Int) : intText n ≠ [] := by
  rw [intText_eq]
  cases n with
  | ofNat m => exact Decimal.digits_ne_nil m
  | negSucc m => exact nofun

/-- What `%d` writes is read back by `Atoi`, also for negative numbers. -/
theorem atoi_intText {n : Int} (fits : Fits n) : atoi (intText n) = some n := by
  have digit : ∀ m : Nat, (Decimal.digits m).head? ≠ some 43 := by
    intro m plus
    have bound := Decimal.mem_digits (List.mem_of_head? plus)
    exact absurd bound (by decide)
  have unsigned : (intText n).head? ≠ some 43 := by
    rw [intText_eq]
    cases n with
    | ofNat m => exact digit m
    | negSucc m => exact nofun
  unfold atoi
  split
  · rename_i rest same
    rw [same] at unsigned
    exact absurd rfl unsigned
  · rw [parseInt_intText, if_pos fits]

/-- The variable of a number is read as that number, but that one out of range counts as unset. -/
theorem parseMaxScripts_intText {n : Int} (fits : Fits n) : parseMaxScripts (intText n) = max 0 n := by
  unfold parseMaxScripts
  rw [if_neg (intText_ne_nil n), atoi_intText fits]
  dsimp only
  split <;> omega

/-- A parallelism below one is raised to one. -/
theorem parseMaxParallel_intText {n : Int} (fits : Fits n) :
    parseMaxParallel (intText n) = max 1 n := by
  unfold parseMaxParallel
  rw [if_neg (intText_ne_nil n), atoi_intText fits]
  dsimp only
  split <;> omega

/-- Whatever the variable holds, the limit is not negative; a text that is no number counts as no
limit. -/
theorem parseMaxScripts_range (raw : GoString) :
    0 ≤ parseMaxScripts raw ∧ Fits (parseMaxScripts raw) := by
  unfold parseMaxScripts
  split
  · exact ⟨Int.le_refl 0, by decide⟩
  · split
    · exact ⟨Int.le_refl 0, by decide⟩
    · rename_i value read
      have fits := atoi_fits read
      split
      · exact ⟨Int.le_refl 0, by decide⟩
      · exact ⟨by omega, fits⟩

/-- Whatever the variable holds, at least one script may run. -/
theorem parseMaxParallel_range (raw : GoString) :
    1 ≤ parseMaxParallel raw ∧ Fits (parseMaxParallel raw) := by
  unfold parseMaxParallel
  split
  · exact ⟨Int.le_refl 1, by decide⟩
  · split
    · exact ⟨Int.le_refl 1, by decide⟩
    · rename_i value read
      have fits := atoi_fits read
      split
      · exact ⟨Int.le_refl 1, by decide⟩
      · exact ⟨by omega, fits⟩

/-- A string with no white space at its ends. -/
def Trimmed (s : GoString) : Prop := ∀ space ∈ whiteSpace, ¬ space <+: s ∧ ¬ space <:+ s

section Trim

variable (spaces : List GoString) {s : GoString} {n : Nat}

theorem trimLeft_suffix (n : Nat) (s : GoString) : trimLeft spaces n s <:+ s := by
  induction n generalizing s with
  | zero => exact List.suffix_refl s
  | succ n ih =>
      unfold trimLeft
      split
      · exact (ih _).trans (List.drop_suffix _ _)
      · exact List.suffix_refl s

/-- Enough rounds leave no white space in front.  Each round that goes on removes at least one byte,
so as many rounds as the text has bytes are enough. -/
theorem trimLeft_trimmed (nonempty : ∀ space ∈ spaces, space ≠ []) (enough : s.length ≤ n) :
    ∀ space ∈ spaces, ¬ space <+: trimLeft spaces n s := by
  induction n generalizing s with
  | zero =>
      have empty : s = [] := List.length_eq_zero_iff.mp (Nat.le_zero.mp enough)
      subst empty
      intro space member starts
      exact nonempty space member (List.prefix_nil.mp starts)
  | succ n ih =>
      unfold trimLeft
      split
      · rename_i space found
        have positive := List.length_pos_iff.mpr (nonempty space (List.mem_of_find?_eq_some found))
        exact ih (by rw [List.length_drop]; omega)
      · rename_i missing
        intro space member starts
        exact List.find?_eq_none.mp missing space member (List.isPrefixOf_iff_prefix.mpr starts)

/-- Nothing is taken from a string without white space in front. -/
theorem trimLeft_fixed (clean : ∀ space ∈ spaces, ¬ space <+: s) : trimLeft spaces n s = s := by
  cases n with
  | zero => rfl
  | succ n =>
      have missing : (spaces.find? fun space => space.isPrefixOf s) = none := by
        refine List.find?_eq_none.mpr fun space member starts => ?_
        exact clean space member (List.isPrefixOf_iff_prefix.mp starts)
      unfold trimLeft
      rw [missing]

end Trim

theorem whiteSpace_ne_nil : ∀ space ∈ whiteSpace, space ≠ [] := by decide

/-- What is trimmed has no white space at its ends.  The two loops are bounded by the length of the
text, which is enough as no space is empty. -/
theorem trimSpace_trimmed (s : GoString) : Trimmed (trimSpace s) := by
  have left := trimLeft_trimmed _ whiteSpace_ne_nil (Nat.le_refl s.length)
  generalize whole : trimLeft whiteSpace s.length s = t at left
  have unfolded : trimSpace s =
      (trimLeft (whiteSpace.map List.reverse) t.length t.reverse).reverse := by
    unfold trimSpace
    rw [whole]
  have ends : trimSpace s <+: t := by
    rw [unfolded, ← List.reverse_suffix, List.reverse_reverse]
    exact trimLeft_suffix _ _ _
  have reversed : ∀ space ∈ whiteSpace.map List.reverse, space ≠ [] := by decide
  have right := trimLeft_trimmed _ reversed (Nat.le_of_eq t.length_reverse)
  intro space member
  refine ⟨fun starts => left space member (starts.trans ends), fun finishes => ?_⟩
  refine right space.reverse (List.mem_map.mpr ⟨space, member, rfl⟩) ?_
  rw [unfolded] at finishes
  rwa [← List.reverse_suffix, List.reverse_reverse]

/-- And what has none is not changed. -/
theorem trimSpace_fixed {s : GoString} (trimmed : Trimmed s) : trimSpace s = s := by
  unfold trimSpace
  simp only
  rw [trimLeft_fixed _ fun space member => (trimmed space member).1]
  rw [trimLeft_fixed _, List.reverse_reverse]
  intro space member starts
  obtain ⟨space', member', rfl⟩ := List.mem_map.mp member
  exact (trimmed space' member').2 (List.reverse_prefix.mp starts)

/-- The fields of a list have no comma, which is where the list was split. -/
theorem not_mem_splitOn {α : Type} [BEq α] [LawfulBEq α] {a : α} {s field : List α}
    (member : field ∈ s.splitOn a) : a ∉ field := by
  induction s generalizing field with
  | nil =>
      rw [List.splitOn_nil, List.mem_singleton] at member
      rw [member]
      exact List.not_mem_nil
  | cons b s ih =>
      rw [List.splitOn_cons_eq_if_modifyHead] at member
      split at member
      · rcases List.mem_cons.mp member with rfl | later
        · exact List.not_mem_nil
        · exact ih later
      · rename_i other
        cases fields : s.splitOn a with
        | nil => exact absurd fields (List.splitOn_ne_nil a s)
        | cons first rest =>
            rw [fields, List.modifyHead_cons] at member
            rw [fields] at ih
            rcases List.mem_cons.mp member with rfl | later
            · intro inside
              rcases List.mem_cons.mp inside with rfl | deeper
              · exact other (beq_self_eq_true a)
              · exact ih List.mem_cons_self deeper
            · exact ih (List.mem_cons_of_mem _ later)

/-- A field that is taken as it stands. -/
structure BrokerName (b : GoString) : Prop where
  nonempty : b ≠ []
  trimmed : Trimmed b
  noComma : 44 ∉ b

/-- The names that are kept are trimmed, not empty and without commas, for every text. -/
theorem parseBrokerList_names (raw : GoString) : ∀ b ∈ parseBrokerList raw, BrokerName b := by
  intro b member
  obtain ⟨field, inside, kept⟩ := List.mem_filterMap.mp member
  simp only [ne_eq, Option.ite_none_right_eq_some, Option.some.injEq] at kept
  obtain ⟨nonempty, rfl⟩ := kept
  refine ⟨nonempty, trimSpace_trimmed field, fun comma => not_mem_splitOn inside ?_⟩
  have left : trimLeft whiteSpace field.length field <:+ field := trimLeft_suffix _ _ _
  have right := trimLeft_suffix (whiteSpace.map List.reverse)
    (trimLeft whiteSpace field.length field).length (trimLeft whiteSpace field.length field).reverse
  refine left.subset (List.mem_reverse.mp (right.subset ?_))
  exact List.mem_reverse.mp comma

/-- Names with commas between them are read as these names: splitting undoes the commas, and
trimming changes no name that is one. -/
theorem parseBrokerList_join {brokers : List GoString} (names : ∀ b ∈ brokers, BrokerName b) :
    parseBrokerList ([44].intercalate brokers) = brokers := by
  by_cases empty : brokers = []
  · subst empty
    rfl
  · unfold parseBrokerList
    rw [List.splitOn_intercalate 44 (fun b member => (names b member).noComma) empty]
    have kept : ∀ b ∈ brokers, (fun field =>
        let trimmed := trimSpace field
        if trimmed ≠ [] then some trimmed else none) b = some b := by
      intro b member
      simp only [trimSpace_fixed (names b member).trimmed]
      exact if_pos (names b member).nonempty
    rw [List.filterMap_congr kept, List.filterMap_some]

/-! ## Reading a configuration back -/

/-- What every configuration that is read has. -/
structure AppConfig.Sound (cfg : AppConfig) : Prop where
  brokers : ∀ b ∈ cfg.kafkaBrokers, BrokerName b
  scriptsTopic : cfg.scriptsTopic ≠ []
  resultsTopic : cfg.resultsTopic ≠ []
  groupID : cfg.groupID ≠ []
  maxScripts : 0 ≤ cfg.maxScripts ∧ Fits cfg.maxScripts
  maxParallel : 1 ≤ cfg.maxParallel ∧ Fits cfg.maxParallel

/-- The variables that spell a configuration. -/
def AppConfig.environ (cfg : AppConfig) : Environ := fun key =>
  if key = "KAFKA_BROKERS" then [44].intercalate cfg.kafkaBrokers
  else if key = "KAFKA_TOPIC" then cfg.scriptsTopic
  else if key = "KAFKA_RESULTS_TOPIC" then cfg.resultsTopic
  else if key = "KAFKA_GROUP_ID" then cfg.groupID
  else if key = "SCRIPT_EXPECTED" then intText cfg.maxScripts
  else if key = "RUNNER_MAX_PARALLEL" then intText cfg.maxParallel
  else []

/-- A variable that is set is read as it is. -/
theorem envOrDefault_set (getenv : Environ) {key fallback : String} (set : getenv key ≠ []) :
    envOrDefault getenv key fallback = getenv key := if_pos set

/-- **Reading a configuration back.**  Whatever the environment, the configuration that is read has
names for brokers, topics and a group, and numbers in their ranges; and every configuration that has
these, and some broker, is read from the variables that spell it. -/
theorem loadAppConfig_environ :
    (∀ getenv, (loadAppConfig getenv).Sound) ∧
    ∀ cfg : AppConfig, cfg.Sound → cfg.kafkaBrokers ≠ [] → loadAppConfig cfg.environ = cfg := by
  constructor
  · intro getenv
    exact ⟨parseBrokerList_names _, envOrDefault_ne_nil _ _ (by decide),
      envOrDefault_ne_nil _ _ (by decide), envOrDefault_ne_nil _ _ (by decide),
      parseMaxScripts_range _, parseMaxParallel_range _⟩
  · intro cfg sound some_broker
    have joined : [44].intercalate cfg.kafkaBrokers ≠ [] := by
      intro empty
      have read := parseBrokerList_join sound.brokers
      rw [empty] at read
      exact some_broker read.symm
    have brokers : envOrDefault cfg.environ "KAFKA_BROKERS" "kafka:9092" =
        [44].intercalate cfg.kafkaBrokers := envOrDefault_set _ joined
    have scripts : envOrDefault cfg.environ "KAFKA_TOPIC" "scripts" = cfg.scriptsTopic :=
      envOrDefault_set cfg.environ sound.scriptsTopic
    have results : envOrDefault cfg.environ "KAFKA_RESULTS_TOPIC" "script-results" =
        cfg.resultsTopic := envOrDefault_set cfg.environ sound.resultsTopic
    have group : envOrDefault cfg.environ "KAFKA_GROUP_ID" "scrc-runner" = cfg.groupID :=
      envOrDefault_set cfg.environ sound.groupID
    have expected : cfg.environ "SCRIPT_EXPECTED" = intText cfg.maxScripts := rfl
    have parallel : cfg.environ "RUNNER_MAX_PARALLEL" = intText cfg.maxParallel := rfl
    unfold loadAppConfig
    rw [brokers, scripts, results, group, expected, parallel, parseBrokerList_join sound.brokers,
      parseMaxScripts_intText sound.maxScripts.2, parseMaxParallel_intText sound.maxParallel.2,
      Int.max_eq_right sound.maxScripts.1, Int.max_eq_right sound.maxParallel.1]

/-- A configuration with two brokers, in which nothing is the default. -/
def graders : AppConfig :=
  ⟨["kafka-1:9092", "kafka-2:9092"], "jobs", "answers", "graders", 12, 4⟩

theorem graders_sound : graders.Sound where
  brokers := by
    have trimmed : ∀ b ∈ graders.kafkaBrokers, ∀ space ∈ whiteSpace, ¬ space <+: b ∧ ¬ space <:+ b := by
      decide
    exact fun b member => ⟨(by decide : ∀ b ∈ graders.kafkaBrokers, b ≠ []) b member,
      trimmed b member, (by decide : ∀ b ∈ graders.kafkaBrokers, 44 ∉ b) b member⟩
  scriptsTopic := by decide
  resultsTopic := by decide
  groupID := by decide
  maxScripts := by decide
  maxParallel := by decide

/-- It is read from its six variables, of which none has its default. -/
theorem loadAppConfig_environ_graders :
    ["KAFKA_BROKERS", "KAFKA_TOPIC", "KAFKA_RESULTS_TOPIC", "KAFKA_GROUP_ID", "SCRIPT_EXPECTED",
        "RUNNER_MAX_PARALLEL"].map graders.environ =
      ["kafka-1:9092,kafka-2:9092", "jobs", "answers", "graders", "12", "4"].map lit ∧
    loadAppConfig graders.environ = graders :=
  ⟨by decide, loadAppConfig_environ.2 graders graders_sound (by decide)⟩

end Scrc
