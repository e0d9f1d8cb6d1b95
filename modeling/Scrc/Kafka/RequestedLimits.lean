import Mathlib.Algebra.Group.Int.Defs
import Scrc.Docker.ContainerEngine
import Scrc.Kafka.Messages

/-!
# Requested time limits

A request in milliseconds becomes a limit in nanoseconds, in 64-bit arithmetic and without a check
of its size.  Up to `longestRequest` the product fits, and the limit enforced is the one requested;
from there on it wraps, and what is left of it is enforced, or the configured default when that is
not positive.
-/

namespace Scrc

/-- The limit enforced for a script with these limits in its message: `toLimits`, then
`effectiveLimits` of an engine with the given defaults. -/
def enforcedLimits (defaults : RunLimits) (requested : ScriptLimits) : RunLimits :=
  (newContainerEngine defaults).effectiveLimits
    ({ limits := some requested } : ScriptEnvelope).toLimits

/-- The most milliseconds whose nanoseconds are an `int64`. -/
def longestRequest : Int := 9223372036854

/-- The nanoseconds that the multiplication of `toLimits` yields. -/
def wrappedNanoseconds (milliseconds : Int) : Int := (milliseconds * 1000000).bmod (2 ^ 64)

/-- A request for `a` is kept beside one for `b`: `a` milliseconds are enforced, and no more than
are for `b`. -/
structure Kept (defaults : RunLimits) (a b : ScriptLimits) : Prop where
  positive : 0 < (enforcedLimits defaults a).timeLimit
  requested : (enforcedLimits defaults a).timeLimit.toInt = a.timeLimitMs.toInt * 1000000
  monotone : (enforcedLimits defaults a).timeLimit ≤ (enforcedLimits defaults b).timeLimit

/-! ## What is enforced -/

theorem normalizeLimits_timeLimit (l : RunLimits) :
    (normalizeLimits l).timeLimit = if l.timeLimit < 0 then 0 else l.timeLimit := rfl

/-- A positive request overrides the default, any other one does not. -/
theorem effectiveLimits_timeLimit (c : ContainerEngine) (request : RunLimits) :
    (c.effectiveLimits request).timeLimit =
      if 0 < request.timeLimit then request.timeLimit else c.defaultLimits.timeLimit := by
  unfold ContainerEngine.effectiveLimits
  simp only [normalizeLimits_timeLimit, gt_iff_lt]
  by_cases negative : request.timeLimit < 0
  · rw [if_pos negative, if_neg Int64.lt_irrefl, if_neg]
    rw [Int64.lt_iff_toInt_lt] at negative ⊢
    omega
  · rw [if_neg negative]

section Enforced

variable {defaults : RunLimits} {a b l : ScriptLimits}

theorem enforcedLimits_timeLimit (positive : 0 < l.timeLimitMs) :
    (enforcedLimits defaults l).timeLimit.toInt =
      if 0 < wrappedNanoseconds l.timeLimitMs.toInt then wrappedNanoseconds l.timeLimitMs.toInt
      else max defaults.timeLimit.toInt 0 := by
  have product : (l.timeLimitMs * Duration.millisecond).toInt =
      wrappedNanoseconds l.timeLimitMs.toInt := Int64.toInt_mul _ _
  have request : ({ limits := some l } : ScriptEnvelope).toLimits.timeLimit =
      l.timeLimitMs * Duration.millisecond := if_pos positive
  have overrides : 0 < l.timeLimitMs * Duration.millisecond ↔
      0 < wrappedNanoseconds l.timeLimitMs.toInt := by
    rw [Int64.lt_iff_toInt_lt, product]
    rfl
  unfold enforcedLimits
  rw [effectiveLimits_timeLimit, request]
  by_cases fresh : 0 < wrappedNanoseconds l.timeLimitMs.toInt
  · rw [if_pos (overrides.mpr fresh), if_pos fresh, product]
  · have default : (newContainerEngine defaults).defaultLimits.timeLimit =
        if defaults.timeLimit < 0 then 0 else defaults.timeLimit := normalizeLimits_timeLimit _
    rw [if_neg (mt overrides.mp fresh), if_neg fresh, default]
    by_cases negative : defaults.timeLimit < 0
    · rw [if_pos negative]
      exact (Int.max_eq_right (Int.le_of_lt (Int64.lt_iff_toInt_lt.mp negative))).symm
    · rw [if_neg negative]
      exact (Int.max_eq_left (Int.not_lt.mp (mt Int64.lt_iff_toInt_lt.mpr negative))).symm

/-- A product that fits is not changed. -/
theorem wrappedNanoseconds_of_le {ms : Int} (positive : 0 < ms) (fits : ms ≤ longestRequest) :
    wrappedNanoseconds ms = ms * 1000000 := by
  unfold longestRequest at fits
  exact Int.bmod_eq_of_le (by omega) (by omega)

/-- The limit of a request that fits. -/
theorem enforcedLimits_of_le (positive : 0 < l.timeLimitMs)
    (fits : l.timeLimitMs.toInt ≤ longestRequest) :
    (enforcedLimits defaults l).timeLimit.toInt = l.timeLimitMs.toInt * 1000000 := by
  have above : 0 < l.timeLimitMs.toInt := Int64.lt_iff_toInt_lt.mp positive
  rw [enforcedLimits_timeLimit positive, wrappedNanoseconds_of_le above fits]
  exact if_pos (by omega)

/-- The limit of a request that does not fit is another one, or the default in its place. -/
theorem not_requested_of_gt (large : longestRequest < l.timeLimitMs.toInt) :
    (enforcedLimits defaults l).timeLimit.toInt ≠ l.timeLimitMs.toInt * 1000000 := by
  have below := (enforcedLimits defaults l).timeLimit.toInt_lt
  unfold longestRequest at large
  omega

/-- What is kept of a pair of requests. -/
theorem kept_iff (positive : 0 < a.timeLimitMs) (ordered : a.timeLimitMs ≤ b.timeLimitMs) :
    Kept defaults a b ↔
      a.timeLimitMs.toInt ≤ longestRequest ∧
        (longestRequest < b.timeLimitMs.toInt →
          a.timeLimitMs.toInt * 1000000 ≤
            if 0 < wrappedNanoseconds b.timeLimitMs.toInt then
              wrappedNanoseconds b.timeLimitMs.toInt
            else max defaults.timeLimit.toInt 0) := by
  have zero : (0 : Int64).toInt = 0 := rfl
  have above := Int64.lt_iff_toInt_lt.mp positive
  have order := Int64.le_iff_toInt_le.mp ordered
  have later : 0 < b.timeLimitMs := by
    rw [Int64.lt_iff_toInt_lt]
    omega
  constructor
  · intro kept
    have fits : a.timeLimitMs.toInt ≤ longestRequest := by
      by_contra large
      exact not_requested_of_gt (Int.not_le.mp large) kept.requested
    refine ⟨fits, fun _ => ?_⟩
    rw [← enforcedLimits_timeLimit later, ← kept.requested]
    exact Int64.le_iff_toInt_le.mp kept.monotone
  · rintro ⟨fits, large⟩
    have requested : (enforcedLimits defaults a).timeLimit.toInt =
        a.timeLimitMs.toInt * 1000000 := enforcedLimits_of_le positive fits
    refine ⟨?_, requested, ?_⟩
    · rw [Int64.lt_iff_toInt_lt, requested]
      omega
    · rw [Int64.le_iff_toInt_le, requested]
      by_cases fits' : b.timeLimitMs.toInt ≤ longestRequest
      · rw [enforcedLimits_of_le later fits']
        omega
      · rw [enforcedLimits_timeLimit later]
        exact large (Int.not_le.mp fits')

end Enforced

/-! ## Which requests are kept -/

/-- **Requested time limits.**  A pair of requests is kept when both fit; a first one that does not
fit never is, and a second one by accident only, when what is left of its product, or the default in
its place, is large enough.  So every smaller request is kept beside `b` exactly when `b` fits. -/
theorem requests_kept_iff (defaults : RunLimits) :
    (∀ a b : ScriptLimits, 0 < a.timeLimitMs → a.timeLimitMs ≤ b.timeLimitMs →
      (Kept defaults a b ↔
        a.timeLimitMs.toInt ≤ longestRequest ∧
          (longestRequest < b.timeLimitMs.toInt →
            a.timeLimitMs.toInt * 1000000 ≤
              if 0 < wrappedNanoseconds b.timeLimitMs.toInt then
                wrappedNanoseconds b.timeLimitMs.toInt
              else max defaults.timeLimit.toInt 0))) ∧
    ∀ b : ScriptLimits,
      (∀ a : ScriptLimits, 0 < a.timeLimitMs → a.timeLimitMs ≤ b.timeLimitMs → Kept defaults a b) ↔
        b.timeLimitMs.toInt ≤ longestRequest := by
  refine ⟨fun a b positive ordered => kept_iff positive ordered, fun b => ⟨fun all => ?_, ?_⟩⟩
  · -- beside itself, `b` is kept only when it fits
    by_contra large
    have above : 0 < b.timeLimitMs := by
      rw [Int64.lt_iff_toInt_lt]
      exact Int.lt_trans (by decide) (Int.not_le.mp large)
    exact large ((kept_iff above (Int64.le_refl _)).mp (all b above (Int64.le_refl _))).1
  · intro fits a positive ordered
    have order := Int64.le_iff_toInt_le.mp ordered
    exact (kept_iff positive ordered).mpr
      ⟨Int.le_trans order fits, fun large => absurd fits (Int.not_le.mpr large)⟩

theorem requests_kept_iff_second : Kept ⟨0, 0⟩ ⟨500, 0⟩ ⟨1000, 0⟩ :=
  ((requests_kept_iff ⟨0, 0⟩).2 ⟨1000, 0⟩).mpr (by decide) ⟨500, 0⟩ (by decide) (by decide)

/-- The first request that does not fit runs without a limit when there is no default. -/
theorem overlongRequest_unlimited :
    (enforcedLimits ⟨0, 0⟩ ⟨9223372036855, 0⟩).timeLimit = 0 ∧
    ¬ ∀ a b : ScriptLimits, 0 < a.timeLimitMs → a.timeLimitMs ≤ b.timeLimitMs →
        Kept ⟨0, 0⟩ a b := by
  refine ⟨by decide, fun kept => ?_⟩
  have positive := (kept ⟨9223372036855, 0⟩ ⟨9223372036855, 0⟩ (by decide) (by decide)).positive
  exact absurd positive (by decide)

end Scrc
