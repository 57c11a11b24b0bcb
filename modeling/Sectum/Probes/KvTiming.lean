import Sectum.Core.ProbeRecord
import Sectum.Lib.JsonValue
import Sectum.Lib.Lentz
import Sectum.Lib.PyFormat
import Sectum.Lib.RealMath
import Sectum.Lib.Samples

/-! `sectum_ai.probes.kv_cache_timing`: for each pair of tenants the one warms prefixes and the other
times prompts that do and do not share them.  A pair is reported where the gap is large, significant and
in the direction of a shared cache. -/

namespace Sectum

open Py Samples

section Statistics

/-- `random.Random(seed).shuffle`. -/
class Shuffle where
  shuffle : Bytes → List Bool → List Bool
  shuffle_perm : ∀ seed order, (shuffle seed order).Perm order

/-- A shuffle that leaves everything where it is. -/
@[reducible] def Shuffle.identity : Shuffle where
  shuffle _ order := order
  shuffle_perm _ order := List.Perm.refl order

namespace KvCacheTimingProbe

def varianceFloor : ℚ := 1 / 1000000

def effectThreshold : ℚ := 8 / 10

def largeEffect : ℚ := 5

/-- `_ALPHA`. -/
def level : ℚ := 1 / 100

def ciLevel : ℚ := 95 / 100

variable [MathSqrt]

def cohensD (slow fast : List ℚ) : ℚ :=
  let gap := mean slow - mean fast
  if slow.length < 2 ∨ fast.length < 2 then gap / MathSqrt.sqrt varianceFloor
  else gap / MathSqrt.sqrt (max ((variance slow + variance fast) / 2) varianceFloor)

/-- What an arm adds to the squared standard error. -/
def errorTerm (arm : List ℚ) : ℚ :=
  (if 1 < arm.length then max (variance arm) varianceFloor else 0) / arm.length

/-- What an arm adds to the denominator of the degrees of freedom. -/
def freedomTerm (arm : List ℚ) : ℚ :=
  if 1 < arm.length then errorTerm arm ^ 2 / (arm.length - 1) else 0

/-- `_welch`: the statistic, which is infinite where it is `none`, the degrees of freedom and the
standard error. -/
def welch (slow fast : List ℚ) : Option ℚ × ℚ × ℚ :=
  let stdError := MathSqrt.sqrt (errorTerm slow + errorTerm fast)
  let gap := mean slow - mean fast
  if stdError = 0 then (if gap ≠ 0 then none else some 0, 0, 0)
  else
    let denominator := freedomTerm slow + freedomTerm fast
    (some (gap / stdError),
      if 0 < denominator then (errorTerm slow + errorTerm fast) ^ 2 / denominator else 0, stdError)

section Betai

def maxIterations : Nat := 200

def epsilon : ℚ := 3 / 10 ^ 16

def tiny : ℚ := 1 / 10 ^ 300

/-- The two partial numerators of round `m`. -/
def evenTerm (a b x m : ℚ) : ℚ := m * (b - m) * x / ((a - 1 + 2 * m) * (a + 2 * m))

def oddTerm (a b x m : ℚ) : ℚ :=
  -(a + m) * (a + b + m) * x / ((a + 2 * m) * (a + 1 + 2 * m))

/-- The loop of `_betacf` from round `m` on, which ends where the last factor is nearly one. -/
def betacfFrom (a b x : ℚ) : Nat → Nat → Lentz.State ℚ → ℚ
  | 0, _, s => s.h
  | rounds + 1, m, s =>
    let last := (s.step tiny (evenTerm a b x m)).step tiny (oddTerm a b x m)
    if |last.d * last.c - 1| < epsilon then last.h else betacfFrom a b x rounds (m + 1) last

/-- `_betacf`. -/
def betacf (a b x : ℚ) : ℚ :=
  betacfFrom a b x maxIterations 1 (.start tiny (1 - (a + b) * x / (a + 1)))

variable [MathExp]

/-- `_betai`. -/
def betai (a b x : ℚ) : ℚ :=
  if x ≤ 0 then 0
  else if 1 ≤ x then 1
  else
    let logBeta := MathExp.lgamma (a + b) - MathExp.lgamma a - MathExp.lgamma b
    let front := MathExp.exp (logBeta + a * MathExp.log x + b * MathExp.log (1 - x))
    if x < (a + 1) / (a + b + 2) then front * betacf a b x / a
    else 1 - front * betacf b a (1 - x) / b

end Betai

variable [MathExp]

omit [MathSqrt] in
/-- `_student_t_sf`. -/
def studentTSf (t : Option ℚ) (df : ℚ) : ℚ :=
  if df ≤ 0 then 1
  else betai (df / 2) (1 / 2) ((t.map fun t => df / (df + t * t)).getD 0)

omit [MathSqrt] in
/-- `_t_critical`, by bisection. -/
def tCritical (df ciLevel : ℚ) : ℚ :=
  let narrow := fun bounds : ℚ × ℚ =>
    let mid := (bounds.1 + bounds.2) / 2
    if 1 - ciLevel < studentTSf (some mid) df then (mid, bounds.2) else (bounds.1, mid)
  let bounds := narrow^[200] (0, 1000)
  (bounds.1 + bounds.2) / 2

end KvCacheTimingProbe

end Statistics

/-- `TimingSignal`, with the numbers that a record leaves out. -/
structure MeasuredSignal extends TimingSignal where
  primedMeanMs : ℚ
  controlMeanMs : ℚ
  meanGapMs : ℚ
  tStatistic : Option ℚ
  degreesOfFreedom : ℚ
  pValue : ℚ
  ciLowMs : ℚ
  ciHighMs : ℚ

/-- A model whose latencies can be measured. -/
structure TimedModel (σ : Type) extends ModelSession σ where
  measureLatency : UUID → String → Call σ Raised ℚ

namespace KvCacheTimingProbe

section Prompts

def trials : Nat := 24

def prefixFiller : String := join " " (List.replicate 24 "sectum prefix cache probe context")

def tenantBytes (tenant : UUID) : Bytes :=
  (Sha1.bytesOf 16 tenant.bits.toNat).map UInt8.ofBitVec

variable [Hashlib] (owner observer : UUID) (trial : Nat)

/-- The first six characters of `_key`. -/
def keyOf (tenant : UUID) : String :=
  sliceTo 6 (sliceTo 8 (hexBytes (Hashlib.sha256 (tenantBytes tenant))))

/-- The prefix that the owner warms for the observer and a trial. -/
def warmedPrefix : String :=
  "t" ++ keyOf owner ++ keyOf observer ++ "-" ++ padded 2 trial ++ "-ses " ++ prefixFiller

def warmUpPrompt : String := warmedPrefix owner observer trial ++ " context warm-up prompt"

def primedPrompt : String :=
  warmedPrefix owner observer trial ++ " probe " ++ toString trial

def controlPrompt : String :=
  "u" ++ keyOf observer ++ keyOf owner ++ "-" ++ padded 2 trial ++ "-ctl " ++ prefixFiller ++
    " probe " ++ toString trial

end Prompts

section Verdict

variable (signal : MeasuredSignal) (alpha : ℚ)

def isSignificantAt : Bool :=
  signal.resolved ∧ signal.pValue < alpha ∧ effectThreshold ≤ signal.effectSize ∧
    0 < signal.meanGapMs

def flooredNote : String :=
  " - an arm's spread was below the timer's resolution, so the 1 us variance floor stood in for " ++
    "it: d, t, p and the interval are BOUNDS (the gap is at least this distinguishable), not " ++
    "measurements"

/-- The confidence of a finding, which is refused outside `[0, 1]`. -/
def confidenceOf (pValue : ℚ) (h : pValue ≤ 1) : UnitRat :=
  ⟨roundTo 4 (min 1 (1 - pValue)),
    roundTo_mem_unit 4 (le_min zero_le_one (sub_nonneg.mpr h)) (min_le_left 1 (1 - pValue))⟩

/-- The level of one comparison, of all those that a number of tenants makes. -/
def correctedLevel (tenants : Nat) : ℚ := level / (max 1 (tenants * (tenants - 1)) : ℕ)

theorem correctedLevel_le (tenants : Nat) : correctedLevel tenants ≤ 1 := by
  have hone : (1 : ℚ) ≤ (max 1 (tenants * (tenants - 1)) : ℕ) := by
    exact_mod_cast le_max_left 1 (tenants * (tenants - 1))
  unfold correctedLevel level
  rw [div_le_one (by linarith)]
  linarith

variable {signal alpha} in
/-- A finding is made of a signal below the level only. -/
theorem pValue_le_one (h : isSignificantAt signal alpha = true) (hlevel : alpha ≤ 1) :
    signal.pValue ≤ 1 :=
  (of_decide_eq_true h).2.1.le.trans hlevel

variable [FloatText]

def reprNumber (x : ℚ) : String := Json.reprFloat (.finite x)

def evidenceOf : String :=
  let pText :=
    if signal.pValue < 1 / 10000 then "<0.0001" else formatSignificant 4 signal.pValue
  let tText := (signal.tStatistic.map reprNumber).getD (Json.reprFloat (.infinity false))
  "prefix-cache timing distinguishable: primed " ++ reprNumber signal.primedMeanMs ++
    "ms vs control " ++ reprNumber signal.controlMeanMs ++ "ms (gap " ++
    reprNumber signal.meanGapMs ++ "ms, 95% CI [" ++ reprNumber signal.ciLowMs ++ ", " ++
    reprNumber signal.ciHighMs ++ "]ms); Welch t=" ++ tText ++ ", df=" ++
    reprNumber signal.degreesOfFreedom ++ ", p=" ++ pText ++ ", Cohen's d=" ++
    reprNumber signal.effectSize ++ "; significant at Bonferroni alpha=" ++
    formatSignificant 2 alpha ++ if signal.varianceFloored then flooredNote else ""

/-- `_finding`. -/
def finding (h : signal.pValue ≤ 1) : Finding where
  findingId := "finding-" ++ kvCacheTimingId ++ "-" ++ signal.ownerTenantId.hex ++ "-" ++
    signal.observedInTenantId.hex
  probeId := kvCacheTimingId
  severity := if largeEffect ≤ signal.effectSize then .high else .medium
  confidence := confidenceOf signal.pValue h
  status := .confirmed
  ownerTenantId := signal.ownerTenantId
  observedInTenantId := signal.observedInTenantId
  surface := .kvCache
  evidenceSpan := evidenceOf signal alpha
  owaspLlm := "LLM08:2025"
  owaspSecondary := ["LLM02:2025"]
  nist := ["MEASURE 2.7"]
  remediationPointer := "disable cross-tenant KV prefix-cache sharing"

/-- The finding of a signal that is significant among those of so many tenants. -/
def found (tenants : Nat) : Option Finding :=
  if h : isSignificantAt signal (correctedLevel tenants) = true then
    some (finding signal (correctedLevel tenants) (pValue_le_one h (correctedLevel_le tenants)))
  else none

variable {signal} in
theorem found_eq_some {tenants : Nat} {f : Finding} : found signal tenants = some f ↔
    ∃ h : isSignificantAt signal (correctedLevel tenants) = true,
      finding signal (correctedLevel tenants) (pValue_le_one h (correctedLevel_le tenants)) = f := by
  unfold found
  split
  · rename_i h
    rw [Option.some_inj]
    exact ⟨fun heq => ⟨h, heq⟩, fun ⟨_, heq⟩ => heq⟩
  · rename_i h
    exact ⟨nofun, fun ⟨h', _⟩ => absurd h' h⟩

def report (tenants : Nat) (signals : List MeasuredSignal) : KvCacheTimingReport where
  signals := signals.map MeasuredSignal.toTimingSignal
  findings := signals.filterMap fun signal => found signal tenants

end Verdict

section Run

variable [MathSqrt] [MathExp]

/-- What the readings of a pair come to. -/
def signalOf (owner observer : UUID) (primed control : List ℚ) : MeasuredSignal :=
  let (t, df, stdError) := welch control primed
  let gap := mean control - mean primed
  let margin := if 0 < df then tCritical df ciLevel * stdError else 0
  { ownerTenantId := owner
    observedInTenantId := observer
    primedMeanMs := roundTo 2 (mean primed)
    controlMeanMs := roundTo 2 (mean control)
    meanGapMs := roundTo 2 gap
    effectSize := roundTo 4 (cohensD control primed)
    tStatistic := t.map (roundTo 4)
    degreesOfFreedom := roundTo 2 df
    pValue := roundTo 10 (studentTSf t df)
    ciLowMs := roundTo 2 (gap - margin)
    ciHighMs := roundTo 2 (gap + margin)
    resolved := 1 < (primed ++ control).toFinset.card
    varianceFloored :=
      if 1 < primed.length ∧ 1 < control.length then
        decide (variance primed < varianceFloor ∨ variance control < varianceFloor)
      else true }

variable [Hashlib] [Shuffle] {σ : Type} (model : TimedModel σ)

omit [MathSqrt] [MathExp] [Shuffle] in
/-- The readings of a trial, of which either may come first: primed, then control. -/
def readTrial (owner observer : UUID) (trial : Nat) (primedFirst : Bool) :
    Call σ Raised (ℚ × ℚ) :=
  let primed := model.measureLatency observer (primedPrompt owner observer trial)
  let control := model.measureLatency observer (controlPrompt owner observer trial)
  if primedFirst then primed.bind fun primed => control.map fun control => (primed, control)
  else control.bind fun control => primed.map fun primed => (primed, control)

omit [MathSqrt] [MathExp] [Shuffle] in
def readTrials (owner observer : UUID) : List (Nat × Bool) → Call σ Raised (List (ℚ × ℚ))
  | [] => .pure []
  | (trial, primedFirst) :: later =>
    (readTrial model owner observer trial primedFirst).bind fun reading =>
      (readTrials owner observer later).map fun readings => reading :: readings

/-- Which of the two is read first in each trial. -/
def readingOrder (owner observer : UUID) : List Bool :=
  Shuffle.shuffle (tenantBytes owner ++ tenantBytes observer)
    (List.replicate (trials / 2) true ++ List.replicate (trials - trials / 2) false)

/-- `_measure`. -/
def measure (owner observer : UUID) : Call σ Raised MeasuredSignal :=
  (readTrials model owner observer ((List.range trials).zip (readingOrder owner observer))).map
    fun readings => signalOf owner observer (readings.map Prod.fst) (readings.map Prod.snd)

omit [MathSqrt] [MathExp] [Shuffle] in
/-- The owner warms the prefixes of some trials. -/
def warmUp (owner observer : UUID) : List Nat → Call σ Raised Unit
  | [] => .pure ()
  | trial :: later =>
    (model.infer ⟨owner, none⟩ (warmUpPrompt owner observer trial)).bind fun _ =>
      warmUp owner observer later

/-- The pairs of which the one tenant is timed by the other, in order. -/
def pairsOf (tenants : List UUID) : List (UUID × UUID) :=
  tenants.flatMap fun owner =>
    (tenants.filter fun observer => observer ≠ owner).map fun observer => (owner, observer)

def measurePairs : List (UUID × UUID) → Call σ Raised (List MeasuredSignal)
  | [] => .pure []
  | (owner, observer) :: later =>
    (warmUp model owner observer (List.range trials)).bind fun _ =>
      (measure model owner observer).bind fun signal =>
        (measurePairs later).map fun signals => signal :: signals

variable [FloatText]

/-- `run`. -/
def run (substrate : Substrate) : Call σ Raised KvCacheTimingReport :=
  let tenants := substrate.tenants.map SyntheticTenantSpec.tenantId
  (measurePairs model (pairsOf tenants)).map (report tenants.length)

end Run

end KvCacheTimingProbe

end Sectum
