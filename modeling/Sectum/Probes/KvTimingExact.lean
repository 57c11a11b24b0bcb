import Sectum.Adapters.Fakes
import Sectum.Lib.Runs
import Sectum.Probes.KvTail

/-! Class 5 against the in-memory model: with a shared prefix cache every pair of tenants is reported, and
without one none is, whatever the order of the readings. -/

namespace Sectum

open Py Samples

section Words

variable [Unicode]

/-- Blanks part words, and digits do not. -/
structure Unicode.PartsWords : Prop where
  blank : Unicode.isSpace ' ' = true
  digit : ∀ c : Char, c.isDigit = true → Unicode.isSpace c = false

/-- The last word of a text is what stands after its last blank. -/
theorem getLast?_split (h : Unicode.PartsWords) (before : String) {word : String} (hne : word ≠ "")
    (hword : ∀ c ∈ word.toList, Unicode.isSpace c = false) :
    (split (before ++ " " ++ word)).getLast? = some word := by
  have hchars : (before ++ " " ++ word).toList = before.toList ++ ' ' :: word.toList := by
    simp
  have hwhole : word.toList.splitOnP Unicode.isSpace = [word.toList] :=
    List.splitOnP_eq_singleton fun c hc => by simp [hword c hc]
  have hspaces : (fun c => !!Unicode.isSpace c) = Unicode.isSpace := by
    funext c
    exact Bool.not_not _
  have hkept : (!word.toList.isEmpty) = true := by
    simpa using hne
  unfold split runs
  rw [hchars, hspaces, List.splitOnP_append_cons _ _ h.blank, hwhole, List.filter_append,
    List.map_append, List.getLast?_append, List.filter_cons, if_pos hkept]
  simp

end Words

namespace KvCacheTimingProbe

section Roots

/-- `math.sqrt` of floats, rounded to the nearest: it keeps to the bounds that are multiples of
`2 ^ -16`. -/
def KeepsBounds [MathSqrt] : Prop :=
  ∀ (x : ℚ) (n : ℕ), (x ≤ ((n : ℚ) / 2 ^ 16) ^ 2 → MathSqrt.sqrt x ≤ n / 2 ^ 16) ∧
    (((n : ℚ) / 2 ^ 16) ^ 2 ≤ x → (n : ℚ) / 2 ^ 16 ≤ MathSqrt.sqrt x)

end Roots

section Statistics

variable [MathSqrt] {control : List ℚ}

/-- The readings of a control arm: as many as there are trials, between the base latency and the
largest jitter. -/
structure ControlArm (control : List ℚ) : Prop where
  length : control.length = trials
  bounds : ∀ x ∈ control, 100 ≤ x ∧ x ≤ 115

omit [MathSqrt] in
theorem ControlArm.ne_nil (h : ControlArm control) : control ≠ [] := by
  rintro rfl
  cases h.length

omit [MathSqrt] in
theorem ControlArm.spread (h : ControlArm control) :
    1 / 1000000 ≤ max (variance control) varianceFloor ∧
      max (variance control) varianceFloor ≤ 235 := by
  have hvariance := variance_le (by rw [h.length]; decide) h.bounds
  rw [h.length] at hvariance
  norm_num [trials] at hvariance
  unfold varianceFloor
  refine ⟨le_max_right _ _, max_le ?_ (by norm_num)⟩
  linarith

omit [MathSqrt] in
/-- What the arms of a pair add to the squared standard error, and its degrees of freedom. -/
theorem ControlArm.terms (h : ControlArm control) :
    errorTerm control = max (variance control) varianceFloor / 24 ∧
      freedomTerm control = (max (variance control) varianceFloor / 24) ^ 2 / 23 := by
  have herror : errorTerm control = max (variance control) varianceFloor / 24 := by
    unfold errorTerm
    rw [h.length]
    norm_num [trials]
  refine ⟨herror, ?_⟩
  unfold freedomTerm
  rw [herror, h.length]
  norm_num [trials]

variable (c : ℚ)

omit [MathSqrt] in
theorem ControlArm.shifted (h : ControlArm control) :
    mean control - mean (control.map (· - c)) = c ∧
      variance (control.map (· - c)) = variance control ∧
      errorTerm (control.map (· - c)) = errorTerm control ∧
      freedomTerm (control.map (· - c)) = freedomTerm control := by
  have hvariance := variance_map_sub h.ne_nil c
  have herror : errorTerm (control.map (· - c)) = errorTerm control := by
    unfold errorTerm
    rw [hvariance, List.length_map]
  refine ⟨?_, hvariance, herror, ?_⟩
  · rw [mean_map_sub h.ne_nil, sub_sub_cancel]
  · unfold freedomTerm
    rw [herror, List.length_map]

/-- Against a primed arm that is quicker by `c` in every trial. -/
theorem ControlArm.cohensD_eq (h : ControlArm control) :
    cohensD control (control.map (· - c)) =
      c / MathSqrt.sqrt (max (variance control) varianceFloor) := by
  obtain ⟨hgap, hvariance, -⟩ := h.shifted c
  unfold cohensD
  rw [hgap, hvariance, add_self_div_two, if_neg]
  rw [List.length_map, h.length]
  decide

/-- The test of a gap of a cache hit: large, with 46 degrees of freedom. -/
theorem ControlArm.hit (h : ControlArm control) (hsqrt : KeepsBounds) :
    ∃ t stdError, welch control (control.map (· - 60)) = (some t, 46, stdError) ∧ 13 ≤ t ∧
      1 ≤ cohensD control (control.map (· - 60)) := by
  obtain ⟨hlow, hhigh⟩ := h.spread
  obtain ⟨hgap, -, herror, hfreedom⟩ := h.shifted 60
  obtain ⟨hterm, hfree⟩ := h.terms
  rw [h.cohensD_eq, welch, herror, hfreedom, hgap, hterm, hfree]
  generalize max (variance control) varianceFloor = v at hlow hhigh
  have hroot : 0 < MathSqrt.sqrt v ∧ MathSqrt.sqrt v ≤ 16 := by
    have hfloor := (hsqrt v 1).2 (by norm_num; linarith)
    have hceil := (hsqrt v (16 * 2 ^ 16)).1 (by norm_num; linarith)
    norm_num at hfloor hceil
    exact ⟨by linarith, hceil⟩
  have herr : 0 < MathSqrt.sqrt (v / 24 + v / 24) ∧ MathSqrt.sqrt (v / 24 + v / 24) ≤ 60 / 13 := by
    have hfloor := (hsqrt (v / 24 + v / 24) 1).2 (by norm_num; linarith)
    have hceil := (hsqrt (v / 24 + v / 24) 300000).1 (by norm_num; linarith)
    norm_num at hfloor hceil
    exact ⟨by linarith, by linarith⟩
  have hdenominator : 0 < (v / 24) ^ 2 / 23 + (v / 24) ^ 2 / 23 := by positivity
  refine ⟨60 / MathSqrt.sqrt (v / 24 + v / 24), MathSqrt.sqrt (v / 24 + v / 24), ?_, ?_, ?_⟩
  · simp only [if_neg herr.1.ne', if_pos hdenominator, Prod.mk.injEq, true_and, and_true]
    have hv : v ≠ 0 := by linarith
    field_simp
    norm_num
  · rw [le_div_iff₀ herr.1]
    linarith
  · rw [le_div_iff₀ hroot.1]
    linarith

end Statistics

section Signals

variable [MathSqrt] [MathExp] {control : List ℚ} (owner observer : UUID)

/-- Without a gap a pair is not significant. -/
theorem ControlArm.quiet (h : ControlArm control) (alpha : ℚ) :
    let signal := signalOf owner observer control control
    signal.effectSize = 0 ∧ isSignificantAt signal alpha = false := by
  have heq : control.map (· - 0) = control := by simp
  have hcohens := h.cohensD_eq 0
  rw [heq, zero_div] at hcohens
  have hround : ∀ digits, roundTo digits 0 = 0 := by
    intro digits
    rw [@roundTo_eq 0 digits 0 (by norm_num) (by norm_num)]
    simp
  refine ⟨?_, ?_⟩
  · change roundTo 4 (cohensD control control) = 0
    rw [hcohens, hround]
  · refine decide_eq_false fun hsignificant => ?_
    have hgap : 0 < roundTo 2 (mean control - mean control) := hsignificant.2.2.2
    rw [sub_self, hround] at hgap
    exact lt_irrefl _ hgap

/-- A pair of which each primed prompt was a hit is significant. -/
theorem ControlArm.loud (h : ControlArm control) (hsqrt : KeepsBounds) (haccurate : MathExp.Accurate)
    {alpha : ℚ} (halpha : 0 < alpha) :
    isSignificantAt (signalOf owner observer (control.map (· - 60)) control) alpha = true := by
  obtain ⟨t, stdError, hwelch, ht, hlarge⟩ := h.hit hsqrt
  have hgap := (h.shifted 60).1
  have hp : roundTo 10 (studentTSf (some t) 46) = 0 := by
    obtain ⟨hlow, hhigh⟩ := abs_lt.mp (tail_negligible haccurate ht)
    rw [@roundTo_eq _ 10 0 (by norm_num; linarith) (by norm_num; linarith)]
    simp
  refine decide_eq_true ⟨decide_eq_true ?_, ?_, ?_, ?_⟩
  · obtain ⟨x, hx⟩ := List.exists_mem_of_ne_nil _ h.ne_nil
    have hprimed : x - 60 ∈ (control.map (· - 60) ++ control).toFinset := by
      rw [List.mem_toFinset]
      exact List.mem_append_left _ (List.mem_map.mpr ⟨x, hx, rfl⟩)
    have hcontrol : x ∈ (control.map (· - 60) ++ control).toFinset := by
      rw [List.mem_toFinset]
      exact List.mem_append_right _ hx
    exact Finset.one_lt_card.mpr ⟨_, hprimed, _, hcontrol, by simp⟩
  · let test := welch control (control.map (· - 60))
    change roundTo 10 (studentTSf test.1 test.2.1) < alpha
    rw [show test = (some t, 46, stdError) from hwelch, hp]
    exact halpha
  · have hnear := (@roundTo_near 4 (cohensD control (control.map (· - 60)))).1
    change 8 / 10 ≤ roundTo 4 (cohensD control (control.map (· - 60)))
    norm_num at hnear ⊢
    linarith
  · change 0 < roundTo 2 (mean control - mean (control.map (· - 60)))
    rw [hgap, @roundTo_eq 60 2 6000 (by norm_num) (by norm_num)]
    norm_num

end Signals

section Model

theorem prefixOf_append {long : String} (hlong : 20 ≤ long.toList.length) (rest : String) :
    FakeModel.prefixOf (long ++ rest) = FakeModel.prefixOf long := by
  unfold FakeModel.prefixOf sliceTo
  rw [String.toList_append, List.take_append_of_le_length hlong]

theorem le_length_append {n : Nat} {last : String} (h : n ≤ last.toList.length) (first : String) :
    n ≤ (first ++ last).toList.length := by
  rw [String.toList_append, List.length_append]
  omega

theorem length_prefixFiller : 20 ≤ prefixFiller.toList.length := by
  have hword : "sectum prefix cache probe context".toList.length = 33 := by decide
  unfold prefixFiller join
  rw [List.replicate_succ, List.replicate_succ, String.intercalate_cons_cons, String.append_assoc,
    String.toList_append, List.length_append, hword]
  omega

variable [Unicode] [Lower] [Hashlib] (model : FakeModel)

/-- The in-memory model on its own: to read a latency warms nothing. -/
def timedFake : TimedModel ModelState where
  trainAdapter p texts := fun s => (.ok (), FakeModel.trainAdapter p texts s)
  infer p prompt := fun s => (.ok (model.response p prompt s), FakeModel.warm prompt s)
  servedBy p prompt := fun s => (.ok (model.servedBy p prompt s), s)
  measureLatency _ prompt := fun s => (.ok (model.latency prompt s), s)

/-- What a trial reads without a cache. -/
def baseLatency (trial : Nat) : ℚ :=
  FakeModel.baseLatencyMs + FakeModel.jitter (" " ++ toString trial)

/-- How much quicker a hit is. -/
def speedup : ℚ := if model.prefixCache then FakeModel.cacheHitSpeedupMs else 0

/-- All that was warmed begins as the prefixes of the probe do. -/
def WarmedOnly (s : ModelState) : Prop := ∀ warmed ∈ s.warmedPrefixes, warmed.toList.head? = some 't'

variable {model} {owner observer : UUID} {trial : Nat} {s : ModelState}

omit [Lower] in
theorem jitter_last (hwords : Unicode.PartsWords) (before : String) :
    FakeModel.jitter (before ++ " " ++ toString trial) =
      FakeModel.jitter (" " ++ toString trial) := by
  have hdigits : ∀ c ∈ (toString trial).toList, Unicode.isSpace c = false := by
    intro c hc
    apply hwords.digit
    rw [Nat.toString_eq_ofList_toDigits, String.toList_ofList] at hc
    exact Nat.isDigit_of_mem_toDigits (by decide) (by decide) hc
  have hne : toString trial ≠ "" := by
    rw [Nat.toString_eq_repr]
    exact Nat.repr_ne_empty
  have hlast := getLast?_split hwords before hne hdigits
  have halone := getLast?_split hwords "" hne hdigits
  rw [String.empty_append] at halone
  unfold FakeModel.jitter
  rw [hlast, halone]
  rfl

omit [Lower] in
theorem baseLatency_mem (trial : Nat) : 100 ≤ baseLatency trial ∧ baseLatency trial ≤ 115 := by
  unfold baseLatency FakeModel.jitter FakeModel.baseLatencyMs
  simp only
  generalize List.foldl _ _ _ = n
  have hlt : n % 16 ≤ 15 := by omega
  have hlt' : ((n % 16 : ℕ) : ℚ) ≤ 15 := by exact_mod_cast hlt
  have hnonneg : (0 : ℚ) ≤ ((n % 16 : ℕ) : ℚ) := Nat.cast_nonneg _
  constructor
  · linarith
  · linarith

omit [Unicode] [Lower] in
/-- A prefix of the probe is longer than the key of the cache. -/
theorem length_warmedPrefix : 20 ≤ (warmedPrefix owner observer trial).toList.length := by
  unfold warmedPrefix
  exact le_length_append length_prefixFiller _

omit [Lower] in
theorem latency_primed (hwords : Unicode.PartsWords)
    (hwarmed : FakeModel.prefixOf (warmedPrefix owner observer trial) ∈ s.warmedPrefixes) :
    model.latency (primedPrompt owner observer trial) s = baseLatency trial - speedup model := by
  have hwarm : FakeModel.prefixOf (primedPrompt owner observer trial) ∈ s.warmedPrefixes := by
    unfold primedPrompt
    rw [String.append_assoc, prefixOf_append length_warmedPrefix]
    exact hwarmed
  have hjitter : FakeModel.jitter (primedPrompt owner observer trial) =
      FakeModel.jitter (" " ++ toString trial) := by
    unfold primedPrompt
    rw [show (" probe " : String) = " probe" ++ " " from rfl, ← String.append_assoc,
      jitter_last hwords]
  unfold FakeModel.latency speedup baseLatency
  simp only [hwarm, hjitter, and_true]
  split <;> simp

omit [Lower] in
theorem latency_control (hwords : Unicode.PartsWords) (honly : WarmedOnly s) :
    model.latency (controlPrompt owner observer trial) s = baseLatency trial := by
  have hcold : FakeModel.prefixOf (controlPrompt owner observer trial) ∉ s.warmedPrefixes := by
    intro hmem
    have hhead := honly _ hmem
    obtain ⟨rest, hrest⟩ : ∃ rest, (controlPrompt owner observer trial).toList = 'u' :: rest := by
      unfold controlPrompt
      simp only [String.append_assoc]
      rw [String.toList_append]
      exact ⟨_, rfl⟩
    rw [FakeModel.prefixOf, sliceTo, String.toList_ofList, hrest, List.take_succ_cons,
      List.head?_cons] at hhead
    exact absurd (Option.some.inj hhead) (by decide)
  have hjitter : FakeModel.jitter (controlPrompt owner observer trial) =
      FakeModel.jitter (" " ++ toString trial) := by
    unfold controlPrompt
    rw [show (" probe " : String) = " probe" ++ " " from rfl, ← String.append_assoc,
      jitter_last hwords]
  unfold FakeModel.latency baseLatency
  simp only [hcold, hjitter, and_false, if_false]

theorem readTrials_fake (hwords : Unicode.PartsWords) (honly : WarmedOnly s)
    (order : List (Nat × Bool)) (hwarmed : ∀ entry ∈ order,
      FakeModel.prefixOf (warmedPrefix owner observer entry.1) ∈ s.warmedPrefixes) :
    readTrials (timedFake model) owner observer order s =
      (.ok (order.map fun entry => (baseLatency entry.1 - speedup model, baseLatency entry.1)),
        s) := by
  induction order with
  | nil => rfl
  | cons entry order ih =>
    obtain ⟨hfirst, hlater⟩ := List.forall_mem_cons.mp hwarmed
    obtain ⟨trial, primedFirst⟩ := entry
    have hprimed : (timedFake model).measureLatency observer (primedPrompt owner observer trial) s =
        (.ok (baseLatency trial - speedup model), s) :=
      congrArg (fun reading => (Except.ok reading, s)) (latency_primed hwords hfirst)
    have hcontrol : (timedFake model).measureLatency observer
        (controlPrompt owner observer trial) s = (.ok (baseLatency trial), s) :=
      congrArg (fun reading => (Except.ok reading, s)) (latency_control hwords honly)
    have hread : readTrial (timedFake model) owner observer trial primedFirst s =
        (.ok (baseLatency trial - speedup model, baseLatency trial), s) := by
      unfold readTrial Call.bind
      cases primedFirst with
      | true => simp only [if_true, hprimed, Call.map_ok hcontrol]
      | false => simp only [Bool.false_eq_true, if_false, hcontrol, Call.map_ok hprimed]
    exact Call.bind_eq_ok.mpr ⟨_, _, hread, Call.map_ok (ih hlater)⟩

/-- Warming up is answered, and leaves the prefixes of the trials warm. -/
theorem warmUp_fake (order : List Nat) (honly : WarmedOnly s) :
    ∃ s', warmUp (timedFake model) owner observer order s = (.ok (), s') ∧ WarmedOnly s' ∧
      s.warmedPrefixes ⊆ s'.warmedPrefixes ∧ ∀ trial ∈ order,
        FakeModel.prefixOf (warmedPrefix owner observer trial) ∈ s'.warmedPrefixes := by
  induction order generalizing s with
  | nil => exact ⟨s, rfl, honly, List.Subset.refl _, nofun⟩
  | cons trial order ih =>
    let next := FakeModel.warm (warmUpPrompt owner observer trial) s
    have hkey : FakeModel.prefixOf (warmUpPrompt owner observer trial) =
        FakeModel.prefixOf (warmedPrefix owner observer trial) :=
      prefixOf_append length_warmedPrefix _
    have hhead : (FakeModel.prefixOf (warmedPrefix owner observer trial)).toList.head? =
        some 't' := by
      obtain ⟨rest, hrest⟩ : ∃ rest,
          (warmedPrefix owner observer trial).toList = 't' :: rest := by
        unfold warmedPrefix
        simp only [String.append_assoc]
        rw [String.toList_append]
        exact ⟨_, rfl⟩
      rw [FakeModel.prefixOf, sliceTo, String.toList_ofList, hrest, List.take_succ_cons,
        List.head?_cons]
    have hnext : WarmedOnly next := by
      refine List.forall_mem_cons.mpr ⟨?_, honly⟩
      rw [hkey]
      exact hhead
    obtain ⟨s', hrun, honly', hkept, hwarmed⟩ := ih hnext
    refine ⟨s', hrun, honly', fun warmed hmem => hkept (List.mem_cons_of_mem _ hmem), ?_⟩
    refine List.forall_mem_cons.mpr ⟨hkept ?_, hwarmed⟩
    rw [← hkey]
    exact List.mem_cons_self

variable [MathSqrt] [MathExp] [Shuffle]

/-- The control arm, which is that of every pair. -/
def controlArm : List ℚ := (List.range trials).map baseLatency

omit [Lower] [MathSqrt] [MathExp] [Shuffle] in
theorem controlArm_spec : ControlArm controlArm where
  length := by rw [controlArm, List.length_map, List.length_range]
  bounds := by
    intro x hx
    obtain ⟨trial, -, rfl⟩ := List.mem_map.mp hx
    exact baseLatency_mem trial

variable (model) in
/-- What a pair comes to. -/
def fakeSignal (pair : UUID × UUID) : MeasuredSignal :=
  signalOf pair.1 pair.2 (controlArm.map (· - speedup model)) controlArm

/-- The order of the readings makes no difference. -/
theorem measure_fake (hwords : Unicode.PartsWords) (honly : WarmedOnly s)
    (hwarmed : ∀ trial ∈ List.range trials,
      FakeModel.prefixOf (warmedPrefix owner observer trial) ∈ s.warmedPrefixes) :
    measure (timedFake model) owner observer s = (.ok (fakeSignal model (owner, observer)), s) := by
  have hlength : (readingOrder owner observer).length = trials := by
    unfold readingOrder
    rw [(Shuffle.shuffle_perm _ _).length_eq]
    decide
  let order := (List.range trials).zip (readingOrder owner observer)
  have htrials : order.map Prod.fst = List.range trials := by
    rw [List.map_fst_zip]
    rw [List.length_range, hlength]
  have hreads : readTrials (timedFake model) owner observer order s =
      (.ok (order.map fun entry => (baseLatency entry.1 - speedup model, baseLatency entry.1)),
        s) := by
    apply readTrials_fake hwords honly order
    intro entry hentry
    apply hwarmed
    rw [← htrials]
    exact List.mem_map_of_mem hentry
  have harm : order.map (fun entry => baseLatency entry.1) = controlArm := by
    unfold controlArm
    rw [← htrials, List.map_map]
    rfl
  unfold measure
  rw [Call.map_ok hreads, List.map_map, List.map_map]
  unfold fakeSignal
  simp only [← harm, List.map_map]
  rfl

theorem measurePairs_fake (hwords : Unicode.PartsWords) (pairs : List (UUID × UUID))
    (honly : WarmedOnly s) :
    ∃ s', measurePairs (timedFake model) pairs s = (.ok (pairs.map (fakeSignal model)), s') := by
  induction pairs generalizing s with
  | nil => exact ⟨s, rfl⟩
  | cons pair pairs ih =>
    obtain ⟨owner, observer⟩ := pair
    obtain ⟨s₁, hwarm, honly₁, -, hwarmed⟩ : ∃ s₁,
        warmUp (timedFake model) owner observer (List.range trials) s = (.ok (), s₁) ∧ _ :=
      warmUp_fake (List.range trials) honly
    obtain ⟨s', hlater⟩ := ih honly₁
    have hmeasured : measure (timedFake model) owner observer s₁ =
        (.ok (fakeSignal model (owner, observer)), s₁) := measure_fake hwords honly₁ hwarmed
    exact ⟨s', Call.bind_eq_ok.mpr ⟨_, _, hwarm, Call.bind_eq_ok.mpr ⟨_, _, hmeasured,
      Call.map_ok hlater⟩⟩⟩

end Model

section Exact

variable [Unicode] [Lower] [Hashlib] [FloatText] [MathSqrt] [MathExp] [Shuffle]

omit [Unicode] [Lower] [Hashlib] [MathSqrt] [MathExp] [Shuffle] in
/-- Signals that are all significant are all reported. -/
theorem report_findings {tenants : Nat} {signals : List MeasuredSignal}
    (h : ∀ signal ∈ signals, isSignificantAt signal (correctedLevel tenants) = true) :
    ((report tenants signals).findings.map fun f => (f.ownerTenantId, f.observedInTenantId)) =
        signals.map (fun signal => (signal.ownerTenantId, signal.observedInTenantId)) ∧
      ∀ f ∈ (report tenants signals).findings, f.status = .confirmed := by
  induction signals with
  | nil => exact ⟨rfl, fun f hf => absurd hf List.not_mem_nil⟩
  | cons signal signals ih =>
    obtain ⟨hsignal, hsignals⟩ := List.forall_mem_cons.mp h
    obtain ⟨hpairs, hconfirmed⟩ := ih hsignals
    have hfindings : (report tenants (signal :: signals)).findings =
        _ :: (report tenants signals).findings :=
      List.filterMap_cons_some (f := fun signal => found signal tenants)
        (found_eq_some.mpr ⟨hsignal, rfl⟩)
    rw [hfindings]
    exact ⟨congrArg₂ List.cons rfl hpairs, List.forall_mem_cons.mpr ⟨rfl, hconfirmed⟩⟩

/-- On the in-memory model the timing probe returns, with one signal for each ordered pair of tenants.
Without a prefix cache no pair is reported, and none has an effect; with one every pair is. -/
theorem timing_exact (hwords : Unicode.PartsWords) (model : FakeModel) (substrate : Substrate) :
    let pairs := pairsOf (substrate.tenants.map SyntheticTenantSpec.tenantId)
    ∃ report s', run (timedFake model) substrate {} = (.ok report, s') ∧
      (report.signals.map fun signal => (signal.ownerTenantId, signal.observedInTenantId)) = pairs ∧
      (model.prefixCache = false →
        report.findings = [] ∧ ∀ signal ∈ report.signals, signal.effectSize = 0) ∧
      (model.prefixCache = true → KeepsBounds → MathExp.Accurate →
        (report.findings.map fun f => (f.ownerTenantId, f.observedInTenantId)) = pairs ∧
          ∀ f ∈ report.findings, f.status = .confirmed) := by
  intro pairs
  let tenants := substrate.tenants.map SyntheticTenantSpec.tenantId
  obtain ⟨s', hmeasured⟩ : ∃ s', measurePairs (timedFake model) pairs {} =
      (.ok (pairs.map (fakeSignal model)), s') := measurePairs_fake hwords pairs nofun
  refine ⟨report tenants.length (pairs.map (fakeSignal model)), s', Call.map_ok hmeasured, ?_, ?_,
    ?_⟩
  · change List.map _ (List.map _ (List.map _ _)) = _
    rw [List.map_map, List.map_map]
    exact List.map_id _
  · intro hcold
    have hspeedup : controlArm.map (· - speedup model) = controlArm := by
      unfold speedup
      rw [hcold]
      simp
    have hquiet := fun pair : UUID × UUID => controlArm_spec.quiet pair.1 pair.2
      (correctedLevel tenants.length)
    have hsignal : ∀ pair, fakeSignal model pair = signalOf pair.1 pair.2 controlArm controlArm := by
      intro pair
      rw [fakeSignal, hspeedup]
    refine ⟨?_, fun signal hsignal' => ?_⟩
    · change List.filterMap _ _ = []
      rw [List.filterMap_eq_nil_iff]
      intro signal hmem
      obtain ⟨pair, -, rfl⟩ := List.mem_map.mp hmem
      refine dif_neg ?_
      rw [hsignal, (hquiet pair).2]
      exact Bool.false_ne_true
    · obtain ⟨measured, hmem, rfl⟩ := List.mem_map.mp hsignal'
      obtain ⟨pair, -, rfl⟩ := List.mem_map.mp hmem
      rw [hsignal]
      exact (hquiet pair).1
  · intro hwarm hsqrt haccurate
    have hspeedup : speedup model = 60 := by
      unfold speedup
      rw [hwarm]
      rfl
    have hpositive : 0 < correctedLevel tenants.length := by
      unfold correctedLevel level
      positivity
    have hloud : ∀ pair, isSignificantAt (fakeSignal model pair)
        (correctedLevel tenants.length) = true := by
      intro pair
      rw [fakeSignal, hspeedup]
      exact controlArm_spec.loud pair.1 pair.2 hsqrt haccurate hpositive
    obtain ⟨hpairs, hconfirmed⟩ := @report_findings _ tenants.length _
      (List.forall_mem_map.mpr fun pair (_ : pair ∈ pairs) => hloud pair)
    refine ⟨hpairs.trans ?_, hconfirmed⟩
    rw [List.map_map]
    exact List.map_id _

end Exact

end KvCacheTimingProbe

section Sample

open KvCacheTimingProbe

/-- The square root, rounded down to a multiple of `2 ^ -16`. -/
@[reducible] def MathSqrt.floored : MathSqrt where
  sqrt x := Nat.sqrt ⌊x * 2 ^ 32⌋₊ / 2 ^ 16

attribute [local instance] Unicode.ascii Lower.ascii Hashlib.real FloatText.halves
  MathSqrt.floored MathExp.rounded Shuffle.identity

theorem Unicode.ascii_partsWords : Unicode.PartsWords where
  blank := by decide
  digit c hc := by
    have hle : 48 ≤ c.toNat := by
      have h := hc
      rw [Char.isDigit, Bool.and_eq_true, decide_eq_true_eq, decide_eq_true_eq] at h
      exact h.1
    refine decide_eq_false ?_
    omega

theorem floored_keepsBounds : KeepsBounds := by
  intro x n
  have hscale : ((n : ℚ) / 2 ^ 16) ^ 2 * 2 ^ 32 = ((n * n : ℕ) : ℚ) := by
    push_cast
    ring
  constructor
  · intro h
    have hfloor : ⌊x * 2 ^ 32⌋₊ ≤ n * n := by
      refine Nat.floor_le_of_le ?_
      rw [← hscale]
      exact mul_le_mul_of_nonneg_right h (by positivity)
    have hroot : Nat.sqrt ⌊x * 2 ^ 32⌋₊ ≤ n := by
      rw [← Nat.sqrt_eq n]
      exact Nat.sqrt_le_sqrt hfloor
    exact div_le_div_of_nonneg_right (by exact_mod_cast hroot) (by positivity)
  · intro h
    have hfloor : n * n ≤ ⌊x * 2 ^ 32⌋₊ := by
      refine Nat.le_floor ?_
      rw [← hscale]
      exact mul_le_mul_of_nonneg_right h (by positivity)
    have hroot : n ≤ Nat.sqrt ⌊x * 2 ^ 32⌋₊ := Nat.le_sqrt.mpr hfloor
    exact div_le_div_of_nonneg_right (by exact_mod_cast hroot) (by positivity)

def timedSubstrate : Substrate where
  scenario := { scenarioId := "scenario", seed := 1, tenants := [] }
  tenants :=
    [{ tenantId := ⟨1⟩, displayName := "A", industry := "law", corpusSize := 1
       corpusSize_pos := Nat.one_pos },
      { tenantId := ⟨2⟩, displayName := "B", industry := "law", corpusSize := 1
        corpusSize_pos := Nat.one_pos }]
  documents := []
  manifest := { manifestId := "manifest", scenarioHash := "scenario", markers := [] }

/-- Two tenants, on a model with a shared cache and on one without. -/
theorem KvCacheTimingProbe.timing_exact_shared : ∃ shared apart s s',
    run (timedFake { prefixCache := true }) timedSubstrate {} = (.ok shared, s) ∧
      shared.findings.length = 2 ∧
      run (timedFake {}) timedSubstrate {} = (.ok apart, s') ∧ apart.findings = [] := by
  obtain ⟨shared, s, hshared, -, -, hreported⟩ :=
    timing_exact Unicode.ascii_partsWords { prefixCache := true } timedSubstrate
  obtain ⟨apart, s', hapart, -, hquiet, -⟩ := timing_exact Unicode.ascii_partsWords {} timedSubstrate
  refine ⟨shared, apart, s, s', hshared, ?_, hapart, (hquiet rfl).1⟩
  have hpairs := (hreported rfl floored_keepsBounds MathExp.rounded_accurate).1
  rw [← List.length_map, hpairs]
  decide

end Sample

end Sectum
