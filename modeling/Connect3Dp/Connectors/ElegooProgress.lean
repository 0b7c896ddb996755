import Connect3Dp.Connectors.ElegooRounding

/-!
# The progress of an ELEGOO print

In rational arithmetic `MapPrintInfo` is total, with a total time that is at least the remaining
time, unless a layer is not an `int` or the total is estimated for a print that is complete
(`mapPrintInfo_sound_iff`).
-/

namespace Connect3Dp

namespace Elegoo

/-! ### The fields of `PrintInfo` -/

/-- The numbers in `PrintInfo`, each of which may be missing. -/
structure PrintInfo where
  status : Option Int32
  currentLayer : Option ℕ
  totalLayer : Option ℕ
  progress : Option ℤ
  currentTicks : Option ℚ
  totalTicks : Option ℚ
  remainingTime : Option ℚ
  totalTime : Option ℚ

/-- The number is an integer. -/
structure IsInteger (n : JsonNumber) (k : ℤ) : Prop where
  int32 : n.int32 = if -2 ^ 31 ≤ k ∧ k < 2 ^ 31 then some (.ofInt k) else none
  double : n.double = .finite k

/-- The number is not negative, and at most 10^9. -/
structure IsAmount (n : JsonNumber) (q : ℚ) : Prop where
  int64 : ∀ i, n.int64 = some i → (i.toInt : ℚ) = q
  double : n.double = .finite q
  nonneg : 0 ≤ q
  le : q ≤ 10 ^ 9

/-- A lookup finds a number that is the value, or nothing if there is none. -/
def Finds {α : Type} (is : JsonNumber → α → Prop) (found : Except Fault (Option JsonElement)) :
    Option α → Prop
  | none => found = .ok none
  | some a => ∃ n, found = .ok (some (.number n)) ∧ is n a

/-- A lookup finds a string or null, or nothing. -/
def FindsText (found : Except Fault (Option JsonElement)) : Prop :=
  ∃ o, found = .ok o ∧ ∀ f, o = some f → ∃ text, f.getString = .ok text

/-- The fields of an element are those of the record, and of the expected kinds. -/
structure PrintInfo.Describes (p : PrintInfo) (e : JsonElement) : Prop where
  filename : FindsText (e.tryGetProperty "Filename")
  taskId : FindsText (e.tryGetProperty "TaskId")
  status : Finds (fun n k => n.int32 = some k) (e.tryGetProperty "Status") p.status
  currentLayer : Finds (fun n k => IsInteger n (k : ℕ)) (e.tryGetProperty "CurrentLayer")
    p.currentLayer
  totalLayer : Finds (fun n k => IsInteger n (k : ℕ)) (e.tryGetProperty "TotalLayer") p.totalLayer
  progress : Finds IsInteger (e.tryGetProperty "Progress") p.progress
  currentTicks : Finds IsAmount (e.tryGetPropertyIgnoreCase "CurrentTicks") p.currentTicks
  totalTicks : Finds IsAmount (e.tryGetPropertyIgnoreCase "TotalTicks") p.totalTicks
  remainingTime : Finds IsAmount (e.tryGetPropertyIgnoreCase "RemainingTime") p.remainingTime
  totalTime : Finds IsAmount (e.tryGetPropertyIgnoreCase "TotalTime") p.totalTime

namespace PrintInfo

variable (p : PrintInfo)

def mappedStatus : MachineStatus := mapPrintStatus (p.status.getD 0)

/-- The current and the total ticks and whether they are milliseconds, if there is a total. -/
def ticks : Option (Double × Double × Bool) :=
  if p.totalTicks.getD 0 = 0 then none
  else some (.finite (p.currentTicks.getD 0), .finite (p.totalTicks.getD 0),
    decide (100000 ≤ p.totalTicks.getD 0))

/-- The print is active or has just ended. -/
def IsCurrent : Prop :=
  (p.mappedStatus = .printing ∨ p.mappedStatus = .paused) ∨
    p.mappedStatus = .printed ∨ p.mappedStatus = .canceled

def LayersFit : Prop := p.currentLayer.getD 0 < 2 ^ 31 ∧ p.totalLayer.getD 0 < 2 ^ 31

/-- The progress is positive, where no ticks are reported. -/
def HasProgress : Prop :=
  p.mappedStatus = .printed ∨ 0 < p.progress.getD 0 ∨
    (p.progress.getD 0 = 0 ∧ 0 < p.totalLayer.getD 0 ∧
      p.totalLayer.getD 0 ≤ 100 * p.currentLayer.getD 0)

/-- The progress is at least 100 percent, where no ticks are reported. -/
def IsComplete : Prop :=
  p.mappedStatus = .printed ∨ 100 ≤ p.progress.getD 0 ∨
    (p.progress.getD 0 = 0 ∧ 0 < p.totalLayer.getD 0 ∧
      p.totalLayer.getD 0 ≤ p.currentLayer.getD 0)

/-- The total time is estimated: there are no total ticks, less than one tick of 100 ns of total
time, and at least one of remaining time. -/
def IsEstimated : Prop :=
  p.totalTicks.getD 0 = 0 ∧ p.totalTime.getD 0 * 10000000 < 1 ∧
    1 ≤ p.remainingTime.getD 0 * 10000000 ∧ p.HasProgress

/-- What `MapPrintInfo` sets is in range. -/
structure Sound (job : PrintJobUpdate) : Prop where
  isSet : job.percentageComplete.isSet = true ∧ job.remainingTime.isSet = true ∧
    job.totalTime.isSet = true
  percentage : 0 ≤ job.percentageComplete.value ∧ job.percentageComplete.value ≤ 100
  totalTime : .zero ≤ job.totalTime.value
  estimated : p.IsEstimated → job.remainingTime.value ≤ job.totalTime.value

end PrintInfo

/-! ### Reading the fields -/

section Fields

variable {e : JsonElement} {name : String} {q : ℚ}

theorem Finds.readOr {α β : Type} {is : JsonNumber → α → Prop} {o : Option α}
    (h : Finds is (e.tryGetProperty name) o) {read : JsonElement → Except Fault β} {f : α → β}
    (hread : ∀ n a, is n a → read (.number n) = .ok (f a)) (absent : β) :
    e.readOr name absent read = .ok ((o.map f).getD absent) := by
  rw [JsonElement.readOr]
  cases o with
  | none =>
    rw [show e.tryGetProperty name = .ok none from h]
    rfl
  | some a =>
    obtain ⟨n, hfound, hn⟩ := h
    rw [hfound, ok_bind]
    exact hread n a hn

theorem FindsText.readOr {β : Type} (h : FindsText (e.tryGetProperty name))
    (read : JsonElement → Except Fault β)
    (hread : ∀ f text, f.getString = .ok text → ∃ b, read f = .ok b) (absent : β) :
    ∃ b, e.readOr name absent read = .ok b := by
  obtain ⟨o, hfound, htext⟩ := h
  rw [JsonElement.readOr, hfound, ok_bind]
  cases o with
  | none => exact ⟨absent, rfl⟩
  | some f =>
    obtain ⟨text, hf⟩ := htext f rfl
    exact hread f text hf

theorem readOr_getInt32 {o : Option ℕ}
    (h : Finds (fun n k => IsInteger n (k : ℕ)) (e.tryGetProperty name) o) :
    e.readOr name 0 JsonElement.getInt32 =
      if o.getD 0 < 2 ^ 31 then .ok (.ofInt (o.getD 0 : ℕ)) else .error .format := by
  rw [JsonElement.readOr]
  cases o with
  | none =>
    rw [show e.tryGetProperty name = .ok none from h]
    rfl
  | some k =>
    obtain ⟨n, hfound, hn⟩ := h
    rw [hfound, ok_bind, Option.getD_some]
    dsimp only
    rw [JsonElement.getInt32, JsonElement.tryGetInt32, ok_bind, hn.int32]
    by_cases hk : k < 2 ^ 31
    · rw [if_pos hk, if_pos ⟨by omega, by omega⟩]
      rfl
    · rw [if_neg hk, if_neg (by omega)]
      rfl

namespace Rounded

theorem getInt64OrDoubleWith_finite {n : JsonNumber} (h : IsAmount n q) :
    (JsonElement.number n).getInt64OrDoubleWith .finite = .ok (.finite q) := by
  rw [JsonElement.getInt64OrDoubleWith, JsonElement.tryGetInt64, ok_bind]
  cases hn : n.int64 with
  | none => rw [JsonElement.getDouble, h.double]
  | some i =>
    dsimp only
    rw [h.int64 i hn]
    rfl

theorem amount_bounds {o : Option ℚ} {found : Except Fault (Option JsonElement)}
    (h : Finds IsAmount found o) : 0 ≤ o.getD 0 ∧ o.getD 0 ≤ 10 ^ 9 := by
  cases o with
  | none => exact ⟨le_rfl, by norm_num⟩
  | some q =>
    obtain ⟨n, -, hn⟩ := h
    exact ⟨hn.nonneg, hn.le⟩

theorem readTicks_finite {o : Option ℚ}
    (h : Finds IsAmount (e.tryGetPropertyIgnoreCase name) o) :
    readTicks .finite e name = .ok (.finite (o.getD 0)) := by
  rw [readTicks]
  cases o with
  | none =>
    rw [show e.tryGetPropertyIgnoreCase name = .ok none from h]
    rfl
  | some q =>
    obtain ⟨n, hfound, hn⟩ := h
    rw [hfound, ok_bind]
    exact getInt64OrDoubleWith_finite hn

theorem intervalWith_amount (ticksPerUnit : ℕ) (hq : 0 ≤ q) (hle : q ≤ 10 ^ 9)
    (hunit : ticksPerUnit ≤ 10 ^ 7) :
    ∃ t, TimeSpan.intervalWith .finite (.finite q) ticksPerUnit = .ok t ∧
      t.ticks.toInt = ⌊q * ticksPerUnit⌋ := by
  have hunit' : (ticksPerUnit : ℚ) ≤ 10 ^ 7 := by exact_mod_cast hunit
  have hnonneg : 0 ≤ q * ticksPerUnit := mul_nonneg hq (Nat.cast_nonneg _)
  have hlt : q * ticksPerUnit < 2 ^ 63 := by
    calc q * ticksPerUnit ≤ 10 ^ 9 * 10 ^ 7 :=
          mul_le_mul hle hunit' (Nat.cast_nonneg _) (by norm_num)
      _ < 2 ^ 63 := by norm_num
  obtain ⟨t, ht, hticks⟩ := TimeSpan.intervalWith_finite q ticksPerUnit
    (by rwa [Int.cast_natCast, abs_of_nonneg hnonneg])
  refine ⟨t, ht, ?_⟩
  rw [hticks, Int.cast_natCast, Double.truncate, if_pos hnonneg]

theorem readSeconds_finite {o : Option ℚ}
    (h : Finds IsAmount (e.tryGetPropertyIgnoreCase name) o) :
    ∃ t, readSeconds .finite e name = .ok t ∧ t.ticks.toInt = ⌊o.getD 0 * 10000000⌋ := by
  rw [readSeconds]
  cases o with
  | none =>
    rw [show e.tryGetPropertyIgnoreCase name = .ok none from h]
    exact ⟨.zero, rfl, by rw [Option.getD_none, zero_mul, Int.floor_zero]; rfl⟩
  | some q =>
    obtain ⟨n, hfound, hn⟩ := h
    obtain ⟨t, ht, hticks⟩ := intervalWith_amount 10000000 hn.nonneg hn.le (by norm_num)
    refine ⟨t, ?_, by simpa using hticks⟩
    rw [hfound, ok_bind]
    dsimp only
    rw [getInt64OrDoubleWith_finite hn, ok_bind, Double.lt, if_neg]
    · exact ht
    · simp [hn.nonneg]

variable {p : PrintInfo}

theorem tryGetPrintTickDurations_finite (h : p.Describes e) :
    tryGetPrintTickDurations .finite e = .ok p.ticks := by
  obtain ⟨hnonneg, -⟩ := amount_bounds h.totalTicks
  rw [tryGetPrintTickDurations, readTicks_finite h.currentTicks, ok_bind,
    readTicks_finite h.totalTicks, ok_bind]
  have hlt : ∀ a b : ℚ, Double.lt (.finite a) (.finite b) = decide (a < b) := fun _ _ => rfl
  simp only [hlt]
  rw [PrintInfo.ticks]
  by_cases hzero : p.totalTicks.getD 0 = 0
  · rw [if_pos hzero, hzero]
    rfl
  · have hpos : 0 < p.totalTicks.getD 0 := lt_of_le_of_ne hnonneg (Ne.symm hzero)
    rw [if_neg hzero, decide_eq_true hpos, ← decide_not]
    simp only [not_lt]
    rfl

/-- A property that is an integer, as far as it is an `int`. -/
theorem exists_readOr_progress (h : p.Describes e) :
    ∃ progress, e.readOr "Progress" 0 readReported = .ok progress ∧
      progress.toInt = max (-2 ^ 31) (min (2 ^ 31 - 1) (p.progress.getD 0)) := by
  have hprogress := h.progress
  rw [JsonElement.readOr]
  cases hk : p.progress with
  | none =>
    rw [hk] at hprogress
    rw [show e.tryGetProperty "Progress" = .ok none from hprogress]
    exact ⟨0, rfl, rfl⟩
  | some k =>
    rw [hk] at hprogress
    obtain ⟨n, hfound, hn⟩ := hprogress
    rw [hfound, ok_bind, Option.getD_some]
    dsimp only
    rw [readReported, hn.int32, hn.double]
    by_cases hrange : -2 ^ 31 ≤ k ∧ k < 2 ^ 31
    · rw [if_pos hrange]
      refine ⟨_, rfl, ?_⟩
      rw [Int32.toInt_ofInt_of_le hrange.1 hrange.2]
      omega
    · rw [if_neg hrange]
      exact ⟨_, rfl, by rw [Double.toInt_toInt32_finite, Double.truncate_intCast]⟩

/-- The percentage of the layers that are printed. -/
theorem toInt_layerProgress {currentLayer totalLayer : ℕ} (h : 0 < totalLayer) :
    (Double.divWith .finite (Double.mulWith .finite (.finite (currentLayer : ℤ)) (.finite 100))
      (.finite (totalLayer : ℤ))).toInt32.toInt =
        min (2 ^ 31 - 1) ((currentLayer * 100 : ℕ) / totalLayer : ℤ) := by
  have hne : ((totalLayer : ℤ) : ℚ) ≠ 0 := by exact_mod_cast h.ne'
  have hnonneg : (0 : ℚ) ≤ ((currentLayer * 100 : ℕ) : ℤ) / (totalLayer : ℚ) := by positivity
  have hdiv : Double.divWith .finite (Double.mulWith .finite (.finite (currentLayer : ℤ))
      (.finite 100)) (.finite (totalLayer : ℤ)) =
        .finite (((currentLayer * 100 : ℕ) : ℤ) / (totalLayer : ℚ)) := by
    rw [Double.mulWith, Double.divWith, if_neg hne]
    push_cast
    rfl
  have hquotient : (0 : ℤ) ≤ ((currentLayer * 100 : ℕ) : ℤ) / (totalLayer : ℤ) := by positivity
  rw [hdiv, Double.toInt_toInt32_finite, Double.truncate, if_pos hnonneg,
    Rat.floor_intCast_div_natCast]
  omega

theorem layerProgress_iff {currentLayer totalLayer : ℕ} (h : 0 < totalLayer) {k : ℤ}
    (hk : k ≤ 100) :
    k ≤ min (2 ^ 31 - 1) ((currentLayer * 100 : ℕ) / totalLayer : ℤ) ↔
      k * totalLayer ≤ 100 * currentLayer := by
  rw [le_min_iff, Int.le_ediv_iff_mul_le (by omega), and_iff_right (by omega)]
  omega

/-- **The progress** without ticks: the reported number, or else the percentage of the layers. -/
theorem exists_readProgress_none (h : p.Describes e) (hlayers : p.LayersFit) :
    ∃ progress, readProgress .finite e none (.ofInt (p.currentLayer.getD 0 : ℕ))
        (.ofInt (p.totalLayer.getD 0 : ℕ)) p.mappedStatus = .ok progress ∧
      (0 < progress ↔ p.HasProgress) ∧ (100 ≤ progress ↔ p.IsComplete) := by
  obtain ⟨reported, hreported, hvalue⟩ := exists_readOr_progress h
  obtain ⟨hc, ht⟩ := hlayers
  unfold PrintInfo.HasProgress PrintInfo.IsComplete readProgress
  rw [hreported]
  dsimp only
  rw [ok_bind]
  generalize p.currentLayer.getD 0 = c at hc ⊢
  generalize p.totalLayer.getD 0 = t at ht ⊢
  generalize p.progress.getD 0 = k at hvalue ⊢
  have hcurrent : (Int32.ofInt c).toInt = c := Int32.toInt_ofInt_of_le (by omega) (by omega)
  have htotal : (Int32.ofInt t).toInt = t := Int32.toInt_ofInt_of_le (by omega) (by omega)
  have hzero : reported = 0 ↔ k = 0 := by
    rw [← Int32.toInt_inj, hvalue, Int32.toInt_zero]
    omega
  have hpositive : 0 < Int32.ofInt t ↔ 0 < t := by
    rw [Int32.lt_iff_toInt_lt, htotal, Int32.toInt_zero]
    omega
  rw [hcurrent, htotal]
  by_cases hprinted : p.mappedStatus = .printed
  · rw [if_pos hprinted]
    exact ⟨100, rfl, iff_of_true (by decide) (.inl hprinted),
      iff_of_true (by decide) (.inl hprinted)⟩
  rw [if_neg hprinted]
  by_cases hlayers : k = 0 ∧ 0 < t
  · obtain ⟨rfl, hpos⟩ := hlayers
    rw [if_pos ⟨hzero.mpr rfl, hpositive.mpr hpos⟩]
    refine ⟨_, rfl, ?_, ?_⟩
    · rw [Int32.lt_iff_toInt_lt, toInt_layerProgress hpos, Int32.toInt_zero,
        Int.lt_iff_add_one_le, layerProgress_iff hpos (by norm_num)]
      simp only [hprinted, false_or, true_and]
      omega
    · rw [Int32.le_iff_toInt_le, toInt_layerProgress hpos]
      change 100 ≤ _ ↔ _
      rw [layerProgress_iff hpos le_rfl]
      simp only [hprinted, false_or, true_and]
      omega
  · rw [if_neg (by rwa [hzero, hpositive])]
    refine ⟨reported, rfl, ?_, ?_⟩
    · rw [Int32.lt_iff_toInt_lt, hvalue, Int32.toInt_zero]
      simp only [hprinted, false_or]
      omega
    · rw [Int32.le_iff_toInt_le, hvalue]
      simp only [hprinted, false_or]
      change 100 ≤ _ ↔ _
      omega

/-! ### The times -/

/-- **The estimate**: at least the remaining time below 100 percent, and not positive above. -/
theorem exists_intervalWith_estimate {r k : ℤ} (hr : 1 ≤ r) (hle : r ≤ 10 ^ 16) (hk : 0 < k)
    (hne : k ≠ 100) :
    ∃ t, TimeSpan.intervalWith .finite (.finite (r / 10000000 / (1 - k / 100)))
        TimeSpan.ticksPerSecond = .ok t ∧
      (k < 100 → r ≤ t.ticks.toInt) ∧ (100 < k → t.ticks.toInt ≤ 0) := by
  have hrest : (100 - k : ℚ) ≠ 0 := sub_ne_zero.mpr (by exact_mod_cast hne.symm)
  have hticks : (r / 10000000 / (1 - k / 100) * (TimeSpan.ticksPerSecond : ℤ) : ℚ) =
      r * 100 / (100 - k) := by
    have hone : (1 - k / 100 : ℚ) = (100 - k) / 100 := by ring
    have hunit : ((TimeSpan.ticksPerSecond : ℤ) : ℚ) = 10000000 := by
      norm_num [TimeSpan.ticksPerSecond]
    rw [hone, hunit]
    field_simp
  have hdistance : (1 : ℚ) ≤ |100 - (k : ℚ)| := by
    have hint : (1 : ℤ) ≤ |100 - k| := Int.one_le_abs (sub_ne_zero.mpr hne.symm)
    exact_mod_cast hint
  have hr' : (1 : ℚ) ≤ r := by exact_mod_cast hr
  have hle' : (r : ℚ) ≤ 10 ^ 16 := by exact_mod_cast hle
  have hbound : |(r * 100 / (100 - k) : ℚ)| < 2 ^ 63 := by
    rw [abs_div, abs_of_nonneg (by positivity)]
    calc (r * 100 / |100 - (k : ℚ)| : ℚ) ≤ r * 100 := div_le_self (by positivity) hdistance
      _ ≤ 10 ^ 16 * 100 := by gcongr
      _ < 2 ^ 63 := by norm_num
  obtain ⟨t, ht, hvalue⟩ := TimeSpan.intervalWith_finite _ _ (hticks.symm ▸ hbound)
  refine ⟨t, ht, fun hlt => ?_, fun hlt => ?_⟩
  · have hlt' : (0 : ℚ) < 100 - k := sub_pos.mpr (by exact_mod_cast hlt)
    have hk' : (0 : ℚ) < k := by exact_mod_cast hk
    have hge : (r : ℚ) ≤ r * 100 / (100 - k) := by
      rw [le_div_iff₀ hlt']
      exact mul_le_mul_of_nonneg_left (by linarith) (by linarith)
    rw [hvalue, hticks, Double.truncate, if_pos (by linarith)]
    exact Int.le_floor.mpr hge
  · have hlt' : (100 - k : ℚ) < 0 := sub_neg.mpr (by exact_mod_cast hlt)
    have hneg : (r * 100 / (100 - k) : ℚ) < 0 := div_neg_of_pos_of_neg (by linarith) hlt'
    rw [hvalue, hticks, Double.truncate, if_neg hneg.not_ge]
    exact Int.ceil_le.mpr (by rw [Int.cast_zero]; exact hneg.le)

/-- The times from ticks are not estimated. -/
theorem exists_readTimes_some (h : p.Describes e) (hpos : 0 < p.totalTicks.getD 0)
    (progress : Int32) :
    ∃ r, readTimes .finite e (some (.finite (p.currentTicks.getD 0), .finite (p.totalTicks.getD 0),
        decide (100000 ≤ p.totalTicks.getD 0))) progress = .ok r ∧ .zero ≤ r.2 := by
  obtain ⟨hcurrent, -⟩ := amount_bounds h.currentTicks
  obtain ⟨-, htotal⟩ := amount_bounds h.totalTicks
  generalize p.currentTicks.getD 0 = current at hcurrent ⊢
  generalize p.totalTicks.getD 0 = total at hpos htotal ⊢
  have hmax : Double.max (.finite 0) (Double.subWith .finite (.finite total) (.finite current)) =
      .finite (max 0 (total - current)) := by
    change Double.max (.finite 0) (.finite (total - current)) = _
    have hlt : Double.lt (.finite 0) (.finite (total - current)) = decide (0 < total - current) :=
      rfl
    rw [Double.max, if_neg (by simp), hlt]
    by_cases hpos' : 0 < total - current
    · rw [if_pos (decide_eq_true hpos'), max_eq_right hpos'.le]
    · rw [if_neg (by simpa using hpos'), max_eq_left (not_lt.mp hpos')]
  obtain ⟨unit, hunit, hcases⟩ : ∃ unit : ℕ, unit ≤ 10 ^ 7 ∧
      (if decide (100000 ≤ total) = true then TimeSpan.ticksPerMillisecond
        else TimeSpan.ticksPerSecond) = (unit : ℤ) := by
    split
    · exact ⟨10000, by norm_num, rfl⟩
    · exact ⟨10000000, by norm_num, rfl⟩
  obtain ⟨totalTime, htotalTime, hticks⟩ := intervalWith_amount unit hpos.le htotal hunit
  obtain ⟨remainingTime, hremainingTime, hremaining⟩ := intervalWith_amount unit
    (le_max_left 0 (total - current)) (max_le (by norm_num) (by linarith)) hunit
  unfold readTimes
  dsimp only
  rw [hmax, hcases, htotalTime, ok_bind, hremainingTime, ok_bind]
  have hle : ⌊max 0 (total - current) * unit⌋ ≤ ⌊total * unit⌋ := by
    have hmax' : max 0 (total - current) ≤ total := max_le hpos.le (by linarith)
    exact Int.floor_mono (mul_le_mul_of_nonneg_right hmax' (Nat.cast_nonneg unit))
  have hnotEstimated :
      ¬ (totalTime = .zero ∧ remainingTime.isPositive = true ∧ 0 < progress) := by
    rintro ⟨rfl, hpositive, -⟩
    rw [TimeSpan.isPositive, decide_eq_true_iff, hremaining] at hpositive
    rw [← hticks] at hle
    exact absurd (hpositive.trans_le hle) (by decide)
  rw [pure_bind]
  dsimp only
  rw [if_neg hnotEstimated]
  refine ⟨_, rfl, ?_⟩
  change 0 ≤ totalTime.ticks.toInt
  rw [hticks]
  exact Int.floor_nonneg.mpr (mul_nonneg hpos.le (Nat.cast_nonneg unit))

/-- The quotient that the estimate converts. -/
theorem estimate_eq (t : TimeSpan) (k : ℤ) :
    Double.divWith .finite (t.totalSecondsWith .finite) (Double.subWith .finite (.finite 1)
      (Double.divWith .finite (.finite k) (.finite 100))) =
        if k = 100 then (Double.finite (t.ticks.toInt / 10000000)).div (.finite 0)
        else .finite (t.ticks.toInt / 10000000 / (1 - k / 100)) := by
  have hseconds : t.totalSecondsWith .finite = .finite (t.ticks.toInt / 10000000) := by
    change Double.divWith .finite (.finite t.ticks.toInt) (.finite (10000000 : ℤ)) = _
    rw [Double.divWith, if_neg (by norm_num)]
    norm_num
  have hleft : Double.subWith .finite (.finite 1) (Double.divWith .finite (.finite k) (.finite 100))
      = .finite (1 - k / 100) := by
    rw [Double.divWith, if_neg (by norm_num)]
    rfl
  have hzero : (1 - k / 100 : ℚ) = 0 ↔ k = 100 := by
    rw [sub_eq_zero, eq_div_iff (by norm_num), one_mul]
    exact ⟨fun h => by exact_mod_cast h.symm, fun h => by rw [h]; norm_num⟩
  rw [hseconds, hleft, Double.divWith]
  by_cases hk : k = 100
  · rw [if_pos (hzero.mpr hk), if_pos hk, hzero.mpr hk]
  · rw [if_neg (mt hzero.mp hk), if_neg hk]

/-- `FromSeconds` rejects the quotient by zero. -/
theorem intervalWith_div_zero (h : q ≠ 0) :
    TimeSpan.intervalWith .finite ((Double.finite q).div (.finite 0)) TimeSpan.ticksPerSecond =
      .error .overflow := by
  rw [Double.div, if_pos rfl, if_neg h]
  rfl

/-- **The estimate** is sound just below 100 percent. -/
theorem estimate_sound_iff {remainingTime : TimeSpan} {k : ℤ}
    (hpos : 0 < remainingTime.ticks.toInt) (hle : remainingTime.ticks.toInt ≤ 10 ^ 16)
    (hk : 0 < k) :
    (∃ t, TimeSpan.intervalWith .finite (Double.divWith .finite
        (remainingTime.totalSecondsWith .finite) (Double.subWith .finite (.finite 1)
          (Double.divWith .finite (.finite k) (.finite 100)))) TimeSpan.ticksPerSecond = .ok t ∧
      .zero ≤ t ∧ remainingTime ≤ t) ↔ k < 100 := by
  rw [estimate_eq]
  by_cases hhundred : k = 100
  · -- the quotient is infinite
    have hne : (remainingTime.ticks.toInt / 10000000 : ℚ) ≠ 0 :=
      div_ne_zero (by exact_mod_cast hpos.ne') (by norm_num)
    rw [if_pos hhundred, intervalWith_div_zero hne]
    refine iff_of_false ?_ (by omega)
    rintro ⟨t, ht, -⟩
    cases ht
  · obtain ⟨t, ht, hbelow, habove⟩ := exists_intervalWith_estimate hpos hle hk hhundred
    rw [if_neg hhundred, ht]
    constructor
    · rintro ⟨t', ht', -, hle'⟩
      cases ht'
      by_contra hnot
      have hnonpos := habove (by omega)
      exact absurd (hpos.trans_le (le_trans hle' hnonpos)) (lt_irrefl 0)
    · intro hlt
      exact ⟨t, rfl, hpos.le.trans (hbelow hlt), hbelow hlt⟩

theorem eq_zero_iff_of_floor {t : TimeSpan} (hq : 0 ≤ q) (h : t.ticks.toInt = ⌊q⌋) :
    t = .zero ↔ q < 1 := by
  have hnonneg : 0 ≤ t.ticks.toInt := h ▸ Int.floor_nonneg.mpr hq
  rw [← Int.cast_one, ← Int.floor_lt, ← h]
  constructor
  · rintro rfl
    decide
  · intro hlt
    have hticks : t.ticks = 0 := Int64.toInt_inj.mp (by rw [Int64.toInt_zero]; omega)
    cases t
    cases hticks
    rfl

theorem isPositive_iff_of_floor {t : TimeSpan} (h : t.ticks.toInt = ⌊q⌋) :
    t.isPositive = true ↔ 1 ≤ q := by
  rw [TimeSpan.isPositive, decide_eq_true_iff, h, ← Int.add_one_le_iff, zero_add, Int.le_floor,
    Int.cast_one]

/-- **The times without ticks** are sound unless the total is estimated for a complete print. -/
theorem readTimes_none_sound_iff (h : p.Describes e) (hzero : p.totalTicks.getD 0 = 0)
    {progress : Int32} (hpositive : 0 < progress ↔ p.HasProgress)
    (hcomplete : 100 ≤ progress ↔ p.IsComplete) :
    (∃ r, readTimes .finite e none progress = .ok r ∧ .zero ≤ r.2 ∧
      (p.IsEstimated → r.1 ≤ r.2)) ↔ ¬ (p.IsEstimated ∧ p.IsComplete) := by
  obtain ⟨hremaining, hremaining'⟩ := amount_bounds h.remainingTime
  obtain ⟨htotal, -⟩ := amount_bounds h.totalTime
  obtain ⟨remainingTime, hreadRemaining, hticks⟩ := readSeconds_finite h.remainingTime
  obtain ⟨totalTime, hreadTotal, hticks'⟩ := readSeconds_finite h.totalTime
  have hestimated : (totalTime = .zero ∧ remainingTime.isPositive = true ∧ 0 < progress) ↔
      p.IsEstimated := by
    rw [eq_zero_iff_of_floor (by positivity) hticks', isPositive_iff_of_floor hticks, hpositive,
      PrintInfo.IsEstimated, and_iff_right hzero]
  unfold readTimes
  dsimp only
  rw [hreadRemaining, ok_bind, hreadTotal, ok_bind, pure_bind]
  dsimp only
  by_cases hest : p.IsEstimated
  · obtain ⟨-, hpositiveTime, hprogress⟩ := hestimated.mpr hest
    have hpos : 0 < remainingTime.ticks.toInt := of_decide_eq_true hpositiveTime
    have hle : remainingTime.ticks.toInt ≤ 10 ^ 16 := by
      rw [hticks, ← Int.cast_le (R := ℚ)]
      refine (Int.floor_le _).trans ?_
      push_cast
      linarith
    have hbelow : ¬ p.IsComplete ↔ progress.toInt < 100 := by
      rw [← hcomplete, Int32.not_le, Int32.lt_iff_toInt_lt]
      rfl
    rw [if_pos (hestimated.mpr hest), and_iff_right hest, hbelow,
      ← estimate_sound_iff hpos hle (Int32.lt_iff_toInt_lt.mp hprogress)]
    constructor
    · rintro ⟨r, hr, hnonneg, hsound⟩
      obtain ⟨t, ht, hr⟩ := bind_eq_ok_iff.mp hr
      cases hr
      exact ⟨t, ht, hnonneg, hsound hest⟩
    · rintro ⟨t, ht, hnonneg, hsound⟩
      exact ⟨_, bind_eq_ok_iff.mpr ⟨t, ht, rfl⟩, hnonneg, fun _ => hsound⟩
  · have hnonneg : 0 ≤ totalTime.ticks.toInt := hticks' ▸ Int.floor_nonneg.mpr (by positivity)
    rw [if_neg (mt hestimated.mp hest)]
    exact iff_of_true ⟨_, rfl, hnonneg, fun h => absurd h hest⟩ fun h => hest h.1

/-! ### The current job -/

theorem clampInt32_bounds (k : Int32) : 0 ≤ clampInt32 k 0 100 ∧ clampInt32 k 0 100 ≤ 100 := by
  rw [clampInt32]
  split
  · decide
  · rename_i hlow
    split
    · decide
    · rename_i hhigh
      exact ⟨Int32.not_lt.mp hlow, Int32.not_lt.mp hhigh⟩

/-- **The progress and the times** that follow from it are sound unless the total time is estimated
for a complete print. -/
theorem exists_readProgress_sound_iff (h : p.Describes e) (hlayers : p.LayersFit) :
    ∃ progress, readProgress .finite e p.ticks (.ofInt (p.currentLayer.getD 0 : ℕ))
        (.ofInt (p.totalLayer.getD 0 : ℕ)) p.mappedStatus = .ok progress ∧
      ((∃ r, readTimes .finite e p.ticks progress = .ok r ∧ .zero ≤ r.2 ∧
        (p.IsEstimated → r.1 ≤ r.2)) ↔ ¬ (p.IsEstimated ∧ p.IsComplete)) := by
  rw [PrintInfo.ticks]
  by_cases hzero : p.totalTicks.getD 0 = 0
  · obtain ⟨progress, hprogress, hpositive, hcomplete⟩ := exists_readProgress_none h hlayers
    rw [if_pos hzero]
    exact ⟨progress, hprogress, readTimes_none_sound_iff h hzero hpositive hcomplete⟩
  · have hpos : 0 < p.totalTicks.getD 0 :=
      lt_of_le_of_ne (amount_bounds h.totalTicks).1 (Ne.symm hzero)
    have hest : ¬ p.IsEstimated := fun hest => hzero hest.1
    rw [if_neg hzero]
    refine ⟨_, rfl, ?_⟩
    obtain ⟨r, hr, hnonneg⟩ := exists_readTimes_some h hpos _
    exact iff_of_true ⟨r, hr, hnonneg, fun hest' => absurd hest' hest⟩ fun hest' => hest hest'.1

theorem sound_iff {job : PrintJobUpdate} {progress : Int32} {r : TimeSpan × TimeSpan}
    (hprogress : job.percentageComplete = ⟨clampInt32 progress 0 100, true⟩)
    (hremaining : job.remainingTime = ⟨r.1, true⟩) (htotal : job.totalTime = ⟨r.2, true⟩) :
    p.Sound job ↔ .zero ≤ r.2 ∧ (p.IsEstimated → r.1 ≤ r.2) := by
  constructor
  · rintro ⟨-, -, hnonneg, hestimated⟩
    rw [hremaining, htotal] at hestimated
    rw [htotal] at hnonneg
    exact ⟨hnonneg, hestimated⟩
  · rintro ⟨hnonneg, hestimated⟩
    refine ⟨?_, ?_, ?_, ?_⟩
    · rw [hprogress, hremaining, htotal]
      exact ⟨rfl, rfl, rfl⟩
    · rw [hprogress]
      exact clampInt32_bounds progress
    · rw [htotal]
      exact hnonneg
    · rw [hremaining, htotal]
      exact hestimated

/-- **The current job** is sound unless a layer is not an `int` or the total time is estimated for
a complete print. -/
theorem mapActiveJob_sound_iff (h : p.Describes e) (job : PrintJobUpdate) :
    (∃ configure, mapActiveJob .finite e p.mappedStatus = .ok configure ∧
      p.Sound (configure job)) ↔ p.LayersFit ∧ ¬ (p.IsEstimated ∧ p.IsComplete) := by
  obtain ⟨filename, hfilename⟩ := h.filename.readOr
    (fun f => return (← f.getString).getD "") (fun f text hf => ⟨_, by rw [hf]; rfl⟩) ""
  obtain ⟨customID, hcustomID⟩ := h.taskId.readOr JsonElement.getString
    (fun _ text hf => ⟨text, hf⟩) none
  rw [mapActiveJob, hfilename, ok_bind, readOr_getInt32 h.currentLayer,
    readOr_getInt32 h.totalLayer, tryGetPrintTickDurations_finite h, hcustomID]
  by_cases hcurrent : p.currentLayer.getD 0 < 2 ^ 31
  · rw [if_pos hcurrent, ok_bind]
    by_cases htotal : p.totalLayer.getD 0 < 2 ^ 31
    · have hlayers : p.LayersFit := ⟨hcurrent, htotal⟩
      obtain ⟨progress, hprogress, hsound⟩ := exists_readProgress_sound_iff h hlayers
      rw [if_pos htotal, ok_bind, ok_bind, hprogress, ok_bind, and_iff_right hlayers, ← hsound]
      cases hr : readTimes .finite e p.ticks progress with
      | error fault =>
        refine iff_of_false ?_ ?_
        · rintro ⟨configure, hconfigure, -⟩
          cases hconfigure
        · rintro ⟨r, hr', -⟩
          cases hr'
      | ok r =>
        constructor
        · rintro ⟨configure, hconfigure, hsound⟩
          cases hconfigure
          exact ⟨r, rfl, (sound_iff rfl rfl rfl).mp hsound⟩
        · rintro ⟨r', hr', hsound⟩
          cases hr'
          exact ⟨_, rfl, (sound_iff rfl rfl rfl).mpr hsound⟩
    · rw [if_neg htotal]
      refine iff_of_false ?_ fun hsound => htotal hsound.1.2
      rintro ⟨configure, hconfigure, -⟩
      cases hconfigure
  · rw [if_neg hcurrent]
    refine iff_of_false ?_ fun hsound => hcurrent hsound.1.1
    rintro ⟨configure, hconfigure, -⟩
    cases hconfigure

/-- The fields of a status message are those of the record, if it has a `PrintInfo`, and of the
expected kinds. -/
structure DescribesStatus (o : Option PrintInfo) (status : JsonElement) : Prop where
  currentStatus : status.tryGetProperty "CurrentStatus" = .ok none ∨
    ∃ entries, status.tryGetProperty "CurrentStatus" = .ok (some (.array entries)) ∧
      ∀ first ∈ entries.head?, ∃ n k, first = .number n ∧ n.int32 = some k
  none : o = none → status.tryGetProperty "PrintInfo" = .ok none
  some : ∀ p, o = some p → ∃ e, status.tryGetProperty "PrintInfo" = .ok (some e) ∧ p.Describes e

theorem exists_readCurrentStatus {o : Option PrintInfo} {status : JsonElement}
    (h : DescribesStatus o status) : ∃ k, readCurrentStatus status = .ok k := by
  rw [readCurrentStatus, JsonElement.readOr]
  obtain hnone | ⟨entries, hentries, hfirst⟩ := h.currentStatus
  · rw [hnone]
    exact ⟨0, rfl⟩
  · rw [hentries]
    cases entries with
    | nil => exact ⟨0, rfl⟩
    | cons first entries =>
      obtain ⟨n, k, rfl, hn⟩ := hfirst first rfl
      refine ⟨k, ?_⟩
      change (JsonElement.number n).getInt32 = .ok k
      rw [JsonElement.getInt32, JsonElement.tryGetInt32, ok_bind, hn]
      rfl

theorem readPrintStatus_eq (h : p.Describes e) : readPrintStatus e = .ok p.mappedStatus := by
  have hread : ∀ (n : JsonNumber) (k : Int32), n.int32 = some k →
      (JsonElement.number n).getInt32 = .ok k := by
    intro n k hn
    rw [JsonElement.getInt32, JsonElement.tryGetInt32, ok_bind, hn]
    rfl
  rw [readPrintStatus, h.status.readOr hread, Option.map_id']
  rfl

/-- **The progress arithmetic** of `MapPrintInfo`, on rationals. It is total and sound unless, for
a print that is active or has just ended, a layer is not an `int` or the total time is estimated
although the print is complete. -/
theorem mapPrintInfo_sound_iff {o : Option PrintInfo} {status : JsonElement}
    (h : DescribesStatus o status) (s : MachineState) (u : MachineStateUpdate) :
    (∃ u', mapPrintInfo .finite s status u = .ok u' ∧ ∀ p, o = some p → p.IsCurrent →
      ∃ job, u'.currentJob.value = some job ∧ p.Sound job) ↔
    ∀ p, o = some p → p.IsCurrent → p.LayersFit ∧ ¬ (p.IsEstimated ∧ p.IsComplete) := by
  obtain ⟨k, hk⟩ := exists_readCurrentStatus h
  rw [mapPrintInfo, hk, ok_bind]
  cases o with
  | none =>
    rw [h.none rfl, ok_bind]
    refine iff_of_true ⟨_, rfl, fun p hp => ?_⟩ fun p hp => ?_
    · cases hp
    · cases hp
  | some p =>
    obtain ⟨e, he, hp⟩ := h.some p rfl
    rw [he, ok_bind]
    dsimp only
    rw [readPrintStatus_eq hp, ok_bind]
    by_cases hcurrent : p.IsCurrent
    · have hcondition := hcurrent
      rw [PrintInfo.IsCurrent] at hcondition
      rw [if_pos hcondition]
      have hjob := mapActiveJob_sound_iff hp (u.currentJob.value.getD default)
      constructor
      · rintro ⟨u', hu', hsound⟩ p' hp' -
        cases hp'
        obtain ⟨configure, hconfigure, hu'⟩ := bind_eq_ok_iff.mp hu'
        cases hu'
        obtain ⟨job, hvalue, hsound⟩ := hsound p rfl hcurrent
        cases hvalue
        exact hjob.mp ⟨configure, hconfigure, hsound⟩
      · intro hsound
        obtain ⟨configure, hconfigure, hsound⟩ := hjob.mpr (hsound p rfl hcurrent)
        rw [hconfigure]
        refine ⟨_, rfl, fun p' hp' _ => ?_⟩
        cases hp'
        exact ⟨_, rfl, hsound⟩
    · have hcondition := hcurrent
      rw [PrintInfo.IsCurrent] at hcondition
      rw [if_neg hcondition]
      refine iff_of_true ⟨_, rfl, fun p' hp' hcurrent' => ?_⟩ fun p' hp' hcurrent' => ?_
      · cases hp'
        exact absurd hcurrent' hcurrent
      · cases hp'
        exact absurd hcurrent' hcurrent

/-- 100 percent, and a minute that remains. -/
def lastMinute : PrintInfo where
  status := some 13
  currentLayer := none
  totalLayer := none
  progress := some 100
  currentTicks := none
  totalTicks := none
  remainingTime := some 60
  totalTime := none

def lastMinuteStatus : JsonElement := .object [("PrintInfo", .object [
  ("Status", .number ⟨some 13, some 13, .finite 13⟩),
  ("Progress", .number ⟨some 100, some 100, .finite 100⟩),
  ("RemainingTime", .number ⟨some 60, some 60, .finite 60⟩)])]

theorem describes_lastMinute : DescribesStatus (some lastMinute) lastMinuteStatus := by
  refine ⟨.inl rfl, ?_, fun p hp => ⟨_, rfl, ?_⟩⟩
  · intro h
    cases h
  · cases hp
    refine ⟨⟨none, rfl, ?_⟩, ⟨none, rfl, ?_⟩, ⟨_, rfl, rfl⟩, rfl, rfl, ⟨_, rfl, rfl, rfl⟩, rfl, rfl,
      ⟨_, rfl, ?_⟩, rfl⟩
    · intro f hf
      cases hf
    · intro f hf
      cases hf
    · refine ⟨fun i hi => ?_, rfl, by norm_num, by norm_num⟩
      cases hi
      rfl

theorem mapPrintInfo_sound_iff_lastMinute :
    (∃ u', mapPrintInfo .finite default lastMinuteStatus default = .ok u' ∧
      ∀ p, some lastMinute = some p → p.IsCurrent →
        ∃ job, u'.currentJob.value = some job ∧ p.Sound job) ↔
    ∀ p, some lastMinute = some p → p.IsCurrent →
      p.LayersFit ∧ ¬ (p.IsEstimated ∧ p.IsComplete) :=
  mapPrintInfo_sound_iff describes_lastMinute default default

/-- The remaining time is divided by zero, in the arithmetic of the runtime too. -/
theorem mapPrintInfo_sound_fails :
    DescribesStatus (some lastMinute) lastMinuteStatus ∧
      mapPrintInfo .finite default lastMinuteStatus default = .error .overflow ∧
      (Elegoo.mapPrintInfo default lastMinuteStatus default).isOk = false :=
  ⟨describes_lastMinute, by with_unfolding_all rfl, by decide +kernel⟩

end Rounded

end Fields

end Elegoo

end Connect3Dp
