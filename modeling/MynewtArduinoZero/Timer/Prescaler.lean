import MynewtArduinoZero.Timer.Lifecycle
import Mathlib.Data.Nat.Dist

/-!
# The prescaler

`hal_timer_config` looks for a division of the clock near `max_frequency /
freq_hz`.  It walks the powers of two that the hardware has, with the exponent
in `prescaler` and the value for CTRLA in `prescaler_reg`, up to the first one
that is not below.  From there it may go back to half of it: in `prescaler`
only, and also where the hardware has no such division.

`tmr_freq` is computed from `prescaler`, and the counter ticks by
`prescaler_reg`.
-/

namespace HalTimer.Lifecycle

/-! ## Divisions -/

/-- The divisions that the field CTRLA.PRESCALER selects, by its value. -/
def divisions : List Nat := [1, 2, 4, 8, 16, 64, 256, 1024]

/-- The exponent of the division with number `reg`. -/
def exponent (reg : Nat) : Nat := if reg ≤ 4 then reg else 2 * reg - 4

theorem getElem?_divisions : ∀ reg ≤ 7, divisions[reg]? = some (2 ^ exponent reg) := by decide

theorem exponent_succ {reg : Nat} :
    exponent (reg + 1) = if exponent reg < 4 then exponent reg + 1 else exponent reg + 2 := by
  unfold exponent
  split <;> split <;> split <;> omega

theorem exponent_mono {r reg : Nat} (h : r ≤ reg) : exponent r ≤ exponent reg := by
  unfold exponent
  split <;> split <;> omega

theorem exponent_le {reg : Nat} (h : reg ≤ 7) : exponent reg ≤ 10 := exponent_mono h

theorem mem_divisions {d : Nat} : d ∈ divisions ↔ ∃ reg ≤ 7, d = 2 ^ exponent reg := by
  rw [List.mem_iff_getElem?]
  constructor
  · rintro ⟨reg, hreg⟩
    have hlt : reg < 8 := (List.getElem?_eq_some_iff.mp hreg).1
    rw [getElem?_divisions reg (by omega), Option.some.injEq] at hreg
    exact ⟨reg, by omega, hreg.symm⟩
  · rintro ⟨reg, hle, rfl⟩
    exact ⟨reg, getElem?_divisions reg hle⟩

theorem pos_of_mem_divisions {d : Nat} (h : d ∈ divisions) : 0 < d := by
  obtain ⟨reg, -, rfl⟩ := mem_divisions.mp h
  exact Nat.two_pow_pos _

/-- The powers of two at hand are apart by a factor of two or more. -/
theorem double_le_of_lt {d d' : Nat} (hd : d ∈ divisions) (hd' : d' ∈ divisions) (h : d < d') :
    2 * d ≤ d' := by
  obtain ⟨r, -, rfl⟩ := mem_divisions.mp hd
  obtain ⟨r', -, rfl⟩ := mem_divisions.mp hd'
  have hlt : exponent r < exponent r' := (Nat.pow_lt_pow_iff_right (by decide)).mp h
  rw [← Nat.pow_succ']
  exact Nat.pow_le_pow_right (by decide) hlt

/-! ## The search -/

/-- What the search finds for `div`: the first division that is not below, and its exponent or one
less. -/
structure Found (div p reg : Nat) : Prop where
  reg_le : reg ≤ 7
  above : 0 < reg → 2 ^ exponent (reg - 1) < div
  below : div ≤ 2 ^ exponent reg
  prescaler : p =
    if 2 ^ (exponent reg - 1) ≤ div ∧ 4 * div < 3 * 2 ^ exponent reg then exponent reg - 1
    else exponent reg

/-- The two differences are unsigned: where half of the power is above `div`, the first one is
large. -/
theorem minDelta_lt_iff {div : UInt32} {e : Nat} (he : 1 ≤ e) (hle : e ≤ 10)
    (hdiv : div ≤ pow2 e) :
    div - pow2 (e - 1) < pow2 e - div ↔
      2 ^ (e - 1) ≤ div.toNat ∧ 4 * div.toNat < 3 * 2 ^ e := by
  obtain ⟨k, rfl⟩ : ∃ k, e = k + 1 := ⟨e - 1, by omega⟩
  have hsmall : 2 ^ k ≤ 2 ^ 9 := Nat.pow_le_pow_right (by decide) (by omega)
  rw [UInt32.le_iff_toNat_le, pow2_toNat hle] at hdiv
  have hdouble : 2 ^ (k + 1) = 2 * 2 ^ k := Nat.pow_succ'
  rw [UInt32.lt_iff_toNat_lt, UInt32.toNat_sub, UInt32.toNat_sub, pow2_toNat hle,
    pow2_toNat (by omega), Nat.add_sub_cancel, hdouble]
  rw [hdouble] at hdiv
  generalize 2 ^ k = half at *
  rcases Nat.lt_or_ge div.toNat half with hbelow | habove
  · have hmin : (2 ^ 32 - half + div.toNat) % 2 ^ 32 = 2 ^ 32 - half + div.toNat :=
      Nat.mod_eq_of_lt (by omega)
    omega
  · have hmin : (2 ^ 32 - half + div.toNat) % 2 ^ 32 = div.toNat - half := by omega
    have hmax : (2 ^ 32 - div.toNat + 2 * half) % 2 ^ 32 = 2 * half - div.toNat := by omega
    omega

theorem prescalerLoop_found {div : UInt32} (hdiv : div ≤ 1024) (fuel reg : Nat) (hreg : 1 ≤ reg)
    (hle : reg ≤ 7) (hfuel : 8 ≤ fuel + reg) (habove : 2 ^ exponent (reg - 1) < div.toNat) :
    Found div.toNat (prescalerLoop div fuel (exponent reg) reg).1
      (prescalerLoop div fuel (exponent reg) reg).2 := by
  induction fuel generalizing reg with
  | zero => omega
  | succ fuel ih =>
      have hten := exponent_le hle
      have hpos : 1 ≤ exponent reg := exponent_mono hreg
      rw [prescalerLoop, if_pos (by omega)]
      by_cases hbelow : div ≤ pow2 (exponent reg)
      · rw [if_pos hbelow]
        refine ⟨hle, fun _ => habove, ?_, ?_⟩
        · rwa [UInt32.le_iff_toNat_le, pow2_toNat hten] at hbelow
        · exact if_congr (minDelta_lt_iff hpos hten hbelow) rfl rfl
      · rw [if_neg hbelow, ← exponent_succ]
        rw [UInt32.le_iff_toNat_le, pow2_toNat hten, Nat.not_le] at hbelow
        have hlast : reg ≠ 7 := by
          rintro rfl
          have hmax : div.toNat ≤ 1024 := UInt32.le_iff_toNat_le.mp hdiv
          exact absurd hbelow (Nat.not_lt.mpr hmax)
        exact ih (reg + 1) (by omega) (by omega) (by omega) hbelow

theorem findPrescaler_found {div : UInt32} (hzero : div ≠ 0) (hdiv : div ≤ 1024) :
    Found div.toNat (findPrescaler div).1 (findPrescaler div).2 := by
  unfold findPrescaler
  split
  next hone =>
    subst hone
    exact ⟨by decide, fun h => absurd h (by decide), by decide, by decide⟩
  next hone =>
    refine prescalerLoop_found hdiv 11 1 (by decide) (by decide) (by decide) ?_
    have hne : div.toNat ≠ 0 := fun h => hzero (UInt32.toNat_inj.mp h)
    have hne' : div.toNat ≠ 1 := fun h => hone (UInt32.toNat_inj.mp h)
    have hpow : 2 ^ exponent (1 - 1) = 1 := by decide
    omega

/-! ## Closeness -/

/-- An available division that is not more than a third above `div`. -/
def Near (div : Nat) : Prop := ∃ d ∈ divisions, div ≤ d ∧ 3 * d ≤ 4 * div

instance (div : Nat) : Decidable (Near div) := inferInstanceAs (Decidable (∃ d ∈ divisions, _))

/-- No division is closer to `a / b` than `d`. -/
def Closest (d a b : Nat) : Prop := ∀ d' ∈ divisions, Nat.dist (d * b) a ≤ Nat.dist (d' * b) a

theorem Found.near_iff {div p reg : Nat} (h : Found div p reg) :
    Near div ↔ 3 * 2 ^ exponent reg ≤ 4 * div := by
  constructor
  · rintro ⟨d, hd, hle, hnear⟩
    obtain ⟨r, -, rfl⟩ := mem_divisions.mp hd
    have hreg : reg ≤ r := by
      by_contra hlt
      have hmono : exponent r ≤ exponent (reg - 1) := exponent_mono (by omega)
      have hpow : 2 ^ exponent r ≤ 2 ^ exponent (reg - 1) :=
        Nat.pow_le_pow_right (by decide) hmono
      have habove := h.above (by omega)
      omega
    have hpow : 2 ^ exponent reg ≤ 2 ^ exponent r :=
      Nat.pow_le_pow_right (by decide) (exponent_mono hreg)
    omega
  · intro hnear
    exact ⟨_, mem_divisions.mpr ⟨reg, h.reg_le, rfl⟩, h.below, hnear⟩

/-- A division that is at most a third above the quotient is the closest one, but for quotients
between 1 and 2. -/
theorem closest_of_near {d div a b : Nat} (hd : d ∈ divisions) (hle : div ≤ d)
    (hnear : 3 * d ≤ 4 * div) (hlow : div * b ≤ a) (hhigh : a < (div + 1) * b)
    (hone : div = 1 → 2 * a ≤ 3 * b) : Closest d a b := by
  intro d' hd'
  have hlowd : 3 * (d * b) ≤ 4 * (div * b) := by
    have := Nat.mul_le_mul_right b hnear
    rwa [Nat.mul_assoc, Nat.mul_assoc] at this
  have hled : div * b ≤ d * b := Nat.mul_le_mul_right b hle
  rw [Nat.add_one_mul] at hhigh
  rcases Nat.lt_trichotomy d' d with hlt | rfl | hgt
  · have hhalf := Nat.mul_le_mul_right b (double_le_of_lt hd' hd hlt)
    rw [Nat.mul_assoc] at hhalf
    unfold Nat.dist
    omega
  · exact Nat.le_refl _
  · have hdouble := Nat.mul_le_mul_right b (double_le_of_lt hd hd' hgt)
    rw [Nat.mul_assoc] at hdouble
    unfold Nat.dist
    rcases Nat.lt_or_ge d 2 with hsmall | hlarge
    · have hpos := pos_of_mem_divisions hd
      obtain rfl : d = 1 := by omega
      obtain rfl : div = 1 := by omega
      have hsmall := hone rfl
      omega
    · have htwo := Nat.mul_le_mul_right b hlarge
      omega

/-- Where the search goes to more than twice `div`, the division below is closer. -/
theorem not_closest_of_far {div p reg a b : Nat} (h : Found div p reg) (hpos : 0 < div)
    (hfar : 2 * div < 2 ^ exponent reg) (hlow : div * b ≤ a) (hhigh : a < (div + 1) * b) :
    ¬ Closest (2 ^ exponent reg) a b := by
  intro hclosest
  have hreg : 0 < reg := by
    by_contra hzero
    obtain rfl : reg = 0 := by omega
    have hone : 2 ^ exponent 0 = 1 := by decide
    omega
  have habove := h.above hreg
  -- the power between them is not available
  have hskip : 2 ^ exponent reg = 4 * 2 ^ exponent (reg - 1) := by
    obtain ⟨r, rfl⟩ : ∃ r, reg = r + 1 := ⟨reg - 1, by omega⟩
    rw [Nat.add_sub_cancel] at habove ⊢
    rw [exponent_succ] at hfar ⊢
    split at hfar
    · rw [Nat.pow_succ'] at hfar
      omega
    next hlarge => rw [if_neg hlarge, Nat.pow_add, Nat.mul_comm]
  have hcloser := hclosest _ (mem_divisions.mpr ⟨reg - 1, by have := h.reg_le; omega, rfl⟩)
  rw [hskip] at hcloser hfar
  generalize 2 ^ exponent (reg - 1) = q at *
  have hq := Nat.mul_le_mul_right b (Nat.le_of_lt habove)
  have hdiv := Nat.mul_le_mul_right b (show div + 1 ≤ 2 * q by omega)
  have hfour : 4 * q * b = 4 * (q * b) := Nat.mul_assoc ..
  have htwo : 2 * q * b = 2 * (q * b) := Nat.mul_assoc ..
  unfold Nat.dist at hcloser
  omega

/-- Between 1 and 2, the division by 1 is the closest one up to a half. -/
theorem le_of_closest_one {a b : Nat} (hhigh : a < 2 * b) (h : Closest 1 a b) :
    2 * a ≤ 3 * b := by
  have hcloser := h 2 (by decide)
  unfold Nat.dist at hcloser
  omega

/-- The exponent that is found is that of the division found, exactly where the search does not
go back. -/
theorem Found.div_eq_iff {div p reg max : Nat} (h : Found div p reg) (hmax : 1024 ≤ max) :
    max / 2 ^ p = max / 2 ^ exponent reg ↔
      ¬ (2 ^ (exponent reg - 1) ≤ div ∧ 4 * div < 3 * 2 ^ exponent reg) := by
  rw [h.prescaler]
  split
  next hback =>
    refine iff_of_false ?_ (not_not_intro hback)
    obtain ⟨k, hk⟩ : ∃ k, exponent reg = k + 1 := by
      refine ⟨exponent reg - 1, ?_⟩
      by_contra hzero
      obtain hzero : exponent reg = 0 := by omega
      rw [hzero] at hback
      omega
    have hle : 2 ^ (k + 1) ≤ 2 ^ 10 := Nat.pow_le_pow_right (by decide) (hk ▸ exponent_le h.reg_le)
    rw [hk, Nat.add_sub_cancel]
    have hpos : 0 < max / 2 ^ (k + 1) := Nat.div_pos (by omega) (Nat.two_pow_pos _)
    have hhalf : max / 2 ^ (k + 1) = max / 2 ^ k / 2 := by
      rw [Nat.pow_succ, Nat.div_div_eq_div_mul]
    omega
  next hstay => exact iff_of_true rfl hstay

theorem Found.closest_iff {div p reg max a b : Nat} (h : Found div p reg) (hpos : 0 < div)
    (hmax : 1024 ≤ max) (hlow : div * b ≤ a) (hhigh : a < (div + 1) * b) :
    (max / 2 ^ p = max / 2 ^ exponent reg ∧ Closest (2 ^ exponent reg) a b) ↔
      Near div ∧ (div = 1 → 2 * a ≤ 3 * b) := by
  rw [h.near_iff, h.div_eq_iff hmax]
  constructor
  · rintro ⟨hstay, hclosest⟩
    have hnear : 3 * 2 ^ exponent reg ≤ 4 * div := by
      by_contra hfar
      refine not_closest_of_far h hpos ?_ hlow hhigh hclosest
      rcases Nat.eq_zero_or_pos (exponent reg) with hzero | he
      · rw [hzero] at hfar
        omega
      · have hdouble : 2 ^ exponent reg = 2 * 2 ^ (exponent reg - 1) := by
          rw [← Nat.pow_succ', Nat.succ_eq_add_one, Nat.sub_add_cancel he]
        omega
    refine ⟨hnear, ?_⟩
    rintro rfl
    have hone : 2 ^ exponent reg = 1 := by
      have hlarge := Nat.two_pow_pos (exponent reg)
      omega
    rw [hone] at hclosest
    exact le_of_closest_one hhigh hclosest
  · rintro ⟨hnear, hone⟩
    refine ⟨by omega, ?_⟩
    exact closest_of_near (mem_divisions.mpr ⟨reg, h.reg_le, rfl⟩) h.below hnear hlow hhigh hone

/-! ## The configuration -/

/-- The counter ticks by a division that `tmr_freq` and the resolution go by, and no other one is
closer to `a / b`. -/
def Honest (s : Sys) (timerNum : Int) (i : Fin timerMax) (max : UInt32) (a b : Nat) : Prop :=
  ∃ tc ∈ (s.timers i).hw, ∃ d ∈ divisions[(s.tcs tc).prescaler]?,
    (s.timers i).tmrFreq.toNat = max.toNat / d ∧
      halTimerGetResolution s timerNum = some (↑(1000000000 / (max.toNat / d)), s) ∧
      Closest d a b

/-- What is set where `hal_timer_config` enables a timer. -/
structure Configured (s : Sys) (freqHz : UInt32) (i : Fin timerMax) (s' : Sys) (max : UInt32)
    (tc : TcInst) : Prop where
  freq_pos : 0 < freqHz.toNat
  div_ne_zero : max / freqHz ≠ 0
  div_le : max / freqHz ≤ 1024
  present : s'.present = s.present
  hw : (s'.timers i).hw = some tc
  prescaler : (s'.tcs tc).prescaler = (findPrescaler (max / freqHz)).2
  tmrFreq : (s'.timers i).tmrFreq = max / pow2 (findPrescaler (max / freqHz)).1

theorem configTimer_enabled {s s' : Sys} {freqHz max : UInt32} {swrst slave : Bool}
    {i : Fin timerMax} (hmax : maxFrequency (s.timers i).tmrSrcclk = some max)
    (h : configTimer s freqHz swrst slave i = some (0, s'))
    (hon : (s'.timers i).tmrEnabled = true) : ∃ tc, Configured s freqHz i s' max tc := by
  unfold configTimer at h
  dsimp only at h
  split at h
  · cases h
  next hready =>
    rw [not_or, not_or] at hready
    rw [hmax] at h
    dsimp only at h
    split at h
    · cases h
      exact absurd hon hready.1
    next hgood =>
      rw [not_or, not_or, UInt32.not_lt (b := max / freqHz)] at hgood
      obtain ⟨tc, htc, h⟩ := Option.map_eq_some_iff.mp h
      split at h
      · rw [Prod.mk.injEq] at h
        obtain ⟨-, rfl⟩ := h
        refine ⟨tc, ?_, hgood.2.1, hgood.2.2, rfl, ?_, ?_, ?_⟩
        · exact Nat.pos_of_ne_zero fun h => hready.2.2 (UInt32.toNat_inj.mp h)
        · simpa [Sys.nvicEnable, Sys.setTimer] using htc
        · simp [Sys.nvicEnable, Sys.setTimer, Sys.setTc]
        · simp [Sys.nvicEnable, Sys.setTimer]
      · cases h

/-- The resolution goes by `tmr_freq`. -/
theorem halTimerGetResolution_eq {s : Sys} {timerNum : Int} {i : Fin timerMax}
    (hi : Names s timerNum i) (hfreq : (s.timers i).tmrFreq ≠ 0) :
    halTimerGetResolution s timerNum
      = some (↑(1000000000 / (s.timers i).tmrFreq.toNat), s) := by
  rw [halTimerGetResolution, resolve_names _ hi, if_neg hfreq, UInt32.toNat_div]
  rfl

theorem Configured.honest_iff {s s' : Sys} {timerNum : Int} {freqHz max : UInt32} {i : Fin timerMax}
    {tc : TcInst} (h : Configured s freqHz i s' max tc) (hi : Names s timerNum i)
    (hmax : 1024 ≤ max.toNat) {a b : Nat} (hlow : max.toNat / freqHz.toNat * b ≤ a)
    (hhigh : a < (max.toNat / freqHz.toNat + 1) * b) :
    Honest s' timerNum i max a b ↔
      Near (max.toNat / freqHz.toNat) ∧ (max.toNat / freqHz.toNat = 1 → 2 * a ≤ 3 * b) := by
  have hfound := findPrescaler_found h.div_ne_zero h.div_le
  rw [UInt32.toNat_div] at hfound
  have hpos : 0 < max.toNat / freqHz.toNat := by
    rw [← UInt32.toNat_div]
    exact Nat.pos_of_ne_zero fun hzero => h.div_ne_zero (UInt32.toNat_inj.mp hzero)
  rw [← hfound.closest_iff hpos hmax hlow hhigh]
  have hfreq : (s'.timers i).tmrFreq.toNat
      = max.toNat / 2 ^ (findPrescaler (max / freqHz)).1 := by
    rw [h.tmrFreq, UInt32.toNat_div, pow2_toNat (findPrescaler_le h.div_le)]
  have hdivision : divisions[(s'.tcs tc).prescaler]?
      = some (2 ^ exponent (findPrescaler (max / freqHz)).2) := by
    rw [h.prescaler]
    exact getElem?_divisions _ hfound.reg_le
  constructor
  · rintro ⟨tc', htc', d, hd, hd', -, hclosest⟩
    obtain rfl := Option.some.inj (h.hw.symm.trans htc')
    obtain rfl := Option.some.inj (hdivision.symm.trans hd)
    exact ⟨hfreq.symm.trans hd', hclosest⟩
  · rintro ⟨heq, hclosest⟩
    have hnames : Names s' timerNum i := ⟨hi.1, h.present ▸ hi.2⟩
    have hne : (s'.timers i).tmrFreq ≠ 0 := by
      intro hzero
      have hle : 2 ^ (findPrescaler (max / freqHz)).1 ≤ 2 ^ 10 :=
        Nat.pow_le_pow_right (by decide) (findPrescaler_le h.div_le)
      rw [hzero, UInt32.toNat_zero] at hfreq
      have hlt := Nat.lt_of_div_eq_zero (Nat.two_pow_pos _) hfreq.symm
      omega
    refine ⟨tc, h.hw, _, hdivision, hfreq.trans heq, ?_, hclosest⟩
    rw [halTimerGetResolution_eq hnames hne, hfreq, heq]

/-- Where `hal_timer_config` enables a timer, the division in CTRLA is what `tmr_freq` and the
resolution go by and is the closest one to `max_frequency / freq_hz`, exactly where some division
is at most a third above the quotient.  For the exact quotient, one between 1 and 2 has to be at
most a half above 1 besides. -/
theorem prescaler_honest_iff {s s' : Sys} {timerNum : Int} {freqHz max : UInt32}
    {swrst slave : Bool} {i : Fin timerMax} (hi : Names s timerNum i)
    (hmax : maxFrequency (s.timers i).tmrSrcclk = some max)
    (hcall : halTimerConfig s timerNum freqHz swrst slave = some (0, s'))
    (hon : (s'.timers i).tmrEnabled = true) :
    (Honest s' timerNum i max (max.toNat / freqHz.toNat) 1 ↔
        Near (max.toNat / freqHz.toNat)) ∧
      (Honest s' timerNum i max max.toNat freqHz.toNat ↔
        Near (max.toNat / freqHz.toNat) ∧
          (max.toNat / freqHz.toNat = 1 → 2 * max.toNat ≤ 3 * freqHz.toNat)) := by
  rw [halTimerConfig, resolve_names _ hi] at hcall
  obtain ⟨tc, hconfigured⟩ := configTimer_enabled hmax hcall hon
  have hmin := le_maxFrequency hmax
  have hlow := Nat.div_mul_le_self max.toNat freqHz.toNat
  have hhigh := Nat.lt_mul_of_div_lt (Nat.lt_succ_self (max.toNat / freqHz.toNat))
    hconfigured.freq_pos
  constructor
  · have hint := hconfigured.honest_iff hi hmin (a := max.toNat / freqHz.toNat) (b := 1)
      (by omega) (by omega)
    refine hint.trans (and_iff_left ?_)
    intro hone
    omega
  · exact hconfigured.honest_iff hi hmin hlow hhigh

/-- The board behind `hal_timer_init`. -/
def boardReady : Sys := (Run.run step boardReset [.init 0 boardCfg]).getD boardReset

/-- For 1 MHz, 8 MHz are divided by 8. -/
theorem prescaler_honest_board :
    ∃ s', halTimerConfig boardReady 0 1000000 false false = some (0, s') ∧
      Honest s' 0 0 8000000 8 1 :=
  ⟨_, rfl, (@prescaler_honest_iff boardReady _ 0 1000000 8000000 false false 0 (by decide) rfl rfl
    rfl).1.mpr (by decide)⟩

/-- For 1.6 MHz out of 8 MHz, CTRLA divides by 8, and `tmr_freq` is that of a division by 4. -/
theorem prescaler_not_honest_five :
    ∃ s', halTimerConfig boardReady 0 1600000 false false = some (0, s') ∧
      (s'.tcs .tc3).prescaler = 3 ∧ (s'.timers 0).tmrFreq = 2000000 ∧
      ¬ Honest s' 0 0 8000000 5 1 ∧ ¬ Honest s' 0 0 8000000 8000000 1600000 := by
  refine ⟨_, rfl, rfl, rfl, ?_, ?_⟩
  · rintro ⟨tc, htc, d, hd, hfreq, -⟩
    cases htc
    cases hd
    exact absurd hfreq (by decide)
  · rintro ⟨tc, htc, d, hd, hfreq, -⟩
    cases htc
    cases hd
    exact absurd hfreq (by decide)

end HalTimer.Lifecycle
