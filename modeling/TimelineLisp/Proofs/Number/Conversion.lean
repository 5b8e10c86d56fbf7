import Mathlib
import TimelineLisp.Native.Apply

/-!
# Frames and seconds

Rounding gives the nearest integer, and of two that are as near the one farther from zero
(`Number.round_nearest`).  There is only one such integer (`Number.Nearest.unique`), and all that is
to be known of rounding follows from this: that it keeps the order, that it commutes with the sign
and that it leaves integers alone.

For a rate of any kind, `30000/1001` as well as `24`, **conversion between seconds and frames never
drifts** (`Timebase.conversion_never_drifts`): a frame comes back from its time in seconds, and a
time comes back to within half a frame.
-/

namespace TimelineLisp

/-! ### Nearest integers -/

namespace Number

/-- No integer is nearer to the number, and none that is as near is farther from zero. -/
structure Nearest (x : Number) (k : ℤ) : Prop where
  near : |x - k| ≤ 1 / 2
  far : ∀ m : ℤ, |x - m| ≤ 1 / 2 → |m| ≤ |k|

namespace Nearest

variable {x y : Number} {k m : ℤ}

theorem neg (h : Nearest x k) : Nearest (-x) (-k) := by
  have hdist (i : ℤ) : |-x - i| = |x - (-i : ℤ)| := by
    rw [← abs_neg]
    congr 1
    push_cast
    ring
  constructor
  · rw [hdist, neg_neg]
    exact h.near
  · intro i hi
    rw [hdist] at hi
    simpa only [abs_neg] using h.far (-i) hi

/-- Two integers that are near to the same number are neighbours, and neighbours are not equally far
from zero. -/
theorem unique (hk : Nearest x k) (hm : Nearest x m) : k = m := by
  have habs : |k| = |m| := le_antisymm (hm.far k hk.near) (hk.far m hm.near)
  obtain ⟨hk₁, hk₂⟩ := abs_le.1 hk.near
  obtain ⟨hm₁, hm₂⟩ := abs_le.1 hm.near
  have hkm : (k : ℚ) ≤ m + 1 := by linarith
  have hmk : (m : ℚ) ≤ k + 1 := by linarith
  have hkm' : k ≤ m + 1 := by exact_mod_cast hkm
  have hmk' : m ≤ k + 1 := by exact_mod_cast hmk
  rcases abs_eq_abs.1 habs with heq | heq
  · exact heq
  · omega

theorem mono (hk : Nearest x k) (hm : Nearest y m) (hxy : x ≤ y) : k ≤ m := by
  by_contra hlt
  obtain ⟨hk₁, hk₂⟩ := abs_le.1 hk.near
  obtain ⟨hm₁, hm₂⟩ := abs_le.1 hm.near
  have hstep : (m : ℚ) + 1 ≤ k := by exact_mod_cast Int.add_one_le_of_lt (not_le.1 hlt)
  -- a whole step apart, both lie half way between their integers, at the same number
  have hyx : x = y := by linarith
  subst hyx
  exact hlt (hk.unique hm).le

theorem intCast (k : ℤ) : Nearest k k := by
  constructor
  · simp
  · intro m hm
    have hdist : |k - m| < 1 := by
      have hcast : ((|k - m| : ℤ) : ℚ) < 1 := by
        push_cast
        linarith
      exact_mod_cast hcast
    rw [Int.abs_lt_one_iff, sub_eq_zero] at hdist
    rw [hdist]

theorem of_nonneg (hx : 0 ≤ x) : Nearest x (x + 1 / 2).floor := by
  have hlo : ((x + 1 / 2).floor : ℚ) ≤ x + 1 / 2 := Rat.floor_le _
  have hhi : x + 1 / 2 < (x + 1 / 2).floor + 1 := Int.lt_floor_add_one _
  constructor
  · rw [abs_le]
    constructor <;> linarith
  · intro m hm
    obtain ⟨hm₁, hm₂⟩ := abs_le.1 hm
    have hfloor : m ≤ (x + 1 / 2).floor := Rat.le_floor_iff.2 (by linarith)
    have hnonneg : 0 ≤ m := by
      have hcast : ((-1 : ℤ) : ℚ) < m := by
        push_cast
        linarith
      have hlt : -1 < m := by exact_mod_cast hcast
      omega
    rw [abs_of_nonneg hnonneg, abs_of_nonneg (hnonneg.trans hfloor)]
    exact hfloor

end Nearest

/-- **Rounding gives the nearest integer**, a half going away from zero. -/
theorem round_nearest (x : Number) : Nearest x x.round := by
  unfold round
  split_ifs with hx
  · exact .of_nonneg hx
  · have hneg := (Nearest.of_nonneg (x := -x) (by linarith)).neg
    rwa [neg_neg] at hneg

theorem Nearest.round_eq {x : Number} {k : ℤ} (h : Nearest x k) : x.round = k :=
  (round_nearest x).unique h

end Number

/-! ### Conversions -/

namespace Timebase

open Number

variable {rate : Number}

/-- The time at which the frame nearest to a time starts. -/
def snap (rate seconds : Number) : Number :=
  secondsAt rate (framesAt rate seconds)

theorem framesAt_secondsAt (hrate : 0 < rate) (k : ℤ) : framesAt rate (secondsAt rate k) = k := by
  rw [framesAt, secondsAt, div_mul_cancel₀ _ hrate.ne']
  exact (Nearest.intCast k).round_eq

/-- However often a time is converted to frames and back, its frame stays the same. -/
theorem framesAt_iterate_snap (hrate : 0 < rate) (n : ℕ) (s : Number) :
    framesAt rate ((snap rate)^[n] s) = framesAt rate s := by
  induction n generalizing s with
  | zero => rfl
  | succ n ih => rw [Function.iterate_succ_apply, ih, snap, framesAt_secondsAt hrate]

theorem snap_near (hrate : 0 < rate) (s : Number) : |snap rate s - s| ≤ 1 / (2 * rate) := by
  have hscale : snap rate s - s = -((s * rate - framesAt rate s) / rate) := by
    rw [snap, secondsAt]
    field_simp
    ring
  calc |snap rate s - s| = |s * rate - framesAt rate s| / rate := by
        rw [hscale, abs_neg, abs_div, abs_of_pos hrate]
    _ ≤ (1 / 2) / rate := by
        gcongr
        exact (round_nearest (s * rate)).near
    _ = 1 / (2 * rate) := by
        field_simp

theorem rate_of_pos (hrate : 0 < rate) (n : Native) : n.rate (.number rate) = .ok rate :=
  if_pos hrate

/-- **Conversion between seconds and frames never drifts**, at any positive rate.  A time has the
nearest frame, half a frame going away from zero; later times have no earlier frames, and the frame
of the opposite time is the opposite frame.  A frame comes back from its time, so converting to and
fro any number of times gives the same frame, and a time comes back to within half a frame.  The
procedures of the language convert the same way. -/
theorem conversion_never_drifts (rate : Number) (hrate : 0 < rate) :
    (∀ s, Nearest (s * rate) (framesAt rate s)) ∧
    (∀ s t, s ≤ t → framesAt rate s ≤ framesAt rate t) ∧
    (∀ s, framesAt rate (-s) = -framesAt rate s) ∧
    (∀ k : ℤ, secondsAt? rate k = some (secondsAt rate k) ∧
      framesAt rate (secondsAt rate k) = k) ∧
    (∀ n s, framesAt rate ((snap rate)^[n] s) = framesAt rate s) ∧
    (∀ s, |secondsAt rate (framesAt rate s) - s| ≤ 1 / (2 * rate)) ∧
    (∀ s, Native.secondsToFrames.apply [.number s, .number rate] =
      .ok ⟨.number (framesAt rate s), ""⟩) ∧
    ∀ k, Native.framesToSeconds.apply [.number k, .number rate] =
      .ok ⟨.number (secondsAt rate k), ""⟩ := by
  refine ⟨fun s => round_nearest _, fun s t hst => ?_, fun s => ?_, fun k => ⟨?_, ?_⟩,
    framesAt_iterate_snap hrate, snap_near hrate, fun s => ?_, fun k => ?_⟩
  · exact (round_nearest _).mono (round_nearest _) (mul_le_mul_of_nonneg_right hst hrate.le)
  · rw [framesAt, neg_mul]
    exact (round_nearest _).neg.round_eq
  · rw [secondsAt?, if_neg hrate.ne']
  · exact framesAt_secondsAt hrate k
  · simp only [Native.apply, Native.compute, Native.two, Native.number, bind, Except.bind,
      rate_of_pos hrate]
    rfl
  · simp only [Native.apply, Native.compute, Native.two, Native.number, bind, Except.bind,
      rate_of_pos hrate]
    rfl

/-- An hour is 107892 frames of `30000/1001` to the second, and stays so when it is converted to and
fro a thousand times; at 25 frames to the second, half a second either way is twelve frames and a
half, and the half goes away from zero. -/
theorem hour_of_frames :
    (0 : Number) < 30000 / 1001 ∧ framesAt (30000 / 1001) 3600 = 107892 ∧
      framesAt (30000 / 1001) ((snap (30000 / 1001))^[1000] 3600) = 107892 ∧
      |secondsAt (30000 / 1001) (107892 : ℤ) - 3600| ≤ 1 / (2 * (30000 / 1001)) ∧
      Nearest (1 / 2 * 25) 13 ∧ framesAt 25 (-(1 / 2)) = -13 := by
  have hrate : (0 : Number) < 30000 / 1001 := by norm_num
  have hhour : framesAt (30000 / 1001) 3600 = 107892 := by decide +kernel
  have hhalf : framesAt 25 (1 / 2) = 13 := by decide +kernel
  obtain ⟨-, -, -, -, hagain, hnear, -⟩ := conversion_never_drifts (30000 / 1001) hrate
  obtain ⟨hnearest, -, hneg, -⟩ := conversion_never_drifts 25 (by norm_num)
  refine ⟨hrate, hhour, (hagain 1000 3600).trans hhour, ?_, ?_, ?_⟩
  · rw [← hhour]
    exact hnear 3600
  · rw [← hhalf]
    exact hnearest (1 / 2)
  · rw [hneg, hhalf]

end Timebase

end TimelineLisp
