import NexsKernel.Machine.Word

/-!
# Timer configuration

The conversion from microseconds to timer ticks (`arch/machine/timer.h`, AArch64) and the time limits
that `sporadic.h` derives from it: `MIN_BUDGET`, `MAX_PERIOD_US` and `MAX_RELEASE_TIME`. The x86 and
RISC-V conversions are the case of a clock that runs at a whole number of MHz.

`Timer` carries the two facts about a platform that the kernel relies on: a statically configured
maximum period keeps below `getMaxUsToTicks() / 8` (the comment above `MAX_PERIOD_US`), and the
kernel's worst case execution time is at least one tick.
-/

namespace NexsKernel

/-- The platform constants behind `usToTicks` and the limits of `sporadic.h`. -/
structure TimerConfig where
  /-- `TIMER_CLOCK_HZ`. -/
  timerClockHz : Nat
  /-- `getKernelWcetUs()`. -/
  kernelWcetUs : Nat
  /-- `CONFIG_KERNEL_WCET_SCALE`. -/
  kernelWcetScale : Nat
  /-- `CONFIG_KERNEL_STATIC_MAX_PERIOD_US`; `0` selects the default limit. -/
  kernelStaticMaxPeriodUs : Nat
  deriving DecidableEq, Repr

namespace TimerConfig

variable (cfg : TimerConfig)

/-- `USE_KHZ`. -/
def useKhz : Bool :=
  decide (cfg.timerClockHz % 1000000 > 0)

/-- `TIMER_CLOCK_KHZ`. -/
def timerClockKhz : Nat :=
  cfg.timerClockHz / 1000

/-- `TIMER_CLOCK_MHZ`. -/
def timerClockMhz : Nat :=
  cfg.timerClockHz / 1000000

/-- `getMaxUsToTicks`. -/
def getMaxUsToTicks : Nat :=
  if cfg.useKhz then uint64Max / cfg.timerClockKhz else uint64Max / cfg.timerClockMhz

/-- `usToTicks`. -/
def usToTicks (us : Nat) : Nat :=
  if cfg.useKhz then mul64 us cfg.timerClockKhz / 1000 else mul64 us cfg.timerClockMhz

/-- `MAX_PERIOD_US`. -/
def maxPeriodUs : Nat :=
  if cfg.kernelStaticMaxPeriodUs ≠ 0 then cfg.kernelStaticMaxPeriodUs else cfg.getMaxUsToTicks / 8

/-- `getKernelWcetTicks`. -/
def getKernelWcetTicks : Nat :=
  cfg.usToTicks cfg.kernelWcetUs

/-- `MIN_BUDGET_US`. -/
def minBudgetUs : Nat :=
  mul64 (mul64 2 cfg.kernelWcetUs) cfg.kernelWcetScale

/-- `MIN_BUDGET`. -/
def minBudget : Nat :=
  mul64 (mul64 2 cfg.getKernelWcetTicks) cfg.kernelWcetScale

/-- `MAX_PERIOD_US` in ticks. -/
def maxPeriodTicks : Nat :=
  cfg.usToTicks cfg.maxPeriodUs

/-- `MAX_RELEASE_TIME`. -/
def maxReleaseTime : Nat :=
  sub64 uint64Max (mul64 5 cfg.maxPeriodTicks)

/-- The factor by which the clock multiplies a time in microseconds. -/
def ticksFactor : Nat :=
  if cfg.useKhz then cfg.timerClockKhz else cfg.timerClockMhz

lemma getMaxUsToTicks_eq : cfg.getMaxUsToTicks = uint64Max / cfg.ticksFactor := by
  unfold getMaxUsToTicks ticksFactor
  split <;> rfl

/-- Below an eighth of the range, the product with the clock rate stays below an eighth of a word. -/
lemma mul_ticksFactor_le {us} (h : us ≤ cfg.getMaxUsToTicks / 8) :
    8 * (us * cfg.ticksFactor) ≤ uint64Max := by
  rw [getMaxUsToTicks_eq] at h
  have h8 : us * 8 ≤ uint64Max / cfg.ticksFactor :=
    (Nat.mul_le_mul_right 8 h).trans (Nat.div_mul_le_self _ _)
  calc 8 * (us * cfg.ticksFactor) = us * 8 * cfg.ticksFactor := by ring
    _ ≤ uint64Max / cfg.ticksFactor * cfg.ticksFactor := Nat.mul_le_mul_right _ h8
    _ ≤ uint64Max := Nat.div_mul_le_self _ _

/-- In that range the conversion is the exact product, divided by 1000 for a clock in kHz. -/
lemma usToTicks_eq {us} (h : us ≤ cfg.getMaxUsToTicks / 8) :
    cfg.usToTicks us = if cfg.useKhz then us * cfg.ticksFactor / 1000 else us * cfg.ticksFactor := by
  have hle := cfg.mul_ticksFactor_le h
  have hlt : us * cfg.ticksFactor < 2 ^ 64 := by
    unfold uint64Max at hle
    omega
  unfold usToTicks
  unfold ticksFactor at hlt ⊢
  split
  · rename_i hk
    rw [if_pos hk] at hlt
    rw [mul64_eq hlt]
  · rename_i hk
    rw [if_neg hk] at hlt
    rw [mul64_eq hlt]

end TimerConfig

/-- A platform on which the limits of `sporadic.h` make sense. -/
structure Timer extends TimerConfig where
  static_le : toTimerConfig.kernelStaticMaxPeriodUs ≤ toTimerConfig.getMaxUsToTicks / 8
  minBudget_pos : 0 < toTimerConfig.minBudget

namespace Timer

variable (cfg : Timer)

lemma maxPeriodUs_le : cfg.maxPeriodUs ≤ cfg.getMaxUsToTicks / 8 := by
  unfold TimerConfig.maxPeriodUs
  split
  · exact cfg.static_le
  · exact le_rfl

/-- Conversion is monotone up to the maximum period. -/
lemma usToTicks_mono {us} (h : us ≤ cfg.maxPeriodUs) : cfg.usToTicks us ≤ cfg.maxPeriodTicks := by
  unfold TimerConfig.maxPeriodTicks
  rw [cfg.usToTicks_eq (h.trans cfg.maxPeriodUs_le), cfg.usToTicks_eq cfg.maxPeriodUs_le]
  have hm := Nat.mul_le_mul_right cfg.ticksFactor h
  split
  · exact Nat.div_le_div_right hm
  · exact hm

/-- Eight maximum periods fit into a word. -/
lemma eight_maxPeriodTicks_le : 8 * cfg.maxPeriodTicks ≤ uint64Max := by
  have h := cfg.mul_ticksFactor_le cfg.maxPeriodUs_le
  unfold TimerConfig.maxPeriodTicks
  rw [cfg.usToTicks_eq cfg.maxPeriodUs_le]
  split
  · exact le_trans (Nat.mul_le_mul_left 8 (Nat.div_le_self _ _)) h
  · exact h

/-- The last release time is five maximum periods before the end of the range. -/
lemma maxReleaseTime_add : cfg.maxReleaseTime + 5 * cfg.maxPeriodTicks = uint64Max := by
  have h := cfg.eight_maxPeriodTicks_le
  unfold uint64Max at h
  unfold TimerConfig.maxReleaseTime uint64Max
  rw [mul64_eq (by omega), sub64_eq (by omega) (by omega)]
  omega

end Timer

/-- The 62.5 MHz generic timer of the QEMU `virt` board. -/
def qemuTimer : Timer where
  timerClockHz := 62500000
  kernelWcetUs := 10
  kernelWcetScale := 1
  kernelStaticMaxPeriodUs := 0
  static_le := Nat.zero_le _
  minBudget_pos := by decide

end NexsKernel
