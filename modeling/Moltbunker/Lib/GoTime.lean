import Mathlib

/-!
# Times and durations

`Time` and `Duration` of Go's package `time`. A time is a number of nanoseconds since a fixed
instant. A duration is a signed 64-bit number of nanoseconds, so that the difference of two times
saturates: a message that is three hundred years old has the age of the largest duration.

* `Time.sub_le_iff` — below the largest duration, saturation makes no difference to a comparison.
-/

namespace Moltbunker.Lib

/-- `time.Duration` -/
abbrev Duration := Int64

namespace Duration

/-- `time.Second` -/
def second : Duration := 1000000000

/-- `time.Minute` -/
def minute : Duration := 60 * second

/-- `time.Hour` -/
def hour : Duration := 60 * minute

end Duration

namespace Time

/-- `t.Sub(u)` -/
def sub (t u : ℤ) : Duration := Int64.ofIntClamp (t - u)

/-- `t.Add(d)` -/
def add (t : ℤ) (d : Duration) : ℤ := t + d.toInt

lemma toInt_sub (t u : ℤ) : (sub t u).toInt = max (-2 ^ 63) (min (2 ^ 63 - 1) (t - u)) := by
  have hmin : Int64.minValue.toInt = -2 ^ 63 := Int64.toInt_minValue
  have hmax : Int64.maxValue.toInt = 2 ^ 63 - 1 := Int64.toInt_maxValue
  unfold sub Int64.ofIntClamp
  split
  · split
    · rw [Int64.toInt_ofIntLE]
      omega
    · omega
  · omega

/-- A difference is compared with a bound as if it did not saturate. -/
lemma sub_le_iff {t u : ℤ} {d : Duration} (hd : d < Int64.maxValue) :
    sub t u ≤ d ↔ t - u ≤ d.toInt := by
  rw [Int64.lt_iff_toInt_lt, Int64.toInt_maxValue] at hd
  have hmin := Int64.le_toInt d
  rw [Int64.le_iff_toInt_le, toInt_sub]
  omega

/-- A later time has a larger difference to any other. -/
lemma sub_mono {t t' : ℤ} (h : t ≤ t') (u : ℤ) : sub t u ≤ sub t' u := by
  rw [Int64.le_iff_toInt_le, toInt_sub, toInt_sub]
  omega

/-- A duration before `t`. Only the smallest one has no negative, and stands for itself. -/
lemma add_neg_le (t : ℤ) (d : Duration) : add t (-d) ≤ t - d.toInt := by
  have hmax := Int64.toInt_le d
  rw [Int64.toInt_maxValue] at hmax
  unfold add
  rw [Int64.toInt_neg, Int.bmod_def]
  split <;> omega

end Time

end Moltbunker.Lib
