import Traceroute.Probe

/-! Windows of time in microseconds, measured with a clock in nanoseconds. -/

namespace Traceroute

variable {now earlier timeout : Int}

theorem lt_of_lt_microsecondsCast {x m : Int} (h : m < microsecondsCast x) : m * 1000 < x := by
  unfold microsecondsCast at h
  rcases Int.le_total 0 x with hx | hx
  · rw [Int.tdiv_eq_ediv_of_nonneg hx] at h
    omega
  · have hneg := Int.neg_tdiv x 1000
    rw [Int.tdiv_eq_ediv_of_nonneg (by omega)] at hneg
    omega

theorem microsecondsCast_of_nonneg {x : Int} (h : 0 ≤ x) : microsecondsCast x = x / 1000 :=
  Int.tdiv_eq_ediv_of_nonneg h

theorem millisecondsCast_of_nonneg {x : Int} (h : 0 ≤ x) : millisecondsCast x = x / 1000 :=
  Int.tdiv_eq_ediv_of_nonneg h

theorem microsecondsCast_mono {x y : Int} (h : x ≤ y) : microsecondsCast x ≤ microsecondsCast y :=
  Int.tdiv_le_tdiv (by decide) h

/-- Rounding towards zero adds no microsecond to a difference. -/
theorem microsecondsCast_add_le {x y k : Int} (hk : 0 ≤ k) (h : y ≤ x + k * 1000) :
    microsecondsCast y ≤ microsecondsCast x + k := by
  refine Int.le_trans (microsecondsCast_mono h) ?_
  unfold microsecondsCast
  have hx := Int.neg_tdiv x 1000
  have hy := Int.neg_tdiv (x + k * 1000) 1000
  rcases Int.le_total 0 x with hpos | hneg
  · rw [Int.tdiv_eq_ediv_of_nonneg hpos, Int.tdiv_eq_ediv_of_nonneg (by omega)]
    omega
  · rw [Int.tdiv_eq_ediv_of_nonneg (by omega)] at hx
    rcases Int.le_total 0 (x + k * 1000) with hpos' | hneg'
    · rw [Int.tdiv_eq_ediv_of_nonneg hpos']
      omega
    · rw [Int.tdiv_eq_ediv_of_nonneg (by omega)] at hy
      omega

theorem getTimePassedTillNow_mono {u : Int} (h : u ≤ now) :
    getTimePassedTillNow u earlier ≤ getTimePassedTillNow now earlier :=
  microsecondsCast_mono (by omega)

theorem getTimePassedTillNow_anti {u : Int} (h : u ≤ earlier) :
    getTimePassedTillNow now earlier ≤ getTimePassedTillNow now u :=
  microsecondsCast_mono (by omega)

theorem getTimePassedTillNow_add_le {u k : Int} (hk : 0 ≤ k) (h : now ≤ u + k * 1000) :
    getTimePassedTillNow now earlier ≤ getTimePassedTillNow u earlier + k :=
  microsecondsCast_add_le hk (by omega)

theorem getTimePassedTillNow_self : getTimePassedTillNow now now = 0 := by
  simp [getTimePassedTillNow, microsecondsCast]

theorem getTimeLeft_of_passed (h : timeout < getTimePassedTillNow now earlier) : getTimeLeft now earlier timeout = 0 :=
  if_pos h

theorem getTimeLeft_of_not_passed (h : getTimePassedTillNow now earlier ≤ timeout) :
    getTimeLeft now earlier timeout = timeout - getTimePassedTillNow now earlier :=
  if_neg (Int.not_lt.mpr h)

/-- A window counts as over only once all of it but the last ten microseconds has passed. -/
theorem lt_of_getTimeLeft_lt (h : getTimeLeft now earlier timeout < MinTimeWaitForResponse) :
    earlier + (timeout - MinTimeWaitForResponse) * 1000 < now := by
  have hpassed : timeout - MinTimeWaitForResponse < getTimePassedTillNow now earlier := by
    by_cases hp : timeout < getTimePassedTillNow now earlier
    · rw [MinTimeWaitForResponse]
      omega
    · rw [getTimeLeft_of_not_passed (by omega)] at h
      omega
  have := lt_of_lt_microsecondsCast hpassed
  omega

theorem getTimePassedTillNow_of_le (h : earlier ≤ now) : getTimePassedTillNow now earlier = (now - earlier) / 1000 :=
  microsecondsCast_of_nonneg (by omega)

theorem getTimeLeft_self (h : 0 ≤ timeout) : getTimeLeft now now timeout = timeout := by
  rw [getTimeLeft_of_not_passed (by rwa [getTimePassedTillNow_self]), getTimePassedTillNow_self, Int.sub_zero]

/-- Time is left until the window ends. -/
theorem getTimeLeft_pos_iff (h : earlier ≤ now) : 0 < getTimeLeft now earlier timeout ↔ now < earlier + timeout * 1000 := by
  by_cases hp : timeout < getTimePassedTillNow now earlier
  · rw [getTimeLeft_of_passed hp]
    rw [getTimePassedTillNow_of_le h] at hp
    omega
  · rw [getTimeLeft_of_not_passed (Int.not_lt.mp hp), getTimePassedTillNow_of_le h]
    omega

theorem getTimeLeft_of_le (h : earlier ≤ now) (hle : now ≤ earlier + timeout * 1000) :
    getTimeLeft now earlier timeout = timeout - (now - earlier) / 1000 := by
  have hpassed := getTimePassedTillNow_of_le h
  rw [getTimeLeft_of_not_passed (by omega), hpassed]

/-- A window is open until nine microseconds before its end. -/
theorem le_getTimeLeft_iff (h : earlier ≤ now) :
    MinTimeWaitForResponse ≤ getTimeLeft now earlier timeout ↔ now < earlier + (timeout - 9) * 1000 := by
  rw [MinTimeWaitForResponse, getTimeLeft, getTimePassedTillNow_of_le h]
  split <;> omega

theorem getTimeLeft_lt_iff (h : earlier ≤ now) :
    getTimeLeft now earlier timeout < MinTimeWaitForResponse ↔ earlier + (timeout - 9) * 1000 ≤ now := by
  rw [← Int.not_le, le_getTimeLeft_iff h, Int.not_lt]

end Traceroute
