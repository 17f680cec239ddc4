import Mathlib.Order.Lattice.Nat
import Traceroute.Network
import Traceroute.Theorems.SequentialCalls

/-! Whether the loop of `SequentialTraceroute` that waits for the response to one probe ends, for every sequence of what
    its `tryReceiving` calls return and of the time that they take. `tryReceiving` is asked to wait for whole
    milliseconds, so once less than one is left it is asked for none. -/

namespace Traceroute.Sequential

/-- Finitely many datagrams arrive, and a call that yields nothing takes at least the time that it was asked to wait. -/
structure Behaves (timeout sentAt start : Int) (waits : Nat → Wait) : Prop where
  finite : ∃ n, ∀ j, n ≤ j → (waits j).response = none
  waited : ∀ n, Makes timeout sentAt start waits n → (waits n).response = none →
    waitFor (leftAfter timeout sentAt start waits n) ≤ (waits n).took

/-- From call `n` on, made with less than a millisecond left, nothing arrives and no time passes. -/
structure Stalls (timeout sentAt start : Int) (waits : Nat → Wait) (n : Nat) : Prop where
  makes : Makes timeout sentAt start waits n
  short : leftAfter timeout sentAt start waits n < 1000
  nothing : ∀ j, n ≤ j → (waits j).response = none
  still : ∀ j, n ≤ j → (waits j).took = 0

/-- The loop is left behind some of the calls. -/
def Ends (destination : Nat → SocketAddress) (c : Call) (s : State) (waits : Nat → Wait) : Prop :=
  ∃ n t a v r, (machine destination c).exec s (rounds waits n ++ [.testLoop]) = some t ∧ t.position = .waited a v r

variable {destination : Nat → SocketAddress} {c : Call} {s t : State} {a : Attempt} {timeout sentAt start : Int}
  {waits : Nat → Wait} {n j : Nat}

theorem waitFor_of_nonneg {left : Int} (h : 0 ≤ left) : waitFor left = left / 1000 * 1000000 := by
  rw [waitFor, millisecondsCast_of_nonneg h]

/-- The loop ends unless it makes every call. -/
theorem Called.ends_iff {results : List ProbeResult} (h : Called waits a start results 0 s) :
    Ends destination c s waits ↔ ∃ n, ¬Makes c.timeout a.sentAt start waits n := by
  classical
  constructor
  · rintro ⟨n, t, a', v, r, hrun, pc⟩
    obtain ⟨u, hu, ht⟩ := Machine.exec_append_eq_some.mp hrun
    rw [Machine.exec_singleton] at ht
    obtain ⟨-, hcalled⟩ := h.of_exec_rounds hu
    rcases hcalled.testLoop destination c with ⟨-, htest⟩ | ⟨hno, -⟩
    · obtain rfl := Option.some.inj (htest.symm.trans ht)
      cases pc
    · exact ⟨n, hno⟩
  · intro hstops
    have hfirst : ∀ j < Nat.find hstops, Makes c.timeout a.sentAt start waits j := fun j hj =>
      Classical.not_not.mp (Nat.find_min hstops hj)
    obtain ⟨t, ht, hcalled⟩ := h.exec_rounds destination hfirst
    obtain ⟨-, htest⟩ := (hcalled.testLoop destination c).resolve_left fun hmakes => Nat.find_spec hstops hmakes.1
    exact ⟨Nat.find hstops, _, a, _, _, Machine.exec_append ht (Machine.exec_singleton.trans htest), rfl⟩

/-- Calls that together take a bounded time take none from some call on. -/
theorem exists_still (n : Nat) {bound : Nat} (h : ∀ j, passed waits j ≤ bound) :
    ∃ k, n ≤ k ∧ ∀ j, k ≤ j → passed waits j = passed waits k := by
  have hbounded : BddAbove (passed waits '' Set.Ici n) := ⟨bound, by
    rintro x ⟨j, -, rfl⟩
    exact h j⟩
  obtain ⟨k, hk, hmax⟩ := Nat.sSup_mem (Set.Nonempty.image (passed waits) ⟨n, Set.self_mem_Ici⟩) hbounded
  refine ⟨k, hk, fun j hj => Nat.le_antisymm ?_ (passed_mono hj)⟩
  rw [hmax]
  exact le_csSup hbounded ⟨j, Nat.le_trans hk hj, rfl⟩

/-- A stalled loop goes on to call. -/
theorem Stalls.makes_all (hsent : sentAt ≤ start) (h : Stalls timeout sentAt start waits n) :
    Makes timeout sentAt start waits j := by
  rcases Nat.le_total j n with hj | hj
  · exact h.makes.mono hsent hj
  · have hpassed : passed waits j = passed waits n := by
      induction j, hj using Nat.le_induction with
      | base => rfl
      | succ j hj ih => rw [passed_succ, h.still j hj, Nat.add_zero, ih]
    have hinTime := h.makes.inTime
    rw [← leftAfter_congr hpassed] at hinTime
    refine ⟨fun i hi => ?_, hinTime⟩
    rcases Nat.lt_or_ge i n with hin | hin
    · exact h.makes.waiting i hin
    · rw [Wait.valid, h.nothing i hin]

/-- A loop that makes every call stalls: its calls take a bounded time, so from some call on none, and then they are
    asked for none. -/
theorem Behaves.stalls (hsent : sentAt ≤ start) (h : Behaves timeout sentAt start waits)
    (hall : ∀ n, Makes timeout sentAt start waits n) : ∃ n, Stalls timeout sentAt start waits n := by
  obtain ⟨n, hnothing⟩ := h.finite
  have hbounded : ∀ j, passed waits j ≤ ((timeout - 9) * 1000).toNat := fun j => by
    have hinTime := (le_leftAfter_iff hsent).mp (hall j).inTime
    omega
  obtain ⟨k, hk, hconst⟩ := exists_still n hbounded
  have hstill : ∀ j, k ≤ j → (waits j).took = 0 := fun j hj => by
    have hnext := hconst (j + 1) (Nat.le_succ_of_le hj)
    rw [passed_succ, hconst j hj] at hnext
    omega
  refine ⟨k, hall k, ?_, fun j hj => hnothing j (Nat.le_trans hk hj), hstill⟩
  have hinTime := (hall k).inTime
  have hwaited := h.waited k (hall k) (hnothing k hk)
  rw [MinTimeWaitForResponse] at hinTime
  rw [waitFor_of_nonneg (by omega), hstill k (Nat.le_refl k)] at hwaited
  omega

theorem Behaves.stops_iff (hsent : sentAt ≤ start) (h : Behaves timeout sentAt start waits) :
    (∃ n, ¬Makes timeout sentAt start waits n) ↔ ¬∃ n, Stalls timeout sentAt start waits n := by
  constructor
  · rintro ⟨n, hno⟩ ⟨k, hk⟩
    exact hno (hk.makes_all hsent)
  · intro hno
    by_contra hall
    exact hno (h.stalls hsent fun n => by
      by_contra hn
      exact hall ⟨n, hn⟩)

/-- One call, and then nothing in no time. -/
def thenNothing (first : Wait) : Nat → Wait
  | 0 => first
  | _ + 1 => ⟨0, none, first.buffer⟩

theorem passed_thenNothing {first : Wait} : passed (thenNothing first) (n + 1) = first.took := by
  induction n with
  | zero => simp [passed, thenNothing]
  | succ n ih => rw [passed_succ, ih, thenNothing, Nat.add_zero]

/-- A first call without a valid response that leaves less than a millisecond, but enough time for another call. -/
theorem stalls_thenNothing {first : Wait} (hinvalid : first.valid = false)
    (hwaited : first.response = none → waitFor (leftAfter timeout sentAt start (thenNothing first) 0) ≤ first.took)
    (hle : MinTimeWaitForResponse ≤ leftAfter timeout sentAt start (thenNothing first) 1)
    (hlt : leftAfter timeout sentAt start (thenNothing first) 1 < 1000) :
    Behaves timeout sentAt start (thenNothing first) ∧ Stalls timeout sentAt start (thenNothing first) 1 := by
  have hlater : ∀ j, 1 ≤ j → (thenNothing first j).response = none ∧ (thenNothing first j).took = 0 := fun j hj => by
    cases j with
    | zero => cases hj
    | succ j => exact ⟨rfl, rfl⟩
  refine ⟨⟨⟨1, fun j hj => (hlater j hj).1⟩, fun n _ hnothing => ?_⟩, ⟨⟨fun j hj => ?_, hle⟩, hlt, fun j hj => (hlater j hj).1,
    fun j hj => (hlater j hj).2⟩⟩
  · cases n with
    | zero => exact hwaited hnothing
    | succ n =>
      rw [leftAfter_congr (passed_thenNothing.trans passed_thenNothing.symm : _ = passed (thenNothing first) 1)]
      rw [MinTimeWaitForResponse] at hle
      rw [waitFor_of_nonneg (by omega), (hlater (n + 1) (Nat.le_add_left 1 n)).2]
      omega
  · obtain rfl : j = 0 := by omega
    exact hinvalid

/-- Such a first call, from what it takes. -/
theorem stalls_of_took (hsent : sentAt ≤ start) {first : Wait} (hinvalid : first.valid = false)
    (hwaited : first.response = none → waitFor (getTimeLeft start sentAt timeout) ≤ first.took)
    (hlong : sentAt + (timeout - 999) * 1000 ≤ start + first.took)
    (hshort : start + first.took < sentAt + (timeout - 9) * 1000) :
    Behaves timeout sentAt start (thenNothing first) ∧ ∃ n, Stalls timeout sentAt start (thenNothing first) n := by
  have hzero : leftAfter timeout sentAt start (thenNothing first) 0 = getTimeLeft start sentAt timeout := leftAfter_zero
  have hpassed : passed (thenNothing first) 1 = first.took := passed_thenNothing
  have hleft : leftAfter timeout sentAt start (thenNothing first) 1 = timeout - (start + first.took - sentAt) / 1000 := by
    rw [leftAfter, hpassed]
    exact getTimeLeft_of_le (by omega) (by omega)
  obtain ⟨hbehaves, hstalls⟩ := stalls_thenNothing hinvalid (hzero ▸ hwaited)
    (by rw [hleft, MinTimeWaitForResponse]; omega) (by rw [hleft]; omega)
  exact ⟨hbehaves, 1, hstalls⟩

/-- A datagram that answers nothing can arrive when ten microseconds are left. -/
theorem exists_stalls (hsent : sentAt ≤ start) (hle : MinTimeWaitForResponse ≤ getTimeLeft start sentAt timeout) :
    ∃ waits, Behaves timeout sentAt start waits ∧ ∃ n, Stalls timeout sentAt start waits n := by
  have hstart := (le_getTimeLeft_iff hsent).mp hle
  let first : Wait :=
    ⟨((timeout - 10) * 1000 + sentAt - start).toNat, some (⟨⟨Vector.replicate 128 0⟩, 0, 0⟩, false), fun _ => 0⟩
  exact ⟨thenNothing first, stalls_of_took hsent rfl (fun hnone => by cases hnone)
    (by show _ ≤ start + (((timeout - 10) * 1000 + sentAt - start).toNat : Int); omega)
    (by show start + (((timeout - 10) * 1000 + sentAt - start).toNat : Int) < _; omega)⟩

/-- Without datagrams a call that takes exactly its time can leave a part of a millisecond. -/
theorem exists_stalls_of_nothing (hsent : sentAt ≤ start)
    (hle : MinTimeWaitForResponse ≤ getTimeLeft start sentAt timeout)
    (hrest : MinTimeWaitForResponse ≤ getTimeLeft start sentAt timeout % 1000) :
    ∃ waits, Behaves timeout sentAt start waits ∧ (∀ j, (waits j).response = none) ∧
      ∃ n, Stalls timeout sentAt start waits n := by
  have hstart := (le_getTimeLeft_iff hsent).mp hle
  have hleft : getTimeLeft start sentAt timeout = timeout - (start - sentAt) / 1000 := getTimeLeft_of_le hsent (by omega)
  have hwait : waitFor (getTimeLeft start sentAt timeout) = getTimeLeft start sentAt timeout / 1000 * 1000000 :=
    waitFor_of_nonneg (by rw [MinTimeWaitForResponse] at hle; omega)
  rw [MinTimeWaitForResponse] at hrest
  let first : Wait := ⟨(waitFor (getTimeLeft start sentAt timeout)).toNat, none, fun _ => 0⟩
  obtain ⟨hbehaves, hstalls⟩ := stalls_of_took hsent (rfl : first.valid = false) (fun _ => Int.self_le_toNat _)
    (by show _ ≤ start + ((waitFor (getTimeLeft start sentAt timeout)).toNat : Int); omega)
    (by show start + ((waitFor (getTimeLeft start sentAt timeout)).toNat : Int) < _; omega)
  refine ⟨thenNothing first, hbehaves, fun j => ?_, hstalls⟩
  cases j with
  | zero => rfl
  | succ j => rfl

/-- Behind a call that has taken its time only a part of a millisecond is left. -/
theorem Behaves.not_makes_one (hsent : sentAt ≤ start) (h : Behaves timeout sentAt start waits)
    (hnothing : (waits 0).response = none)
    (hrest : getTimeLeft start sentAt timeout % 1000 < MinTimeWaitForResponse) : ¬Makes timeout sentAt start waits 1 := by
  intro hmakes
  have hfirst := hmakes.mono hsent (Nat.zero_le 1)
  have hwaited := h.waited 0 hfirst hnothing
  have hle := hfirst.inTime
  rw [leftAfter_zero] at hwaited hle
  have hstart := (le_getTimeLeft_iff hsent).mp hle
  have hleft : getTimeLeft start sentAt timeout = timeout - (start - sentAt) / 1000 := getTimeLeft_of_le hsent (by omega)
  rw [waitFor_of_nonneg (by omega)] at hwaited
  have hinTime := (le_leftAfter_iff hsent).mp hmakes.inTime
  rw [passed_succ, show passed waits 0 = 0 from rfl, Nat.zero_add] at hinTime
  rw [MinTimeWaitForResponse] at hrest
  omega

/-- The loop that waits for the response to a probe ends exactly when its calls do not stall. So it ends whatever its
    calls do only when its window is over before the first one; and whatever they do without datagrams only then, or
    when its window has less than ten microseconds beyond its whole milliseconds. -/
theorem loop_ends_iff (destination : Nat → SocketAddress) (c : Call) {s : State} {a : Attempt}
    (pc : s.position = .waiting a false none) (hsent : a.sentAt ≤ s.now) :
    (∀ waits, Behaves c.timeout a.sentAt s.now waits →
      (Ends destination c s waits ↔ ¬∃ n, Stalls c.timeout a.sentAt s.now waits n)) ∧
    ((∀ waits, Behaves c.timeout a.sentAt s.now waits → Ends destination c s waits) ↔
      getTimeLeft s.now a.sentAt c.timeout < MinTimeWaitForResponse) ∧
    ((∀ waits, Behaves c.timeout a.sentAt s.now waits → (∀ j, (waits j).response = none) → Ends destination c s waits) ↔
      getTimeLeft s.now a.sentAt c.timeout < MinTimeWaitForResponse ∨
        getTimeLeft s.now a.sentAt c.timeout % 1000 < MinTimeWaitForResponse) := by
  have hends : ∀ {waits}, Ends destination c s waits ↔ ∃ n, ¬Makes c.timeout a.sentAt s.now waits n :=
    (Called.zero pc).ends_iff
  have hover : getTimeLeft s.now a.sentAt c.timeout < MinTimeWaitForResponse → ∀ waits, Ends destination c s waits :=
    fun hlt waits => hends.mpr ⟨0, fun hmakes => Int.not_lt.mpr hmakes.inTime (leftAfter_zero ▸ hlt)⟩
  refine ⟨fun waits h => hends.trans (h.stops_iff hsent), ⟨fun hall => ?_, fun hlt waits _ => hover hlt waits⟩,
    ⟨fun hall => ?_, fun hleft waits h hnothing => ?_⟩⟩
  · by_contra hle
    obtain ⟨waits, h, hstalls⟩ := exists_stalls hsent (Int.not_lt.mp hle)
    exact (h.stops_iff hsent).mp (hends.mp (hall waits h)) hstalls
  · by_contra hle
    obtain ⟨hle, hrest⟩ := not_or.mp hle
    obtain ⟨waits, h, hnothing, hstalls⟩ := exists_stalls_of_nothing hsent (Int.not_lt.mp hle) (Int.not_lt.mp hrest)
    exact (h.stops_iff hsent).mp (hends.mp (hall waits h hnothing)) hstalls
  · rcases hleft with hlt | hrest
    · exact hover hlt waits
    · exact hends.mpr ⟨1, h.not_makes_one hsent (hnothing 0) hrest⟩

/-- Calls that yield nothing and each take the whole timeout. -/
theorem behaves_of_timeout (hsent : sentAt ≤ start) (hnothing : ∀ j, (waits j).response = none)
    (htook : ∀ j, timeout * 1000 ≤ (waits j).took) : Behaves timeout sentAt start waits := by
  refine ⟨⟨0, fun j _ => hnothing j⟩, fun n hmakes _ => ?_⟩
  have hinTime := hmakes.inTime
  have hlt := (le_leftAfter_iff hsent).mp hinTime
  have hleft : leftAfter timeout sentAt start waits n = timeout - (start + passed waits n - sentAt) / 1000 :=
    getTimeLeft_of_le (by omega) (by omega)
  have hwhole := htook n
  rw [MinTimeWaitForResponse] at hinTime
  rw [waitFor_of_nonneg (by omega)]
  omega

/-- A probe has just been sent. -/
def justSent (c : Call) : State := { enter c 0 1 (fun _ => 0) with position := .waiting ⟨c.ttlBegin, 0, 0, 0⟩ false none }

/-- Nothing comes, and each call takes a tenth of a second, the whole timeout. -/
theorem loop_ends_iff_timeout :
    Ends (fun _ => ⟨Vector.replicate 128 0⟩) ⟨1, 1, 1, 100000⟩ (justSent ⟨1, 1, 1, 100000⟩)
      (fun _ => ⟨100000000, none, fun _ => 0⟩) := by
  have h : Behaves 100000 0 0 fun _ => ⟨100000000, none, fun _ => 0⟩ :=
    behaves_of_timeout (by decide) (fun _ => rfl) (fun _ => by decide)
  exact (loop_ends_iff _ ⟨1, 1, 1, 100000⟩ (s := justSent ⟨1, 1, 1, 100000⟩) rfl (by decide)).2.2.mpr (Or.inr (by decide)) _ h
    fun _ => rfl

/-- Nothing comes within a timeout of one and a half milliseconds, a first call takes the millisecond that it is asked to
    wait, and the calls after it, which are asked for none, take no time: the loop does not end. -/
theorem loop_stalls :
    Behaves 1500 0 0 (thenNothing ⟨1000000, none, fun _ => 0⟩) ∧
      ¬Ends (fun _ => ⟨Vector.replicate 128 0⟩) ⟨1, 1, 1, 1500⟩ (justSent ⟨1, 1, 1, 1500⟩)
        (thenNothing ⟨1000000, none, fun _ => 0⟩) := by
  obtain ⟨h, hstalls⟩ : Behaves 1500 0 0 (thenNothing ⟨1000000, none, fun _ => 0⟩) ∧
      ∃ n, Stalls 1500 0 0 (thenNothing ⟨1000000, none, fun _ => 0⟩) n :=
    stalls_of_took (by decide) rfl (fun _ => by decide) (by decide) (by decide)
  have hbegins : Called (thenNothing ⟨1000000, none, fun _ => 0⟩) ⟨1, 0, 0, 0⟩ 0 [] 0 (justSent ⟨1, 1, 1, 1500⟩) :=
    Called.zero (s := justSent ⟨1, 1, 1, 1500⟩) rfl
  exact ⟨h, fun hends => (h.stops_iff (by decide)).mp (hbegins.ends_iff.mp hends) hstalls⟩

end Traceroute.Sequential
