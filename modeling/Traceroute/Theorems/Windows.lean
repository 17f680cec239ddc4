import Traceroute.Network
import Traceroute.Theorems.Answered

/-! Whether the waits keep to the windows of the probes. Each wait lasts for the whole timeout, however little is left
    of the window of a probe that is outstanding when it begins; a response that ends the wait is matched before any
    probe expires. -/

namespace Traceroute.Fast

variable {packets : Nat → Packet} {c : Call} {s t : State} {o : Object} {as : List Action}

/-! ### The clock and the condition -/

/-- Time passes while `tryReceiving` waits, no longer than it is told to, and while the receiver is not in its loop. -/
def waits (c : Call) (s : State) : Action → Bool
  | .tick d =>
    match s.receiver with
    | .receiving _ calledAt => s.now + d ≤ calledAt + waitFor c.timeout
    | .entering => true
    | receiver => receiver.done
  | .receiver (.tryReceivingReturns ..) =>
    match s.receiver with
    | .receiving _ calledAt => s.now ≤ calledAt + waitFor c.timeout
    | _ => true
  | _ => true

/-- A wait that begins now, and lasts for all its milliseconds, ends within the window of the probe. -/
def PacketToValidate.fits (c : Call) (now : Int) (p : PacketToValidate) : Bool :=
  getTimePassedTillNow now p.sentAt + millisecondsCast c.timeout * 1000 ≤ c.timeout

/-- The receiver begins to wait only when the wait fits the windows of all outstanding probes. -/
def waitFits (c : Call) (s : State) : Action → Bool
  | .receiver .testLoop =>
    match s.receiver with
    | .loopHead beginAt => !s.goesOn c beginAt || s.mPacketsToBeValidated.all (·.fits c s.now)
    | _ => true
  | _ => true

/-- A success is recorded only within the window of its probe. -/
def SuccessesInTime (c : Call) (s : State) : Prop :=
  ∀ r ∈ s.recorded, r.result.success = true → r.result.waitedFor ≤ c.timeout

/-- A failure is recorded only when less than `MinTimeWaitForResponse` is left of the window of its probe. -/
def FailuresInTime (c : Call) (s : State) : Prop :=
  ∀ r ∈ s.recorded, r.result.success = false → c.timeout - r.result.waitedFor < MinTimeWaitForResponse

/-! ### Failures -/

theorem sub_lt_of_getTimeLeft_lt {now earlier timeout : Int}
    (h : getTimeLeft now earlier timeout < MinTimeWaitForResponse) :
    timeout - getTimePassedTillNow now earlier < MinTimeWaitForResponse := by
  by_cases hp : timeout < getTimePassedTillNow now earlier
  · have hmin : (0 : Int) < MinTimeWaitForResponse := by decide
    omega
  · rwa [getTimeLeft_of_not_passed (by omega)] at h

theorem exec_failuresInTime (h : (machine packets c).exec s as = some t) (he : Expired c s) (hs : FailuresInTime c s) :
    FailuresInTime c t := by
  refine (Machine.exec_invariant (I := fun s => Expired c s ∧ FailuresInTime c s) (fun {s t a} hI hst => ?_)
    ⟨he, hs⟩ h).2
  obtain ⟨he, hs⟩ := hI
  refine ⟨exec_expired (Machine.exec_singleton.trans hst) he, ?_⟩
  refine step_forall_recorded hs (fun pc found at_ hf => by cases hf) (fun {beginAt it probe} pc at_ hf => ?_) hst
  obtain ⟨u, hu, hleft⟩ := he.expiring _ _ _ pc at_
  have hpassed : getTimePassedTillNow u probe.sentAt ≤ getTimePassedTillNow s.now probe.sentAt :=
    getTimePassedTillNow_mono hu
  have hsub := sub_lt_of_getTimeLeft_lt hleft
  show c.timeout - getTimePassedTillNow s.now probe.sentAt < MinTimeWaitForResponse
  omega

/-! ### Successes -/

/-- Where the receiver stands when the windows are kept: while it waits, a probe has been registered since the wait
    began or its window does not end before the wait; until the response is matched, no window is over. -/
def WithinWindows (c : Call) (s : State) : Prop :=
  match s.receiver with
  | .loopHead beginAt | .sweeping beginAt _ | .expiring beginAt _ => beginAt ≤ s.now
  | .receiving beginAt calledAt => beginAt ≤ calledAt ∧ calledAt ≤ s.now ∧ millisecondsCast c.timeout ≠ 0 ∧
      ∀ p ∈ s.mPacketsToBeValidated, calledAt ≤ p.sentAt ∨ p.fits c calledAt = true
  | .locking beginAt _ | .matching beginAt _ => beginAt ≤ s.now ∧ 0 ≤ c.timeout ∧
      ∀ p ∈ s.mPacketsToBeValidated, getTimePassedTillNow s.now p.sentAt ≤ c.timeout
  | _ => True

theorem WithinWindows.enter {now : Int} : WithinWindows c (enter c now o) := by trivial

/-- The loop only goes on when its waits are not empty. -/
theorem millisecondsCast_ne_zero {beginAt : Int} (on : s.goesOn c beginAt = true) (h : beginAt ≤ s.now) :
    millisecondsCast c.timeout ≠ 0 := by
  intro hzero
  have hmax : c.expectedMaxTimeTaken = 0 := by simp [Call.expectedMaxTimeTaken, hzero]
  simp only [State.goesOn, hmax, Bool.and_eq_true, decide_eq_true_eq] at on
  have hpos := (getTimeLeft_pos_iff h).mp on.2
  omega

/-- What is left of a window that the whole wait fits. -/
theorem getTimePassedTillNow_le_of_wait {now calledAt timeout : Int} (hms : 0 ≤ millisecondsCast timeout)
    (window : now ≤ calledAt + waitFor timeout) {p : PacketToValidate}
    (h : getTimePassedTillNow calledAt p.sentAt + millisecondsCast timeout * 1000 ≤ timeout) :
    getTimePassedTillNow now p.sentAt ≤ timeout := by
  refine Int.le_trans (getTimePassedTillNow_add_le (k := millisecondsCast timeout * 1000) (by omega) ?_) h
  rw [waitFor] at window
  omega

theorem millisecondsCast_mul_le {x : Int} (h : 0 ≤ x) : millisecondsCast x * 1000 ≤ x := by
  rw [millisecondsCast_of_nonneg h]
  omega

theorem nonneg_of_millisecondsCast_pos {x : Int} (h : 0 < millisecondsCast x) : 0 ≤ x := by
  by_contra hx
  have hneg := Int.neg_tdiv x 1000
  rw [Int.tdiv_eq_ediv_of_nonneg (by omega)] at hneg
  rw [millisecondsCast] at h
  omega

theorem PacketToValidate.fits_iff {now : Int} {p : PacketToValidate} :
    p.fits c now = true ↔ getTimePassedTillNow now p.sentAt + millisecondsCast c.timeout * 1000 ≤ c.timeout := by
  simp [PacketToValidate.fits]

/-- When a wait ends, the windows of the probes that were registered in it and of those it fits are not over. -/
theorem WithinWindows.receive {beginAt calledAt : Int} (h : WithinWindows c s) (pc : s.receiver = .receiving beginAt calledAt)
    (window : s.now ≤ calledAt + waitFor c.timeout) : 0 ≤ c.timeout ∧
      ∀ p ∈ s.mPacketsToBeValidated, getTimePassedTillNow s.now p.sentAt ≤ c.timeout := by
  rw [WithinWindows, pc] at h
  obtain ⟨-, hcalled, hne, hout⟩ := h
  have hms : 0 < millisecondsCast c.timeout := by
    rw [waitFor] at window
    omega
  have hnonneg := nonneg_of_millisecondsCast_pos hms
  refine ⟨hnonneg, fun p hp => ?_⟩
  rcases hout p hp with hnew | hfits
  · refine Int.le_trans (getTimePassedTillNow_anti hnew) ?_
    refine getTimePassedTillNow_le_of_wait (p := { p with sentAt := calledAt }) (Int.le_of_lt hms) window ?_
    rw [getTimePassedTillNow_self, Int.zero_add]
    exact millisecondsCast_mul_le hnonneg
  · exact getTimePassedTillNow_le_of_wait (Int.le_of_lt hms) window (PacketToValidate.fits_iff.mp hfits)

theorem WithinWindows.senderMove {a : SenderAction} (h : WithinWindows c s) (m : SenderMove c s a t) :
    WithinWindows c t := by
  cases m with
  | @push ttl i k pc free =>
    unfold WithinWindows at h ⊢
    cases hr : s.receiver with
    | receiving beginAt calledAt =>
      simp only [hr] at h ⊢
      obtain ⟨hbegin, hcalled, hne, hout⟩ := h
      refine ⟨hbegin, hcalled, hne, fun p hp => ?_⟩
      rcases List.mem_append.mp hp with hp | hp
      · exact hout p hp
      · obtain rfl := List.mem_singleton.mp hp
        exact Or.inl hcalled
    | locking beginAt respInfo =>
      simp only [hr] at h ⊢
      obtain ⟨hbegin, hnonneg, hout⟩ := h
      refine ⟨hbegin, hnonneg, fun p hp => ?_⟩
      rcases List.mem_append.mp hp with hp | hp
      · exact hout p hp
      · obtain rfl := List.mem_singleton.mp hp
        rw [getTimePassedTillNow_self]
        exact hnonneg
    | matching beginAt respInfo => simp [hr, Receiver.holdsMutex] at free
    | _ => simp only [hr] at h ⊢ <;> exact h
  | _ => exact h

theorem WithinWindows.tick {d : Nat} (h : WithinWindows c s) (hw : waits c s (.tick d) = true) :
    WithinWindows c { s with now := s.now + d } := by
  unfold WithinWindows at h ⊢
  cases hr : s.receiver with
  | receiving beginAt calledAt =>
    simp only [hr] at h ⊢
    exact ⟨h.1, by omega, h.2.2⟩
  | entering => trivial
  | postprocessing => trivial
  | returned results => trivial
  | threw e => trivial
  | _ => simp [waits, hr, Receiver.done] at hw

theorem WithinWindows.receiverMove {a : ReceiverAction} (h : WithinWindows c s) (hw : waits c s (.receiver a) = true)
    (hf : waitFits c s (.receiver a) = true) (m : ReceiverMove packets c s a t) : WithinWindows c t := by
  cases m with
  | begin_ pc => exact Int.le_refl _
  | call pc on =>
    simp only [WithinWindows, pc] at h
    simp only [waitFits, pc, on, Bool.not_true, Bool.false_or, List.all_eq_true] at hf
    exact ⟨h, Int.le_refl _, millisecondsCast_ne_zero on h, fun p hp => Or.inr (hf p hp)⟩
  | receive pc =>
    simp only [waits, pc, decide_eq_true_eq] at hw
    have hout := h.receive pc hw
    simp only [WithinWindows, pc] at h
    exact ⟨Int.le_trans h.1 h.2.1, hout⟩
  | lock pc =>
    simp only [WithinWindows, pc] at h
    exact h
  | nothing pc | unmatched pc _ | matched pc _ _ =>
    simp only [WithinWindows, pc] at h
    exact h.1
  | keep pc _ _ | late pc _ _ | unlock pc _ | expired pc _ =>
    simp only [WithinWindows, pc] at h
    exact h
  | _ => trivial

/-- A step that keeps to the waits, and begins only waits that fit, records successes in time. -/
theorem step_withinWindows {a : Action} (hP : waits c s a = true ∧ waitFits c s a = true)
    (hI : WithinWindows c s ∧ SuccessesInTime c s) (hst : (machine packets c).step s a = some t) :
    WithinWindows c t ∧ SuccessesInTime c t := by
  obtain ⟨hs, hrec⟩ := hI
  refine ⟨?_, step_forall_recorded hrec (fun pc found at_ _ => ?_) (fun pc at_ hsuccess => by cases hsuccess) hst⟩
  · cases a with
    | tick d =>
      obtain rfl := Option.some.inj hst
      exact hs.tick hP.1
    | sender a => exact hs.senderMove (senderStep_move hst)
    | receiver a => exact hs.receiverMove hP.1 hP.2 (receiverStep_move hst)
  · simp only [WithinWindows, pc] at hs
    exact hs.2.2 _ (List.mem_of_getElem? at_)

/-! ### A wait that does not fit -/

/-- The receiver waits for the whole timeout, then a response arrives and is matched. -/
def waitAndMatch (c : Call) (respInfo : ResponseInfo) (buffer : Bytes) : List Action :=
  [.receiver .testLoop, .tick (waitFor c.timeout).toNat, .receiver (.tryReceivingReturns (.ok (some respInfo)) buffer),
    .receiver .lock, .receiver .matchResponse]

theorem getTimePassedTillNow_wait {now earlier timeout : Int} (h : earlier ≤ now) (hms : 0 ≤ millisecondsCast timeout) :
    getTimePassedTillNow (now + (waitFor timeout).toNat) earlier =
      getTimePassedTillNow now earlier + millisecondsCast timeout * 1000 := by
  have hwait : ((waitFor timeout).toNat : Int) = millisecondsCast timeout * 1000000 := by
    rw [waitFor]
    omega
  rw [hwait, getTimePassedTillNow_of_le h, getTimePassedTillNow_of_le (by omega)]
  omega

/-- Where a wait begins that does not fit the window of a probe, a response to that probe may end the wait and is
    recorded as a success, although the window is over. -/
theorem waitAndMatch_late {beginAt : Int} {respInfo : ResponseInfo} {buffer : Bytes} {it : Nat} {p : PacketToValidate}
    (pc : s.receiver = .loopHead beginAt) (on : s.goesOn c beginAt = true) (hms : 0 ≤ millisecondsCast c.timeout)
    (at_ : s.mPacketsToBeValidated[it]? = some p) (sent : p.sentAt ≤ s.now) (hfits : p.fits c s.now = false)
    (found : findValid packets respInfo buffer s.mPacketsToBeValidated = .ok (some it)) :
    ∃ t, (machine packets c).exec s (waitAndMatch c respInfo buffer) = some t ∧
      (machine packets c).Along (waits c · ·) s (waitAndMatch c respInfo buffer) ∧ ¬SuccessesInTime c t := by
  have hwait : s.now + ((waitFor c.timeout).toNat : Int) ≤ s.now + waitFor c.timeout := by
    rw [waitFor]
    omega
  have hlate : c.timeout < getTimePassedTillNow (s.now + (waitFor c.timeout).toNat) p.sentAt := by
    rw [getTimePassedTillNow_wait sent hms]
    have hnot := mt PacketToValidate.fits_iff.mpr (ne_true_of_eq_false hfits)
    omega
  -- The states of the receiver: in `tryReceiving`, after the wait, before the lock and under it.
  have hcall : (machine packets c).step s (.receiver .testLoop) =
      some { s with receiver := .receiving beginAt s.now } := by simp [machine, receiverStep, pc, on]
  have hmatch : (machine packets c).exec
      { s with now := s.now + (waitFor c.timeout).toNat, mBuffer := buffer, receiver := .matching beginAt (some respInfo) }
      [.receiver .matchResponse] = some
        { State.record { s with now := s.now + (waitFor c.timeout).toNat, mBuffer := buffer } it p
          (successProbe (getTimePassedTillNow (s.now + (waitFor c.timeout).toNat) p.sentAt) respInfo.client)
            (some (respInfo, buffer)) with receiver := .sweeping beginAt 0 } := by
    simp [machine, receiverStep, found, at_, State.record]
  refine ⟨_, Machine.exec_cons_eq_some.mpr ⟨_, hcall, hmatch⟩, ?_, fun hsuccess => ?_⟩
  · refine (Machine.along_cons_of_some hcall).mpr ⟨rfl, (Machine.along_cons_of_some rfl).mpr ⟨?_, ?_⟩⟩
    · simpa [waits] using hwait
    · refine (Machine.along_cons_of_some rfl).mpr ⟨?_, ?_⟩
      · simpa [waits] using hwait
      · exact ⟨rfl, fun _ _ => ⟨rfl, fun _ _ => trivial⟩⟩
  · exact absurd (hsuccess _ (List.mem_append_right _ List.mem_cons_self) rfl) (Int.not_le.mpr hlate)

/-- A failure is recorded only when less than `MinTimeWaitForResponse` is left of its probe's window. A success is
    recorded within it as long as the receiver begins no wait that outlasts the window of an outstanding probe; where it
    does, a response to that probe is still recorded as a success after its window. -/
theorem windows_honoured (packets : Nat → Packet) (c : Call) (now : Int) (o : Object) {as : List Action} {s : State}
    (h : (machine packets c).exec (enter c now o) as = some s)
    (hwaits : (machine packets c).Along (waits c · ·) (enter c now o) as) :
    FailuresInTime c s ∧
    ((machine packets c).Along (waitFits c · ·) (enter c now o) as → SuccessesInTime c s) ∧
    ∀ beginAt respInfo buffer it p, s.receiver = .loopHead beginAt → s.goesOn c beginAt = true →
      0 ≤ millisecondsCast c.timeout → s.mPacketsToBeValidated[it]? = some p → p.sentAt ≤ s.now → p.fits c s.now = false →
      findValid packets respInfo buffer s.mPacketsToBeValidated = .ok (some it) →
      ∃ as' t, (machine packets c).exec s as' = some t ∧ (machine packets c).Along (waits c · ·) s as' ∧
        ¬SuccessesInTime c t := by
  refine ⟨exec_failuresInTime h .enter fun r hr => (by cases hr), fun hfits => ?_, ?_⟩
  · have hboth : (machine packets c).Along (fun s a => waits c s a = true ∧ waitFits c s a = true) (enter c now o) as :=
      hwaits.and hfits
    exact (Machine.along_invariant (I := fun s => WithinWindows c s ∧ SuccessesInTime c s) step_withinWindows
      ⟨.enter, fun r hr => (by cases hr)⟩ hboth h).2
  · intro beginAt respInfo buffer it p pc on hms at_ sent hlate found
    obtain ⟨t, ht⟩ := waitAndMatch_late pc on hms at_ sent hlate found
    exact ⟨_, t, ht⟩

theorem windows_honoured_prompt :
    ∃ s, (machine bySize twoByTwo).exec (enter twoByTwo 0 (.fresh 0 fun _ => 0)) mixedRun = some s ∧
      (s.recorded.map fun r => (r.probe.packet, r.result.success, r.result.waitedFor)) =
        [(2, true, 2), (0, true, 4), (1, false, 1004), (3, false, 1004)] ∧
      FailuresInTime twoByTwo s ∧ SuccessesInTime twoByTwo s := by
  obtain ⟨s, hs, hwaited⟩ := Option.map_eq_some_iff.mp (show ((machine bySize twoByTwo).exec
    (enter twoByTwo 0 (.fresh 0 fun _ => 0)) mixedRun).map
      (·.recorded.map fun r => (r.probe.packet, r.result.success, r.result.waitedFor)) =
        some [(2, true, 2), (0, true, 4), (1, false, 1004), (3, false, 1004)] from rfl)
  obtain ⟨hfailures, hsuccesses, -⟩ := windows_honoured _ twoByTwo 0 (.fresh 0 fun _ => 0) hs (by decide)
  exact ⟨s, hs, hwaited, hfailures, hsuccesses (by decide)⟩

/-- Two probes with a window of a millisecond: the answer to the second one ends the first wait after half of it, and
    the answer to the first one arrives in the second wait, 1.4 milliseconds after the probe. -/
def phaseRun : List Action :=
  .sender .testTtl :: sendProbe ++ sendProbe ++ .receiver .readBeginAt :: receiveSized 1 500000 ++
    [.receiver .sweep, .receiver .sweep] ++ receiveSized 0 900000

theorem window_missed : ∃ s,
    (machine bySize ⟨1, 1, 2, 1000⟩).exec (enter ⟨1, 1, 2, 1000⟩ 0 (.fresh 0 fun _ => 0)) phaseRun = some s ∧
    (machine bySize ⟨1, 1, 2, 1000⟩).Along (waits ⟨1, 1, 2, 1000⟩ · ·) (enter ⟨1, 1, 2, 1000⟩ 0 (.fresh 0 fun _ => 0))
      phaseRun ∧
    (s.recorded.map fun r => (r.probe.packet, r.result.success, r.result.waitedFor)) = [(1, true, 500), (0, true, 1400)] ∧
    ¬SuccessesInTime ⟨1, 1, 2, 1000⟩ s := by
  refine ⟨_, rfl, by decide, rfl, fun h => ?_⟩
  have hlate := h _ (List.mem_cons_of_mem _ List.mem_cons_self) rfl
  exact absurd hlate (by decide)

end Traceroute.Fast
