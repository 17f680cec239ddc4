import Traceroute.Theorems.Agreement
import Traceroute.Theorems.SequentialOrder

/-! How long `beginProbing` takes when time passes only while `tryReceiving` waits, and no longer than it is told to:
    whatever is received meanwhile, and however often. -/

namespace Traceroute

/-- The nanoseconds that one probe takes at most: its window, and less than a microsecond that the clock readings drop. -/
def Call.probeWindow (c : Call) : Int := max 0 c.timeout * 1000 + 999

theorem Call.probeWindow_nonneg (c : Call) : 0 ≤ c.probeWindow := by
  rw [Call.probeWindow]
  omega

theorem waitFor_le {microseconds : Int} (h : 0 ≤ microseconds) : waitFor microseconds ≤ microseconds * 1000 := by
  rw [waitFor, millisecondsCast_of_nonneg h]
  omega

/-- A wait for what is left of a window ends less than a microsecond behind the window. -/
theorem waitFor_getTimeLeft_le {calledAt sentAt timeout : Int} (hsent : sentAt ≤ calledAt)
    (inTime : MinTimeWaitForResponse ≤ getTimeLeft calledAt sentAt timeout) :
    calledAt + waitFor (getTimeLeft calledAt sentAt timeout) ≤ sentAt + timeout * 1000 + 999 := by
  have hopen := (le_getTimeLeft_iff hsent).mp inTime
  have hleft : getTimeLeft calledAt sentAt timeout = timeout - (calledAt - sentAt) / 1000 := getTimeLeft_of_le hsent (by omega)
  have hmin : (0 : Int) ≤ MinTimeWaitForResponse := by decide
  have hwait := waitFor_le (Int.le_trans hmin inTime)
  omega

/-! ### `FastTraceroute` -/

/-- The nanoseconds until the loop is left for want of time, and those of a wait that began before. -/
def Call.span (c : Call) : Int := max 0 (c.expectedMaxTimeTaken * 1000) + max 0 (waitFor c.timeout)

theorem Call.Regular.span {c : Call} (h : c.Regular) : c.span = (c.probeCount + 1) * c.timeout * 1000 := by
  have hpos := h.timeout.1
  have hcount : 0 ≤ c.timeout * c.probeCount := Int.mul_nonneg (Int.le_of_lt hpos) (Int.natCast_nonneg _)
  have hmul : ((c.probeCount : Int) + 1) * c.timeout = c.timeout * c.probeCount + c.timeout := by
    rw [Int.add_mul, Int.one_mul, Int.mul_comm]
  rw [Call.span, h.expectedMaxTimeTaken, h.waitFor, hmul]
  omega

namespace Fast

variable {packets : Nat → Packet} {c : Call} {s t : State} {o : Object} {start : Int} {as : List Action}

/-- Time passes only while `tryReceiving` waits, and no longer than it is told to. -/
def prompt (c : Call) (s : State) : Action → Bool
  | .tick d =>
    match s.receiver with
    | .receiving _ calledAt => s.now + d ≤ max calledAt (calledAt + waitFor c.timeout)
    | _ => false
  | _ => true

/-- A wait begins before the time for all results is over. -/
def Punctual (c : Call) (start : Int) (s : State) : Prop :=
  start ≤ s.now ∧
    match s.receiver with
    | .entering => s.now = start
    | .receiving b calledAt => b = start ∧ start ≤ calledAt ∧ calledAt < start + c.expectedMaxTimeTaken * 1000 ∧
        calledAt ≤ s.now ∧ s.now ≤ max calledAt (calledAt + waitFor c.timeout)
    | .loopHead b | .locking b _ | .matching b _ | .sweeping b _ | .expiring b _ => b = start ∧ s.now ≤ start + c.span
    | .postprocessing | .returned _ | .threw _ => s.now ≤ start + c.span

theorem Punctual.le (h : Punctual c start s) : s.now ≤ start + c.span := by
  obtain ⟨hstart, h⟩ := h
  cases pc : s.receiver with
  | entering | receiving =>
    simp only [pc] at h
    rw [Call.span]
    omega
  | loopHead | locking | matching | sweeping | expiring =>
    rw [pc] at h
    exact h.2
  | postprocessing | returned | threw =>
    rw [pc] at h
    exact h

theorem ReceiverMove.punctual {a : ReceiverAction} (h : Punctual c start s) (m : ReceiverMove packets c s a t) :
    Punctual c start t := by
  have hle := h.le
  obtain ⟨hstart, h⟩ := h
  cases m with
  | begin_ pc =>
    rw [pc] at h
    exact ⟨hstart, h, hle⟩
  | @call b pc on =>
    rw [pc] at h
    obtain ⟨rfl, -⟩ := h
    simp only [State.goesOn, Bool.and_eq_true, decide_eq_true_eq] at on
    have hopen := (getTimeLeft_pos_iff hstart).mp on.2
    exact ⟨hstart, rfl, hstart, hopen, Int.le_refl _, Int.le_max_left _ _⟩
  | leave pc | receiveThrows pc | matchThrows pc | return_ pc | postprocessThrows pc => exact ⟨hstart, hle⟩
  | receive pc | lock pc | nothing pc | unmatched pc | matched pc | keep pc | late pc | unlock pc | expired pc =>
    rw [pc] at h
    exact ⟨hstart, h.1, hle⟩

theorem step_punctual {a : Action} (hprompt : prompt c s a = true) (h : Punctual c start s)
    (hs : (machine packets c).step s a = some t) : Punctual c start t := by
  cases a with
  | tick d =>
    obtain rfl := Option.some.inj hs
    obtain ⟨hstart, h⟩ := h
    cases pc : s.receiver with
    | receiving b calledAt =>
      simp only [prompt, pc, decide_eq_true_eq] at hprompt h
      obtain ⟨hb, hcalled, hopen, hle, -⟩ := h
      refine ⟨Int.le_trans hstart (Int.le_add_of_nonneg_right (Int.natCast_nonneg d)), ?_⟩
      simp only
      exact ⟨hb, hcalled, hopen, by omega, hprompt⟩
    | _ => simp [prompt, pc] at hprompt
  | sender a =>
    have m := senderStep_move hs
    rw [Punctual, m.receiver, m.now]
    exact h
  | receiver a => exact (receiverStep_move hs).punctual h

/-- While time passes in waits only, and each ends when its timeout does: however many datagrams arrive, `beginProbing` never
    takes longer than the time for all results and one wait more. For a regular call these are as many timeouts as there are
    probes and one more. -/
theorem ends_within_span (packets : Nat → Packet) (c : Call) (start : Int) (o : Object) (as : List Action) (t : State)
    (hprompt : (machine packets c).Along (prompt c · ·) (enter c start o) as)
    (hrun : (machine packets c).exec (enter c start o) as = some t) :
    t.now ≤ start + c.span ∧ (c.Regular → t.now ≤ start + (c.probeCount + 1) * c.timeout * 1000) := by
  have hpunctual : Punctual c start t :=
    Machine.along_invariant step_punctual (I := Punctual c start) ⟨Int.le_refl start, rfl⟩ hprompt hrun
  exact ⟨hpunctual.le, fun hc => hc.span ▸ hpunctual.le⟩

/-- The receiver waits once, for the whole timeout. -/
def silentRun : List Action :=
  [.receiver .readBeginAt, .receiver .testLoop, .tick 1000000, .receiver (.tryReceivingReturns (.ok none) fun _ => 0)]

theorem ends_within_span_silent : ∃ t,
    (machine (fun _ => deaf) oneProbe).exec (enter oneProbe 0 (.fresh 0 fun _ => 0)) silentRun = some t ∧ t.now = 1000000 ∧
    t.now ≤ 0 + (oneProbe.probeCount + 1) * oneProbe.timeout * 1000 :=
  ⟨_, rfl, rfl, (ends_within_span (fun _ => deaf) oneProbe 0 (.fresh 0 fun _ => 0) silentRun _ (by decide) rfl).2 oneProbe_regular⟩

end Fast

/-! ### `SequentialTraceroute` -/

namespace Sequential

variable {destination : Nat → SocketAddress} {c : Call} {s t : State} {start : Int} {as : List Action}

/-- Time passes only while `tryReceiving` waits, and no longer than it is told to. -/
def prompt (s : State) : Action → Bool
  | .tick d =>
    match s.position with
    | .receiving _ timeLeft calledAt => s.now + d ≤ max calledAt (calledAt + waitFor timeLeft)
    | _ => false
  | _ => true

/-- Each probe that has been sent has taken no longer than its window, and the one that is waited for has not yet. -/
def Punctual (c : Call) (start : Int) (s : State) : Prop :=
  let before := start + s.sent.length * c.probeWindow
  match s.position with
  | .sending .. | .sent .. => s.now + c.probeWindow ≤ before
  | .waiting a _ _ | .validating a _ | .waited a _ _ => a.sentAt ≤ s.now ∧ s.now ≤ a.sentAt + c.probeWindow ∧
      a.sentAt + c.probeWindow ≤ before
  | .receiving a timeLeft calledAt => timeLeft = getTimeLeft calledAt a.sentAt c.timeout ∧ MinTimeWaitForResponse ≤ timeLeft ∧
      a.sentAt ≤ calledAt ∧ calledAt ≤ s.now ∧ s.now ≤ max calledAt (calledAt + waitFor timeLeft) ∧
      calledAt ≤ a.sentAt + c.probeWindow ∧ a.sentAt + c.probeWindow ≤ before
  | _ => s.now ≤ before

/-- A wait that was begun within the window of the probe ends within it. -/
theorem end_le_probeWindow {a : Attempt} {calledAt : Int} (hsent : a.sentAt ≤ calledAt)
    (inTime : MinTimeWaitForResponse ≤ getTimeLeft calledAt a.sentAt c.timeout) (hcalled : calledAt ≤ a.sentAt + c.probeWindow) :
    max calledAt (calledAt + waitFor (getTimeLeft calledAt a.sentAt c.timeout)) ≤ a.sentAt + c.probeWindow := by
  have hend := waitFor_getTimeLeft_le hsent inTime
  rw [Call.probeWindow] at *
  omega

theorem Punctual.enter {created : Nat} {buffer : Bytes} : Punctual c start (enter c start created buffer) := by
  show start ≤ start + ((0 : Nat) : Int) * c.probeWindow
  rw [Int.natCast_zero, Int.zero_mul, Int.add_zero]

theorem Punctual.le (h : Punctual c start s) : s.now ≤ start + s.sent.length * c.probeWindow := by
  have hwindow := c.probeWindow_nonneg
  cases pc : s.position with
  | receiving a timeLeft calledAt =>
    simp only [Punctual, pc] at h
    obtain ⟨rfl, inTime, hsent, -, hnow, hcalled, hbefore⟩ := h
    have hend := end_le_probeWindow hsent inTime hcalled
    omega
  | _ =>
    simp only [Punctual, pc] at h
    omega

theorem Move.punctual {action : Action} (hprompt : prompt s action = true) (h : Punctual c start s) (m : Move destination c s action t) :
    Punctual c start t := by
  have hle := h.le
  have hwindow := c.probeWindow_nonneg
  unfold Punctual at h
  cases m with
  | tick d =>
    cases pc : s.position with
    | receiving a timeLeft calledAt =>
      simp only [prompt, pc, decide_eq_true_eq] at hprompt h
      obtain ⟨hleft, inTime, hsent, hcalled, -, hrest⟩ := h
      simp only [Punctual]
      exact ⟨hleft, inTime, hsent, by omega, hprompt, hrest⟩
    | _ => simp [prompt, pc] at hprompt
  | send pc =>
    simp only [Punctual, List.length_append, List.length_singleton, Int.natCast_add, Int.add_mul]
    omega
  | begin_ pc =>
    simp only [pc] at h
    exact ⟨Int.le_refl _, by dsimp only; omega, h⟩
  | sent pc =>
    simp only [pc] at h
    exact h
  | @call a r pc inTime =>
    simp only [pc] at h
    obtain ⟨hsent, hnow, hbefore⟩ := h
    exact ⟨rfl, Int.not_lt.mp inTime, hsent, Int.le_refl _, Int.le_max_left _ _, hnow, hbefore⟩
  | nothing pc | receive pc =>
    simp only [pc] at h
    obtain ⟨rfl, inTime, hsent, hcalled, hnow, hwithin, hbefore⟩ := h
    exact ⟨Int.le_trans hsent hcalled, Int.le_trans hnow (end_le_probeWindow hsent inTime hwithin), hbefore⟩
  | stop pc | validate pc =>
    simp only [pc] at h
    exact h
  | enterTtl | return_ | create | createThrows | notSent | sendThrows | receiveThrows | validateThrows | success | failure | break_
  | nextTtl => exact hle

/-- Half a microsecond after a first probe has been sent a datagram comes that answers nothing; then the whole timeout is
    waited once more, and it is waited for the response to a second probe. -/
def strayRun : List Action :=
  [.testTtl, .createPacket (.ok ()), .trySending, .trySendingReturns (.ok true), .readSentAt, .testLoop, .tick 500,
    .tryReceivingReturns (.ok (some ⟨.ofBytes [], 1, 0⟩)) fun _ => 0, .isValid (.ok false), .testLoop, .tick 1000000,
    .tryReceivingReturns (.ok none) fun _ => 0, .testLoop, .pushProbeResult, .createPacket (.ok ()), .trySending,
    .trySendingReturns (.ok true), .readSentAt, .testLoop, .tick 1000000, .tryReceivingReturns (.ok none) fun _ => 0]

end Sequential
end Traceroute
