import Traceroute.Theorems.SequentialOrder
import Traceroute.Theorems.Time

/-! `SequentialTraceroute::beginProbing` is left: when its steps are taken and time goes on, however many datagrams arrive. -/

namespace Traceroute.Sequential

variable {destination : Nat → SocketAddress} {c : Call} {s t : State} {now : Int} {created : Nat} {buffer : Bytes} {a : Attempt}

/-! ### The loops -/

def Position.done : Position → Bool
  | .returned _ | .threw _ => true
  | _ => false

/-- The attempt whose response is waited for. -/
def Position.attempt : Position → Option Attempt
  | .waiting a _ _ | .receiving a _ _ | .validating a _ => some a
  | _ => none

/-- Bounds the steps that are left but for those of the loop that waits. -/
def Position.stepsLeft (c : Call) : Position → Nat
  | .ttlLoop ttl => c.stepsLeft ttl.toNat 0 + 1
  | .retryLoop ttl i => c.stepsLeft ttl.toNat i.toNat
  | .created ttl i _ => c.stepsLeft ttl.toNat (i.toNat + 1) + 8
  | .sending ttl i _ => c.stepsLeft ttl.toNat (i.toNat + 1) + 7
  | .sent ttl i _ => c.stepsLeft ttl.toNat (i.toNat + 1) + 6
  | .waiting a _ _ | .receiving a _ _ | .validating a _ => c.stepsLeft a.ttl.toNat (a.i.toNat + 1) + 5
  | .waited a _ _ => c.stepsLeft a.ttl.toNat (a.i.toNat + 1) + 1
  | .returned _ | .threw _ => 0

/-- Bounds the steps that the loop that waits takes until its next test. -/
def Position.loopLeft : Position → Nat
  | .waiting .. => 1
  | .validating .. => 2
  | .receiving .. => 3
  | _ => 0

def Action.isTick : Action → Bool
  | .tick _ => true
  | _ => false

/-- A step other than the passing of time brings the probing closer to its end, or it is one of the loop that waits: it
    brings that closer to its next test, or it is a test with time left. -/
theorem Move.stepsLeft {action : Action} (h : Placed c s) (hend : c.ttlEnd.toNat + 1 < 2 ^ 32) (htick : action.isTick = false)
    (m : Move destination c s action t) : t.position.stepsLeft c < s.position.stepsLeft c ∨
      ∃ a, s.position.attempt = some a ∧ t.position.attempt = some a ∧
        t.position.stepsLeft c = s.position.stepsLeft c ∧
        (t.position.loopLeft < s.position.loopLeft ∨ MinTimeWaitForResponse ≤ getTimeLeft s.now a.sentAt c.timeout) := by
  unfold Placed at h
  cases m with
  | tick d => cases htick
  | @enterTtl ttl pc le =>
    refine Or.inl ?_
    rw [pc]
    exact Nat.lt_succ_self (c.stepsLeft ttl.toNat 0)
  | return_ pc | send pc | sent pc | begin_ pc | stop pc =>
    refine Or.inl ?_
    simp only [Position.stepsLeft, pc]
    omega
  | @create ttl i pc lt | @createThrows ttl i e pc lt =>
    simp only [pc] at h
    have hsucc := stepsLeft_succ h.1 h.2.1 (UInt32.lt_iff_toNat_lt.mp lt)
    refine Or.inl ?_
    simp only [Position.stepsLeft, pc]
    omega
  | notSent pc | sendThrows pc | receiveThrows pc | validateThrows pc =>
    refine Or.inl ?_
    simp only [Position.stepsLeft, pc]
    omega
  | @call a r pc inTime =>
    refine Or.inr ⟨a, by rw [pc]; rfl, rfl, by rw [pc]; rfl, Or.inr (by omega)⟩
  | nothing pc | receive pc | validate pc =>
    refine Or.inr ⟨_, by rw [pc]; rfl, rfl, by rw [pc]; rfl, Or.inl ?_⟩
    simp only [Position.loopLeft, pc]
    omega
  | @success a respInfo pc | @failure a r pc =>
    simp only [pc] at h
    have hsucc := toNat_succ h.2.2.1 c.retries.toNat_lt
    refine Or.inl ?_
    simp only [Position.stepsLeft, State.record, pc, hsucc]
    omega
  | @break_ ttl i pc le reached =>
    simp only [pc] at h
    have hir := toNat_eq_of_not_lt h.2.2.1 le
    have hnext := stepsLeft_nextTtl h.1 h.2.1
    refine Or.inl ?_
    simp only [Position.stepsLeft, pc, hir]
    omega
  | @nextTtl ttl i pc le notReached =>
    simp only [pc] at h
    have hir := toNat_eq_of_not_lt h.2.2.1 le
    have hnext := stepsLeft_nextTtl h.1 h.2.1
    have hsucc := toNat_succ (x := ttl) (n := c.ttlEnd.toNat + 1) (by omega) hend
    refine Or.inl ?_
    simp only [Position.stepsLeft, pc, hir, hsucc]
    omega

/-- A valid response is one that has been received. -/
def Received (s : State) : Prop :=
  ∀ a r, s.position = .waiting a true r ∨ s.position = .waited a true r → r ≠ none

theorem Move.received {action : Action} (h : Received s) (m : Move destination c s action t) : Received t := by
  intro a r hr
  cases m with
  | tick d => exact h a r hr
  | @stop a' v r' pc isOver =>
    refine h a r (Or.inl ?_)
    obtain ⟨rfl, rfl, rfl⟩ : a' = a ∧ v = true ∧ r' = r := by simpa using hr
    exact pc
  | validate pc =>
    obtain ⟨-, -, rfl⟩ : _ ∧ _ ∧ some _ = r := by simpa using hr
    simp
  | success pc | failure pc => simp [State.record] at hr
  | _ => simp at hr

/-- Nothing is being received or validated, and nothing has been thrown. -/
def Position.calm : Position → Bool
  | .receiving .. | .validating .. | .threw _ => false
  | _ => true

def Action.validates : Action → Bool
  | .isValid _ => true
  | _ => false

/-- Where nothing is received it can go on with nothing failing. -/
theorem exists_calmStep (destination : Nat → SocketAddress) (c : Call) (h : Received s)
    (hdone : s.position.done = false) (hattempt : s.position.attempt = none) :
    ∃ action t, action.isTick = false ∧ action.validates = false ∧ (machine destination c).step s action = some t ∧
      t.position.calm = true := by
  cases pc : s.position with
  | ttlLoop ttl =>
    by_cases le : ttl ≤ c.ttlEnd
    · exact ⟨.testTtl, _, rfl, rfl, by simp only [machine, step, pc, if_pos le]; rfl, rfl⟩
    · exact ⟨.testTtl, _, rfl, rfl, by simp only [machine, step, pc, if_neg le]; rfl, rfl⟩
  | retryLoop ttl i =>
    by_cases lt : i < c.retries
    · exact ⟨.createPacket (.ok ()), _, rfl, rfl, by simp only [machine, step, pc, if_pos lt]; rfl, rfl⟩
    · refine ⟨.pushProbe, _, rfl, rfl, by simp only [machine, step, pc, if_neg lt]; rfl, ?_⟩
      cases hreached : s.destinationReached <;> rfl
  | created ttl i k => exact ⟨.trySending, _, rfl, rfl, by simp only [machine, step, pc]; rfl, rfl⟩
  | sending ttl i k => exact ⟨.trySendingReturns (.ok true), _, rfl, rfl, by simp only [machine, step, pc]; rfl, rfl⟩
  | sent ttl i k => exact ⟨.readSentAt, _, rfl, rfl, by simp only [machine, step, pc]; rfl, rfl⟩
  | waited a v r =>
    cases v with
    | false => exact ⟨.pushProbeResult, _, rfl, rfl, by simp only [machine, step, pc]; rfl, rfl⟩
    | true =>
      cases r with
      | none => exact absurd rfl (h a none (Or.inr pc))
      | some respInfo => exact ⟨.pushProbeResult, _, rfl, rfl, by simp only [machine, step, pc]; rfl, rfl⟩
  | waiting | receiving | validating => simp [pc, Position.attempt] at hattempt
  | returned | threw => simp [pc, Position.done] at hdone

/-- Until it has returned or thrown it can go on. -/
theorem exists_step (destination : Nat → SocketAddress) (c : Call) (h : Received s) (hdone : s.position.done = false) :
    ∃ action t, action.isTick = false ∧ (machine destination c).step s action = some t := by
  cases pc : s.position with
  | waiting a v r =>
    by_cases isOver : (v || decide (getTimeLeft s.now a.sentAt c.timeout < MinTimeWaitForResponse)) = true
    · exact ⟨.testLoop, _, rfl, by simp only [machine, step, pc, if_pos isOver]; rfl⟩
    · exact ⟨.testLoop, _, rfl, by simp only [machine, step, pc, if_neg isOver]; rfl⟩
  | receiving a timeLeft calledAt =>
    exact ⟨.tryReceivingReturns (.ok none) s.mBuffer, _, rfl, by simp only [machine, step, pc]; rfl⟩
  | validating a respInfo => exact ⟨.isValid (.ok false), _, rfl, by simp only [machine, step, pc]; rfl⟩
  | ttlLoop | retryLoop | created | sending | sent | waited =>
    obtain ⟨action, t, htick, -, hs, -⟩ := exists_calmStep destination c h hdone (by rw [pc]; rfl)
    exact ⟨action, t, htick, hs⟩
  | returned | threw => simp [pc, Position.done] at hdone

theorem Placed.step {action : Action} (hend : c.ttlEnd.toNat + 1 < 2 ^ 32) (h : Placed c s)
    (hs : (machine destination c).step s action = some t) : Placed c t := (step_move hs).placed hend h

theorem isTick_step {action : Action} (htick : action.isTick = true) (hs : (machine destination c).step s action = some t) :
    t.position = s.position := by
  cases action with
  | tick d =>
    obtain rfl := Option.some.inj hs
    rfl
  | _ => cases htick

/-! ### One run that returns -/

/-- Nothing is validated. -/
def Unasked (_ : State) (_ : Unit) (action : Action) (_ : Unit) : Prop := action.validates = false

/-- When the time for the response is over the loop that waits is left. -/
theorem exists_stop (destination : Nat → SocketAddress) {v : Bool} {r : Option ResponseInfo} (pc : s.position = .waiting a v r) :
    ∃ d t, (machine destination c).Within Unasked s () [.tick d, .testLoop] t () ∧ t.position = .waited a v r ∧
      t.recorded = s.recorded := by
  let d := (max a.sentAt (a.sentAt + c.timeout * 1000) - s.now).toNat
  have hnow : max a.sentAt (a.sentAt + c.timeout * 1000) ≤ s.now + d := by omega
  have hover : getTimeLeft (s.now + d) a.sentAt c.timeout < MinTimeWaitForResponse := by
    rw [getTimeLeft_lt_iff (by omega)]
    omega
  have hstop : (machine destination c).step { s with now := s.now + d } .testLoop =
      some { s with now := s.now + d, position := .waited a v r } := by
    simp [machine, step, pc, hover]
  exact ⟨d, _, .cons (f := ()) rfl rfl (.single hstop rfl), rfl, rfl⟩

/-- From a state in which nothing is received it can return, and what is recorded stays. -/
theorem exists_returned (destination : Nat → SocketAddress) (hend : c.ttlEnd.toNat + 1 < 2 ^ 32) (hplaced : Placed c s)
    (hreceived : Received s) (hcalm : s.position.calm = true) :
    ∃ as t probes, (machine destination c).exec s as = some t ∧ (∀ action ∈ as, action.validates = false) ∧
      t.position = .returned probes ∧ s.recorded <+: t.recorded := by
  obtain ⟨as, t, ⟨⟩, hrun, ⟨-, -, -, hrecorded⟩, probes, hprobes⟩ : ∃ as t f, (machine destination c).Within Unasked s () as t f ∧
      (Placed c t ∧ Received t ∧ t.position.calm = true ∧ s.recorded <+: t.recorded) ∧
      ∃ probes, t.position = .returned probes := by
    refine Machine.Within.exists_of_measure
      (I := fun t _ => Placed c t ∧ Received t ∧ t.position.calm = true ∧ s.recorded <+: t.recorded)
      (fun t _ => t.position.stepsLeft c) (fun {t _} ⟨hplaced, hreceived, hcalm, hrecorded⟩ hgoal => ?_)
      ⟨hplaced, hreceived, hcalm, List.prefix_refl _⟩
    have hdone : t.position.done = false := by
      cases pc : t.position with
      | returned probes => exact absurd ⟨probes, pc⟩ hgoal
      | threw e => simp [pc, Position.calm] at hcalm
      | _ => rfl
    cases hattempt : t.position.attempt with
    | none =>
      obtain ⟨action, u, htick, hvalidates, hs, hu⟩ := exists_calmStep destination c hreceived hdone hattempt
      refine ⟨[action], u, (), .single hs hvalidates, ⟨hplaced.step hend hs, (step_move hs).received hreceived, hu,
        hrecorded.trans (step_keepsRecorded hs)⟩, ?_⟩
      obtain hlt | ⟨a, ha, -⟩ := (step_move hs).stepsLeft hplaced hend htick
      · exact hlt
      · rw [hattempt] at ha
        cases ha
    | some a =>
      obtain ⟨v, r, pc⟩ : ∃ v r, t.position = .waiting a v r := by
        cases pc : t.position with
        | waiting a' v r =>
          obtain rfl : a' = a := by simpa [pc, Position.attempt] using hattempt
          exact ⟨v, r, rfl⟩
        | receiving | validating => simp [pc, Position.calm] at hcalm
        | _ => simp [pc, Position.attempt] at hattempt
      obtain ⟨d, u, hrun, hu, hsame⟩ := exists_stop (c := c) destination pc
      have hinvariant := Machine.exec_invariant (I := fun t => Placed c t ∧ Received t)
        (fun hI hs => ⟨hI.1.step hend hs, (step_move hs).received hI.2⟩) ⟨hplaced, hreceived⟩ hrun.exec
      refine ⟨_, u, (), hrun, ⟨hinvariant.1, hinvariant.2, by rw [hu]; rfl, hsame ▸ hrecorded⟩, ?_⟩
      simp only [Position.stepsLeft, hu, pc]
      omega
  exact ⟨as, t, probes, hrun.exec, hrun.forall_mem id, hprobes, hrecorded⟩

/-! ### Runs -/

/-- The thread gets its turns, so that the calls it makes return, and time goes on. -/
structure Live (run : (machine destination c).Run s) : Prop where
  thread : run.WeaklyFair fun _ action => action.isTick = false
  clock : ∀ time : Int, ∃ i, time ≤ (run.state i).now

theorem step_now {action : Action} (hs : (machine destination c).step s action = some t) : s.now ≤ t.now := by
  cases step_move hs with
  | tick d => exact Int.le_add_of_nonneg_right (Int.natCast_nonneg d)
  | _ => exact Int.le_refl _

theorem Live.done {run : (machine destination c).Run (enter c now created buffer)} (h : Live run)
    (hend : c.ttlEnd.toNat + 1 < 2 ^ 32) : ∃ i, (run.state i).position.done = true := by
  by_contra hnever
  have hdone : ∀ i, (run.state i).position.done = false := fun i => by
    by_contra hi
    exact hnever ⟨i, by simpa using hi⟩
  have hplaced : ∀ i, Placed c (run.state i) := Machine.Run.invariant (fun hI hs => hI.step hend hs) .enter
  have hreceived : ∀ i, Received (run.state i) :=
    Machine.Run.invariant (fun hI hs => (step_move hs).received hI) fun a r hr => by simp [enter] at hr
  have hturn : ∀ n, ∃ i, n ≤ i ∧ (run.action i).isTick = false := fun n =>
    h.thread n fun i _ => exists_step destination c (hreceived i) (hdone i)
  -- From some step on nothing but the loop that waits for one response goes on.
  have hmoves : ∀ i, (run.action i).isTick = false → _ := fun i htick => (step_move (run.step i)).stepsLeft (hplaced i) hend htick
  obtain ⟨k, -, hsame⟩ : ∃ k, 0 ≤ k ∧ ∀ i, k ≤ i → (run.state i).position.stepsLeft c = (run.state k).position.stepsLeft c := by
    refine Machine.Run.exists_constant (fun s : State => s.position.stepsLeft c) fun i _ => ?_
    cases htick : (run.action i).isTick with
    | true => rw [isTick_step htick (run.step i)]
    | false =>
      obtain hlt | ⟨a, -, -, heq, -⟩ := hmoves i htick
      · exact Nat.le_of_lt hlt
      · exact Nat.le_of_eq heq
  have hloop : ∀ i, k ≤ i → (run.action i).isTick = false → ∃ a, (run.state i).position.attempt = some a ∧
      (run.state (i + 1)).position.attempt = some a ∧
      ((run.state (i + 1)).position.loopLeft < (run.state i).position.loopLeft ∨
        MinTimeWaitForResponse ≤ getTimeLeft (run.state i).now a.sentAt c.timeout) := fun i hi htick => by
    obtain hlt | ⟨a, ha, ha', -, hor⟩ := hmoves i htick
    · rw [hsame i hi, hsame (i + 1) (by omega)] at hlt
      exact absurd hlt (Nat.lt_irrefl _)
    · exact ⟨a, ha, ha', hor⟩
  obtain ⟨j, hj, htick⟩ := hturn k
  obtain ⟨a, -, ha, -⟩ := hloop j hj htick
  have hstays : ∀ i, j + 1 ≤ i → (run.state i).position.attempt = some a := fun i hi => by
    induction hi with
    | refl => exact ha
    | @step i hi ih =>
      cases htick : (run.action i).isTick with
      | true => rw [isTick_step htick (run.step i), ih]
      | false =>
        obtain ⟨a', ha', hnext, -⟩ := hloop i (Nat.le_trans (Nat.le_succ_of_le hj) hi) htick
        rw [hnext, ← ha', ih]
  -- Its window comes to an end, and then each round of the loop is the last one.
  obtain ⟨l, hl⟩ := h.clock (max a.sentAt (a.sentAt + c.timeout * 1000))
  have hover : ∀ i, l ≤ i → getTimeLeft (run.state i).now a.sentAt c.timeout < MinTimeWaitForResponse := fun i hi => by
    have hnow : max a.sentAt (a.sentAt + c.timeout * 1000) ≤ (run.state i).now :=
      Machine.Run.stays (I := fun s : State => max a.sentAt (a.sentAt + c.timeout * 1000) ≤ s.now)
        (fun hI hs => Int.le_trans hI (step_now hs)) hl hi
    rw [getTimeLeft_lt_iff (by omega)]
    omega
  obtain ⟨e, he, hlast⟩ : ∃ e, max l (j + 1) ≤ e ∧ ∀ i, e ≤ i → ¬(run.action i).isTick = false := by
    have hlt : ∀ i, max l (j + 1) ≤ i → (run.action i).isTick = false →
        (run.state (i + 1)).position.loopLeft < (run.state i).position.loopLeft := fun i hi htick => by
      obtain ⟨a', ha', -, hfalls | hleft⟩ := hloop i (by omega) htick
      · exact hfalls
      · obtain rfl : a = a' := Option.some.inj ((hstays i (by omega)).symm.trans ha')
        exact absurd (hover i (by omega)) (Int.not_lt.mpr hleft)
    refine Machine.Run.exists_last (P := fun _ (action : Action) => action.isTick = false) (fun s => s.position.loopLeft)
      (fun i hi => ?_) hlt
    cases htick : (run.action i).isTick with
    | true => rw [isTick_step htick (run.step i)]
    | false => exact Nat.le_of_lt (hlt i hi htick)
  obtain ⟨i, hi, htick⟩ := hturn e
  exact hlast i hi htick

theorem step_done {action : Action} (h : s.position.done = true) (hs : (machine destination c).step s action = some t) :
    t.position.done = true := by
  cases step_move hs with
  | tick d => exact h
  | return_ | notSent | createThrows | sendThrows | receiveThrows | validateThrows | break_ => rfl
  | enterTtl pc | create pc | send pc | sent pc | begin_ pc | stop pc | call pc | nothing pc | receive pc | validate pc
  | success pc | failure pc | nextTtl pc =>
    rw [pc] at h
    cases h

/-- It has returned only once the destination has been reached. -/
def OnlyReached (s : State) : Prop := ∀ probes, s.position = .returned probes → s.destinationReached = true

theorem Move.onlyReached {action : Action} (hend : c.ttlEnd.toNat + 1 = 2 ^ 32) (h : OnlyReached s)
    (m : Move destination c s action t) : OnlyReached t := by
  intro probes hp
  cases m with
  | tick d => exact h probes hp
  | @return_ ttl pc lt =>
    have hlt := ttl.toNat_lt
    exact absurd (UInt32.le_iff_toNat_le.mpr (by omega)) lt
  | break_ pc le reached => exact reached
  | _ => simp [State.record] at hp

/-- `beginProbing` is left in every run in which its thread gets its turns and time goes on, however many datagrams arrive
    and whatever fails; but with the largest `ttlEnd` it returns only when the destination has been reached. -/
theorem left_in_the_end (destination : Nat → SocketAddress) (c : Call) (now : Int) (created : Nat) (buffer : Bytes)
    (run : (machine destination c).Run (enter c now created buffer)) :
    (c.ttlEnd.toNat + 1 < 2 ^ 32 → Live run → ∃ n, ∀ i, n ≤ i → (run.state i).position.done = true) ∧
    (c.ttlEnd.toNat + 1 = 2 ^ 32 → ∀ i probes, (run.state i).position = .returned probes →
      (run.state i).destinationReached = true) := by
  refine ⟨fun hend hlive => ?_, fun hend i => ?_⟩
  · obtain ⟨n, hn⟩ := hlive.done hend
    exact ⟨n, fun i hi => Machine.Run.stays (I := fun s : State => s.position.done = true) step_done hn hi⟩
  · exact Machine.Run.invariant (I := OnlyReached) (fun hI hs => (step_move hs).onlyReached hend hI)
      (fun probes hp => by cases hp) i

def nowhere : SocketAddress := ⟨Vector.replicate 128 0⟩

/-- The first of two probes is answered, the second one is waited for in vain. -/
def halfAnswered : List Action :=
  [.testTtl, .createPacket (.ok ()), .trySending, .trySendingReturns (.ok true), .readSentAt, .testLoop, .tick 2000,
    .tryReceivingReturns (.ok (some ⟨nowhere, 1, 28⟩)) fun _ => 0, .isValid (.ok true), .testLoop, .pushProbeResult,
    .createPacket (.ok ()), .trySending, .trySendingReturns (.ok true), .readSentAt, .testLoop, .tick 1000000,
    .tryReceivingReturns (.ok none) fun _ => 0, .testLoop, .pushProbeResult, .pushProbe]

theorem iterate_tick (t : State) (n : Nat) :
    (fun s : State => { s with now := s.now + (1 : Nat) })^[n] t = { t with now := t.now + n } := by
  induction n generalizing t with
  | zero => simp
  | succ n ih =>
    rw [Function.iterate_succ_apply, ih]
    simp only [State.mk.injEq, and_true]
    omega

theorem left_in_the_end_half : ∃ run : (machine (fun _ => nowhere) ⟨1, 1, 2, 1000⟩).Run
      (enter ⟨1, 1, 2, 1000⟩ 0 0 fun _ => 0),
    (run.state 20).recorded.map (·.result.success) = [true, false] ∧ ∃ n, ∀ i, n ≤ i → (run.state i).position.done = true := by
  obtain ⟨t, ht, hend⟩ := Option.map_eq_some_iff.mp (show ((machine (fun _ => nowhere) ⟨1, 1, 2, 1000⟩).exec
    (enter ⟨1, 1, 2, 1000⟩ 0 0 fun _ => 0) halfAnswered).map (fun t => (t.position.done, t.now)) = some (true, 1002000) from rfl)
  obtain ⟨hdone, hnow⟩ := Prod.mk.inj hend
  let run := Machine.Run.prolong (M := machine (fun _ => nowhere) ⟨1, 1, 2, 1000⟩) (.tick 1) (fun s => rfl) ht
  have hlate : ∀ n, run.state (21 + n) = { t with now := t.now + n } := fun n =>
    (Machine.Run.prolonged_length_add ht n).trans (iterate_tick t n)
  refine ⟨run, rfl, (left_in_the_end (fun _ => nowhere) ⟨1, 1, 2, 1000⟩ 0 0 (fun _ => 0) run).1 (by decide)
    ⟨fun n hpossible => ?_, fun time => ⟨21 + time.toNat, ?_⟩⟩⟩
  · -- Nothing but time goes on once it has returned.
    obtain ⟨action, u, htick, hs⟩ := hpossible (21 + n) (by omega)
    rw [hlate] at hs
    have hend := step_move hs
    cases pc : t.position with
    | returned probes => cases hend <;> simp_all [Action.isTick]
    | threw e => cases hend <;> simp_all [Action.isTick]
    | _ => simp [pc, Position.done] at hdone
  · rw [hlate]
    show time ≤ t.now + time.toNat
    omega

end Traceroute.Sequential
