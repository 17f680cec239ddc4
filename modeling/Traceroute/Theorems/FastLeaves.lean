import Traceroute.Theorems.SendCount

/-! `FastTraceroute::beginProbing` is left: when both threads get their turns and time goes on, whatever is received and
    whatever fails. -/

namespace Traceroute.Fast

variable {packets : Nat → Packet} {c : Call} {s t : State} {now : Int} {o : Object} {b : Int}

/-! ### The end of the loop -/

/-- The receiver has read `beginAt`. -/
def Receiver.BegunAt (b : Int) : Receiver → Prop
  | .entering => False
  | .loopHead beginAt | .receiving beginAt _ | .locking beginAt _ | .matching beginAt _ | .sweeping beginAt _
  | .expiring beginAt _ => beginAt = b
  | .postprocessing | .returned _ | .threw _ => True

theorem ReceiverMove.begunAt {a : ReceiverAction} (h : s.receiver.BegunAt b) (m : ReceiverMove packets c s a t) :
    t.receiver.BegunAt b := by
  cases m with
  | begin_ pc =>
    rw [pc] at h
    cases h
  | leave pc | receiveThrows pc | matchThrows pc | return_ pc | postprocessThrows pc => trivial
  | call pc | receive pc | lock pc | nothing pc | unmatched pc | matched pc | keep pc | late pc | unlock pc | expired pc =>
    rw [pc] at h
    exact h

theorem ReceiverMove.exists_begunAt {a : ReceiverAction} (m : ReceiverMove packets c s a t) : ∃ b, t.receiver.BegunAt b := by
  cases m with
  | leave pc | receiveThrows pc | matchThrows pc | return_ pc | postprocessThrows pc => exact ⟨0, trivial⟩
  | begin_ pc | call pc | receive pc | lock pc | nothing pc | unmatched pc | matched pc | keep pc | late pc | unlock pc
  | expired pc => exact ⟨_, rfl⟩

theorem step_begunAt {a : Action} (h : s.receiver.BegunAt b) (hs : (machine packets c).step s a = some t) :
    t.receiver.BegunAt b := by
  cases a with
  | tick d =>
    obtain rfl := Option.some.inj hs
    exact h
  | sender a => rw [(senderStep_move hs).receiver]; exact h
  | receiver a => exact (receiverStep_move hs).begunAt h

/-- A thread that is done takes no steps. -/
theorem SenderMove.not_done {a : SenderAction} (m : SenderMove c s a t) : s.sender.done = false := by
  cases m with
  | enterTtl pc | finish pc | nextTtl pc | create pc | createThrows pc | send pc | sent pc | notSent pc | sendThrows pc
  | push pc =>
    rw [pc]
    rfl

theorem ReceiverMove.not_done {a : ReceiverAction} (m : ReceiverMove packets c s a t) : s.receiver.done = false := by
  cases m with
  | begin_ pc | call pc | leave pc | receive pc | receiveThrows pc | lock pc | nothing pc | unmatched pc | matchThrows pc
  | matched pc | keep pc | late pc | unlock pc | expired pc | return_ pc | postprocessThrows pc =>
    rw [pc]
    rfl

theorem step_senderDone {a : Action} (h : s.sender.done = true) (hs : (machine packets c).step s a = some t) :
    t.sender.done = true ∧ a.isSender = false := by
  cases a with
  | tick d =>
    obtain rfl := Option.some.inj hs
    exact ⟨h, rfl⟩
  | sender a =>
    rw [(senderStep_move hs).not_done] at h
    cases h
  | receiver a => exact ⟨(receiverStep_move hs).sender ▸ h, rfl⟩

theorem step_receiverDone {a : Action} (h : s.receiver.done = true) (hs : (machine packets c).step s a = some t) :
    t.receiver.done = true ∧ a.isReceiver = false := by
  cases a with
  | tick d =>
    obtain rfl := Option.some.inj hs
    exact ⟨h, rfl⟩
  | sender a => exact ⟨(senderStep_move hs).receiver ▸ h, rfl⟩
  | receiver a =>
    rw [(receiverStep_move hs).not_done] at h
    cases h

/-- The time for all results is over. -/
def State.timeOver (c : Call) (b : Int) (s : State) : Prop := b ≤ s.now ∧ b + c.expectedMaxTimeTaken * 1000 ≤ s.now

theorem step_timeOver {a : Action} (h : s.timeOver c b) (hs : (machine packets c).step s a = some t) : t.timeOver c b :=
  ⟨Int.le_trans h.1 (step_now hs), Int.le_trans h.2 (step_now hs)⟩

theorem State.timeOver.goesOn (h : s.timeOver c b) : s.goesOn c b = false := by
  have hpos : 0 < getTimeLeft s.now b c.expectedMaxTimeTaken ↔ s.now < b + c.expectedMaxTimeTaken * 1000 :=
    getTimeLeft_pos_iff h.1
  have hle := h.2
  simp only [State.goesOn, Bool.and_eq_false_iff, decide_eq_false_iff_not]
  exact Or.inr fun hlt => by have := hpos.mp hlt; omega

/-- Bounds the steps that the receiver still takes once the time is over and nothing is registered any more. -/
def State.receiverLeft (s : State) : Nat :=
  match s.receiver with
  | .entering => 0
  | .loopHead _ => 2
  | .receiving _ _ => 2 * s.mPacketsToBeValidated.length + 7
  | .locking _ _ => 2 * s.mPacketsToBeValidated.length + 6
  | .matching _ _ => 2 * s.mPacketsToBeValidated.length + 5
  | .sweeping _ it => 2 * (s.mPacketsToBeValidated.length - it) + 4
  | .expiring _ it => 2 * (s.mPacketsToBeValidated.length - it) + 3
  | .postprocessing => 1
  | .returned _ | .threw _ => 0

theorem ReceiverMove.receiverLeft_lt {a : ReceiverAction} (hb : s.receiver.BegunAt b) (hover : s.timeOver c b)
    (m : ReceiverMove packets c s a t) : t.receiverLeft < s.receiverLeft := by
  cases m with
  | begin_ pc =>
    rw [pc] at hb
    cases hb
  | call pc on =>
    rw [pc] at hb
    rw [show _ = b from hb, hover.goesOn] at on
    cases on
  | matched pc found at_ =>
    simp only [State.receiverLeft, State.record, pc, List.length_eraseIdx_of_lt (List.getElem?_eq_some_iff.mp at_).1]
    omega
  | keep pc at_ =>
    have hit := (List.getElem?_eq_some_iff.mp at_).1
    simp only [State.receiverLeft, pc]
    omega
  | expired pc at_ =>
    have hit := (List.getElem?_eq_some_iff.mp at_).1
    simp only [State.receiverLeft, State.record, pc, List.length_eraseIdx_of_lt hit]
    omega
  | leave pc | receive pc | receiveThrows pc | lock pc | nothing pc | unmatched pc | matchThrows pc | late pc | unlock pc
  | return_ pc | postprocessThrows pc =>
    simp only [State.receiverLeft, pc]
    omega

theorem step_receiverLeft_lt {a : Action} (hreceiver : a.isReceiver = true) (hb : s.receiver.BegunAt b)
    (hover : s.timeOver c b) (hs : (machine packets c).step s a = some t) : t.receiverLeft < s.receiverLeft := by
  cases a with
  | receiver a => exact (receiverStep_move hs).receiverLeft_lt hb hover
  | tick | sender => cases hreceiver

theorem step_receiverLeft_le {a : Action} (hdone : s.sender.done = true) (hb : s.receiver.BegunAt b)
    (hover : s.timeOver c b) (hs : (machine packets c).step s a = some t) : t.receiverLeft ≤ s.receiverLeft := by
  cases a with
  | tick d =>
    obtain rfl := Option.some.inj hs
    exact Nat.le_refl _
  | sender a => cases (step_senderDone hdone hs).2
  | receiver a => exact Nat.le_of_lt ((receiverStep_move hs).receiverLeft_lt hb hover)

/-- The receiver can go on until it has returned or thrown. -/
theorem exists_receiverStep_of_not_done (packets : Nat → Packet) (c : Call) (hexpires : ExpiresListed s)
    (hdone : s.receiver.done = false) : ∃ a t, receiverStep packets c s a = some t := by
  cases pc : s.receiver with
  | entering => exact ⟨.readBeginAt, _, by simp only [receiverStep, pc]; rfl⟩
  | loopHead beginAt => exact ⟨.testLoop, _, by simp only [receiverStep, pc]; rfl⟩
  | receiving beginAt calledAt =>
    exact ⟨.tryReceivingReturns (.ok none) s.mBuffer, _, by simp only [receiverStep, pc]; rfl⟩
  | locking beginAt respInfo => exact ⟨.lock, _, by simp only [receiverStep, pc]; rfl⟩
  | matching | sweeping | expiring => exact exists_receiverStep packets c hexpires (by simp [pc, Receiver.holdsMutex])
  | postprocessing => exact ⟨.postprocess (.ok ()), _, by simp only [receiverStep, pc]; rfl⟩
  | returned | threw => simp [pc, Receiver.done] at hdone

/-! ### One run that returns -/

/-- The receiver is past the matching of a round, or past its loop, and has not thrown. -/
def Receiver.calm : Receiver → Bool
  | .loopHead _ | .sweeping .. | .expiring .. | .postprocessing | .returned _ => true
  | _ => false

/-- Once the time is over it goes on with nothing failing. -/
theorem exists_calmStep (packets : Nat → Packet) (hexpires : ExpiresListed s) (hb : s.receiver.BegunAt b) (hover : s.timeOver c b)
    (hcalm : s.receiver.calm = true) (hdone : s.receiver.done = false) :
    ∃ a t, receiverStep packets c s a = some t ∧ t.receiver.calm = true := by
  cases pc : s.receiver with
  | loopHead beginAt =>
    rw [pc] at hb
    obtain rfl : beginAt = b := hb
    exact ⟨.testLoop, _, by simp only [receiverStep, pc, hover.goesOn]; rfl, rfl⟩
  | sweeping beginAt it =>
    cases hat : s.mPacketsToBeValidated[it]? with
    | none => exact ⟨.sweep, _, by simp only [receiverStep, pc, hat]; rfl, rfl⟩
    | some probe =>
      refine ⟨.sweep, _, by simp only [receiverStep, pc, hat]; rfl, ?_⟩
      dsimp only
      split <;> rfl
  | expiring beginAt it =>
    have hit := hexpires beginAt it pc
    exact ⟨.expire, _, by simp only [receiverStep, pc, List.getElem?_eq_getElem hit]; rfl, rfl⟩
  | postprocessing => exact ⟨.postprocess (.ok ()), _, by simp only [receiverStep, pc]; rfl, rfl⟩
  | returned | threw => simp [pc, Receiver.done] at hdone
  | entering | receiving | locking | matching => simp [pc, Receiver.calm] at hcalm

theorem step_returned {a : Action} {results : List TracerouteResult} (h : s.receiver = .returned results)
    (hs : (machine packets c).step s a = some t) : t.receiver = .returned results := by
  cases a with
  | tick d =>
    obtain rfl := Option.some.inj hs
    exact h
  | sender a => exact (senderStep_move hs).receiver.trans h
  | receiver a =>
    have hdone := (receiverStep_move hs).not_done
    rw [h] at hdone
    cases hdone

/-- The receiver can return without another response. -/
theorem exists_returned (packets : Nat → Packet) (hexpires : ExpiresListed s) (hb : s.receiver.BegunAt b)
    (hcalm : s.receiver.calm = true) :
    ∃ as t results, (machine packets c).exec s as = some t ∧ t.receiver = .returned results ∧ s.recorded <+: t.recorded := by
  -- First the time comes to its end.
  let late : State := { s with now := s.now + (max b (b + c.expectedMaxTimeTaken * 1000) - s.now).toNat }
  have hlate : (machine packets c).exec s [.tick (max b (b + c.expectedMaxTimeTaken * 1000) - s.now).toNat] = some late := rfl
  have hover : late.timeOver c b := ⟨by dsimp only [late]; omega, by dsimp only [late]; omega⟩
  obtain ⟨as, t, ⟨⟩, hrun, -, results, hresults⟩ : ∃ as t f, (machine packets c).Within (fun _ _ _ _ => True) late () as t f ∧
      (ExpiresListed t ∧ t.receiver.BegunAt b ∧ t.timeOver c b ∧ t.receiver.calm = true) ∧
      ∃ results, t.receiver = .returned results := by
    refine Machine.Within.exists_of_measure
      (I := fun t _ => ExpiresListed t ∧ t.receiver.BegunAt b ∧ t.timeOver c b ∧ t.receiver.calm = true)
      (fun t _ => t.receiverLeft) (fun {t _} ⟨hexpires, hb, hover, hcalm⟩ hgoal => ?_) ⟨hexpires, hb, hover, hcalm⟩
    have hdone : t.receiver.done = false := by
      cases pc : t.receiver with
      | returned results => exact absurd ⟨results, pc⟩ hgoal
      | threw e => simp [pc, Receiver.calm] at hcalm
      | _ => rfl
    obtain ⟨a, u, hs, hu⟩ := exists_calmStep packets hexpires hb hover hcalm hdone
    have hstep : (machine packets c).step t (.receiver a) = some u := hs
    exact ⟨[.receiver a], u, (), .single hstep trivial,
      ⟨step_expires hexpires hstep, step_begunAt hb hstep, step_timeOver hover hstep, hu⟩,
      (receiverStep_move hs).receiverLeft_lt hb hover⟩
  exact ⟨_, t, results, Machine.exec_append hlate hrun.exec, hresults, exec_recorded (s := late) hrun.exec⟩

/-- `beginProbing` can return without another response. -/
theorem exists_left (packets : Nat → Packet) (hend : c.ttlEnd.toNat + 1 < 2 ^ 32) (hplaced : Placed c s)
    (hexpires : ExpiresListed s) (hb : s.receiver.BegunAt b) (hcalm : s.receiver.calm = true) :
    ∃ as t results, (machine packets c).exec s as = some t ∧ t.left = true ∧ t.receiver = .returned results ∧
      s.recorded <+: t.recorded := by
  obtain ⟨as, u, results, hu, hresults, hrecorded⟩ := exists_returned (c := c) packets hexpires hb hcalm
  have hleft {t : State} (hsender : t.sender.done = true) (hreturned : t.receiver = .returned results) : t.left = true := by
    rw [State.left, hsender, hreturned]
    rfl
  by_cases hthrew : ∃ e, u.sender = .threw e
  · obtain ⟨e, he⟩ := hthrew
    exact ⟨as, u, results, hu, hleft (by rw [he]; rfl) hresults, hresults, hrecorded⟩
  · obtain ⟨hplaced', hexpires'⟩ := Machine.exec_invariant (I := fun s => Placed c s ∧ ExpiresListed s)
      (fun hI hs => ⟨step_placed hend hI.1 hs, step_expires hI.2 hs⟩) ⟨hplaced, hexpires⟩ hu
    obtain ⟨bs, t, ht, -, hfinished⟩ :=
      Sending.finishes packets hend ⟨hplaced', hexpires', fun e he => hthrew ⟨e, he⟩⟩
    have hreturned := Machine.exec_invariant (I := fun s => s.receiver = .returned results)
      (fun hI hs => step_returned hI hs) hresults ht
    exact ⟨as ++ bs, t, results, Machine.exec_append hu ht, hleft (by rw [hfinished]; rfl) hreturned, hreturned,
      hrecorded.trans (exec_recorded ht)⟩

/-! ### Runs -/

/-- Both threads get their turns, so that the calls they make return, and time goes on. -/
structure Live (run : (machine packets c).Run s) : Prop where
  sender : run.StronglyFair fun _ a => a.isSender = true
  receiver : run.WeaklyFair fun _ a => a.isReceiver = true
  clock : ∀ time : Int, ∃ i, time ≤ (run.state i).now

theorem Live.fair {run : (machine packets c).Run s} (h : Live run) : Fair run where
  sender := h.sender
  receiver n hpossible := by
    obtain ⟨i, hi, hreceiver⟩ := h.receiver n fun i hi => by
      obtain ⟨a, t, hP, hs⟩ := hpossible i hi
      exact ⟨a, t, hP.2, hs⟩
    obtain ⟨a, t, hP, -⟩ := hpossible i hi
    exact ⟨i, hi, hP.1, hreceiver⟩

/-- A thread that is over stays so. -/
theorem senderDone_stays {run : (machine packets c).Run s} {n i : Nat} (h : (run.state n).sender.done = true) (hi : n ≤ i) :
    (run.state i).sender.done = true :=
  Machine.Run.stays (I := fun s : State => s.sender.done = true) (fun hI hs => (step_senderDone hI hs).1) h hi

theorem receiverDone_stays {run : (machine packets c).Run s} {n i : Nat} (h : (run.state n).receiver.done = true)
    (hi : n ≤ i) : (run.state i).receiver.done = true :=
  Machine.Run.stays (I := fun s : State => s.receiver.done = true) (fun hI hs => (step_receiverDone hI hs).1) h hi

theorem Live.receiverDone {run : (machine packets c).Run (enter c now o)} (h : Live run) {n : Nat}
    (hsender : (run.state n).sender.done = true) : ∃ i, (run.state i).receiver.done = true := by
  by_contra hnever
  have hdone : ∀ i, (run.state i).receiver.done = false := fun i => by
    by_contra hi
    exact hnever ⟨i, by simpa using hi⟩
  have hexpires : ∀ i, ExpiresListed (run.state i) :=
    Machine.Run.invariant (fun hI hs => step_expires hI hs) fun _ _ pc => by cases pc
  have hpossible : ∀ i, run.Possible (fun _ a => a.isReceiver = true) i := fun i => by
    obtain ⟨a, t, hs⟩ := exists_receiverStep_of_not_done packets c (hexpires i) (hdone i)
    exact ⟨.receiver a, t, rfl, hs⟩
  -- The receiver reads `beginAt`, and the time for all results comes to an end.
  obtain ⟨m, b, hb⟩ : ∃ m b, (run.state m).receiver.BegunAt b := by
    obtain ⟨i, -, hreceiver⟩ := h.receiver 0 fun i _ => hpossible i
    have hs := run.step i
    cases ha : run.action i with
    | tick | sender => simp [ha, Action.isReceiver] at hreceiver
    | receiver a =>
      rw [ha] at hs
      obtain ⟨b, hb⟩ := (receiverStep_move hs).exists_begunAt
      exact ⟨i + 1, b, hb⟩
  obtain ⟨l, hl⟩ := h.clock (max b (b + c.expectedMaxTimeTaken * 1000))
  let k := max n (max m l)
  have hover : ∀ i, k ≤ i → (run.state i).timeOver c b := fun i hi =>
    Machine.Run.stays (I := State.timeOver c b) step_timeOver ⟨by omega, by omega⟩ (show l ≤ i by omega)
  have hbegun : ∀ i, k ≤ i → (run.state i).receiver.BegunAt b := fun i hi =>
    Machine.Run.stays (I := fun s : State => s.receiver.BegunAt b) step_begunAt hb (show m ≤ i by omega)
  have hsender : ∀ i, k ≤ i → (run.state i).sender.done = true := fun i hi => senderDone_stays hsender (by omega)
  -- From then on each of its steps brings it closer to its end.
  obtain ⟨e, he, hlast⟩ : ∃ e, k ≤ e ∧ ∀ i, e ≤ i → ¬(run.action i).isReceiver = true :=
    Machine.Run.exists_last (P := fun _ (a : Action) => a.isReceiver = true) State.receiverLeft
      (fun i hi => step_receiverLeft_le (hsender i hi) (hbegun i hi) (hover i hi) (run.step i))
      (fun i hi hreceiver => step_receiverLeft_lt hreceiver (hbegun i hi) (hover i hi) (run.step i))
  obtain ⟨i, hi, hreceiver⟩ := h.receiver e fun i _ => hpossible i
  exact hlast i hi hreceiver

/-- `beginProbing` is left in every run in which its threads get their turns and time goes on, whatever is received and
    whatever fails; but with the largest `ttlEnd` it is left in no run in which `sendPackets` throws nothing. -/
theorem left_in_time (packets : Nat → Packet) (c : Call) (now : Int) (o : Object) (run : (machine packets c).Run (enter c now o)) :
    (c.ttlEnd.toNat + 1 < 2 ^ 32 → Live run → ∃ n, ∀ i, n ≤ i → (run.state i).left = true) ∧
    (c.ttlEnd.toNat + 1 = 2 ^ 32 → (∀ i e, (run.state i).sender ≠ .threw e) → ∀ i, (run.state i).left = false) := by
  refine ⟨fun hend hlive => ?_, fun hend hthrows i => ?_⟩
  · obtain ⟨n, hn⟩ := hlive.fair.terminates hend
    obtain ⟨m, hm⟩ := hlive.receiverDone hn
    refine ⟨max n m, fun i hi => ?_⟩
    rw [State.left, senderDone_stays hn (by omega), receiverDone_stays hm (by omega)]
    rfl
  · have hunfinished : (run.state i).sender ≠ .finished :=
      Machine.Run.invariant (I := fun s : State => s.sender ≠ .finished) (fun hI hs => step_unfinished hend hI hs)
        (fun pc => by cases pc) i
    have hnotDone : (run.state i).sender.done = false := by
      cases pc : (run.state i).sender with
      | finished => exact absurd pc hunfinished
      | threw e => exact absurd pc (hthrows i e)
      | _ => rfl
    simp [State.left, hnotDone]

theorem iterate_tick (t : State) (n : Nat) :
    (fun s : State => { s with now := s.now + (1 : Nat) })^[n] t = { t with now := t.now + n } := by
  induction n generalizing t with
  | zero => simp
  | succ n ih =>
    rw [Function.iterate_succ_apply, ih]
    simp only [State.mk.injEq, and_true]
    omega

/-- Two of four probes are answered and two expire; then only time goes on. -/
theorem left_in_time_mixed : ∃ run : (machine bySize twoByTwo).Run (enter twoByTwo 0 (.fresh 0 fun _ => 0)),
    (run.state 48).recorded.length = 4 ∧ ∃ n, ∀ i, n ≤ i → (run.state i).left = true := by
  obtain ⟨t, ht, hend⟩ := Option.map_eq_some_iff.mp (show ((machine bySize twoByTwo).exec
    (enter twoByTwo 0 (.fresh 0 fun _ => 0)) (mixedRun ++ .receiver .sweep :: finishProbing)).map
      (fun t => (t.sender.done, t.receiver.done, t.now)) = some (true, true, 1004000) from rfl)
  simp only [Prod.mk.injEq] at hend
  obtain ⟨hsender, hreceiver, hnow⟩ := hend
  let run := Machine.Run.prolong (M := machine bySize twoByTwo) (.tick 1) (fun s => rfl) ht
  have hlate : ∀ n, run.state (51 + n) = { t with now := t.now + n } := fun n =>
    (Machine.Run.prolonged_length_add ht n).trans (iterate_tick t n)
  refine ⟨run, rfl, (left_in_time bySize twoByTwo 0 (.fresh 0 fun _ => 0) run).1 (by decide) ⟨fun hagain => ?_,
    fun n hpossible => ?_, fun time => ⟨51 + time.toNat, ?_⟩⟩⟩
  · -- Done threads take no steps, so both have had their turns.
    obtain ⟨i, hi, a, u, ha, hs⟩ := hagain 51
    obtain ⟨j, rfl⟩ := Nat.exists_eq_add_of_le hi
    rw [hlate] at hs
    rw [(step_senderDone (show ({ t with now := t.now + j } : State).sender.done = true from hsender) hs).2] at ha
    cases ha
  · obtain ⟨a, u, ha, hs⟩ := hpossible (51 + n) (by omega)
    rw [hlate] at hs
    rw [(step_receiverDone (show ({ t with now := t.now + n } : State).receiver.done = true from hreceiver) hs).2] at ha
    cases ha
  · rw [hlate]
    show time ≤ t.now + time.toNat
    omega

end Traceroute.Fast
