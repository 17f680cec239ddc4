import Traceroute.Theorems.FastWired
import Traceroute.Theorems.SequentialOrder

/-! `SequentialTraceroute` on a `DataSender`: a probe leaves only when the result of the one before it is recorded. -/

namespace Traceroute.Sequential

variable {setup : Setup} {stack : Stack} {before : List Outgoing} {host : Host} {destination : Nat → SocketAddress} {c : Call}
  {s t : State}

/-! ### The wire -/

/-- What the wire has to do with of a state. -/
def State.sending (s : State) : Position × List (UInt32 × Nat) × List (UInt32 × Nat) :=
  (s.position, s.sent, s.recorded.map (·.key))

/-- Between two calls the probes handed to `trySending` are on the wire, but for one whose call has not begun or has
    failed; they are those that have a result, and at most one more. -/
def OnWire (setup : Setup) (stack : Stack) (before : List Outgoing) :
    Position × List (UInt32 × Nat) × List (UInt32 × Nat) → Host → Prop
  | (.sending ttl _ k, sent, recorded), host => sent = recorded ++ [(ttl, k)] ∧ Emitted setup stack before recorded host
  | (.threw _, sent, recorded), host => ∃ departed, recorded <+: departed ∧ departed <+: sent ∧
      sent.length ≤ recorded.length + 1 ∧ Emitted setup stack before departed host
  | (position, sent, recorded), host => sent = recorded ++ position.current ∧ Emitted setup stack before sent host

/-- In its call the probe may or may not be on the wire. -/
def InCall (setup : Setup) (stack : Stack) (before : List Outgoing)
    (v : Position × List (UInt32 × Nat) × List (UInt32 × Nat)) (host : Host) : Prop :=
  (∃ x, v.2.1 = v.2.2 ++ [x] ∧ Emitting setup stack before v.2.2 x host) ∨ OnWire setup stack before v host

theorem Move.onWire {a : Action} (m : Move destination c s a t) (hcall : calls setup s () = none)
    (h : OnWire setup stack before s.sending host) : OnWire setup stack before t.sending host := by
  cases m with
  | tick d => exact h
  | enterTtl pc | return_ pc | create pc | begin_ pc | stop pc | call pc | break_ pc | nextTtl pc =>
    simp only [State.sending, pc, OnWire] at h ⊢
    exact h
  | createThrows pc =>
    simp only [State.sending, pc, OnWire, Position.current, List.append_nil] at h ⊢
    exact ⟨_, List.prefix_refl _, h.1 ▸ List.prefix_refl _, by rw [h.1]; exact Nat.le_succ _, h.1 ▸ h.2⟩
  | send pc =>
    simp only [State.sending, pc, OnWire, Position.current, List.append_nil] at h ⊢
    exact ⟨by rw [h.1], h.1 ▸ h.2⟩
  | success pc | failure pc =>
    simp only [State.sending, pc, OnWire, Position.current, State.record, List.map_append, List.append_nil] at h ⊢
    exact ⟨h.1, h.2⟩
  | sent pc | notSent pc | sendThrows pc | nothing pc | receive pc | receiveThrows pc | validate pc | validateThrows pc =>
    simp [calls, pc] at hcall

/-- Returns of calls that leave the wire as it is. -/
def reads : Action → Bool
  | .tryReceivingReturns _ _ | .isValid _ => true
  | _ => false

theorem Move.onWire_reads {a : Action} (m : Move destination c s a t) (hreads : reads a = true)
    (h : OnWire setup stack before s.sending host) : OnWire setup stack before t.sending host := by
  cases m with
  | nothing pc | receive pc | validate pc =>
    simp only [State.sending, pc, OnWire] at h ⊢
    exact h
  | receiveThrows pc | validateThrows pc =>
    simp only [State.sending, pc, OnWire, Position.current] at h ⊢
    exact ⟨_, h.1 ▸ List.prefix_append _ _, List.prefix_refl _, by simp [h.1], h.2⟩
  | _ => cases hreads

/-- A call that leaves the wire as it is. -/
theorem reads_ensures {p : SocketScript Action} (h : OnWire setup stack before s.sending host)
    (hmakes : p.Makes (·.reads = true)) (hends : p.Ends (reads · = true)) :
    p.Ensures stack.Effect (InCall setup stack before s.sending)
      (fun a f => ∀ s' s'', State.sending s' = s.sending → (machine destination c).step s' a = some s'' →
        OnWire setup stack before s''.sending f) host := by
  refine (Script.ensures_of_makes (J := InCall setup stack before s.sending) (fun hreads effect => stack.effect_reads hreads effect)
    hmakes hends (Or.inr h)).mono (fun _ => id) fun a f hf s' s'' hview hstep => ?_
  obtain ⟨hreads, rfl⟩ := hf
  exact (step_move hstep).onWire_reads hreads (hview ▸ h)

theorem guarantee (hdomain : stack.domain setup.sender.mSendingSocket = setup.sender.mFamily) (c : Call) :
    (wired setup c).Guarantee stack.Effect () State.sending (OnWire setup stack before) (InCall setup stack before) where
  quiet {s t p} ht _ := absurd rfl ht
  others {s s' a t} _ ht _ := absurd rfl ht
  own {s s' a} hstays hstep := by
    have m := step_move hstep
    cases hcall : calls setup s () with
    | none => exact Or.inr ⟨hcall, fun host h => m.onWire hcall h⟩
    | some p =>
      -- At a call nothing but time goes on.
      refine Or.inl ?_
      cases m with
      | tick d => rfl
      | sent pc | notSent pc | sendThrows pc | nothing pc | receive pc | receiveThrows pc | validate pc | validateThrows pc =>
        cases hstays
      | enterTtl pc | return_ pc | create pc | createThrows pc | send pc | begin_ pc | stop pc | call pc | success pc
      | failure pc | break_ pc | nextTtl pc => simp [calls, pc] at hcall
  visible {s s'} hview hnone := by
    have hposition : s'.position = s.position := congrArg Prod.fst hview
    cases pc : s.position with
    | sending | receiving | validating => simp [wired, calls, hposition, pc] at hnone
    | _ => simp [wired, calls, pc]
  call {s p host} hscript h := by
    simp only [wired, calls] at hscript
    split at hscript
    · next ttl i packet pc =>
      cases hscript
      simp only [State.sending, pc, OnWire] at h
      obtain ⟨hsent, hemitted⟩ := h
      refine (send_ensures (fun outcome => Action.trySendingReturns outcome) hdomain hemitted ?_ ?_).mono
        (fun f hf => Or.inl ⟨_, hsent, hf⟩) fun _ _ => id
      · intro f hf s' s'' hview hstep
        obtain ⟨hposition, hsent', hrecorded⟩ : s'.position = s.position ∧ s'.sent = s.sent ∧
            s'.recorded.map (·.key) = s.recorded.map (·.key) := by simpa [State.sending] using hview
        cases step_move hstep with
        | sent pc' =>
          cases (hposition.trans pc).symm.trans pc'
          exact ⟨by rw [hsent', hrecorded, hsent]; rfl, by rw [hsent', hsent]; exact hf⟩
      · intro outcome f hne hf s' s'' hview hstep
        obtain ⟨hposition, hsent', hrecorded⟩ : s'.position = s.position ∧ s'.sent = s.sent ∧
            s'.recorded.map (·.key) = s.recorded.map (·.key) := by simpa [State.sending] using hview
        cases step_move hstep with
        | sent pc' => exact absurd rfl hne
        | notSent pc' | sendThrows pc' =>
          simp only [State.sending, OnWire, hsent', hrecorded, hsent]
          exact ⟨_, List.prefix_refl _, List.prefix_append _ _, by simp, hf⟩
    · cases hscript
      exact reads_ensures h (makes_receive _ _) (Script.ends_bind fun r => rfl)
    · cases hscript
      exact reads_ensures h trivial rfl
    · cases hscript

/-- The probes whose datagrams have left: all that have a result, and at most one more. -/
theorem departed_of_onWire (h : OnWire setup stack before s.sending host ∨ InCall setup stack before s.sending host) :
    ∃ departed, Emitted setup stack before departed host ∧ departed <+: s.sent ∧ s.recorded.map (·.key) <+: departed ∧
      departed.length ≤ s.recorded.length + 1 := by
  have hlength : (s.recorded.map (·.key)).length = s.recorded.length := List.length_map _
  rw [InCall, or_left_comm, or_self] at h
  rcases h with ⟨x, hsent, hrecorded | hall⟩ | h
  · exact ⟨_, hrecorded, (show s.sent = _ from hsent) ▸ List.prefix_append _ _, List.prefix_refl _, by
      rw [show s.sending.2.2.length = s.recorded.length from hlength]
      exact Nat.le_succ _⟩
  · exact ⟨_, hall, (show s.sent = _ from hsent) ▸ List.prefix_refl _, List.prefix_append _ _, by
      rw [List.length_append, show s.sending.2.2.length = s.recorded.length from hlength]
      exact Nat.le_refl _⟩
  · have handed : s.sent = s.recorded.map (·.key) ++ s.position.current → s.position.current.length ≤ 1 →
        Emitted setup stack before s.sent host → ∃ departed, Emitted setup stack before departed host ∧ departed <+: s.sent ∧
          s.recorded.map (·.key) <+: departed ∧ departed.length ≤ s.recorded.length + 1 := fun hsent hcurrent hemitted =>
      ⟨_, hemitted, List.prefix_refl _, hsent ▸ List.prefix_append _ _, by
        rw [hsent, List.length_append, hlength]
        omega⟩
    cases pc : s.position with
    | sending ttl i k =>
      simp only [State.sending, pc, OnWire] at h
      exact ⟨_, h.2, h.1 ▸ List.prefix_append _ _, List.prefix_refl _, by omega⟩
    | threw e =>
      simp only [State.sending, pc, OnWire] at h
      obtain ⟨departed, hrecorded, hsent, hcount, hemitted⟩ := h
      exact ⟨departed, hemitted, hsent, hrecorded, by
        have := hsent.length_le
        omega⟩
    | _ =>
      simp only [State.sending, pc, OnWire] at h
      exact handed (pc ▸ h.1) (by simp [pc, Position.current]) h.2

/-! ### Runs -/

theorem departed_of_wired {now : Int} {created : Nat} {buffer : Bytes} {host' : Host}
    {as : List (Threaded.Action Action Unit SocketCall SocketCall.Reply)}
    {w : Threaded.State State Action Unit SocketCall SocketCall.Reply}
    (hdomain : stack.domain setup.sender.mSendingSocket = setup.sender.mFamily)
    (h : (wired setup c).composed.Within (Threaded.Env stack.Effect) (.idle (enter c now created buffer)) host as w host') :
    ∃ departed, Emitted setup stack host.datagrams departed host' ∧ departed <+: w.base.sent ∧
      w.base.recorded.map (·.key) <+: departed ∧ departed.length ≤ w.base.recorded.length + 1 := by
  have hstart : OnWire setup stack host.datagrams (enter c now created buffer).sending host :=
    ⟨rfl, (List.append_nil _).symm, fun x hx => by cases hx⟩
  exact departed_of_onWire ((guarantee hdomain c).run hstart h)

/-- Whatever the host answers: the datagrams that have left are those of the first probes of the loops, in their order and
    each once, with their ttl as the hop limit; a probe has left only when the ones before it have their results. -/
theorem datagrams_in_turn (setup : Setup) (c : Call) (now : Int) (created : Nat) (buffer : Bytes) (stack : Stack)
    (hdomain : stack.domain setup.sender.mSendingSocket = setup.sender.mFamily) (hend : c.ttlEnd.toNat + 1 < 2 ^ 32)
    {host host' : Host} {as : List (Threaded.Action Action Unit SocketCall SocketCall.Reply)}
    {w : Threaded.State State Action Unit SocketCall SocketCall.Reply}
    (h : (wired setup c).composed.Within (Threaded.Env stack.Effect) (.idle (enter c now created buffer)) host as w host') :
    ∃ departed : List (UInt32 × Nat),
      host'.datagrams = host.datagrams ++ departed.map setup.probeDatagram ∧
      (∀ x ∈ departed, x.1.toNat ≤ 255) ∧
      departed.map (·.1.toNat) <+: c.positions.map (·.1) ∧
      departed.Pairwise (·.2 < ·.2) ∧
      w.base.recorded.map (·.key) <+: departed ∧ departed.length ≤ w.base.recorded.length + 1 := by
  obtain ⟨bs, hbs⟩ := Threaded.exec_refines (T := wired setup c) h.exec
  have hsends := exec_sends hend hbs
  obtain ⟨departed, hemitted, hsent, hrecorded, hlength⟩ := departed_of_wired hdomain h
  obtain ⟨hdatagrams, hhops⟩ := hemitted.probeDatagrams (lt_of_positions hend hsends.order hsent)
  exact ⟨departed, hdatagrams, hhops, (hsent.map _).trans hsends.order, hsends.ascending.sublist hsent.sublist, hrecorded, hlength⟩

/-- The probe of ttl 7 is answered; then that of ttl 8 is sent, the same answer is received again, and the time is over. -/
theorem echo_run : ∃ as w host' log,
    (wired echoSetup echoCall).composed.Within (Threaded.Env (Threaded.Both someStack.Effect Delivers))
      (.idle (enter echoCall 0 0 fun _ => 0)) (someHosting, []) as w (host', log) ∧
    w.base.position = .returned [⟨7, [successProbe 0 someRouter]⟩, ⟨8, [failedProbe 1000]⟩] ∧
    w.base.sent = [(7, 0), (8, 1)] ∧ (w.base.recorded.filterMap (·.answer)).length = 1 ∧ host'.datagrams.length = 2 ∧
    log.length = 2 := by
  have hrun : (wired echoSetup echoCall).composed.Within (Threaded.Env (Threaded.Both someStack.Effect Delivers))
      (.idle (enter echoCall 0 0 fun _ => 0)) (someHosting, []) _ _ (_, _) :=
    .cons (a := .own .testTtl) rfl .own <| .cons (a := .own (.createPacket (.ok ()))) rfl .own <|
    .cons (a := .own .trySending) rfl .own <| .cons (a := .start ()) rfl .start <|
    .cons (a := .answer () granting) rfl (.answer rfl (.both (.setsockopt (by decide)) (.other rfl))) <|
    .cons (a := .answer () granting) rfl (.answer rfl (.both .poll (.other rfl))) <|
    .cons (a := .answer () granting) rfl (.answer rfl (.both .sendto (.other rfl))) <| .cons (a := .finish ()) rfl .finish <|
    .cons (a := .own .readSentAt) rfl .own <| .cons (a := .own .testLoop) rfl .own <| .cons (a := .start ()) rfl .start <|
    .cons (a := .answer () granting) rfl (.answer rfl (.both .poll (.other rfl))) <|
    .cons (a := .answer () granting) rfl (.answer rfl (.both .recvfrom .recvfrom)) <| .cons (a := .finish ()) rfl .finish <|
    .cons (a := .start ()) rfl .start <| .cons (a := .finish ()) rfl .finish <| .cons (a := .own .testLoop) rfl .own <|
    .cons (a := .own .pushProbeResult) rfl .own <| .cons (a := .own .pushProbe) rfl .own <|
    .cons (a := .own .testTtl) rfl .own <| .cons (a := .own (.createPacket (.ok ()))) rfl .own <|
    .cons (a := .own .trySending) rfl .own <| .cons (a := .start ()) rfl .start <|
    .cons (a := .answer () granting) rfl (.answer rfl (.both (.setsockopt (by decide)) (.other rfl))) <|
    .cons (a := .answer () granting) rfl (.answer rfl (.both .poll (.other rfl))) <|
    .cons (a := .answer () granting) rfl (.answer rfl (.both .sendto (.other rfl))) <| .cons (a := .finish ()) rfl .finish <|
    .cons (a := .own .readSentAt) rfl .own <| .cons (a := .own .testLoop) rfl .own <| .cons (a := .start ()) rfl .start <|
    .cons (a := .answer () granting) rfl (.answer rfl (.both .poll (.other rfl))) <|
    .cons (a := .answer () granting) rfl (.answer rfl (.both .recvfrom .recvfrom)) <| .cons (a := .finish ()) rfl .finish <|
    .cons (a := .start ()) rfl .start <| .cons (a := .finish ()) rfl .finish <| .cons (a := .own (.tick 1000000)) rfl .own <|
    .cons (a := .own .testLoop) rfl .own <| .cons (a := .own .pushProbeResult) rfl .own <|
    .cons (a := .own .pushProbe) rfl .own <| .cons (a := .own .testTtl) rfl .own .nil
  exact ⟨_, _, _, _, hrun, rfl, rfl, rfl, rfl, rfl⟩

theorem datagrams_in_turn_sent : ∃ as w host',
    (wired echoSetup echoCall).composed.Within (Threaded.Env someStack.Effect) (.idle (enter echoCall 0 0 fun _ => 0))
      someHosting as w host' ∧
    host'.datagrams.length = 2 ∧ ∃ departed : List (UInt32 × Nat),
      host'.datagrams = departed.map echoSetup.probeDatagram ∧ departed.map (·.1.toNat) <+: echoCall.positions.map (·.1) ∧
      departed.length ≤ w.base.recorded.length + 1 := by
  obtain ⟨as, w, host', log, hrun, -, -, -, hdatagrams, -⟩ := echo_run
  obtain ⟨departed, heq, -, horder, -, -, hlength⟩ := datagrams_in_turn echoSetup echoCall 0 0 _ someStack rfl (by decide)
    (Threaded.within_left hrun)
  exact ⟨as, w, host', Threaded.within_left hrun, hdatagrams, departed, heq, horder, hlength⟩

end Traceroute.Sequential
