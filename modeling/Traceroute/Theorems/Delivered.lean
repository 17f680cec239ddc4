import Mathlib.Data.List.Flatten
import Traceroute.Theorems.Postprocessing
import Traceroute.Theorems.SequentialWired

/-! No answer is invented and none is counted twice: the datagrams that are credited to the probes are, in this order, some of
    those that `recvfrom` has delivered. -/

namespace Traceroute

variable {setup : Setup} {log : List Delivery}

/-! ### `tryReceiving` -/

/-- What `tryReceiving` makes of a datagram, and the buffer that it is left in. -/
def DataSender.response (sender : DataSender) (d : Delivery) : Option (ResponseInfo × Bytes) :=
  (sender.protocolOf d.fd).toOption.map fun protocol => (⟨d.client, protocol, d.size⟩, d.received)

/-- Those are the datagrams that it has returned. -/
def Setup.responses (setup : Setup) (log : List Delivery) : List (ResponseInfo × Bytes) := log.filterMap setup.sender.response

theorem Delivers.of_not_receives {call : SocketCall} {reply : call.Reply} {log' : List Delivery} (h : call.receives = false)
    (delivers : Delivers log call reply log') : log' = log := by
  cases delivers with
  | recvfrom | recvfromFails => cases h
  | other => rfl

/-- It returns a datagram when it has been delivered one, and that one. -/
theorem DataSender.receiving_ensures (sender : DataSender) (strerror : Int → String) (buffer : Bytes) (bufferSize : Nat)
    (timeout : Int) : (sender.receiving strerror buffer bufferSize timeout).Ensures Delivers (log <+: ·)
      (fun r log' => ∀ respInfo, r.1 = .ok (some respInfo) → ∃ d, log' = log ++ [d] ∧ sender.response d = some (respInfo, r.2))
      log := by
  have hpoll : (PollAny strerror sender.mReceivingSockets POLLIN timeout).run.Ensures Delivers (log <+: ·)
      (fun _ log' => True ∧ log' = log) log :=
    Script.ensures_of_makes (fun h delivers => delivers.of_not_receives h) (makes_pollAny (fun _ _ => rfl) _ _)
      (Script.ends_of_forall fun _ => trivial) (List.prefix_refl _)
  unfold receiving
  refine Script.ensures_bind (hpoll.mono_now (fun _ => id) fun r log' hnow hr => ?_)
  obtain ⟨-, rfl⟩ := hr
  rcases r with e | _ | fd
  · exact Script.ensures_done hnow fun respInfo h => by cases h
  · exact Script.ensures_done hnow fun respInfo h => by cases h
  · refine Script.ensures_bind ⟨hnow, fun reply log'' delivers => ?_⟩
    cases delivers with
    | recvfrom =>
      refine ⟨List.prefix_append _ _, Script.ensures_done (List.prefix_append _ _) fun respInfo h => ⟨_, rfl, ?_⟩⟩
      simp only at h
      rw [response]
      cases hprotocol : sender.protocolOf fd with
      | error e =>
        rw [hprotocol] at h
        cases h
      | ok protocol =>
        rw [hprotocol] at h
        cases h
        rfl
    | recvfromFails => exact ⟨hnow, Script.ensures_done hnow fun respInfo h => by cases h⟩
    | other h => cases h

/-- What a `tryReceiving` call of an engine does: at most one more datagram is there to be credited, the one that it returns. -/
theorem receive_ensures {α : Type} (ret : Except Exception (Option ResponseInfo) × Bytes → α)
    {credited : List (ResponseInfo × Bytes)} {buffer : Bytes} {timeout : Int} {Q : α → List Delivery → Prop}
    (h : credited.Sublist (setup.responses log))
    (received : ∀ respInfo buffer' log', (credited ++ [(respInfo, buffer')]).Sublist (setup.responses log') →
      Q (ret (.ok (some respInfo), buffer')) log')
    (nothing : ∀ outcome buffer' log', (∀ respInfo, outcome ≠ .ok (some respInfo)) → credited.Sublist (setup.responses log') →
      Q (ret (outcome, buffer')) log') :
    (do return ret (← setup.receive buffer timeout) : SocketScript α).Ensures Delivers
      (fun log' => credited.Sublist (setup.responses log')) Q log := by
  have hnow : ∀ log', log <+: log' → credited.Sublist (setup.responses log') := fun log' hlog =>
    h.trans (hlog.filterMap _).sublist
  refine Script.ensures_bind ((setup.sender.receiving_ensures setup.strerror buffer BufferSize (millisecondsCast timeout)).mono_now
    hnow fun r log' hlog hr => Script.ensures_done (hnow log' hlog) ?_)
  rcases r with ⟨outcome, buffer'⟩
  by_cases houtcome : ∃ respInfo, outcome = .ok (some respInfo)
  · obtain ⟨respInfo, rfl⟩ := houtcome
    obtain ⟨d, rfl, hd⟩ := hr respInfo rfl
    refine received respInfo buffer' _ ?_
    rw [Setup.responses, List.filterMap_append, List.filterMap_cons, hd]
    exact h.append (List.Sublist.refl _)
  · exact nothing outcome buffer' log' (fun respInfo heq => houtcome ⟨respInfo, heq⟩) (hnow log' hlog)

theorem DataSender.makes_trySending (sender : DataSender) (strerror : Int → String) (packet : ProbePacket) (ttl timeout : Int) :
    (sender.trySending strerror packet ttl timeout).run.Makes (·.receives = false) := by
  have hsetTtl : (sender.setTtl strerror ttl).run.Makes (·.receives = false) := by
    refine Script.makes_run_bind ⟨rfl, fun reply => trivial⟩ fun r => ?_
    rcases r with errno | ⟨⟩ <;> trivial
  have hpoll : (PollOne strerror sender.mSendingSocket POLLOUT timeout).run.Makes (·.receives = false) := by
    refine Script.makes_run_bind ⟨rfl, fun reply => trivial⟩ fun r => ?_
    rcases r with errno | ⟨result, pollfds⟩ <;> trivial
  unfold trySending
  refine Script.makes_run_bind hsetTtl fun _ => ?_
  by_cases hfamily : sender.mFamily ≠ packet.getDestinationAddress.family
  · simp only [if_pos hfamily]
    trivial
  simp only [if_neg hfamily]
  refine Script.makes_run_bind hpoll fun ready => ?_
  cases ready with
  | false => trivial
  | true =>
    refine Script.makes_run_bind ⟨rfl, fun reply => trivial⟩ fun r => ?_
    rcases r with errno | result <;> trivial

/-- `trySending` receives nothing. -/
theorem makes_send {α : Type} {ret : Except Exception Bool → α} (packet : Nat) (ttl : UInt32) :
    (do return ret (← setup.send packet ttl) : SocketScript α).Makes (·.receives = false) :=
  Script.makes_bind (DataSender.makes_trySending _ _ _ _ _) fun _ => trivial

theorem sublist_clients (log : List Delivery) : ((setup.responses log).map (·.1.client)).Sublist (log.map (·.client)) := by
  induction log with
  | nil => exact .slnil
  | cons d log ih =>
    rw [Setup.responses, List.filterMap_cons]
    cases hprotocol : setup.sender.protocolOf d.fd with
    | error e =>
      rw [DataSender.response, hprotocol]
      exact ih.cons _
    | ok protocol =>
      rw [DataSender.response, hprotocol]
      exact ih.cons_cons _

/-! ### Credit -/

/-- The credited datagrams and the pending one have been delivered, in this order. -/
def Setup.Delivered (setup : Setup) (credited pending : List (ResponseInfo × Bytes)) (log : List Delivery) : Prop :=
  (credited ++ pending).Sublist (setup.responses log)

theorem Setup.Delivered.credited {credits pending : List (ResponseInfo × Bytes)} (h : setup.Delivered credits pending log) :
    credits.Sublist (setup.responses log) := (List.sublist_append_left _ _).trans h

theorem Setup.delivered_of_credited {credits : List (ResponseInfo × Bytes)} (h : credits.Sublist (setup.responses log)) :
    setup.Delivered credits [] log := by
  rw [Setup.Delivered, List.append_nil]
  exact h

/-! ### `FastTraceroute` -/

namespace Fast

variable {c : Call} {s t : State} {packets : Nat → Packet}

/-- The datagram that is in the buffer and has yet to be matched. -/
def Receiver.pending (mBuffer : Bytes) : Receiver → List (ResponseInfo × Bytes)
  | .locking _ (some respInfo) | .matching _ (some respInfo) => [(respInfo, mBuffer)]
  | _ => []

/-- The datagrams that have been credited to probes, in the order in which they have. -/
def State.credited (s : State) : List (ResponseInfo × Bytes) := s.recorded.filterMap (·.answer)

/-- What the deliveries have to do with of a state. -/
def State.receiving (s : State) : Receiver × Bytes × List (ResponseInfo × Bytes) := (s.receiver, s.mBuffer, s.credited)

theorem ReceiverMove.delivered {a : ReceiverAction} (m : ReceiverMove packets c s a t)
    (hcall : calls setup c s .receiveAndValidate = none)
    (h : setup.Delivered s.credited (s.receiver.pending s.mBuffer) log) :
    setup.Delivered t.credited (t.receiver.pending t.mBuffer) log := by
  have hcredited := h.credited
  cases m with
  | begin_ pc | call pc | leave pc | nothing pc | unmatched pc | matchThrows pc | keep pc | late pc | unlock pc | return_ pc
  | postprocessThrows pc => exact setup.delivered_of_credited hcredited
  | @lock beginAt respInfo pc =>
    rw [pc] at h
    cases respInfo <;> exact h
  | matched pc found at_ =>
    rw [pc] at h
    refine setup.delivered_of_credited ?_
    simpa [State.credited, State.record, Receiver.pending, Setup.Delivered] using h
  | expired pc at_ =>
    refine setup.delivered_of_credited ?_
    simpa [State.credited, State.record] using hcredited
  | receive pc | receiveThrows pc => simp [calls, pc] at hcall

theorem SenderMove.receiving {a : SenderAction} (m : SenderMove c s a t) : t.receiving = s.receiving := by
  cases m <;> rfl

theorem guarantee_delivered (c : Call) : (wired setup c).Guarantee Delivers .receiveAndValidate State.receiving
    (fun v log => setup.Delivered v.2.2 (v.1.pending v.2.1) log) (fun v log => v.2.2.Sublist (setup.responses log)) where
  quiet {s t p} ht hscript := by
    cases t with
    | sendPackets =>
      simp only [wired, calls] at hscript
      split at hscript
      · cases hscript
        exact (makes_send _ _).mono fun call hreceives log reply log' delivers => delivers.of_not_receives hreceives
      · cases hscript
    | receiveAndValidate => exact absurd rfl ht
  others {s s' a t} hreturns ht hstep := by
    cases a with
    | tick d => cases hreturns
    | sender a => exact (senderStep_move hstep).receiving
    | receiver a =>
      cases a with
      | tryReceivingReturns outcome buffer =>
        cases hreturns
        exact absurd rfl ht
      | _ => cases hreturns
  own {s s' a} hstays hstep := by
    cases a with
    | tick d =>
      obtain rfl := Option.some.inj hstep
      exact Or.inl rfl
    | sender a => exact Or.inl (senderStep_move hstep).receiving
    | receiver a =>
      have m := receiverStep_move hstep
      have hcall : calls setup c s .receiveAndValidate = none := by
        cases m with
        | receive | receiveThrows => cases hstays
        | begin_ pc | call pc | leave pc | lock pc | nothing pc | unmatched pc | matchThrows pc | matched pc | keep pc | late pc
        | unlock pc | expired pc | return_ pc | postprocessThrows pc => simp [calls, pc]
      exact Or.inr ⟨hcall, fun log h => m.delivered hcall h⟩
  visible {s s'} hview hnone := by
    have hreceiver : s'.receiver = s.receiver := congrArg Prod.fst hview
    cases pc : s.receiver with
    | receiving => simp [wired, calls, hreceiver, pc] at hnone
    | _ => simp [wired, calls, pc]
  call {s p log} hscript h := by
    simp only [wired, calls] at hscript
    split at hscript
    · next beginAt calledAt pc =>
      cases hscript
      -- The sender may have moved on meanwhile, but the receiver stands where it stood.
      have hreturns : ∀ {outcome buffer s' s''}, State.receiving s' = s.receiving →
          (machine setup.packets c).step s' (.receiver (.tryReceivingReturns outcome buffer)) = some s'' →
          ReceiverMove setup.packets c s' (.tryReceivingReturns outcome buffer) s'' ∧ s'.credited = s.credited :=
        fun {outcome buffer s' s''} hview hstep => ⟨receiverStep_move hstep, congrArg (·.2.2) hview⟩
      refine receive_ensures (fun r => Action.receiver (.tryReceivingReturns r.1 r.2)) h.credited ?_ ?_
      · intro respInfo buffer log' hlog s' s'' hview hstep
        obtain ⟨m, hcredited⟩ := hreturns hview hstep
        cases m with
        | receive pc' =>
          show (s'.credited ++ [(respInfo, buffer)]).Sublist _
          rw [hcredited]
          exact hlog
      · intro outcome buffer log' hne hlog s' s'' hview hstep
        obtain ⟨m, hcredited⟩ := hreturns hview hstep
        have hlog' : s'.credited.Sublist (setup.responses log') := hcredited ▸ hlog
        cases m with
        | @receive _ _ respInfo _ pc' =>
          cases respInfo with
          | none => exact setup.delivered_of_credited hlog'
          | some respInfo => exact absurd rfl (hne respInfo)
        | receiveThrows pc' => exact setup.delivered_of_credited hlog'
    · cases hscript

/-! ### What is returned -/

/-- What is recorded under different ttls are different records. -/
theorem subperm_flatMap_filter {α κ : Type} [DecidableEq κ] (key : α → κ) {ks : List κ} (h : ks.Nodup) (l : List α) :
    (ks.flatMap fun k => l.filter (key · == k)).Subperm l := by
  induction ks generalizing l with
  | nil => exact List.nil_subperm
  | cons k ks ih =>
    obtain ⟨hk, hks⟩ := List.nodup_cons.mp h
    -- The others are found among those whose key is not `k`.
    have hothers : (ks.flatMap fun k' => l.filter (key · == k')) =
        ks.flatMap fun k' => (l.filter (!key · == k)).filter (key · == k') := by
      refine List.flatMap_congr fun k' hk' => ?_
      rw [List.filter_filter]
      refine List.filter_congr fun x _ => ?_
      by_cases hx : key x = k'
      · have hne : k' ≠ k := fun heq => hk (heq ▸ hk')
        simp [hx, hne]
      · simp [hx]
    rw [List.flatMap_cons, hothers]
    exact ((List.Subperm.refl _).append (ih hks _)).trans (List.filter_append_perm (key · == k) l).subperm

theorem subperm_filterMap {α β : Type} {l l' : List α} (f : α → Option β) (h : l.Subperm l') :
    (l.filterMap f).Subperm (l'.filterMap f) := by
  obtain ⟨front, hperm, hsublist⟩ := h
  exact ⟨front.filterMap f, hperm.filterMap f, hsublist.filterMap f⟩

/-- The hosts in the map are those of the recorded results. -/
theorem Conserved.subperm {left : List PacketToValidate} (hc : Conserved left s) :
    (((entriesOf s.ttlToProbeResults).flatMap (·.probeResults)).filterMap (·.responseSender)).Subperm
      (s.recorded.filterMap (·.result.responseSender)) := by
  have hkeys : (s.ttlToProbeResults.entries.map (·.1)).Nodup :=
    (List.pairwise_map.mpr s.ttlToProbeResults.sorted).imp fun hlt heq => by
      subst heq
      exact absurd hlt (UInt32.lt_irrefl _)
  have hentries : (entriesOf s.ttlToProbeResults).flatMap (·.probeResults) =
      ((s.ttlToProbeResults.entries.map (·.1)).flatMap fun ttl => s.recorded.filter (·.probe.ttl == ttl)).map (·.result) := by
    rw [entriesOf, List.flatMap_map, List.flatMap_map, List.map_flatMap]
    exact List.flatMap_congr fun kv hkv => (hc.mem_entries.mp hkv).1
  rw [hentries, List.filterMap_map]
  exact subperm_filterMap _ (subperm_flatMap_filter _ hkeys _)

/-- A result has a host when it is credited with a datagram, and the datagram's. -/
theorem responseSenders_of_explained {l : List Record} (h : ∀ r ∈ l, r.Explained packets) :
    l.filterMap (·.result.responseSender) = (l.filterMap (·.answer)).map (·.1.client) := by
  rw [List.map_filterMap]
  refine List.filterMap_congr fun r hr => ?_
  cases h r hr with
  | unanswered | answered => rfl

/-- The datagrams that are credited to probes are some of those that have been delivered, in this order. -/
theorem answers_credited {now : Int} {o : Object} {as : List (Threaded.Action Action Thread SocketCall SocketCall.Reply)}
    {w : Threaded.State State Action Thread SocketCall SocketCall.Reply}
    (h : (wired setup c).composed.Within (Threaded.Env Delivers) (.idle (enter c now o)) [] as w log) :
    w.base.credited.Sublist (setup.responses log) := by
  have hstart : setup.Delivered (enter c now o).credited [] [] := setup.delivered_of_credited .slnil
  rcases (guarantee_delivered c).run hstart h with hbetween | hwithin
  · exact hbetween.credited
  · exact hwithin

/-- `FastTraceroute` on a `DataSender`, in whatever order the system calls of its threads take place: the datagrams that are
    credited to probes are some of those that `recvfrom` has delivered, in this order, so that no answer is invented and none
    is counted twice; and no host is in the results more often than datagrams of it have been delivered. -/
theorem answers_delivered (setup : Setup) (c : Call) (now : Int) (o : Object) {log : List Delivery}
    {as : List (Threaded.Action Action Thread SocketCall SocketCall.Reply)}
    {w : Threaded.State State Action Thread SocketCall SocketCall.Reply}
    (h : (wired setup c).composed.Within (Threaded.Env Delivers) (.idle (enter c now o)) [] as w log) :
    w.base.credited.Sublist (setup.responses log) ∧ ∀ results, w.base.receiver = .returned results →
      ((results.flatMap (·.probeResults)).filterMap (·.responseSender)).Subperm (log.map (·.client)) := by
  have hcredited := answers_credited h
  refine ⟨hcredited, fun results hreturned => ?_⟩
  obtain ⟨bs, hbs⟩ := Threaded.exec_refines (T := wired setup c) h.exec
  obtain ⟨n, rfl⟩ := exec_collected hbs (fun results hres => by cases hres) results hreturned
  have hexplained := responseSenders_of_explained (exec_explained hbs fun r hr => by cases hr)
  have hcollected : (List.flatMap (·.probeResults)
      (collectResults (setup.packets n).getDestinationAddress w.base.ttlToProbeResults)).Sublist
      ((entriesOf w.base.ttlToProbeResults).flatMap (·.probeResults)) := by
    rw [collectResults_eq_take]
    exact (List.take_sublist _ _).flatMap _
  refine ((hcollected.filterMap _).subperm.trans (exec_conserved hbs (.enter (o := o))).subperm).trans ?_
  rw [hexplained]
  exact (hcredited.map _).subperm.trans (sublist_clients log).subperm

/-- Of the three datagrams that are delivered, one is credited. -/
theorem answers_delivered_credited : ∃ as w log results,
    (wired echoSetup echoCall).composed.Within (Threaded.Env Delivers) (.idle (enter echoCall 0 (.fresh 0 fun _ => 0))) [] as w
      log ∧
    log.length = 3 ∧ w.base.receiver = .returned results ∧ w.base.credited.length = 1 ∧
    w.base.credited.Sublist (echoSetup.responses log) ∧
    ((results.flatMap (·.probeResults)).filterMap (·.responseSender)).Subperm (log.map (·.client)) := by
  obtain ⟨as, w, host', log, hrun, hreturned, -, hcredit, -, hlog⟩ := echo_run
  obtain ⟨hcredited, hresults⟩ := answers_delivered echoSetup echoCall 0 _ (Threaded.within_right hrun)
  exact ⟨as, w, log, _, Threaded.within_right hrun, hlog, hreturned, hcredit, hcredited, hresults _ hreturned⟩

end Fast

/-! ### `SequentialTraceroute` -/

namespace Sequential

variable {destination : Nat → SocketAddress} {c : Call} {s t : State}

/-- The datagram that is in the buffer and has yet to be judged or credited. -/
def Position.pending (mBuffer : Bytes) : Position → List (ResponseInfo × Bytes)
  | .validating _ respInfo | .waiting _ true (some respInfo) | .waited _ true (some respInfo) => [(respInfo, mBuffer)]
  | _ => []

def State.credited (s : State) : List (ResponseInfo × Bytes) := s.recorded.filterMap (·.answer)

/-- What the deliveries have to do with of a state. -/
def State.receiving (s : State) : Position × Bytes × List (ResponseInfo × Bytes) := (s.position, s.mBuffer, s.credited)

theorem Move.delivered {a : Action} (m : Move destination c s a t) (hcall : calls setup s () = none)
    (h : setup.Delivered s.credited (s.position.pending s.mBuffer) log) :
    setup.Delivered t.credited (t.position.pending t.mBuffer) log := by
  have hcredited := h.credited
  cases m with
  | tick d => exact h
  | enterTtl pc | return_ pc | create pc | createThrows pc | send pc | begin_ pc | call pc | break_ pc | nextTtl pc =>
    exact setup.delivered_of_credited hcredited
  | @stop a v r pc =>
    rw [pc] at h
    cases v <;> cases r <;> exact h
  | success pc =>
    rw [pc] at h
    refine setup.delivered_of_credited ?_
    simpa [State.credited, State.record, Position.pending, Setup.Delivered] using h
  | failure pc =>
    refine setup.delivered_of_credited ?_
    simpa [State.credited, State.record] using hcredited
  | sent pc | notSent pc | sendThrows pc | nothing pc | receive pc | receiveThrows pc | validate pc | validateThrows pc =>
    simp [calls, pc] at hcall

/-- Returns of calls that receive nothing. -/
def receivesNothing : Action → Bool
  | .trySendingReturns _ | .isValid _ => true
  | _ => false

theorem Move.delivered_receivesNothing {a : Action} (m : Move destination c s a t) (hnothing : receivesNothing a = true)
    (h : setup.Delivered s.credited (s.position.pending s.mBuffer) log) :
    setup.Delivered t.credited (t.position.pending t.mBuffer) log := by
  have hcredited := h.credited
  cases m with
  | sent pc | notSent pc | sendThrows pc | validateThrows pc => exact setup.delivered_of_credited hcredited
  | @validate a respInfo v pc =>
    rw [pc] at h
    cases v with
    | false => exact setup.delivered_of_credited hcredited
    | true => exact h
  | _ => cases hnothing

theorem receivesNothing_ensures {p : SocketScript Action} (h : setup.Delivered s.credited (s.position.pending s.mBuffer) log)
    (hmakes : p.Makes (·.receives = false)) (hends : p.Ends (receivesNothing · = true)) :
    p.Ensures Delivers (fun log => s.credited.Sublist (setup.responses log))
      (fun a log' => ∀ s' s'', State.receiving s' = s.receiving → (machine destination c).step s' a = some s'' →
        setup.Delivered s''.credited (s''.position.pending s''.mBuffer) log') log := by
  refine (Script.ensures_of_makes (J := fun log => s.credited.Sublist (setup.responses log))
    (fun hreceives delivers => delivers.of_not_receives hreceives) hmakes hends h.credited).mono (fun _ => id)
    fun a log' hlog s' s'' hview hstep => ?_
  obtain ⟨hnothing, rfl⟩ := hlog
  obtain ⟨hposition, hbuffer, hcredited⟩ : s'.position = s.position ∧ s'.mBuffer = s.mBuffer ∧ s'.credited = s.credited := by
    simpa [State.receiving] using hview
  refine (step_move hstep).delivered_receivesNothing hnothing ?_
  rw [hposition, hbuffer, hcredited]
  exact h

theorem guarantee_delivered (c : Call) : (wired setup c).Guarantee Delivers () State.receiving
    (fun v log => setup.Delivered v.2.2 (v.1.pending v.2.1) log) (fun v log => v.2.2.Sublist (setup.responses log)) where
  quiet {s t p} ht _ := absurd rfl ht
  others {s s' a t} _ ht _ := absurd rfl ht
  own {s s' a} hstays hstep := by
    have m := step_move hstep
    cases hcall : calls setup s () with
    | none => exact Or.inr ⟨hcall, fun log h => m.delivered hcall h⟩
    | some p =>
      -- At a call nothing but time goes on.
      refine Or.inl ?_
      cases m with
      | tick d => rfl
      | sent pc | notSent pc | sendThrows pc | nothing pc | receive pc | receiveThrows pc | validate pc | validateThrows pc =>
        cases hstays
      | enterTtl pc | return_ pc | create pc | createThrows pc | send pc | begin_ pc | stop pc | call pc | success pc
      | failure pc | break_ pc | nextTtl pc => simp [calls, pc] at hcall
  visible {s s'} hview hnone := by
    have hposition : s'.position = s.position := congrArg Prod.fst hview
    cases pc : s.position with
    | sending | receiving | validating => simp [wired, calls, hposition, pc] at hnone
    | _ => simp [wired, calls, pc]
  call {s p log} hscript h := by
    simp only [wired, calls] at hscript
    split at hscript
    · cases hscript
      exact receivesNothing_ensures h (makes_send _ _) (Script.ends_bind fun r => rfl)
    · next a timeLeft calledAt pc =>
      cases hscript
      refine receive_ensures (fun r => Action.tryReceivingReturns r.1 r.2) h.credited ?_ ?_
      · intro respInfo buffer log' hlog s' s'' hview hstep
        have hcredited : s'.credited = s.credited := congrArg (·.2.2) hview
        cases step_move hstep with
        | receive pc' =>
          show (s'.credited ++ [(respInfo, buffer)]).Sublist _
          rw [hcredited]
          exact hlog
      · intro outcome buffer log' hne hlog s' s'' hview hstep
        have hcredited : s'.credited = s.credited := congrArg (·.2.2) hview
        have hlog' : s'.credited.Sublist (setup.responses log') := hcredited ▸ hlog
        cases step_move hstep with
        | receive pc' => exact absurd rfl (hne _)
        | nothing pc' | receiveThrows pc' => exact setup.delivered_of_credited hlog'
    · cases hscript
      exact receivesNothing_ensures h trivial rfl
    · cases hscript

/-! ### What is returned -/

/-- The results of the ttls that are done, and of the one in progress, are the recorded ones. -/
def Gathered (s : State) : Prop :=
  match s.position with
  | .ttlLoop _ => s.probes.flatMap (·.probeResults) = s.recorded.map (·.result)
  | .returned probes => probes.flatMap (·.probeResults) = s.recorded.map (·.result)
  | .threw _ => True
  | _ => s.probes.flatMap (·.probeResults) ++ s.probeResults = s.recorded.map (·.result)

theorem Move.gathered {a : Action} (h : Gathered s) (m : Move destination c s a t) : Gathered t := by
  unfold Gathered at h
  cases m with
  | tick d => exact h
  | createThrows | notSent | sendThrows | receiveThrows | validateThrows => trivial
  | enterTtl pc =>
    simp only [pc] at h
    simpa only [Gathered, List.append_nil] using h
  | return_ pc | create pc | send pc | sent pc | begin_ pc | stop pc | call pc | nothing pc | receive pc | validate pc =>
    simp only [pc] at h
    exact h
  | success pc | failure pc =>
    simp only [pc] at h
    simp only [Gathered, State.record, List.map_append, ← h, List.append_assoc]
    rfl
  | break_ pc | nextTtl pc =>
    simp only [pc] at h
    simpa [Gathered] using h

/-- A result has a host when it is credited with a datagram, and the datagram's. -/
theorem responseSenders_of_explained {l : List Record} (h : ∀ r ∈ l, r.Explained c) :
    (l.map (·.result)).filterMap (·.responseSender) = (l.filterMap (·.answer)).map (·.1.client) := by
  rw [List.filterMap_map, List.map_filterMap]
  refine List.filterMap_congr fun r hr => ?_
  cases h r hr with
  | unanswered | answered => rfl

theorem answers_credited {now : Int} {created : Nat} {buffer : Bytes}
    {as : List (Threaded.Action Action Unit SocketCall SocketCall.Reply)}
    {w : Threaded.State State Action Unit SocketCall SocketCall.Reply}
    (h : (wired setup c).composed.Within (Threaded.Env Delivers) (.idle (enter c now created buffer)) [] as w log) :
    w.base.credited.Sublist (setup.responses log) := by
  have hstart : setup.Delivered (enter c now created buffer).credited [] [] := setup.delivered_of_credited .slnil
  rcases (guarantee_delivered c).run hstart h with hbetween | hwithin
  · exact hbetween.credited
  · exact hwithin

/-- `SequentialTraceroute` on a `DataSender`: the datagrams that are credited to probes are some of those that `recvfrom` has
    delivered, in this order, and so are the hosts in the results. -/
theorem answers_received (setup : Setup) (c : Call) (now : Int) (created : Nat) (buffer : Bytes) {log : List Delivery}
    {as : List (Threaded.Action Action Unit SocketCall SocketCall.Reply)}
    {w : Threaded.State State Action Unit SocketCall SocketCall.Reply}
    (h : (wired setup c).composed.Within (Threaded.Env Delivers) (.idle (enter c now created buffer)) [] as w log) :
    w.base.credited.Sublist (setup.responses log) ∧ ∀ probes, w.base.position = .returned probes →
      ((probes.flatMap (·.probeResults)).filterMap (·.responseSender)).Sublist (log.map (·.client)) := by
  have hcredited := answers_credited h
  refine ⟨hcredited, fun probes hreturned => ?_⟩
  obtain ⟨bs, hbs⟩ := Threaded.exec_refines (T := wired setup c) h.exec
  have hgathered : Gathered w.base :=
    Machine.exec_invariant (fun hu hv => (step_move hv).gathered hu) (show Gathered (enter c now created buffer) from rfl) hbs
  simp only [Gathered, hreturned] at hgathered
  rw [hgathered, responseSenders_of_explained (exec_explained hbs fun r hr => by cases hr)]
  exact (hcredited.map _).trans (sublist_clients log)

theorem answers_received_credited : ∃ as w log probes,
    (wired echoSetup echoCall).composed.Within (Threaded.Env Delivers) (.idle (enter echoCall 0 0 fun _ => 0)) [] as w log ∧
    log.length = 2 ∧ w.base.position = .returned probes ∧ w.base.credited.length = 1 ∧
    w.base.credited.Sublist (echoSetup.responses log) ∧
    ((probes.flatMap (·.probeResults)).filterMap (·.responseSender)).Sublist (log.map (·.client)) := by
  obtain ⟨as, w, host', log, hrun, hreturned, -, hcredit, -, hlog⟩ := echo_run
  obtain ⟨hcredited, hresults⟩ := answers_received echoSetup echoCall 0 0 _ (Threaded.within_right hrun)
  exact ⟨as, w, log, _, Threaded.within_right hrun, hlog, hreturned, hcredit, hcredited, hresults _ hreturned⟩

end Sequential
end Traceroute
