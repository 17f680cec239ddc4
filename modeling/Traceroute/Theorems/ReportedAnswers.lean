import Traceroute.Theorems.Attribution
import Traceroute.Theorems.Delivered

/-! What a reported success says about the wire, for ICMP and TCP probes: a datagram left with the ttl of the result as its
    hop limit, and a datagram was delivered that answers this one and no other. -/

namespace Traceroute

variable {f : PacketFactory} {setup : Setup} {stack : Stack}

/-- The response answers a datagram that has left with hop limit `ttl`, and none of the other probes. -/
structure AnswersDatagram (setup : Setup) (sent : List (UInt32 × Nat)) (host : Host) (ttl : UInt32) (packet : Nat)
    (respInfo : ResponseInfo) (p : Bytes) : Prop where
  departed : setup.probeDatagram (ttl, packet) ∈ host.datagrams
  accepted : (setup.packets packet).isValid respInfo p = .ok true
  only : ∀ x ∈ sent, x.2 ≠ packet → (setup.packets x.2).isValid respInfo p = .ok false

/-- Of differently marked probes the others refuse what one accepts. -/
theorem PacketFactory.Marked.refuses {probes : Nat → ProbePacket} {l : List Nat} (h : f.Marked probes l) (hf : ∀ g, f ≠ .udp g)
    {m n : Nat} (hm : m ∈ l) (hn : n ∈ l) (hne : n ≠ m) {respInfo : ResponseInfo} {p : Bytes}
    (accepted : (probes m).toPacket.isValid respInfo p = .ok true) : (probes n).toPacket.isValid respInfo p = .ok false := by
  have hapart := h.apart hf hm hn (Ne.symm hne) respInfo p
  cases hother : (probes n).toPacket.isValid respInfo p with
  | error e =>
    rw [(hapart.throws e).mpr hother] at accepted
    cases accepted
  | ok v =>
    cases v with
    | false => rfl
    | true => exact absurd hother (hapart.accepts accepted)

theorem answersDatagram {sent departed : List (UInt32 × Nat)} {before : List Outgoing} {host : Host} {ttl : UInt32} {packet : Nat}
    {respInfo : ResponseInfo} {p : Bytes} (hf : ∀ g, f ≠ .udp g) (hmarked : f.Marked setup.probes (sent.map (·.2)))
    (hdatagrams : host.datagrams = before ++ departed.map setup.probeDatagram) (hsent : departed ⊆ sent)
    (hdeparted : (ttl, packet) ∈ departed) (accepted : (setup.packets packet).isValid respInfo p = .ok true) :
    AnswersDatagram setup sent host ttl packet respInfo p where
  departed := by
    rw [hdatagrams]
    exact List.mem_append_right _ (List.mem_map_of_mem hdeparted)
  accepted := accepted
  only x hx hne := hmarked.refuses hf (List.mem_map.mpr ⟨_, hsent hdeparted, rfl⟩) (List.mem_map_of_mem hx) hne accepted

theorem DataSender.response_client {sender : DataSender} {d : Delivery} {x : ResponseInfo × Bytes}
    (h : sender.response d = some x) : x.1.client = d.client := by
  obtain ⟨protocol, -, rfl⟩ := Option.map_eq_some_iff.mp h
  rfl

/-- What is credited has been delivered. -/
theorem Setup.exists_delivery {credited : List (ResponseInfo × Bytes)} {log : List Delivery}
    (h : credited.Sublist (setup.responses log)) {x : ResponseInfo × Bytes} (hx : x ∈ credited) :
    ∃ d ∈ log, setup.sender.response d = some x :=
  List.mem_filterMap.mp (h.subset hx)

theorem Siblings.destination {probe probe' : ProbePacket} (h : Siblings probe probe') :
    probe.getDestinationAddress = probe'.getDestinationAddress := by
  cases h with
  | icmp h | tcp h | udp h => exact h

namespace Fast

/-- A result that is returned has been recorded under its ttl. -/
theorem recorded_of_returned {packets : Nat → Packet} {left : List PacketToValidate} {s : State}
    {results : List TracerouteResult} (hc : Conserved left s) (hcollected : Collected packets s)
    (hreturned : s.receiver = .returned results) {tr : TracerouteResult} (htr : tr ∈ results) {result : ProbeResult}
    (hresult : result ∈ tr.probeResults) :
    ∃ r ∈ s.recorded, r.result = result ∧ r.probe.ttl = tr.ttl := by
  obtain ⟨n, rfl⟩ := hcollected results hreturned
  have hentries := (hc.mem_entries.mp (mem_collectResults_iff.mp htr).1).1
  rw [hentries, State.resultsOf] at hresult
  obtain ⟨r, hr, rfl⟩ := List.mem_map.mp hresult
  obtain ⟨hr, httl⟩ := List.mem_filter.mp hr
  exact ⟨r, hr, rfl, by simpa using httl⟩

/-- `FastTraceroute` on a `DataSender`, in whatever order the system calls of its threads take place: every success that it
    returns under a ttl has been credited with a datagram that `recvfrom` has delivered, and whose sender it reports; this
    one answers a datagram that has left with the ttl as its hop limit, and no other probe of the call. -/
theorem answers_reported (setup : Setup) (f : PacketFactory) (hf : ∀ g, f ≠ .udp g) (c : Call) (now : Int) (o : Object)
    (hempty : o.mPacketsToBeValidated = []) (stack : Stack)
    (hdomain : stack.domain setup.sender.mSendingSocket = setup.sender.mFamily) (hend : c.ttlEnd.toNat + 1 < 2 ^ 32)
    {host host' : Host} {log : List Delivery} {as : List (Threaded.Action Action Thread SocketCall SocketCall.Reply)}
    {w : Threaded.State State Action Thread SocketCall SocketCall.Reply}
    (h : (wired setup c).composed.Within (Threaded.Env (Threaded.Both stack.Effect Delivers)) (.idle (enter c now o)) (host, [])
      as w (host', log))
    (hmarked : f.Marked setup.probes (w.base.sent.map (·.2))) (results : List TracerouteResult)
    (hreturned : w.base.receiver = .returned results) :
    ∀ tr ∈ results, ∀ result ∈ tr.probeResults, result.success = true → ∃ r ∈ w.base.recorded, ∃ d ∈ log, ∃ respInfo p,
      r.result = result ∧ r.probe.ttl = tr.ttl ∧ r.answer = some (respInfo, p) ∧
      setup.sender.response d = some (respInfo, p) ∧ result.responseSender = some d.client ∧
      AnswersDatagram setup w.base.sent host' tr.ttl r.probe.packet respInfo p := by
  intro tr htr result hresult hsuccess
  obtain ⟨bs, hbs⟩ := Threaded.exec_refines (T := wired setup c) h.exec
  have hconserved : Conserved [] w.base := hempty ▸ exec_conserved hbs (.enter (o := o))
  obtain ⟨r, hr, rfl, httl⟩ := recorded_of_returned hconserved (exec_collected hbs fun results hres => by cases hres) hreturned
    htr hresult
  -- Its probe is registered, so its datagram has left.
  have hprobe : r.probe ∈ w.base.pushed := by
    have hmem : r.probe ∈ w.base.mPacketsToBeValidated ++ w.base.recorded.map (·.probe) :=
      List.mem_append_right _ (List.mem_map_of_mem hr)
    simpa using hconserved.perm.mem_iff.mpr hmem
  obtain ⟨departed, hemitted, hsent, hpushed, -⟩ := departed_of_wired hdomain (Threaded.within_left h)
  obtain ⟨hdatagrams, -⟩ := hemitted.probeDatagrams (lt_of_positions hend (exec_sends hend hbs).order hsent)
  have hdeparted : (tr.ttl, r.probe.packet) ∈ departed := httl ▸ hpushed.subset (List.mem_map_of_mem hprobe)
  cases exec_explained hbs (fun r hr => by cases hr) r hr with
  | unanswered => cases hsuccess
  | answered probe waitedFor respInfo p accepted =>
    obtain ⟨d, hd, hresponse⟩ := setup.exists_delivery (answers_credited (Threaded.within_right h))
      (List.mem_filterMap.mpr ⟨_, hr, rfl⟩)
    exact ⟨_, hr, d, hd, respInfo, p, rfl, httl, rfl, hresponse, congrArg some (DataSender.response_client hresponse),
      answersDatagram hf hmarked hdatagrams hsent.subset hdeparted accepted⟩

/-- The datagram that answers the probe of ttl 7 is the only one that is credited. -/
theorem answers_reported_answered : ∃ as w host' log,
    (wired echoSetup echoCall).composed.Within (Threaded.Env (Threaded.Both someStack.Effect Delivers))
      (.idle (enter echoCall 0 (.fresh 0 fun _ => 0))) (someHosting, []) as w (host', log) ∧
    ∃ r ∈ w.base.recorded, ∃ d ∈ log, ∃ respInfo p, r.answer = some (respInfo, p) ∧
      echoSetup.sender.response d = some (respInfo, p) ∧
      AnswersDatagram echoSetup w.base.sent host' 7 r.probe.packet respInfo p := by
  obtain ⟨as, w, host', log, hrun, hreturned, hsent, -⟩ := echo_run
  obtain ⟨r, hr, d, hd, respInfo, p, -, -, hanswer, hresponse, -, hanswers⟩ := answers_reported echoSetup
    (.icmp ⟨someHost, someHost⟩) (by simp) echoCall 0 (.fresh 0 fun _ => 0) rfl someStack rfl (by decide) hrun
    ⟨fun n _ => @PacketFactory.Makes.icmp _ _ n _ rfl, by rw [hsent]; decide⟩ _ hreturned ⟨7, [successProbe 0 someRouter]⟩
    (by simp) (successProbe 0 someRouter) (by simp) rfl
  exact ⟨as, w, host', log, hrun, r, hr, d, hd, respInfo, p, hanswer, hresponse, hanswers⟩

end Fast

namespace Sequential

/-- What `isValid` returns is what the packet that is asked returns. -/
theorem known_asksPacket (setup : Setup) (c : Call) : (wired setup c).Known (asksPacket setup.packets) where
  own {s a} hstays := by
    cases a with
    | isValid => cases hstays
    | _ => trivial
  call {s t p} hscript := by
    simp only [wired, calls] at hscript
    split at hscript
    · cases hscript
      exact Script.ends_bind fun r => trivial
    · cases hscript
      exact Script.ends_bind fun r => trivial
    · next pc =>
      cases hscript
      simp [Script.Ends, asksPacket, pc]
    · cases hscript
  keeps {s s' a t} hcall hstep hother := by
    have hstays : returnsTo a = none := by
      cases hreturns : returnsTo a with
      | none => rfl
      | some t' => exact absurd hreturns hother
    -- At a call nothing but time goes on.
    cases step_move hstep with
    | tick d => exact ⟨hcall, fun b _ hb => hb⟩
    | sent pc | notSent pc | sendThrows pc | nothing pc | receive pc | receiveThrows pc | validate pc | validateThrows pc =>
      cases hstays
    | enterTtl pc | return_ pc | create pc | createThrows pc | send pc | begin_ pc | stop pc | call pc | success pc
    | failure pc | break_ pc | nextTtl pc => simp [wired, calls, pc] at hcall

/-- A result that is returned has been recorded under its ttl. -/
theorem recorded_of_returned {c : Call} {target : SocketAddress} {s : State} {probes : List TracerouteResult}
    (h : Shaped c target s) (hreturned : s.position = .returned probes) {tr : TracerouteResult} (htr : tr ∈ probes)
    {result : ProbeResult} (hresult : result ∈ tr.probeResults) :
    ∃ r ∈ s.recorded, r.result = result ∧ r.attempt.ttl = tr.ttl := by
  simp only [Shaped, hreturned] at h
  rcases h with ⟨-, rfl, -⟩ | ⟨k, hk⟩
  · cases htr
  obtain ⟨i, hi, rfl⟩ := List.getElem_of_mem hresult
  have hplaced : ((tr.ttl.toNat, i), tr.probeResults[i]) ∈ s.recorded.map fun r => (r.attempt.place, r.result) := by
    rw [hk.order]
    exact List.mem_flatMap.mpr ⟨tr, htr, List.mem_mapIdx.mpr ⟨i, hi, rfl⟩⟩
  obtain ⟨r, hr, heq⟩ := List.mem_map.mp hplaced
  obtain ⟨hplace, hresult⟩ := Prod.mk.inj heq
  exact ⟨r, hr, hresult, UInt32.toNat_inj.mp (congrArg Prod.fst hplace)⟩

/-- `SequentialTraceroute` on a `DataSender`: every success that it returns under a ttl has been credited with a datagram that
    `recvfrom` has delivered, and whose sender it reports; this one answers a datagram that has left with the ttl as its hop
    limit, and no other probe of the call. -/
theorem answers_returned (setup : Setup) (f : PacketFactory) (hf : ∀ g, f ≠ .udp g) (hmade : ∀ n, f.Makes (setup.probes n))
    (c : Call) (now : Int) (created : Nat) (buffer : Bytes) (stack : Stack)
    (hdomain : stack.domain setup.sender.mSendingSocket = setup.sender.mFamily) (hend : c.ttlEnd.toNat + 1 < 2 ^ 32)
    {host host' : Host} {log : List Delivery} {as : List (Threaded.Action Action Unit SocketCall SocketCall.Reply)}
    {w : Threaded.State State Action Unit SocketCall SocketCall.Reply}
    (h : (wired setup c).composed.Within (Threaded.Env (Threaded.Both stack.Effect Delivers))
      (.idle (enter c now created buffer)) (host, []) as w (host', log))
    (hmarked : f.Marked setup.probes (w.base.sent.map (·.2))) (probes : List TracerouteResult)
    (hreturned : w.base.position = .returned probes) :
    ∀ tr ∈ probes, ∀ result ∈ tr.probeResults, result.success = true → ∃ r ∈ w.base.recorded, ∃ d ∈ log, ∃ respInfo p,
      r.result = result ∧ r.attempt.ttl = tr.ttl ∧ r.answer = some (respInfo, p) ∧
      setup.sender.response d = some (respInfo, p) ∧ result.responseSender = some d.client ∧
      AnswersDatagram setup w.base.sent host' tr.ttl r.attempt.packet respInfo p := by
  intro tr htr result hresult hsuccess
  obtain ⟨bs, hbs, hasks⟩ := Threaded.exec_refines_along (known_asksPacket setup c) (s := .idle (enter c now created buffer))
    (fun t p hp => by cases hp) h.exec
  have hdest : ∀ n, (setup.probes n).getDestinationAddress = (setup.probes 0).getDestinationAddress := fun n =>
    ((hmade n).siblings (hmade 0)).destination
  obtain ⟨r, hr, rfl, httl⟩ := recorded_of_returned (exec_shaped hend hdest .enter hbs) hreturned htr hresult
  have hcredited := exec_credited hbs hasks
  obtain ⟨departed, hemitted, hsent, hrecorded, -⟩ := departed_of_wired hdomain (Threaded.within_left h)
  obtain ⟨hdatagrams, -⟩ := hemitted.probeDatagrams (lt_of_positions hend (exec_sends hend hbs).order hsent)
  have hdeparted : (tr.ttl, r.attempt.packet) ∈ departed := httl ▸ hrecorded.subset (List.mem_map_of_mem hr)
  cases exec_explained hbs (fun r hr => by cases hr) r hr with
  | unanswered => cases hsuccess
  | answered attempt waitedFor respInfo p =>
    have accepted := hcredited.recorded _ hr respInfo p rfl
    obtain ⟨d, hd, hresponse⟩ := setup.exists_delivery (answers_credited (Threaded.within_right h))
      (List.mem_filterMap.mpr ⟨_, hr, rfl⟩)
    exact ⟨_, hr, d, hd, respInfo, p, rfl, httl, rfl, hresponse, congrArg some (DataSender.response_client hresponse),
      answersDatagram hf hmarked hdatagrams hsent.subset hdeparted accepted⟩

theorem answers_returned_answered : ∃ as w host' log,
    (wired echoSetup echoCall).composed.Within (Threaded.Env (Threaded.Both someStack.Effect Delivers))
      (.idle (enter echoCall 0 0 fun _ => 0)) (someHosting, []) as w (host', log) ∧
    ∃ r ∈ w.base.recorded, ∃ d ∈ log, ∃ respInfo p, r.answer = some (respInfo, p) ∧
      echoSetup.sender.response d = some (respInfo, p) ∧
      AnswersDatagram echoSetup w.base.sent host' 7 r.attempt.packet respInfo p := by
  obtain ⟨as, w, host', log, hrun, hreturned, hsent, -⟩ := echo_run
  obtain ⟨r, hr, d, hd, respInfo, p, -, -, hanswer, hresponse, -, hanswers⟩ := answers_returned echoSetup
    (.icmp ⟨someHost, someHost⟩) (by simp) (fun n => @PacketFactory.Makes.icmp _ _ n _ rfl) echoCall 0 0 (fun _ => 0) someStack
    rfl (by decide) hrun ⟨fun n _ => @PacketFactory.Makes.icmp _ _ n _ rfl, by rw [hsent]; decide⟩ _ hreturned
    ⟨7, [successProbe 0 someRouter]⟩ (by simp) (successProbe 0 someRouter) (by simp) rfl
  exact ⟨as, w, host', log, hrun, r, hr, d, hd, respInfo, p, hanswer, hresponse, hanswers⟩

end Sequential
end Traceroute
