import Traceroute.Theorems.FastReturns
import Traceroute.Theorems.SequentialNetwork
import Traceroute.Theorems.Answered

/-! The two engines in one network: both can always return, and what they return agrees exactly when the fast one does
    not miss its only probe. -/

namespace Traceroute

/-- A run in which every receive gets something misses no probe. -/
theorem Fast.along_of_answered {packets : Nat → Packet} {c : Call} {s : Fast.State} {as : List Fast.Action}
    (h : ∀ buffer, .receiver (.tryReceivingReturns (.ok none) buffer) ∉ as) :
    (Fast.machine packets c).Along (Fast.registeredInTime c) s as := by
  induction as generalizing s with
  | nil => trivial
  | cons a as ih =>
    refine ⟨?_, fun t _ => ih fun buffer hmem => h buffer (List.mem_cons_of_mem _ hmem)⟩
    unfold Fast.registeredInTime
    split
    · exact absurd List.mem_cons_self (h _)
    · trivial

/-- Of two runs that have returned, with objects of their own: the results agree exactly when in the run of the fast
    engine `tryReceiving` returns nothing for the only probe of a call only if that was registered at most nine
    microseconds after the receiver began. And each run can go on until it returns. -/
theorem engines_agree_iff {c : Call} (hc : c.Regular) (net : Network c.timeout) {packets packets' : Nat → Packet}
    {first first' : Nat} (replies : Replies c net packets first)
    (replies' : Replies c net packets' first') {target : SocketAddress}
    (hdest : ∀ n, (packets n).getDestinationAddress = target) (hdest' : ∀ n, (packets' n).getDestinationAddress = target)
    (now now' : Int) (buffer buffer' : Bytes) :
    (∀ as s flying, (Fast.machine packets c).Within (Fast.Env net replies.reply)
        (Fast.enter c now (.fresh first buffer)) [] as s flying →
      ∃ as' t rest results, (Fast.machine packets c).Within (Fast.Env net replies.reply) s flying as' t rest ∧
        t.sender = .finished ∧ t.receiver = .returned results) ∧
    (∀ as s flying, (Sequential.machine (fun n => (packets' n).getDestinationAddress) c).Within
        (Sequential.Env net packets' replies'.reply) (Sequential.enter c now' first' buffer') [] as s flying →
      ∃ as' t rest probes, (Sequential.machine (fun n => (packets' n).getDestinationAddress) c).Within
        (Sequential.Env net packets' replies'.reply) s flying as' t rest ∧ t.position = .returned probes) ∧
    ∀ as s flying results as' t rest probes,
      (Fast.machine packets c).Within (Fast.Env net replies.reply) (Fast.enter c now (.fresh first buffer)) [] as s flying →
      s.receiver = .returned results →
      (Sequential.machine (fun n => (packets' n).getDestinationAddress) c).Within (Sequential.Env net packets' replies'.reply)
        (Sequential.enter c now' first' buffer') [] as' t rest →
      t.position = .returned probes →
      (Agree results probes ↔
        (Fast.machine packets c).Along (Fast.registeredInTime c) (Fast.enter c now (.fresh first buffer)) as) := by
  refine ⟨fun as s flying hrun => ?_, fun as s flying hrun => ?_,
    fun as s flying results as' t rest probes hrun hreturned hrun' hreturned' => ⟨fun hagree => ?_, fun hP => ?_⟩⟩
  · have hs : Fast.InRun net replies.reply first now s flying :=
      hrun.invariant (fun h hs env => Fast.step_inRun hc h hs env) (.enter hc)
    obtain ⟨t, rest, results, ⟨as', hrun'⟩, hsender, hreturned⟩ := hs.returns packets hc
    exact ⟨as', t, rest, results, hrun', hsender, hreturned⟩
  · have hs : Sequential.InNetwork net replies'.reply first' target s flying :=
      hrun.invariant (fun h hs env => Sequential.step_inNetwork hc hdest' h hs env) .enter
    obtain ⟨as', t, rest, hrun', probes, hreturned⟩ := hs.returns hc hdest'
    exact ⟨as', t, rest, probes, hrun', hreturned⟩
  · have ht : Sequential.InNetwork net replies'.reply first' target t rest :=
      hrun'.invariant (fun h hs env => Sequential.step_inNetwork hc hdest' h hs env) .enter
    obtain ⟨k, hk⟩ := ht.portrays hc hreturned'
    refine Fast.along_registeredInTime hc hrun hreturned fun hnil => hk.ne_nil ?_
    exact List.eq_nil_of_length_eq_zero (hagree.length_eq ▸ congrArg List.length hnil)
  · have ht : Sequential.InNetwork net replies'.reply first' target t rest :=
      hrun'.invariant (fun h hs env => Sequential.step_inNetwork hc hdest' h hs env) .enter
    obtain ⟨k, hk⟩ := ht.portrays hc hreturned'
    obtain ⟨k', hk'⟩ := Fast.portrays_of_registeredInTime hc hdest hrun hreturned hP
    exact hk'.agree hk

theorem oneProbe_regular : Fast.oneProbe.Regular where
  range := by decide
  ends := by decide
  retries := by decide
  count := by decide
  timeout := ⟨by decide, by decide⟩
  fits := by decide

/-- Two ttls with one probe each. -/
def twoTtls : Call := ⟨1, 2, 1, 1000⟩

theorem twoTtls_regular : twoTtls.Regular where
  range := by decide
  ends := by decide
  retries := by decide
  count := by decide
  timeout := ⟨by decide, by decide⟩
  fits := by decide

def firstHop : SocketAddress := ⟨Vector.replicate 128 1⟩

/-- The hop answers after half a millisecond, the target after 300 microseconds. -/
def soonAnswered : Network twoTtls.timeout where
  answer position := some (if position.1 = 1 then ⟨firstHop, 500000⟩ else ⟨⟨Vector.replicate 128 0⟩, 300000⟩)
  inTime position a h := by
    obtain rfl := Option.some.inj h
    split <;> decide

/-- No probe is answered. -/
def silent : Network Fast.oneProbe.timeout where
  answer _ := none
  inTime _ _ h := by cases h

/-- The reply to packet `n` has size `n`. -/
def sizedReplies {c : Call} (hc : c.Regular) (net : Network c.timeout) : Replies c net Fast.bySize 0 where
  reply n host := (⟨host, 1, UInt64.ofNat n⟩, fun _ => 0)
  client _ _ := rfl
  accepted k _ _ hk _ m _ := by
    have hcount := hc.count
    have hlt : k < c.probeCount := length_positions (c := c) ▸ (List.getElem?_eq_some_iff.mp hk).1
    have hsize : (UInt64.ofNat (0 + k)).toNat = 0 + k := UInt64.toNat_ofNat_of_lt' (by show _ < 2 ^ 64; omega)
    simp only [Fast.bySize, hsize, Bool.beq_comm]

/-- The network answers in time: the receiver gets the answer of the second probe first. -/
theorem engines_agree_iff_soon : ∃ as s flying results as' t rest probes,
    (Fast.machine Fast.bySize twoTtls).Within (Fast.Env soonAnswered (sizedReplies twoTtls_regular soonAnswered).reply)
      (Fast.enter twoTtls 0 (.fresh 0 fun _ => 0)) [] as s flying ∧ s.receiver = .returned results ∧
    (Sequential.machine (fun n => (Fast.bySize n).getDestinationAddress) twoTtls).Within
      (Sequential.Env soonAnswered Fast.bySize (sizedReplies twoTtls_regular soonAnswered).reply)
      (Sequential.enter twoTtls 0 0 fun _ => 0) [] as' t rest ∧ t.position = .returned probes ∧
    results.length = 2 ∧ Agree results probes := by
  obtain ⟨-, -, hagree⟩ := engines_agree_iff twoTtls_regular soonAnswered (sizedReplies twoTtls_regular _)
    (sizedReplies twoTtls_regular _) (fun _ => rfl) (fun _ => rfl) 0 0 (fun _ => 0) fun _ => 0
  have hfast : ∃ s, (Fast.machine Fast.bySize twoTtls).Within
      (Fast.Env soonAnswered (sizedReplies twoTtls_regular soonAnswered).reply) (Fast.enter twoTtls 0 (.fresh 0 fun _ => 0)) []
      [.receiver .readBeginAt, .receiver .testLoop, .sender .testTtl, .sender (.createPacket (.ok ())), .sender .trySending,
        .sender (.trySendingReturns (.ok true)), .sender .pushBack, .sender .nextTtl, .sender .testTtl,
        .sender (.createPacket (.ok ())), .sender .trySending, .sender (.trySendingReturns (.ok true)), .sender .pushBack,
        .tick 300000, .receiver (.tryReceivingReturns (.ok (some ⟨⟨Vector.replicate 128 0⟩, 1, 1⟩)) fun _ => 0), .receiver .lock,
        .receiver .matchResponse, .receiver .sweep, .receiver .sweep, .receiver .testLoop, .tick 200000,
        .receiver (.tryReceivingReturns (.ok (some ⟨firstHop, 1, 0⟩)) fun _ => 0), .receiver .lock, .receiver .matchResponse,
        .receiver .sweep, .receiver .testLoop, .receiver (.postprocess (.ok ()))] s [] ∧
      s.receiver = .returned [⟨1, [successProbe 500 firstHop]⟩, ⟨2, [successProbe 300 ⟨Vector.replicate 128 0⟩]⟩] := by
    refine ⟨_, .cons rfl (.receiver (by simp)) <| .cons rfl (.receiver (by simp)) <| .cons rfl (.sender (by simp)) <|
      .cons rfl .create <| .cons rfl (.send rfl) <| .cons rfl .sent <| .cons rfl (.sender (by simp)) <|
      .cons rfl (.sender (by simp)) <| .cons rfl (.sender (by simp)) <|
      .cons rfl .create <| .cons rfl (.send rfl) <| .cons rfl .sent <| .cons rfl (.sender (by simp)) <|
      .cons rfl (.tick rfl rfl ⟨by decide, by decide⟩) <|
      .cons rfl (.receive rfl rfl (.datagram (List.Perm.swap _ _ []) (by decide) (by decide))) <|
      .cons rfl (.receiver (by simp)) <| .cons rfl (.receiver (by simp)) <| .cons rfl (.receiver (by simp)) <|
      .cons rfl (.receiver (by simp)) <| .cons rfl (.receiver (by simp)) <| .cons rfl (.tick rfl rfl ⟨by decide, by decide⟩) <|
      .cons rfl (.receive rfl rfl (.datagram (.refl _) (by decide) (by decide))) <|
      .cons rfl (.receiver (by simp)) <| .cons rfl (.receiver (by simp)) <| .cons rfl (.receiver (by simp)) <|
      .cons rfl (.receiver (by simp)) <| .cons rfl (.receiver (by simp)) .nil, rfl⟩
  have hsequential : ∃ t, (Sequential.machine (fun n => (Fast.bySize n).getDestinationAddress) twoTtls).Within
      (Sequential.Env soonAnswered Fast.bySize (sizedReplies twoTtls_regular soonAnswered).reply)
      (Sequential.enter twoTtls 0 0 fun _ => 0) []
      [.testTtl, .createPacket (.ok ()), .trySending, .trySendingReturns (.ok true), .readSentAt, .testLoop, .tick 500000,
        .tryReceivingReturns (.ok (some ⟨firstHop, 1, 0⟩)) fun _ => 0, .isValid (.ok true), .testLoop,
        .pushProbeResult, .pushProbe, .testTtl, .createPacket (.ok ()), .trySending, .trySendingReturns (.ok true), .readSentAt,
        .testLoop, .tick 300000, .tryReceivingReturns (.ok (some ⟨⟨Vector.replicate 128 0⟩, 1, 1⟩)) fun _ => 0,
        .isValid (.ok true), .testLoop, .pushProbeResult, .pushProbe] t [] ∧
      t.position = .returned [⟨1, [successProbe 500 firstHop]⟩, ⟨2, [successProbe 300 ⟨Vector.replicate 128 0⟩]⟩] := by
    refine ⟨_, .cons rfl (.loop (by simp)) <| .cons rfl .create <| .cons rfl (.send rfl) <| .cons rfl .sent <|
      .cons rfl (.loop (by simp)) <| .cons rfl (.loop (by simp)) <| .cons rfl (.tick rfl ⟨by decide, by decide⟩) <|
      .cons rfl (.receive rfl (.datagram (.refl _) (by decide) (by decide))) <| .cons rfl (.validate rfl) <|
      .cons rfl (.loop (by simp)) <| .cons rfl (.loop (by simp)) <| .cons rfl (.loop (by simp)) <|
      .cons rfl (.loop (by simp)) <| .cons rfl .create <| .cons rfl (.send rfl) <| .cons rfl .sent <|
      .cons rfl (.loop (by simp)) <| .cons rfl (.loop (by simp)) <| .cons rfl (.tick rfl ⟨by decide, by decide⟩) <|
      .cons rfl (.receive rfl (.datagram (.refl _) (by decide) (by decide))) <| .cons rfl (.validate rfl) <|
      .cons rfl (.loop (by simp)) <| .cons rfl (.loop (by simp)) <| .cons rfl (.loop (by simp)) .nil, rfl⟩
  obtain ⟨s, hs, hreturned⟩ := hfast
  obtain ⟨t, ht, hreturned'⟩ := hsequential
  refine ⟨_, s, [], _, _, t, [], _, hs, hreturned, ht, hreturned', rfl,
    (hagree _ _ _ _ _ _ _ _ hs hreturned ht hreturned').mpr ?_⟩
  exact Fast.along_of_answered (by simp)

/-- The only probe is registered half a millisecond after the receiver began, within its first receive, and nothing
    answers: the fast engine reports nothing at all, the sequential one a failed probe. -/
theorem engines_disagree : Fast.oneProbe.Regular ∧ ∃ as s flying as' t rest,
    (Fast.machine Fast.bySize Fast.oneProbe).Within (Fast.Env silent (sizedReplies oneProbe_regular silent).reply)
      (Fast.enter Fast.oneProbe 0 (.fresh 0 fun _ => 0)) [] as s flying ∧ s.receiver = .returned [] ∧
    (Sequential.machine (fun n => (Fast.bySize n).getDestinationAddress) Fast.oneProbe).Within
      (Sequential.Env silent Fast.bySize (sizedReplies oneProbe_regular silent).reply)
      (Sequential.enter Fast.oneProbe 0 0 fun _ => 0) [] as' t rest ∧
    t.position = .returned [⟨1, [failedProbe 1000]⟩] ∧ ¬Agree [] [⟨1, [failedProbe 1000]⟩] := by
  have hfast : ∃ s, (Fast.machine Fast.bySize Fast.oneProbe).Within (Fast.Env silent (sizedReplies oneProbe_regular silent).reply)
      (Fast.enter Fast.oneProbe 0 (.fresh 0 fun _ => 0)) []
      [.receiver .readBeginAt, .receiver .testLoop, .sender .testTtl, .sender (.createPacket (.ok ())), .sender .trySending,
        .sender (.trySendingReturns (.ok true)), .tick 500000, .sender .pushBack, .tick 500000,
        .receiver (.tryReceivingReturns (.ok none) fun _ => 0), .receiver .lock, .receiver .matchResponse, .receiver .sweep,
        .receiver .sweep, .receiver .testLoop, .receiver (.postprocess (.ok ()))] s [] ∧ s.receiver = .returned [] :=
    ⟨_, .cons rfl (.receiver (by simp)) <| .cons rfl (.receiver (by simp)) <| .cons rfl (.sender (by simp)) <|
      .cons rfl .create <| .cons rfl (.send rfl) <| .cons rfl .sent <| .cons rfl (.tick rfl rfl ⟨by decide, by decide⟩) <|
      .cons rfl (.sender (by simp)) <| .cons rfl (.tick rfl rfl ⟨by decide, by decide⟩) <|
      .cons rfl (.receive rfl rfl (.nothing rfl (by decide))) <| .cons rfl (.receiver (by simp)) <|
      .cons rfl (.receiver (by simp)) <| .cons rfl (.receiver (by simp)) <| .cons rfl (.receiver (by simp)) <|
      .cons rfl (.receiver (by simp)) <| .cons rfl (.receiver (by simp)) .nil, rfl⟩
  have hsequential : ∃ t, (Sequential.machine (fun n => (Fast.bySize n).getDestinationAddress) Fast.oneProbe).Within
      (Sequential.Env silent Fast.bySize (sizedReplies oneProbe_regular silent).reply)
      (Sequential.enter Fast.oneProbe 0 0 fun _ => 0) []
      [.testTtl, .createPacket (.ok ()), .trySending, .trySendingReturns (.ok true), .readSentAt, .testLoop, .tick 1000000,
        .tryReceivingReturns (.ok none) fun _ => 0, .testLoop, .pushProbeResult, .pushProbe, .testTtl] t [] ∧
      t.position = .returned [⟨1, [failedProbe 1000]⟩] :=
    ⟨_, .cons rfl (.loop (by simp)) <| .cons rfl .create <| .cons rfl (.send rfl) <| .cons rfl .sent <|
      .cons rfl (.loop (by simp)) <| .cons rfl (.loop (by simp)) <| .cons rfl (.tick rfl ⟨by decide, by decide⟩) <|
      .cons rfl (.receive rfl (.nothing rfl (by decide))) <| .cons rfl (.loop (by simp)) <| .cons rfl (.loop (by simp)) <|
      .cons rfl (.loop (by simp)) <| .cons rfl (.loop (by simp)) .nil, rfl⟩
  obtain ⟨s, hs, hreturned⟩ := hfast
  obtain ⟨t, ht, hreturned'⟩ := hsequential
  exact ⟨oneProbe_regular, _, s, [], _, t, [], hs, hreturned, ht, hreturned', by simp [Agree]⟩

end Traceroute
