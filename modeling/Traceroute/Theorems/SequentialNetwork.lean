import Traceroute.Network
import Traceroute.Theorems.SequentialShape
import Traceroute.Theorems.FastNetwork

/-! `SequentialTraceroute` in a network: each probe is answered within its window or waits until its end, and what is
    recorded for it is what the network answers. -/

namespace Traceroute.Sequential

variable {c : Call} {net : Network c.timeout} {packets : Nat → Packet} {destination : Nat → SocketAddress}
  {target : SocketAddress} {s t : State} {flying rest : List Datagram} {first : Nat}
  {reply : Nat → SocketAddress → ResponseInfo × Bytes}

/-- What holds at each position of `beginProbing` in a network. -/
def Stands (net : Network c.timeout) (reply : Nat → SocketAddress → ResponseInfo × Bytes) (s : State)
    (flying : List Datagram) : Prop :=
  match s.position with
  | .ttlLoop _ | .retryLoop _ _ | .created _ _ _ | .returned _ => flying = []
  | .sending ttl i packet | .sent ttl i packet => flying = net.elicits (ttl.toNat, i.toNat) packet s.now
  | .waiting a false _ => (s.now = a.sentAt ∧ flying = net.elicits a.place a.packet a.sentAt) ∨
      (s.now = a.sentAt + c.timeout * 1000 ∧ flying = [] ∧ net.answer a.place = none)
  | .receiving a timeLeft calledAt => timeLeft = c.timeout ∧ calledAt = a.sentAt ∧
      flying = net.elicits a.place a.packet a.sentAt ∧ s.now ≤ a.sentAt + c.timeout * 1000 ∧
      ∀ g ∈ flying, s.now ≤ g.arrivesAt
  | .validating a respInfo => flying = [] ∧ ∃ answer, net.answer a.place = some answer ∧
      reply a.packet answer.host = (respInfo, s.mBuffer)
  | .waiting a true respInfo | .waited a true respInfo => flying = [] ∧ ∃ respInfo' answer, respInfo = some respInfo' ∧
      net.answer a.place = some answer ∧ respInfo'.client = answer.host
  | .waited a false _ => flying = [] ∧ net.answer a.place = none
  | .threw _ => False

/-- The packets are numbered in the order of their probes. -/
def Numbered (c : Call) (first : Nat) (s : State) : Prop :=
  match s.position with
  | .ttlLoop ttl => s.created = first + (c.positionsBefore ttl.toNat 0).length
  | .retryLoop ttl i => s.created = first + (c.positionsBefore ttl.toNat i.toNat).length
  | .created ttl i packet | .sending ttl i packet | .sent ttl i packet =>
      packet = first + (c.positionsBefore ttl.toNat i.toNat).length ∧ s.created = packet + 1
  | .waiting a _ _ | .receiving a _ _ | .validating a _ | .waited a _ _ =>
      a.packet = first + (c.positionsBefore a.ttl.toNat a.i.toNat).length ∧ s.created = a.packet + 1
  | .returned _ | .threw _ => True

/-- What holds of the engine and of the datagrams on their way. -/
structure InNetwork (net : Network c.timeout) (reply : Nat → SocketAddress → ResponseInfo × Bytes) (first : Nat)
    (target : SocketAddress) (s : State) (flying : List Datagram) : Prop where
  shaped : Shaped c target s
  numbered : Numbered c first s
  recorded : ∀ r ∈ s.recorded, r.result.outcome = net.outcome r.attempt.place
  stands : Stands net reply s flying

theorem InNetwork.enter {now : Int} {buffer : Bytes} :
    InNetwork net reply first target (enter c now first buffer) [] where
  shaped := .enter
  numbered := by simp [Numbered, Sequential.enter, positionsBefore_begin]
  recorded r hr := by cases hr
  stands := rfl

/-- Outside of a send and a receive the network has no part in a step. -/
theorem Env.flying_eq {a : Action} (env : Env net packets reply s flying a rest) (hsend : a ≠ .trySending)
    (hreceive : ∀ outcome buffer, a ≠ .tryReceivingReturns outcome buffer) : rest = flying := by
  cases env with
  | send created => exact absurd rfl hsend
  | receive receiving receives => exact absurd rfl (hreceive _ _)
  | _ => rfl

theorem step_numbered {a : Action} (hend : c.ttlEnd.toNat + 1 < 2 ^ 32) (hshaped : Shaped c target s)
    (h : Numbered c first s) (hs : (machine destination c).step s a = some t) : Numbered c first t := by
  cases step_move hs with
  | @success a respInfo pc =>
    simp only [Numbered, Shaped, pc] at h hshaped
    show _ = first + (c.positionsBefore a.ttl.toNat (a.i + 1).toNat).length
    rw [toNat_succ hshaped.2.1 c.retries.toNat_lt, positionsBefore_succ, List.length_append]
    exact h.2.trans (congrArg (· + 1) h.1)
  | @failure a r pc =>
    simp only [Numbered, Shaped, pc] at h hshaped
    show _ = first + (c.positionsBefore a.ttl.toNat (a.i + 1).toNat).length
    rw [toNat_succ hshaped.2.1 c.retries.toNat_lt, positionsBefore_succ, List.length_append]
    exact h.2.trans (congrArg (· + 1) h.1)
  | @nextTtl ttl i pc le notReached =>
    simp only [Numbered, Shaped, pc] at h hshaped
    show _ = first + (c.positionsBefore (ttl + 1).toNat 0).length
    rw [toNat_succ (Nat.lt_succ_of_le hshaped.1) hend, positionsBefore_nextTtl hshaped.2.2.begin_le,
      ← toNat_eq_of_not_lt hshaped.2.1 le]
    exact h
  | tick d => exact h
  | create pc lt =>
    simp only [Numbered, pc] at h ⊢
    exact ⟨h, trivial⟩
  | return_ pc | break_ pc | createThrows pc | notSent pc | sendThrows pc | receiveThrows pc | validateThrows pc => trivial
  | enterTtl pc | send pc | sent pc | begin_ pc | stop pc | call pc | nothing pc | receive pc | validate pc =>
    simp only [Numbered, pc] at h ⊢
    exact h

/-- The packet of the current probe is one of the call. -/
theorem mem_range_of_numbered {ttl i : UInt32} {packet : Nat} (hb : c.ttlBegin.toNat ≤ ttl.toNat)
    (he : ttl.toNat ≤ c.ttlEnd.toNat) (hi : i.toNat < c.retries.toNat)
    (h : packet = first + (c.positionsBefore ttl.toNat i.toNat).length) : packet ∈ List.range' first c.probeCount := by
  have := length_positionsBefore_lt hb he hi
  rw [List.mem_range'_1]
  omega

/-- What is validated is the reply to the current probe, and the packet of the probe accepts it. -/
theorem InNetwork.accepts {a : Attempt} {respInfo : ResponseInfo} {replies : Replies c net packets first}
    (h : InNetwork net replies.reply first target s flying) (pc : s.position = .validating a respInfo) :
    flying = [] ∧ (∃ answer, net.answer a.place = some answer ∧ respInfo.client = answer.host) ∧
      (packets a.packet).isValid respInfo s.mBuffer = .ok true := by
  have hstands := h.stands
  have hshaped := h.shaped
  have hnumbered := h.numbered
  simp only [Stands, Shaped, Numbered, pc] at hstands hshaped hnumbered
  obtain ⟨hflying, answer, ha, hreply⟩ := hstands
  have hmem := mem_range_of_numbered hshaped.2.2.begin_le hshaped.1 hshaped.2.1 hnumbered.1
  have hplace := getElem?_positions hshaped.2.2.begin_le hshaped.1 hshaped.2.1
  have haccepted := replies.accepted _ a.place answer hplace ha a.packet hmem
  rw [← hnumbered.1] at haccepted
  have hclient := replies.client a.packet answer.host
  rw [hreply] at haccepted hclient
  rw [beq_self_eq_true] at haccepted
  exact ⟨hflying, ⟨answer, ha, hclient⟩, haccepted⟩

/-- Ten microseconds are not the whole window. -/
theorem inTime_of_begin (hc : c.Regular) {a : Attempt} (h : s.now = a.sentAt) :
    ¬getTimeLeft s.now a.sentAt c.timeout < MinTimeWaitForResponse := by
  obtain ⟨hpos, m, hm⟩ := hc.timeout
  rw [h, getTimeLeft_self (Int.le_of_lt hpos), MinTimeWaitForResponse]
  omega

theorem over_of_end (hc : c.Regular) {a : Attempt} (h : s.now = a.sentAt + c.timeout * 1000) :
    getTimeLeft s.now a.sentAt c.timeout < MinTimeWaitForResponse := by
  have hpos := hc.timeout.1
  exact (getTimeLeft_lt_iff (by omega)).mpr (by omega)

theorem step_stands {a : Action} {replies : Replies c net packets first} (hc : c.Regular)
    (h : InNetwork net replies.reply first target s flying) (hs : (machine destination c).step s a = some t)
    (env : Env net packets replies.reply s flying a rest) : Stands net replies.reply t rest := by
  have hstands := h.stands
  cases step_move hs with
  | tick d =>
    obtain rfl := env.flying_eq (by simp) (by simp)
    cases env with
    | loop loop => simp at loop
    | tick receiving waits =>
      simp only [Stands, receiving] at hstands ⊢
      obtain ⟨rfl, rfl, hflying, -, -⟩ := hstands
      exact ⟨rfl, rfl, hflying, hc.waitFor ▸ waits.window, waits.quiet⟩
  | @send ttl i k pc =>
    simp only [Stands, pc] at hstands ⊢
    cases env with
    | loop loop => simp at loop
    | send created =>
      obtain ⟨rfl, rfl, rfl⟩ : ttl = _ ∧ i = _ ∧ k = _ := by simpa [pc] using created
      rw [hstands, List.nil_append]
  | begin_ pc =>
    obtain rfl := env.flying_eq (by simp) (by simp)
    simp only [Stands, pc] at hstands ⊢
    exact Or.inl ⟨trivial, hstands⟩
  | @stop a v r pc isOver =>
    obtain rfl := env.flying_eq (by simp) (by simp)
    cases v with
    | true =>
      simp only [Stands, pc] at hstands ⊢
      exact hstands
    | false =>
      simp only [Stands, pc] at hstands ⊢
      rcases hstands with ⟨hnow, -⟩ | ⟨-, hnil⟩
      · exact absurd (isOver.resolve_left (by simp)) (inTime_of_begin hc hnow)
      · exact hnil
  | @call a r pc inTime =>
    obtain rfl := env.flying_eq (by simp) (by simp)
    simp only [Stands, pc] at hstands ⊢
    rcases hstands with ⟨hnow, hflying⟩ | ⟨hnow, -⟩
    · have hpos := hc.timeout.1
      refine ⟨hnow ▸ getTimeLeft_self (Int.le_of_lt hpos), hnow, hflying, by omega, fun g hg => ?_⟩
      obtain ⟨answer, -, rfl⟩ := mem_elicits.mp (hflying ▸ hg)
      exact hnow ▸ Int.le_add_of_nonneg_right (Int.natCast_nonneg _)
    · exact absurd (over_of_end hc hnow) inTime
  | @nothing a timeLeft calledAt buffer pc =>
    simp only [Stands, pc] at hstands
    obtain ⟨rfl, rfl, hflying, -, -⟩ := hstands
    cases env with
    | loop loop => simp at loop
    | receive receiving receives =>
      obtain ⟨rfl, rfl, rfl⟩ : a = _ ∧ _ = _ ∧ _ = _ := by simpa [pc] using receiving
      cases receives with
      | nothing isOver none_ =>
        rw [hc.waitFor] at isOver
        -- An answer would have arrived within the window.
        have hnone : net.answer a.place = none := by
          cases ha : net.answer a.place with
          | none => rfl
          | some answer =>
            have hlate : s.now < a.sentAt + answer.delay := none_ _ (hflying ▸ mem_elicits.mpr ⟨answer, ha, rfl⟩)
            have hdelay := net.delay_lt ha
            omega
        exact Or.inr ⟨isOver, by simp [hflying, Network.elicits, hnone], hnone⟩
  | @receive a timeLeft calledAt respInfo buffer pc =>
    simp only [Stands, pc] at hstands
    obtain ⟨rfl, rfl, hflying, -, -⟩ := hstands
    cases env with
    | loop loop => simp at loop
    | receive receiving receives =>
      obtain ⟨rfl, rfl, rfl⟩ : a = _ ∧ _ = _ ∧ _ = _ := by simpa [pc] using receiving
      cases receives with
      | @datagram g _ mem arrived earliest =>
        obtain ⟨answer, ha, rfl⟩ := mem_elicits.mp (hflying ▸ mem.mem_iff.mpr List.mem_cons_self)
        have hlen := mem.length_eq
        rw [hflying, Network.elicits, ha] at hlen
        exact ⟨List.eq_nil_of_length_eq_zero (by simpa using hlen.symm), answer, ha, rfl⟩
  | @validate a respInfo v pc =>
    obtain rfl := env.flying_eq (by simp) (by simp)
    obtain ⟨hflying, ⟨answer, ha, hclient⟩, haccepted⟩ := h.accepts pc
    cases env with
    | loop loop => simp at loop
    | validate asks =>
      simp only [asksPacket, pc] at asks
      rw [haccepted, Except.ok.injEq] at asks
      subst asks
      exact ⟨hflying, respInfo, answer, rfl, ha, hclient⟩
  | @validateThrows a respInfo e pc =>
    obtain ⟨-, -, haccepted⟩ := h.accepts pc
    cases env with
    | loop loop => simp at loop
    | validate asks =>
      simp only [asksPacket, pc] at asks
      rw [haccepted] at asks
      cases asks
  | success pc | failure pc =>
    obtain rfl := env.flying_eq (by simp) (by simp)
    simp only [Stands, pc] at hstands
    exact hstands.1
  | enterTtl pc | return_ pc | create pc | sent pc | break_ pc | nextTtl pc =>
    obtain rfl := env.flying_eq (by simp) (by simp)
    simp only [Stands, pc] at hstands ⊢
    exact hstands
  | createThrows | notSent | sendThrows =>
    cases env with
    | loop loop => simp at loop
  | receiveThrows =>
    cases env with
    | loop loop => simp at loop
    | receive receiving receives => cases receives

theorem step_recorded {a : Action} (h : InNetwork net reply first target s flying)
    (hs : (machine destination c).step s a = some t) :
    ∀ r ∈ t.recorded, r.result.outcome = net.outcome r.attempt.place := by
  have hstands := h.stands
  refine step_forall_recorded h.recorded (fun {a respInfo} pc => ?_) (fun {a r} pc => ?_) hs
  · simp only [Stands, pc] at hstands
    obtain ⟨-, respInfo, answer, hinfo, ha, hclient⟩ := hstands
    cases hinfo
    simp [Network.outcome, ha, ProbeResult.outcome, successProbe, hclient]
  · simp only [Stands, pc] at hstands
    simp [Network.outcome, hstands.2, ProbeResult.outcome, failedProbe]

theorem step_inNetwork {a : Action} {replies : Replies c net packets first} (hc : c.Regular)
    (hdest : ∀ n, destination n = target) (h : InNetwork net replies.reply first target s flying)
    (hs : (machine destination c).step s a = some t) (env : Env net packets replies.reply s flying a rest) :
    InNetwork net replies.reply first target t rest where
  shaped := step_shaped hc.ends hdest h.shaped hs
  numbered := step_numbered hc.ends h.shaped h.numbered hs
  recorded := step_recorded h hs
  stands := step_stands hc h hs env

/-- Each listed result is what the network answers. -/
theorem Shape.outcomes {probes : List TracerouteResult} {k : Nat} (h : Shape c target s probes k)
    (hrecorded : ∀ r ∈ s.recorded, r.result.outcome = net.outcome r.attempt.place) {tr : TracerouteResult}
    (htr : tr ∈ probes) {i : Nat} (hi : i < tr.probeResults.length) :
    tr.probeResults[i].outcome = net.outcome (tr.ttl.toNat, i) := by
  have hplaced : ((tr.ttl.toNat, i), tr.probeResults[i]) ∈ s.recorded.map fun r => (r.attempt.place, r.result) := by
    rw [h.order]
    exact List.mem_flatMap.mpr ⟨tr, htr, List.mem_mapIdx.mpr ⟨i, hi, rfl⟩⟩
  obtain ⟨r, hr, heq⟩ := List.mem_map.mp hplaced
  obtain ⟨hplace, hresult⟩ := Prod.mk.inj heq
  rw [← hplace, ← hresult]
  exact hrecorded r hr

/-- What has been returned are the results that the network gives. -/
theorem InNetwork.portrays {probes : List TracerouteResult} (hc : c.Regular)
    (h : InNetwork net reply first target s flying) (hreturned : s.position = .returned probes) :
    ∃ k, Portrays net c target probes k := by
  have hshaped := h.shaped
  simp only [Shaped, hreturned] at hshaped
  obtain ⟨k, hk⟩ : ∃ k, Shape c target s probes k := by
    refine hshaped.resolve_left ?_
    rintro ⟨hlt, -⟩
    have hrange := UInt32.le_iff_toNat_le.mp hc.range
    rw [UInt32.lt_iff_toNat_lt] at hlt
    omega
  have hreaches : ∀ tr ∈ probes, tr.probeResults.any (·.sentBy target) = true ↔ net.reaches c target tr.ttl.toNat := by
    intro tr htr
    rw [List.any_eq_true]
    constructor
    · rintro ⟨result, hresult, hsent⟩
      obtain ⟨i, hi, rfl⟩ := List.getElem_of_mem hresult
      obtain ⟨a, ha, hhost⟩ := (sentBy_iff (hk.outcomes h.recorded htr hi)).mp hsent
      exact ⟨i, hk.count tr htr ▸ hi, a, ha, hhost⟩
    · rintro ⟨i, hi, a, ha, hhost⟩
      have hi : i < tr.probeResults.length := (hk.count tr htr).symm ▸ hi
      exact ⟨_, List.getElem_mem hi, (sentBy_iff (hk.outcomes h.recorded htr hi)).mpr ⟨a, ha, hhost⟩⟩
  refine ⟨k, hk.begin_le, hk.le_end, hk.ttls, fun tr htr => ?_, hk.last.imp id ?_, fun ttl hb hlt hreached => ?_⟩
  · refine List.Perm.of_eq (List.ext_getElem (by simp [hk.count tr htr]) fun i hi hi' => ?_)
    rw [List.getElem_map, List.getElem_map, List.getElem_range]
    exact hk.outcomes h.recorded htr (by simpa using hi)
  · rintro ⟨tr, htr, rfl, hany⟩
    exact (hreaches tr htr).mp hany
  · have hmem : ttl ∈ probes.map (·.ttl.toNat) := by
      rw [hk.ttls, List.mem_range'_1]
      omega
    obtain ⟨tr, htr, rfl⟩ := List.mem_map.mp hmem
    have hbefore := hk.before tr htr hlt
    rw [(hreaches tr htr).mpr hreached] at hbefore
    cases hbefore

/-! ### The probing ends -/

/-- Bounds the steps that are left. -/
def State.stepsLeft (c : Call) (s : State) : Nat :=
  match s.position with
  | .ttlLoop ttl => c.stepsLeft ttl.toNat 0 + 1
  | .retryLoop ttl i => c.stepsLeft ttl.toNat i.toNat
  | .created ttl i _ => c.stepsLeft ttl.toNat (i.toNat + 1) + 8
  | .sending ttl i _ => c.stepsLeft ttl.toNat (i.toNat + 1) + 7
  | .sent ttl i _ => c.stepsLeft ttl.toNat (i.toNat + 1) + 6
  | .waiting a v _ => c.stepsLeft a.ttl.toNat (a.i.toNat + 1) + if v = false ∧ s.now = a.sentAt then 5 else 2
  | .receiving a _ _ => c.stepsLeft a.ttl.toNat (a.i.toNat + 1) + 4
  | .validating a _ => c.stepsLeft a.ttl.toNat (a.i.toNat + 1) + 3
  | .waited a _ _ => c.stepsLeft a.ttl.toNat (a.i.toNat + 1) + 1
  | .returned _ | .threw _ => 0

section
variable {replies : Replies c net packets first} (hc : c.Regular) (hdest : ∀ n, destination n = target)
include hc hdest

/-- A run of the network from here that leaves fewer steps. -/
def Progresses (net : Network c.timeout) (packets : Nat → Packet) (destination : Nat → SocketAddress)
    (reply : Nat → SocketAddress → ResponseInfo × Bytes) (first : Nat) (target : SocketAddress) (s : State)
    (flying : List Datagram) : Prop :=
  ∃ as t rest, (machine destination c).Within (Env net packets reply) s flying as t rest ∧
    InNetwork net reply first target t rest ∧ t.stepsLeft c < s.stepsLeft c

theorem InNetwork.progresses_of_step {a : Action} (h : InNetwork net replies.reply first target s flying)
    (hs : (machine destination c).step s a = some t) (env : Env net packets replies.reply s flying a rest)
    (hlt : t.stepsLeft c < s.stepsLeft c) : Progresses net packets destination replies.reply first target s flying :=
  ⟨[a], t, rest, .single hs env, step_inNetwork hc hdest h hs env, hlt⟩

/-- A receive takes its time and returns. -/
theorem InNetwork.progresses_of_receiving {a : Attempt} {timeLeft calledAt : Int}
    (h : InNetwork net replies.reply first target s flying) (pc : s.position = .receiving a timeLeft calledAt) :
    Progresses net packets destination replies.reply first target s flying := by
  have hstands := h.stands
  simp only [Stands, pc] at hstands
  obtain ⟨rfl, rfl, hflying, hwindow, harrivals⟩ := hstands
  have hpos := hc.timeout.1
  have htick : ∀ d : Nat, Waits (a.sentAt + waitFor c.timeout) s.now flying d →
      ∀ {outcome buffer u later}, Receives replies.reply (a.sentAt + waitFor c.timeout) (s.now + d) flying outcome buffer later →
      (machine destination c).step { s with now := s.now + d } (.tryReceivingReturns outcome buffer) = some u →
      u.stepsLeft c < s.stepsLeft c → Progresses net packets destination replies.reply first target s flying := by
    intro d hwaits outcome buffer u later hreceives hstep hlt
    have hrun := step_inNetwork hc hdest h (rfl : (machine destination c).step s (.tick d) = some _) (.tick pc hwaits)
    exact ⟨[.tick d, .tryReceivingReturns outcome buffer], u, later,
      .cons rfl (.tick pc hwaits) (.single hstep (.receive pc hreceives)),
      step_inNetwork hc hdest hrun hstep (.receive pc hreceives), hlt⟩
  cases ha : net.answer a.place with
  | none =>
    have hnil : flying = [] := by rw [hflying, Network.elicits, ha]; rfl
    have hend : s.now + ↑(a.sentAt + c.timeout * 1000 - s.now).toNat = a.sentAt + c.timeout * 1000 := by omega
    have hreceives : Receives replies.reply (a.sentAt + waitFor c.timeout)
        (s.now + ↑(a.sentAt + c.timeout * 1000 - s.now).toNat) flying (.ok none) s.mBuffer flying :=
      .nothing (by rw [hc.waitFor, hend]) fun g hg => by simp [hnil] at hg
    refine htick _ ⟨by rw [hc.waitFor]; omega, fun g hg => by simp [hnil] at hg⟩ hreceives
      (by simp only [machine, step, pc]; rfl) ?_
    simp only [State.stepsLeft, pc]
    rw [if_neg fun h => by omega]
    omega
  | some answer =>
    have hone : flying = [⟨a.packet, answer.host, a.sentAt + answer.delay⟩] := by
      rw [hflying, Network.elicits, ha]
      rfl
    have hnow : s.now ≤ a.sentAt + answer.delay := harrivals ⟨a.packet, answer.host, a.sentAt + answer.delay⟩ (by simp [hone])
    have hdelay := net.delay_lt ha
    have hend : s.now + ↑(a.sentAt + answer.delay - s.now).toNat = a.sentAt + answer.delay := by omega
    have hreceives : Receives replies.reply (a.sentAt + waitFor c.timeout)
        (s.now + ↑(a.sentAt + answer.delay - s.now).toNat) flying (.ok (some (replies.reply a.packet answer.host).1))
        (replies.reply a.packet answer.host).2 [] := by
      refine .datagram (g := ⟨a.packet, answer.host, a.sentAt + answer.delay⟩) (List.Perm.of_eq hone) (Int.le_of_eq hend.symm)
        fun g hg => ?_
      rw [hone, List.mem_singleton] at hg
      rw [hg]
    refine htick _ ⟨by rw [hc.waitFor]; omega, fun g hg => ?_⟩ hreceives (by simp only [machine, step, pc]; rfl) ?_
    · rw [hone, List.mem_singleton] at hg
      rw [hg]
      exact Int.le_of_eq hend
    · simp [State.stepsLeft, pc]

/-- From each position on the way the network allows some run. -/
theorem InNetwork.progresses (h : InNetwork net replies.reply first target s flying)
    (hgoal : ¬∃ probes, s.position = .returned probes) :
    Progresses net packets destination replies.reply first target s flying := by
  have hshaped := h.shaped
  have hstands := h.stands
  cases pc : s.position with
  | ttlLoop ttl =>
    by_cases le : ttl ≤ c.ttlEnd
    · refine h.progresses_of_step hc hdest (a := .testTtl) (by simp only [machine, step, pc, if_pos le]; rfl) (.loop (by simp)) ?_
      simp [State.stepsLeft, pc]
    · refine h.progresses_of_step hc hdest (a := .testTtl) (by simp only [machine, step, pc, if_neg le]; rfl) (.loop (by simp)) ?_
      simp [State.stepsLeft, pc]
  | retryLoop ttl i =>
    simp only [Shaped, pc] at hshaped
    obtain ⟨hend, hretries, hloop⟩ := hshaped
    by_cases lt : i < c.retries
    · refine h.progresses_of_step hc hdest (a := .createPacket (.ok ())) (by simp only [machine, step, pc, if_pos lt]; rfl)
        .create ?_
      have := stepsLeft_succ hloop.begin_le hend (UInt32.lt_iff_toNat_lt.mp lt)
      simp only [State.stepsLeft, pc]
      omega
    · have hlast := stepsLeft_nextTtl hloop.begin_le hend
      rw [← toNat_eq_of_not_lt hretries lt] at hlast
      refine h.progresses_of_step hc hdest (a := .pushProbe) (by simp only [machine, step, pc, if_neg lt]; rfl) (.loop (by simp)) ?_
      cases s.destinationReached with
      | true =>
        simp only [State.stepsLeft, pc, if_true]
        omega
      | false =>
        simp only [State.stepsLeft, pc, Bool.false_eq_true, if_false, toNat_succ (Nat.lt_succ_of_le hend) hc.ends]
        omega
  | created ttl i packet =>
    refine h.progresses_of_step hc hdest (a := .trySending) (by simp only [machine, step, pc]; rfl) (.send pc) ?_
    simp [State.stepsLeft, pc]
  | sending ttl i packet =>
    refine h.progresses_of_step hc hdest (a := .trySendingReturns (.ok true)) (by simp only [machine, step, pc]; rfl) .sent ?_
    simp [State.stepsLeft, pc]
  | sent ttl i packet =>
    refine h.progresses_of_step hc hdest (a := .readSentAt) (by simp only [machine, step, pc]; rfl) (.loop (by simp)) ?_
    simp [State.stepsLeft, pc]
  | waiting a v respInfo =>
    by_cases isOver : (v || getTimeLeft s.now a.sentAt c.timeout < MinTimeWaitForResponse) = true
    · refine h.progresses_of_step hc hdest (a := .testLoop) (by simp only [machine, step, pc, if_pos isOver]; rfl)
        (.loop (by simp)) ?_
      simp only [State.stepsLeft, pc]
      split <;> omega
    · refine h.progresses_of_step hc hdest (a := .testLoop) (by simp only [machine, step, pc, if_neg isOver]; rfl)
        (.loop (by simp)) ?_
      obtain ⟨rfl, inTime⟩ : v = false ∧ ¬getTimeLeft s.now a.sentAt c.timeout < MinTimeWaitForResponse := by
        simpa using isOver
      simp only [Stands, pc] at hstands
      rcases hstands with ⟨hnow, -⟩ | ⟨hnow, -⟩
      · simp [State.stepsLeft, pc, hnow]
      · exact absurd (over_of_end hc hnow) inTime
  | receiving a timeLeft calledAt => exact h.progresses_of_receiving hc hdest pc
  | validating a respInfo =>
    obtain ⟨-, -, haccepted⟩ := h.accepts pc
    refine h.progresses_of_step hc hdest (a := .isValid (.ok true)) (by simp only [machine, step, pc]; rfl)
      (.validate (by simp only [asksPacket, pc, haccepted])) ?_
    simp [State.stepsLeft, pc]
  | waited a v respInfo =>
    simp only [Stands, Shaped, pc] at hstands hshaped
    have hnext := toNat_succ hshaped.2.1 c.retries.toNat_lt
    cases v with
    | true =>
      obtain ⟨-, respInfo, -, rfl, -⟩ := hstands
      refine h.progresses_of_step hc hdest (a := .pushProbeResult) (by simp only [machine, step, pc]; rfl) (.loop (by simp)) ?_
      simp [State.stepsLeft, State.record, pc, hnext]
    | false =>
      refine h.progresses_of_step hc hdest (a := .pushProbeResult) (by simp only [machine, step, pc]; rfl) (.loop (by simp)) ?_
      simp [State.stepsLeft, State.record, pc, hnext]
  | returned probes => exact absurd ⟨probes, pc⟩ hgoal
  | threw e => simp only [Stands, pc] at hstands

/-- A run in the network can go on until it returns. -/
theorem InNetwork.returns (h : InNetwork net replies.reply first target s flying) :
    ∃ as t rest, (machine destination c).Within (Env net packets replies.reply) s flying as t rest ∧
      ∃ probes, t.position = .returned probes := by
  obtain ⟨as, t, rest, hrun, -, hreturned⟩ := Machine.Within.exists_of_measure
    (I := InNetwork net replies.reply first target) (fun s _ => s.stepsLeft c)
    (fun h hgoal => h.progresses hc hdest hgoal) h
  exact ⟨as, t, rest, hrun, hreturned⟩

end

end Traceroute.Sequential
