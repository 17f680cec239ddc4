import Traceroute.Network
import Traceroute.Theorems.Results
import Traceroute.Theorems.Time

/-! `FastTraceroute` in a network: what is recorded for a probe is what the network answers to it, and the loop ends
    with all results there, unless the call has a single probe. -/

namespace Traceroute

variable {c : Call} {net : Network c.timeout} {packets : Nat → Packet}

/-! ### Regular calls -/

theorem Call.Regular.probeCount_pos (h : c.Regular) : 0 < c.probeCount := by
  have hb := UInt32.le_iff_toNat_le.mp h.range
  exact Nat.mul_pos (by omega) (UInt32.le_iff_toNat_le.mp h.retries)

theorem Call.Regular.expectedSize (h : c.Regular) : c.expectedSize = c.probeCount := by
  have hb := UInt32.le_iff_toNat_le.mp h.range
  have hcount := h.count
  rw [Call.probeCount, show c.ttlEnd.toNat + 1 - c.ttlBegin.toNat = c.ttlEnd.toNat - c.ttlBegin.toNat + 1 by omega] at hcount
  exact Fast.expectedSize_eq h.range hcount

theorem Call.Regular.millisecondsCast (h : c.Regular) : Traceroute.millisecondsCast c.timeout * 1000 = c.timeout := by
  obtain ⟨hpos, m, hm⟩ := h.timeout
  rw [millisecondsCast_of_nonneg (Int.le_of_lt hpos)]
  omega

theorem Call.Regular.waitFor (h : c.Regular) : Traceroute.waitFor c.timeout = c.timeout * 1000 := by
  have := h.millisecondsCast
  rw [Traceroute.waitFor]
  omega

/-- Nothing wraps in the time for all probes. -/
theorem Call.Regular.expectedMaxTimeTaken (h : c.Regular) : c.expectedMaxTimeTaken = c.timeout * c.probeCount := by
  have hms := h.millisecondsCast
  have hfits := h.fits
  have hpos := h.timeout.1
  have hcount := h.probeCount_pos
  have hprod : Traceroute.millisecondsCast c.timeout * c.probeCount * 1000 = c.timeout * c.probeCount := by
    rw [Int.mul_right_comm, hms]
  have hnonneg : 0 ≤ Traceroute.millisecondsCast c.timeout * c.probeCount := Int.mul_nonneg (by omega) (by omega)
  have hle : Traceroute.millisecondsCast c.timeout * 1 ≤ Traceroute.millisecondsCast c.timeout * c.probeCount :=
    Int.mul_le_mul_of_nonneg_left (by omega) (by omega)
  have hms64 : Traceroute.millisecondsCast c.timeout % 2 ^ 64 = Traceroute.millisecondsCast c.timeout :=
    Int.emod_eq_of_lt (by omega) (by omega)
  rw [Call.expectedMaxTimeTaken, h.expectedSize, hms64, Int.emod_eq_of_lt hnonneg (by omega), hprod,
    Int.bmod_eq_of_le (by omega) (by omega)]

namespace Fast

variable {s t : State} {flying rest : List Datagram} {ps ps' : List PacketToValidate} {p : PacketToValidate}
  {g : Datagram}

/-! ### Probes and the datagrams that answer them -/

/-- The datagram is the answer to the probe. -/
def Owed (net : Network c.timeout) (p : PacketToValidate) (g : Datagram) : Prop :=
  g.packet = p.packet ∧ ∃ a, net.answer p.position = some a ∧ g.host = a.host ∧ g.arrivesAt ≤ p.sentAt + a.delay

/-- The datagrams on their way are the answers to these probes. -/
structure Flight (net : Network c.timeout) (ps : List PacketToValidate) (flying : List Datagram) : Prop where
  owes : ∀ p ∈ ps, ∀ a, net.answer p.position = some a → ∃ g ∈ flying, Owed net p g
  owned : ∀ g ∈ flying, ∃ p ∈ ps, Owed net p g
  nodup : (flying.map (·.packet)).Nodup

/-- Probes without an answer may be left out. -/
theorem Flight.of_subset (h : Flight net ps flying) (hsub : ps' ⊆ ps)
    (hdrop : ∀ p ∈ ps, p ∉ ps' → net.answer p.position = none) : Flight net ps' flying := by
  refine ⟨fun p hp => h.owes p (hsub hp), fun g hg => ?_, h.nodup⟩
  obtain ⟨p, hp, howed⟩ := h.owned g hg
  refine ⟨p, ?_, howed⟩
  by_contra hout
  obtain ⟨-, a, ha, -⟩ := howed
  rw [hdrop p hp hout] at ha
  cases ha

theorem Flight.congr (h : Flight net ps flying) (hmem : ∀ p, p ∈ ps' ↔ p ∈ ps) : Flight net ps' flying :=
  h.of_subset (fun p hp => (hmem p).mp hp) fun p hp hout => absurd ((hmem p).mpr hp) hout

/-- A probe is sent, with a packet of its own. -/
theorem Flight.push (h : Flight net ps flying) (hnew : ∀ q ∈ ps, q.packet ≠ p.packet) :
    Flight net (ps ++ [p]) (flying ++ net.elicits p.position p.packet p.sentAt) := by
  have howed : ∀ a, net.answer p.position = some a → Owed net p ⟨p.packet, a.host, p.sentAt + a.delay⟩ :=
    fun a ha => ⟨rfl, a, ha, rfl, Int.le_refl _⟩
  refine ⟨fun q hq a ha => ?_, fun g hg => ?_, ?_⟩
  · rcases List.mem_append.mp hq with hq | hq
    · obtain ⟨g, hg, hqg⟩ := h.owes q hq a ha
      exact ⟨g, List.mem_append_left _ hg, hqg⟩
    · obtain rfl := List.mem_singleton.mp hq
      exact ⟨_, List.mem_append_right _ (mem_elicits.mpr ⟨a, ha, rfl⟩), howed a ha⟩
  · rcases List.mem_append.mp hg with hg | hg
    · obtain ⟨q, hq, hqg⟩ := h.owned g hg
      exact ⟨q, List.mem_append_left _ hq, hqg⟩
    · obtain ⟨a, ha, rfl⟩ := mem_elicits.mp hg
      exact ⟨p, List.mem_append_right _ List.mem_cons_self, howed a ha⟩
  · rw [List.map_append, List.nodup_append]
    refine ⟨h.nodup, ?_, fun x hx y hy => ?_⟩
    · rw [Network.elicits]
      cases net.answer p.position <;> simp
    · obtain ⟨g, hg, rfl⟩ := List.mem_map.mp hx
      obtain ⟨g', hg', rfl⟩ := List.mem_map.mp hy
      obtain ⟨q, hq, hqg, -⟩ := h.owned g hg
      obtain ⟨a, -, rfl⟩ := mem_elicits.mp hg'
      rw [hqg]
      exact hnew q hq

/-- A later time of sending leaves more time for the answer. -/
theorem Flight.later {now : Int} (h : Flight net (ps ++ [p]) flying) (hle : p.sentAt ≤ now) :
    Flight net (ps ++ [{ p with sentAt := now }]) flying := by
  have howed : ∀ {g}, Owed net p g → Owed net { p with sentAt := now } g := by
    rintro g ⟨hpacket, a, ha, hhost, harrives⟩
    exact ⟨hpacket, a, ha, hhost, Int.le_trans harrives (Int.add_le_add_right hle _)⟩
  refine ⟨fun q hq a ha => ?_, fun g hg => ?_, h.nodup⟩
  · rcases List.mem_append.mp hq with hq | hq
    · exact h.owes q (List.mem_append_left _ hq) a ha
    · obtain rfl := List.mem_singleton.mp hq
      obtain ⟨g, hg, hpg⟩ := h.owes p (List.mem_append_right _ List.mem_cons_self) a ha
      exact ⟨g, hg, howed hpg⟩
  · obtain ⟨q, hq, hqg⟩ := h.owned g hg
    rcases List.mem_append.mp hq with hq | hq
    · exact ⟨q, List.mem_append_left _ hq, hqg⟩
    · obtain rfl := List.mem_singleton.mp hq
      exact ⟨_, List.mem_append_right _ List.mem_cons_self, howed hqg⟩

theorem mem_eraseIdx_iff {l : List PacketToValidate} {it : Nat} {q : PacketToValidate} (hnodup : (l.map (·.packet)).Nodup)
    (at_ : l[it]? = some p) : q ∈ l.eraseIdx it ↔ q ∈ l ∧ q.packet ≠ p.packet := by
  obtain ⟨hit, rfl⟩ := List.getElem?_eq_some_iff.mp at_
  have hperm := List.getElem_cons_eraseIdx_perm hit
  have hne := (hperm.map (·.packet)).nodup_iff.mpr hnodup
  rw [List.map_cons, List.nodup_cons] at hne
  rw [← hperm.mem_iff, List.mem_cons]
  constructor
  · exact fun hq => ⟨Or.inr hq, fun heq => hne.1 (heq ▸ List.mem_map_of_mem hq)⟩
  · rintro ⟨rfl | hq, hpacket⟩
    · exact absurd rfl hpacket
    · exact hq

/-- A probe without an answer leaves the list. -/
theorem Flight.eraseIdx {it : Nat} (h : Flight net ps flying) (hnodup : (ps.map (·.packet)).Nodup) (at_ : ps[it]? = some p)
    (hnone : net.answer p.position = none) : Flight net (ps.eraseIdx it) flying := by
  refine h.of_subset (fun q hq => List.mem_of_mem_eraseIdx hq) fun q hq hout => ?_
  have hsame : q.packet = p.packet := by
    by_contra hne
    exact hout ((mem_eraseIdx_iff hnodup at_).mpr ⟨hq, hne⟩)
  rw [List.inj_on_of_nodup_map hnodup hq (List.mem_of_getElem? at_) hsame]
  exact hnone

/-- The answer to a probe whose window is over would have arrived by now. -/
theorem Flight.answer_eq_none {now : Int} (h : Flight net ps flying) (harrivals : ∀ g ∈ flying, now ≤ g.arrivesAt)
    (hp : p ∈ ps) (isOver : getTimeLeft now p.sentAt c.timeout < MinTimeWaitForResponse) :
    net.answer p.position = none := by
  cases ha : net.answer p.position with
  | none => rfl
  | some a =>
    obtain ⟨g, hg, -, a', ha', -, harrives⟩ := h.owes p hp a ha
    have hnow := harrivals g hg
    have hdelay := net.inTime p.position a' ha'
    have := lt_of_getTimeLeft_lt isOver
    omega

/-- A datagram that is received is the answer to one of the probes, and the others still wait for theirs. -/
theorem Flight.deliver (h : Flight net ps flying) (hperm : flying.Perm (g :: rest)) :
    ∃ p ∈ ps, Owed net p g ∧ Flight net (ps.filter (·.packet ≠ p.packet)) rest := by
  obtain ⟨p, hp, hpg⟩ := h.owned g (hperm.mem_iff.mpr List.mem_cons_self)
  have hnodup : ((g :: rest).map (·.packet)).Nodup := (hperm.map _).nodup_iff.mp h.nodup
  rw [List.map_cons, List.nodup_cons] at hnodup
  refine ⟨p, hp, hpg, fun q hq a ha => ?_, fun g' hg' => ?_, hnodup.2⟩
  · obtain ⟨hq, hne⟩ := List.mem_filter.mp hq
    obtain ⟨g', hg', hqg'⟩ := h.owes q hq a ha
    rcases List.mem_cons.mp (hperm.mem_iff.mp hg') with rfl | hg'
    · simp [← hqg'.1, hpg.1] at hne
    · exact ⟨g', hg', hqg'⟩
  · obtain ⟨q, hq, hqg'⟩ := h.owned g' (hperm.mem_iff.mpr (List.mem_cons_of_mem _ hg'))
    refine ⟨q, List.mem_filter.mpr ⟨hq, decide_eq_true fun heq => ?_⟩, hqg'⟩
    exact hnodup.1 (List.mem_map.mpr ⟨g', hg', (hqg'.1.trans heq).trans hpg.1.symm⟩)

/-! ### Before the first receive completes -/

/-- The probe that has been handed to `trySending` and is not registered yet, as if it were registered now. -/
def State.onTheWay (s : State) : List PacketToValidate :=
  match s.sender with
  | .sending ttl i packet | .registering ttl i packet => [⟨packet, s.now, ttl, i⟩]
  | _ => []

/-- The receiver stands before or in its first receive, and no probe has a result yet. -/
structure Probing (net : Network c.timeout) (first : Nat) (beginAt : Int) (s : State) (flying : List Datagram) :
    Prop where
  receiver : s.receiver = .receiving beginAt beginAt ∨
    s.now = beginAt ∧ (s.receiver = .entering ∨ s.receiver = .loopHead beginAt)
  begun : beginAt ≤ s.now
  window : s.now ≤ beginAt + c.timeout * 1000
  recorded : s.recorded = []
  outstanding : s.mPacketsToBeValidated = s.pushed
  sentAt : ∀ p ∈ s.pushed, beginAt ≤ p.sentAt ∧ p.sentAt ≤ s.now
  numbers : s.pushed.map (·.packet) = List.range' first s.pushed.length
  created : s.created = first + s.pushed.length + s.sender.held.toList.length
  held : ∀ k, s.sender.held = some k → k = first + s.pushed.length
  flight : Flight net (s.pushed ++ s.onTheWay) flying
  arrivals : ∀ g ∈ flying, s.now ≤ g.arrivesAt

theorem Probing.enter {now : Int} {first : Nat} {buffer : Bytes} (ht : 0 ≤ c.timeout) :
    Probing net first now (enter c now (.fresh first buffer)) [] where
  receiver := Or.inr ⟨rfl, Or.inl rfl⟩
  begun := Int.le_refl _
  window := by
    show now ≤ now + c.timeout * 1000
    omega
  recorded := rfl
  outstanding := rfl
  sentAt p hp := by cases hp
  numbers := rfl
  created := rfl
  held k hk := by cases hk
  flight := ⟨fun p hp => (by cases hp), fun g hg => (by cases hg), List.nodup_nil⟩
  arrivals g hg := by cases hg

/-- A packet that is held is not registered yet. -/
theorem Probing.packet_ne {first : Nat} {beginAt : Int} (h : Probing net first beginAt s flying) {k : Nat}
    (hk : s.sender.held = some k) : ∀ q ∈ s.pushed, q.packet ≠ k := by
  intro q hq heq
  have hmem : q.packet ∈ List.range' first s.pushed.length := h.numbers ▸ List.mem_map_of_mem hq
  have := (List.mem_range'_1.mp hmem).2
  have := h.held k hk
  omega

/-- Only a send puts datagrams on their way. -/
theorem Env.flying_eq_of_sender {a : SenderAction} {reply : Nat → SocketAddress → ResponseInfo × Bytes}
    (env : Env net reply s flying (.sender a) rest) (ha : a ≠ .trySending) : rest = flying := by
  cases env with
  | create | sent | sender loop => rfl
  | send created => exact absurd rfl ha

theorem Probing.senderMove {first : Nat} {beginAt : Int} {a : SenderAction}
    {reply : Nat → SocketAddress → ResponseInfo × Bytes} (h : Probing net first beginAt s flying) (m : SenderMove c s a t)
    (env : Env net reply s flying (.sender a) rest) : Probing net first beginAt t rest := by
  cases m with
  | @send ttl i k pc =>
    cases env with
    | sender loop => simp at loop
    | send created =>
      obtain ⟨rfl, rfl, rfl⟩ : ttl = _ ∧ i = _ ∧ k = _ := by simpa [pc] using created
      have hflight := h.flight
      simp only [State.onTheWay, pc, List.append_nil] at hflight
      refine { h with created := ?_, held := ?_, flight := ?_, arrivals := fun g hg => ?_ }
      · exact h.created.trans (by rw [pc]; rfl)
      · exact fun k' hk' => h.held k' (pc ▸ hk')
      · exact hflight.push (p := ⟨k, s.now, ttl, i⟩) (h.packet_ne (by rw [pc]; rfl))
      · rcases List.mem_append.mp hg with hg | hg
        · exact h.arrivals g hg
        · obtain ⟨a, -, rfl⟩ := mem_elicits.mp hg
          exact Int.le_add_of_nonneg_right (Int.natCast_nonneg _)
  | create pc lt =>
    obtain rfl : rest = flying := env.flying_eq_of_sender (by simp)
    have hflight := h.flight
    have hcreated := h.created
    simp only [State.onTheWay, Sender.held, pc, List.append_nil, Option.toList_none, List.length_nil] at hflight hcreated
    refine { h with created := ?_, held := fun k hk => ?_, flight := ?_ }
    · exact congrArg (· + 1) hcreated
    · obtain rfl := Option.some.inj hk
      exact hcreated
    · simpa [State.onTheWay] using hflight
  | @push ttl i k pc free =>
    obtain rfl : rest = flying := env.flying_eq_of_sender (by simp)
    have hflight := h.flight
    have hcreated := h.created
    have hheld := h.held k (by rw [pc]; rfl)
    simp only [State.onTheWay, Sender.held, pc] at hflight hcreated
    refine { h with
      outstanding := congrArg (· ++ [_]) h.outstanding
      sentAt := fun p hp => ?_
      numbers := ?_
      created := ?_
      held := fun k hk => by cases hk
      flight := ?_ }
    · rcases List.mem_append.mp hp with hp | hp
      · exact h.sentAt p hp
      · obtain rfl := List.mem_singleton.mp hp
        exact ⟨h.begun, Int.le_refl _⟩
    · rw [List.map_append, h.numbers, List.length_append, List.length_singleton, List.range'_concat, hheld]
      simp
    · simpa [Sender.held, Nat.add_assoc] using hcreated
    · simpa [State.onTheWay] using hflight
  | sent pc =>
    obtain rfl : rest = flying := env.flying_eq_of_sender (by simp)
    refine { h with created := ?_, held := fun k hk => h.held k ?_, flight := ?_ }
    · exact h.created.trans (by rw [pc]; rfl)
    · rw [pc]
      exact hk
    · simpa only [State.onTheWay, pc] using h.flight
  | enterTtl pc | finish pc | nextTtl pc =>
    obtain rfl : rest = flying := env.flying_eq_of_sender (by simp)
    have hflight := h.flight
    have hcreated := h.created
    simp only [State.onTheWay, Sender.held, pc] at hflight hcreated
    exact { h with created := hcreated, held := fun k hk => (by cases hk), flight := hflight }
  | createThrows | notSent | sendThrows =>
    cases env with
    | sender loop => simp at loop

/-! ### All probes are registered -/

theorem length_lt_of_placed {ttl i : Nat} (hpos : s.pushed.map (·.position) = c.positionsBefore ttl i)
    (hb : c.ttlBegin.toNat ≤ ttl) (he : ttl ≤ c.ttlEnd.toNat) (hi : i < c.retries.toNat) :
    s.pushed.length < c.probeCount := by
  rw [← List.length_map, hpos]
  exact length_positionsBefore_lt hb he hi

/-- The sender is not busy with a probe. -/
theorem Placed.onTheWay (h : Placed c s) (hall : s.pushed.length = c.probeCount) : s.onTheWay = [] := by
  unfold State.onTheWay
  split
  · rename_i ttl i packet pc
    simp only [Placed, pc] at h
    exact absurd hall (Nat.ne_of_lt (length_lt_of_placed h.2.2.2 h.1 h.2.1 h.2.2.1))
  · rename_i ttl i packet pc
    simp only [Placed, pc] at h
    exact absurd hall (Nat.ne_of_lt (length_lt_of_placed h.2.2.2 h.1 h.2.1 h.2.2.1))
  · rfl

/-- The sender only comes to its end. -/
theorem SenderMove.idle {a : SenderAction} {reply : Nat → SocketAddress → ResponseInfo × Bytes} (m : SenderMove c s a t)
    (h : Placed c s) (hall : s.pushed.length = c.probeCount) (env : Env net reply s flying (.sender a) rest) :
    rest = flying ∧ ∃ sender, t = { s with sender := sender } := by
  cases m with
  | enterTtl pc | finish pc | nextTtl pc | sent pc =>
    obtain rfl : rest = flying := env.flying_eq_of_sender (by simp)
    exact ⟨rfl, _, rfl⟩
  | create pc lt =>
    simp only [Placed, pc] at h
    exact absurd hall (Nat.ne_of_lt (length_lt_of_placed h.2.2.2 h.1 h.2.1 (UInt32.lt_iff_toNat_lt.mp lt)))
  | send pc | push pc =>
    simp only [Placed, pc] at h
    exact absurd hall (Nat.ne_of_lt (length_lt_of_placed h.2.2.2 h.1 h.2.1 h.2.2.1))
  | createThrows | notSent | sendThrows =>
    cases env with
    | sender loop => simp at loop

/-! ### After the first receive -/

/-- The call has several probes, and the deadline for all of them is not over. -/
def Ahead (c : Call) (beginAt : Int) (s : State) : Prop :=
  2 ≤ c.probeCount ∧ s.now < beginAt + c.timeout * c.probeCount * 1000

/-- The windows of all outstanding probes are over. -/
def Over (c : Call) (s : State) : Prop :=
  ∀ p ∈ s.mPacketsToBeValidated, getTimeLeft s.now p.sentAt c.timeout < MinTimeWaitForResponse

/-- The response in hand answers an outstanding probe; the datagrams on their way answer the others. -/
def InHand (net : Network c.timeout) (reply : Nat → SocketAddress → ResponseInfo × Bytes) (respInfo : ResponseInfo)
    (s : State) (flying : List Datagram) : Prop :=
  ∃ p ∈ s.mPacketsToBeValidated, ∃ a, net.answer p.position = some a ∧ reply p.packet a.host = (respInfo, s.mBuffer) ∧
    Flight net (s.mPacketsToBeValidated.filter (·.packet ≠ p.packet)) flying

/-- What holds at each position of the receiver once its first receive has completed, at `completed`. -/
def Stands (net : Network c.timeout) (reply : Nat → SocketAddress → ResponseInfo × Bytes) (beginAt completed : Int)
    (s : State) (flying : List Datagram) : Prop :=
  match s.receiver with
  | .loopHead b => b = beginAt ∧ Flight net s.mPacketsToBeValidated flying ∧
      (Ahead c beginAt s ∨ s.mPacketsToBeValidated = [])
  | .receiving b calledAt => b = beginAt ∧ Flight net s.mPacketsToBeValidated flying ∧ completed ≤ calledAt ∧
      2 ≤ c.probeCount
  | .locking b none | .matching b none => b = beginAt ∧ Flight net s.mPacketsToBeValidated flying ∧
      (Ahead c beginAt s ∨ Over c s)
  | .locking b (some respInfo) | .matching b (some respInfo) => b = beginAt ∧ InHand net reply respInfo s flying ∧
      (Ahead c beginAt s ∨ s.mPacketsToBeValidated.length ≤ 1)
  | .sweeping b it => b = beginAt ∧ Flight net s.mPacketsToBeValidated flying ∧ (Ahead c beginAt s ∨ Over c s ∧ it = 0)
  | .expiring b it => b = beginAt ∧ Flight net s.mPacketsToBeValidated flying ∧
      (Ahead c beginAt s ∨ Over c s ∧ it = 0) ∧
      ∀ p, s.mPacketsToBeValidated[it]? = some p → net.answer p.position = none
  | .postprocessing | .returned _ => s.mPacketsToBeValidated = []
  | .entering | .threw _ => False

/-- All probes are registered, and what has been recorded is what the network answers. -/
structure Gathering (net : Network c.timeout) (reply : Nat → SocketAddress → ResponseInfo × Bytes) (first : Nat)
    (beginAt completed : Int) (s : State) (flying : List Datagram) : Prop where
  registered : s.pushed.length = c.probeCount
  numbers : s.pushed.map (·.packet) = List.range' first s.pushed.length
  sentAt : ∀ p ∈ s.pushed, beginAt ≤ p.sentAt ∧ p.sentAt ≤ completed
  soon : completed ≤ beginAt + c.timeout * 1000
  begun : completed ≤ s.now
  arrivals : ∀ g ∈ flying, s.now ≤ g.arrivesAt
  recorded : ∀ r ∈ s.recorded, r.result.outcome = net.outcome r.probe.position
  stands : Stands net reply beginAt completed s flying

section
variable {first : Nat} {beginAt completed : Int}

theorem mem_pushed (h : Conserved [] s) (hp : p ∈ s.mPacketsToBeValidated) : p ∈ s.pushed := by
  have hmem := h.perm.mem_iff (a := p)
  rw [List.nil_append] at hmem
  exact hmem.mpr (List.mem_append_left _ hp)

/-- With no probe outstanding all results are there. -/
theorem getCurrentSize_of_nil (hc : c.Regular) (h : Conserved [] s) (hall : s.pushed.length = c.probeCount)
    (hnil : s.mPacketsToBeValidated = []) : s.getCurrentSize.toNat = c.probeCount := by
  have hlen := h.perm.length_eq
  rw [List.nil_append, hnil, List.nil_append, List.length_map, hall] at hlen
  rw [State.getCurrentSize, UInt32.toNat_ofNat', h.size, ← hlen, Nat.mod_eq_of_lt hc.count]

theorem timeLeft_of_ahead (hc : c.Regular) (hbegun : beginAt ≤ s.now) (h : Ahead c beginAt s) :
    0 < getTimeLeft s.now beginAt c.expectedMaxTimeTaken := by
  rw [hc.expectedMaxTimeTaken]
  exact (getTimeLeft_pos_iff hbegun).mpr h.2

theorem ahead_of_lt (hc : c.Regular) (hseveral : 2 ≤ c.probeCount) (h : s.now < beginAt + c.timeout * 2 * 1000) :
    Ahead c beginAt s := by
  have hle : c.timeout * 2 ≤ c.timeout * c.probeCount :=
    Int.mul_le_mul_of_nonneg_left (by omega) (Int.le_of_lt hc.timeout.1)
  exact ⟨hseveral, by omega⟩

theorem over_of_passed (hc : c.Regular) (h : ∀ p ∈ s.mPacketsToBeValidated, p.sentAt + c.timeout * 1000 ≤ s.now) :
    Over c s := by
  have hpos := hc.timeout.1
  intro p hp
  have := h p hp
  exact (getTimeLeft_lt_iff (by omega)).mpr (by omega)

theorem Gathering.mem_range {reply : Nat → SocketAddress → ResponseInfo × Bytes}
    (h : Gathering net reply first beginAt completed s flying) (hp : p ∈ s.pushed) :
    p.packet ∈ List.range' first c.probeCount :=
  h.registered ▸ h.numbers ▸ List.mem_map_of_mem hp

/-- The packet of a probe has the number of its place among the probes of the call. -/
theorem Gathering.place {reply : Nat → SocketAddress → ResponseInfo × Bytes}
    (h : Gathering net reply first beginAt completed s flying) (hplaced : Placed c s) (hp : p ∈ s.pushed) :
    ∃ k, c.positions[k]? = some p.position ∧ p.packet = first + k := by
  obtain ⟨k, hk, rfl⟩ := List.getElem_of_mem hp
  have hposition := List.prefix_iff_getElem?.mp hplaced.initial k (by simpa using hk)
  have hnumber := List.getElem_of_eq h.numbers (by simpa using hk : k < _)
  exact ⟨k, by simpa using hposition, by simpa using hnumber⟩

theorem Gathering.nodup {reply : Nat → SocketAddress → ResponseInfo × Bytes}
    (h : Gathering net reply first beginAt completed s flying) (hcons : Conserved [] s) :
    (s.mPacketsToBeValidated.map (·.packet)).Nodup := by
  have hperm := hcons.perm.map (·.packet)
  rw [List.nil_append, h.numbers, List.map_append] at hperm
  exact (List.nodup_append.mp (hperm.nodup_iff.mp List.nodup_range')).1

/-- The response in hand is credited to the probe that it answers. -/
theorem Gathering.matched {replies : Replies c net packets first}
    (h : Gathering net replies.reply first beginAt completed s flying) (hcons : Conserved [] s) (hplaced : Placed c s)
    {respInfo : ResponseInfo} (hand : InHand net replies.reply respInfo s flying) : ∃ it p, s.mPacketsToBeValidated[it]? = some p ∧
      findValid packets respInfo s.mBuffer s.mPacketsToBeValidated = .ok (some it) ∧
      (∃ a, net.answer p.position = some a ∧ respInfo.client = a.host) ∧
      Flight net (s.mPacketsToBeValidated.eraseIdx it) flying := by
  obtain ⟨p, hp, a, ha, hreply, hflight⟩ := hand
  obtain ⟨k, hk, hpacket⟩ := h.place hplaced (mem_pushed hcons hp)
  have hverdict : ∀ q ∈ s.mPacketsToBeValidated,
      (packets q.packet).isValid respInfo s.mBuffer = .ok (q.packet == p.packet) := fun q hq => by
    have haccepted := replies.accepted k p.position a hk ha q.packet (h.mem_range (mem_pushed hcons hq))
    rwa [← hpacket, hreply] at haccepted
  have hfound : findValid packets respInfo s.mBuffer s.mPacketsToBeValidated =
      .ok (s.mPacketsToBeValidated.findIdx? fun q => q.packet == p.packet) := findValid_of_ok hverdict
  cases hidx : s.mPacketsToBeValidated.findIdx? fun q => q.packet == p.packet with
  | none => simpa using List.findIdx?_eq_none_iff.mp hidx p hp
  | some it =>
    obtain ⟨hit, heq, -⟩ := List.findIdx?_eq_some_iff_getElem.mp hidx
    have hsame : s.mPacketsToBeValidated[it] = p :=
      List.inj_on_of_nodup_map (h.nodup hcons) (List.getElem_mem hit) hp (eq_of_beq heq)
    have at_ : s.mPacketsToBeValidated[it]? = some p := List.getElem?_eq_some_iff.mpr ⟨hit, hsame⟩
    refine ⟨it, p, at_, hfound.trans (congrArg _ hidx), ⟨a, ha, ?_⟩, hflight.congr fun q => ?_⟩
    · have hclient := replies.client p.packet a.host
      rwa [hreply] at hclient
    · rw [mem_eraseIdx_iff (h.nodup hcons) at_, List.mem_filter, decide_eq_true_eq]

/-- Outside of a receive the network has no part in a step of the receiver. -/
theorem Env.flying_eq {reply : Nat → SocketAddress → ResponseInfo × Bytes} {a : ReceiverAction}
    (env : Env net reply s flying (.receiver a) rest) (ha : ∀ outcome buffer, a ≠ .tryReceivingReturns outcome buffer) :
    rest = flying := by
  cases env with
  | receiver loop => rfl
  | receive receiving registered receives => exact absurd rfl (ha _ _)

/-- After a wait for the whole timeout all windows are over. -/
theorem Gathering.allOver {reply : Nat → SocketAddress → ResponseInfo × Bytes} {calledAt : Int} (hc : c.Regular)
    (h : Gathering net reply first beginAt completed s flying) (hcons : Conserved [] s) (hcalled : completed ≤ calledAt)
    (hnow : s.now = calledAt + c.timeout * 1000) : Over c s := by
  refine over_of_passed hc fun p hp => ?_
  have hsent := (h.sentAt p (mem_pushed hcons hp)).2
  omega

theorem Gathering.receive {replies : Replies c net packets first} {b calledAt : Int}
    {respInfo : Option ResponseInfo} {buffer : Bytes} (hc : c.Regular)
    (h : Gathering net replies.reply first beginAt completed s flying) (hcons : Conserved [] s)
    (pc : s.receiver = .receiving b calledAt)
    (env : Env net replies.reply s flying (.receiver (.tryReceivingReturns (.ok respInfo) buffer)) rest) :
    Gathering net replies.reply first beginAt completed
      { s with mBuffer := buffer, receiver := .locking b respInfo } rest := by
  have hstands := h.stands
  simp only [Stands, pc] at hstands
  obtain ⟨rfl, hflight, hcalled, hseveral⟩ := hstands
  cases env with
  | receiver loop => simp at loop
  | @receive _ calledAt' _ _ _ receiving registered receives =>
    obtain ⟨-, rfl⟩ : b = _ ∧ calledAt = calledAt' := by simpa [pc] using receiving
    cases receives with
    | @datagram g _ mem arrived earliest =>
      obtain ⟨p, hp, ⟨hpacket, a, ha, hhost, harrives⟩, hrest⟩ := hflight.deliver mem
      refine { h with arrivals := fun g' hg' => ?_, stands := ?_ }
      · exact h.arrivals g' (mem.mem_iff.mpr (List.mem_cons_of_mem _ hg'))
      · refine ⟨rfl, ⟨p, hp, a, ha, by rw [hpacket, hhost], hrest⟩, Or.inl (ahead_of_lt hc hseveral ?_)⟩
        have hnow := h.arrivals g (mem.mem_iff.mpr List.mem_cons_self)
        have hdelay := net.delay_lt ha
        have hsent := (h.sentAt p (mem_pushed hcons hp)).2
        have hsoon := h.soon
        show s.now < _
        omega
    | nothing isOver none_ =>
      have hover : Over c s := h.allOver hc hcons hcalled (hc.waitFor ▸ isOver)
      exact { h with stands := ⟨rfl, hflight, Or.inr hover⟩ }

theorem Gathering.receiverMove {a : ReceiverAction} {replies : Replies c net packets first} (hc : c.Regular)
    (h : Gathering net replies.reply first beginAt completed s flying) (hcons : Conserved [] s) (hplaced : Placed c s)
    (m : ReceiverMove packets c s a t) (env : Env net replies.reply s flying (.receiver a) rest) :
    Gathering net replies.reply first beginAt completed t rest := by
  have hstands := h.stands
  have hbegun : beginAt ≤ s.now := by
    obtain ⟨p, hp⟩ := List.exists_mem_of_length_pos (h.registered ▸ hc.probeCount_pos)
    exact Int.le_trans (h.sentAt p hp).1 (Int.le_trans (h.sentAt p hp).2 h.begun)
  cases m with
  | begin_ pc =>
    simp only [Stands, pc] at hstands
  | call pc on =>
    obtain rfl := env.flying_eq (by simp)
    simp only [Stands, pc] at hstands
    obtain ⟨rfl, hflight, hleft⟩ := hstands
    refine { h with stands := ⟨rfl, hflight, h.begun, ?_⟩ }
    rcases hleft with hahead | hnil
    · exact hahead.1
    · rw [State.goesOn, hc.expectedSize, getCurrentSize_of_nil hc hcons h.registered hnil] at on
      simp at on
  | leave pc off =>
    obtain rfl := env.flying_eq (by simp)
    simp only [Stands, pc] at hstands
    obtain ⟨rfl, hflight, hleft⟩ := hstands
    refine { h with stands := ?_ }
    rcases hleft with hahead | hnil
    · have hsize : c.probeCount ≤ s.getCurrentSize.toNat := by
        simpa [State.goesOn, hc.expectedSize, timeLeft_of_ahead hc hbegun hahead] using off
      exact (hcons.settled (Nat.le_of_eq h.registered) hsize).1
    · exact hnil
  | receive pc => exact h.receive hc hcons pc env
  | receiveThrows pc =>
    cases env with
    | receiver loop => simp at loop
    | receive receiving registered receives => cases receives
  | @lock b respInfo pc =>
    obtain rfl := env.flying_eq (by simp)
    cases respInfo with
    | none =>
      simp only [Stands, pc] at hstands
      exact { h with stands := hstands }
    | some respInfo =>
      simp only [Stands, pc] at hstands
      exact { h with stands := hstands }
  | nothing pc =>
    obtain rfl := env.flying_eq (by simp)
    simp only [Stands, pc] at hstands
    exact { h with stands := ⟨hstands.1, hstands.2.1, hstands.2.2.imp id fun hover => ⟨hover, rfl⟩⟩ }
  | unmatched pc found =>
    simp only [Stands, pc] at hstands
    obtain ⟨it, p, -, hfound, -⟩ := h.matched hcons hplaced hstands.2.1
    rw [hfound] at found
    cases found
  | matchThrows pc found =>
    simp only [Stands, pc] at hstands
    obtain ⟨it, p, -, hfound, -⟩ := h.matched hcons hplaced hstands.2.1
    rw [hfound] at found
    cases found
  | @matched b respInfo it probe pc found at_ =>
    obtain rfl := env.flying_eq (by simp)
    simp only [Stands, pc] at hstands
    obtain ⟨rfl, hand, hleft⟩ := hstands
    obtain ⟨it', p, at_', hfound, ⟨a, ha, hclient⟩, hflight⟩ := h.matched hcons hplaced hand
    rw [hfound] at found
    cases found
    rw [at_'] at at_
    cases at_
    refine { h with recorded := ?_, stands := ⟨rfl, hflight, hleft.imp id fun hone => ⟨?_, rfl⟩⟩ }
    · refine List.forall_mem_append.mpr ⟨h.recorded, List.forall_mem_singleton.mpr ?_⟩
      simp [Network.outcome, ha, ProbeResult.outcome, successProbe, hclient]
    · have hlast : s.mPacketsToBeValidated.eraseIdx it = [] := by
        have hit := (List.getElem?_eq_some_iff.mp at_').1
        exact List.eq_nil_of_length_eq_zero (by rw [List.length_eraseIdx_of_lt hit]; omega)
      intro q hq
      simp only [State.record, hlast] at hq
      cases hq
  | @keep b it probe pc at_ inTime =>
    obtain rfl := env.flying_eq (by simp)
    simp only [Stands, pc] at hstands
    obtain ⟨rfl, hflight, hleft⟩ := hstands
    refine { h with stands := ⟨rfl, hflight, Or.inl (hleft.resolve_right ?_)⟩ }
    rintro ⟨hover, -⟩
    exact inTime (hover probe (List.mem_of_getElem? at_))
  | @late b it probe pc at_ isOver =>
    obtain rfl := env.flying_eq (by simp)
    simp only [Stands, pc] at hstands
    obtain ⟨rfl, hflight, hleft⟩ := hstands
    refine { h with stands := ⟨rfl, hflight, hleft, fun p hp => ?_⟩ }
    obtain rfl : probe = p := by simpa [at_] using hp
    exact hflight.answer_eq_none h.arrivals (List.mem_of_getElem? at_) isOver
  | @unlock b it pc end_ =>
    obtain rfl := env.flying_eq (by simp)
    simp only [Stands, pc] at hstands
    obtain ⟨rfl, hflight, hleft⟩ := hstands
    refine { h with stands := ⟨rfl, hflight, hleft.imp id ?_⟩ }
    rintro ⟨-, rfl⟩
    exact List.eq_nil_of_length_eq_zero (Nat.le_zero.mp (List.getElem?_eq_none_iff.mp end_))
  | @expired b it probe pc at_ =>
    obtain rfl := env.flying_eq (by simp)
    simp only [Stands, pc] at hstands
    obtain ⟨rfl, hflight, hleft, hnone⟩ := hstands
    have hflight' := hflight.eraseIdx (h.nodup hcons) at_ (hnone probe at_)
    refine { h with recorded := ?_, stands := ⟨rfl, hflight', hleft.imp id ?_⟩ }
    · refine List.forall_mem_append.mpr ⟨h.recorded, List.forall_mem_singleton.mpr ?_⟩
      simp [Network.outcome, hnone probe at_, ProbeResult.outcome, failedProbe]
    · rintro ⟨hover, hit⟩
      exact ⟨fun q hq => hover q (List.mem_of_mem_eraseIdx hq), hit⟩
  | return_ pc =>
    obtain rfl := env.flying_eq (by simp)
    simp only [Stands, pc] at hstands
    exact { h with stands := hstands }
  | postprocessThrows pc =>
    cases env with
    | receiver loop => simp at loop

theorem Gathering.tick {reply : Nat → SocketAddress → ResponseInfo × Bytes} {d : Nat}
    (h : Gathering net reply first beginAt completed s flying) (env : Env net reply s flying (.tick d) rest) :
    Gathering net reply first beginAt completed { s with now := s.now + d } rest := by
  cases env with
  | tick receiving idle waits =>
    have hstands := h.stands
    simp only [Stands, receiving] at hstands
    refine { h with begun := Int.le_trans h.begun (Int.le_add_of_nonneg_right (Int.natCast_nonneg d)), arrivals := ?_, stands := ?_ }
    · exact fun g hg => waits.quiet g hg
    · simpa only [Stands, receiving] using hstands

theorem Gathering.step {a : Action} {replies : Replies c net packets first} (hc : c.Regular)
    (h : Gathering net replies.reply first beginAt completed s flying) (hcons : Conserved [] s) (hplaced : Placed c s)
    (hs : (machine packets c).step s a = some t) (env : Env net replies.reply s flying a rest) :
    Gathering net replies.reply first beginAt completed t rest := by
  cases a with
  | tick d =>
    obtain rfl := Option.some.inj hs
    exact h.tick env
  | sender a =>
    obtain ⟨rfl, sender, rfl⟩ := (senderStep_move hs).idle hplaced h.registered env
    exact { h with }
  | receiver a => exact h.receiverMove hc hcons hplaced (receiverStep_move hs) env

/-! ### The first receive -/

/-- `tryReceiving` returns nothing for the only probe of a call only if that was registered at most nine microseconds
    after the receiver began. -/
def registeredInTime (c : Call) (s : State) : Action → Prop
  | .receiver (.tryReceivingReturns (.ok none) _) =>
    match s.receiver with
    | .receiving beginAt _ => c.probeCount = 1 → ∀ p ∈ s.mPacketsToBeValidated, p.sentAt ≤ beginAt + 9000
    | _ => True
  | _ => True

theorem Probing.receive {replies : Replies c net packets first} {b calledAt : Int}
    {respInfo : Option ResponseInfo} {buffer : Bytes} (hc : c.Regular) (h : Probing net first beginAt s flying)
    (hplaced : Placed c s) (pc : s.receiver = .receiving b calledAt)
    (env : Env net replies.reply s flying (.receiver (.tryReceivingReturns (.ok respInfo) buffer)) rest)
    (hP : registeredInTime c s (.receiver (.tryReceivingReturns (.ok respInfo) buffer))) :
    Gathering net replies.reply first beginAt s.now { s with mBuffer := buffer, receiver := .locking b respInfo } rest := by
  obtain ⟨rfl, rfl⟩ : b = beginAt ∧ calledAt = beginAt := by simpa [pc] using h.receiver
  have hpos := hc.timeout.1
  have hwindow := h.window
  cases env with
  | receiver loop => simp at loop
  | @receive b calledAt' _ _ _ receiving registered receives =>
    obtain ⟨rfl, rfl⟩ : calledAt = b ∧ calledAt = calledAt' := by simpa [pc] using receiving
    have hflight := h.flight
    rw [hplaced.onTheWay registered, List.append_nil, ← h.outstanding] at hflight
    have hgathering : ∀ {mBuffer receiver flying}, (∀ g ∈ flying, s.now ≤ g.arrivesAt) →
        Stands net replies.reply calledAt s.now { s with mBuffer := mBuffer, receiver := receiver } flying →
        Gathering net replies.reply first calledAt s.now { s with mBuffer := mBuffer, receiver := receiver } flying :=
      fun harrivals hstands => ⟨registered, h.numbers, h.sentAt, h.window, Int.le_refl _, harrivals,
        fun r hr => (by rw [show _ = [] from h.recorded] at hr; cases hr), hstands⟩
    cases receives with
    | @datagram g _ mem arrived earliest =>
      obtain ⟨p, hp, ⟨hpacket, a, ha, hhost, -⟩, hrest⟩ := hflight.deliver mem
      refine hgathering (fun g' hg' => h.arrivals g' (mem.mem_iff.mpr (List.mem_cons_of_mem _ hg'))) ?_
      refine ⟨rfl, ⟨p, hp, a, ha, by rw [hpacket, hhost], hrest⟩, ?_⟩
      rcases Nat.lt_or_ge c.probeCount 2 with hone | hseveral
      · refine Or.inr ?_
        rw [h.outstanding, registered]
        omega
      · exact Or.inl (ahead_of_lt hc hseveral (by show s.now < _; omega))
    | nothing isOver none_ =>
      refine hgathering h.arrivals ⟨rfl, hflight, ?_⟩
      rcases Nat.lt_or_ge c.probeCount 2 with hone | hseveral
      · have hcount := hc.probeCount_pos
        simp only [registeredInTime, pc] at hP
        refine Or.inr fun p hp => ?_
        have hsent := hP (by omega) p hp
        have hbounds := h.sentAt p (h.outstanding ▸ hp)
        rw [hc.waitFor] at isOver
        exact (getTimeLeft_lt_iff hbounds.2).mpr (by omega)
      · exact Or.inl (ahead_of_lt hc hseveral (by show s.now < _; omega))

/-- Before the first receive completes, the receiver only comes to its call. -/
theorem Probing.receiverMove {a : ReceiverAction} {reply : Nat → SocketAddress → ResponseInfo × Bytes} (hc : c.Regular)
    (h : Probing net first beginAt s flying) (hcons : Conserved [] s) (m : ReceiverMove packets c s a t)
    (env : Env net reply s flying (.receiver a) rest) (ha : ∀ outcome buffer, a ≠ .tryReceivingReturns outcome buffer) :
    Probing net first beginAt t rest := by
  obtain rfl := env.flying_eq ha
  have hreceiver := h.receiver
  cases m with
  | begin_ pc =>
    have hnow : s.now = beginAt := by simpa [pc] using hreceiver
    exact { h with receiver := Or.inr ⟨hnow, Or.inr (by rw [hnow])⟩ }
  | @call b pc on =>
    obtain ⟨hnow, rfl⟩ : s.now = beginAt ∧ b = beginAt := by simpa [pc] using hreceiver
    exact { h with receiver := Or.inl (by rw [hnow]) }
  | @leave b pc off =>
    obtain ⟨hnow, rfl⟩ : s.now = beginAt ∧ b = beginAt := by simpa [pc] using hreceiver
    have hsize := hcons.getCurrentSize_le
    rw [h.recorded] at hsize
    have hcount := hc.probeCount_pos
    have hpos := Int.mul_pos hc.timeout.1 (Int.natCast_pos.mpr hcount)
    have hleft : 0 < getTimeLeft s.now b c.expectedMaxTimeTaken := by
      rw [hc.expectedMaxTimeTaken]
      exact (getTimeLeft_pos_iff h.begun).mpr (by omega)
    simp [State.goesOn, hc.expectedSize, hleft, Nat.le_zero.mp hsize] at off
    omega
  | receive pc | receiveThrows pc => exact absurd rfl (ha _ _)
  | lock pc | nothing pc | unmatched pc | matchThrows pc | matched pc | keep pc | late pc | unlock pc | expired pc
  | return_ pc | postprocessThrows pc => simp [pc] at hreceiver

theorem Probing.tick {reply : Nat → SocketAddress → ResponseInfo × Bytes} {d : Nat} (hc : c.Regular)
    (h : Probing net first beginAt s flying) (env : Env net reply s flying (.tick d) rest) :
    Probing net first beginAt { s with now := s.now + d } rest := by
  cases env with
  | @tick b calledAt _ receiving idle waits =>
    obtain ⟨rfl, rfl⟩ : b = beginAt ∧ calledAt = beginAt := by simpa [receiving] using h.receiver
    have hnow : s.now ≤ s.now + d := Int.le_add_of_nonneg_right (Int.natCast_nonneg d)
    refine { h with
      receiver := Or.inl receiving
      begun := Int.le_trans h.begun hnow
      window := hc.waitFor ▸ waits.window
      sentAt := fun p hp => ⟨(h.sentAt p hp).1, Int.le_trans (h.sentAt p hp).2 hnow⟩
      flight := ?_
      arrivals := waits.quiet }
    have hflight := h.flight
    cases hsender : s.sender with
    | registering ttl i packet =>
      simp only [State.onTheWay, hsender] at hflight ⊢
      exact hflight.later hnow
    | sending ttl i packet => simp [hsender, Sender.sends] at idle
    | _ => simpa only [State.onTheWay, hsender] using hflight

end

/-! ### Runs -/

section
variable {first : Nat} {beginAt : Int} {reply : Nat → SocketAddress → ResponseInfo × Bytes}

/-- What holds of the engine and of the datagrams on their way in a run that begins at `beginAt`. -/
structure InNetwork (net : Network c.timeout) (reply : Nat → SocketAddress → ResponseInfo × Bytes) (first : Nat)
    (beginAt : Int) (s : State) (flying : List Datagram) : Prop where
  conserved : Conserved [] s
  placed : Placed c s
  stage : Probing net first beginAt s flying ∨ ∃ completed, Gathering net reply first beginAt completed s flying

theorem InNetwork.enter {buffer : Bytes} (hc : c.Regular) :
    InNetwork net reply first beginAt (enter c beginAt (.fresh first buffer)) [] :=
  ⟨Conserved.enter (o := .fresh first buffer), .enter, Or.inl (.enter (Int.le_of_lt hc.timeout.1))⟩

theorem step_inNetwork {a : Action} {replies : Replies c net packets first} (hc : c.Regular)
    (hP : registeredInTime c s a) (h : InNetwork net replies.reply first beginAt s flying)
    (hs : (machine packets c).step s a = some t) (env : Env net replies.reply s flying a rest) :
    InNetwork net replies.reply first beginAt t rest := by
  refine ⟨h.conserved.move (step_ledger hs), step_placed hc.ends h.placed hs, ?_⟩
  rcases h.stage with hprobing | ⟨completed, hgathering⟩
  · cases a with
    | tick d =>
      obtain rfl := Option.some.inj hs
      exact Or.inl (hprobing.tick hc env)
    | sender a => exact Or.inl (hprobing.senderMove (senderStep_move hs) env)
    | receiver a =>
      have m := receiverStep_move hs
      by_cases hreceive : ∃ outcome buffer, a = .tryReceivingReturns outcome buffer
      · obtain ⟨outcome, buffer, rfl⟩ := hreceive
        cases m with
        | receive pc => exact Or.inr ⟨_, hprobing.receive hc h.placed pc env hP⟩
        | receiveThrows pc =>
          cases env with
          | receiver loop => simp at loop
          | receive receiving registered receives => cases receives
      · exact Or.inl (hprobing.receiverMove hc h.conserved m env fun outcome buffer ha => hreceive ⟨outcome, buffer, ha⟩)
  · exact Or.inr ⟨completed, hgathering.step hc h.conserved h.placed hs env⟩

/-- Once `beginProbing` has returned, the results are those that the network gives. -/
theorem InNetwork.portrays {target : SocketAddress} {results : List TracerouteResult} (hc : c.Regular)
    (h : InNetwork net reply first beginAt s flying) (hreturned : s.receiver = .returned results)
    (hresults : results = collectResults target s.ttlToProbeResults) : ∃ k, Portrays net c target results k := by
  obtain ⟨completed, hgathering⟩ : ∃ completed, Gathering net reply first beginAt completed s flying := by
    rcases h.stage with hprobing | hgathering
    · have hreceiver := hprobing.receiver
      simp [hreturned] at hreceiver
    · exact hgathering
  have hnil : s.mPacketsToBeValidated = [] := by
    have hstands := hgathering.stands
    simpa only [Stands, hreturned] using hstands
  have hsize := getCurrentSize_of_nil hc h.conserved hgathering.registered hnil
  have hpos := h.conserved.positions h.placed (Nat.le_of_eq hsize.symm)
  obtain ⟨k, hk⟩ : ∃ k, Reported c target s results k :=
    hresults ▸ reported h.conserved hpos (UInt32.le_iff_toNat_le.mp hc.retries) hc.range
  refine ⟨k, hk.begin_le, hk.le_end, hk.ttls, fun tr htr => ?_, hk.last.imp id ?_, fun ttl hb hlt hreaches => ?_⟩
  · obtain ⟨rs, hrs, hresults, httl, hretries⟩ := hk.retries tr htr
    have houtcomes : rs.map (fun r => r.result.outcome) =
        (rs.map (·.probe.retry.toNat)).map fun i => net.outcome (tr.ttl.toNat, i) := by
      rw [List.map_map]
      refine List.map_congr_left fun r hr => ?_
      rw [hgathering.recorded r (hrs.subset hr), PacketToValidate.position, httl r hr]
      rfl
    rw [hresults, List.map_map]
    exact houtcomes ▸ hretries.map _
  · rintro ⟨r, hr, httl, hsent⟩
    obtain ⟨a, ha, hhost⟩ := (sentBy_iff (hgathering.recorded r hr)).mp hsent
    refine ⟨r.probe.retry.toNat, (mem_positions (hpos.subset (List.mem_map_of_mem hr))).2.2, a, ?_, hhost⟩
    rw [← httl]
    exact ha
  · obtain ⟨i, hi, a, ha, hhost⟩ := hreaches
    have hend := hk.le_end
    have hmem := hpos.mem_iff.mpr (mem_positions_of_lt hb (by omega : ttl ≤ c.ttlEnd.toNat) hi)
    obtain ⟨r, hr, hposition⟩ := List.mem_map.mp hmem
    refine hk.first ttl hlt ⟨r, hr, congrArg Prod.fst hposition, ?_⟩
    exact (sentBy_iff (hgathering.recorded r hr)).mpr ⟨a, hposition ▸ ha, hhost⟩

/-! ### A single probe that is registered late -/

theorem entries_of_nil (h : Conserved [] s) (hnil : s.recorded = []) : s.ttlToProbeResults.entries = [] := by
  refine List.eq_nil_iff_forall_not_mem.mpr fun ⟨ttl, v⟩ hmem => ?_
  obtain ⟨hv, hne⟩ := h.mem_entries.mp hmem
  exact hne (by simp [hv, State.resultsOf, hnil])

/-- The receive of the only probe has returned nothing at the deadline, with the probe's window still open. -/
structure Missed (c : Call) (beginAt : Int) (s : State) : Prop where
  alone : c.probeCount = 1
  registered : s.pushed.length = c.probeCount
  recorded : s.recorded = []
  now : s.now = beginAt + c.timeout * 1000
  inTime : ∀ p ∈ s.mPacketsToBeValidated, ¬getTimeLeft s.now p.sentAt c.timeout < MinTimeWaitForResponse
  receiver : s.receiver = .locking beginAt none ∨ s.receiver = .matching beginAt none ∨
    (∃ it, s.receiver = .sweeping beginAt it) ∨ s.receiver = .loopHead beginAt ∨ s.receiver = .postprocessing ∨
    s.receiver = .returned []

theorem step_missed {a : Action} (hc : c.Regular) (hcons : Conserved [] s) (hplaced : Placed c s)
    (h : Missed c beginAt s) (hs : (machine packets c).step s a = some t) (env : Env net reply s flying a rest) :
    Missed c beginAt t := by
  have hreceiver := h.receiver
  cases a with
  | tick d =>
    cases env with
    | tick receiving idle waits => simp [receiving] at hreceiver
  | sender a =>
    obtain ⟨-, sender, rfl⟩ := (senderStep_move hs).idle hplaced h.registered env
    exact { h with }
  | receiver a =>
    cases receiverStep_move hs with
    | lock pc =>
      obtain ⟨rfl, rfl⟩ : _ = beginAt ∧ _ = none := by simpa [pc] using hreceiver
      exact { h with receiver := Or.inr (Or.inl rfl) }
    | nothing pc =>
      obtain rfl : _ = beginAt := by simpa [pc] using hreceiver
      exact { h with receiver := Or.inr (Or.inr (Or.inl ⟨0, rfl⟩)) }
    | keep pc at_ inTime =>
      obtain rfl : _ = beginAt := by simpa [pc] using hreceiver
      exact { h with receiver := Or.inr (Or.inr (Or.inl ⟨_, rfl⟩)) }
    | late pc at_ isOver => exact absurd isOver (h.inTime _ (List.mem_of_getElem? at_))
    | unlock pc end_ =>
      obtain rfl : _ = beginAt := by simpa [pc] using hreceiver
      exact { h with receiver := Or.inr (Or.inr (Or.inr (Or.inl rfl))) }
    | call pc on =>
      obtain rfl : _ = beginAt := by simpa [pc] using hreceiver
      have hpos := hc.timeout.1
      have hnow := h.now
      have hleft := (State.goesOn.eq_def c s _ ▸ on : (_ && _) = true)
      rw [Bool.and_eq_true, decide_eq_true_eq, decide_eq_true_eq, hc.expectedMaxTimeTaken, h.alone] at hleft
      have hlt := (getTimeLeft_pos_iff (by omega)).mp hleft.2
      omega
    | leave pc off => exact { h with receiver := Or.inr (Or.inr (Or.inr (Or.inr (Or.inl rfl)))) }
    | return_ pc =>
      refine { h with receiver := Or.inr (Or.inr (Or.inr (Or.inr (Or.inr ?_)))) }
      rw [collectResults_of_nil (entries_of_nil hcons h.recorded)]
    | postprocessThrows pc =>
      cases env with
      | receiver loop => simp at loop
    | begin_ pc | receive pc | receiveThrows pc | unmatched pc | matchThrows pc | matched pc | expired pc =>
      simp [pc] at hreceiver

/-- The receive that misses the only probe. -/
theorem Probing.missed {b calledAt : Int} {buffer : Bytes} (hc : c.Regular) (h : Probing net first beginAt s flying)
    (pc : s.receiver = .receiving b calledAt)
    (env : Env net reply s flying (.receiver (.tryReceivingReturns (.ok none) buffer)) rest)
    (hP : ¬registeredInTime c s (.receiver (.tryReceivingReturns (.ok none) buffer))) :
    Missed c beginAt { s with mBuffer := buffer, receiver := .locking b none } := by
  obtain ⟨rfl, rfl⟩ : b = beginAt ∧ calledAt = beginAt := by simpa [pc] using h.receiver
  simp only [registeredInTime, pc] at hP
  obtain ⟨hone, p, hp, hlate⟩ : c.probeCount = 1 ∧ ∃ p ∈ s.mPacketsToBeValidated, calledAt + 9000 < p.sentAt := by
    simpa using hP
  cases env with
  | receiver loop => simp at loop
  | receive receiving registered receives =>
    obtain ⟨-, rfl⟩ : _ ∧ calledAt = _ := by simpa [pc] using receiving
    cases receives with
    | nothing isOver none_ =>
      rw [hc.waitFor] at isOver
      refine ⟨hone, registered, h.recorded, isOver, fun q hq hover => ?_, Or.inl rfl⟩
      obtain ⟨x, hx⟩ := List.length_eq_one_iff.mp (registered.trans hone)
      rw [h.outstanding, hx, List.mem_singleton] at hp
      obtain rfl : q = p := by
        rw [hp]
        exact List.mem_singleton.mp (hx ▸ h.outstanding ▸ hq)
      have hbounds := h.sentAt q (hx ▸ List.mem_singleton.mpr hp)
      have hpassed := (getTimeLeft_lt_iff hbounds.2).mp hover
      have hnow : s.now = calledAt + c.timeout * 1000 := isOver
      omega

/-- A step that does not meet the condition is the receive that misses the only probe. -/
theorem InNetwork.missed {a : Action} {replies : Replies c net packets first} (hc : c.Regular)
    (h : InNetwork net replies.reply first beginAt s flying) (hs : (machine packets c).step s a = some t)
    (env : Env net replies.reply s flying a rest) (hP : ¬registeredInTime c s a) : Missed c beginAt t := by
  have hnot := hP
  unfold registeredInTime at hnot
  split at hnot
  · rename_i buffer
    split at hnot
    · rename_i b calledAt pc
      rcases h.stage with hprobing | ⟨completed, hgathering⟩
      · have m : ReceiverMove packets c s (.tryReceivingReturns (.ok none) buffer) t := receiverStep_move hs
        cases m with
        | receive pc' =>
          obtain ⟨rfl, -⟩ : b = _ ∧ _ := by simpa [pc] using pc'
          exact hprobing.missed hc pc env hP
      · have hstands := hgathering.stands
        simp only [Stands, pc] at hstands
        exact absurd (fun hone => absurd hone (by omega)) hnot
    · exact absurd trivial hnot
  · exact absurd trivial hnot

/-- Only a run that misses no probe returns results. -/
theorem registeredInTime_of_results {a : Action} {as : List Action} {u : State} {later : List Datagram}
    {replies : Replies c net packets first} {results : List TracerouteResult} (hc : c.Regular)
    (h : InNetwork net replies.reply first beginAt s flying) (hs : (machine packets c).step s a = some t)
    (env : Env net replies.reply s flying a rest) (hrun : (machine packets c).Within (Env net replies.reply) t rest as u later)
    (hreturned : u.receiver = .returned results) (hresults : results ≠ []) : registeredInTime c s a := by
  by_contra hP
  have hkept : Conserved [] u ∧ Placed c u ∧ Missed c beginAt u :=
    hrun.invariant (I := fun s _ => Conserved [] s ∧ Placed c s ∧ Missed c beginAt s)
      (fun ⟨hcons, hplaced, hmissed⟩ hst henv => ⟨hcons.move (step_ledger hst), step_placed hc.ends hplaced hst,
        step_missed hc hcons hplaced hmissed hst henv⟩)
      ⟨h.conserved.move (step_ledger hs), step_placed hc.ends h.placed hs, h.missed hc hs env hP⟩
  have hreceiver := hkept.2.2.receiver
  simp only [hreturned, reduceCtorEq, exists_false, false_or, Receiver.returned.injEq] at hreceiver
  exact hresults hreceiver

variable {buffer : Bytes} {as : List Action} {later : List Datagram} {target : SocketAddress}
  {results : List TracerouteResult} {replies : Replies c net packets first}

/-- What a run returns that misses no probe. -/
theorem portrays_of_registeredInTime (hc : c.Regular) (hdest : ∀ n, (packets n).getDestinationAddress = target)
    (hrun : (machine packets c).Within (Env net replies.reply) (enter c beginAt (.fresh first buffer)) [] as t later)
    (hreturned : t.receiver = .returned results)
    (hP : (machine packets c).Along (registeredInTime c) (enter c beginAt (.fresh first buffer)) as) :
    ∃ k, Portrays net c target results k := by
  have h : InNetwork net replies.reply first beginAt t later :=
    hrun.along_invariant (fun hP hI hs henv => step_inNetwork hc hP hI hs henv) (.enter hc) hP
  obtain ⟨n, hresults⟩ := exec_collected hrun.exec (fun _ hr => by cases hr) results hreturned
  rw [hdest] at hresults
  exact h.portrays hc hreturned hresults

/-- A run that returns anything misses no probe. -/
theorem along_registeredInTime (hc : c.Regular)
    (hrun : (machine packets c).Within (Env net replies.reply) (enter c beginAt (.fresh first buffer)) [] as t later)
    (hreturned : t.receiver = .returned results) (hresults : results ≠ []) :
    (machine packets c).Along (registeredInTime c) (enter c beginAt (.fresh first buffer)) as :=
  hrun.along (I := InNetwork net replies.reply first beginAt) (fun hP hI hs henv => step_inNetwork hc hP hI hs henv)
    (fun hI hs henv hrest => registeredInTime_of_results hc hI hs henv hrest hreturned hresults) (.enter hc)

end

end Fast

end Traceroute
