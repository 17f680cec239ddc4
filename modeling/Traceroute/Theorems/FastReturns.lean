import Mathlib.Data.Set.Finite.Lemmas
import Mathlib.Data.Set.Finite.List
import Traceroute.Theorems.FastNetwork

/-! In a network `FastTraceroute` can always go on until `beginProbing` returns: the sender comes to its end, and each
    round of the receiver's loop settles at least one probe, but for the first. -/

namespace Traceroute.Fast

variable {c : Call} {net : Network c.timeout} {packets : Nat → Packet} {s t : State} {flying rest : List Datagram}
  {first : Nat} {beginAt : Int} {reply : Nat → SocketAddress → ResponseInfo × Bytes}

/-- What holds of every run in the network, also of one that misses its only probe. -/
structure InRun (net : Network c.timeout) (reply : Nat → SocketAddress → ResponseInfo × Bytes) (first : Nat)
    (beginAt : Int) (s : State) (flying : List Datagram) : Prop where
  conserved : Conserved [] s
  placed : Placed c s
  sends : ∀ e, s.sender ≠ .threw e
  window : ∀ b calledAt, s.receiver = .receiving b calledAt → s.now ≤ calledAt + c.timeout * 1000
  expires : ∀ b it, s.receiver = .expiring b it → it < s.mPacketsToBeValidated.length
  stage : Probing net first beginAt s flying ∨ (∃ completed, Gathering net reply first beginAt completed s flying) ∨
    Missed c beginAt s

theorem InRun.enter {buffer : Bytes} (hc : c.Regular) :
    InRun net reply first beginAt (enter c beginAt (.fresh first buffer)) [] where
  conserved := Conserved.enter (o := .fresh first buffer)
  placed := .enter
  sends e he := by cases he
  window b calledAt pc := by cases pc
  expires b it pc := by cases pc
  stage := Or.inl (.enter (Int.le_of_lt hc.timeout.1))

theorem step_sends {a : Action} (h : ∀ e, s.sender ≠ .threw e) (hs : (machine packets c).step s a = some t)
    (env : Env net reply s flying a rest) : ∀ e, t.sender ≠ .threw e := by
  cases a with
  | tick d =>
    obtain rfl := Option.some.inj hs
    exact h
  | sender a =>
    cases senderStep_move hs with
    | createThrows | notSent | sendThrows =>
      cases env with
      | sender loop => simp at loop
    | _ => exact fun e he => by cases he
  | receiver a =>
    rw [(receiverStep_move hs).sender]
    exact h

theorem step_window {a : Action} (hc : c.Regular)
    (h : ∀ b calledAt, s.receiver = .receiving b calledAt → s.now ≤ calledAt + c.timeout * 1000)
    (hs : (machine packets c).step s a = some t) (env : Env net reply s flying a rest) :
    ∀ b calledAt, t.receiver = .receiving b calledAt → t.now ≤ calledAt + c.timeout * 1000 := by
  intro b calledAt pc
  cases a with
  | tick d =>
    obtain rfl := Option.some.inj hs
    cases env with
    | tick receiving idle waits =>
      obtain ⟨rfl, rfl⟩ : _ = b ∧ _ = calledAt := by simpa [receiving] using pc
      exact hc.waitFor ▸ waits.window
  | sender a =>
    have m := senderStep_move hs
    rw [m.now]
    exact h b calledAt (m.receiver ▸ pc)
  | receiver a =>
    have hpos := hc.timeout.1
    cases receiverStep_move hs with
    | call pc' on =>
      cases pc
      show s.now ≤ s.now + _
      omega
    | _ => cases pc

theorem step_expires {a : Action} (h : ∀ b it, s.receiver = .expiring b it → it < s.mPacketsToBeValidated.length)
    (hs : (machine packets c).step s a = some t) :
    ∀ b it, t.receiver = .expiring b it → it < t.mPacketsToBeValidated.length := by
  intro b it pc
  cases a with
  | tick d =>
    obtain rfl := Option.some.inj hs
    exact h b it pc
  | sender a =>
    have m := senderStep_move hs
    have hit := h b it (m.receiver ▸ pc)
    cases m with
    | push => exact List.length_append ▸ Nat.lt_add_right _ hit
    | _ => exact hit
  | receiver a =>
    cases receiverStep_move hs with
    | late pc' at_ isOver =>
      cases pc
      exact (List.getElem?_eq_some_iff.mp at_).1
    | _ => cases pc

theorem step_inRun {a : Action} {replies : Replies c net packets first} (hc : c.Regular)
    (h : InRun net replies.reply first beginAt s flying) (hs : (machine packets c).step s a = some t)
    (env : Env net replies.reply s flying a rest) : InRun net replies.reply first beginAt t rest where
  conserved := h.conserved.move (step_ledger hs)
  placed := step_placed hc.ends h.placed hs
  sends := step_sends h.sends hs env
  window := step_window hc h.window hs env
  expires := step_expires h.expires hs
  stage := by
    rcases h.stage with hprobing | ⟨completed, hgathering⟩ | hmissed
    · have hin : InNetwork net replies.reply first beginAt s flying := ⟨h.conserved, h.placed, Or.inl hprobing⟩
      by_cases hP : registeredInTime c s a
      · exact (step_inNetwork hc hP hin hs env).stage.imp id Or.inl
      · exact Or.inr (Or.inr (hin.missed hc hs env hP))
    · exact Or.inr (Or.inl ⟨completed, hgathering.step hc h.conserved h.placed hs env⟩)
    · exact Or.inr (Or.inr (step_missed hc h.conserved h.placed hmissed hs env))

/-! ### The sender -/

def Sender.stepsLeft (c : Call) : Sender → Nat
  | .ttlLoop ttl => c.stepsLeft ttl.toNat 0 + 1
  | .retryLoop ttl i => c.stepsLeft ttl.toNat i.toNat
  | .created ttl i _ => c.stepsLeft ttl.toNat (i.toNat + 1) + 8
  | .sending ttl i _ => c.stepsLeft ttl.toNat (i.toNat + 1) + 7
  | .registering ttl i _ => c.stepsLeft ttl.toNat (i.toNat + 1) + 6
  | .finished | .threw _ => 0

/-- Each step of the sender leaves fewer steps to it. -/
theorem SenderMove.stepsLeft_lt {a : SenderAction} (hend : c.ttlEnd.toNat + 1 < 2 ^ 32) (h : Placed c s)
    (m : SenderMove c s a t) : t.sender.stepsLeft c < s.sender.stepsLeft c := by
  cases m with
  | @nextTtl ttl i pc le =>
    simp only [Placed, pc] at h
    obtain ⟨hb, he, hi, -⟩ := h
    have hlast := stepsLeft_nextTtl hb he
    rw [← toNat_eq_of_not_lt hi le] at hlast
    simp only [pc, Sender.stepsLeft, toNat_succ (Nat.lt_succ_of_le he) hend]
    omega
  | @create ttl i pc lt =>
    simp only [Placed, pc] at h
    have hprobe := stepsLeft_succ h.1 h.2.1 (UInt32.lt_iff_toNat_lt.mp lt)
    simp only [pc, Sender.stepsLeft]
    omega
  | @createThrows ttl i e pc lt =>
    simp only [Placed, pc] at h
    have hprobe := stepsLeft_succ h.1 h.2.1 (UInt32.lt_iff_toNat_lt.mp lt)
    simp only [pc, Sender.stepsLeft]
    omega
  | @push ttl i k pc free =>
    simp only [Placed, pc] at h
    simp only [pc, Sender.stepsLeft, toNat_succ h.2.2.1 c.retries.toNat_lt]
    omega
  | _ => simp [*, Sender.stepsLeft]

/-- The mutex is free when a probe is to be registered: the receiver has not yet come to its first match. -/
theorem InRun.free {ttl i : UInt32} {packet : Nat} (h : InRun net reply first beginAt s flying)
    (pc : s.sender = .registering ttl i packet) : s.receiver.holdsMutex = false := by
  have hplaced := h.placed
  simp only [Placed, pc] at hplaced
  have hlt := length_lt_of_placed hplaced.2.2.2 hplaced.1 hplaced.2.1 hplaced.2.2.1
  rcases h.stage with hprobing | ⟨completed, hgathering⟩ | hmissed
  · rcases hprobing.receiver with hr | ⟨-, hr | hr⟩ <;> rw [hr] <;> rfl
  · exact absurd hgathering.registered (Nat.ne_of_lt hlt)
  · exact absurd hmissed.registered (Nat.ne_of_lt hlt)

theorem InRun.sender_progresses (packets : Nat → Packet) (hc : c.Regular) (h : InRun net reply first beginAt s flying)
    (hfinished : s.sender ≠ .finished) : ∃ a t rest, (machine packets c).step s a = some t ∧
      Env net reply s flying a rest ∧ t.sender.stepsLeft c < s.sender.stepsLeft c := by
  obtain ⟨a, t, rest, hs, env⟩ : ∃ a t rest, senderStep c s a = some t ∧ Env net reply s flying (.sender a) rest := by
    cases pc : s.sender with
    | ttlLoop ttl => exact ⟨.testTtl, _, flying, by simp only [senderStep, pc]; rfl, .sender (by simp)⟩
    | retryLoop ttl i =>
      by_cases lt : i < c.retries
      · exact ⟨.createPacket (.ok ()), _, flying, by simp only [senderStep, pc, if_pos lt]; rfl, .create⟩
      · exact ⟨.nextTtl, _, flying, by simp only [senderStep, pc, if_neg lt]; rfl, .sender (by simp)⟩
    | created ttl i packet => exact ⟨.trySending, _, _, by simp only [senderStep, pc]; rfl, .send pc⟩
    | sending ttl i packet => exact ⟨.trySendingReturns (.ok true), _, _, by simp only [senderStep, pc]; rfl, .sent⟩
    | registering ttl i packet =>
      exact ⟨.pushBack, _, _, by simp only [senderStep, pc, h.free pc]; rfl, .sender (by simp)⟩
    | finished => exact absurd pc hfinished
    | threw e => exact absurd pc (h.sends e)
  exact ⟨.sender a, t, rest, hs, env, (senderStep_move hs).stepsLeft_lt hc.ends h.placed⟩

/-- The sender comes to its end. -/
theorem InRun.finishes {replies : Replies c net packets first} (hc : c.Regular)
    (h : InRun net replies.reply first beginAt s flying) :
    ∃ t rest, (machine packets c).Reaches (Env net replies.reply) s flying t rest ∧
      InRun net replies.reply first beginAt t rest ∧ t.sender = .finished := by
  obtain ⟨as, t, rest, hrun, ht, hfinished⟩ := Machine.Within.exists_of_measure (M := machine packets c)
    (I := InRun net replies.reply first beginAt) (fun s _ => s.sender.stepsLeft c)
    (fun h hgoal => by
      obtain ⟨a, t, rest, hs, env, hlt⟩ := h.sender_progresses packets hc hgoal
      exact ⟨[a], t, rest, .single hs env, step_inRun hc h hs env, hlt⟩)
    h
  exact ⟨t, rest, ⟨as, hrun⟩, ht, hfinished⟩

/-! ### The receiver -/

/-- A wait ends with the earliest datagram, or at its end. -/
theorem exists_receives {end_ now : Int} (hend : now ≤ end_) (harrivals : ∀ g ∈ flying, now ≤ g.arrivesAt) (buffer : Bytes) :
    ∃ (d : Nat) (respInfo : Option ResponseInfo) (buffer' : Bytes) (rest : List Datagram), Waits end_ now flying d ∧
      Receives reply end_ (now + d) flying (.ok respInfo) buffer' rest := by
  by_cases hsome : ∃ g ∈ flying, g.arrivesAt ≤ end_
  · obtain ⟨g', hg', hle⟩ := hsome
    obtain ⟨g, hg, hmin⟩ : ∃ g ∈ flying, ∀ g' ∈ flying, g.arrivesAt ≤ g'.arrivesAt :=
      Set.exists_min_image {g | g ∈ flying} (·.arrivesAt) flying.finite_toSet ⟨g', hg'⟩
    obtain ⟨l, r, hsplit⟩ := List.append_of_mem hg
    have hnow := harrivals g hg
    have hgend := Int.le_trans (hmin g' hg') hle
    refine ⟨(g.arrivesAt - now).toNat, _, _, l ++ r, ⟨by omega, fun g' hg' => ?_⟩,
      .datagram (hsplit ▸ List.perm_middle) (by omega) hmin⟩
    have := hmin g' hg'
    omega
  · have hlate : ∀ g ∈ flying, end_ < g.arrivesAt := fun g hg => by
      by_contra hle
      exact hsome ⟨g, hg, Int.not_lt.mp hle⟩
    refine ⟨(end_ - now).toNat, none, buffer, flying, ⟨by omega, fun g hg => ?_⟩, .nothing (by omega) fun g hg => ?_⟩
    · have := hlate g hg
      omega
    · have := hlate g hg
      omega

section
variable (packets net reply flying)

/-- The sweep takes off exactly the probes whose window is over, from its position on. -/
theorem sweeps {b : Int} {it : Nat} (pc : s.receiver = .sweeping b it) :
    ∃ t, (machine packets c).Reaches (Env net reply) s flying t flying ∧ t.receiver = .loopHead b ∧ t.sender = s.sender ∧
      t.mPacketsToBeValidated = s.mPacketsToBeValidated.take it ++ (s.mPacketsToBeValidated.drop it).filter
        fun p => ¬getTimeLeft s.now p.sentAt c.timeout < MinTimeWaitForResponse := by
  induction hn : s.mPacketsToBeValidated.length - it generalizing s it with
  | zero =>
    have hlen : s.mPacketsToBeValidated.length ≤ it := by omega
    refine ⟨{ s with receiver := .loopHead b }, .head (a := .receiver .sweep) ?_ (.receiver (by simp)) .refl, rfl, rfl, ?_⟩
    · simp only [machine, receiverStep, pc, List.getElem?_eq_none hlen]
    · simp [List.take_of_length_le hlen, List.drop_eq_nil_of_le hlen]
  | succ n ih =>
    have hit : it < s.mPacketsToBeValidated.length := by omega
    have at_ : s.mPacketsToBeValidated[it]? = some s.mPacketsToBeValidated[it] := List.getElem?_eq_getElem hit
    rw [List.drop_eq_getElem_cons hit]
    by_cases isOver : getTimeLeft s.now s.mPacketsToBeValidated[it].sentAt c.timeout < MinTimeWaitForResponse
    · have hlen : (s.mPacketsToBeValidated.eraseIdx it).length - it = n := by
        rw [List.length_eraseIdx_of_lt hit]
        omega
      have hlate : (machine packets c).step s (.receiver .sweep) = some { s with receiver := .expiring b it } := by
        simp only [machine, receiverStep, pc, at_, if_pos isOver]
      have hexpired : (machine packets c).step { s with receiver := .expiring b it } (.receiver .expire) =
          some { s.record it s.mPacketsToBeValidated[it]
            (failedProbe (getTimePassedTillNow s.now s.mPacketsToBeValidated[it].sentAt)) none with
            receiver := .sweeping b it } := by
        simp only [machine, receiverStep, at_]
        rfl
      obtain ⟨t, hreaches, hreceiver, hsender, hleft⟩ := ih
        (s := { s.record it s.mPacketsToBeValidated[it]
          (failedProbe (getTimePassedTillNow s.now s.mPacketsToBeValidated[it].sentAt)) none with
          receiver := .sweeping b it }) rfl hlen
      refine ⟨t, .head hlate (.receiver (by simp)) (.head hexpired (.receiver (by simp)) hreaches), hreceiver, hsender, ?_⟩
      have htake : (s.mPacketsToBeValidated.eraseIdx it).take it = s.mPacketsToBeValidated.take it := by
        rw [List.eraseIdx_eq_take_drop_succ, List.take_append_of_le_length (by simp; omega), List.take_take, Nat.min_self]
      have hdrop : (s.mPacketsToBeValidated.eraseIdx it).drop it = s.mPacketsToBeValidated.drop (it + 1) := by
        rw [List.eraseIdx_eq_take_drop_succ, List.drop_append_of_le_length (by simp; omega), List.drop_take, Nat.sub_self,
          List.take_zero, List.nil_append]
      rw [hleft, List.filter_cons_of_neg (by simpa using isOver)]
      exact congrArg₂ (fun l r => l ++ List.filter _ r) htake hdrop
    · have hlen : s.mPacketsToBeValidated.length - (it + 1) = n := by omega
      obtain ⟨t, hreaches, hreceiver, hsender, hleft⟩ := ih (s := { s with receiver := .sweeping b (it + 1) }) rfl hlen
      refine ⟨t, .head (a := .receiver .sweep) ?_ (.receiver (by simp)) hreaches, hreceiver, hsender, ?_⟩
      · simp only [machine, receiverStep, pc, at_, if_neg isOver]
      · rw [hleft, List.filter_cons_of_pos (by simpa using isOver), List.take_succ_eq_append_getElem hit, List.append_assoc]
        rfl

/-- From the loop over the probes the receiver comes back to the head of its loop, with no more probes than before. -/
theorem settles_of_sweeping {b : Int} {it : Nat} (pc : s.receiver = .sweeping b it) :
    ∃ t, (machine packets c).Reaches (Env net reply) s flying t flying ∧ t.receiver = .loopHead b ∧ t.sender = s.sender ∧
      t.mPacketsToBeValidated.length ≤ s.mPacketsToBeValidated.length ∧
      (Over c s → it = 0 → t.mPacketsToBeValidated = []) := by
  obtain ⟨t, hreaches, hreceiver, hsender, hleft⟩ := sweeps net packets flying reply pc
  refine ⟨t, hreaches, hreceiver, hsender, ?_, fun hover hit => ?_⟩
  · have hlen := List.length_filter_le (fun p : PacketToValidate => ¬getTimeLeft s.now p.sentAt c.timeout < MinTimeWaitForResponse)
      (s.mPacketsToBeValidated.drop it)
    rw [hleft, List.length_append, List.length_take]
    rw [List.length_drop] at hlen
    omega
  · rw [hleft, hit, List.take_zero, List.drop_zero, List.nil_append]
    exact List.filter_eq_nil_iff.mpr fun p hp => by simpa using hover p hp

theorem settles_of_none {b : Int} (pc : s.receiver = .matching b none) :
    ∃ t, (machine packets c).Reaches (Env net reply) s flying t flying ∧ t.receiver = .loopHead b ∧ t.sender = s.sender ∧
      (Over c s → t.mPacketsToBeValidated = []) := by
  have hmatch : (machine packets c).step s (.receiver .matchResponse) = some { s with receiver := .sweeping b 0 } := by
    simp only [machine, receiverStep, pc]
  obtain ⟨t, hreaches, hreceiver, hsender, -, hnil⟩ := settles_of_sweeping net packets flying reply
    (s := { s with receiver := .sweeping b 0 }) rfl
  exact ⟨t, .head hmatch (.receiver (by simp)) hreaches, hreceiver, hsender, fun hover => hnil hover rfl⟩

end

variable {replies : Replies c net packets first}

/-- A response that has been received settles the probe that it answers. -/
theorem Gathering.settles_of_some {completed b : Int} {respInfo : ResponseInfo}
    (h : Gathering net replies.reply first beginAt completed s flying) (hcons : Conserved [] s) (hplaced : Placed c s)
    (pc : s.receiver = .matching b (some respInfo)) :
    ∃ t, (machine packets c).Reaches (Env net replies.reply) s flying t flying ∧ t.receiver = .loopHead b ∧
      t.sender = s.sender ∧ t.mPacketsToBeValidated.length < s.mPacketsToBeValidated.length := by
  have hstands := h.stands
  simp only [Stands, pc] at hstands
  obtain ⟨it, p, at_, hfound, -, -⟩ := h.matched hcons hplaced hstands.2.1
  have hit := (List.getElem?_eq_some_iff.mp at_).1
  have hmatch : (machine packets c).step s (.receiver .matchResponse) =
      some { s.record it p (successProbe (getTimePassedTillNow s.now p.sentAt) respInfo.client)
        (some (respInfo, s.mBuffer)) with receiver := .sweeping b 0 } := by
    simp only [machine, receiverStep, pc, hfound, at_]
  obtain ⟨t, hreaches, hreceiver, hsender, hlen, -⟩ := settles_of_sweeping net packets flying replies.reply
    (s := { s.record it p (successProbe (getTimePassedTillNow s.now p.sentAt) respInfo.client)
      (some (respInfo, s.mBuffer)) with receiver := .sweeping b 0 }) rfl
  have herase : (s.mPacketsToBeValidated.eraseIdx it).length < s.mPacketsToBeValidated.length := by
    rw [List.length_eraseIdx_of_lt hit]
    omega
  exact ⟨t, .head hmatch (.receiver (by simp)) hreaches, hreceiver, hsender,
    Nat.lt_of_le_of_lt hlen herase⟩

/-- The wait takes its time, `tryReceiving` returns, and the receiver comes to its match. -/
theorem exists_received {b calledAt : Int} (packets : Nat → Packet) (reply : Nat → SocketAddress → ResponseInfo × Bytes)
    (hc : c.Regular) (hfinished : s.sender = .finished)
    (hregistered : s.pushed.length = c.probeCount) (pc : s.receiver = .receiving b calledAt)
    (hwindow : s.now ≤ calledAt + c.timeout * 1000) (harrivals : ∀ g ∈ flying, s.now ≤ g.arrivesAt) :
    ∃ respInfo t rest, (machine packets c).Reaches (Env net reply) s flying t rest ∧ t.receiver = .matching b respInfo ∧
      t.sender = .finished ∧ t.mPacketsToBeValidated = s.mPacketsToBeValidated ∧
      (respInfo = none → t.now = calledAt + c.timeout * 1000) := by
  obtain ⟨d, respInfo, buffer, rest, hwaits, hreceives⟩ := exists_receives (hc.waitFor.symm ▸ hwindow) harrivals s.mBuffer
  have hreturns : (machine packets c).step { s with now := s.now + d } (.receiver (.tryReceivingReturns (.ok respInfo) buffer)) =
      some { s with now := s.now + d, mBuffer := buffer, receiver := .locking b respInfo } := by
    simp only [machine, receiverStep, pc]
  have hlock : (machine packets c).step { s with now := s.now + d, mBuffer := buffer, receiver := .locking b respInfo }
      (.receiver .lock) = some { s with now := s.now + d, mBuffer := buffer, receiver := .matching b respInfo } := rfl
  refine ⟨respInfo, _, rest, .head (a := .tick d) rfl (.tick pc (by rw [hfinished]; rfl) hwaits)
    (.head hreturns (.receive pc hregistered hreceives) (.head hlock (.receiver (by simp)) .refl)), rfl, hfinished, rfl,
    fun hnone => ?_⟩
  subst hnone
  cases hreceives with
  | nothing isOver none_ => exact hc.waitFor ▸ isOver

/-! ### The call -/

/-- Both threads can come to their ends, the receiver with results. -/
def Returns (net : Network c.timeout) (packets : Nat → Packet) (reply : Nat → SocketAddress → ResponseInfo × Bytes)
    (s : State) (flying : List Datagram) : Prop :=
  ∃ t rest results, (machine packets c).Reaches (Env net reply) s flying t rest ∧ t.sender = .finished ∧
    t.receiver = .returned results

theorem Returns.of_reaches (h : Returns net packets reply t rest)
    (hreaches : (machine packets c).Reaches (Env net reply) s flying t rest) : Returns net packets reply s flying := by
  obtain ⟨u, later, results, hrun, hdone⟩ := h
  exact ⟨u, later, results, hreaches.trans hrun, hdone⟩

theorem Returns.of_step {a : Action} (h : Returns net packets reply t rest) (hs : (machine packets c).step s a = some t)
    (env : Env net reply s flying a rest) : Returns net packets reply s flying :=
  h.of_reaches (.head hs env .refl)

/-- Once the loop is left the results are returned. -/
theorem returns_of_off {b : Int} (hfinished : s.sender = .finished) (pc : s.receiver = .loopHead b)
    (off : s.goesOn c b = false) : Returns net packets reply s flying := by
  have hleave : (machine packets c).step s (.receiver .testLoop) = some { s with receiver := .postprocessing } := by
    simp only [machine, receiverStep, pc, off]
    rfl
  have hreturn : (machine packets c).step { s with receiver := .postprocessing } (.receiver (.postprocess (.ok ()))) =
      some { s with
        created := s.created + 1
        receiver := .returned (collectResults (packets s.created).getDestinationAddress s.ttlToProbeResults) } := rfl
  exact ⟨_, flying, _, .head hleave (.receiver (by simp)) (.head hreturn (.receiver (by simp)) .refl), hfinished, rfl⟩

/-- While results are missing `tryReceiving` is called. -/
theorem step_testLoop_of_on {b : Int} (packets : Nat → Packet) (pc : s.receiver = .loopHead b) (on : s.goesOn c b = true) :
    (machine packets c).step s (.receiver .testLoop) = some { s with receiver := .receiving b s.now } := by
  simp only [machine, receiverStep, pc, on]
  rfl

/-- What holds of the engine once its first receive has completed. -/
def Gathered (net : Network c.timeout) (reply : Nat → SocketAddress → ResponseInfo × Bytes) (first : Nat)
    (beginAt completed : Int) (s : State) (flying : List Datagram) : Prop :=
  Conserved [] s ∧ Placed c s ∧ Gathering net reply first beginAt completed s flying

theorem step_gathered {completed : Int} {a : Action} (hc : c.Regular)
    (h : Gathered net replies.reply first beginAt completed s flying) (hs : (machine packets c).step s a = some t)
    (env : Env net replies.reply s flying a rest) : Gathered net replies.reply first beginAt completed t rest :=
  ⟨h.1.move (step_ledger hs), step_placed hc.ends h.2.1 hs, h.2.2.step hc h.1 h.2.1 hs env⟩

/-- Each round of the loop settles a probe. -/
theorem Gathered.round {completed b : Int} (hc : c.Regular)
    (h : Gathered net replies.reply first beginAt completed s flying) (hfinished : s.sender = .finished)
    (pc : s.receiver = .loopHead b) (on : s.goesOn c b = true) :
    ∃ t rest, (machine packets c).Reaches (Env net replies.reply) s flying t rest ∧ t.sender = .finished ∧
      t.receiver = .loopHead b ∧ t.mPacketsToBeValidated.length < s.mPacketsToBeValidated.length := by
  have hpos : 0 < s.mPacketsToBeValidated.length := by
    refine List.length_pos_iff.mpr fun hnil => ?_
    rw [State.goesOn, hc.expectedSize, getCurrentSize_of_nil hc h.1 h.2.2.registered hnil] at on
    simp at on
  have hcall := step_testLoop_of_on packets pc on
  have henv : Env net replies.reply s flying (.receiver .testLoop) flying := .receiver (by simp)
  have hcalled := step_gathered hc h hcall henv
  have hpos' := hc.timeout.1
  obtain ⟨respInfo, u, later, hreceived, hmatching, hsender, hpackets, hnothing⟩ := exists_received
    packets replies.reply hc (s := { s with receiver := .receiving b s.now }) hfinished h.2.2.registered rfl
    (by show s.now ≤ s.now + _; omega) hcalled.2.2.arrivals
  have hu : Gathered net replies.reply first beginAt completed u later :=
    hreceived.invariant (fun h hs env => step_gathered hc h hs env) hcalled
  have hreached := Machine.Reaches.head hcall henv hreceived
  cases respInfo with
  | some respInfo =>
    obtain ⟨t, hsettles, hhead, hsender', hlt⟩ := hu.2.2.settles_of_some hu.1 hu.2.1 hmatching
    exact ⟨t, later, hreached.trans hsettles, hsender'.trans hsender, hhead, hpackets ▸ hlt⟩
  | none =>
    obtain ⟨t, hsettles, hhead, hsender', hnil⟩ := settles_of_none net packets later replies.reply hmatching
    refine ⟨t, later, hreached.trans hsettles, hsender'.trans hsender, hhead, ?_⟩
    rw [hnil (hu.2.2.allOver hc hu.1 h.2.2.begun (hnothing rfl))]
    exact hpos

theorem Gathered.returns {completed b : Int} (hc : c.Regular)
    (h : Gathered net replies.reply first beginAt completed s flying) (hfinished : s.sender = .finished)
    (pc : s.receiver = .loopHead b) : Returns net packets replies.reply s flying := by
  induction hn : s.mPacketsToBeValidated.length using Nat.strongRecOn generalizing s flying with
  | ind n ih =>
    cases on : s.goesOn c b with
    | false => exact returns_of_off hfinished pc on
    | true =>
      obtain ⟨u, later, hround, hsender, hhead, hlt⟩ := h.round hc hfinished pc on
      have hlater : Gathered net replies.reply first beginAt completed u later :=
        hround.invariant (fun h hs env => step_gathered hc h hs env) h
      exact (ih _ (hn ▸ hlt) hlater hsender hhead rfl).of_reaches hround

/-- The first receive has completed. -/
structure Late (net : Network c.timeout) (reply : Nat → SocketAddress → ResponseInfo × Bytes) (first : Nat)
    (beginAt : Int) (s : State) (flying : List Datagram) : Prop where
  run : InRun net reply first beginAt s flying
  stage : (∃ completed, Gathering net reply first beginAt completed s flying) ∨ Missed c beginAt s

theorem step_late {a : Action} (hc : c.Regular) (h : Late net replies.reply first beginAt s flying)
    (hs : (machine packets c).step s a = some t) (env : Env net replies.reply s flying a rest) :
    Late net replies.reply first beginAt t rest := by
  refine ⟨step_inRun hc h.run hs env, ?_⟩
  rcases h.stage with ⟨completed, hgathering⟩ | hmissed
  · exact Or.inl ⟨completed, hgathering.step hc h.run.conserved h.run.placed hs env⟩
  · exact Or.inr (step_missed hc h.run.conserved h.run.placed hmissed hs env)

theorem InRun.late (h : InRun net reply first beginAt s flying) (hentering : s.receiver ≠ .entering)
    (hhead : ∀ b, s.receiver ≠ .loopHead b) (hreceiving : ∀ b calledAt, s.receiver ≠ .receiving b calledAt) :
    Late net reply first beginAt s flying := by
  refine ⟨h, h.stage.resolve_left fun hprobing => ?_⟩
  rcases hprobing.receiver with hr | ⟨-, hr | hr⟩
  · exact hreceiving _ _ hr
  · exact hentering hr
  · exact hhead _ hr

theorem Late.returns_of_loopHead {b : Int} (hc : c.Regular) (h : Late net replies.reply first beginAt s flying)
    (hfinished : s.sender = .finished) (pc : s.receiver = .loopHead b) : Returns net packets replies.reply s flying := by
  rcases h.stage with ⟨completed, hgathering⟩ | hmissed
  · exact Gathered.returns hc ⟨h.run.conserved, h.run.placed, hgathering⟩ hfinished pc
  · cases on : s.goesOn c b with
    | false => exact returns_of_off hfinished pc on
    | true =>
      have hcall := step_testLoop_of_on packets pc on
      have henv : Env net replies.reply s flying (.receiver .testLoop) flying := .receiver (by simp)
      have hreceiver := (step_missed hc h.run.conserved h.run.placed hmissed hcall henv).receiver
      simp at hreceiver

/-- From a place inside the loop that leads back to its head. -/
theorem Late.returns_of_reaches {b : Int} (hc : c.Regular) (h : Late net replies.reply first beginAt s flying)
    (hfinished : s.sender = .finished)
    (hreaches : (machine packets c).Reaches (Env net replies.reply) s flying t rest) (hsender : t.sender = s.sender)
    (pc : t.receiver = .loopHead b) : Returns net packets replies.reply s flying :=
  have ht : Late net replies.reply first beginAt t rest := hreaches.invariant (fun h hs env => step_late hc h hs env) h
  (ht.returns_of_loopHead hc (hsender.trans hfinished) pc).of_reaches hreaches

theorem Late.returns_of_matching {b : Int} {respInfo : Option ResponseInfo} (hc : c.Regular)
    (h : Late net replies.reply first beginAt s flying) (hfinished : s.sender = .finished)
    (pc : s.receiver = .matching b respInfo) : Returns net packets replies.reply s flying := by
  cases respInfo with
  | none =>
    obtain ⟨t, hreaches, hhead, hsender, -⟩ := settles_of_none net packets flying replies.reply pc
    exact h.returns_of_reaches hc hfinished hreaches hsender hhead
  | some respInfo =>
    rcases h.stage with ⟨completed, hgathering⟩ | hmissed
    · obtain ⟨t, hreaches, hhead, hsender, -⟩ := hgathering.settles_of_some h.run.conserved h.run.placed pc
      exact h.returns_of_reaches hc hfinished hreaches hsender hhead
    · have hreceiver := hmissed.receiver
      simp [pc] at hreceiver

theorem Late.returns_of_sweeping {b : Int} {it : Nat} (hc : c.Regular)
    (h : Late net replies.reply first beginAt s flying) (hfinished : s.sender = .finished)
    (pc : s.receiver = .sweeping b it) : Returns net packets replies.reply s flying := by
  obtain ⟨t, hreaches, hhead, hsender, -⟩ := settles_of_sweeping net packets flying replies.reply pc
  exact h.returns_of_reaches hc hfinished hreaches hsender hhead

theorem Placed.registered (h : Placed c s) (hfinished : s.sender = .finished) : s.pushed.length = c.probeCount := by
  simp only [Placed, hfinished] at h
  rw [← length_positions, Call.positions, ← h, List.length_map]

theorem InRun.returns_of_receiving {b calledAt : Int} (hc : c.Regular)
    (h : InRun net replies.reply first beginAt s flying) (hfinished : s.sender = .finished)
    (pc : s.receiver = .receiving b calledAt) : Returns net packets replies.reply s flying := by
  have harrivals : ∀ g ∈ flying, s.now ≤ g.arrivesAt := by
    rcases h.stage with hprobing | ⟨completed, hgathering⟩ | hmissed
    · exact hprobing.arrivals
    · exact hgathering.arrivals
    · have hreceiver := hmissed.receiver
      simp [pc] at hreceiver
  obtain ⟨respInfo, t, rest, hreceived, hmatching, hsender, -⟩ := exists_received packets replies.reply
    hc hfinished (h.placed.registered hfinished) pc (h.window b calledAt pc) harrivals
  have ht : InRun net replies.reply first beginAt t rest :=
    hreceived.invariant (fun h hs env => step_inRun hc h hs env) h
  have hlate : Late net replies.reply first beginAt t rest := ht.late (by simp [hmatching]) (by simp [hmatching])
    (by simp [hmatching])
  exact (hlate.returns_of_matching hc hsender hmatching).of_reaches hreceived

theorem InRun.returns_of_head {b : Int} (hc : c.Regular) (h : InRun net replies.reply first beginAt s flying)
    (hfinished : s.sender = .finished) (pc : s.receiver = .loopHead b) : Returns net packets replies.reply s flying := by
  cases on : s.goesOn c b with
  | false => exact returns_of_off hfinished pc on
  | true =>
    have hcall := step_testLoop_of_on packets pc on
    have henv : Env net replies.reply s flying (.receiver .testLoop) flying := .receiver (by simp)
    have ht : InRun net replies.reply first beginAt { s with receiver := .receiving b s.now } flying :=
      step_inRun hc h hcall henv
    have hreturns : Returns net packets replies.reply { s with receiver := .receiving b s.now } flying :=
      ht.returns_of_receiving hc hfinished rfl
    exact hreturns.of_step hcall henv

/-- Once the sender has finished. -/
theorem InRun.returns_of_finished (hc : c.Regular) (h : InRun net replies.reply first beginAt s flying)
    (hfinished : s.sender = .finished) : Returns net packets replies.reply s flying := by
  have henv : ∀ {a : ReceiverAction}, a = .readBeginAt ∨ a = .testLoop ∨ a = .lock ∨ a = .matchResponse ∨ a = .sweep ∨
      a = .expire ∨ a = .postprocess (.ok ()) → Env net replies.reply s flying (.receiver a) flying := .receiver
  cases pc : s.receiver with
  | entering =>
    have hs : (machine packets c).step s (.receiver .readBeginAt) = some { s with receiver := .loopHead s.now } := by
      simp only [machine, receiverStep, pc]
    have ht := step_inRun hc h hs (henv (by simp))
    exact (ht.returns_of_head hc hfinished rfl).of_step hs (henv (by simp))
  | loopHead b => exact h.returns_of_head hc hfinished pc
  | receiving b calledAt => exact h.returns_of_receiving hc hfinished pc
  | locking b respInfo =>
    have hs : (machine packets c).step s (.receiver .lock) = some { s with receiver := .matching b respInfo } := by
      simp only [machine, receiverStep, pc]
    have hlate := step_late hc (h.late (by simp [pc]) (by simp [pc]) (by simp [pc])) hs (henv (by simp))
    exact (hlate.returns_of_matching hc hfinished rfl).of_step hs (henv (by simp))
  | matching b respInfo =>
    exact (h.late (by simp [pc]) (by simp [pc]) (by simp [pc])).returns_of_matching hc hfinished pc
  | sweeping b it => exact (h.late (by simp [pc]) (by simp [pc]) (by simp [pc])).returns_of_sweeping hc hfinished pc
  | expiring b it =>
    have hit := h.expires b it pc
    have hs : (machine packets c).step s (.receiver .expire) = some { s.record it s.mPacketsToBeValidated[it]
        (failedProbe (getTimePassedTillNow s.now s.mPacketsToBeValidated[it].sentAt)) none with
        receiver := .sweeping b it } := by
      simp only [machine, receiverStep, pc, List.getElem?_eq_getElem hit]
    have hlate := step_late hc (h.late (by simp [pc]) (by simp [pc]) (by simp [pc])) hs (henv (by simp))
    exact (hlate.returns_of_sweeping hc hfinished rfl).of_step hs (henv (by simp))
  | postprocessing =>
    have hs : (machine packets c).step s (.receiver (.postprocess (.ok ()))) = some { s with
        created := s.created + 1
        receiver := .returned (collectResults (packets s.created).getDestinationAddress s.ttlToProbeResults) } := by
      simp only [machine, receiverStep, pc]
    exact ⟨_, flying, _, .head hs (henv (by simp)) .refl, hfinished, rfl⟩
  | returned results => exact ⟨s, flying, results, .refl, hfinished, pc⟩
  | threw e =>
    rcases h.stage with hprobing | ⟨completed, hgathering⟩ | hmissed
    · have hreceiver := hprobing.receiver
      simp [pc] at hreceiver
    · have hstands := hgathering.stands
      simp only [Stands, pc] at hstands
    · have hreceiver := hmissed.receiver
      simp [pc] at hreceiver

/-- A run in the network can go on until `beginProbing` returns. -/
theorem InRun.returns (packets : Nat → Packet) {replies : Replies c net packets first} (hc : c.Regular)
    (h : InRun net replies.reply first beginAt s flying) : Returns net packets replies.reply s flying := by
  obtain ⟨t, rest, hreaches, ht, hfinished⟩ := h.finishes hc
  exact (ht.returns_of_finished hc hfinished).of_reaches hreaches

end Traceroute.Fast
