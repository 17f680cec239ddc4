import Traceroute.DataSender

/-! Which descriptor `Poll` answers. The array that it gives to `poll(2)` begins with as many entries for descriptor 0 as
    descriptors were asked for: no event is asked of them, but errors and hang-ups are always reported. -/

namespace Traceroute

variable {sys : System} {fds : List Int} {events : UInt16} {timeout result : Int} {asked answered : List Pollfd} {r : Option Int}

/-! ### `poll(2)` -/

/-- The answer that POSIX allows: an entry is given events that it asks for, errors and hang-ups, and none if its descriptor
    is negative; the result counts the entries that are given some. -/
structure PosixAnswer (asked : List Pollfd) (result : Int) (answered : List Pollfd) : Prop where
  same : answered.map (fun p => (p.fd, p.events)) = asked.map fun p => (p.fd, p.events)
  reported : ∀ p ∈ answered, p.revents &&& (p.events ||| POLLERR ||| POLLHUP ||| POLLNVAL) = p.revents
  ignored : ∀ p ∈ answered, p.fd < 0 → p.revents = 0
  counted : result = answered.countP (·.revents != 0)

def System.Posix (sys : System) : Prop :=
  ∀ asked timeout result answered, sys.poll asked timeout = .ok (result, answered) → PosixAnswer asked result answered

/-- The system calls when each descriptor `fd` is in the state `state fd`. -/
def kernel (state : Int → UInt16) (recvfrom : Int → Bytes → Nat → Except Int (UInt64 × SocketAddress × Bytes)) : System where
  poll asked _ :=
    let answered := asked.map fun p =>
      { p with revents := if p.fd < 0 then 0 else state p.fd &&& (p.events ||| POLLERR ||| POLLHUP ||| POLLNVAL) }
    .ok (answered.countP (·.revents != 0), answered)
  recvfrom := recvfrom
  strerror _ := ""

theorem kernel_posix {state : Int → UInt16} {recvfrom : Int → Bytes → Nat → Except Int (UInt64 × SocketAddress × Bytes)} :
    (kernel state recvfrom).Posix := by
  intro asked timeout result answered h
  obtain ⟨rfl, rfl⟩ := Prod.mk.inj (Except.ok.inj h)
  refine ⟨by simp [Function.comp_def], fun p hp => ?_, fun p hp hneg => ?_, rfl⟩
  · obtain ⟨q, -, rfl⟩ := List.mem_map.mp hp
    dsimp only
    split
    · exact UInt16.zero_and
    · rw [UInt16.and_assoc, UInt16.and_self]
  · obtain ⟨q, -, rfl⟩ := List.mem_map.mp hp
    exact if_pos hneg

/-! ### The array -/

/-- The entries that `Poll` has not been asked about, and those that it has. -/
def padding (fds : List Int) (answered : List Pollfd) : List Pollfd := answered.take fds.length
def named (fds : List Int) (answered : List Pollfd) : List Pollfd := answered.drop fds.length

section
variable (h : PosixAnswer (pollfdsOf fds events) result answered)
include h

theorem map_fd_answered : answered.map (·.fd) = List.replicate fds.length 0 ++ fds := by
  have hfd := congrArg (List.map Prod.fst) h.same
  simpa [pollfdsOf, Function.comp_def] using hfd

theorem fd_of_mem_padding {p : Pollfd} (hp : p ∈ padding fds answered) : p.fd = 0 := by
  have hmem := List.mem_map_of_mem (f := (·.fd)) hp
  rw [padding, List.map_take, map_fd_answered h, List.take_left' List.length_replicate] at hmem
  exact List.eq_of_mem_replicate hmem

theorem map_fd_named : (named fds answered).map (·.fd) = fds := by
  rw [named, List.map_drop, map_fd_answered h, List.drop_left' List.length_replicate]

end

/-! ### The answer -/

/-- The first entry that has been given events. -/
def firstReady (l : List Pollfd) : Option Pollfd := l.find? (·.revents != 0)

theorem firstReady_eq_none_iff {l : List Pollfd} : firstReady l = none ↔ ∀ p ∈ l, p.revents = 0 := by
  simp [firstReady]

theorem firstReady_answered (fds : List Int) (answered : List Pollfd) :
    firstReady answered = (firstReady (padding fds answered)).or (firstReady (named fds answered)) := by
  calc firstReady answered = firstReady (answered.take fds.length ++ answered.drop fds.length) := by
        rw [List.take_append_drop]
    _ = (firstReady (padding fds answered)).or (firstReady (named fds answered)) := List.find?_append

/-- `Poll` answers with the first entry that has been given events, whichever it is. -/
theorem Poll_eq (hpoll : sys.poll (pollfdsOf fds events) (Int.bmod timeout (2 ^ 32)) = .ok (result, answered))
    (h : PosixAnswer (pollfdsOf fds events) result answered) :
    Poll sys fds events timeout = .ok ((firstReady answered).map (·.fd)) := by
  rw [Poll, hpoll]
  by_cases hready : ∀ p ∈ answered, p.revents = 0
  · have hcount : answered.countP (·.revents != 0) = 0 := List.countP_eq_zero.mpr fun p hp => by simp [hready p hp]
    simp [h.counted, hcount, firstReady_eq_none_iff.mpr hready]
  · simp only [Classical.not_forall] at hready
    obtain ⟨p, hp, hne⟩ := hready
    have hcount : 0 < answered.countP (·.revents != 0) := List.countP_pos_iff.mpr ⟨p, hp, by simpa using hne⟩
    simp only [h.counted, gt_iff_lt, Int.natCast_pos, hcount, if_true, firstReady]

/-- What `Poll` is to answer: nothing or one of `fds`, and the first of them that has been given events. -/
structure AnswersFor (fds : List Int) (answered : List Pollfd) (r : Option Int) : Prop where
  mem : ∀ fd, r = some fd → fd ∈ fds
  first : ∀ p, firstReady (named fds answered) = some p → r = some p.fd

/-- Descriptor 0 is given no event where it has not been asked for; or it is one of `fds`, and the first of them that is
    given any. -/
def Undisturbed (fds : List Int) (answered : List Pollfd) : Prop :=
  (∀ p ∈ padding fds answered, p.revents = 0) ∨ 0 ∈ fds ∧ ∀ p, firstReady (named fds answered) = some p → p.fd = 0

/-- The descriptor that `Poll` answers is 0 when the padding is given events, and one of `fds` otherwise. -/
theorem firstReady_fd (h : PosixAnswer (pollfdsOf fds events) result answered) :
    ((∀ p ∈ padding fds answered, p.revents = 0) ∧
      (firstReady answered).map (·.fd) = (firstReady (named fds answered)).map (·.fd)) ∨
    (¬(∀ p ∈ padding fds answered, p.revents = 0) ∧ (firstReady answered).map (·.fd) = some 0) := by
  rw [firstReady_answered fds answered]
  cases hpadding : firstReady (padding fds answered) with
  | none => exact Or.inl ⟨firstReady_eq_none_iff.mp hpadding, rfl⟩
  | some p =>
    refine Or.inr ⟨fun hquiet => ?_, ?_⟩
    · rw [firstReady_eq_none_iff.mpr hquiet] at hpadding
      cases hpadding
    · exact congrArg some (fd_of_mem_padding h (List.mem_of_find?_eq_some hpadding))

theorem mem_fds_of_named (h : PosixAnswer (pollfdsOf fds events) result answered) {p : Pollfd}
    (hp : firstReady (named fds answered) = some p) : p.fd ∈ fds := by
  rw [← map_fd_named h]
  exact List.mem_map_of_mem (List.mem_of_find?_eq_some hp)

theorem answersFor_iff (h : PosixAnswer (pollfdsOf fds events) result answered) :
    AnswersFor fds answered ((firstReady answered).map (·.fd)) ↔ Undisturbed fds answered := by
  rcases firstReady_fd h with ⟨hquiet, heq⟩ | ⟨hloud, heq⟩
  · refine iff_of_true ⟨fun fd hfd => ?_, fun p hp => ?_⟩ (Or.inl hquiet)
    · rw [heq] at hfd
      obtain ⟨p, hp, rfl⟩ := Option.map_eq_some_iff.mp hfd
      exact mem_fds_of_named h hp
    · rw [heq, hp]
      rfl
  · rw [heq]
    constructor
    · exact fun hfor => Or.inr ⟨hfor.mem 0 rfl, fun p hp => (Option.some.inj (hfor.first p hp)).symm⟩
    · rintro (hquiet | ⟨hmem, hfirst⟩)
      · exact absurd hquiet hloud
      · refine ⟨fun fd hfd => ?_, fun p hp => by rw [hfirst p hp]⟩
        obtain rfl := Option.some.inj hfd
        exact hmem

/-! ### `tryReceiving` -/

/-- `recvfrom` is called only on a receiving socket, and `at` does not throw. -/
structure DataSender.Receipt.Sound (sender : DataSender) (receipt : Receipt) : Prop where
  receiving : ∀ fd, receipt.recvfrom = some fd → fd ∈ sender.mReceivingSockets
  known : ∀ what, receipt.outcome ≠ .error (.out_of_range what)

theorem DataSender.protocolOf_ok {sender : DataSender} {fd : Int} (h : fd ∈ sender.mReceivingSockets) :
    ∃ protocol, sender.protocolOf fd = .ok protocol := by
  obtain ⟨protocol, hprotocol⟩ := Option.ne_none_iff_exists'.mp (sender.known fd h)
  exact ⟨protocol, by rw [DataSender.protocolOf, hprotocol]⟩

/-- `tryReceiving` calls `recvfrom` on the descriptor that `Poll` answers. -/
theorem DataSender.recvfrom_eq {sender : DataSender} (buffer : Bytes) (bufferSize : Nat)
    (hpoll : sender.getAnySocketReadyToReceive sys timeout = .ok r) :
    (sender.tryReceiving sys buffer bufferSize timeout).recvfrom = r := by
  rw [DataSender.tryReceiving, hpoll]
  cases r with
  | none => rfl
  | some fd =>
    dsimp only
    split <;> rfl

theorem DataSender.sound_iff {sender : DataSender} (buffer : Bytes) (bufferSize : Nat)
    (hpoll : sender.getAnySocketReadyToReceive sys timeout = .ok r) :
    (sender.tryReceiving sys buffer bufferSize timeout).Sound sender ↔ ∀ fd, r = some fd → fd ∈ sender.mReceivingSockets := by
  have hrecvfrom := DataSender.recvfrom_eq buffer bufferSize hpoll
  refine ⟨fun hsound => hrecvfrom ▸ hsound.receiving, fun hmem => ⟨hrecvfrom ▸ hmem, fun what => ?_⟩⟩
  rw [DataSender.tryReceiving, hpoll]
  cases r with
  | none => exact nofun
  | some fd =>
    obtain ⟨protocol, hprotocol⟩ := DataSender.protocolOf_ok (hmem fd rfl)
    dsimp only
    split
    · exact nofun
    · rw [hprotocol]
      exact nofun

/-- `Poll` answers for the descriptors that it is asked about exactly when descriptor 0, which the array begins with, is
    given no events there, or is one of them and the first with any. `tryReceiving` receives from its own sockets exactly
    when descriptor 0 is given no events there, or is one of these. -/
theorem poll_answers_iff (sys : System) (hposix : sys.Posix) :
    (∀ fds events timeout result answered,
      sys.poll (pollfdsOf fds events) (Int.bmod timeout (2 ^ 32)) = .ok (result, answered) →
      ((∃ r, Poll sys fds events timeout = .ok r ∧ AnswersFor fds answered r) ↔ Undisturbed fds answered)) ∧
    ∀ (sender : DataSender) buffer bufferSize timeout result answered,
      sys.poll (pollfdsOf sender.mReceivingSockets POLLIN) (Int.bmod timeout (2 ^ 32)) = .ok (result, answered) →
      ((sender.tryReceiving sys buffer bufferSize timeout).Sound sender ↔
        (∀ p ∈ padding sender.mReceivingSockets answered, p.revents = 0) ∨ 0 ∈ sender.mReceivingSockets) := by
  refine ⟨fun fds events timeout result answered hpoll => ?_,
    fun sender buffer bufferSize timeout result answered hpoll => ?_⟩
  · have h := hposix _ _ _ _ hpoll
    rw [← answersFor_iff h, Poll_eq hpoll h]
    constructor
    · rintro ⟨r, hr, hfor⟩
      cases hr
      exact hfor
    · exact fun hfor => ⟨_, rfl, hfor⟩
  · have h := hposix _ _ _ _ hpoll
    rw [DataSender.sound_iff buffer bufferSize (Poll_eq hpoll h)]
    rcases firstReady_fd h with ⟨hquiet, heq⟩ | ⟨hloud, heq⟩
    · refine iff_of_true (fun fd hfd => ?_) (Or.inl hquiet)
      rw [heq] at hfd
      obtain ⟨p, hp, rfl⟩ := Option.map_eq_some_iff.mp hfd
      exact mem_fds_of_named h hp
    · rw [heq]
      simp [hloud]

/-- Every datagram is empty. -/
def receiveEmpty : Int → Bytes → Nat → Except Int (UInt64 × SocketAddress × Bytes) :=
  fun _ buffer _ => .ok (0, ⟨Vector.replicate 128 0⟩, buffer)

/-- Descriptor 3 is readable. -/
def readable : System := kernel (fun fd => if fd = 3 then POLLIN else 0) receiveEmpty

theorem poll_answers_iff_readable : ∃ r, Poll readable [3] POLLIN 100 = .ok r ∧
    AnswersFor [3] [⟨0, 0, 0⟩, ⟨3, POLLIN, POLLIN⟩] r :=
  ((poll_answers_iff readable kernel_posix).1 [3] POLLIN 100 1 [⟨0, 0, 0⟩, ⟨3, POLLIN, POLLIN⟩] rfl).mpr
    (Or.inl (by decide))

/-- The writer of a pipe that the standard input reads from has closed it. -/
def hungUp : System := kernel (fun fd => if fd = 0 then POLLHUP else 0) receiveEmpty

/-- A `DataSender` with one socket, descriptor 3. -/
def oneSocket : Except Exception DataSender := DataSender.create [⟨⟨3, 1⟩, .Receive⟩] AF_INET

/-- `Poll` answers descriptor 0, and a datagram that `tryReceiving` then receives from it makes it throw. -/
theorem hangup_answered : hungUp.Posix ∧ Poll hungUp [3] POLLIN 100 = .ok (some 0) ∧
    ∃ sender, oneSocket = .ok sender ∧ sender.mReceivingSockets = [3] ∧
      (sender.tryReceiving hungUp (fun _ => 0) BufferSize 100).recvfrom = some 0 ∧
      (sender.tryReceiving hungUp (fun _ => 0) BufferSize 100).outcome = .error (.out_of_range "map::at") :=
  ⟨kernel_posix, rfl, _, rfl, rfl, rfl, rfl⟩

end Traceroute
