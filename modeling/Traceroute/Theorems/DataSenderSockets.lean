import Traceroute.DataSender

/-! Which lists of sockets the constructor of a `DataSender` accepts, and what it makes of them. That there is no
    sending socket yet is encoded as descriptor 0. -/

namespace Traceroute

namespace DataSender

def tooManySenders : Exception := .invalid_argument "There can only be one sending socket in DataSender"

/-- The descriptors with the Send role, and those with the Receive role. -/
def sends (l : List SocketExt) : List Int := (l.filter fun x => x.role.and .Send).map fun x => x.socket.fd
def receives (l : List SocketExt) : List Int := (l.filter fun x => x.role.and .Receive).map fun x => x.socket.fd
def descriptors (l : List SocketExt) : List Int := l.map fun x => x.socket.fd

variable {sender sender' : DataSender} {x : SocketExt} {l : List SocketExt}

theorem sends_cons : sends (x :: l) = if x.role.and .Send then x.socket.fd :: sends l else sends l := by
  rw [sends, List.filter_cons]
  split <;> rfl

theorem receives_cons : receives (x :: l) = if x.role.and .Receive then x.socket.fd :: receives l else receives l := by
  rw [receives, List.filter_cons]
  split <;> rfl

theorem sends_nodup (h : (descriptors l).Nodup) : (sends l).Nodup := h.sublist (List.filter_sublist.map _)

/-! ### One socket -/

/-- What the loop's body adds. -/
structure Adds (sender : DataSender) (x : SocketExt) (sender' : DataSender) : Prop where
  receiving : sender'.mReceivingSockets =
    if x.role.and .Receive then sender.mReceivingSockets ++ [x.socket.fd] else sender.mReceivingSockets
  sending : sender'.mSendingSocket = if x.role.and .Send then x.socket.fd else sender.mSendingSocket
  protocol : sender'.fdToProtocol.get? x.socket.fd = some x.socket.protocol
  others : ∀ fd, fd ≠ x.socket.fd → sender'.fdToProtocol.get? fd = sender.fdToProtocol.get? fd

theorem addSocket_error (hrole : x.role.and .Send = true) (hne : sender.mSendingSocket ≠ 0) :
    addSocket sender x = .error tooManySenders := by
  rw [addSocket, if_pos (by rw [hrole, bne_iff_ne.mpr hne]; rfl)]
  rfl

theorem addSocket_ok (h : x.role.and .Send = true → sender.mSendingSocket = 0) :
    ∃ sender', addSocket sender x = .ok sender' ∧ sender.Adds x sender' := by
  have hcond : ¬(x.role.and .Send && sender.mSendingSocket != 0) = true := by
    intro hboth
    obtain ⟨hrole, hne⟩ := (Bool.and_eq_true _ _).mp hboth
    exact bne_iff_ne.mp hne (h hrole)
  rw [addSocket, if_neg hcond]
  exact ⟨_, rfl, rfl, rfl, OrderedMap.get?_alter_self, fun fd hfd => OrderedMap.get?_alter_of_ne hfd⟩

/-! ### The loop -/

/-- The sending socket after sockets with the Send role, or none when the constructor has thrown. -/
def lastSender : Int → List Int → Option Int
  | s, [] => some s
  | s, fd :: fds => if s ≠ 0 then none else lastSender fd fds

/-- What the constructor's loop has made of a list of sockets. -/
structure Loads (sender : DataSender) (l : List SocketExt) (sender' : DataSender) : Prop where
  receiving : sender'.mReceivingSockets = sender.mReceivingSockets ++ receives l
  sending : lastSender sender.mSendingSocket (sends l) = some sender'.mSendingSocket
  protocol : (descriptors l).Nodup → ∀ x ∈ l, sender'.fdToProtocol.get? x.socket.fd = some x.socket.protocol
  others : ∀ fd ∉ descriptors l, sender'.fdToProtocol.get? fd = sender.fdToProtocol.get? fd

theorem Loads.nil (sender : DataSender) : sender.Loads [] sender where
  receiving := (List.append_nil _).symm
  sending := rfl
  protocol _ x hx := by cases hx
  others _ _ := rfl

theorem lastSender_cons {next : DataSender} (hrole : x.role.and .Send = true → sender.mSendingSocket = 0)
    (hadds : sender.Adds x next) :
    lastSender sender.mSendingSocket (sends (x :: l)) = lastSender next.mSendingSocket (sends l) := by
  rw [hadds.sending, sends_cons]
  by_cases hsend : x.role.and .Send = true
  · rw [if_pos hsend, if_pos hsend, lastSender, if_neg (not_not.mpr (hrole hsend))]
  · rw [if_neg hsend, if_neg hsend]

theorem Loads.cons {next : DataSender} (hrole : x.role.and .Send = true → sender.mSendingSocket = 0)
    (hadds : sender.Adds x next) (hloads : next.Loads l sender') : sender.Loads (x :: l) sender' where
  receiving := by
    rw [hloads.receiving, hadds.receiving, receives_cons]
    split
    · rw [List.append_assoc, List.singleton_append]
    · rfl
  sending := (lastSender_cons hrole hadds).trans hloads.sending
  protocol := by
    intro hnodup y hy
    obtain ⟨hnotMem, hrest⟩ := List.nodup_cons.mp hnodup
    rcases List.mem_cons.mp hy with rfl | hy
    · rw [hloads.others _ hnotMem, hadds.protocol]
    · exact hloads.protocol hrest y hy
  others := by
    intro fd hfd
    obtain ⟨hne, hnotMem⟩ := List.ne_and_not_mem_of_not_mem_cons hfd
    rw [hloads.others fd hnotMem, hadds.others fd hne]

/-- The constructor throws when a second sending socket follows one whose descriptor is not 0. -/
theorem foldlM_addSocket (sender : DataSender) (l : List SocketExt) :
    (lastSender sender.mSendingSocket (sends l) = none ∧ l.foldlM addSocket sender = .error tooManySenders) ∨
      ∃ sender', l.foldlM addSocket sender = .ok sender' ∧ sender.Loads l sender' := by
  induction l generalizing sender with
  | nil => exact .inr ⟨sender, rfl, .nil sender⟩
  | cons x l ih =>
    rw [List.foldlM_cons]
    by_cases hrole : x.role.and .Send = true → sender.mSendingSocket = 0
    · obtain ⟨next, hadd, hadds⟩ := addSocket_ok hrole
      rw [hadd]
      rcases ih next with ⟨hlast, herror⟩ | ⟨sender', hok, hloads⟩
      · exact .inl ⟨(lastSender_cons hrole hadds).trans hlast, herror⟩
      · exact .inr ⟨sender', hok, hloads.cons hrole hadds⟩
    · obtain ⟨hsend, hne⟩ := Classical.not_imp.mp hrole
      rw [addSocket_error hsend hne]
      refine .inl ⟨?_, rfl⟩
      rw [sends_cons, if_pos hsend, lastSender, if_pos hne]

/-- Two sending sockets are accepted when the first has descriptor 0. -/
theorem lastSender_eq_none_iff {fds : List Int} (h : fds.Nodup) :
    lastSender 0 fds = none ↔ 2 ≤ fds.length ∧ ¬∃ fd, fds = [0, fd] := by
  match fds with
  | [] => simp [lastSender]
  | [a] => simp [lastSender]
  | [a, b] => simp [lastSender]
  | a :: b :: c :: rest =>
    by_cases ha : a = 0
    · have hb : b ≠ 0 := by
        rintro rfl
        rw [ha] at h
        simp at h
      simp [lastSender, ha, hb]
    · simp [lastSender, ha]

/-- Without two sending sockets, the one that there is becomes the sending socket. -/
theorem lastSender_eq_of_mem {fds : List Int} {s fd : Int} (h : lastSender 0 fds = some s) (hlength : fds.length < 2)
    (hmem : fd ∈ fds) : s = fd := by
  match fds with
  | [a] =>
    rw [List.mem_singleton.mp hmem]
    simpa [lastSender] using h.symm
  | _ :: _ :: rest => exact absurd hlength (Nat.not_lt.mpr (Nat.le_add_left 2 rest.length))

/-- The constructor throws for two sending sockets or more and for no other list, and a list that it does not have to
    refuse is taken over as it is. -/
structure AcceptsAtMostOneSender (l : List SocketExt) (family : Int) : Prop where
  throws : create l family = .error tooManySenders ↔ 2 ≤ (sends l).length
  accepts : (sends l).length < 2 → ∃ sender, create l family = .ok sender ∧ sender.mReceivingSockets = receives l ∧
    (∀ x ∈ l, x.role.and .Send = true → sender.mSendingSocket = x.socket.fd) ∧
    ∀ x ∈ l, sender.fdToProtocol.get? x.socket.fd = some x.socket.protocol

/-- Two sending sockets, the first of them with descriptor 0, are accepted; every other list is dealt with right. -/
theorem accepts_at_most_one_sender_iff (l : List SocketExt) (family : Int) (hnodup : (descriptors l).Nodup) :
    AcceptsAtMostOneSender l family ↔ ¬∃ fd, sends l = [0, fd] := by
  have hlast := lastSender_eq_none_iff (sends_nodup hnodup)
  rcases foldlM_addSocket ⟨.empty, [], 0, family, fun _ hfd => absurd hfd List.not_mem_nil⟩ l with ⟨hnone, herror⟩ | ⟨sender, hok, hloads⟩
  · obtain ⟨hlength, hcond⟩ := hlast.mp hnone
    refine iff_of_true ⟨iff_of_true herror hlength, fun hlt => absurd hlength (Nat.not_le.mpr hlt)⟩ hcond
  · have hthrows : ¬create l family = .error tooManySenders := by
      intro herror
      rw [create, hok] at herror
      cases herror
    have hsome : ¬lastSender 0 (sends l) = none := by
      rw [hloads.sending]
      exact Option.some_ne_none _
    constructor
    · rintro haccepts ⟨fd, heq⟩
      exact hthrows (haccepts.throws.mpr (by rw [heq]; exact Nat.le_refl 2))
    · intro hcond
      have hlt : (sends l).length < 2 := Nat.not_le.mp fun hlength => hsome (hlast.mpr ⟨hlength, hcond⟩)
      refine ⟨iff_of_false hthrows (Nat.not_le.mpr hlt), fun _ => ⟨sender, hok, hloads.receiving, ?_, hloads.protocol hnodup⟩⟩
      intro x hx hsend
      exact lastSender_eq_of_mem hloads.sending hlt (List.mem_map.mpr ⟨x, List.mem_filter.mpr ⟨hx, hsend⟩, rfl⟩)

/-- Descriptors 3 and 4, as when the standard descriptors are open. -/
theorem accepts_at_most_one_sender_iff_open : AcceptsAtMostOneSender [⟨⟨3, 1⟩, .Receive⟩, ⟨⟨4, 6⟩, .Send⟩] 2 :=
  (accepts_at_most_one_sender_iff [⟨⟨3, 1⟩, .Receive⟩, ⟨⟨4, 6⟩, .Send⟩] 2 (by decide)).mpr (by
    rintro ⟨fd, heq⟩
    cases heq)

/-- Descriptors 0 and 3, as when standard input is closed: the first sending socket is forgotten. -/
theorem accepts_two_senders : ∃ sender, create [⟨⟨0, 6⟩, .Send⟩, ⟨⟨3, 17⟩, .Send⟩] 2 = .ok sender ∧
    sender.mSendingSocket = 3 ∧ ¬AcceptsAtMostOneSender [⟨⟨0, 6⟩, .Send⟩, ⟨⟨3, 17⟩, .Send⟩] 2 := by
  refine ⟨_, rfl, rfl, fun haccepts => ?_⟩
  cases haccepts.throws.mpr (by decide)

end DataSender
end Traceroute
