import Traceroute.Sockets

/-! Which descriptors are left open when making sockets, or resolving the source address, fails: every socket that
    the call has opened. No path that throws closes one. -/

namespace Traceroute

variable {α β : Type} {kernel : Kernel} {w w' : World} {fd : Int} {n k : Nat}

/-! ### Running a call -/

theorem Sys.bind_ok {m : Sys α} {f : α → Sys β} {a : α} (h : m w = (.ok a, w')) : (m >>= f) w = f a w' := by
  simp [Bind.bind, ExceptT.bind, ExceptT.mk, ExceptT.bindCont, StateT.bind, h]

theorem Sys.bind_error {m : Sys α} {f : α → Sys β} {e : Exception} (h : m w = (.error e, w')) :
    (m >>= f) w = (.error e, w') := by
  simp [Bind.bind, ExceptT.bind, ExceptT.mk, ExceptT.bindCont, StateT.bind, h]
  rfl

/-- The call that is `i` calls ahead succeeds when it is made on the descriptor. -/
def Kernel.Grants (kernel : Kernel) (fd : Int) (w : World) (i : Nat) : Prop :=
  fd ∈ w.descriptors ∧ kernel.outcome (w.calls.length + i) = none

theorem Kernel.onDescriptor_true (call : SystemCall) (h : kernel.Grants fd w 0) :
    kernel.onDescriptor fd call w = (.ok true, { w with calls := w.calls ++ [call] }) := by
  have houtcome : kernel.outcome w.calls.length = none := h.2
  simp only [onDescriptor, if_pos h.1, houtcome]

theorem Kernel.onDescriptor_false (call : SystemCall) (h : ¬kernel.Grants fd w 0) :
    ∃ errno, kernel.onDescriptor fd call w = (.ok false, { w with calls := w.calls ++ [call], errno }) := by
  have hsome : ∃ errno, (if fd ∈ w.descriptors then kernel.outcome w.calls.length else some EBADF) = some errno := by
    by_cases hfd : fd ∈ w.descriptors
    · rw [if_pos hfd]
      exact Option.ne_none_iff_exists'.mp fun hnone => h ⟨hfd, hnone⟩
    · exact ⟨EBADF, if_neg hfd⟩
  obtain ⟨errno, hsome⟩ := hsome
  exact ⟨errno, by simp only [onDescriptor, hsome]⟩

theorem Kernel.Grants.shift (hfd : w'.descriptors = w.descriptors) (hcalls : w'.calls.length = w.calls.length + n)
    {i : Nat} : kernel.Grants fd w' i ↔ kernel.Grants fd w (n + i) := by
  rw [Grants, Grants, hfd, hcalls, Nat.add_assoc]

theorem Kernel.grants_next (call : SystemCall) {i : Nat} :
    kernel.Grants fd { w with calls := w.calls ++ [call] } i ↔ kernel.Grants fd w (1 + i) :=
  @Grants.shift kernel w { w with calls := w.calls ++ [call] } fd 1 rfl List.length_append i

/-! ### Calls on one descriptor -/

/-- Makes `n` calls on the descriptor, and throws when one does not succeed, with the descriptors as they were. -/
structure Tries (kernel : Kernel) (fd : Int) (n : Nat) (m : Sys α) : Prop where
  done : ∀ w, (∀ i < n, kernel.Grants fd w i) → ∃ a w', m w = (.ok a, w')
  failed : ∀ w, (∃ i < n, ¬kernel.Grants fd w i) → ∃ e w', m w = (.error e, w') ∧ w'.descriptors = w.descriptors

/-- When all succeed, the descriptors are as they were too. -/
structure Attempts (kernel : Kernel) (fd : Int) (n : Nat) (m : Sys α) : Prop extends Tries kernel fd n m where
  stays : ∀ w a w', m w = (.ok a, w') → w'.descriptors = w.descriptors ∧ w'.calls.length = w.calls.length + n

theorem Attempts.pure (a : α) : Attempts kernel fd 0 (Pure.pure a : Sys α) where
  done w _ := ⟨a, w, rfl⟩
  failed w h := by
    obtain ⟨i, hi, -⟩ := h
    cases hi
  stays w a w' h := by
    cases h
    exact ⟨rfl, rfl⟩

section Bind
variable {m : Sys α} {f : α → Sys β}

theorem Attempts.bind_tries (hm : Attempts kernel fd n m) (hf : ∀ a, Tries kernel fd k (f a)) :
    Tries kernel fd (n + k) (m >>= f) where
  done w h := by
    obtain ⟨a, w', hrun⟩ := hm.done w fun i hi => h i (Nat.lt_add_right k hi)
    obtain ⟨hfd, hcalls⟩ := hm.stays w a w' hrun
    obtain ⟨b, w'', hrun'⟩ := (hf a).done w' fun i hi =>
      (Kernel.Grants.shift hfd hcalls).mpr (h (n + i) (Nat.add_lt_add_left hi n))
    exact ⟨b, w'', (Sys.bind_ok hrun).trans hrun'⟩
  failed w h := by
    by_cases hn : ∀ i < n, kernel.Grants fd w i
    · obtain ⟨a, w', hrun⟩ := hm.done w hn
      obtain ⟨hfd, hcalls⟩ := hm.stays w a w' hrun
      obtain ⟨i, hi, hnot⟩ := h
      have hge : n ≤ i := Nat.not_lt.mp fun hlt => hnot (hn i hlt)
      obtain ⟨e, w'', hrun', hfd'⟩ := (hf a).failed w' ⟨i - n, by omega, by
        rwa [Kernel.Grants.shift hfd hcalls, Nat.add_sub_cancel' hge]⟩
      exact ⟨e, w'', (Sys.bind_ok hrun).trans hrun', hfd'.trans hfd⟩
    · obtain ⟨i, hi⟩ := not_forall.mp hn
      obtain ⟨hlt, hnot⟩ := Classical.not_imp.mp hi
      obtain ⟨e, w', hrun, hfd⟩ := hm.failed w ⟨i, hlt, hnot⟩
      exact ⟨e, w', Sys.bind_error hrun, hfd⟩

/-- What has returned has run both parts. -/
theorem Sys.bind_eq_ok {b : β} (h : (m >>= f) w = (.ok b, w')) : ∃ a w₁, m w = (.ok a, w₁) ∧ f a w₁ = (.ok b, w') := by
  cases hm : m w with
  | mk outcome w₁ =>
    cases outcome with
    | error e =>
      rw [Sys.bind_error hm] at h
      cases h
    | ok a => exact ⟨a, w₁, rfl, (Sys.bind_ok hm).symm.trans h⟩

theorem Attempts.bind (hm : Attempts kernel fd n m) (hf : ∀ a, Attempts kernel fd k (f a)) :
    Attempts kernel fd (n + k) (m >>= f) where
  toTries := hm.bind_tries fun a => (hf a).toTries
  stays w b w' h := by
    obtain ⟨a, w₁, hrun, hrun'⟩ := Sys.bind_eq_ok h
    obtain ⟨hfd, hcalls⟩ := hm.stays w a w₁ hrun
    obtain ⟨hfd', hcalls'⟩ := (hf a).stays w₁ b w' hrun'
    exact ⟨hfd'.trans hfd, by rw [hcalls', hcalls, Nat.add_assoc]⟩

/-- A call that is followed by a `throw` when it fails. -/
theorem Tries.check (call : SystemCall) {onError : Sys α} (h : ∀ w, ∃ e, onError w = (.error e, w))
    (hm : Tries kernel fd k m) :
    Tries kernel fd (1 + k) (kernel.onDescriptor fd call >>= fun done => if !done then onError else m) where
  done w hgrants := by
    have hrun := Kernel.onDescriptor_true call (hgrants 0 (Nat.lt_add_right k Nat.zero_lt_one))
    obtain ⟨a, w', hrun'⟩ := hm.done { w with calls := w.calls ++ [call] } fun i hi =>
      (Kernel.grants_next call).mpr (hgrants (1 + i) (Nat.add_lt_add_left hi 1))
    exact ⟨a, w', (Sys.bind_ok hrun).trans hrun'⟩
  failed w hgrants := by
    by_cases hfirst : kernel.Grants fd w 0
    · have hrun := Kernel.onDescriptor_true call hfirst
      obtain ⟨i, hi, hnot⟩ := hgrants
      have hpos : 1 ≤ i := Nat.pos_of_ne_zero fun hzero => hnot (hzero ▸ hfirst)
      obtain ⟨e, w', herror, hfd⟩ := hm.failed { w with calls := w.calls ++ [call] } ⟨i - 1, by omega, by
        rwa [Kernel.grants_next, Nat.add_sub_cancel' hpos]⟩
      exact ⟨e, w', (Sys.bind_ok hrun).trans herror, hfd⟩
    · obtain ⟨errno, hrun⟩ := Kernel.onDescriptor_false call hfirst
      obtain ⟨e, herror⟩ := h { w with calls := w.calls ++ [call], errno }
      exact ⟨e, _, (Sys.bind_ok hrun).trans herror, rfl⟩

theorem Attempts.check (call : SystemCall) {onError : Sys α} (h : ∀ w, ∃ e, onError w = (.error e, w))
    (hm : Attempts kernel fd k m) :
    Attempts kernel fd (1 + k) (kernel.onDescriptor fd call >>= fun done => if !done then onError else m) where
  toTries := hm.toTries.check call h
  stays w a w' hok := by
    by_cases hfirst : kernel.Grants fd w 0
    · have hrun := Kernel.onDescriptor_true call hfirst
      rw [Sys.bind_ok hrun] at hok
      obtain ⟨hfd, hcalls⟩ := hm.stays _ a w' hok
      exact ⟨hfd, by rw [hcalls, List.length_append, Nat.add_assoc]; rfl⟩
    · obtain ⟨errno, hrun⟩ := Kernel.onDescriptor_false call hfirst
      obtain ⟨e, herror⟩ := h { w with calls := w.calls ++ [call], errno }
      rw [Sys.bind_ok hrun] at hok
      cases herror.symm.trans hok

end Bind

theorem bindInterface_attempts (ifaceName : String) : Attempts kernel fd 1 (bindInterface kernel fd ifaceName) :=
  .check _ (fun _ => ⟨_, rfl⟩) (.pure ())

theorem bindIpAddress_attempts (address : SocketAddress) : Attempts kernel fd 1 (bindIpAddress kernel fd address) :=
  .check _ (fun _ => ⟨_, rfl⟩) (.pure ())

/-- The calls that an interface name costs. -/
def interfaceCalls (ifaceName : Option String) : Nat := if ifaceName.isSome then 1 else 0

theorem bindNamedInterface_attempts (ifaceName : Option String) :
    Attempts kernel fd (interfaceCalls ifaceName) (bindNamedInterface kernel fd ifaceName) := by
  cases ifaceName with
  | none => exact .pure ()
  | some ifaceName => exact bindInterface_attempts ifaceName

theorem bindToIpAddressAndInterface_attempts (address : SocketAddress) (ifaceName : Option String) :
    Attempts kernel fd (interfaceCalls ifaceName + 1) (bindToIpAddressAndInterface kernel fd address ifaceName) :=
  (bindNamedInterface_attempts ifaceName).bind fun _ => bindIpAddress_attempts address

/-! ### A socket and calls on it -/

/-- Makes `n` calls, the first of them opening a socket, and throws when one does not succeed: with the descriptors as
    they were when it is the first, with that socket left open when it is another. -/
structure Leaky (kernel : Kernel) (n : Nat) (m : Sys α) : Prop where
  refused : ∀ w, kernel.outcome w.calls.length ≠ none → ∃ e w', m w = (.error e, w') ∧ w'.descriptors = w.descriptors
  failed : ∀ w, kernel.outcome w.calls.length = none → (∃ i < n, kernel.outcome (w.calls.length + i) ≠ none) →
    ∃ e w', m w = (.error e, w') ∧ kernel.newDescriptor w.descriptors :: w.descriptors ⊆ w'.descriptors
  done : ∀ w, (∀ i < n, kernel.outcome (w.calls.length + i) = none) → ∃ a w', m w = (.ok a, w')

/-- When all succeed, the socket stays open. -/
structure Opens (kernel : Kernel) (n : Nat) (m : Sys α) : Prop extends Leaky kernel n m where
  stays : ∀ w a w', m w = (.ok a, w') →
    w'.descriptors = kernel.newDescriptor w.descriptors :: w.descriptors ∧ w'.calls.length = w.calls.length + n

theorem Kernel.socket_error {domain protocol : Int} {type : Nat} (h : kernel.outcome w.calls.length ≠ none) :
    ∃ w', kernel.socket domain type protocol w = (.ok (-1), w') ∧ w'.descriptors = w.descriptors := by
  obtain ⟨errno, hsome⟩ := Option.ne_none_iff_exists'.mp h
  exact ⟨{ w with calls := w.calls ++ [.socket domain type protocol], errno }, by simp only [socket, hsome], rfl⟩

theorem Kernel.socket_ok {domain protocol : Int} {type : Nat} (h : kernel.outcome w.calls.length = none) :
    ∃ w', kernel.socket domain type protocol w = (.ok (kernel.newDescriptor w.descriptors), w') ∧
      w'.descriptors = kernel.newDescriptor w.descriptors :: w.descriptors ∧ w'.calls.length = w.calls.length + 1 :=
  ⟨_, by simp only [socket, h]; rfl, rfl, List.length_append⟩

/-- On -1 no call succeeds. -/
theorem Kernel.not_grants (kernel : Kernel) (w : World) (i : Nat) : ¬kernel.Grants (-1) w i := by
  intro h
  exact absurd (w.nonneg _ h.1) (by decide)

theorem Leaky.of_tries {domain protocol : Int} {type : Nat} {f : Int → Sys α} (hn : 0 < n)
    (hf : ∀ fd, Tries kernel fd n (f fd)) : Leaky kernel (1 + n) (kernel.socket domain type protocol >>= f) where
  refused w h := by
    obtain ⟨w', hrun, hfd⟩ := Kernel.socket_error h
    obtain ⟨e, w'', herror, hfd'⟩ := (hf (-1)).failed w' ⟨0, hn, kernel.not_grants w' 0⟩
    exact ⟨e, w'', (Sys.bind_ok hrun).trans herror, hfd'.trans hfd⟩
  failed w h hfails := by
    obtain ⟨w', hrun, hfd, hcalls⟩ := Kernel.socket_ok h
    obtain ⟨i, hi, hne⟩ := hfails
    have hpos : 1 ≤ i := Nat.pos_of_ne_zero fun hzero => hne (by rw [hzero, Nat.add_zero, h])
    obtain ⟨e, w'', herror, hfd'⟩ := (hf _).failed w' ⟨i - 1, by omega, fun hgrants => hne (by
      rw [← Nat.add_sub_cancel' hpos, ← Nat.add_assoc, ← hcalls]
      exact hgrants.2)⟩
    refine ⟨e, w'', (Sys.bind_ok hrun).trans herror, ?_⟩
    rw [hfd', hfd]
    exact List.Subset.refl _
  done w hall := by
    obtain ⟨w', hrun, hfd, hcalls⟩ := Kernel.socket_ok (hall 0 (by omega))
    obtain ⟨a, w'', hrun'⟩ := (hf (kernel.newDescriptor w.descriptors)).done w' fun i hi =>
      ⟨hfd ▸ List.mem_cons_self, by rw [hcalls, Nat.add_assoc]; exact hall (1 + i) (Nat.add_lt_add_left hi 1)⟩
    exact ⟨a, w'', (Sys.bind_ok hrun).trans hrun'⟩

theorem Opens.of_attempts {domain protocol : Int} {type : Nat} {f : Int → Sys α} (hn : 0 < n)
    (hf : ∀ fd, Attempts kernel fd n (f fd)) : Opens kernel (1 + n) (kernel.socket domain type protocol >>= f) where
  toLeaky := .of_tries hn fun fd => (hf fd).toTries
  stays w a w' hok := by
    by_cases h : kernel.outcome w.calls.length = none
    · obtain ⟨w₁, hrun, hfd, hcalls⟩ := @Kernel.socket_ok kernel w domain protocol type h
      rw [Sys.bind_ok hrun] at hok
      obtain ⟨hfd', hcalls'⟩ := (hf _).stays w₁ a w' hok
      exact ⟨hfd'.trans hfd, by rw [hcalls', hcalls, Nat.add_assoc]⟩
    · obtain ⟨e, w₁, herror, -⟩ := (Leaky.of_tries hn fun fd => (hf fd).toTries).refused w h
      cases herror.symm.trans hok

theorem Opens.bind_leaky {m : Sys α} {f : α → Sys β} (hm : Opens kernel n m) (hf : ∀ a, Leaky kernel k (f a)) :
    Leaky kernel (n + k) (m >>= f) where
  refused w h := by
    obtain ⟨e, w', herror, hfd⟩ := hm.refused w h
    exact ⟨e, w', Sys.bind_error herror, hfd⟩
  failed w h hfails := by
    by_cases hn : ∀ i < n, kernel.outcome (w.calls.length + i) = none
    · obtain ⟨a, w', hrun⟩ := hm.done w hn
      obtain ⟨hfd, hcalls⟩ := hm.stays w a w' hrun
      by_cases hsecond : kernel.outcome w'.calls.length = none
      · obtain ⟨i, hi, hne⟩ := hfails
        have hge : n ≤ i := Nat.not_lt.mp fun hlt => hne (hn i hlt)
        obtain ⟨e, w'', herror, hfd'⟩ := (hf a).failed w' hsecond ⟨i - n, by omega, by
          rwa [hcalls, Nat.add_assoc, Nat.add_sub_cancel' hge]⟩
        refine ⟨e, w'', (Sys.bind_ok hrun).trans herror, ?_⟩
        rw [← hfd]
        exact fun fd hmem => hfd' (List.mem_cons_of_mem _ hmem)
      · obtain ⟨e, w'', herror, hfd'⟩ := (hf a).refused w' hsecond
        refine ⟨e, w'', (Sys.bind_ok hrun).trans herror, ?_⟩
        rw [hfd', hfd]
        exact List.Subset.refl _
    · obtain ⟨i, hi⟩ := not_forall.mp hn
      obtain ⟨hlt, hnot⟩ := Classical.not_imp.mp hi
      obtain ⟨e, w', herror, hfd⟩ := hm.failed w h ⟨i, hlt, hnot⟩
      exact ⟨e, w', Sys.bind_error herror, hfd⟩
  done w hall := by
    obtain ⟨a, w', hrun⟩ := hm.done w fun i hi => hall i (Nat.lt_add_right k hi)
    obtain ⟨hfd, hcalls⟩ := hm.stays w a w' hrun
    obtain ⟨b, w'', hrun'⟩ := (hf a).done w' fun i hi => by
      rw [hcalls, Nat.add_assoc]
      exact hall (n + i) (Nat.add_lt_add_left hi n)
    exact ⟨b, w'', (Sys.bind_ok hrun).trans hrun'⟩

theorem Leaky.map {m : Sys α} (g : α → β) (hm : Leaky kernel n m) : Leaky kernel n (m >>= fun a => pure (g a)) where
  refused w h := by
    obtain ⟨e, w', herror, hfd⟩ := hm.refused w h
    exact ⟨e, w', Sys.bind_error herror, hfd⟩
  failed w h hfails := by
    obtain ⟨e, w', herror, hfd⟩ := hm.failed w h hfails
    exact ⟨e, w', Sys.bind_error herror, hfd⟩
  done w hall := by
    obtain ⟨a, w', hrun⟩ := hm.done w hall
    exact ⟨g a, w', Sys.bind_ok hrun⟩

/-! ### The functions -/

/-- The calls for a raw socket. -/
def setupCalls (addressToBind : SocketAddress) (ifaceName : Option String) : Nat :=
  1 + (interfaceCalls ifaceName + 1 + if addressToBind.isV6 then 1 else 0)

theorem setupRawSocket_opens (protocol : Int) (option : SocketOption) (what : Int → String) (addressToBind : SocketAddress)
    (ifaceName : Option String) : Opens kernel (setupCalls addressToBind ifaceName)
      (setupRawSocket kernel protocol option what addressToBind ifaceName) := by
  rw [setupRawSocket, setupCalls]
  refine .of_attempts (by omega) fun fd => ?_
  refine (bindToIpAddressAndInterface_attempts addressToBind ifaceName).bind fun _ => ?_
  split
  · exact .check _ (fun _ => ⟨_, rfl⟩) (.pure _)
  · exact .pure _

theorem Kernel.getsockname_some (memory : Vector UInt8 128) (len : UInt32) (h : kernel.Grants fd w 0) :
    kernel.getsockname fd memory len w = (.ok (some (Kernel.copied (kernel.localAddress w.calls.length) memory len)),
      { w with calls := w.calls ++ [.getsockname fd len] }) := by
  have hget : (get : Sys World) w = (.ok w, w) := rfl
  rw [Kernel.getsockname, Sys.bind_ok hget, Sys.bind_ok (Kernel.onDescriptor_true (.getsockname fd len) h), if_pos rfl]
  rfl

theorem Kernel.getsockname_none (memory : Vector UInt8 128) (len : UInt32) (h : ¬kernel.Grants fd w 0) :
    ∃ errno, kernel.getsockname fd memory len w =
      (.ok none, { w with calls := w.calls ++ [.getsockname fd len], errno }) := by
  have hget : (get : Sys World) w = (.ok w, w) := rfl
  obtain ⟨errno, hrun⟩ := Kernel.onDescriptor_false (.getsockname fd len) h
  refine ⟨errno, ?_⟩
  rw [Kernel.getsockname, Sys.bind_ok hget, Sys.bind_ok hrun, if_neg Bool.false_ne_true]
  rfl

theorem resolveSourceAddress_leaky (memory : Vector UInt8 128) (len : UInt32) (destination : SocketAddress)
    (ifaceName : Option String) : Leaky kernel (1 + (interfaceCalls ifaceName + (1 + 1)))
      (resolveSourceAddress kernel memory len destination ifaceName) := by
  refine .of_tries (by omega) fun fd => ?_
  refine (bindNamedInterface_attempts ifaceName).bind_tries fun _ => ?_
  refine .check _ (fun _ => ⟨_, rfl⟩) ⟨fun w hgrants => ?_, fun w hgrants => ?_⟩
  · exact ⟨_, _, Sys.bind_ok (Kernel.getsockname_some memory len (hgrants 0 Nat.zero_lt_one))⟩
  · obtain ⟨i, hi, hnot⟩ := hgrants
    obtain rfl := Nat.lt_one_iff.mp hi
    obtain ⟨errno, hrun⟩ := Kernel.getsockname_none memory len hnot
    exact ⟨_, _, Sys.bind_ok hrun, rfl⟩

theorem IcmpSocketProvider.createSockets_leaky (addressToBind : SocketAddress) (ifaceNameToBind : Option String) :
    Leaky kernel (setupCalls addressToBind ifaceNameToBind)
      (IcmpSocketProvider.createSockets kernel addressToBind ifaceNameToBind) :=
  (setupRawSocket_opens ..).toLeaky.map _

theorem TcpSocketProvider.createSockets_leaky (addressToBind : SocketAddress) (ifaceNameToBind : Option String) :
    Leaky kernel (setupCalls addressToBind ifaceNameToBind + setupCalls addressToBind ifaceNameToBind)
      (TcpSocketProvider.createSockets kernel addressToBind ifaceNameToBind) :=
  (setupRawSocket_opens ..).bind_leaky fun _ => (setupRawSocket_opens ..).toLeaky.map _

theorem UdpSocketProvider.createSockets_leaky (addressToBind : SocketAddress) (ifaceNameToBind : Option String) :
    Leaky kernel (setupCalls addressToBind ifaceNameToBind + setupCalls addressToBind ifaceNameToBind)
      (UdpSocketProvider.createSockets kernel addressToBind ifaceNameToBind) :=
  (setupRawSocket_opens ..).bind_leaky fun _ => (setupRawSocket_opens ..).toLeaky.map _

/-- When the call leaves by an exception, the same descriptors are open as before. -/
def KeepsDescriptors (m : Sys α) (w : World) : Prop :=
  ∀ e w', m w = (.error e, w') → ∀ fd, fd ∈ w'.descriptors ↔ fd ∈ w.descriptors

/-- The first of the next `n` system calls fails, or none of them does. -/
def FirstOrNone (kernel : Kernel) (w : World) (n : Nat) : Prop :=
  kernel.outcome w.calls.length ≠ none ∨ ∀ i < n, kernel.outcome (w.calls.length + i) = none

theorem Leaky.keeps_iff {m : Sys α} (hm : Leaky kernel n m) (w : World) : KeepsDescriptors m w ↔ FirstOrNone kernel w n := by
  constructor
  · intro hkeeps
    by_contra hnot
    obtain ⟨hfirst, hlater⟩ := not_or.mp hnot
    obtain ⟨i, hi⟩ := not_forall.mp hlater
    obtain ⟨hlt, hne⟩ := Classical.not_imp.mp hi
    obtain ⟨e, w', herror, hsub⟩ := hm.failed w (not_not.mp hfirst) ⟨i, hlt, hne⟩
    have hopen := (hkeeps e w' herror _).mp (hsub List.mem_cons_self)
    exact kernel.new_notMem w.descriptors hopen
  · rintro (hfirst | hnone) e w' hrun fd
    · obtain ⟨e', w'', herror, hfd⟩ := hm.refused w hfirst
      obtain ⟨-, rfl⟩ := Prod.mk.inj (herror.symm.trans hrun)
      rw [hfd]
    · obtain ⟨a, w'', hok⟩ := hm.done w hnone
      cases hok.symm.trans hrun

/-- No descriptor leaks on failure exactly when the failing system call is the first, or there is none. -/
theorem descriptors_kept_iff (kernel : Kernel) (w : World) (address : SocketAddress) (ifaceName : Option String)
    (memory : Vector UInt8 128) (len : UInt32) :
    (KeepsDescriptors (IcmpSocketProvider.createSockets kernel address ifaceName) w ↔
      FirstOrNone kernel w (setupCalls address ifaceName)) ∧
    (KeepsDescriptors (TcpSocketProvider.createSockets kernel address ifaceName) w ↔
      FirstOrNone kernel w (setupCalls address ifaceName + setupCalls address ifaceName)) ∧
    (KeepsDescriptors (UdpSocketProvider.createSockets kernel address ifaceName) w ↔
      FirstOrNone kernel w (setupCalls address ifaceName + setupCalls address ifaceName)) ∧
    (KeepsDescriptors (resolveSourceAddress kernel memory len address ifaceName) w ↔
      FirstOrNone kernel w (1 + (interfaceCalls ifaceName + (1 + 1)))) :=
  ⟨(IcmpSocketProvider.createSockets_leaky address ifaceName).keeps_iff w,
    (TcpSocketProvider.createSockets_leaky address ifaceName).keeps_iff w,
    (UdpSocketProvider.createSockets_leaky address ifaceName).keeps_iff w,
    (resolveSourceAddress_leaky memory len address ifaceName).keeps_iff w⟩

/-! ### A failure -/

theorem le_foldr_max {fds : List Int} (h : fd ∈ fds) : fd ≤ fds.foldr max 0 := by
  induction fds with
  | nil => cases h
  | cons x fds ih =>
    rw [List.foldr_cons]
    rcases List.mem_cons.mp h with rfl | h
    · exact Int.le_max_left _ _
    · exact Int.le_trans (ih h) (Int.le_max_right _ _)

theorem foldr_max_nonneg (fds : List Int) : 0 ≤ fds.foldr max 0 := by
  cases fds with
  | nil => exact Int.le_refl 0
  | cons x fds => exact Int.le_trans (foldr_max_nonneg fds) (Int.le_max_right _ _)

/-- Hands out the descriptor above all that are open. The local address is 10.0.0.2. -/
def someKernel (outcome : Nat → Option Int) : Kernel where
  outcome
  newDescriptor fds := fds.foldr max 0 + 1
  new_nonneg fds := Int.le_trans (foldr_max_nonneg fds) (Int.le_add_of_nonneg_right (by decide))
  new_notMem _ h := absurd (le_foldr_max h) (by omega)
  localAddress _ := .ofBytes [2, 0, 0, 0, 10, 0, 0, 2]
  strerror _ := "Cannot assign requested address"
  inet_ntop _ _ := "10.0.0.2"

/-- The standard descriptors are open. -/
def someWorld : World := ⟨[], [0, 1, 2], 0, by decide⟩

/-- `socket` succeeds, and then `bind` fails: the socket, descriptor 3, is not closed. -/
theorem bind_failure_leaks : ∃ e w', TcpSocketProvider.createSockets (someKernel fun n => if n = 1 then some 99 else none)
      (.ofBytes [2, 0, 0, 0, 10, 0, 0, 2]) none someWorld = (.error e, w') ∧ 3 ∈ w'.descriptors ∧
    ¬KeepsDescriptors (TcpSocketProvider.createSockets (someKernel fun n => if n = 1 then some 99 else none)
      (.ofBytes [2, 0, 0, 0, 10, 0, 0, 2]) none) someWorld := by
  obtain ⟨e, w', herror, hsub⟩ := (@TcpSocketProvider.createSockets_leaky (someKernel fun n => if n = 1 then some 99 else none)
    (.ofBytes [2, 0, 0, 0, 10, 0, 0, 2]) none).failed someWorld rfl ⟨1, by decide, by decide⟩
  have hopen : 3 ∈ w'.descriptors := hsub List.mem_cons_self
  exact ⟨e, w', herror, hopen, fun hkeeps => absurd ((hkeeps e w' herror 3).mp hopen) (by decide)⟩

end Traceroute
