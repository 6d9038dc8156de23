import MynewtArduinoZero.Winc1500.SockRx

/-!
# Receive requests

`m2m_ip_cb` drops the reply to a request that is not of the current session of its
socket, so it is the others that matter: those that are due.  There is one at most,
as `bIsRecvPending` keeps a second one from being sent to the same socket, and the
next socket is asked only when the reply has come.
-/

namespace Winc1500

namespace Rx

/-- No outstanding request is one of a current session. -/
def NoneDue (s : System) : Prop := ∀ q ∈ s.outstanding, q ≠ s.request q.sock

/-- The only outstanding request of a current session. -/
structure Due (s : System) (q : Request) : Prop where
  outstanding : q ∈ s.outstanding
  current : q = s.request q.sock
  sole : ∀ q' ∈ s.outstanding.erase q, q' ≠ s.request q'.sock

/-- What the sockets of the driver and the requests always satisfy. -/
structure Sessions (s : System) : Prop where
  unused : ∀ i, (s.gastrSockets i).bIsUsed = false → s.gastrSockets i = .zero
  session : ∀ i, (s.gastrSockets i).bIsUsed = true → (s.gastrSockets i).u16SessionID ≠ 0
  requests : ∀ q ∈ s.outstanding, q.u16SessionID ≠ 0 ∧ q.sock < maxSocket

section Requests

variable {s s' : System} {q : Request}

theorem NoneDue.congr (h : NoneDue s) (hrequest : s'.request = s.request)
    (hout : s'.outstanding = s.outstanding) : NoneDue s' := by
  rw [NoneDue, hout, hrequest]
  exact h

theorem Due.congr (h : Due s q) (hrequest : s'.request = s.request)
    (hout : s'.outstanding = s.outstanding) : Due s' q where
  outstanding := hout ▸ h.outstanding
  current := hrequest ▸ h.current
  sole := by
    rw [hout, hrequest]
    exact h.sole

/-- A request is sent where none is due. -/
theorem NoneDue.sent (h : NoneDue s) (hrequest : s'.request = s.request) {i : Nat}
    (hout : s'.outstanding = s.outstanding ++ [s.request i]) : Due s' (s.request i) where
  outstanding := by simp [hout]
  current := by
    rw [hrequest]
    rfl
  sole := by
    have hnew : s.request i ∉ s.outstanding := fun hmem => h _ hmem rfl
    rw [hout, hrequest, List.erase_append_right _ hnew, List.erase_cons_head, List.append_nil]
    exact h

/-- The request that is due is of a socket in use. -/
theorem Due.used (h : Due s q) (hs : Sessions s) :
    (s.gastrSockets q.sock).bIsUsed = true := by
  cases hused : (s.gastrSockets q.sock).bIsUsed with
  | true => rfl
  | false =>
      have hzero : q.u16SessionID = 0 := by
        rw [h.current, System.request, hs.unused _ hused]
        rfl
      exact absurd hzero (hs.requests q h.outstanding).1

/-- A request of a current session is the one that is due. -/
theorem Due.unique (h : Due s q) {q' : Request} (hq' : q' ∈ s.outstanding)
    (hcurrent : q' = s.request q'.sock) : q' = q := by
  by_contra hne
  exact h.sole q' ((List.mem_erase_of_ne hne).mpr hq') hcurrent

theorem NoneDue.erase (h : NoneDue s) (hrequest : s'.request = s.request)
    (hout : s'.outstanding = s.outstanding.erase q) : NoneDue s' := by
  intro q' hq'
  rw [hrequest]
  exact h q' (List.mem_of_mem_erase (hout ▸ hq'))

/-- The request that is due is answered. -/
theorem Due.answered (h : Due s q) (hrequest : s'.request = s.request)
    (hout : s'.outstanding = s.outstanding.erase q) : NoneDue s' := by
  rw [NoneDue, hout, hrequest]
  exact h.sole

/-- Another request is answered. -/
theorem Due.erase (h : Due s q) (hrequest : s'.request = s.request) {q' : Request}
    (hne : q' ≠ q) (hout : s'.outstanding = s.outstanding.erase q') : Due s' q where
  outstanding := by
    rw [hout]
    exact (List.mem_erase_of_ne hne.symm).mpr h.outstanding
  current := hrequest ▸ h.current
  sole := by
    rw [hout, hrequest, List.erase_comm]
    exact fun r hr => h.sole r (List.mem_of_mem_erase hr)

theorem request_setSocket {i : Nat} {x : TstrSocket}
    (hx : x.u16SessionID = (s.gastrSockets i).u16SessionID) :
    (s.setSocket i x).request = s.request := by
  funext j
  rcases eq_or_ne j i with rfl | hne
  · rw [System.request, System.setSocket_self, hx, System.request]
  · rw [System.request, System.setSocket_of_ne hne, System.request]

theorem Sessions.setSocket (h : Sessions s) {i : Nat} {x : TstrSocket}
    (hunused : x.bIsUsed = false → x = .zero) (hsession : x.bIsUsed = true → x.u16SessionID ≠ 0) :
    Sessions (s.setSocket i x) where
  unused := by
    intro j hj
    rcases eq_or_ne j i with rfl | hne
    · rw [System.setSocket_self] at hj ⊢
      exact hunused hj
    · rw [System.setSocket_of_ne hne] at hj ⊢
      exact h.unused j hj
  session := by
    intro j hj
    rcases eq_or_ne j i with rfl | hne
    · rw [System.setSocket_self] at hj ⊢
      exact hsession hj
    · rw [System.setSocket_of_ne hne] at hj ⊢
      exact h.session j hj
  requests := h.requests

theorem Sessions.send (h : Sessions s) {i : Nat} (hused : (s.gastrSockets i).bIsUsed = true)
    (hi : i < maxSocket) (wss : SockState) :
    Sessions { s with wss := wss, outstanding := s.outstanding ++ [s.request i] } where
  unused := h.unused
  session := h.session
  requests := by
    intro q hq
    rcases List.mem_append.mp hq with hold | hnew
    · exact h.requests q hold
    · rw [List.mem_singleton.mp hnew]
      exact ⟨h.session i hused, hi⟩

theorem Sessions.erase (h : Sessions s) (q : Request) :
    Sessions { s with outstanding := s.outstanding.erase q } where
  unused := h.unused
  session := h.session
  requests := fun q' hq' => h.requests q' (List.mem_of_mem_erase hq')

/-- A buffer is registered for a socket in use. -/
theorem Sessions.register (h : Sessions s) (h' : Sessions s') {i : Nat}
    (hused : (s.gastrSockets i).bIsUsed = true) (m : Nat) :
    Sessions (s'.setSocket i (registered i m true s)) :=
  h'.setSocket (fun hfree => by cases hused.symm.trans hfree) fun _ => h.session i hused

/-- What goes on in the sockets of the driver besides its sessions does not matter. -/
theorem Sessions.reset (h : Sessions s) {i : Nat} {x : TstrSocket}
    (hused : x.bIsUsed = (s.gastrSockets i).bIsUsed)
    (hsession : x.u16SessionID = (s.gastrSockets i).u16SessionID)
    (hzero : s.gastrSockets i = .zero → x = .zero) : Sessions (s.setSocket i x) :=
  h.setSocket (fun hfree => hzero (h.unused i (hused ▸ hfree))) fun hin => by
    rw [hsession]
    exact h.session i (hused ▸ hin)

end Requests

end Rx

end Winc1500
