import Mathlib.Tactic.SplitIfs

/-!
# Error codes

`winc1500_socket.c` stands between two code spaces.  The chip driver returns
`SOCK_ERR_*` codes, which are zero or negative.  The callers of `mn_socket`
expect `MN_*` codes, which the operating system defines: they are a parameter
here, and all that is known of them is that an error is positive.
-/

namespace Winc1500

/-- `SOCK_ERR_NO_ERROR`. -/
def sockErrNoError : Int := 0
def sockErrInvalidAddress : Int := -1
def sockErrAddrAlreadyInUse : Int := -2
def sockErrMaxTcpSock : Int := -3
def sockErrMaxUdpSock : Int := -4
def sockErrInvalidArg : Int := -6
def sockErrMaxListenSock : Int := -7
def sockErrInvalid : Int := -9
def sockErrAddrIsRequired : Int := -11
def sockErrConnAborted : Int := -12
def sockErrTimeout : Int := -13
def sockErrBufferFull : Int := -14

/-- What `mn_socket` defines: its error codes, its address family and the size of its
address structure. -/
structure MnSocket where
  eagain : Int
  einval : Int
  eaddrinuse : Int
  enobufs : Int
  edestaddrreq : Int
  econnaborted : Int
  etimedout : Int
  eunknown : Int
  afInet : Nat
  sockaddrInSize : Nat
  /-- No error is zero or negative. -/
  pos : ∀ code ∈ [eagain, einval, eaddrinuse, enobufs, edestaddrreq, econnaborted, etimedout,
    eunknown], 0 < code

/-- Some numbers for the codes, to run the model with. -/
def someMnSocket : MnSocket where
  eagain := 1
  einval := 2
  eaddrinuse := 3
  enobufs := 4
  edestaddrreq := 5
  econnaborted := 6
  etimedout := 7
  eunknown := 8
  afInet := 4
  sockaddrInSize := 8
  pos := by decide

namespace MnSocket

variable (mn : MnSocket)

theorem eagain_pos : 0 < mn.eagain := mn.pos _ (by simp)

theorem einval_pos : 0 < mn.einval := mn.pos _ (by simp)

/-- `winc1500_err_to_mn_err`. -/
def winc1500ErrToMnErr (err : Int) : Int :=
  if err = sockErrNoError then 0
  else if err = sockErrInvalidAddress then mn.einval
  else if err = sockErrAddrAlreadyInUse then mn.eaddrinuse
  else if err = sockErrMaxTcpSock ∨ err = sockErrMaxUdpSock then mn.enobufs
  else if err = sockErrInvalidArg then mn.einval
  else if err = sockErrMaxListenSock then mn.enobufs
  else if err = sockErrInvalid then mn.einval
  else if err = sockErrAddrIsRequired then mn.edestaddrreq
  else if err = sockErrConnAborted then mn.econnaborted
  else if err = sockErrTimeout then mn.etimedout
  else if err = sockErrBufferFull then mn.enobufs
  else mn.eunknown

theorem pos_ite {p : Prop} [Decidable p] {a b : Int} (ha : 0 < a) (hb : 0 < b) :
    0 < if p then a else b := by
  split_ifs
  · exact ha
  · exact hb

/-- An error of the chip is an error for the caller. -/
theorem winc1500ErrToMnErr_pos {err : Int} (h : err ≠ sockErrNoError) :
    0 < mn.winc1500ErrToMnErr err := by
  have hpos := mn.pos
  simp only [List.forall_mem_cons] at hpos
  obtain ⟨_, heinval, headdrinuse, henobufs, hedestaddrreq, heconnaborted, hetimedout, heunknown,
    _⟩ := hpos
  rw [winc1500ErrToMnErr, if_neg h]
  repeat' apply pos_ite
  all_goals assumption

end MnSocket

/-- The fields of `struct mn_sockaddr_in`. -/
structure MnSockaddrIn where
  msinLen : Nat
  msinFamily : Nat
  msinPort : UInt16
  msinAddr : UInt32

/-- The fields of `struct sockaddr_in` beside the family. -/
structure SockaddrIn where
  sinPort : UInt16
  sinAddr : UInt32

/-- `winc1500_mn_addr_to_addr`. -/
def winc1500MnAddrToAddr (mn : MnSocket) (msin : MnSockaddrIn) : Except Int SockaddrIn :=
  if msin.msinLen ≠ mn.sockaddrInSize ∨ msin.msinFamily ≠ mn.afInet then .error mn.einval
  else .ok ⟨msin.msinPort, msin.msinAddr⟩

end Winc1500
