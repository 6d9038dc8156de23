import MynewtArduinoZero.Espduino.Acceptance
import MynewtArduinoZero.Espduino.Deadline

/-!
# The response of a REST request

`rest.c`.  `esp_rest_get_response` waits for a packet of `CMD_REST_EVENTS`.  Its
callback `esp_rest_cb` keeps the pointer it is given, which is the address of
`e_protobuf`, and `esp_proto_completed_cb` keeps the `_return` word on its own.
The wait ends when the call of `esp_process` that read the packet has emptied the
receive ring.  What the caller gets is then copied from `e_protobuf`, where the
bytes behind the packet have been stored by now.

The calls of `esp_process` that the deadline leaves time for are a list here.
`espWaitReturnTimo_of_timoLoop` says that the loop of `Espduino/Deadline.lean`,
which has the clock, is one over such a list.

The frames are taken from the bytes received (`EndsFrame`), not from the buffer.
What the bytes behind a frame store is described by the frames they begin
(`laterFrames`, `layOver`), and `Lays` says that the buffer holds just that.
-/

namespace Esp

namespace Rest

open Cells LittleEndian Poll Stuffing Run

/-! ## `rest.c` -/

/-- `CMD_REST_EVENTS`. -/
def cmdRestEvents : UInt16 := 14

/-- The address of `esp_rest_cb`. -/
abbrev Callback := { cb : UInt32 // cb ≠ 0 }

/-- A wait in `esp_rest_get_response`. -/
structure Wait where
  esp : Espduino
  /-- `er->res` is not NULL.  It is the address of `e_protobuf` then. -/
  res : Bool
  /-- The bytes read since the wait began. -/
  taken : List UInt8
  /-- The `_return` words of the packets accepted since the wait began. -/
  returns : List UInt32

/-- What happens in a call of `esp_process`. -/
inductive Turn where
  /-- A turn of its loop. -/
  | byte (value : UInt8)
  /-- The memory behind `e_protobuf` is written. -/
  | behind (behind : Nat → UInt8)

/-- `esp_rest_cb`. -/
def Wait.espRestCb (w : Wait) : Wait := { w with res := true }

/-- What `esp_proto_completed_cb` does on top of its own state. -/
def Wait.completed (w : Wait) : Option Completion → Wait
  | some (.accepted callback) =>
      let w := { w with returns := w.returns ++ [w.esp.eReturnValue] }
      if callback.isSome then w.espRestCb else w
  | _ => w

def Wait.turn (w : Wait) : Turn → Wait
  | .byte value =>
      let (esp, completion) := espProcessByte w.esp value
      { w with esp, taken := w.taken ++ [value] }.completed completion
  | .behind behind =>
      { w with esp := { w.esp with eProto := writeBehind behind w.esp.eProto } }

/-- The loop of `esp_wait_return_timo`, over the calls of `esp_process` that its deadline leaves
time for. -/
def espWaitReturnTimo (w : Wait) : (calls : List (List Turn)) → Wait
  | [] => w
  | turns :: calls =>
      if w.esp.eIsReturn then w else espWaitReturnTimo (turns.foldl Wait.turn w) calls

/-- The start of the wait: `esp_wait_for`, and `e_is_return = 0`. -/
def Wait.begin (cb : Callback) (esp : Espduino) : Wait where
  esp := { espWaitFor esp cmdRestEvents cb with eIsReturn := false }
  res := false
  taken := []
  returns := []

/-- What `esp_rest_get_response` gives its caller. -/
structure Response where
  code : UInt16
  /-- `*lenp`. -/
  len : Nat
  data : List UInt8
deriving DecidableEq, Repr

/-- The end of `esp_rest_get_response`, for a `*lenp` of `limit`. -/
def Wait.response (w : Wait) (limit : UInt16) : Option Response :=
  if w.esp.eIsReturn ∧ w.res then
    let len := min limit.toNat (le16At w.esp.eProto.buf 12).toNat
    some ⟨w.esp.eReturnValue.toUInt16, len, bytesAt w.esp.eProto.buf 14 len⟩
  else none

/-- `esp_rest_get_response`: the wait it ends with, and what it returns. -/
def espRestGetResponse (cb : Callback) (esp : Espduino) (calls : List (List Turn))
    (limit : UInt16) : Wait × Option Response :=
  let w := espWaitReturnTimo (.begin cb esp) calls
  (w, w.response limit)

/-! ## Frames -/

/-- A `0x7F` after `received` ends a frame that holds a packet of `CMD_REST_EVENTS`, with its
`_return` word and its first argument. -/
def EndsFrame (received : List UInt8) (ret : UInt32) (arg : List UInt8) : Prop :=
  ∃ raw callback args, openFrame received = some raw ∧ args.length + 1 < 2 ^ 16 ∧
    (∀ data ∈ arg :: args, data.length < 2 ^ 16) ∧
    packet cmdRestEvents callback ret (arg :: args) <+: collected raw

/-- The frames begun so far, after one more byte. -/
def laterByte (frames : List (List UInt8)) (value : UInt8) : List (List UInt8) :=
  if value = slipStart then frames ++ [[]]
  else if value = slipEnd then frames
  else match frames.getLast? with
    | none => []
    | some raw => frames.dropLast ++ [raw ++ [value]]

/-- The frames that the bytes begin, complete or not. -/
def laterFrames (bytes : List UInt8) : List (List UInt8) := bytes.foldl laterByte []

/-- A memory with frames laid over it, each from its front. -/
def layOver (m : Nat → UInt8) (frames : List (List UInt8)) : Nat → UInt8 :=
  frames.foldl (fun m raw => overlay m 0 (collected raw)) m

/-- The first argument of a packet, where it lies in the buffer, with the frames of `post` laid
over it. -/
def argAfter (arg post : List UInt8) : Nat → UInt8 :=
  layOver (overlay (fun _ => 0) 12 (packetArg arg)) (laterFrames post)

/-! ## The property and its condition -/

/-- The response is that of a frame completed during the wait. -/
def Delivered (received taken : List UInt8) (limit : UInt16) (r : Response) : Prop :=
  ∃ pre post ret arg, taken = pre ++ slipEnd :: post ∧ EndsFrame (received ++ pre) ret arg ∧
    r.code = ret.toUInt16 ∧ r.len = min limit.toNat arg.length ∧ r.data = arg.take r.len

/-- The frames of `post` leave the first argument alone, as far as the caller is to get it. -/
structure Keeps (limit : UInt16) (arg post : List UInt8) : Prop where
  len : min limit.toNat (le16At (argAfter arg post) 12).toNat = min limit.toNat arg.length
  data : bytesAt (argAfter arg post) 14 (min limit.toNat arg.length) =
    arg.take (min limit.toNat arg.length)

/-- A frame is completed during the wait that the bytes behind it leave alone, and the last packet
accepted has its code. -/
def Intact (received : List UInt8) (w : Wait) (limit : UInt16) : Prop :=
  ∃ pre post ret arg, w.taken = pre ++ slipEnd :: post ∧ EndsFrame (received ++ pre) ret arg ∧
    (∃ last ∈ w.returns.getLast?, last.toUInt16 = ret.toUInt16) ∧ Keeps limit arg post

/-! ## Later frames -/

theorem laterFrames_concat (post : List UInt8) (value : UInt8) :
    laterFrames (post ++ [value]) = laterByte (laterFrames post) value := by
  rw [laterFrames, List.foldl_append, List.foldl_cons, List.foldl_nil, laterFrames]

theorem laterByte_start (frames : List (List UInt8)) :
    laterByte frames slipStart = frames ++ [[]] := if_pos rfl

theorem laterByte_end (frames : List (List UInt8)) : laterByte frames slipEnd = frames := rfl

theorem laterByte_nil {value : UInt8} (hstart : value ≠ slipStart) :
    laterByte [] value = [] := by
  rw [laterByte, if_neg hstart]
  split <;> rfl

theorem laterByte_concat {value : UInt8} (hstart : value ≠ slipStart) (hend : value ≠ slipEnd)
    (frames : List (List UInt8)) (raw : List UInt8) :
    laterByte (frames ++ [raw]) value = frames ++ [raw ++ [value]] := by
  rw [laterByte, if_neg hstart, if_neg hend]
  simp

theorem layOver_concat (m : Nat → UInt8) (frames : List (List UInt8)) (raw : List UInt8) :
    layOver m (frames ++ [raw]) = overlay (layOver m frames) 0 (collected raw) := by
  rw [layOver, List.foldl_append, List.foldl_cons, List.foldl_nil, layOver]

/-! ## What the buffer holds behind a frame -/

/-- The buffer holds the first argument of a packet, with the frames of `post` laid over it. -/
structure Lays (pr : Proto) (arg post : List UInt8) : Prop where
  room : 14 + arg.length ≤ bufSize
  cells : ∀ i, 12 ≤ i → i < 14 + arg.length → pr.buf i = argAfter arg post i
  /-- The next byte is stored behind the packet, or in the frame begun last. -/
  store : (laterFrames post = [] ∧ 14 + arg.length ≤ pr.dataLen) ∨
    ∃ frames raw, laterFrames post = frames ++ [raw] ∧ pr.dataLen = (collected raw).length ∧
      pr.isEsc = slip.escAfter false raw

/-- A frame that ends holds its packet at the front of the buffer. -/
theorem EndsFrame.arg_bytesAt {pr : Proto} {received arg : List UInt8} {ret : UInt32}
    (h : EndsFrame received ret arg) (hinv : ProtoInv pr received) :
    bytesAt pr.buf 12 (packetArg arg).length = packetArg arg ∧ 14 + arg.length ≤ pr.dataLen := by
  obtain ⟨raw, callback, args, hopen, -, -, rest, hrest⟩ := h
  obtain ⟨-, -, hbuf⟩ := hinv.opened raw hopen
  rw [← hrest] at hbuf
  have hlen := congrArg List.length hbuf
  obtain ⟨hpacket, -⟩ := bytesAt_eq_append hbuf
  obtain ⟨hbody, -⟩ := bytesAt_eq_append hpacket
  obtain ⟨-, hargs⟩ := bytesAt_eq_append hbody
  rw [length_packetHeader, Nat.zero_add] at hargs
  obtain ⟨harg, -⟩ := bytesAt_eq_append hargs
  refine ⟨harg, ?_⟩
  rw [length_bytesAt, List.length_append, length_packet, packetArgs_cons, List.length_append,
    length_packetArg] at hlen
  omega

/-- What a frame has brought fits the buffer. -/
theorem dataLen_le_of_openFrame {pr : Proto} {received raw : List UInt8}
    (hinv : ProtoInv pr received) (hopen : openFrame received = some raw) :
    pr.dataLen ≤ bufSize := by
  obtain ⟨-, -, hbuf⟩ := hinv.opened raw hopen
  rw [← length_bytesAt pr.buf 0 pr.dataLen, hbuf, collected]
  exact List.length_take_le ..

theorem Lays.of_endsFrame {pr : Proto} {received arg : List UInt8} {ret : UInt32}
    (hinv : ProtoInv pr received) (h : EndsFrame received ret arg) : Lays pr arg [] := by
  obtain ⟨harg, hlen⟩ := h.arg_bytesAt hinv
  obtain ⟨raw, -, -, hopen, -⟩ := h
  have hroom := dataLen_le_of_openFrame hinv hopen
  refine ⟨by omega, fun i hi hi' => ?_, .inl ⟨rfl, hlen⟩⟩
  obtain ⟨j, rfl⟩ := Nat.exists_eq_add_of_le hi
  have hj : j < (packetArg arg).length := by
    rw [length_packetArg]
    omega
  have hread : j < (bytesAt pr.buf 12 (packetArg arg).length).length := by rwa [length_bytesAt]
  have hcell := List.getElem_of_eq harg hread
  rw [getElem_bytesAt] at hcell
  rw [hcell]
  exact (overlay_add (fun _ => 0) 12 hj).symm

/-- A byte that is no delimiter goes behind the packet, or to the frame begun last. -/
theorem Lays.collect {e : Espduino} {arg post : List UInt8} (h : Lays e.eProto arg post)
    {value : UInt8} (hstart : value ≠ slipStart) (hend : value ≠ slipEnd) :
    Lays (e.eProto.collect [value]) arg (post ++ [value]) := by
  refine ⟨h.room, ?_, ?_⟩
  · intro i hi hi'
    have hcell := h.cells i hi hi'
    rcases h.store with ⟨hnone, hlen⟩ | ⟨frames, raw, hlast, hlen, hesc⟩
    · rw [argAfter, laterFrames_concat, hnone, laterByte_nil hstart]
      rw [argAfter, hnone] at hcell
      rw [← hcell]
      exact overlay_of_lt (by omega)
    · rw [argAfter, laterFrames_concat, hlast, laterByte_concat hstart hend, layOver_concat,
        collected_append, ← overlay_append, Nat.zero_add, ← layOver_concat, ← hlast, ← hesc, ← hlen]
      exact overlay_congr hcell _ _
  · rcases h.store with ⟨hnone, hlen⟩ | ⟨frames, raw, hlast, hlen, hesc⟩
    · refine .inl ⟨?_, ?_⟩
      · rw [laterFrames_concat, hnone, laterByte_nil hstart]
      · exact Nat.le_trans hlen (Nat.le_add_right ..)
    · refine .inr ⟨frames, raw ++ [value], ?_, ?_, ?_⟩
      · rw [laterFrames_concat, hlast, laterByte_concat hstart hend]
      · rw [collected_append, List.length_append, ← hesc, ← hlen]
        rfl
      · rw [slip.escAfter_append, ← hesc]
        rfl

/-- A byte is laid over what the buffer holds. -/
theorem Lays.byte {e : Espduino} {arg post : List UInt8} (h : Lays e.eProto arg post)
    (value : UInt8) : Lays (espProcessByte e value).1.eProto arg (post ++ [value]) := by
  by_cases hstart : value = slipStart
  · subst hstart
    have hlater : laterFrames (post ++ [slipStart]) = laterFrames post ++ [[]] := by
      rw [laterFrames_concat, laterByte_start]
    rw [espProcessByte_start]
    refine ⟨h.room, fun i hi hi' => ?_, .inr ⟨laterFrames post, [], hlater, rfl, rfl⟩⟩
    rw [argAfter, hlater, layOver_concat]
    exact (h.cells i hi hi').trans (congrFun (overlay_nil _ 0).symm i)
  · by_cases hend : value = slipEnd
    · subst hend
      have hlater : laterFrames (post ++ [slipEnd]) = laterFrames post := by
        rw [laterFrames_concat, laterByte_end]
      rw [espProcessByte_end, espProtoCompletedCb_eProto]
      refine ⟨h.room, fun i hi hi' => ?_, ?_⟩
      · rw [argAfter, hlater]
        exact h.cells i hi hi'
      · rw [hlater]
        exact h.store
    · rw [espProcessByte_collect e hstart hend]
      exact h.collect hstart hend

/-- The memory behind the buffer is not looked at. -/
theorem Lays.writeBehind {pr : Proto} {arg post : List UInt8} (h : Lays pr arg post)
    (behind : Nat → UInt8) : Lays (Esp.writeBehind behind pr) arg post where
  room := h.room
  cells i hi hi' := by
    have hroom := h.room
    exact (if_pos (by omega)).trans (h.cells i hi hi')
  store := h.store

/-! ## The wait -/

/-- A byte that completes no accepted packet leaves the return flag and value alone. -/
theorem espProcessByte_return {e : Espduino} {value : UInt8}
    (h : ∀ callback, (espProcessByte e value).2 ≠ some (.accepted callback)) :
    (espProcessByte e value).1.eIsReturn = e.eIsReturn ∧
      (espProcessByte e value).1.eReturnValue = e.eReturnValue := by
  by_cases hend : value = slipEnd
  · subst hend
    rw [espProcessByte_end] at h ⊢
    simp only [espProtoCompletedCb] at h ⊢
    split at h
    · rename_i hcrc
      rw [if_pos hcrc]
      exact ⟨rfl, rfl⟩
    · rename_i hcrc
      split at h
      · rename_i hcmd
        rw [if_neg hcrc, if_pos hcmd]
        exact ⟨rfl, rfl⟩
      · exact absurd rfl (h _)
  · by_cases hstart : value = slipStart
    · subst hstart
      exact ⟨rfl, rfl⟩
    · rw [espProcessByte_collect e hstart hend]
      exact ⟨rfl, rfl⟩

@[simp] theorem Wait.completed_esp (w : Wait) (c : Option Completion) :
    (w.completed c).esp = w.esp := by
  rcases c with _ | ⟨_ | _ | callback⟩
  · rfl
  · rfl
  · rfl
  · cases callback <;> rfl

@[simp] theorem Wait.completed_taken (w : Wait) (c : Option Completion) :
    (w.completed c).taken = w.taken := by
  rcases c with _ | ⟨_ | _ | callback⟩
  · rfl
  · rfl
  · rfl
  · cases callback <;> rfl

theorem Wait.completed_of_ne (w : Wait) {c : Option Completion}
    (h : ∀ callback, c ≠ some (.accepted callback)) : w.completed c = w := by
  rcases c with _ | ⟨_ | _ | callback⟩
  · rfl
  · rfl
  · rfl
  · exact absurd rfl (h callback)

theorem Wait.completed_accepted_returns (w : Wait) (callback : Option UInt32) :
    (w.completed (some (.accepted callback))).returns = w.returns ++ [w.esp.eReturnValue] := by
  cases callback <;> rfl

/-- A wait, and the bytes that were received before it. -/
structure WaitInv (received : List UInt8) (w : Wait) : Prop where
  proto : ProtoInv w.esp.eProto (received ++ w.taken)
  lays : ∀ pre post ret arg, w.taken = pre ++ slipEnd :: post →
    EndsFrame (received ++ pre) ret arg → Lays w.esp.eProto arg post
  /-- `e_return_value` is that of the packet accepted last. -/
  returned : w.esp.eIsReturn = true → w.returns.getLast? = some w.esp.eReturnValue

theorem WaitInv.begin {esp : Espduino} {received : List UInt8} (h : ProtoInv esp.eProto received)
    (cb : Callback) : WaitInv received (.begin cb esp) where
  proto := by rwa [Wait.begin, List.append_nil]
  lays pre post _ _ hsplit := by cases pre <;> cases hsplit
  returned h := by cases h

/-- Where a `0x7F` lies in the bytes taken, with one more: it is the last, or lies before. -/
theorem split_concat {taken pre post : List UInt8} {value : UInt8}
    (h : taken ++ [value] = pre ++ slipEnd :: post) :
    (post = [] ∧ value = slipEnd ∧ taken = pre) ∨
      ∃ post', post = post' ++ [value] ∧ taken = pre ++ slipEnd :: post' := by
  rcases List.eq_nil_or_concat post with rfl | ⟨post', last, rfl⟩
  · obtain ⟨htaken, hvalue⟩ := List.append_singleton_inj.mp h
    exact .inl ⟨rfl, hvalue, htaken⟩
  · rw [List.concat_eq_append, ← List.cons_append, ← List.append_assoc] at h
    obtain ⟨htaken, rfl⟩ := List.append_singleton_inj.mp h
    exact .inr ⟨post', List.concat_eq_append, htaken⟩

theorem WaitInv.byte {received : List UInt8} {w : Wait} (h : WaitInv received w) (value : UInt8) :
    WaitInv received (w.turn (.byte value)) := by
  have hproto := h.proto.byte value
  rw [List.append_assoc] at hproto
  refine { proto := ?_, lays := ?_, returned := ?_ }
  · simpa only [Wait.turn, Wait.completed_esp, Wait.completed_taken] using hproto
  · intro pre post ret arg hsplit hframe
    simp only [Wait.turn, Wait.completed_esp, Wait.completed_taken] at hsplit ⊢
    rcases split_concat hsplit with ⟨rfl, rfl, rfl⟩ | ⟨post', rfl, htaken⟩
    · rw [espProcessByte_end, espProtoCompletedCb_eProto]
      have hlays := Lays.of_endsFrame h.proto hframe
      exact ⟨hlays.room, hlays.cells, hlays.store⟩
    · exact (h.lays pre post' ret arg htaken hframe).byte value
  · intro hreturn
    simp only [Wait.turn, Wait.completed_esp] at hreturn ⊢
    by_cases haccepted : ∃ callback, (espProcessByte w.esp value).2 = some (.accepted callback)
    · obtain ⟨callback, haccepted⟩ := haccepted
      rw [haccepted, Wait.completed_accepted_returns]
      exact List.getLast?_concat
    · have hquiet := not_exists.mp haccepted
      rw [Wait.completed_of_ne _ hquiet]
      rw [(espProcessByte_return hquiet).1] at hreturn
      rw [(espProcessByte_return hquiet).2]
      exact h.returned hreturn

theorem WaitInv.turn {received : List UInt8} {w : Wait} (h : WaitInv received w) (t : Turn) :
    WaitInv received (w.turn t) := by
  cases t with
  | byte value => exact h.byte value
  | behind behind =>
      exact
        { proto := h.proto.writeBehind behind
          lays := fun pre post ret arg hsplit hframe =>
            (h.lays pre post ret arg hsplit hframe).writeBehind behind
          returned := h.returned }

theorem WaitInv.turns {received : List UInt8} {w : Wait} (h : WaitInv received w)
    (turns : List Turn) : WaitInv received (turns.foldl Wait.turn w) := by
  induction turns generalizing w with
  | nil => exact h
  | cons t turns ih => exact ih (h.turn t)

theorem WaitInv.wait {received : List UInt8} {w : Wait} (h : WaitInv received w)
    (calls : List (List Turn)) : WaitInv received (espWaitReturnTimo w calls) := by
  induction calls generalizing w with
  | nil => exact h
  | cons turns calls ih =>
      rw [espWaitReturnTimo]
      split
      · exact h
      · exact ih (h.turns turns)

/-! ## The calls that a deadline leaves time for -/

/-- The bytes of a call of `esp_process`. -/
def bytesCall (bytes : List UInt8) : List Turn := bytes.map .byte

theorem foldl_bytesCall_esp (w : Wait) (bytes : List UInt8) :
    ((bytesCall bytes).foldl Wait.turn w).esp = (espProcess w.esp bytes).1 := by
  induction bytes generalizing w with
  | nil => rfl
  | cons value bytes ih =>
      have hturn : (w.turn (.byte value)).esp = (espProcessByte w.esp value).1 := by
        simp only [Wait.turn, Wait.completed_esp]
      have hrest := ih (w.turn (.byte value))
      rw [hturn] at hrest
      exact hrest

/-- A loop that ends on its clock is the loop over the calls made up to there. -/
theorem espWaitReturnTimo_of_waitLoop {o : Outside} {cond : UInt32 → Option Bool} {fuel i n : Nat}
    {w : Wait} {t : Espduino} (h : waitLoop o cond fuel i w.esp = some (n, t)) :
    ∃ calls, (espWaitReturnTimo w calls).esp = t := by
  induction fuel generalizing i w with
  | zero => cases h
  | succ fuel ih =>
      rw [waitLoop, pollPartial] at h
      obtain ⟨goOn, hcond, hrest⟩ := Option.bind_eq_some_iff.mp h
      cases goOn with
      | false =>
          cases hrest
          exact ⟨[], rfl⟩
      | true =>
          cases hreturn : w.esp.eIsReturn with
          | true =>
              rw [hreturn] at hcond
              cases hcond
          | false =>
              rw [if_pos rfl, Outside.process, ← foldl_bytesCall_esp] at hrest
              obtain ⟨calls, hcalls⟩ := ih hrest
              refine ⟨bytesCall (o.rx i) :: calls, ?_⟩
              rw [espWaitReturnTimo, hreturn]
              exact hcalls

/-- A wait that ends on its clock leaves what one leaves that is given the calls made. -/
theorem espWaitReturnTimo_of_timoLoop {cb : Callback} {esp t : Espduino} {tps : Nat}
    {timeout : Int} {o : Outside} {fuel i n : Nat}
    (h : timoLoop tps timeout o fuel i (espWaitFor esp cmdRestEvents cb) = some (n, t)) :
    ∃ calls, (espWaitReturnTimo (.begin cb esp) calls).esp = t := by
  obtain ⟨_, -, hloop⟩ := Option.bind_eq_some_iff.mp h
  exact espWaitReturnTimo_of_waitLoop hloop

/-! ## Delivery -/

theorem laterFrames_eq_nil {post : List UInt8} (h : slipStart ∉ post) : laterFrames post = [] := by
  induction post using List.reverseRecOn with
  | nil => rfl
  | append_singleton post value ih =>
      simp only [List.mem_append, List.mem_singleton, not_or] at h
      rw [laterFrames_concat, ih h.1, laterByte_nil (Ne.symm h.2)]

/-- A packet is left alone when no frame begins behind it. -/
theorem keeps_of_not_mem {limit : UInt16} {arg post : List UInt8} (hlen : arg.length < 2 ^ 16)
    (h : slipStart ∉ post) : Keeps limit arg post := by
  have hcells : argAfter arg post = overlay (fun _ => 0) 12 (packetArg arg) := by
    rw [argAfter, laterFrames_eq_nil h]
    rfl
  have hread := bytesAt_overlay (fun _ => 0) 12 (packetArg arg)
  rw [← hcells] at hread
  obtain ⟨hword, hdata⟩ := bytesAt_eq_append (s := leBytes 2 arg.length) hread
  rw [length_leBytes] at hword hdata
  refine ⟨?_, ?_⟩
  · rw [le16At_toNat_of_bytesAt hlen hword]
  · rw [← take_bytesAt _ (Nat.min_le_right limit.toNat arg.length), hdata]

/-- Where a frame ends, the caller gets its argument exactly when the bytes behind it leave the
argument alone. -/
theorem Lays.copied_iff {pr : Proto} {arg post : List UInt8} (h : Lays pr arg post)
    (limit : UInt16) {len : Nat} (hlen : len = min limit.toNat (le16At pr.buf 12).toNat) :
    (len = min limit.toNat arg.length ∧ bytesAt pr.buf 14 len = arg.take len) ↔
      Keeps limit arg post := by
  have hword : le16At pr.buf 12 = le16At (argAfter arg post) 12 := by
    rw [le16At, le16At, bytesAt_congr fun i hi => h.cells (12 + i) (by omega) (by omega)]
  have hdata : ∀ n ≤ arg.length, bytesAt pr.buf 14 n = bytesAt (argAfter arg post) 14 n :=
    fun n hn => bytesAt_congr fun i hi => h.cells (14 + i) (by omega) (by omega)
  have hle : min limit.toNat arg.length ≤ arg.length := Nat.min_le_right ..
  rw [hword] at hlen
  constructor
  · rintro ⟨hlen', hcopied⟩
    rw [hlen', hdata _ hle] at hcopied
    exact ⟨hlen.symm.trans hlen', hcopied⟩
  · intro hkeeps
    have hlen' := hlen.trans hkeeps.len
    refine ⟨hlen', ?_⟩
    rw [hlen', hdata _ hle]
    exact hkeeps.data

/-- After every run, and whatever is received during the wait, a response
is that of one frame exactly when that frame is left alone until the wait ends. -/
theorem delivered_iff_intact {behind : Nat → UInt8} {es : List Event} {s : Session} {cb : Callback}
    {calls : List (List Turn)} {limit : UInt16} {r : Response}
    (hrun : run sessionStep (Session.init behind) es = some s)
    (hr : (espRestGetResponse cb s.esp calls limit).2 = some r) :
    Delivered s.received (espRestGetResponse cb s.esp calls limit).1.taken limit r ↔
      Intact s.received (espRestGetResponse cb s.esp calls limit).1 limit := by
  have hinv := (WaitInv.begin (run_protoInv hrun) cb).wait calls
  change WaitInv s.received (espRestGetResponse cb s.esp calls limit).1 at hinv
  change (espRestGetResponse cb s.esp calls limit).1.response limit = some r at hr
  generalize (espRestGetResponse cb s.esp calls limit).1 = w at hinv hr ⊢
  obtain ⟨⟨hreturn, -⟩, hresponse⟩ := Option.ite_none_right_eq_some.mp hr
  cases hresponse
  have hlast := hinv.returned hreturn
  refine exists_congr fun pre => exists_congr fun post => exists_congr fun ret =>
    exists_congr fun arg => and_congr_right fun hsplit => and_congr_right fun hframe => ?_
  refine and_congr ?_ ((hinv.lays pre post ret arg hsplit hframe).copied_iff limit rfl)
  simp [hlast]

/-- A response of 200 with the text "hi".  None of its bytes is escaped. -/
def hiFrame : List UInt8 := slipStart :: packet cmdRestEvents 0 200 [[0x68, 0x69]]

/-- A response of 404 with the text "none". -/
def noneFrame : List UInt8 := slipStart :: packet cmdRestEvents 0 404 [[0x6E, 0x6F, 0x6E, 0x65]]

/-- Any address. -/
def someCallback : Callback := ⟨0x1000, by decide⟩

theorem hiFrame_endsFrame : EndsFrame hiFrame 200 [0x68, 0x69] := by
  refine ⟨packet cmdRestEvents 0 200 [[0x68, 0x69]], 0, [], ?_, by decide, by decide, ?_⟩
  · decide +kernel
  · decide +kernel

theorem delivered_iff_intact_hi :
    ∃ r, (espRestGetResponse someCallback (Session.init fun _ => 0).esp
        [bytesCall [], bytesCall (hiFrame ++ [slipEnd])] 100).2 = some r ∧
      Delivered [] (espRestGetResponse someCallback (Session.init fun _ => 0).esp
        [bytesCall [], bytesCall (hiFrame ++ [slipEnd])] 100).1.taken 100 r := by
  refine ⟨⟨200, 2, [0x68, 0x69]⟩, by decide +kernel, ?_⟩
  refine (delivered_iff_intact (s := Session.init fun _ => 0) (run_nil sessionStep _)
    (by decide +kernel)).mpr ?_
  exact ⟨hiFrame, [], 200, [0x68, 0x69], by decide +kernel, hiFrame_endsFrame,
    ⟨200, by decide +kernel, rfl⟩, keeps_of_not_mem (by decide) List.not_mem_nil⟩

/-- The response "hi" has arrived, and all of the next one but its end.  The caller gets the code
of the first with bytes of the second. -/
theorem response_of_two_frames :
    (espRestGetResponse someCallback (Session.init fun _ => 0).esp
        [bytesCall (hiFrame ++ slipEnd :: noneFrame.take 18)] 100).2 =
      some ⟨200, 4, [0x6E, 0x6F, 0x6E, 0x9E]⟩ ∧
    ¬ Delivered [] (espRestGetResponse someCallback (Session.init fun _ => 0).esp
        [bytesCall (hiFrame ++ slipEnd :: noneFrame.take 18)] 100).1.taken 100
      ⟨200, 4, [0x6E, 0x6F, 0x6E, 0x9E]⟩ := by
  refine ⟨by decide +kernel, ?_⟩
  rintro ⟨pre, post, ret, arg, hsplit, hframe, -, hlen, -⟩
  have htaken : (espRestGetResponse someCallback (Session.init fun _ => 0).esp
      [bytesCall (hiFrame ++ slipEnd :: noneFrame.take 18)] 100).1.taken =
    hiFrame ++ slipEnd :: noneFrame.take 18 := by decide +kernel
  rw [htaken, List.append_cons_inj_of_notMem (by decide +kernel) (by decide +kernel)] at hsplit
  obtain ⟨rfl, -, -⟩ := hsplit
  -- the frame that ends is the first, and its argument has two bytes
  have hinit : ProtoInv (Session.init fun _ => 0).esp.eProto [] :=
    run_protoInv (run_nil sessionStep _)
  have hinv := hinit.process hiFrame
  obtain ⟨hword, -⟩ := bytesAt_eq_append (hframe.arg_bytesAt hinv).1
  obtain ⟨_, _, _, -, -, hlengths, -⟩ := hframe
  have htwo : (le16At (espProcess (Session.init fun _ => 0).esp hiFrame).1.eProto.buf 12).toNat =
    arg.length := le16At_toNat_of_bytesAt (hlengths arg List.mem_cons_self) hword
  have heval : (le16At (espProcess (Session.init fun _ => 0).esp hiFrame).1.eProto.buf 12).toNat =
    2 := by decide +kernel
  rw [heval] at htwo
  rw [← htwo] at hlen
  exact absurd hlen (by decide)

end Rest

end Esp
