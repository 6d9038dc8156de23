import MynewtArduinoZero.I2c.Master
import Mathlib.Data.List.Induction
import Mathlib.Data.UInt

/-!
# I2C transfers

Whatever the registers answer, a transfer ends, a read stores a prefix of the bytes that
came, in order, and a write that succeeds has sent its packet with every byte
acknowledged (`halI2cMasterRead_ends`, `halI2cMasterWrite_ends`).

The last byte is stored after the loop, whatever its length: `halI2cMasterRead_inside_iff`
says when all the stores are inside the buffer of the caller.
-/

namespace I2c

open Dialogue Routine

/-! ## What is seen on the bus -/

/-- What the accesses to the registers have been. -/
structure Seen where
  /-- The bytes read from DATA, the oldest first. -/
  reads : List UInt8
  /-- The bytes written to DATA. -/
  writes : List UInt8
  /-- The bytes written to DATA behind which STATUS did not say that they were refused. -/
  acked : List UInt8
  /-- The last byte written to DATA, until STATUS is read. -/
  asked : Option UInt8
  stops : Nat

def Seen.start : Seen := ⟨[], [], [], none, 0⟩

/-- One more access, answered with `x`. -/
def Seen.after (s : Seen) (x : UInt32) : Access → Seen
  | .data => { s with reads := s.reads ++ [x.toUInt8] }
  | .putData value => { s with writes := s.writes ++ [value], asked := some value }
  | .stop => { s with stops := s.stops + 1 }
  | .status =>
      { s with
        acked := if x &&& statusRxnack = 0 then s.acked ++ s.asked.toList else s.acked
        asked := none }
  | _ => s

theorem Seen.after_status (s : Seen) (x : UInt32) :
    s.after x .status =
      { s with
        acked := if x &&& statusRxnack = 0 then s.acked ++ s.asked.toList else s.acked
        asked := none } := rfl

/-- The registers answer anything. -/
def Any (s : Seen) (q : Access) (x : UInt32) (t : Seen) : Prop := t = s.after x q

/-- What holds of any answer holds behind the access. -/
theorem ends_access {q : Access} {v : List (Nat × UInt8)} {s : Seen}
    {post : UInt32 → List (Nat × UInt8) → Seen → Prop} (h : ∀ x, post x v (s.after x q)) :
    Ends Any (call q) v s post := by
  refine ends_call.mpr ⟨⟨0, _, rfl⟩, ?_⟩
  rintro x t rfl
  exact h x

/-- An access that is none of a transfer leaves what is seen. -/
theorem ends_aside {q : Access} {v : List (Nat × UInt8)} {s : Seen}
    {post : UInt32 → List (Nat × UInt8) → Seen → Prop} (hq : ∀ x, s.after x q = s)
    (h : ∀ x, post x v s) : Ends Any (call q) v s post := by
  refine ends_access fun x => ?_
  rw [hq x]
  exact h x

/-! ### Waits and addresses -/

variable {v : List (Nat × UInt8)} {s : Seen}

theorem waitTurn_ends {late : Bus Status} {post : Status → List (Nat × UInt8) → Seen → Prop}
    (hlate : Ends Any late v s post) (hok : post .ok v s) :
    Ends Any (waitTurn late) v s post := by
  refine ends_bind.mpr (ends_aside (fun _ => rfl) fun x => ?_)
  split
  · exact hok
  · refine ends_bind.mpr (ends_aside (fun _ => rfl) fun x => ?_)
    split
    · exact hok
    · exact hlate

/-- A wait is over in time, or it is not. -/
def Waited (v : List (Nat × UInt8)) (s : Seen) (r : Status) (v' : List (Nat × UInt8)) (t : Seen) :
    Prop := v' = v ∧ t = s ∧ (r = .ok ∨ r = .errTimeout)

theorem waitLoop_ends : ∀ left, Ends Any (waitLoop left) v s (Waited v s)
  | 0 => waitTurn_ends (⟨rfl, rfl, .inr rfl⟩ : Waited v s _ v s) ⟨rfl, rfl, .inl rfl⟩
  | 1 => waitTurn_ends (⟨rfl, rfl, .inr rfl⟩ : Waited v s _ v s) ⟨rfl, rfl, .inl rfl⟩
  | left + 2 => waitTurn_ends (waitLoop_ends (left + 1)) ⟨rfl, rfl, .inl rfl⟩

theorem waitForBus_ends (m : Module) : Ends Any (waitForBus m) v s (Waited v s) :=
  waitLoop_ends _

/-- An address that is refused is followed by a stop, and by none otherwise. -/
structure Addressed (r : Status) (v : List (Nat × UInt8)) (t : Seen) : Prop where
  stores : v = []
  seen : t = { Seen.start with stops := if r = .errBadAddress then 1 else 0 }
  overflow : r ≠ .errOverflow

theorem start_after_status (x : UInt32) : Seen.start.after x .status = Seen.start := by
  simp only [Seen.after_status, Seen.start, Option.toList_none, List.append_nil, ite_self]

theorem addressResponse_ends : Ends Any addressResponse [] Seen.start Addressed := by
  refine ends_bind.mpr (ends_aside (fun _ => rfl) fun x => ?_)
  split
  · refine ends_bind.mpr (ends_aside (fun _ => rfl) fun x => ?_)
    refine ends_bind.mpr (ends_aside start_after_status fun x => ?_)
    split
    · exact ⟨rfl, rfl, nofun⟩
    · exact ⟨rfl, rfl, nofun⟩
  · refine ends_bind.mpr (ends_aside start_after_status fun x => ?_)
    split
    · refine ends_bind.mpr (ends_access fun x => ?_)
      exact ⟨rfl, rfl, nofun⟩
    · exact ⟨rfl, rfl, nofun⟩

/-- Nothing has been moved yet. -/
def Untouched (v : List (Nat × UInt8)) (t : Seen) : Prop := v = [] ∧ t = Seen.start

theorem Waited.addressed {r : Status} {v : List (Nat × UInt8)} {t : Seen}
    (h : Waited [] Seen.start r v t) : Addressed r v t := by
  obtain ⟨rfl, rfl, rfl | rfl⟩ := h
  · exact ⟨rfl, rfl, nofun⟩
  · exact ⟨rfl, rfl, nofun⟩

theorem addressAnswered_ends (m : Module) :
    Ends Any (addressAnswered m) [] Seen.start Addressed := by
  refine (waitForBus_ends m).bind fun r v t h => ?_
  have haddressed := h.addressed
  obtain ⟨rfl, rfl, -⟩ := h
  split
  · exact addressResponse_ends
  · exact haddressed

theorem readAddressAnswered_ends (m : Module) :
    Ends Any (readAddressAnswered m) [] Seen.start Addressed := by
  refine (waitForBus_ends m).bind fun r v t h => ?_
  have haddressed := h.addressed
  obtain ⟨rfl, rfl, -⟩ := h
  refine ends_bind.mpr (ends_aside (fun _ => rfl) fun x => ?_)
  split
  · exact addressResponse_ends
  · exact haddressed

theorem switchToHighSpeed_ends (m : Module) (p : Packet) :
    Ends Any (switchToHighSpeed m p) [] Seen.start fun _ => Untouched := by
  rw [switchToHighSpeed]
  split
  · refine ends_bind.mpr ?_
    refine ends_bind.mpr (ends_aside (fun _ => rfl) fun x => ?_)
    refine ends_bind.mpr (ends_aside (fun _ => rfl) fun x => ?_)
    refine (waitForBus_ends m).bind fun r v t h => ?_
    obtain ⟨rfl, rfl, -⟩ := h
    refine ends_bind.mpr (ends_aside (fun _ => rfl) fun x => ?_)
    exact ⟨rfl, rfl⟩
  · exact ⟨rfl, rfl⟩

theorem readAddress_ends (m : Module) (p : Packet) :
    Ends Any (readAddress m p) [] Seen.start Addressed := by
  refine (switchToHighSpeed_ends m p).bind fun _ v t h => ?_
  obtain ⟨rfl, rfl⟩ := h
  refine ends_bind.mpr (ends_aside (fun _ => rfl) fun x => ?_)
  split
  · refine ends_bind.mpr (ends_aside (fun _ => rfl) fun x => ?_)
    refine (readAddressAnswered_ends m).bind fun r v t h => ?_
    split
    · rename_i hok
      obtain ⟨rfl, rfl, -⟩ := h
      rw [hok]
      refine ends_bind.mpr (ends_aside (fun _ => rfl) fun x => ?_)
      exact readAddressAnswered_ends m
    · exact h
  · refine ends_bind.mpr (ends_aside (fun _ => rfl) fun x => ?_)
    exact readAddressAnswered_ends m

theorem writeAddress_ends (m : Module) (p : Packet) :
    Ends Any (writeAddress m p) [] Seen.start Addressed := by
  refine ends_bind.mpr (ends_aside (fun _ => rfl) fun x => ?_)
  refine (switchToHighSpeed_ends m p).bind fun _ v t h => ?_
  obtain ⟨rfl, rfl⟩ := h
  refine ends_bind.mpr (ends_aside (fun _ => rfl) fun x => ?_)
  split
  · refine ends_bind.mpr (ends_aside (fun _ => rfl) fun x => ?_)
    exact addressAnswered_ends m
  · refine ends_bind.mpr (ends_aside (fun _ => rfl) fun x => ?_)
    exact addressAnswered_ends m

/-! ### The read loop -/

/-- The bytes in the order in which they were read. -/
def enumerated (l : List UInt8) : List (Nat × UInt8) := l.mapIdx fun i b => (i, b)

theorem enumerated_concat (l : List UInt8) (b : UInt8) :
    enumerated (l ++ [b]) = enumerated l ++ [(l.length, b)] := List.mapIdx_concat

/-- The bytes that the loop saves, with `n` turns to go. -/
def loopSaves (m : Module) : Nat → Nat
  | 0 => 0
  | n + 1 => loopSaves m n + if m.nackTurn n then 0 else 1

/-- All bytes read have been saved, in order, and nothing else has been. -/
structure Saved (v : List (Nat × UInt8)) (t : Seen) : Prop where
  stores : v = enumerated t.reads
  writes : t.writes = []

theorem save_ends {c : Nat} (h : Saved v s) (hc : c = s.reads.length) :
    Ends Any (save c) v s fun _ v' t => Saved v' t ∧
      t.reads.length = s.reads.length + 1 ∧ t.stops = s.stops := by
  refine ends_bind.mpr (ends_aside (fun _ => rfl) fun x => ?_)
  refine ends_bind.mpr (ends_access fun value => ends_modify.mpr ⟨⟨?_, h.writes⟩, ?_, rfl⟩)
  · show v ++ [(c, value.toUInt8)] = enumerated (s.reads ++ [value.toUInt8])
    rw [enumerated_concat, h.stores, hc]
  · exact List.length_append

/-- How the loop ends. -/
structure ReadLooped (m : Module) (n : Nat) (s : Seen) (r : Option (Status × Nat))
    (v : List (Nat × UInt8)) (t : Seen) : Prop where
  saved : Saved v t
  stops : t.stops = s.stops
  most : t.reads.length ≤ s.reads.length + loopSaves m n
  ended : ∀ status c, r = some (status, c) → c = t.reads.length ∧
    ((status = .ok ∧ t.reads.length = s.reads.length + loopSaves m n) ∨
      (status = .errTimeout ∧ s.reads.length < t.reads.length))

theorem readLoop_ends (m : Module) (n : Nat) {c : Nat} (h : Saved v s)
    (hc : c = s.reads.length) : Ends Any (readLoop m n c) v s (ReadLooped m n s) := by
  induction n generalizing v s c with
  | zero =>
    refine ⟨h, rfl, Nat.le_refl _, ?_⟩
    rintro status c' hr
    cases hr
    exact ⟨hc, .inl ⟨rfl, rfl⟩⟩
  | succ n ih =>
    rw [readLoop]
    refine ends_bind.mpr (ends_access fun x => ?_)
    have hstatus : Saved v (s.after x .status) := ⟨h.stores, h.writes⟩
    split
    · exact ⟨hstatus, rfl, Nat.le_add_right _ _, nofun⟩
    · split
      · rename_i hnack
        refine ends_bind.mpr (ends_aside (fun _ => rfl) fun x' => ?_)
        have hsame : loopSaves m (n + 1) = loopSaves m n := by
          rw [loopSaves, if_pos hnack, Nat.add_zero]
        refine (ih hstatus hc).mono fun r v' t ht => ⟨ht.saved, ht.stops, ?_, ?_⟩
        · rw [hsame]
          exact ht.most
        · rw [hsame]
          exact ht.ended
      · rename_i hsave
        have hmore : loopSaves m (n + 1) = loopSaves m n + 1 := by rw [loopSaves, if_neg hsave]
        refine (save_ends hstatus hc).bind fun _ v₁ t₁ ⟨hsaved, hlen, hstops⟩ => ?_
        refine (waitForBus_ends m).bind fun tmpStatus v₂ t₂ hwait => ?_
        obtain ⟨rfl, rfl, hstatuses⟩ := hwait
        have hread : t₂.reads.length = s.reads.length + 1 := hlen
        split
        · rename_i hbad
          refine ⟨hsaved, hstops, by omega, ?_⟩
          rintro status c' hr
          cases hr
          refine ⟨by omega, .inr ⟨hstatuses.resolve_left hbad, by omega⟩⟩
        · refine (ih hsaved (by omega)).mono fun r v' t ht => ?_
          refine ⟨ht.saved, ht.stops.trans hstops, ?_, fun status c' hr => ?_⟩
          · have hmost := ht.most
            omega
          · obtain ⟨hc', hend⟩ := ht.ended status c' hr
            refine ⟨hc', ?_⟩
            rcases hend with ⟨hok, hall⟩ | ⟨hlate, hsome⟩
            · exact .inl ⟨hok, by omega⟩
            · exact .inr ⟨hlate, by omega⟩

/-- The bytes that a read stores, one of them behind the loop. -/
def bytesRead (m : Module) (len : Nat) : Nat :=
  if m.sendNack then if m.sclsm ∧ len = 1 then 2 else max 1 len else len + 1

theorem loopSaves_succ (m : Module) (n : Nat) : loopSaves m n + 1 = bytesRead m n := by
  rcases hnack : m.sendNack with _ | _
  · have hall : loopSaves m n = n := by
      induction n with
      | zero => rfl
      | succ n ih => simp [loopSaves, ih, Module.nackTurn, hnack]
    simp [bytesRead, hnack, hall]
  · rcases hsclsm : m.sclsm with _ | _
    · have hall : loopSaves m n = n - 1 := by
        induction n with
        | zero => rfl
        | succ n ih =>
          rw [loopSaves, ih]
          cases n with
          | zero => simp [Module.nackTurn, hnack, hsclsm]
          | succ n => simp [Module.nackTurn, hnack, hsclsm]
      simp only [bytesRead, hnack, hsclsm, hall, if_true, Bool.false_eq_true, false_and, if_false]
      omega
    · have hall : loopSaves m n = if n = 1 then 1 else n - 1 := by
        induction n with
        | zero => rfl
        | succ n ih =>
          rw [loopSaves, ih]
          match n with
          | 0 => simp [Module.nackTurn, hnack, hsclsm]
          | 1 => simp [Module.nackTurn, hnack, hsclsm]
          | n + 2 => simp [Module.nackTurn, hnack, hsclsm]
      simp only [bytesRead, hnack, hsclsm, hall, if_true, true_and]
      split
      · rfl
      · omega

/-! ## Reads -/

/-- What a read has stored and whether it has released the bus, for a packet of `len` bytes. -/
structure ReadDone (m : Module) (len : Nat) (r : Status) (v : List (Nat × UInt8)) (t : Seen) :
    Prop where
  /-- The bytes read from DATA are stored from the front on, each once, and nothing else is. -/
  stores : v = enumerated t.reads
  most : t.reads.length ≤ bytesRead m len
  all : r = .ok → t.reads.length = bytesRead m len
  /-- There is a stop behind an address that is refused, and otherwise, where it is wanted,
  behind everything but a lost bus and an address that nobody answers. -/
  stops : t.stops = if r = .errBadAddress ∨
    (m.sendStop = true ∧ (r = .ok ∨ (r = .errTimeout ∧ t.reads ≠ []))) then 1 else 0

theorem stopIf_ends (b : Bool) :
    Ends Any (stopIf b) v s fun _ v' t => v' = v ∧ t = { s with stops := s.stops + b.toNat } := by
  cases b with
  | false => exact ⟨rfl, rfl⟩
  | true =>
    refine ends_bind.mpr (ends_aside (fun _ => rfl) fun x => ?_)
    refine ends_bind.mpr (ends_access fun x => ?_)
    exact ⟨rfl, rfl⟩

theorem readPacket_ends (m : Module) (p : Packet) :
    Ends Any (readPacket m p) [] Seen.start (ReadDone m p.dataLength.toNat) := by
  refine (readAddress_ends m p).bind fun r v t h => ?_
  obtain ⟨rfl, rfl, hoverflow⟩ := h
  split
  · rename_i hok
    rw [hok]
    have hlast := loopSaves_succ m p.dataLength.toNat
    refine (readLoop_ends m p.dataLength.toNat (v := []) (s := Seen.start) ⟨rfl, rfl⟩ rfl).bind
      fun end_ v t hloop => ?_
    have hmost : t.reads.length ≤ 0 + loopSaves m p.dataLength.toNat := hloop.most
    have hstops : t.stops = 0 := hloop.stops
    cases end_ with
    | none =>
      refine ⟨hloop.saved.stores, by omega, nofun, ?_⟩
      simp [hstops]
    | some last =>
      obtain ⟨tmpStatus, counter⟩ := last
      obtain ⟨hcounter, hend⟩ := hloop.ended tmpStatus counter rfl
      refine (stopIf_ends m.sendStop).bind fun _ v₁ t₁ ⟨hv, ht⟩ => ?_
      subst hv ht
      have hsaved : Saved v₁ { t with stops := t.stops + m.sendStop.toNat } :=
        ⟨hloop.saved.stores, hloop.saved.writes⟩
      refine (save_ends hsaved hcounter).bind fun _ v₂ t₂ ⟨hstored, hlen, hstopped⟩ => ?_
      have hread : t₂.reads.length = t.reads.length + 1 := hlen
      have hstop : t₂.stops = m.sendStop.toNat := by
        rw [hstopped, hstops, Nat.zero_add]
      have hne : t₂.reads ≠ [] := List.ne_nil_of_length_pos (by omega)
      refine ⟨hstored.stores, by omega, fun hok => ?_, ?_⟩
      · rcases hend with ⟨-, hall⟩ | ⟨hlate, -⟩
        · have hall' : t.reads.length = 0 + loopSaves m p.dataLength.toNat := hall
          omega
        · rw [hlate] at hok
          cases hok
      · have hstatus : tmpStatus = .ok ∨ tmpStatus = .errTimeout :=
          hend.imp And.left And.left
        rcases hstatus with rfl | rfl
        · cases hsend : m.sendStop <;> simp [hstop, hsend]
        · cases hsend : m.sendStop <;> simp [hstop, hsend, hne]
  · rename_i hbad
    refine ⟨rfl, Nat.zero_le _, fun hok => absurd hok hbad, ?_⟩
    simp [hbad, Seen.start]

/-! ## A slave that takes part -/

/-- The answers where the slave acknowledges everything in time. -/
def answer : Access → UInt32
  | .intflag => 0x03
  | .status => 0x20
  | _ => 0

def Good (s : Seen) (q : Access) (x : UInt32) (t : Seen) : Prop := x = answer q ∧ t = s.after x q

/-- With such a slave the function returns `STATUS_OK`. -/
def Succeeds (r : Bus Status) : Prop := ∀ v s, Ends Good r v s fun a _ _ => a = .ok

theorem ends_good {q : Access} {post : UInt32 → List (Nat × UInt8) → Seen → Prop}
    (h : ∀ t, post (answer q) v t) : Ends Good (call q) v s post := by
  refine ends_call.mpr ⟨⟨_, _, rfl, rfl⟩, ?_⟩
  rintro x t ⟨rfl, rfl⟩
  exact h _

theorem waitTurn_succeeds (late : Bus Status) : Succeeds (waitTurn late) := by
  intro v s
  refine ends_bind.mpr (ends_good fun t => ?_)
  rw [if_pos (by decide)]
  exact (rfl : Status.ok = .ok)

theorem waitForBus_succeeds (m : Module) : Succeeds (waitForBus m) := by
  rw [waitForBus]
  match m.bufferTimeout.toNat with
  | 0 => exact waitTurn_succeeds _
  | 1 => exact waitTurn_succeeds _
  | left + 2 => exact waitTurn_succeeds _

theorem addressResponse_succeeds : Succeeds addressResponse := by
  intro v s
  refine ends_bind.mpr (ends_good fun t => ?_)
  rw [if_pos (by decide)]
  refine ends_bind.mpr (ends_good fun t => ?_)
  refine ends_bind.mpr (ends_good fun t => ?_)
  rw [if_neg (by decide)]
  exact (rfl : Status.ok = .ok)

theorem readAddressAnswered_succeeds (m : Module) : Succeeds (readAddressAnswered m) := by
  intro v s
  refine (waitForBus_succeeds m v s).bind fun r v t hr => ?_
  refine ends_bind.mpr (ends_good fun t => ?_)
  rw [if_pos hr]
  exact addressResponse_succeeds v t

/-- A routine that ends, however. -/
theorem switchToHighSpeed_good (m : Module) (p : Packet) :
    Ends Good (switchToHighSpeed m p) v s fun _ _ _ => True := by
  rw [switchToHighSpeed]
  split
  · refine ends_bind.mpr ?_
    refine ends_bind.mpr (ends_good fun t => ?_)
    refine ends_bind.mpr (ends_good fun t => ?_)
    refine (waitForBus_succeeds m _ _).bind fun r v t _ => ?_
    exact ends_bind.mpr (ends_good fun t => trivial)
  · exact trivial

theorem readAddress_succeeds (m : Module) (p : Packet) : Succeeds (readAddress m p) := by
  intro v s
  refine (switchToHighSpeed_good m p).bind fun _ v t _ => ?_
  refine ends_bind.mpr (ends_good fun t => ?_)
  split
  · refine ends_bind.mpr (ends_good fun t => ?_)
    refine (readAddressAnswered_succeeds m _ _).bind fun r v t hr => ?_
    rw [if_pos hr]
    refine ends_bind.mpr (ends_good fun t => ?_)
    exact readAddressAnswered_succeeds m _ _
  · refine ends_bind.mpr (ends_good fun t => ?_)
    exact readAddressAnswered_succeeds m _ _

theorem save_good (c : Nat) : Ends Good (save c) v s fun _ _ _ => True := by
  refine ends_bind.mpr (ends_good fun t => ?_)
  exact ends_bind.mpr (ends_good fun t => trivial)

theorem readLoop_good (m : Module) (n c : Nat) :
    Ends Good (readLoop m n c) v s fun r _ _ => ∃ c', r = some (.ok, c') := by
  induction n generalizing v s c with
  | zero => exact ⟨c, rfl⟩
  | succ n ih =>
    rw [readLoop]
    refine ends_bind.mpr (ends_good fun t => ?_)
    rw [if_neg (by decide)]
    split
    · exact ends_bind.mpr (ends_good fun t => ih c)
    · refine (save_good c).bind fun _ v t _ => ?_
      refine (waitForBus_succeeds m _ _).bind fun r v t hr => ?_
      rw [if_neg (not_not.mpr hr)]
      exact ih (c + 1)

theorem readPacket_succeeds (m : Module) (p : Packet) : Succeeds (readPacket m p) := by
  intro v s
  refine (readAddress_succeeds m p v s).bind fun r v t hr => ?_
  rw [if_pos hr]
  refine (readLoop_good m _ 0).bind fun end_ v t hend => ?_
  obtain ⟨c, rfl⟩ := hend
  have hstop : Ends Good (stopIf m.sendStop) v t fun _ _ _ => True := by
    rw [stopIf]
    split
    · refine ends_bind.mpr (ends_good fun t => ?_)
      exact ends_bind.mpr (ends_good fun t => trivial)
    · exact trivial
  refine hstop.bind fun _ v t _ => ?_
  refine (save_good c).bind fun _ v t _ => ?_
  exact (rfl : Status.ok = .ok)

/-- Some slave takes part to the end. -/
theorem exists_of_succeeds {r : Bus Status} {post : Status → List (Nat × UInt8) → Seen → Prop}
    (hgood : Succeeds r) (h : Ends Any r v s post) : ∃ v' t, post .ok v' t := by
  have hboth : Ends Good r v s fun a v' t => a = .ok ∧ post a v' t := by
    refine (hgood v s).and (Ensures.restrict ?_ ?_ h)
    · rintro s q x t ⟨-, ht⟩
      exact ht
    · exact fun s q => ⟨_, _, rfl, rfl⟩
  obtain ⟨⟨a, v'⟩, t, rfl, hpost⟩ := Ensures.exists hboth
  exact ⟨v', t, hpost⟩

/-! ## The buffer -/

theorem mem_enumerated_iff {l : List UInt8} {n : Nat} :
    (∀ e ∈ enumerated l, e.1 < n) ↔ l.length ≤ n := by
  induction l using List.reverseRecOn with
  | nil => simp [enumerated]
  | append_singleton l b ih =>
    rw [enumerated_concat, List.forall_mem_append, ih, List.length_append]
    simp only [List.mem_singleton, forall_eq, List.length_singleton]
    omega

/-- What a slave can bring about is to fill the buffer, and one byte more in three cases: the
packet is empty, the read is not to be ended with a NACK, or it is of one byte with the
clock stretched behind the acknowledge bit. -/
theorem readPacket_inside_iff (m : Module) (p : Packet) :
    (Ends Any (readPacket m p) [] Seen.start fun _ v _ =>
        ∀ e ∈ v, e.1 < p.dataLength.toNat) ↔
      m.sendNack = true ∧ p.dataLength ≠ 0 ∧ (m.sclsm = true → p.dataLength ≠ 1) := by
  have hfits : (Ends Any (readPacket m p) [] Seen.start fun _ v _ =>
      ∀ e ∈ v, e.1 < p.dataLength.toNat) ↔
        bytesRead m p.dataLength.toNat ≤ p.dataLength.toNat := by
    constructor
    · intro h
      obtain ⟨v, t, hinside, hdone⟩ := exists_of_succeeds (readPacket_succeeds m p)
        (h.and (readPacket_ends m p))
      rw [hdone.stores, mem_enumerated_iff, hdone.all rfl] at hinside
      exact hinside
    · intro h
      refine (readPacket_ends m p).mono fun r v t hdone => ?_
      rw [hdone.stores]
      exact mem_enumerated_iff.mpr (Nat.le_trans hdone.most h)
  have hzero : p.dataLength ≠ 0 ↔ p.dataLength.toNat ≠ 0 := UInt16.toNat_inj.not.symm
  have hone : p.dataLength ≠ 1 ↔ p.dataLength.toNat ≠ 1 := UInt16.toNat_inj.not.symm
  rw [hfits, hzero, hone, bytesRead]
  generalize p.dataLength.toNat = n
  cases m.sendNack with
  | false => simp
  | true =>
    cases m.sclsm with
    | false =>
      simp
      omega
    | true =>
      simp
      split
      · omega
      · omega

/-! ## Writes -/

/-- The first `k` bytes of a packet. -/
def Packet.front (p : Packet) (k : Nat) : List UInt8 := (List.range k).map p.data

theorem Packet.front_succ (p : Packet) (k : Nat) : p.front (k + 1) = p.front k ++ [p.data k] := by
  rw [Packet.front, List.range_succ, List.map_append]
  rfl

/-- How far a write has come: `j` bytes are acknowledged, and there may be one more. -/
structure Progress (p : Packet) (j k : Nat) (t : Seen) : Prop where
  writes : t.writes = p.front k
  acked : t.acked = p.front j
  most : j ≤ k ∧ k ≤ j + 1

/-- How the loop ends, with `len` bytes to write. -/
structure WriteLooped (p : Packet) (len : Nat) (v : List (Nat × UInt8)) (s : Seen)
    (r : Option Status) (v' : List (Nat × UInt8)) (t : Seen) : Prop where
  stores : v' = v
  stops : t.stops = s.stops
  progress : ∃ j k, Progress p j k t ∧ k ≤ len ∧ match r with
    | none => j < len
    | some .ok => j = len
    | some .errOverflow => k = j + 1
    | some .errTimeout => k = j + 1
    | some _ => False

theorem writeLoop_ends (m : Module) (p : Packet) (n : Nat) {c : Nat} (h : Progress p c c s)
    (hasked : s.asked = none) :
    Ends Any (writeLoop m p n c) v s (WriteLooped p (c + n) v s) := by
  induction n generalizing v s c with
  | zero => exact ⟨rfl, rfl, c, c, h, Nat.le_refl _, rfl⟩
  | succ n ih =>
    rw [writeLoop]
    -- STATUS is read with no byte out
    have hstatus : ∀ x, s.after x .status = { s with asked := none } := by
      intro x
      simp only [Seen.after_status, hasked, Option.toList_none, List.append_nil, ite_self]
    refine ends_bind.mpr (ends_access fun x => ?_)
    rw [hstatus x]
    split
    · exact ⟨rfl, rfl, c, c, ⟨h.writes, h.acked, h.most⟩, by omega, by dsimp only; omega⟩
    · refine ends_bind.mpr (ends_aside (fun _ => rfl) fun x => ?_)
      refine ends_bind.mpr (ends_access fun x => ?_)
      have hout : Progress p c (c + 1)
          (Seen.after { s with asked := none } x (.putData (p.data c))) := by
        refine ⟨?_, h.acked, by omega⟩
        rw [p.front_succ, ← h.writes]
        rfl
      refine (waitForBus_ends m).bind fun tmpStatus v₁ t₁ hwait => ?_
      obtain ⟨rfl, rfl, hstatuses⟩ := hwait
      split
      · rename_i hbad
        rw [hstatuses.resolve_left hbad]
        exact ⟨rfl, rfl, c, c + 1, hout, by omega, rfl⟩
      · refine ends_bind.mpr (ends_access fun x' => ?_)
        split
        · rename_i hnack
          refine ⟨rfl, rfl, c, c + 1, ⟨hout.writes, ?_, by omega⟩, by omega, rfl⟩
          rw [← h.acked]
          exact if_neg hnack
        · rename_i hack
          have hacked : Progress p (c + 1) (c + 1) (Seen.after
              (Seen.after { s with asked := none } x (.putData (p.data c))) x' .status) := by
            refine ⟨hout.writes, ?_, by omega⟩
            rw [p.front_succ, ← h.acked]
            exact if_pos (not_not.mp hack)
          have hrest := ih (v := v₁) hacked rfl
          rw [show c + 1 + n = c + (n + 1) by omega] at hrest
          exact hrest.mono fun r v' t ht => ⟨ht.stores, ht.stops, ht.progress⟩

/-- What a write has sent and whether it has released the bus. -/
structure WriteDone (m : Module) (p : Packet) (r : Status) (v : List (Nat × UInt8)) (t : Seen) :
    Prop where
  stores : v = []
  /-- The bytes go out in order, each behind the acknowledgement of the one before.  All of
  them are acknowledged where the status says so, and only there. -/
  progress : ∃ j k, Progress p j k t ∧ k ≤ p.dataLength.toNat ∧
    (r = .ok → j = p.dataLength.toNat) ∧ (r ≠ .ok → k ≠ 0 → j < p.dataLength.toNat)
  /-- There is a stop behind an address that is refused, and otherwise, where it is wanted,
  behind everything but a lost bus and an address that nobody answers. -/
  stops : t.stops = if r = .errBadAddress ∨ (m.sendStop = true ∧
    (r = .ok ∨ r = .errOverflow ∨ (r = .errTimeout ∧ t.writes ≠ []))) then 1 else 0

theorem writePacket_ends (m : Module) (p : Packet) :
    Ends Any (writePacket m p) [] Seen.start (WriteDone m p) := by
  refine (writeAddress_ends m p).bind fun r v t h => ?_
  obtain ⟨rfl, rfl, hoverflow⟩ := h
  split
  · rename_i hok
    rw [hok]
    refine (writeLoop_ends m p p.dataLength.toNat (v := []) (s := Seen.start)
      (c := 0) ⟨rfl, rfl, by omega⟩ rfl).bind fun end_ v t hloop => ?_
    obtain ⟨hstores, hstops, j, k, hprogress, hk, hend⟩ := hloop
    rw [Nat.zero_add] at hk hend
    have hnone : t.stops = 0 := hstops
    cases end_ with
    | none =>
      refine ⟨hstores, ⟨j, k, hprogress, hk, nofun, fun _ _ => hend⟩, ?_⟩
      simp [hnone]
    | some status =>
      refine (stopIf_ends m.sendStop).bind fun _ v₁ t₁ ⟨hv, ht⟩ => ?_
      subst hv ht
      have hmost := hprogress.most
      have hne : k ≠ 0 → t.writes ≠ [] := by
        intro hpos hnil
        have hlen := congrArg List.length (hprogress.writes.symm.trans hnil)
        rw [Packet.front, List.length_map, List.length_range] at hlen
        exact hpos hlen
      have hdone : Progress p j k { t with stops := t.stops + m.sendStop.toNat } :=
        ⟨hprogress.writes, hprogress.acked, hprogress.most⟩
      cases status with
      | ok =>
        refine ⟨hstores, ⟨j, k, hdone, hk, fun _ => hend, fun h => absurd rfl h⟩, ?_⟩
        cases hsend : m.sendStop <;> simp [hnone]
      | errOverflow =>
        refine ⟨hstores, ⟨j, k, hdone, hk, nofun, fun _ _ => ?_⟩, ?_⟩
        · have hlast : k = j + 1 := hend
          omega
        · cases hsend : m.sendStop <;> simp [hnone]
      | errTimeout =>
        have hlast : k = j + 1 := hend
        refine ⟨hstores, ⟨j, k, hdone, hk, nofun, fun _ _ => by omega⟩, ?_⟩
        cases hsend : m.sendStop <;> simp [hnone, hne (by omega)]
      | errPacketCollision => exact hend.elim
      | errBadAddress => exact hend.elim
  · rename_i hbad
    refine ⟨rfl, ⟨0, 0, ⟨rfl, rfl, by omega⟩, Nat.zero_le _, fun h => absurd h hbad,
      fun _ h => absurd rfl h⟩, ?_⟩
    simp [hbad, hoverflow, Seen.start]

/-! ## Through the HAL -/

variable {ports : List (Option Module)} {i2cNum : UInt8}

/-- The port with a number, if there is one. -/
def port (ports : List (Option Module)) (i2cNum : UInt8) : Option Module :=
  (ports[i2cNum.toNat]?).join

theorem resolve_none {f : Module → Bus Status} (h : port ports i2cNum = none) :
    resolve ports i2cNum f = pure .einval := by
  rw [port] at h
  rw [resolve, h]

theorem resolve_some {f : Module → Bus Status} {i2c : Module}
    (h : port ports i2cNum = some i2c) :
    resolve ports i2cNum f = f i2c >>= fun status => pure (rcOf status) := by
  rw [port] at h
  rw [resolve, h]

/-- A function of the HAL ends as that of the driver does, on a port that there is. -/
theorem resolve_ends {f : Module → Bus Status}
    {post : Module → Status → List (Nat × UInt8) → Seen → Prop}
    (h : ∀ i2c, Ends Any (f i2c) [] Seen.start (post i2c)) :
    Ends Any (resolve ports i2cNum f) [] Seen.start fun rc v t =>
      (port ports i2cNum = none ∧ rc = .einval ∧ v = [] ∧ t = Seen.start) ∨
        ∃ i2c status, port ports i2cNum = some i2c ∧ rc = rcOf status ∧ post i2c status v t := by
  cases hport : port ports i2cNum with
  | none =>
    rw [resolve_none hport]
    exact .inl ⟨rfl, rfl, rfl, rfl⟩
  | some i2c =>
    rw [resolve_some hport]
    refine (h i2c).bind fun status v t hpost => ?_
    exact .inr ⟨i2c, status, rfl, rfl, hpost⟩

/-- A write through the HAL, with any slave and other masters: the bytes of the buffer go out
in order, each behind the acknowledgement of the one before, and 0 is returned when all of
them are acknowledged. -/
theorem halI2cMasterWrite_ends (ports : List (Option Module)) (i2cNum : UInt8)
    (ppkt : MasterData) (lastOp : Bool) :
    Ends Any (halI2cMasterWrite ports i2cNum ppkt lastOp) [] Seen.start fun rc v t =>
      (port ports i2cNum = none ∧ rc = .einval ∧ v = [] ∧ t = Seen.start) ∨
        ∃ i2c status, port ports i2cNum = some i2c ∧ rc = rcOf status ∧
          WriteDone { i2c with sendStop := lastOp, sendNack := true } ppkt.packet status v t := by
  refine resolve_ends fun i2c => ?_
  cases lastOp with
  | false => exact writePacket_ends _ _
  | true => exact writePacket_ends _ _

/-- A read through the HAL: the bytes from DATA are stored from the front of the buffer on. -/
theorem halI2cMasterRead_ends (ports : List (Option Module)) (i2cNum : UInt8)
    (ppkt : MasterData) (lastOp : Bool) :
    Ends Any (halI2cMasterRead ports i2cNum ppkt lastOp) [] Seen.start fun rc v t =>
      (port ports i2cNum = none ∧ rc = .einval ∧ v = [] ∧ t = Seen.start) ∨
        ∃ i2c status, port ports i2cNum = some i2c ∧ rc = rcOf status ∧
          ReadDone { i2c with sendStop := lastOp, sendNack := true } ppkt.len.toNat status v t := by
  refine resolve_ends fun i2c => ?_
  cases lastOp with
  | false => exact readPacket_ends _ _
  | true => exact readPacket_ends _ _

/-- A read through the HAL keeps to a buffer of `len` bytes, whatever the slave does, when
there is no such port, or when `len` is not 0, nor 1 with the clock stretched behind the
acknowledge bit.  A probe keeps to its one byte. -/
theorem halI2cMasterRead_inside_iff (ports : List (Option Module)) (i2cNum : UInt8)
    (ppkt : MasterData) (lastOp : Bool) :
    ((Ends Any (halI2cMasterRead ports i2cNum ppkt lastOp) [] Seen.start fun _ v _ =>
        ∀ e ∈ v, e.1 < ppkt.len.toNat) ↔
      ∀ i2c, port ports i2cNum = some i2c →
        ppkt.len ≠ 0 ∧ (i2c.sclsm = true → ppkt.len ≠ 1)) ∧
    ∀ address, Ends Any (halI2cMasterProbe ports i2cNum address) [] Seen.start fun _ v _ =>
      ∀ e ∈ v, e.1 < 1 := by
  constructor
  · cases hport : port ports i2cNum with
    | none =>
      rw [halI2cMasterRead, resolve_none hport]
      exact iff_of_true nofun nofun
    | some i2c =>
      have hinside := fun b => readPacket_inside_iff
        { i2c with sendStop := b, sendNack := true } ppkt.packet
      have hends : (Ends Any (halI2cMasterRead ports i2cNum ppkt lastOp) [] Seen.start
          fun _ v _ => ∀ e ∈ v, e.1 < ppkt.len.toNat) ↔
            Ends Any (readPacket { i2c with sendStop := lastOp, sendNack := true } ppkt.packet) []
              Seen.start fun _ v _ => ∀ e ∈ v, e.1 < ppkt.len.toNat := by
        rw [halI2cMasterRead, resolve_some hport]
        cases lastOp with
        | false => exact ends_bind
        | true => exact ends_bind
      refine hends.trans ((hinside lastOp).trans ?_)
      constructor
      · rintro ⟨-, hzero, hone⟩ i2c' hi2c
        cases hi2c
        exact ⟨hzero, hone⟩
      · intro h
        obtain ⟨hzero, hone⟩ := h i2c rfl
        exact ⟨rfl, hzero, hone⟩
  · intro address
    refine (resolve_ends fun i2c => readPacket_ends _ _).mono fun rc v t h => ?_
    rcases h with ⟨-, -, rfl, -⟩ | ⟨i2c, status, -, -, hdone⟩
    · exact nofun
    · rw [hdone.stores, mem_enumerated_iff]
      refine Nat.le_trans hdone.most ?_
      simp [bytesRead, MasterData.packet]

end I2c
