import Mathlib.Logic.Function.Basic
import MynewtArduinoZero.Arduino.ArduinoTest
import MynewtArduinoZero.Lib.Checked
import MynewtArduinoZero.Lib.Run

/-!
# The commands

A command names a pin.  `arduino_pinstr_to_entry` gives the `entry_id` of the
pin, and the functions use it as an index of `pin_map` and `interface_map`.  The
rows of the analog pins are not compiled and the numbers count them, so that the
index is six above the position of the pin.
-/

namespace ArduinoTest

namespace Shell

open Checked (Prog Fault index check)

/-! ## The commands -/

inductive Table where
  | pinMap | interfaceMap
deriving DecidableEq

/-- `interface_map`, and the calls of the HAL in the command. -/
structure Pins where
  interfaceMap : Fin arduinoNumDevs → Interface
  calls : List HalCall

inductive Command where
  | set (pin function : String)
  /-- The value is what `atoi` makes of the word. -/
  | write (pin : String) (value : Int)
  | read (pin : String)
  | show (pin : Option String)
deriving DecidableEq

/-- What is printed. -/
inductive Reply where
  | invalidPin
  | invalidDevice
  | done (rc : Int)
  | value (rc : Int) (value : Option Int)
  | table
deriving DecidableEq

/-- The first row of `pin_map` with the name. -/
def position (board : Board) (pinstr : String) : Option (Fin arduinoNumDevs) :=
  (List.finRange arduinoNumDevs).find? fun i => (pinMap board)[i].name = pinstr

/-- `arduino_pinstr_to_entry`. -/
def arduinoPinstrToEntry (board : Board) (pinstr : String) : Int :=
  match position board pinstr with
  | some i => (pinMap board)[i].entryId
  | none => -1

/-- `arduino_devstr_to_dev`. -/
def arduinoDevstrToDev (devstr : String) : Int :=
  match (List.finRange interfaceCnt).find? fun i => interfaceInfo[i].name = devstr with
  | some i => i
  | none => -1

/-- The calls of the HAL. -/
def halCalls (effects : List Effect) : List HalCall :=
  effects.filterMap fun
    | .hal call => some call
    | _ => none

/-- A function on the two entries at an index. -/
def atEntry {α : Type} (board : Board) (entryId : Int)
    (f : PinMapEntry → Interface → Outcome α) : Prog Table Pins α := do
  let i ← index arduinoNumDevs .interfaceMap entryId
  let k ← index arduinoNumDevs .pinMap entryId
  let s ← get
  let r := f (pinMap board)[k] (s.interfaceMap i)
  set (⟨Function.update s.interfaceMap i r.pint, s.calls ++ halCalls r.effects⟩ : Pins)
  return r.result

/-- `arduino_set_device`.  The comparison is unsigned. -/
def setDevice (board : Board) (hal : Hal) (entryId devtype : Int) : Prog Table Pins Int := do
  check (0 ≤ entryId ∧ entryId < arduinoNumDevs)
  atEntry board entryId fun pmap pint => arduinoSetDevice hal entryId pmap pint devtype

/-- One row of `arduino_show`. -/
def showRow (board : Board) (hal : Hal) (i : Int) : Prog Table Pins Unit := do
  let _ ← atEntry board i (arduinoRead hal)
  return ()

/-- `arduino_show`. -/
def arduinoShow (board : Board) (hal : Hal) (entryId : Int) : Prog Table Pins Unit :=
  if entryId ≥ 0 then showRow board hal entryId
  else (List.range arduinoNumDevs).forM fun i => showRow board hal i

/-- `arduino_test_cli_cmd`. -/
def arduinoTestCliCmd (board : Board) (hal : Hal) : Command → Prog Table Pins Reply
  | .set pin function => do
      let entry := arduinoPinstrToEntry board pin
      if entry < 0 then return .invalidPin
      let dev := arduinoDevstrToDev function
      if dev < 0 then return .invalidDevice
      let rc ← setDevice board hal entry dev
      return .done rc
  | .write pin value => do
      let entry := arduinoPinstrToEntry board pin
      if entry < 0 then return .invalidPin
      let rc ← atEntry board entry fun pmap pint => arduinoWrite hal pmap pint value
      return .done rc
  | .read pin => do
      let entry := arduinoPinstrToEntry board pin
      if entry < 0 then return .invalidPin
      let (rc, value) ← atEntry board entry (arduinoRead hal)
      return .value rc (if rc ≠ 0 then none else value)
  | .show none => do
      arduinoShow board hal (-1)
      return .table
  | .show (some pin) => do
      let entry := arduinoPinstrToEntry board pin
      if entry < 0 then return .invalidPin
      arduinoShow board hal entry
      return .table

/-! ## Runs -/

/-- The pin that a command names. -/
def Command.pin : Command → Option String
  | .set pin _ => some pin
  | .write pin _ => some pin
  | .read pin => some pin
  | .show pin => pin

/-- A command: its pin, the devices that it drives, the pins whose entries it changes, the value
that it reads, and the one that it should. -/
structure Report where
  pin : Option (Fin arduinoNumDevs)
  devices : List Int
  changed : List (Fin arduinoNumDevs)
  value : Option Int
  expected : Option Int

/-- `interface_map`, and for each pin that is set to an output the value of the last write. -/
structure Sys where
  interfaceMap : Fin arduinoNumDevs → Interface
  written : Fin arduinoNumDevs → Option (Option Int)
  log : List Report
  stopped : Option (Fault Table)

def Sys.init : Sys := ⟨fun _ => Interface.zero, fun _ => none, [], none⟩

/-- A command that succeeds sets a pin, or writes a value to one that is set to an output. -/
def follow (board : Board) (written : Fin arduinoNumDevs → Option (Option Int)) :
    Command → Reply → Fin arduinoNumDevs → Option (Option Int)
  | .set pin function, .done 0 =>
      match position board pin with
      | some p =>
          Function.update written p (if arduinoDevstrToDev function = 1 then some none else none)
      | none => written
  | .write pin value, .done 0 =>
      match position board pin with
      | some p => Function.update written p ((written p).map fun _ => some value)
      | none => written
  | _, _ => written

/-- What a read of a pin returns. -/
def expected (board : Board) (written : Fin arduinoNumDevs → Option (Option Int)) :
    Command → Option Int
  | .read pin => (position board pin).bind fun p => (written p).join
  | _ => none

def Reply.read : Reply → Option Int
  | .value _ v => v
  | _ => none

def report (board : Board) (s : Sys) (c : Command) (reply : Reply) (t : Pins) : Report where
  pin := c.pin.bind (position board)
  devices := t.calls.map HalCall.device
  changed := (List.finRange arduinoNumDevs).filter fun k => t.interfaceMap k ≠ s.interfaceMap k
  value := reply.read
  expected := expected board s.written c

/-- A command, with what the HAL answers, unless one has been stopped. -/
def step (board : Board) (s : Sys) (e : Command × Hal) : Option Sys :=
  if s.stopped.isSome then none
  else
    match arduinoTestCliCmd board e.2 e.1 ⟨s.interfaceMap, []⟩ with
    | .ok (reply, t) =>
        some { s with
          interfaceMap := t.interfaceMap
          written := follow board s.written e.1 reply
          log := report board s e.1 reply t :: s.log }
    | .error fault => some { s with stopped := some fault }

/-- A command acts on the pin that it names: it drives the device of the pin and changes the entry
of the pin, and a read of an output is the last write. -/
structure Report.Right (board : Board) (r : Report) : Prop where
  drives : ∀ p ∈ r.pin, ∀ device ∈ r.devices, device = (pinMap board)[p].sysid
  changes : ∀ p ∈ r.pin, ∀ k ∈ r.changed, k = p
  reads : ∀ v ∈ r.expected, r.value = some v

/-- All commands do, and no table is used outside. -/
structure OnPin (board : Board) (s : Sys) : Prop where
  right : ∀ r ∈ s.log, r.Right board
  inside : ∀ table i, s.stopped ≠ some (.outside table i)

/-- A pin behind D10 is stopped by the assertion when it is set, and one up to D10 is not set to
anything, so that there is nothing to write, read or show. -/
def Clean (board : Board) : Command → Prop
  | .set pin function =>
      ∀ p ∈ position board pin, p.val < 9 → arduinoDevstrToDev function ≤ 0
  | .write pin _ => ∀ p ∈ position board pin, p.val < 9
  | .read pin => ∀ p ∈ position board pin, p.val < 9
  | .show pin => ∀ p ∈ pin.bind (position board), p.val < 9

instance (board : Board) (c : Command) : Decidable (Clean board c) := by
  cases c <;> unfold Clean <;> infer_instance

/-! ## The index of a pin -/

variable {board : Board}

theorem entryId_pinMap (board : Board) (p : Fin arduinoNumDevs) :
    (pinMap board)[p].entryId = p + 6 := by
  revert p
  cases board <;> decide

/-- No two pins have one device. -/
theorem sysid_inj {p q : Fin arduinoNumDevs} (h : (pinMap board)[p].sysid = (pinMap board)[q].sysid) :
    p = q := by
  revert p q
  cases board <;> decide

theorem arduinoPinstrToEntry_of_none {pin : String} (h : position board pin = none) :
    arduinoPinstrToEntry board pin = -1 := by
  rw [arduinoPinstrToEntry, h]

theorem arduinoPinstrToEntry_of_some {pin : String} {p : Fin arduinoNumDevs}
    (h : position board pin = some p) : arduinoPinstrToEntry board pin = p + 6 := by
  rw [arduinoPinstrToEntry, h]
  exact entryId_pinMap board p

/-- The index of a pin up to D10 is that of another pin. -/
theorem exists_entry {p : Fin arduinoNumDevs} (h : p.val < 9) :
    ∃ i : Fin arduinoNumDevs, (p : Int) + 6 = i ∧ i ≠ p := by
  have hlt : p.val + 6 < 15 := by omega
  refine ⟨⟨p.val + 6, hlt⟩, by simp, fun heq => ?_⟩
  have hval : p.val + 6 = p.val := congrArg Fin.val heq
  omega

/-- Behind D10 there is none. -/
theorem beyond {p : Fin arduinoNumDevs} (h : ¬ p.val < 9) :
    ¬ (0 ≤ (p : Int) + 6 ∧ (p : Int) + 6 < arduinoNumDevs) := by
  simp only [arduinoNumDevs]
  omega

/-! ## Programs on an entry -/

section Entry

variable {α : Type} {f : PinMapEntry → Interface → Outcome α}

theorem atEntry_outside {entryId : Int} (h : ¬ (0 ≤ entryId ∧ entryId < arduinoNumDevs))
    (s : Pins) : atEntry board entryId f s = .error (.outside .interfaceMap entryId) :=
  Checked.bind_error (Checked.index_outside h s)

theorem atEntry_inside (i : Fin arduinoNumDevs) (s : Pins) :
    atEntry board i f s =
      .ok ((f (pinMap board)[i] (s.interfaceMap i)).result,
        ⟨Function.update s.interfaceMap i (f (pinMap board)[i] (s.interfaceMap i)).pint,
          s.calls ++ halCalls (f (pinMap board)[i] (s.interfaceMap i)).effects⟩) := by
  rw [atEntry, Checked.bind_ok (Checked.index_inside i s),
    Checked.bind_ok (Checked.index_inside i s)]
  rfl

/-- A function that keeps its entry and calls nothing. -/
theorem atEntry_idle {i : Fin arduinoNumDevs} {s : Pins} {a : α}
    (h : f (pinMap board)[i] (s.interfaceMap i) = ⟨a, s.interfaceMap i, []⟩) :
    atEntry board i f s = .ok (a, s) := by
  rw [atEntry_inside, h]
  simp [halCalls]

end Entry

/-- The entries at the start of a command when no pin is set. -/
def Pins.blank : Pins := ⟨fun _ => Interface.zero, []⟩

theorem setDevice_beyond (hal : Hal) {entryId : Int} (devtype : Int) (h : 15 ≤ entryId) (s : Pins) :
    setDevice board hal entryId devtype s = .error .assertion := by
  refine Checked.bind_error ?_
  rw [check, if_neg (by simp only [arduinoNumDevs]; omega)]

theorem setDevice_inside (hal : Hal) (i : Fin arduinoNumDevs) (devtype : Int) (s : Pins) :
    setDevice board hal i devtype s =
      atEntry board i (fun pmap pint => arduinoSetDevice hal i pmap pint devtype) s := by
  have hcheck : (check (0 ≤ (i : Int) ∧ (i : Int) < arduinoNumDevs) : Prog Table Pins Unit) s =
      .ok ((), s) := by
    rw [check, if_pos ⟨Int.natCast_nonneg _, Int.ofNat_lt.mpr i.isLt⟩]
  rw [setDevice, Checked.bind_ok hcheck]

/-- Setting a pin to none that is not set. -/
theorem setDevice_none (hal : Hal) (i : Fin arduinoNumDevs) :
    setDevice board hal i 0 Pins.blank = .ok (0, Pins.blank) := by
  rw [setDevice_inside]
  exact atEntry_idle rfl

/-- Setting a pin to anything else calls the device of the entry, or changes the entry. -/
theorem arduinoSetDevice_acts (hal : Hal) (entryId : Int) (pmap : PinMapEntry) {devtype : Int}
    (h : 0 < devtype ∧ devtype ≤ 4) :
    pmap.sysid ∈ (halCalls
        (arduinoSetDevice hal entryId pmap Interface.zero devtype).effects).map HalCall.device ∨
      (arduinoSetDevice hal entryId pmap Interface.zero devtype).pint ≠ Interface.zero := by
  obtain rfl | rfl | rfl | rfl : devtype = 1 ∨ devtype = 2 ∨ devtype = 3 ∨ devtype = 4 := by omega
  all_goals
    simp [arduinoSetDevice, switchDevice, interfaceType, halCalls, HalCall.device, Interface.zero]

theorem showRow_blank (hal : Hal) (i : Fin arduinoNumDevs) :
    showRow board hal i Pins.blank = .ok ((), Pins.blank) := by
  have hread : atEntry board i (arduinoRead hal) Pins.blank = .ok ((-1, none), Pins.blank) :=
    atEntry_idle (arduinoRead_uninitialized hal _ rfl)
  rw [showRow, Checked.bind_ok hread]
  rfl

/-- A list of programs each of which keeps the state. -/
theorem forM_idle {g : Nat → Prog Table Pins Unit} {s : Pins} {l : List Nat}
    (h : ∀ i ∈ l, g i s = .ok ((), s)) : l.forM g s = .ok ((), s) := by
  induction l with
  | nil => rfl
  | cons i l ih =>
      rw [List.forall_mem_cons] at h
      change (g i >>= fun _ => l.forM g) s = _
      rw [Checked.bind_ok h.1]
      exact ih h.2

theorem arduinoShow_blank (hal : Hal) :
    arduinoShow board hal (-1) Pins.blank = .ok ((), Pins.blank) := by
  rw [arduinoShow, if_neg (by decide)]
  refine forM_idle fun i hi => ?_
  exact showRow_blank hal ⟨i, List.mem_range.mp hi⟩

/-! ## When a command acts on its pin -/

theorem arduinoDevstrToDev_le (devstr : String) : arduinoDevstrToDev devstr ≤ 4 := by
  rw [arduinoDevstrToDev]
  split
  · rename_i i _
    have hlt : i.val < 5 := i.isLt
    omega
  · decide

/-- The command finds nothing set and sets nothing, or is stopped by the assertion. -/
def Idle (board : Board) (hal : Hal) (c : Command) : Prop :=
  (∃ reply, arduinoTestCliCmd board hal c Pins.blank = .ok (reply, Pins.blank) ∧
    follow board (fun _ => none) c reply = fun _ => none) ∨
  arduinoTestCliCmd board hal c Pins.blank = .error .assertion

section Idle

variable {hal : Hal} {pin : String} {p : Fin arduinoNumDevs}

theorem idle_invalidPin {c : Command} (hc : c.pin = some pin) (hpin : position board pin = none) :
    Idle board hal c := by
  refine .inl ⟨.invalidPin, ?_, by cases c <;> rfl⟩
  cases c <;> cases hc <;>
    rw [arduinoTestCliCmd, arduinoPinstrToEntry_of_none hpin, if_pos (by decide)] <;> rfl

theorem idle_set {function : String} (hpin : position board pin = some p)
    (h : p.val < 9 → arduinoDevstrToDev function ≤ 0) : Idle board hal (.set pin function) := by
  rw [Idle, arduinoTestCliCmd, arduinoPinstrToEntry_of_some hpin, if_neg (by omega)]
  by_cases hdev : arduinoDevstrToDev function < 0
  · rw [if_pos hdev]
    exact .inl ⟨_, rfl, rfl⟩
  · rw [if_neg hdev]
    by_cases hp : p.val < 9
    · obtain ⟨i, hi, -⟩ := exists_entry hp
      have hzero : arduinoDevstrToDev function = 0 := by
        have hle := h hp
        omega
      rw [hi, hzero]
      refine .inl ⟨.done 0, Checked.bind_ok (setDevice_none hal i), ?_⟩
      simp [follow, hpin, hzero]
    · exact .inr (Checked.bind_error (setDevice_beyond hal _ (by omega) _))

theorem idle_write (hpin : position board pin = some p) (hp : p.val < 9) (value : Int) :
    Idle board hal (.write pin value) := by
  rw [Idle, arduinoTestCliCmd, arduinoPinstrToEntry_of_some hpin, if_neg (by omega)]
  obtain ⟨i, hi, -⟩ := exists_entry hp
  rw [hi]
  exact .inl ⟨.done (-1),
    Checked.bind_ok (atEntry_idle (arduinoWrite_uninitialized hal _ rfl value)), rfl⟩

theorem idle_read (hpin : position board pin = some p) (hp : p.val < 9) :
    Idle board hal (.read pin) := by
  rw [Idle, arduinoTestCliCmd, arduinoPinstrToEntry_of_some hpin, if_neg (by omega)]
  obtain ⟨i, hi, -⟩ := exists_entry hp
  rw [hi]
  exact .inl ⟨.value (-1) none,
    Checked.bind_ok (atEntry_idle (arduinoRead_uninitialized hal _ rfl)), rfl⟩

theorem idle_show (hpin : position board pin = some p) (hp : p.val < 9) :
    Idle board hal (.show (some pin)) := by
  rw [Idle, arduinoTestCliCmd, arduinoPinstrToEntry_of_some hpin, if_neg (by omega), arduinoShow,
    if_pos (by omega)]
  obtain ⟨i, hi, -⟩ := exists_entry hp
  rw [hi]
  exact .inl ⟨.table, Checked.bind_ok (showRow_blank hal i), rfl⟩

end Idle

theorem idle_of_clean (hal : Hal) {c : Command} (h : Clean board c) : Idle board hal c := by
  cases hc : c.pin with
  | none =>
      cases c with
      | «show» pin =>
          cases hc
          exact .inl ⟨.table, Checked.bind_ok (arduinoShow_blank hal), rfl⟩
      | set | write | read => cases hc
  | some pin =>
      cases hpin : position board pin with
      | none => exact idle_invalidPin hc hpin
      | some p =>
          cases c with
          | set _ function =>
              cases hc
              exact idle_set hpin (h p hpin)
          | write _ value =>
              cases hc
              exact idle_write hpin (h p hpin) value
          | read =>
              cases hc
              exact idle_read hpin (h p hpin)
          | «show» =>
              cases hc
              exact idle_show hpin (h p hpin)

/-- A command that is not clean uses a table outside, drives the device of another pin, or changes
the entry of another. -/
theorem cli_not_clean (hal : Hal) {c : Command} (h : ¬ Clean board c) :
    (∃ table i, arduinoTestCliCmd board hal c Pins.blank = .error (.outside table i)) ∨
    ∃ reply t p, arduinoTestCliCmd board hal c Pins.blank = .ok (reply, t) ∧
      c.pin.bind (position board) = some p ∧
      ((∃ device ∈ t.calls.map HalCall.device, device ≠ (pinMap board)[p].sysid) ∨
        ∃ k, k ≠ p ∧ t.interfaceMap k ≠ Interface.zero) := by
  cases c with
  | set pin function =>
      simp only [Clean, not_forall, Int.not_le, Option.mem_def] at h
      obtain ⟨p, hpin, hp, hdev⟩ := h
      obtain ⟨i, hi, hne⟩ := exists_entry hp
      have hset := (@setDevice_inside board hal i (arduinoDevstrToDev function) Pins.blank).trans
        (atEntry_inside i _)
      have hcli : arduinoTestCliCmd board hal (.set pin function) Pins.blank =
          (setDevice board hal i (arduinoDevstrToDev function) >>= fun rc => pure (.done rc))
            Pins.blank := by
        rw [arduinoTestCliCmd, arduinoPinstrToEntry_of_some hpin, if_neg (by omega),
          if_neg (by omega), hi]
      refine .inr ⟨_, _, p, hcli.trans (Checked.bind_ok hset), hpin, ?_⟩
      rcases arduinoSetDevice_acts hal i (pinMap board)[i]
        ⟨hdev, arduinoDevstrToDev_le function⟩ with hcall | hpint
      · exact .inl ⟨_, hcall, fun heq => hne (sysid_inj heq)⟩
      · exact .inr ⟨i, hne, fun heq => hpint ((Function.update_self i _ _).symm.trans heq)⟩
  | write pin _ | read pin =>
      simp only [Clean, not_forall, Option.mem_def] at h
      obtain ⟨p, hpin, hp⟩ := h
      refine .inl ⟨.interfaceMap, p + 6, ?_⟩
      rw [arduinoTestCliCmd, arduinoPinstrToEntry_of_some hpin, if_neg (by omega)]
      exact Checked.bind_error (atEntry_outside (beyond hp) _)
  | «show» pin =>
      simp only [Clean, not_forall, Option.mem_def] at h
      obtain ⟨p, hpin, hp⟩ := h
      obtain ⟨pin, rfl, hpin⟩ := Option.bind_eq_some_iff.mp hpin
      refine .inl ⟨.interfaceMap, p + 6, ?_⟩
      rw [arduinoTestCliCmd, arduinoPinstrToEntry_of_some hpin, if_neg (by omega), arduinoShow,
        if_pos (by omega)]
      exact Checked.bind_error (Checked.bind_error (atEntry_outside (beyond hp) _))

/-- No pin is set, and all commands so far act on their pins. -/
structure Inv (board : Board) (s : Sys) : Prop where
  interfaceMap : s.interfaceMap = fun _ => Interface.zero
  written : s.written = fun _ => none
  onPin : OnPin board s

theorem inv_init (board : Board) : Inv board Sys.init where
  interfaceMap := rfl
  written := rfl
  onPin := ⟨fun r hr => (by cases hr), fun table i h => (by cases h)⟩

/-- A command that changes nothing and calls nothing. -/
theorem right_report_blank (s : Sys) (hmap : s.interfaceMap = fun _ => Interface.zero)
    (hwritten : s.written = fun _ => none) (c : Command) (reply : Reply) :
    (report board s c reply Pins.blank).Right board where
  drives := by
    intro p _ device hdevice
    cases hdevice
  changes := by
    intro p _ k hk
    simp [report, Pins.blank, hmap] at hk
  reads := by
    intro v hv
    cases c <;> simp [report, expected, hwritten] at hv

theorem step_cases {s t : Sys} {c : Command} {hal : Hal} (hs : Inv board s)
    (h : step board s (c, hal) = some t) :
    (∃ reply u, arduinoTestCliCmd board hal c Pins.blank = .ok (reply, u) ∧
      t = { s with
        interfaceMap := u.interfaceMap
        written := follow board s.written c reply
        log := report board s c reply u :: s.log }) ∨
    ∃ fault, arduinoTestCliCmd board hal c Pins.blank = .error fault ∧
      t = { s with stopped := some fault } := by
  rw [step] at h
  split at h
  · cases h
  · have hblank : (⟨s.interfaceMap, []⟩ : Pins) = Pins.blank := by rw [hs.interfaceMap, Pins.blank]
    rw [hblank] at h
    split at h
    · rename_i reply u heq
      cases h
      exact .inl ⟨reply, u, heq, rfl⟩
    · rename_i fault heq
      cases h
      exact .inr ⟨fault, heq, rfl⟩

theorem inv_step {s t : Sys} {e : Command × Hal} (hs : Inv board s) (hclean : Clean board e.1)
    (h : step board s e = some t) : Inv board t := by
  obtain ⟨c, hal⟩ := e
  rcases idle_of_clean hal hclean with ⟨reply, hok, hfollow⟩ | hassert
  · rcases step_cases hs h with ⟨reply', u, hok', rfl⟩ | ⟨fault, herror, rfl⟩
    · cases hok.symm.trans hok'
      refine ⟨rfl, ?_, ?_, hs.onPin.inside⟩
      · rw [hs.written]
        exact hfollow
      · intro r hr
        rcases List.mem_cons.mp hr with rfl | hr
        · exact right_report_blank s hs.interfaceMap hs.written c reply
        · exact hs.onPin.right r hr
    · cases hok.symm.trans herror
  · rcases step_cases hs h with ⟨reply, u, hok, rfl⟩ | ⟨fault, herror, rfl⟩
    · cases hassert.symm.trans hok
    · cases hassert.symm.trans herror
      exact ⟨hs.interfaceMap, hs.written, hs.onPin.right, fun table i h => (by cases h)⟩

theorem not_onPin_step {s t : Sys} {e : Command × Hal} (hs : Inv board s)
    (hclean : ¬ Clean board e.1) (h : step board s e = some t) : ¬ OnPin board t := by
  obtain ⟨c, hal⟩ := e
  intro honPin
  rcases cli_not_clean hal hclean with ⟨table, i, houtside⟩ | ⟨reply, u, p, hok, hpin, hacts⟩
  · rcases step_cases hs h with ⟨reply, u, hok, rfl⟩ | ⟨fault, herror, rfl⟩
    · cases houtside.symm.trans hok
    · cases houtside.symm.trans herror
      exact honPin.inside table i rfl
  · rcases step_cases hs h with ⟨reply', u', hok', rfl⟩ | ⟨fault, herror, rfl⟩
    · cases hok.symm.trans hok'
      have hright := honPin.right _ List.mem_cons_self
      rcases hacts with ⟨device, hdevice, hne⟩ | ⟨k, hne, hk⟩
      · exact hne (hright.drives p hpin device hdevice)
      · refine hne (hright.changes p hpin k ?_)
        simp [report, hs.interfaceMap, hk]
    · cases hok.symm.trans herror

/-- In a run of the commands, each acts on the pin that it names, and no table is used outside,
exactly as long as no pin up to D10 is set to a function and no pin behind D10 is written, read or
shown. -/
theorem onPin_iff {board : Board} {es : List (Command × Hal)} {s : Sys}
    (h : Run.run (step board) Sys.init es = some s) :
    Run.Throughout (step board) (OnPin board) Sys.init es ↔
      Run.Along (step board) (fun _ e => Clean board e.1) Sys.init es :=
  Run.throughout_iff_along (fun _ hs => hs.onPin)
    (fun _ _ _ hs hclean h => inv_step hs hclean h)
    (fun _ _ _ hs hclean h => not_onPin_step hs hclean h) (inv_init board) h

/-- A HAL that returns 0 for all calls. -/
def quietHal : Hal := ⟨fun _ => 0, fun _ => 0⟩

/-- Commands about pins that are not set, with unknown names among them, up to the assertion. -/
def unsetRun : List (Command × Hal) :=
  [(.set "D2" "none", quietHal), (.read "D10", quietHal), (.show none, quietHal),
    (.write "D2" 1, quietHal), (.set "A0" "gpio_out", quietHal), (.set "D3" "adc", quietHal),
    (.set "D11" "gpio_out", quietHal)]

theorem onPin_unsetRun : Run.Throughout (step .zero) (OnPin .zero) Sys.init unsetRun :=
  (onPin_iff (Option.some_get (x := Run.run (step .zero) Sys.init unsetRun)
    (by decide +kernel)).symm).mpr (by decide +kernel)

/-- D2, which is device 14, is set to an output: the command drives device 6, which is D8, and the
entry that changes is that of D8.  The state of D11 is read behind the end of `interface_map`. -/
theorem set_D2_drives_D8 :
    (∃ s, Run.run (step .zero) Sys.init [(.set "D2" "gpio_out", quietHal)] = some s ∧
      position .zero "D2" = some 0 ∧ (pinMap .zero)[0].sysid = 14 ∧
      (s.log.map fun r => (r.pin, r.devices, r.changed)) = [(some 0, [6], [6])] ∧
      ((pinMap .zero)[6].name, (pinMap .zero)[6].sysid) = ("D8", 6) ∧ ¬ OnPin .zero s) ∧
    ∃ s, Run.run (step .zero) Sys.init [(.read "D11", quietHal)] = some s ∧
      s.stopped = some (.outside .interfaceMap 15) ∧ ¬ OnPin .zero s := by
  refine ⟨⟨_, rfl, by decide, by decide, by decide, by decide, fun h => ?_⟩,
    ⟨_, rfl, by decide, fun h => ?_⟩⟩
  · exact absurd ((h.right _ List.mem_cons_self).changes 0 (by decide) 6 (by decide)) (by decide)
  · exact h.inside .interfaceMap 15 (by decide)

end Shell

end ArduinoTest
