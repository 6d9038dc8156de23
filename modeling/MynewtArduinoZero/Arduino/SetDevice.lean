import MynewtArduinoZero.Arduino.ArduinoTest
import MynewtArduinoZero.Lib.Run

/-!
# What an entry is set to

`arduino_set_device` is called any number of times for one entry.  The type says
how the union is read, and `arduino_free_device` reads it as a pointer.  The
type is set before the call that configures an SPI, a gpio pin keeps its type
when it is freed, and the union keeps the number of a gpio pin.
-/

namespace ArduinoTest

namespace SetDevice

/-! ## Runs -/

/-- A call of `arduino_set_device`, with what it passes to `free`. -/
structure Setting where
  devtype : Int
  rc : Int
  before : Interface
  after : Interface
  freed : List Int

/-- The words that are passed to `free`. -/
def freed (effects : List Effect) : List Int :=
  effects.filterMap fun
    | .free word => some word
    | _ => none

/-- The entry, and the calls so far. -/
structure Entry where
  pint : Interface
  settings : List Setting

/-- At the start. -/
def Entry.init : Entry := ⟨Interface.zero, []⟩

/-- One call. -/
def setting (hal : Hal) (entryId : Int) (pmap : PinMapEntry) (pint : Interface) (devtype : Int) :
    Setting :=
  let r := arduinoSetDevice hal entryId pmap pint devtype
  ⟨devtype, r.result, pint, r.pint, freed r.effects⟩

/-- A call for a function, with what the HAL answers. -/
def step (entryId : Int) (pmap : PinMapEntry) (s : Entry) (e : Int × Hal) : Option Entry :=
  let c := setting e.2 entryId pmap s.pint e.1
  some ⟨c.after, c :: s.settings⟩

/-- A call that succeeds sets the type that is asked for, and one that fails keeps the type.  A pin
that is set to none refuses writes.  The module stores no pointer, so it frees `NULL` only. -/
structure Setting.Right (pmap : PinMapEntry) (c : Setting) : Prop where
  done : c.rc = 0 → interfaceType c.devtype = some c.after.type
  undone : c.rc ≠ 0 → c.after.type = c.before.type
  refused : c.devtype = 0 → c.rc = 0 →
    ∀ hal value, arduinoWrite hal pmap c.after value = ⟨-1, c.after, []⟩
  freed : ∀ word ∈ c.freed, word = 0

def Settled (pmap : PinMapEntry) (s : Entry) : Prop := ∀ c ∈ s.settings, c.Right pmap

/-- An SPI is configured, or was one.  A gpio pin cannot be set to none, unless its device
refuses, and the union of an SPI and of an I2C is zero when they are. -/
def Clean (pmap : PinMapEntry) (s : Entry) (e : Int × Hal) : Prop :=
  match interfaceType e.1 with
  | some .spi => e.2.rc (.spiConfig pmap.sysid) = 0 ∨ s.pint.type = .spi
  | some .uninitialized =>
      match s.pint.type with
      | .gpioIn | .gpioOut => e.2.rc (.gpioInitIn pmap.sysid) ≠ 0
      | .spi | .i2c => s.pint.word = 0
      | .uninitialized => True
  | _ => True

instance (pmap : PinMapEntry) (s : Entry) (e : Int × Hal) : Decidable (Clean pmap s e) := by
  unfold Clean
  split
  · infer_instance
  · split <;> infer_instance
  · infer_instance

/-! ## When a call is right -/

variable {pmap : PinMapEntry}

/-- That a pin refuses writes is a matter of its type. -/
theorem right_iff {c : Setting} :
    c.Right pmap ↔ (c.rc = 0 → interfaceType c.devtype = some c.after.type) ∧
      (c.rc ≠ 0 → c.after.type = c.before.type) ∧ ∀ word ∈ c.freed, word = 0 := by
  constructor
  · intro h
    exact ⟨h.done, h.undone, h.freed⟩
  · rintro ⟨hdone, hundone, hfreed⟩
    refine ⟨hdone, hundone, fun hnone hrc hal value => ?_, hfreed⟩
    have htype := hdone hrc
    rw [hnone] at htype
    exact arduinoWrite_uninitialized hal pmap (Option.some.inj htype).symm value

/-- The value is no part of the type. -/
theorem arduinoSetDevice_type (hal : Hal) (entryId : Int) (pint : Interface) (devtype : Int) :
    (arduinoSetDevice hal entryId pmap pint devtype).pint.type =
      (switchDevice hal pmap pint devtype).pint.type := by
  rw [arduinoSetDevice]
  dsimp only
  split <;> rfl

theorem freed_arduinoSetDevice (hal : Hal) (entryId : Int) (pint : Interface) (devtype : Int) :
    freed (arduinoSetDevice hal entryId pmap pint devtype).effects =
      freed (switchDevice hal pmap pint devtype).effects := by
  rw [arduinoSetDevice]
  dsimp only
  split <;> simp [freed]

theorem right_setting_iff (hal : Hal) (entryId : Int) (s : Entry) (devtype : Int) :
    (setting hal entryId pmap s.pint devtype).Right pmap ↔ Clean pmap s (devtype, hal) := by
  rw [right_iff, setting]
  dsimp only
  rw [arduinoSetDevice_type, freed_arduinoSetDevice]
  change ((switchDevice hal pmap s.pint devtype).result = 0 → _) ∧
    ((switchDevice hal pmap s.pint devtype).result ≠ 0 → _) ∧ _ ↔ _
  rw [switchDevice, Clean]
  dsimp only
  cases hdev : interfaceType devtype with
  | none => simp [freed]
  | some type =>
      cases type with
      | gpioOut =>
          by_cases hrc : hal.rc (.gpioInitOut pmap.sysid 0) = 0 <;> simp [hrc, freed]
      | gpioIn =>
          by_cases hrc : hal.rc (.gpioInitIn pmap.sysid) = 0 <;> simp [hrc, freed]
      | spi =>
          -- the type is there before the configuration
          by_cases hrc : hal.rc (.spiConfig pmap.sysid) = 0 <;> simp [hrc, freed, eq_comm]
      | i2c => simp [freed]
      | uninitialized =>
          simp only [arduinoFreeDevice]
          cases htype : s.pint.type with
          | uninitialized => simp [htype, freed]
          | gpioOut | gpioIn => simp [htype, freed]
          | spi | i2c => simp [Interface.zero, freed]

theorem step_settled_iff {entryId : Int} {s t : Entry} {e : Int × Hal} (hs : Settled pmap s)
    (h : step entryId pmap s e = some t) : Settled pmap t ↔ Clean pmap s e := by
  cases h
  rw [← right_setting_iff e.2 entryId s e.1, Settled, List.forall_mem_cons]
  exact and_iff_left hs

/-- In every run of the calls for an entry, each sets the type that it returns success for, and
frees no number of a pin, exactly as long as each SPI is configured, no gpio pin is set to none
successfully, and an SPI or an I2C with a number in its union is not set to none. -/
theorem settled_iff (entryId : Int) (pmap : PinMapEntry) (es : List (Int × Hal)) :
    Run.Throughout (step entryId pmap) (Settled pmap) Entry.init es ↔
      Run.Along (step entryId pmap) (Clean pmap) Entry.init es := by
  have htotal : ∀ s e, ∃ t, step entryId pmap s e = some t := fun _ _ => ⟨_, rfl⟩
  obtain ⟨s, hrun⟩ := Run.exists_run htotal es Entry.init
  refine Run.throughout_iff_along (fun _ hs => hs)
    (fun _ _ _ hs hclean h => (step_settled_iff hs h).mpr hclean)
    (fun _ _ _ hs hclean h hsettled => hclean ((step_settled_iff hs h).mp hsettled)) ?_ hrun
  intro c hc
  cases hc

/-- A HAL that gives one answer to all calls. -/
def Hal.always (rc : Int) : Hal := ⟨fun _ => rc, fun _ => 0⟩

/-- An entry is set to an output and to none, and stays an output that takes writes.  It is set to
an SPI that cannot be configured, and becomes one.  It is set to an output, to an I2C and to none,
and the number of the pin is freed. -/
theorem set_none_not_settled :
    (∃ s, Run.run (step 9 (pinMap .zero)[9]) Entry.init [(1, Hal.always 0), (0, Hal.always 0)] =
        some s ∧
      (s.settings.map Setting.rc, s.pint.type) = ([0, 0], .gpioOut) ∧
      (arduinoWrite (Hal.always 0) (pinMap .zero)[9] s.pint 1).result = 0 ∧
      ¬ Settled (pinMap .zero)[9] s) ∧
    (∃ s, Run.run (step 9 (pinMap .zero)[9]) Entry.init [(3, Hal.always 1)] = some s ∧
      (s.settings.map Setting.rc, s.pint.type) = ([-5], .spi) ∧
      ¬ Settled (pinMap .zero)[9] s) ∧
    ∃ s, Run.run (step 9 (pinMap .zero)[9]) Entry.init
        [(1, Hal.always 0), (4, Hal.always 0), (0, Hal.always 0)] = some s ∧
      s.settings.flatMap Setting.freed = [16] ∧ ¬ Settled (pinMap .zero)[9] s := by
  refine ⟨⟨_, rfl, by decide, by decide, fun h => ?_⟩, ⟨_, rfl, by decide, fun h => ?_⟩,
    ⟨_, rfl, by decide, fun h => ?_⟩⟩
  · exact absurd ((h _ List.mem_cons_self).done (by decide)) (by decide)
  · exact absurd ((h _ List.mem_cons_self).undone (by decide)) (by decide)
  · exact absurd ((h _ List.mem_cons_self).freed 16 (by decide)) (by decide)

end SetDevice

end ArduinoTest
