import Mathlib.Data.Nat.Find
import MynewtArduinoZero.Flash.HalFlash

/-!
# Failing writes

The driver checks and programs page by page, so a write that meets a byte that is
not erased returns -1 with the pages in front of that byte's page programmed
(`samd21FlashWrite_pageByPage`).  `AllOrNothing` is the stronger promise that a
failing write changes nothing; `allOrNothing_iff` says which writes keep it: those
with nothing but `0xff` for the pages they reach.
-/

namespace HalFlash

open Align Cells

/-- The write returns 0 with all of `src` stored, or -1 with the flash as it was. -/
def AllOrNothing (nvm : Nvm) (address : Nat) (src : List UInt8) : Prop :=
  ∃ rc nvm', samd21FlashWrite nvm address src = some (rc, nvm') ∧
    (rc = 0 ∧ nvm' = { nvm with mem := overlay nvm.mem address src } ∨ rc = -1 ∧ nvm' = nvm)

/-- Every byte of `src` on a page before the ones with a byte that is not erased is
`0xff`. -/
def NothingToProgram (nvm : Nvm) (address : Nat) (src : List UInt8) : Prop :=
  ∀ i (h : i < src.length), Reached nvm.params nvm.mem address src.length (address + i) →
    src[i] = 0xff

/-! ## The bytes a failing write changes -/

/-- A byte the write reaches is erased. -/
theorem Reached.erased {params : NvmParameters} {m : Nat → UInt8} {a n i : Nat} (hi : i < n)
    (h : Reached params m a n (a + i)) : m (a + i) = 0xff := by
  by_contra hset
  exact absurd (h i hi hset) (Nat.not_lt.mpr (alignDown_le _))

/-- The flash is as it was exactly where the write stored what the cells held. -/
theorem afterWrite_eq_self_iff (nvm : Nvm) (address : Nat) (src : List UInt8) :
    afterWrite nvm.params nvm.mem address src = nvm.mem ↔ NothingToProgram nvm address src := by
  constructor
  · intro hsame i hi hreached
    have hcell := congrFun hsame (address + i)
    rw [afterWrite, if_pos hreached, overlay_add _ _ hi] at hcell
    rw [hcell]
    exact hreached.erased hi
  · intro hnothing
    funext x
    rw [afterWrite]
    split
    · rename_i hreached
      by_cases hx : address ≤ x ∧ x < address + src.length
      · obtain ⟨i, rfl⟩ := Nat.exists_eq_add_of_le hx.1
        have hi : i < src.length := by omega
        rw [overlay_add _ _ hi, hnothing i hi hreached, hreached.erased hi]
      · exact overlay_of_not_mem hx
    · rfl

/-- A write inside the flash is all or nothing exactly where its range is erased or the
pages it reaches get nothing but `0xff`. -/
theorem allOrNothing_iff (nvm : Nvm) (address : Nat) (src : List UInt8)
    (h : address + src.length ≤ nvm.params.hfSize) :
    AllOrNothing nvm address src ↔
      (¬ Blank nvm.mem address src.length → NothingToProgram nvm address src) := by
  rw [← afterWrite_eq_self_iff]
  constructor
  · rintro ⟨rc, nvm', hwrite, hkept⟩ hset
    rw [samd21FlashWrite_eq nvm h, if_neg hset, Option.some.injEq, Prod.mk.injEq] at hwrite
    obtain ⟨rfl, rfl⟩ := hwrite
    cases hkept with
    | inl hok => exact absurd hok.1 (by decide)
    | inr hfail => exact congrArg Nvm.mem hfail.2
  · intro hkeep
    refine ⟨_, _, samd21FlashWrite_eq nvm h, ?_⟩
    by_cases hblank : Blank nvm.mem address src.length
    · rw [if_pos hblank, afterWrite_of_blank hblank]
      exact Or.inl ⟨rfl, rfl⟩
    · rw [if_neg hblank, hkeep hblank]
      exact Or.inr ⟨rfl, rfl⟩

/-! ## Page by page -/

/-- The flash `nvm'` behind a write that failed at its byte `f`: the pages in front of
the page of `f` hold the source bytes, and every other byte is kept. -/
structure PageByPage (nvm : Nvm) (address : Nat) (src : List UInt8) (f : Nat) (nvm' : Nvm) :
    Prop where
  /-- The parameters of the chip stay. -/
  params : nvm'.params = nvm.params
  /-- The source bytes for the pages in front are stored. -/
  stored : ∀ i (h : i < src.length), address + i < alignDown nvm.params.pageSize (address + f) →
    nvm'.mem (address + i) = src[i]
  /-- From the page of `f` on, and outside the range, the flash is as it was. -/
  kept : ∀ x, ¬ (address ≤ x ∧ x < alignDown nvm.params.pageSize (address + f)) →
    nvm'.mem x = nvm.mem x
  /-- A write that failed on its first page changed nothing. -/
  firstPage : alignDown nvm.params.pageSize (address + f) ≤ address → nvm' = nvm

/-- A range that is not erased has a first byte that is not. -/
theorem exists_first_set {m : Nat → UInt8} {a n : Nat} (h : ¬ Blank m a n) :
    ∃ f < n, Blank m a f ∧ m (a + f) ≠ 0xff := by
  have hex : ∃ i, i < n ∧ m (a + i) ≠ 0xff := by simpa [Blank] using h
  obtain ⟨hlt, hset⟩ := Nat.find_spec hex
  refine ⟨Nat.find hex, hlt, fun i hi => ?_, hset⟩
  have hmin := Nat.find_min hex hi
  rw [not_and, not_not] at hmin
  exact hmin (by omega)

/-- The pages reached are the ones in front of the first byte that is not erased. -/
theorem reached_iff_lt {params : NvmParameters} {m : Nat → UInt8} {a n f : Nat} (hf : f < n)
    (hfirst : Blank m a f) (hset : m (a + f) ≠ 0xff) (x : Nat) :
    Reached params m a n x ↔ x < alignDown params.pageSize (a + f) := by
  constructor
  · intro hreached
    exact hreached f hf hset
  · intro hx i _ hi
    have hge : f ≤ i := Nat.not_lt.mp fun hlt => hi (hfirst i hlt)
    exact Nat.lt_of_lt_of_le hx (alignDown_mono (by omega))

theorem afterWrite_pageByPage (nvm : Nvm) {address f : Nat} {src : List UInt8}
    (hf : f < src.length) (hfirst : Blank nvm.mem address f)
    (hset : nvm.mem (address + f) ≠ 0xff) :
    PageByPage nvm address src f
      { nvm with mem := afterWrite nvm.params nvm.mem address src } := by
  have hkept : ∀ x, ¬ (address ≤ x ∧ x < alignDown nvm.params.pageSize (address + f)) →
      afterWrite nvm.params nvm.mem address src x = nvm.mem x := by
    intro x hx
    rw [afterWrite]
    split
    · rename_i hreached
      rw [reached_iff_lt hf hfirst hset] at hreached
      exact overlay_of_lt (by omega)
    · rfl
  refine ⟨rfl, fun i hi hx => ?_, hkept, fun hpage => ?_⟩
  · simp only [afterWrite]
    rw [if_pos ((reached_iff_lt hf hfirst hset _).mpr hx), overlay_add _ _ hi]
  · have hsame : afterWrite nvm.params nvm.mem address src = nvm.mem :=
      funext fun x => hkept x (by omega)
    rw [hsame]

/-- A write inside the flash fails only at a byte that is not erased, with the pages in
front of the first such byte programmed and the rest as it was. -/
theorem samd21FlashWrite_pageByPage (nvm : Nvm) (address : Nat) (src : List UInt8) (nvm' : Nvm)
    (h : address + src.length ≤ nvm.params.hfSize)
    (hfail : samd21FlashWrite nvm address src = some (-1, nvm')) :
    ∃ f < src.length, Blank nvm.mem address f ∧ nvm.mem (address + f) ≠ 0xff ∧
      PageByPage nvm address src f nvm' := by
  rw [samd21FlashWrite_eq nvm h, Option.some.injEq, Prod.mk.injEq] at hfail
  obtain ⟨hrc, rfl⟩ := hfail
  have hset : ¬ Blank nvm.mem address src.length := by
    intro hblank
    rw [if_pos hblank] at hrc
    exact absurd hrc (by decide)
  obtain ⟨f, hf, hfirst, hfset⟩ := exists_first_set hset
  exact ⟨f, hf, hfirst, hfset, afterWrite_pageByPage nvm hf hfirst hfset⟩

/-- Pages of 64 bytes, all erased but for the first byte of the second page. -/
def secondPageSet : Nvm where
  params := ⟨64, 4096, ⟨6, by decide, rfl⟩, by decide⟩
  mem := fun x => if x = 64 then 0 else 0xff

theorem samd21FlashWrite_pageByPage_secondPageSet :
    ∃ nvm' f, samd21FlashWrite secondPageSet 62 [5, 6, 7] = some (-1, nvm') ∧
      PageByPage secondPageSet 62 [5, 6, 7] f nvm' := by
  have hfail := @samd21FlashWrite_eq secondPageSet 62 [5, 6, 7] (by decide)
  rw [if_neg (by decide)] at hfail
  obtain ⟨f, _, _, _, hpages⟩ :=
    samd21FlashWrite_pageByPage secondPageSet 62 [5, 6, 7] _ (by decide) hfail
  exact ⟨_, f, hfail, hpages⟩

/-- The first page is programmed when the second one makes the write fail. -/
theorem samd21FlashWrite_changed_secondPageSet :
    62 + [5, 6, 7].length ≤ secondPageSet.params.hfSize ∧
      ∃ nvm', samd21FlashWrite secondPageSet 62 [5, 6, 7] = some (-1, nvm') ∧
        nvm'.mem ≠ secondPageSet.mem := by
  have hfail := @samd21FlashWrite_eq secondPageSet 62 [5, 6, 7] (by decide)
  rw [if_neg (by decide)] at hfail
  refine ⟨by decide, _, hfail, fun hsame => ?_⟩
  exact absurd (congrFun hsame 62) (by decide)

end HalFlash
