import MynewtArduinoZero.Lib.Run
import Mathlib.Data.List.Basic
import Mathlib.Data.UInt

/-!
# Scanning

`winc1500_scan_start` asks for a scan.  The firmware reports its end with the
number of access points, and `winc1500_callback` asks for them one after the
other.  It counts them in two bytes, and tells `wifi_scan_done` at the last one
or at a request that fails.

Messages do not say which scan they are of.  Events do, for the statements:
`own` is set for a message of the scan that was started last.  The firmware
sends one `M2M_WIFI_RESP_SCAN_DONE` for a scan and one
`M2M_WIFI_RESP_SCAN_RESULT` for a request that has been sent.  Messages of
earlier scans may come at any time.
-/

namespace Winc1500.Scan

/-! ## The driver -/

/-- What has been done for a scan.  For the statements only. -/
structure Record (α : Type*) where
  /-- `u8NumofCh` of its `M2M_WIFI_RESP_SCAN_DONE`, when that has come. -/
  found : Option UInt8
  /-- The calls of `m2m_wifi_req_scan_result`, with what they returned. -/
  requests : List (UInt8 × Int)
  /-- The access points that the firmware has answered with. -/
  answered : List α
  /-- The calls of `wifi_scan_result`. -/
  reported : List α
  /-- The calls of `wifi_scan_done`. -/
  ended : List Int
deriving DecidableEq

/-- `struct winc1500` and the globals of `m2m_wifi.c`, as far as scans use them. -/
structure Driver (α : Type*) where
  /-- `wi_state` is `SCANNING`. -/
  scanning : Bool
  wScanCnt : UInt8
  wScanIdx : UInt8
  gu8scanInProgress : Bool
  gu8ChNum : UInt8
  /-- The scan that was started last. -/
  record : Option (Record α)

namespace Driver

variable {α : Type*}

/-- The record is kept. -/
def note (d : Driver α) (f : Record α → Record α) : Driver α := { d with record := d.record.map f }

/-- `wifi_scan_done`, which moves `wi_state` out of `SCANNING`. -/
def wifiScanDone (d : Driver α) (status : Int) : Driver α :=
  { d.note fun r => { r with ended := r.ended ++ [status] } with scanning := false }

/-- `wifi_scan_result`. -/
def wifiScanResult (d : Driver α) (ap : α) : Driver α :=
  d.note fun r => { r with reported := r.reported ++ [ap] }

/-- `m2m_wifi_req_scan_result`, where `hif_send` returns `rc`, and what follows it in
`winc1500_callback`. -/
def reqScanResult (d : Driver α) (index : UInt8) (rc : Int) : Driver α :=
  let d := d.note fun r => { r with requests := r.requests ++ [(index, rc)] }
  if rc ≠ 0 then d.wifiScanDone (-1) else d

/-- `winc1500_callback` for `M2M_WIFI_RESP_SCAN_DONE`. -/
def callbackScanDone (d : Driver α) (u8NumofCh : UInt8) (rc : Int) : Driver α :=
  if d.scanning then
    let d := { d with wScanCnt := u8NumofCh }
    if 0 < d.wScanCnt then ({ d with wScanIdx := 0 } : Driver α).reqScanResult 0 rc else d
  else d

/-- `winc1500_callback` for `M2M_WIFI_RESP_SCAN_RESULT`. -/
def callbackScanResult (d : Driver α) (ap : α) (rc : Int) : Driver α :=
  if d.scanning then
    let d := d.wifiScanResult ap
    let d := { d with wScanIdx := d.wScanIdx + 1 }
    if d.wScanIdx < d.wScanCnt then d.reqScanResult d.wScanIdx rc else d.wifiScanDone 0
  else d

/-- `m2m_wifi_cb` for `M2M_WIFI_RESP_SCAN_DONE`; `received` tells whether `hif_receive` succeeds. -/
def wifiCbScanDone (d : Driver α) (received : Bool) (u8NumofCh : UInt8) (rc : Int) : Driver α :=
  let d := { d with gu8scanInProgress := false }
  if received then ({ d with gu8ChNum := u8NumofCh } : Driver α).callbackScanDone u8NumofCh rc else d

/-- `m2m_wifi_cb` for `M2M_WIFI_RESP_SCAN_RESULT`. -/
def wifiCbScanResult (d : Driver α) (received : Bool) (ap : α) (rc : Int) : Driver α :=
  if received then d.callbackScanResult ap rc else d

/-- `M2M_ERR_SCAN_IN_PROGRESS`. -/
def errScanInProgress : Int := -14

/-- `m2m_wifi_request_scan` for `M2M_WIFI_CH_ALL`, where `hif_send` returns `rc`. -/
def requestScan (d : Driver α) (rc : Int) : Int × Driver α :=
  if d.gu8scanInProgress then (errScanInProgress, d)
  else (rc, { d with gu8scanInProgress := rc = 0 })

/-- `winc1500_scan_start`; `region` is what `m2m_wifi_set_scan_region` returns. -/
def scanStart (d : Driver α) (region rc : Int) : Int × Driver α :=
  if region ≠ 0 then (region, d) else d.requestScan rc

end Driver

/-! ## The system -/

variable {α : Type*}

inductive Event (α : Type*) where
  /-- A scan is asked for.  The interface is `SCANNING` when that succeeds. -/
  | start (region rc : Int)
  /-- `M2M_WIFI_RESP_SCAN_DONE` comes; `rc` is for the request that may follow. -/
  | scanDone (own received : Bool) (u8NumofCh : UInt8) (rc : Int)
  /-- `M2M_WIFI_RESP_SCAN_RESULT` comes. -/
  | scanResult (own received : Bool) (ap : α) (rc : Int)

/-- The firmware has yet to report the end of the scan. -/
def Record.Open (r : Record α) : Prop := r.found = none

/-- The firmware has a request to answer. -/
def Record.Asked (r : Record α) : Prop :=
  r.answered.length < r.requests.countP fun q => q.2 = 0

instance (r : Record α) : Decidable r.Open :=
  decidable_of_iff (r.found.isNone = true) (by simp [Record.Open])

instance (r : Record α) : Decidable r.Asked := inferInstanceAs (Decidable (_ < _))

/-- A new record. -/
def Record.new : Record α := ⟨none, [], [], [], []⟩

/-- One step. -/
def step (d : Driver α) : Event α → Option (Driver α)
  | .start region rc =>
      if d.scanning then none
      else
        let (status, d) := d.scanStart region rc
        if status = 0 then some { d with scanning := true, record := some .new } else some d
  | .scanDone true received n rc =>
      d.record.bind fun r =>
        if r.Open then
          some (({ d with record := some { r with found := some n } } :
            Driver α).wifiCbScanDone received n rc)
        else none
  | .scanDone false received n rc => some (d.wifiCbScanDone received n rc)
  | .scanResult true received ap rc =>
      d.record.bind fun r =>
        if r.Asked then
          some (({ d with record := some { r with answered := r.answered ++ [ap] } } :
            Driver α).wifiCbScanResult received ap rc)
        else none
  | .scanResult false received ap rc => some (d.wifiCbScanResult received ap rc)

/-! ## What a scan should be -/

/-- The first `k` requests, all of which have been sent. -/
def asked (k : Nat) : List (UInt8 × Int) := (List.range k).map fun i => (UInt8.ofNat i, 0)

/-- A scan as it should be: its access points are asked for and reported one after the other, and it
is ended once, behind the last one or by a request that fails. -/
inductive Right : Record α → Prop where
  /-- The firmware is scanning. -/
  | waiting : Right .new
  /-- Request `k` is with the firmware. -/
  | running {n : UInt8} {k : Nat} {aps : List α} (hk : k < n.toNat) (haps : aps.length = k) :
      Right ⟨some n, asked (k + 1), aps, aps, []⟩
  /-- All access points have been reported. -/
  | complete {n : UInt8} {aps : List α} (haps : aps.length = n.toNat) :
      Right ⟨some n, asked n.toNat, aps, aps, [0]⟩
  /-- Request `k` could not be sent. -/
  | failed {n : UInt8} {k : Nat} {aps : List α} {rc : Int} (hk : k < n.toNat)
      (haps : aps.length = k) (hrc : rc ≠ 0) :
      Right ⟨some n, asked k ++ [(UInt8.ofNat k, rc)], aps, aps, [-1]⟩

/-- What is to hold in every state. -/
def Kept (d : Driver α) : Prop := ∀ r ∈ d.record, Right r

/-- A step that goes right.  While the interface is `SCANNING`, the scan's own messages can be
received, it has found an access point, and its results meet a count that tells whether there are
more; and no message of an earlier scan has an effect. -/
def Clean (d : Driver α) : Event α → Prop
  | .start _ _ => True
  | .scanDone true received n _ => d.scanning = true → received = true ∧ 0 < n
  | .scanDone false received n _ => d.scanning = true → received = true → n = 0
  | .scanResult true received _ _ =>
      d.scanning = true → received = true ∧
        ∀ r ∈ d.record, ∀ n ∈ r.found,
          (d.wScanIdx + 1 < d.wScanCnt ↔ d.wScanIdx + 1 < n)
  | .scanResult false received _ _ => d.scanning = true → received = false

/-- Where the driver is. -/
inductive Stage (d : Driver α) : Prop where
  /-- No scan has been started. -/
  | unused (hrecord : d.record = none) (hscanning : d.scanning = false)
  /-- The last scan has ended. -/
  | finished {r : Record α} (hrecord : d.record = some r) (hright : Right r) (hended : r.ended ≠ [])
      (hscanning : d.scanning = false)
  | waiting (hrecord : d.record = some .new) (hscanning : d.scanning = true)
  | running {n : UInt8} {k : Nat} {aps : List α} (hk : k < n.toNat) (haps : aps.length = k)
      (hrecord : d.record = some ⟨some n, asked (k + 1), aps, aps, []⟩)
      (hscanning : d.scanning = true) (hidx : d.wScanIdx.toNat = k)

theorem Stage.kept {d : Driver α} (hd : Stage d) : Kept d := by
  intro r hr
  cases hd with
  | unused hrecord => rw [hrecord] at hr; cases hr
  | finished hrecord hright => rw [hrecord] at hr; cases hr; exact hright
  | waiting hrecord => rw [hrecord] at hr; cases hr; exact .waiting
  | running hk haps hrecord => rw [hrecord] at hr; cases hr; exact .running hk haps

/-! ## Records -/

theorem asked_succ (k : Nat) : asked (k + 1) = asked k ++ [(UInt8.ofNat k, 0)] := by
  simp [asked, List.range_succ]

@[simp] theorem length_asked (k : Nat) : (asked k).length = k := by
  simp [asked]

theorem countP_asked (k : Nat) : (asked k).countP (fun q => q.2 = 0) = k := by
  induction k with
  | zero => rfl
  | succ k ih => simp [asked_succ, List.countP_append, ih]

/-- A scan that is over has no message to come. -/
theorem Right.closed {r : Record α} (h : Right r) (hended : r.ended ≠ []) :
    ¬ r.Open ∧ ¬ r.Asked := by
  cases h with
  | waiting => exact absurd rfl hended
  | running => exact absurd rfl hended
  | complete haps => simp [Record.Open, Record.Asked, countP_asked, haps]
  | failed hk haps hrc =>
      simp [Record.Open, Record.Asked, countP_asked, haps, hrc]

/-- One result is reported for each one that the firmware answers with. -/
theorem Right.reported_eq {r : Record α} (h : Right r) : r.reported = r.answered := by
  cases h <;> rfl

/-- Before the scan's access points are known nothing is done. -/
theorem Right.eq_new {r : Record α} (h : Right r) (hopen : r.Open) : r = .new := by
  cases h with
  | waiting => rfl
  | running | complete | failed => cases hopen

/-- What has been asked for, when there are `n` access points. -/
theorem Right.requests {r : Record α} (h : Right r) {n : UInt8} (hfound : r.found = some n) :
    r.requests.length ≤ n.toNat ∧
      (r.ended ≠ [0] → r.requests.length = r.answered.length + 1) ∧
      (r.ended = [0] → r.answered.length = n.toNat) := by
  cases h with
  | waiting => cases hfound
  | running hk haps | failed hk haps =>
      cases hfound
      simp only [asked_succ, List.length_append, length_asked, List.length_singleton]
      exact ⟨hk, fun _ => by rw [haps], by simp⟩
  | complete haps =>
      cases hfound
      exact ⟨(length_asked _).le, by simp, fun _ => haps⟩

theorem record_reqScanResult (d : Driver α) (index : UInt8) (rc : Int) :
    (d.reqScanResult index rc).record = d.record.map fun r =>
      { r with
        requests := r.requests ++ [(index, rc)]
        ended := if rc ≠ 0 then r.ended ++ [-1] else r.ended } := by
  simp only [Driver.reqScanResult]
  split <;> cases hr : d.record <;> simp [Driver.note, Driver.wifiScanDone, hr]

/-! ## Steps -/

/-- The next request goes out, or ends the scan. -/
theorem reqScanResult_stage {d : Driver α} {n i : UInt8} {k : Nat} {aps : List α}
    (hk : k < n.toNat) (haps : aps.length = k)
    (hrecord : d.record = some ⟨some n, asked k, aps, aps, []⟩) (hscanning : d.scanning = true)
    (hidx : d.wScanIdx = i) (hi : i.toNat = k) (rc : Int) : Stage (d.reqScanResult i rc) := by
  have hindex : i = UInt8.ofNat k := by
    rw [← hi, UInt8.ofNat_toNat]
  by_cases hrc : rc = 0
  · subst hrc
    refine .running hk haps ?_ hscanning ((congrArg UInt8.toNat hidx).trans hi)
    rw [record_reqScanResult, hrecord, hindex, asked_succ]
    rfl
  · refine .finished (r := ⟨some n, asked k ++ [(UInt8.ofNat k, rc)], aps, aps, [-1]⟩) ?_
      (.failed hk haps hrc) (by simp) ?_
    · rw [record_reqScanResult, hrecord, hindex]
      simp [hrc]
    · simp [Driver.reqScanResult, hrc, Driver.wifiScanDone]

/-- A message that is not received, or comes while the interface is not `SCANNING`. -/
theorem Stage.of_eq {d d' : Driver α} (hd : Stage d) (hrecord : d'.record = d.record)
    (hscanning : d'.scanning = d.scanning) (hidx : d'.wScanIdx = d.wScanIdx) : Stage d' := by
  cases hd with
  | unused h₁ h₂ => exact .unused (hrecord.trans h₁) (hscanning.trans h₂)
  | finished h₁ h₂ h₃ h₄ => exact .finished (hrecord.trans h₁) h₂ h₃ (hscanning.trans h₄)
  | waiting h₁ h₂ => exact .waiting (hrecord.trans h₁) (hscanning.trans h₂)
  | running h₁ h₂ h₃ h₄ h₅ =>
      exact .running h₁ h₂ (hrecord.trans h₃) (hscanning.trans h₄) (by rw [hidx]; exact h₅)

theorem scanStart_record {d d' : Driver α} {region rc status : Int}
    (h : d.scanStart region rc = (status, d')) :
    d'.record = d.record ∧ d'.scanning = d.scanning ∧ d'.wScanIdx = d.wScanIdx := by
  simp only [Driver.scanStart, Driver.requestScan] at h
  split at h
  · cases h
    exact ⟨rfl, rfl, rfl⟩
  · split at h <;> cases h <;> exact ⟨rfl, rfl, rfl⟩

theorem start_stage {d t : Driver α} {region rc : Int} (hd : Stage d)
    (h : step d (.start region rc) = some t) : Stage t := by
  simp only [step] at h
  split at h
  · cases h
  · split at h
    · cases h
      exact .waiting rfl rfl
    · cases h
      obtain ⟨hrecord, hscanning, hidx⟩ := scanStart_record (rfl : d.scanStart region rc = _)
      exact hd.of_eq hrecord hscanning hidx

/-- The scan's own `M2M_WIFI_RESP_SCAN_DONE` finds the driver waiting for it. -/
theorem scanDone_own {d t : Driver α} {received : Bool} {n : UInt8} {rc : Int} (hd : Stage d)
    (h : step d (.scanDone true received n rc) = some t) :
    d.record = some .new ∧ d.scanning = true ∧
      t = ({ d with record := some ⟨some n, [], [], [], []⟩ } :
        Driver α).wifiCbScanDone received n rc := by
  obtain ⟨r, hr, hopen⟩ := Option.bind_eq_some_iff.mp h
  split at hopen
  next hfound =>
    cases hd with
    | unused hrecord => rw [hrecord] at hr; cases hr
    | finished hrecord hright hended =>
        rw [hrecord] at hr
        cases hr
        exact absurd hfound (hright.closed hended).1
    | waiting hrecord hscanning =>
        rw [hrecord] at hr
        cases hr
        exact ⟨hrecord, hscanning, (Option.some.inj hopen).symm⟩
    | running _ _ hrecord =>
        rw [hrecord] at hr
        cases hr
        cases hfound
  next => cases hopen

/-- A result of the scan answers the request that is with the firmware. -/
theorem scanResult_own {d t : Driver α} {received : Bool} {ap : α} {rc : Int} (hd : Stage d)
    (h : step d (.scanResult true received ap rc) = some t) :
    ∃ (n : UInt8) (k : Nat) (aps : List α), k < n.toNat ∧ aps.length = k ∧
      d.record = some ⟨some n, asked (k + 1), aps, aps, []⟩ ∧ d.scanning = true ∧
      d.wScanIdx.toNat = k ∧
      t = ({ d with record := some ⟨some n, asked (k + 1), aps ++ [ap], aps, []⟩ } :
        Driver α).wifiCbScanResult received ap rc := by
  obtain ⟨r, hr, hsome⟩ := Option.bind_eq_some_iff.mp h
  split at hsome
  next hasked =>
    cases hd with
    | unused hrecord => rw [hrecord] at hr; cases hr
    | finished hrecord hright hended =>
        rw [hrecord] at hr
        cases hr
        exact absurd hasked (hright.closed hended).2
    | waiting hrecord =>
        rw [hrecord] at hr
        cases hr
        exact absurd hasked (by simp [Record.Asked, Record.new])
    | running hk haps hrecord hscanning hidx =>
        rw [hrecord] at hr
        cases hr
        exact ⟨_, _, _, hk, haps, hrecord, hscanning, hidx, (Option.some.inj hsome).symm⟩
  next => cases hsome

/-- What `winc1500_callback` makes of a result. -/
theorem callbackScanResult_eq {d : Driver α} (hscanning : d.scanning = true) (ap : α) (rc : Int) :
    d.callbackScanResult ap rc =
      if d.wScanIdx + 1 < d.wScanCnt then
        ({ d.wifiScanResult ap with wScanIdx := d.wScanIdx + 1 } :
          Driver α).reqScanResult (d.wScanIdx + 1) rc
      else ({ d.wifiScanResult ap with wScanIdx := d.wScanIdx + 1 } : Driver α).wifiScanDone 0 := by
  rw [Driver.callbackScanResult, if_pos hscanning]
  rfl

theorem toNat_succ {i n : UInt8} {k : Nat} (hi : i.toNat = k) (hk : k < n.toNat) :
    (i + 1).toNat = k + 1 ∧ (i + 1 < n ↔ k + 1 < n.toNat) := by
  have hlt := n.toNat_lt
  have hsucc : (i + 1).toNat = k + 1 := by
    rw [UInt8.toNat_add, hi]
    exact Nat.mod_eq_of_lt (by simp; omega)
  exact ⟨hsucc, by rw [UInt8.lt_iff_toNat_lt, hsucc]⟩

theorem scanDone_stage {d t : Driver α} {own received : Bool} {n : UInt8} {rc : Int}
    (hd : Stage d) (hC : Clean d (.scanDone own received n rc))
    (h : step d (.scanDone own received n rc) = some t) : Stage t := by
  cases own with
  | true =>
      obtain ⟨hrecord, hscanning, rfl⟩ := scanDone_own hd h
      obtain ⟨rfl, hn⟩ := hC hscanning
      simp only [Driver.wifiCbScanDone, Driver.callbackScanDone, hscanning, if_true, if_pos hn]
      exact reqScanResult_stage (UInt8.lt_iff_toNat_lt.mp hn) rfl rfl rfl rfl rfl rc
  | false =>
      cases h
      cases received with
      | false => exact hd.of_eq rfl rfl rfl
      | true =>
          simp only [Driver.wifiCbScanDone, Driver.callbackScanDone, if_true]
          split
          next hscanning =>
            obtain rfl := hC hscanning rfl
            exact hd.of_eq rfl rfl rfl
          next => exact hd.of_eq rfl rfl rfl

theorem scanResult_stage {d t : Driver α} {own received : Bool} {ap : α} {rc : Int}
    (hd : Stage d) (hC : Clean d (.scanResult own received ap rc))
    (h : step d (.scanResult own received ap rc) = some t) : Stage t := by
  cases own with
  | true =>
      obtain ⟨n, k, aps, hk, haps, hrecord, hscanning, hidx, rfl⟩ := scanResult_own hd h
      obtain ⟨rfl, hagree⟩ := hC hscanning
      have hagree := hagree _ hrecord n rfl
      obtain ⟨hsucc, hmore⟩ := toNat_succ hidx hk
      have haps' : (aps ++ [ap]).length = k + 1 := by simp [haps]
      have hcallback := callbackScanResult_eq
        (d := { d with record := some ⟨some n, asked (k + 1), aps ++ [ap], aps, []⟩ })
        hscanning ap rc
      rw [Driver.wifiCbScanResult, if_pos rfl, hcallback]
      split
      next hlt =>
        refine reqScanResult_stage (hmore.mp (hagree.mp hlt)) haps' ?_ ?_ ?_ hsucc rc
        · rfl
        · exact hscanning
        · rfl
      next hlast =>
        have hlast : k + 1 = n.toNat := by
          have := mt hagree.mpr hlast
          rw [hmore] at this
          omega
        refine .finished (r := ⟨some n, asked n.toNat, aps ++ [ap], aps ++ [ap], [0]⟩) ?_
          (.complete (haps'.trans hlast)) (by simp) rfl
        rw [← hlast]
        rfl
  | false =>
      cases h
      cases received with
      | false => exact hd
      | true =>
          have hscanning : d.scanning = false := by
            by_contra hset
            cases hC (eq_true_of_ne_false hset)
          rw [Driver.wifiCbScanResult, if_pos rfl, Driver.callbackScanResult, hscanning]
          exact hd

theorem step_stage {d t : Driver α} {e : Event α} (hd : Stage d) (hC : Clean d e)
    (h : step d e = some t) : Stage t := by
  cases e with
  | start region rc => exact start_stage hd h
  | scanDone own received n rc => exact scanDone_stage hd hC h
  | scanResult own received ap rc => exact scanResult_stage hd hC h

/-- What a result leaves in the record. -/
theorem callbackScanResult_record {d : Driver α} {r : Record α} (hscanning : d.scanning = true)
    (hr : d.record = some r) (ap : α) (rc : Int) :
    (d.callbackScanResult ap rc).record =
      if d.wScanIdx + 1 < d.wScanCnt then
        some { r with
          reported := r.reported ++ [ap]
          requests := r.requests ++ [(d.wScanIdx + 1, rc)]
          ended := if rc ≠ 0 then r.ended ++ [-1] else r.ended }
      else some { r with reported := r.reported ++ [ap], ended := r.ended ++ [0] } := by
  rw [callbackScanResult_eq hscanning]
  split
  · rw [record_reqScanResult]
    simp [Driver.wifiScanResult, Driver.note, hr]
  · simp [Driver.wifiScanDone, Driver.wifiScanResult, Driver.note, hr]

/-- What a message of an earlier scan leaves in the record. -/
theorem callbackScanDone_record {d : Driver α} {r : Record α} (hscanning : d.scanning = true)
    (hr : d.record = some r) {n : UInt8} (hn : 0 < n) (rc : Int) :
    (d.callbackScanDone n rc).record =
      some { r with
        requests := r.requests ++ [(0, rc)]
        ended := if rc ≠ 0 then r.ended ++ [-1] else r.ended } := by
  rw [Driver.callbackScanDone, if_pos hscanning]
  simp only [if_pos hn]
  rw [record_reqScanResult]
  simp [hr]

/-- A scan that is `SCANNING` has a record that has not been ended. -/
theorem Stage.record {d : Driver α} (hd : Stage d) (hscanning : d.scanning = true) :
    ∃ r, d.record = some r ∧ Right r ∧ r.ended = [] := by
  cases hd with
  | unused _ hoff | finished _ _ _ hoff =>
      rw [hoff] at hscanning
      cases hscanning
  | waiting hrecord => exact ⟨_, hrecord, .waiting, rfl⟩
  | running hk haps hrecord => exact ⟨_, hrecord, .running hk haps, rfl⟩

/-- After a `SCAN_DONE` of its own that is not clean, the driver asks for nothing and tells the
stack nothing. -/
theorem not_kept_scanDone_own {d t : Driver α} {received : Bool} {n : UInt8} {rc : Int}
    (hd : Stage d) (hC : ¬ Clean d (.scanDone true received n rc))
    (h : step d (.scanDone true received n rc) = some t) : ¬ Kept t := by
  obtain ⟨hrecord, hscanning, rfl⟩ := scanDone_own hd h
  intro hkept
  have hquiet : (({ d with record := some ⟨some n, [], [], [], []⟩ } :
      Driver α).wifiCbScanDone received n rc).record = some ⟨some n, [], [], [], []⟩ := by
    simp only [Driver.wifiCbScanDone, Driver.callbackScanDone, hscanning, if_true]
    split
    next hreceived =>
      refine congrArg Driver.record (if_neg fun hn => hC fun _ => ⟨hreceived, hn⟩)
    next => rfl
  have hright := (hkept _ hquiet).requests rfl
  exact absurd (hright.2.1 (by simp)) (by simp)

/-- On a late answer the first access point is asked for once more. -/
theorem not_kept_scanDone_late {d t : Driver α} {received : Bool} {n : UInt8} {rc : Int}
    (hd : Stage d) (hC : ¬ Clean d (.scanDone false received n rc))
    (h : step d (.scanDone false received n rc) = some t) : ¬ Kept t := by
  cases h
  simp only [Clean, not_forall] at hC
  obtain ⟨hscanning, rfl, hn⟩ := hC
  have hpos : 0 < n := by
    rw [UInt8.lt_iff_toNat_lt]
    exact Nat.pos_of_ne_zero fun h0 => hn (UInt8.toNat_inj.mp h0)
  obtain ⟨r, hr, hright, hended⟩ := hd.record hscanning
  intro hkept
  have hright' := hkept _ (callbackScanDone_record
    (d := { d with gu8scanInProgress := false, gu8ChNum := n }) hscanning hr hpos rc)
  cases hfound : r.found with
  | none =>
      have hnew := congrArg Record.requests (hright'.eq_new hfound)
      simp [Record.new] at hnew
  | some m =>
      have hlen := (hright.requests hfound).2.1 (by simp [hended])
      have hlen' := (hright'.requests hfound).2.1 (by rw [hended]; split <;> simp)
      simp only [List.length_append, List.length_singleton] at hlen'
      omega

/-- A result that is not read, and one counted against the number of another scan, goes wrong. -/
theorem not_kept_scanResult_own {d t : Driver α} {received : Bool} {ap : α} {rc : Int}
    (hd : Stage d) (hC : ¬ Clean d (.scanResult true received ap rc))
    (h : step d (.scanResult true received ap rc) = some t) : ¬ Kept t := by
  obtain ⟨n, k, aps, hk, haps, hrecord, hscanning, hidx, rfl⟩ := scanResult_own hd h
  obtain ⟨hsucc, hmore⟩ := toNat_succ hidx hk
  intro hkept
  cases received with
  | false =>
      have hright := hkept _ rfl
      exact absurd hright.reported_eq (by simp)
  | true =>
      have hdiffer : ¬ (d.wScanIdx + 1 < d.wScanCnt ↔ d.wScanIdx + 1 < n) := by
        intro hagree
        refine hC fun _ => ⟨rfl, fun r hr m hm => ?_⟩
        rw [hrecord] at hr
        cases hr
        cases hm
        exact hagree
      have hleft := callbackScanResult_record
        (d := { d with record := some ⟨some n, asked (k + 1), aps ++ [ap], aps, []⟩ })
        hscanning rfl ap rc
      split at hleft
      next hlt =>
        -- an access point that does not exist is asked for
        have hlen := ((hkept _ hleft).requests rfl).1
        have hlast : ¬ k + 1 < n.toNat := fun h =>
          hdiffer (iff_of_true hlt (hmore.mpr h))
        simp only [List.length_append, length_asked, List.length_singleton] at hlen
        omega
      next hlt =>
        -- the scan is ended before its last access point
        have hlen := ((hkept _ hleft).requests rfl).2.2 rfl
        have hless : k + 1 < n.toNat := by
          by_contra hlast
          exact hdiffer (iff_of_false hlt fun h => hlast (hmore.mp h))
        simp only [List.length_append, List.length_singleton] at hlen
        omega

/-- A late result is reported, one too many. -/
theorem not_kept_scanResult_late {d t : Driver α} {received : Bool} {ap : α} {rc : Int}
    (hd : Stage d) (hC : ¬ Clean d (.scanResult false received ap rc))
    (h : step d (.scanResult false received ap rc) = some t) : ¬ Kept t := by
  cases h
  simp only [Clean, Classical.not_imp, Bool.not_eq_false] at hC
  obtain ⟨hscanning, rfl⟩ := hC
  obtain ⟨r, hr, hright, -⟩ := hd.record hscanning
  intro hkept
  have hleft := callbackScanResult_record hscanning hr ap rc
  have heq := hright.reported_eq
  split at hleft
  · have heq' := (hkept _ hleft).reported_eq
    simp [heq] at heq'
  · have heq' := (hkept _ hleft).reported_eq
    simp [heq] at heq'

/-- A step that is not clean goes wrong. -/
theorem not_kept_of_not_clean {d t : Driver α} {e : Event α} (hd : Stage d) (hC : ¬ Clean d e)
    (h : step d e = some t) : ¬ Kept t := by
  cases e with
  | start => exact absurd trivial hC
  | scanDone own received n rc =>
      cases own with
      | true => exact not_kept_scanDone_own hd hC h
      | false => exact not_kept_scanDone_late hd hC h
  | scanResult own received ap rc =>
      cases own with
      | true => exact not_kept_scanResult_own hd hC h
      | false => exact not_kept_scanResult_late hd hC h

/-! ## Runs -/

/-- The driver behind `winc1500_init`. -/
def Driver.start : Driver α where
  scanning := false
  wScanCnt := 0
  wScanIdx := 0
  gu8scanInProgress := false
  gu8ChNum := 0
  record := none

/-- In every run, the last scan that was started is as it should be in every state,
exactly when every step is clean. -/
theorem scan_right_iff_clean {es : List (Event α)} {t : Driver α}
    (hrun : Run.run step .start es = some t) :
    Run.Throughout step Kept (.start : Driver α) es ↔ Run.Along step Clean .start es :=
  Run.throughout_iff_along (fun _ hd => hd.kept) (fun _ _ _ => step_stage)
    (fun _ _ _ => not_kept_of_not_clean) (.unused rfl rfl) hrun

instance (d : Driver α) (e : Event α) : Decidable (Clean d e) := by
  cases e with
  | start => exact instDecidableTrue
  | scanDone own => cases own <;> unfold Clean <;> infer_instance
  | scanResult own =>
      have (r : Record α) : Decidable (∀ n ∈ r.found,
          (d.wScanIdx + 1 < d.wScanCnt ↔ d.wScanIdx + 1 < n)) :=
        Option.decidableForallMem _
      cases own <;> unfold Clean <;> infer_instance

/-- A scan that finds two access points, and one whose first request fails. -/
def twoScans : List (Event Nat) :=
  [.start 0 0, .scanDone true true 2 0, .scanResult true true 7 0, .scanResult true true 8 0,
    .start 0 0, .scanDone true true 3 (-1), .scanResult false true 7 0]

theorem twoScans_run : (Run.run step (.start : Driver Nat) twoScans).isSome := rfl

theorem scan_right_iff_clean_twoScans : Run.Throughout step Kept (.start : Driver Nat) twoScans :=
  (scan_right_iff_clean (Option.some_get twoScans_run).symm).mpr (by decide +kernel)

/-- A scan that finds no access point does not end, and a late result of an earlier scan ends a new
one before it has found anything. -/
theorem scan_never_ends :
    (∃ t, Run.run step (.start : Driver Nat) [.start 0 0, .scanDone true true 0 0] = some t ∧
      ¬ Kept t) ∧
    ∃ t, Run.run step (.start : Driver Nat)
        [.start 0 0, .scanDone true true 1 (-1), .start 0 0, .scanResult false true 7 0] = some t ∧
      ¬ Kept t := by
  refine ⟨⟨_, rfl, fun h => ?_⟩, ⟨_, rfl, fun h => ?_⟩⟩
  · have hright := h ⟨some 0, [], [], [], []⟩ rfl
    exact absurd ((hright.requests rfl).2.1 (by simp)) (by simp)
  · have hright := h ⟨none, [], [], [7], [0]⟩ rfl
    exact absurd (congrArg Record.ended (hright.eq_new rfl)) (by simp [Record.new])

end Winc1500.Scan
