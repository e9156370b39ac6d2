import Mathlib.Logic.Function.Basic
import Mathlib.Tactic

/-! The power management of my_pm.c: the context of each device in s_pm_devices, and the bus each device
sits on, powered through Zephyr's device runtime PM. A bus counts its users: pm_device_runtime_get adds
one and runs the driver's resume action on the first, pm_device_runtime_put takes one and runs the
suspend action on the last, and a failed action leaves the count as it was. The devicetree buses are
taken to have runtime PM enabled, with no users at boot. What the callbacks of a module and the actions
of a driver return comes with the call that runs them. -/

namespace Pm

/-- my_pm_dev_id_t. -/
inductive MyPmDevId where
  | nfc
  | gsensor
  | lte
  | battery
  | ble
  | pwm
deriving DecidableEq, Repr

/-- The enumerator a dev_id argument names; none for MY_PM_DEV_MAX and past it. -/
def MyPmDevId.ofNat? : Nat → Option MyPmDevId
  | 0 => some .nfc
  | 1 => some .gsensor
  | 2 => some .lte
  | 3 => some .battery
  | 4 => some .ble
  | 5 => some .pwm
  | _ => none

def MyPmDevId.toNat : MyPmDevId → Nat
  | .nfc => 0
  | .gsensor => 1
  | .lte => 2
  | .battery => 3
  | .ble => 4
  | .pwm => 5

@[simp] theorem MyPmDevId.ofNat?_toNat (devId : MyPmDevId) : MyPmDevId.ofNat? devId.toNat = some devId := by
  cases devId <;> rfl

/-- my_pm_state_t. -/
inductive MyPmState where
  | notInit
  | suspended
  | resume
deriving DecidableEq, Repr

/-- pm_device_ops_t: which of the callbacks are set. -/
structure PmDeviceOps where
  suspend : Bool
  resume : Bool
  init : Bool
deriving DecidableEq, Repr

/-- pm_device_ctx_t; ops is none for NULL. -/
structure PmDeviceCtx where
  state : MyPmState
  ops : Option PmDeviceOps
deriving DecidableEq, Repr

/-- The bus devices: I2C22 of the NFC reader, I2C21 of the G-sensor, the LTE UART, the battery ADC and the
buzzer PWM. -/
inductive PmBus where
  | i2c22
  | i2c21
  | lteUart
  | batteryAdc
  | buzzerPwm
deriving DecidableEq, Repr

def MyPmDevId.bus : MyPmDevId → Option PmBus
  | .nfc => some .i2c22
  | .gsensor => some .i2c21
  | .lte => some .lteUart
  | .battery => some .batteryAdc
  | .ble => none
  | .pwm => some .buzzerPwm

def PmBus.owner : PmBus → MyPmDevId
  | .i2c22 => .nfc
  | .i2c21 => .gsensor
  | .lteUart => .lte
  | .batteryAdc => .battery
  | .buzzerPwm => .pwm

theorem PmBus.owner_bus (bus : PmBus) : bus.owner.bus = some bus := by
  cases bus <;> rfl

theorem MyPmDevId.bus_eq_some_iff {devId : MyPmDevId} {bus : PmBus} : devId.bus = some bus ↔ bus.owner = devId := by
  cases devId <;> cases bus <;> simp [MyPmDevId.bus, PmBus.owner]

/-- What the module's callbacks and the bus drivers' PM actions return during one call. -/
structure PmAnswers where
  init : Int
  resume : Int
  suspend : Int
  busResume : Int
  busSuspend : Int
deriving DecidableEq, Repr

/-- s_pm_devices, the usage count of each bus, and whether DEVICE_DT_GET_OR_NULL finds the bus. -/
@[ext] structure PmSystem where
  devices : MyPmDevId → PmDeviceCtx
  usage : PmBus → Nat
  present : PmBus → Bool

def einval : Int := 22
def enodev : Int := 19
def ealready : Int := 120
def enotsup : Int := 134

/-! ## Updates -/

def PmSystem.setCtx (s : PmSystem) (devId : MyPmDevId) (ctx : PmDeviceCtx) : PmSystem :=
  { s with devices := Function.update s.devices devId ctx }

def PmSystem.setState (s : PmSystem) (devId : MyPmDevId) (state : MyPmState) : PmSystem :=
  s.setCtx devId { s.devices devId with state := state }

def PmSystem.setOps (s : PmSystem) (devId : MyPmDevId) (ops : Option PmDeviceOps) : PmSystem :=
  s.setCtx devId { s.devices devId with ops := ops }

def PmSystem.setUsage (s : PmSystem) (bus : PmBus) (count : Nat) : PmSystem :=
  { s with usage := Function.update s.usage bus count }

section Updates

variable (s : PmSystem) (devId other : MyPmDevId) (ctx : PmDeviceCtx) (bus : PmBus) (count : Nat)

@[simp] theorem setCtx_devices_self : (s.setCtx devId ctx).devices devId = ctx := Function.update_self _ _ _

@[simp] theorem setCtx_devices_of_ne {devId other : MyPmDevId} (ne : other ≠ devId) :
    (s.setCtx devId ctx).devices other = s.devices other := Function.update_of_ne ne _ _

@[simp] theorem setCtx_usage : (s.setCtx devId ctx).usage = s.usage := rfl
@[simp] theorem setCtx_present : (s.setCtx devId ctx).present = s.present := rfl

@[simp] theorem setUsage_usage_self : (s.setUsage bus count).usage bus = count := Function.update_self _ _ _

@[simp] theorem setUsage_usage_of_ne {bus other : PmBus} (ne : other ≠ bus) :
    (s.setUsage bus count).usage other = s.usage other := Function.update_of_ne ne _ _

@[simp] theorem setUsage_devices : (s.setUsage bus count).devices = s.devices := rfl
@[simp] theorem setUsage_present : (s.setUsage bus count).present = s.present := rfl

@[simp] theorem setState_eq (state : MyPmState) : s.setState devId state = s.setCtx devId { s.devices devId with state := state } := rfl
@[simp] theorem setOps_eq (ops : Option PmDeviceOps) :
    s.setOps devId ops = s.setCtx devId { s.devices devId with ops := ops } := rfl

@[simp] theorem setCtx_setCtx (ctx' : PmDeviceCtx) : (s.setCtx devId ctx).setCtx devId ctx' = s.setCtx devId ctx' := by
  ext <;> simp [PmSystem.setCtx]

@[simp] theorem setUsage_setUsage (count' : Nat) : (s.setUsage bus count).setUsage bus count' = s.setUsage bus count' := by
  ext <;> simp [PmSystem.setUsage]

@[simp] theorem setUsage_usage_eq : s.setUsage bus (s.usage bus) = s := by
  ext <;> simp [PmSystem.setUsage]

@[simp] theorem setUsage_setCtx :
    (s.setCtx devId ctx).setUsage bus count = (s.setUsage bus count).setCtx devId ctx := rfl

end Updates

/-! ## Zephyr's device runtime PM -/

def pmDeviceRuntimeGet (s : PmSystem) (bus : PmBus) (actionRet : Int) : PmSystem × Int :=
  if 0 < s.usage bus then (s.setUsage bus (s.usage bus + 1), 0)
  else if actionRet < 0 then (s, actionRet)
  else (s.setUsage bus 1, 0)

def pmDeviceRuntimePut (s : PmSystem) (bus : PmBus) (actionRet : Int) : PmSystem × Int :=
  if s.usage bus = 0 then (s, -ealready)
  else if 1 < s.usage bus then (s.setUsage bus (s.usage bus - 1), 0)
  else if actionRet < 0 then (s, actionRet)
  else (s.setUsage bus 0, 0)

/-! ## The bus functions of my_pm.c -/

/-- my_pm_i2c22_resume and the four functions like it: -ENODEV without the bus device, else
pm_device_runtime_get. -/
def myPmBusResume (bus : PmBus) (s : PmSystem) (ans : PmAnswers) : PmSystem × Int :=
  if s.present bus then pmDeviceRuntimeGet s bus ans.busResume else (s, -enodev)

def myPmBusSuspend (bus : PmBus) (s : PmSystem) (ans : PmAnswers) : PmSystem × Int :=
  if s.present bus then pmDeviceRuntimePut s bus ans.busSuspend else (s, -enodev)

def myPmI2c22Resume : PmSystem → PmAnswers → PmSystem × Int := myPmBusResume .i2c22
def myPmI2c22Suspend : PmSystem → PmAnswers → PmSystem × Int := myPmBusSuspend .i2c22
def myPmI2c21Resume : PmSystem → PmAnswers → PmSystem × Int := myPmBusResume .i2c21
def myPmI2c21Suspend : PmSystem → PmAnswers → PmSystem × Int := myPmBusSuspend .i2c21
def myPmLteUartResume : PmSystem → PmAnswers → PmSystem × Int := myPmBusResume .lteUart
def myPmLteUartSuspend : PmSystem → PmAnswers → PmSystem × Int := myPmBusSuspend .lteUart
def myPmBatteryAdcResume : PmSystem → PmAnswers → PmSystem × Int := myPmBusResume .batteryAdc
def myPmBatteryAdcSuspend : PmSystem → PmAnswers → PmSystem × Int := myPmBusSuspend .batteryAdc
def myPmBuzzerPwmResume : PmSystem → PmAnswers → PmSystem × Int := myPmBusResume .buzzerPwm
def myPmBuzzerPwmSuspend : PmSystem → PmAnswers → PmSystem × Int := myPmBusSuspend .buzzerPwm

/-- The switch on dev_id that resumes the device's bus, in my_pm_device_register and
my_pm_device_resume; none at its default. -/
def busResume (devId : MyPmDevId) (s : PmSystem) (ans : PmAnswers) : Option (PmSystem × Int) :=
  match devId with
  | .nfc => some (myPmI2c22Resume s ans)
  | .gsensor => some (myPmI2c21Resume s ans)
  | .lte => some (myPmLteUartResume s ans)
  | .battery => some (myPmBatteryAdcResume s ans)
  | .pwm => some (myPmBuzzerPwmResume s ans)
  | .ble => none

def busSuspend (devId : MyPmDevId) (s : PmSystem) (ans : PmAnswers) : Option (PmSystem × Int) :=
  match devId with
  | .nfc => some (myPmI2c22Suspend s ans)
  | .gsensor => some (myPmI2c21Suspend s ans)
  | .lte => some (myPmLteUartSuspend s ans)
  | .battery => some (myPmBatteryAdcSuspend s ans)
  | .pwm => some (myPmBuzzerPwmSuspend s ans)
  | .ble => none

def rollbackSuspend (devId : MyPmDevId) (s : PmSystem) (ans : PmAnswers) : Option (PmSystem × Int) :=
  match devId with
  | .nfc => some (myPmI2c22Suspend s ans)
  | .gsensor => some (myPmI2c21Suspend s ans)
  | .lte => some (myPmLteUartSuspend s ans)
  | .pwm => some (myPmBuzzerPwmSuspend s ans)
  | _ => none

theorem busResume_eq (devId : MyPmDevId) (s : PmSystem) (ans : PmAnswers) :
    busResume devId s ans = devId.bus.map fun bus => myPmBusResume bus s ans := by
  cases devId <;> rfl

theorem busSuspend_eq (devId : MyPmDevId) (s : PmSystem) (ans : PmAnswers) :
    busSuspend devId s ans = devId.bus.map fun bus => myPmBusSuspend bus s ans := by
  cases devId <;> rfl

theorem rollbackSuspend_eq (devId : MyPmDevId) (s : PmSystem) (ans : PmAnswers) :
    rollbackSuspend devId s ans = if devId = .battery then none else busSuspend devId s ans := by
  cases devId <;> rfl

/-! ## The API -/

def myPmDeviceRegister (s : PmSystem) (devId : Nat) (ops : Option PmDeviceOps) (ans : PmAnswers) :
    PmSystem × Int :=
  match MyPmDevId.ofNat? devId, ops with
  | none, _ => (s, -einval)
  | some _, none => (s, -einval)
  | some d, some o =>
    let s := s.setCtx d ⟨.notInit, some o⟩
    if o.init then
      if ans.init < 0 then (s.setOps d none, ans.init)
      else
        -- the bus is resumed once and suspended again, so that it is known to work
        match busResume d s ans with
        | none => (s.setOps d none, -enotsup)
        | some (s, ret) =>
          if ret < 0 then (s.setOps d none, ret)
          else
            match busSuspend d s ans with
            | none => (s.setOps d none, -enotsup)
            | some (s, ret) =>
              if ret < 0 then (s.setCtx d ⟨.notInit, none⟩, ret) else (s.setState d .suspended, 0)
    else (s.setState d .suspended, 0)

def myPmDeviceResume (s : PmSystem) (devId : Nat) (ans : PmAnswers) : PmSystem × Int :=
  match MyPmDevId.ofNat? devId with
  | none => (s, -einval)
  | some d =>
    match (s.devices d).ops with
    | none => (s, -enodev)
    | some o =>
      if (s.devices d).state = .resume then (s, 0)
      else if (s.devices d).state ≠ .suspended then (s, -einval)
      else
        match busResume d s ans with
        | none => (s, -enotsup)
        | some (s, ret) =>
          if ret < 0 then (s, ret)
          else if o.resume ∧ ans.resume < 0 then
            -- the call returns what the rollback returns
            match rollbackSuspend d s ans with
            | none => (s, -enotsup)
            | some rolledBack => rolledBack
          else (s.setState d .resume, 0)

/-- my_pm_device_suspend. When the bus fails to suspend, the module's resume callback is run again; what
it returns is only logged. -/
def myPmDeviceSuspend (s : PmSystem) (devId : Nat) (ans : PmAnswers) : PmSystem × Int :=
  match MyPmDevId.ofNat? devId with
  | none => (s, -einval)
  | some d =>
    match (s.devices d).ops with
    | none => (s, -enodev)
    | some o =>
      if (s.devices d).state = .suspended then (s, 0)
      else if o.suspend ∧ ans.suspend < 0 then (s, ans.suspend)
      else
        -- at the switch's default ret is still what the suspend callback returned, or 0
        let bus := (busSuspend d s ans).getD (s, if o.suspend then ans.suspend else 0)
        if bus.2 < 0 then bus else (bus.1.setState d .suspended, 0)

def myPmDeviceGetState (s : PmSystem) (devId : Nat) : MyPmState :=
  match MyPmDevId.ofNat? devId with
  | none => .notInit
  | some d => (s.devices d).state

/-- my_pm_init: s_pm_devices zeroed, every device NOT_INIT with NULL ops. -/
def myPmInit (s : PmSystem) : PmSystem :=
  { s with devices := fun _ => ⟨.notInit, none⟩ }

/-! ## The modules' ops tables -/

def sNfcPmOps : PmDeviceOps := ⟨true, true, true⟩

def ltePmOps : PmDeviceOps := ⟨true, true, true⟩

/-! ## Calls from the modules' threads -/

inductive PmCall where
  | register (devId : Nat) (ops : Option PmDeviceOps)
  | resume (devId : Nat)
  | suspend (devId : Nat)
deriving DecidableEq, Repr

def PmCall.devId : PmCall → Nat
  | .register devId _ => devId
  | .resume devId => devId
  | .suspend devId => devId

def pmStep (s : PmSystem) : PmCall → PmAnswers → PmSystem × Int
  | .register devId ops, ans => myPmDeviceRegister s devId ops ans
  | .resume devId, ans => myPmDeviceResume s devId ans
  | .suspend devId, ans => myPmDeviceSuspend s devId ans

def pmRun (s : PmSystem) (calls : List (PmCall × PmAnswers)) : PmSystem :=
  calls.foldl (fun s call => (pmStep s call.1 call.2).1) s

end Pm

namespace Pm

/-! ## What each call can do -/

section Bus

variable (bus : PmBus) (s : PmSystem) (ans : PmAnswers)

theorem myPmBusResume_cases :
    (∃ ret < 0, myPmBusResume bus s ans = (s, ret)) ∨
    (s.present bus = true ∧ (0 < s.usage bus ∨ 0 ≤ ans.busResume) ∧
      myPmBusResume bus s ans = (s.setUsage bus (s.usage bus + 1), 0)) := by
  unfold myPmBusResume pmDeviceRuntimeGet
  by_cases present : s.present bus
  · by_cases used : 0 < s.usage bus
    · exact .inr ⟨present, .inl used, by simp [present, used]⟩
    · by_cases failed : ans.busResume < 0
      · exact .inl ⟨ans.busResume, failed, by simp [present, used, failed]⟩
      · have unused : s.usage bus = 0 := by omega
        exact .inr ⟨present, .inr (by omega), by simp [present, failed, unused]⟩
  · exact .inl ⟨-enodev, by decide, by simp [present]⟩

theorem myPmBusResume_of_ok (present : s.present bus = true) (resumeOk : 0 ≤ ans.busResume) :
    myPmBusResume bus s ans = (s.setUsage bus (s.usage bus + 1), 0) := by
  unfold myPmBusResume pmDeviceRuntimeGet
  by_cases used : 0 < s.usage bus
  · simp [present, used]
  · have unused : s.usage bus = 0 := by omega
    simp [present, unused, not_lt.mpr resumeOk]

theorem myPmBusSuspend_cases :
    (∃ ret < 0, myPmBusSuspend bus s ans = (s, ret)) ∨
    (s.present bus = true ∧ 0 < s.usage bus ∧ (1 < s.usage bus ∨ 0 ≤ ans.busSuspend) ∧
      myPmBusSuspend bus s ans = (s.setUsage bus (s.usage bus - 1), 0)) := by
  unfold myPmBusSuspend pmDeviceRuntimePut
  by_cases present : s.present bus
  · by_cases unused : s.usage bus = 0
    · exact .inl ⟨-ealready, by decide, by simp [present, unused]⟩
    · by_cases shared : 1 < s.usage bus
      · exact .inr ⟨present, by omega, .inl shared, by simp [present, unused, shared]⟩
      · have last : s.usage bus = 1 := by omega
        by_cases failed : ans.busSuspend < 0
        · exact .inl ⟨ans.busSuspend, failed, by simp [present, last, failed]⟩
        · exact .inr ⟨present, by omega, .inr (by omega), by simp [present, last, failed]⟩
  · exact .inl ⟨-enodev, by decide, by simp [present]⟩

theorem myPmBusSuspend_of_used (present : s.present bus = true) (used : 0 < s.usage bus) :
    myPmBusSuspend bus s ans =
      if 1 < s.usage bus ∨ 0 ≤ ans.busSuspend then (s.setUsage bus (s.usage bus - 1), 0)
      else (s, ans.busSuspend) := by
  unfold myPmBusSuspend pmDeviceRuntimePut
  rcases (show 1 < s.usage bus ∨ s.usage bus = 1 by omega) with shared | last
  · simp [present, shared, Nat.pos_iff_ne_zero.mp used]
  · by_cases failed : ans.busSuspend < 0
    · simp [present, last, failed]
    · simp [present, last, failed, le_of_not_gt failed]

theorem myPmBusSuspend_after_resume (present : s.present bus = true) (suspendOk : 0 ≤ ans.busSuspend) :
    myPmBusSuspend bus (s.setUsage bus (s.usage bus + 1)) ans = (s, 0) := by
  rw [myPmBusSuspend_of_used bus _ ans (by simpa using present) (by simp), if_pos (.inr suspendOk)]
  simp

end Bus

section Calls

variable (s : PmSystem) (d : MyPmDevId) (ans : PmAnswers)

theorem MyPmDevId.eq_toNat_of_ofNat? {devId : Nat} {named : MyPmDevId} (names : MyPmDevId.ofNat? devId = some named) :
    devId = named.toNat := by
  match devId, names with
  | 0, rfl | 1, rfl | 2, rfl | 3, rfl | 4, rfl | 5, rfl => rfl

theorem myPmDeviceRegister_of_none {devId : Nat} (outside : MyPmDevId.ofNat? devId = none)
    (ops : Option PmDeviceOps) : myPmDeviceRegister s devId ops ans = (s, -einval) := by
  simp [myPmDeviceRegister, outside]

theorem myPmDeviceResume_of_none {devId : Nat} (outside : MyPmDevId.ofNat? devId = none) :
    myPmDeviceResume s devId ans = (s, -einval) := by
  simp [myPmDeviceResume, outside]

theorem myPmDeviceSuspend_of_none {devId : Nat} (outside : MyPmDevId.ofNat? devId = none) :
    myPmDeviceSuspend s devId ans = (s, -einval) := by
  simp [myPmDeviceSuspend, outside]

theorem myPmDeviceRegister_without_ops (devId : Nat) : myPmDeviceRegister s devId none ans = (s, -einval) := by
  unfold myPmDeviceRegister
  cases MyPmDevId.ofNat? devId <;> rfl

theorem myPmDeviceRegister_cases (o : PmDeviceOps) :
    (∃ ret, myPmDeviceRegister s d.toNat (some o) ans = (s.setCtx d ⟨.notInit, none⟩, ret)) ∨
    myPmDeviceRegister s d.toNat (some o) ans = (s.setCtx d ⟨.suspended, some o⟩, 0) ∨
    (∃ bus, d.bus = some bus ∧ s.usage bus = 0 ∧ ans.busSuspend < 0 ∧
      myPmDeviceRegister s d.toNat (some o) ans =
        ((s.setUsage bus 1).setCtx d ⟨.notInit, none⟩, ans.busSuspend)) := by
  simp only [myPmDeviceRegister, MyPmDevId.ofNat?_toNat]
  by_cases init : o.init = true
  swap
  · exact .inr (.inl (by simp [init]))
  by_cases initFailed : ans.init < 0
  · exact .inl ⟨ans.init, by simp [init, initFailed]⟩
  simp only [init, initFailed, if_true, if_false, busResume_eq, busSuspend_eq]
  cases hbus : d.bus with
  | none => exact .inl ⟨-enotsup, by simp⟩
  | some bus =>
    rcases myPmBusResume_cases bus (s.setCtx d ⟨.notInit, some o⟩) ans with ⟨ret, failed, eq⟩ | ⟨present, -, eq⟩
    · exact .inl ⟨ret, by simp [eq, failed]⟩
    -- the bus was resumed; the suspend that follows finds at least that user
    simp only [Option.map_some, eq, lt_irrefl, if_false]
    rw [myPmBusSuspend_of_used bus _ ans (by simpa using present) (by simp)]
    by_cases released : 0 < s.usage bus ∨ 0 ≤ ans.busSuspend
    · exact .inr (.inl (by simp [released]))
    · have unused : s.usage bus = 0 := by omega
      have failed : ans.busSuspend < 0 := by omega
      exact .inr (.inr ⟨bus, rfl, unused, failed, by simp [unused, failed, not_le.mpr failed]⟩)

theorem myPmDeviceResume_cases :
    (∃ ret, myPmDeviceResume s d.toNat ans = (s, ret)) ∨
    (∃ o bus, (s.devices d).ops = some o ∧ (s.devices d).state = .suspended ∧ d.bus = some bus ∧
      s.present bus = true ∧ (0 < s.usage bus ∨ 0 ≤ ans.busResume) ∧
      ((¬(o.resume = true ∧ ans.resume < 0) ∧
          myPmDeviceResume s d.toNat ans = ((s.setUsage bus (s.usage bus + 1)).setState d .resume, 0)) ∨
       (o.resume = true ∧ ans.resume < 0 ∧
          myPmDeviceResume s d.toNat ans =
            (rollbackSuspend d (s.setUsage bus (s.usage bus + 1)) ans).getD
              (s.setUsage bus (s.usage bus + 1), -enotsup)))) := by
  simp only [myPmDeviceResume, MyPmDevId.ofNat?_toNat]
  cases hops : (s.devices d).ops with
  | none => exact .inl ⟨-enodev, rfl⟩
  | some o =>
    by_cases resumed : (s.devices d).state = .resume
    · exact .inl ⟨0, by simp [resumed]⟩
    by_cases suspended : (s.devices d).state = .suspended
    swap
    · exact .inl ⟨-einval, by simp [resumed, suspended]⟩
    dsimp only
    rw [if_neg resumed, if_neg (not_not_intro suspended), busResume_eq]
    cases hbus : d.bus with
    | none => exact .inl ⟨-enotsup, rfl⟩
    | some bus =>
      rcases myPmBusResume_cases bus s ans with ⟨ret, failed, eq⟩ | ⟨present, used, eq⟩
      · exact .inl ⟨ret, by simp [eq, failed]⟩
      refine .inr ⟨o, bus, rfl, suspended, rfl, present, used, ?_⟩
      by_cases callbackFailed : o.resume = true ∧ ans.resume < 0
      · refine .inr ⟨callbackFailed.1, callbackFailed.2, ?_⟩
        simp only [Option.map_some, eq, lt_irrefl, if_false, callbackFailed, and_self, if_true]
        cases rollbackSuspend d (s.setUsage bus (s.usage bus + 1)) ans <;> rfl
      · exact .inl ⟨callbackFailed, by simp [eq, callbackFailed]⟩

theorem myPmDeviceSuspend_cases :
    (∃ ret, myPmDeviceSuspend s d.toNat ans = (s, ret)) ∨
    (∃ o, (s.devices d).ops = some o ∧ (s.devices d).state ≠ .suspended ∧
      ((d.bus = none ∧ myPmDeviceSuspend s d.toNat ans = (s.setState d .suspended, 0)) ∨
       (∃ bus, d.bus = some bus ∧ 0 < s.usage bus ∧
          myPmDeviceSuspend s d.toNat ans = ((s.setUsage bus (s.usage bus - 1)).setState d .suspended, 0)))) := by
  simp only [myPmDeviceSuspend, MyPmDevId.ofNat?_toNat]
  cases hops : (s.devices d).ops with
  | none => exact .inl ⟨-enodev, rfl⟩
  | some o =>
    by_cases suspended : (s.devices d).state = .suspended
    · exact .inl ⟨0, by simp [suspended]⟩
    by_cases callbackFailed : o.suspend = true ∧ ans.suspend < 0
    · exact .inl ⟨ans.suspend, by simp [suspended, callbackFailed]⟩
    dsimp only
    rw [if_neg suspended, if_neg callbackFailed, busSuspend_eq]
    cases hbus : d.bus with
    | none =>
      -- the switch's default leaves ret at what the suspend callback returned, which did not fail
      have callbackOk : ¬(if o.suspend = true then ans.suspend else 0) < 0 := by
        split_ifs with set
        · exact fun failed => callbackFailed ⟨set, failed⟩
        · exact lt_irrefl 0
      exact .inr ⟨o, rfl, suspended, .inl ⟨rfl, by simp [callbackOk]⟩⟩
    | some bus =>
      rcases myPmBusSuspend_cases bus s ans with ⟨ret, failed, eq⟩ | ⟨-, used, -, eq⟩
      · exact .inl ⟨ret, by simp [eq, failed]⟩
      · exact .inr ⟨o, rfl, suspended, .inr ⟨bus, rfl, used, by simp [eq]⟩⟩

theorem rollbackSuspend_after_resume {bus : PmBus} (hbus : d.bus = some bus) :
    ((rollbackSuspend d (s.setUsage bus (s.usage bus + 1)) ans).getD (s.setUsage bus (s.usage bus + 1), -enotsup) =
        (s.setUsage bus (s.usage bus + 1), -enotsup) ∧ d = .battery) ∨
    (∃ ret < 0, (rollbackSuspend d (s.setUsage bus (s.usage bus + 1)) ans).getD
        (s.setUsage bus (s.usage bus + 1), -enotsup) = (s.setUsage bus (s.usage bus + 1), ret)) ∨
    (d ≠ .battery ∧ (rollbackSuspend d (s.setUsage bus (s.usage bus + 1)) ans).getD
        (s.setUsage bus (s.usage bus + 1), -enotsup) = (s, 0)) := by
  rw [rollbackSuspend_eq]
  by_cases battery : d = .battery
  · exact .inl ⟨by simp [battery], battery⟩
  rw [if_neg battery, busSuspend_eq, hbus, Option.map_some, Option.getD_some]
  rcases myPmBusSuspend_cases bus (s.setUsage bus (s.usage bus + 1)) ans with ⟨ret, failed, eq⟩ | ⟨-, -, -, eq⟩
  · exact .inr (.inl ⟨ret, failed, eq⟩)
  · exact .inr (.inr ⟨battery, by simp [eq]⟩)

end Calls

end Pm
