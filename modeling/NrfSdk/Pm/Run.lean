import NrfSdk.Pm.Device
import NrfSdk.Machine.Run

/-! The power management along any sequence of calls from the modules' threads, whatever the callbacks
and the drivers answer. Along every run a device is NOT_INIT exactly while its ops are NULL, and a device
that is RESUME has a bus with a user. When each device is registered once, the battery without a resume
callback as my_battery.c registers it, and no bus fails to suspend, every bus has one user while its device
is RESUME and none otherwise. The rollback switch of my_pm_device_resume breaks this in two ways. It has no
case for the battery, so a battery whose resume callback fails keeps its ADC user, and no later call takes
it: the ADC is never suspended again. For the other devices it releases the bus, and the call returns
the 0 of that release: a resume whose callback failed reports success, with the device still SUSPENDED. -/

namespace Pm

open Machine

def pmBoot : PmSystem := ⟨fun _ => ⟨.notInit, none⟩, fun _ => 0, fun _ => true⟩

/-! ## Frames -/

/-- What a call on one device leaves alone: the devicetree, the other devices and the other buses. -/
structure Frame (d : MyPmDevId) (s next : PmSystem) : Prop where
  present : next.present = s.present
  devices : ∀ other, other ≠ d → next.devices other = s.devices other
  usage : ∀ bus, bus.owner ≠ d → next.usage bus = s.usage bus

section Frame

variable {d : MyPmDevId} {s : PmSystem}

theorem Frame.refl : Frame d s s := ⟨rfl, fun _ _ => rfl, fun _ _ => rfl⟩

theorem Frame.setCtx (ctx : PmDeviceCtx) : Frame d s (s.setCtx d ctx) :=
  ⟨rfl, fun _ ne => setCtx_devices_of_ne s ctx ne, fun _ _ => rfl⟩

theorem Frame.setUsage {bus : PmBus} (hbus : d.bus = some bus) (count : Nat) : Frame d s (s.setUsage bus count) := by
  refine ⟨rfl, fun _ _ => rfl, fun other owner => ?_⟩
  have ne : other ≠ bus := fun same => owner (MyPmDevId.bus_eq_some_iff.mp (same ▸ hbus))
  simp [ne]

theorem Frame.setUsage_setCtx {bus : PmBus} (hbus : d.bus = some bus) (count : Nat) (ctx : PmDeviceCtx) :
    Frame d s ((s.setUsage bus count).setCtx d ctx) :=
  have usage := Frame.setUsage (s := s) hbus count
  ⟨usage.present, fun other ne => (setCtx_devices_of_ne _ ctx ne).trans (usage.devices other ne),
    fun other owner => usage.usage other owner⟩

end Frame

/-- The device a call names, none for a dev_id past MY_PM_DEV_MAX. -/
def PmCall.device (call : PmCall) : Option MyPmDevId := MyPmDevId.ofNat? call.devId

theorem pmStep_outside (s : PmSystem) (call : PmCall) (ans : PmAnswers) (outside : call.device = none) :
    (pmStep s call ans).1 = s := by
  cases call with
  | register devId ops => rw [pmStep, myPmDeviceRegister_of_none s ans (show MyPmDevId.ofNat? devId = none from outside)]
  | resume devId => rw [pmStep, myPmDeviceResume_of_none s ans (show MyPmDevId.ofNat? devId = none from outside)]
  | suspend devId => rw [pmStep, myPmDeviceSuspend_of_none s ans (show MyPmDevId.ofNat? devId = none from outside)]

theorem myPmDeviceRegister_frame (s : PmSystem) (d : MyPmDevId) (ops : Option PmDeviceOps) (ans : PmAnswers) :
    Frame d s (myPmDeviceRegister s d.toNat ops ans).1 := by
  cases ops with
  | none => rw [myPmDeviceRegister_without_ops]; exact .refl
  | some o =>
    rcases myPmDeviceRegister_cases s d ans o with ⟨ret, eq⟩ | eq | ⟨bus, hbus, -, -, eq⟩ <;> rw [eq]
    · exact .setCtx _
    · exact .setCtx _
    · exact .setUsage_setCtx hbus _ _

theorem myPmDeviceResume_frame (s : PmSystem) (d : MyPmDevId) (ans : PmAnswers) :
    Frame d s (myPmDeviceResume s d.toNat ans).1 := by
  rcases myPmDeviceResume_cases s d ans with ⟨ret, eq⟩ | ⟨o, bus, -, -, hbus, -, -, ⟨-, eq⟩ | ⟨-, -, eq⟩⟩
  · rw [eq]; exact .refl
  · rw [eq]; exact .setUsage_setCtx hbus _ _
  · rw [eq]
    rcases rollbackSuspend_after_resume s d ans hbus with ⟨kept, -⟩ | ⟨ret, -, kept⟩ | ⟨-, released⟩
    · rw [kept]; exact .setUsage hbus _
    · rw [kept]; exact .setUsage hbus _
    · rw [released]; exact .refl

theorem myPmDeviceSuspend_frame (s : PmSystem) (d : MyPmDevId) (ans : PmAnswers) :
    Frame d s (myPmDeviceSuspend s d.toNat ans).1 := by
  rcases myPmDeviceSuspend_cases s d ans with ⟨ret, eq⟩ | ⟨o, -, -, ⟨-, eq⟩ | ⟨bus, hbus, -, eq⟩⟩ <;> rw [eq]
  · exact .refl
  · exact .setCtx _
  · exact .setUsage_setCtx hbus _ _

theorem pmStep_frame (s : PmSystem) (call : PmCall) (ans : PmAnswers) {d : MyPmDevId} (names : call.device = some d) :
    Frame d s (pmStep s call ans).1 := by
  cases call with
  | register devId ops =>
    obtain rfl := MyPmDevId.eq_toNat_of_ofNat? names
    exact myPmDeviceRegister_frame s d ops ans
  | resume devId =>
    obtain rfl := MyPmDevId.eq_toNat_of_ofNat? names
    exact myPmDeviceResume_frame s d ans
  | suspend devId =>
    obtain rfl := MyPmDevId.eq_toNat_of_ofNat? names
    exact myPmDeviceSuspend_frame s d ans

def lteThreadCalls : List (PmCall × PmAnswers) :=
  [(.register 2 (some ltePmOps), ⟨0, 0, 0, 0, 0⟩), (.resume 2, ⟨0, 0, 0, 0, 0⟩), (.suspend 2, ⟨0, 0, 0, 0, -5⟩),
   (.resume 9, ⟨0, 0, 0, 0, 0⟩)]

/-- A device is NOT_INIT exactly while its ops are NULL, and a RESUME device has a bus with a user. -/
structure DeviceInv (s : PmSystem) (d : MyPmDevId) : Prop where
  unregistered : (s.devices d).state = .notInit ↔ (s.devices d).ops = none
  held : (s.devices d).state = .resume → ∃ bus, d.bus = some bus ∧ 0 < s.usage bus

def PmInv (s : PmSystem) : Prop := ∀ d, DeviceInv s d

/-- A call that keeps the invariant of its own device keeps the invariant of all of them. -/
theorem PmInv.of_frame {s next : PmSystem} {d : MyPmDevId} (inv : PmInv s) (frame : Frame d s next)
    (own : DeviceInv next d) : PmInv next := by
  intro other
  by_cases same : other = d
  · exact same ▸ own
  have kept := frame.devices other same
  refine ⟨by rw [kept]; exact (inv other).unregistered, fun resumed => ?_⟩
  obtain ⟨bus, hbus, used⟩ := (inv other).held (kept ▸ resumed)
  have owner : bus.owner ≠ d := fun owned => same (MyPmDevId.bus_eq_some_iff.mp hbus ▸ owned)
  exact ⟨bus, hbus, (frame.usage bus owner).symm ▸ used⟩

theorem DeviceInv.setCtx_notInit (s : PmSystem) (d : MyPmDevId) : DeviceInv (s.setCtx d ⟨.notInit, none⟩) d :=
  ⟨by simp, by simp⟩

theorem DeviceInv.setCtx_suspended (s : PmSystem) (d : MyPmDevId) (o : PmDeviceOps) :
    DeviceInv (s.setCtx d ⟨.suspended, some o⟩) d :=
  ⟨by simp, by simp⟩

theorem myPmDeviceRegister_inv {s : PmSystem} (inv : PmInv s) (d : MyPmDevId) (ops : Option PmDeviceOps)
    (ans : PmAnswers) : PmInv (myPmDeviceRegister s d.toNat ops ans).1 := by
  refine inv.of_frame (myPmDeviceRegister_frame s d ops ans) ?_
  cases ops with
  | none => rw [myPmDeviceRegister_without_ops]; exact inv d
  | some o =>
    rcases myPmDeviceRegister_cases s d ans o with ⟨ret, eq⟩ | eq | ⟨bus, -, -, -, eq⟩ <;> rw [eq]
    · exact .setCtx_notInit s d
    · exact .setCtx_suspended s d o
    · exact .setCtx_notInit _ d

theorem myPmDeviceResume_inv {s : PmSystem} (inv : PmInv s) (d : MyPmDevId) (ans : PmAnswers) :
    PmInv (myPmDeviceResume s d.toNat ans).1 := by
  refine inv.of_frame (myPmDeviceResume_frame s d ans) ?_
  rcases myPmDeviceResume_cases s d ans with ⟨ret, eq⟩ | ⟨o, bus, hops, suspended, hbus, -, -, ⟨-, eq⟩ | ⟨-, -, eq⟩⟩
  · rw [eq]; exact inv d
  · -- RESUME with the user the bus resume added
    rw [eq]
    exact ⟨by simp [hops], fun _ => ⟨bus, hbus, by simp⟩⟩
  · -- the rollback leaves the device SUSPENDED, whatever it does to the bus
    rw [eq]
    have suspendedCtx : ∀ next : PmSystem, next.devices d = s.devices d → DeviceInv next d := fun next same =>
      ⟨by rw [same]; exact (inv d).unregistered, fun resumed => by simp [same, suspended] at resumed⟩
    rcases rollbackSuspend_after_resume s d ans hbus with ⟨kept, -⟩ | ⟨ret, -, kept⟩ | ⟨-, released⟩
    · rw [kept]; exact suspendedCtx _ rfl
    · rw [kept]; exact suspendedCtx _ rfl
    · rw [released]; exact inv d

theorem myPmDeviceSuspend_inv {s : PmSystem} (inv : PmInv s) (d : MyPmDevId) (ans : PmAnswers) :
    PmInv (myPmDeviceSuspend s d.toNat ans).1 := by
  refine inv.of_frame (myPmDeviceSuspend_frame s d ans) ?_
  rcases myPmDeviceSuspend_cases s d ans with ⟨ret, eq⟩ | ⟨o, hops, -, ⟨-, eq⟩ | ⟨bus, -, -, eq⟩⟩ <;> rw [eq]
  · exact inv d
  · exact ⟨by simp [hops], by simp⟩
  · exact ⟨by simp [hops], by simp⟩

theorem pmStep_inv {s : PmSystem} (inv : PmInv s) (call : PmCall) (ans : PmAnswers) :
    PmInv (pmStep s call ans).1 := by
  cases names : call.device with
  | none => rw [pmStep_outside s call ans names]; exact inv
  | some d =>
    cases call with
    | register devId ops =>
      obtain rfl := MyPmDevId.eq_toNat_of_ofNat? names
      exact myPmDeviceRegister_inv inv d ops ans
    | resume devId =>
      obtain rfl := MyPmDevId.eq_toNat_of_ofNat? names
      exact myPmDeviceResume_inv inv d ans
    | suspend devId =>
      obtain rfl := MyPmDevId.eq_toNat_of_ofNat? names
      exact myPmDeviceSuspend_inv inv d ans

theorem myPmInit_inv (s : PmSystem) : PmInv (myPmInit s) := fun _ => ⟨by simp [myPmInit], by simp [myPmInit]⟩

/-- The bus of a device has one user while it is RESUME and none otherwise, and is there while it is
RESUME; the battery has no resume callback. -/
structure DeviceExact (s : PmSystem) (d : MyPmDevId) : Prop where
  usage : ∀ bus, d.bus = some bus → s.usage bus = if (s.devices d).state = .resume then 1 else 0
  present : ∀ bus, d.bus = some bus → (s.devices d).state = .resume → s.present bus = true
  battery : d = .battery → ∀ o, (s.devices d).ops = some o → o.resume = false

def PmExact (s : PmSystem) : Prop := ∀ d, DeviceExact s d

theorem PmExact.of_frame {s next : PmSystem} {d : MyPmDevId} (exact : PmExact s) (frame : Frame d s next)
    (own : DeviceExact next d) : PmExact next := by
  intro other
  by_cases same : other = d
  · exact same ▸ own
  have kept := frame.devices other same
  have owner : ∀ bus, other.bus = some bus → bus.owner ≠ d := fun bus hbus owned =>
    same (MyPmDevId.bus_eq_some_iff.mp hbus ▸ owned)
  refine ⟨fun bus hbus => ?_, fun bus hbus resumed => ?_, fun battery o hops => ?_⟩
  · rw [frame.usage bus (owner bus hbus), kept]
    exact (exact other).usage bus hbus
  · rw [frame.present]
    exact (exact other).present bus hbus (kept ▸ resumed)
  · exact (exact other).battery battery o (kept ▸ hops)

/-- What the count needs of one call: a registration finds its device not RESUME and gives the battery
no resume callback, and no bus fails to suspend. -/
structure CallOk (s : PmSystem) (call : PmCall) (ans : PmAnswers) : Prop where
  register : ∀ devId o d, call = .register devId (some o) → MyPmDevId.ofNat? devId = some d →
    (s.devices d).state ≠ .resume ∧ (d = .battery → o.resume = false)
  busSuspend : 0 ≤ ans.busSuspend

section Exact

variable {s : PmSystem} (exact : PmExact s)
include exact

theorem myPmDeviceRegister_exact (d : MyPmDevId) (o : PmDeviceOps) (ans : PmAnswers)
    (notResumed : (s.devices d).state ≠ .resume) (battery : d = .battery → o.resume = false)
    (putOk : 0 ≤ ans.busSuspend) : PmExact (myPmDeviceRegister s d.toNat (some o) ans).1 := by
  refine exact.of_frame (myPmDeviceRegister_frame s d (some o) ans) ?_
  have unused : ∀ bus, d.bus = some bus → s.usage bus = 0 := fun bus hbus => by
    simpa [notResumed] using (exact d).usage bus hbus
  rcases myPmDeviceRegister_cases s d ans o with ⟨ret, eq⟩ | eq | ⟨bus, -, -, failed, -⟩
  · rw [eq]
    exact ⟨fun bus hbus => by simp [unused bus hbus], by simp, by simp⟩
  · rw [eq]
    exact ⟨fun bus hbus => by simp [unused bus hbus], by simp, fun isBattery o' hops => by
      simp only [setCtx_devices_self, Option.some.injEq] at hops
      exact hops ▸ battery isBattery⟩
  · exact absurd putOk (not_le.mpr failed)

theorem myPmDeviceResume_exact (d : MyPmDevId) (ans : PmAnswers) (putOk : 0 ≤ ans.busSuspend) :
    PmExact (myPmDeviceResume s d.toNat ans).1 := by
  refine exact.of_frame (myPmDeviceResume_frame s d ans) ?_
  rcases myPmDeviceResume_cases s d ans with ⟨ret, eq⟩ | ⟨o, bus, hops, suspended, hbus, present, -, ⟨-, eq⟩ | ⟨callback, -, eq⟩⟩
  · rw [eq]; exact exact d
  · -- the bus had no user while the device was SUSPENDED, and has the one the resume added
    have unused : s.usage bus = 0 := by simpa [suspended] using (exact d).usage bus hbus
    rw [eq]
    refine ⟨fun bus' hbus' => ?_, fun bus' hbus' _ => ?_, fun isBattery o' hops' => ?_⟩
    · obtain rfl : bus' = bus := Option.some.inj (hbus'.symm.trans hbus)
      simp [unused]
    · obtain rfl : bus' = bus := Option.some.inj (hbus'.symm.trans hbus)
      simpa using present
    · exact (exact d).battery isBattery o' (by simpa using hops')
  · -- the battery has no resume callback, so the rollback switch finds the device's bus and releases it
    have notBattery : d ≠ .battery := fun isBattery =>
      Bool.false_ne_true ((exact d).battery isBattery o hops ▸ callback)
    rw [eq, rollbackSuspend_eq, if_neg notBattery, busSuspend_eq, hbus, Option.map_some, Option.getD_some,
      myPmBusSuspend_after_resume bus s ans present putOk]
    exact exact d

theorem myPmDeviceSuspend_exact (inv : PmInv s) (d : MyPmDevId) (ans : PmAnswers) :
    PmExact (myPmDeviceSuspend s d.toNat ans).1 := by
  refine exact.of_frame (myPmDeviceSuspend_frame s d ans) ?_
  rcases myPmDeviceSuspend_cases s d ans with ⟨ret, eq⟩ | ⟨o, hops, notSuspended, ⟨hbus, eq⟩ | ⟨bus, hbus, -, eq⟩⟩
  · rw [eq]; exact exact d
  · rw [eq]
    exact ⟨fun bus' hbus' => by simp [hbus] at hbus', fun bus' hbus' => by simp [hbus] at hbus',
      fun isBattery o' hops' => (exact d).battery isBattery o' (by simpa using hops')⟩
  · -- registered and not SUSPENDED is RESUME, so the bus had exactly the one user the suspend takes
    have resumed : (s.devices d).state = .resume := by
      cases hstate : (s.devices d).state with
      | notInit => exact absurd ((inv d).unregistered.mp hstate) (by simp [hops])
      | suspended => exact absurd hstate notSuspended
      | resume => rfl
    have single : s.usage bus = 1 := by simpa [resumed] using (exact d).usage bus hbus
    rw [eq]
    refine ⟨fun bus' hbus' => ?_, fun bus' hbus' => by simp, fun isBattery o' hops' => ?_⟩
    · obtain rfl : bus' = bus := Option.some.inj (hbus'.symm.trans hbus)
      simp [single]
    · exact (exact d).battery isBattery o' (by simpa using hops')

theorem pmStep_exact (inv : PmInv s) (call : PmCall) (ans : PmAnswers) (ok : CallOk s call ans) :
    PmExact (pmStep s call ans).1 := by
  cases names : call.device with
  | none => rw [pmStep_outside s call ans names]; exact exact
  | some d =>
    cases call with
    | register devId ops =>
      obtain rfl := MyPmDevId.eq_toNat_of_ofNat? names
      cases ops with
      | none => rw [pmStep, myPmDeviceRegister_without_ops]; exact exact
      | some o =>
        have guard := ok.register d.toNat o d rfl names
        exact myPmDeviceRegister_exact exact d o ans guard.1 guard.2 ok.busSuspend
    | resume devId =>
      obtain rfl := MyPmDevId.eq_toNat_of_ofNat? names
      exact myPmDeviceResume_exact exact d ans ok.busSuspend
    | suspend devId =>
      obtain rfl := MyPmDevId.eq_toNat_of_ofNat? names
      exact myPmDeviceSuspend_exact exact inv d ans

end Exact

def PmCall.registers (d : MyPmDevId) : PmCall → Bool
  | .register devId _ => MyPmDevId.ofNat? devId == some d
  | _ => false

def PmCall.setsBatteryResume : PmCall → Bool
  | .register devId (some o) => MyPmDevId.ofNat? devId == some .battery && o.resume
  | _ => false

/-- A device that is not registered stays NOT_INIT through any call that does not register it. -/
theorem pmStep_keeps_notInit {s : PmSystem} (inv : PmInv s) {d : MyPmDevId} (notInit : (s.devices d).state = .notInit)
    (call : PmCall) (ans : PmAnswers) (other : call.registers d = false) :
    ((pmStep s call ans).1.devices d).state = .notInit := by
  cases names : call.device with
  | none => rw [pmStep_outside s call ans names]; exact notInit
  | some named =>
    by_cases same : d = named
    swap
    · rw [(pmStep_frame s call ans names).devices d same]; exact notInit
    subst same
    have unregistered := (inv d).unregistered.mp notInit
    cases call with
    | register devId ops =>
      simp only [PmCall.registers, PmCall.device, PmCall.devId] at other names
      simp [names] at other
    | resume devId =>
      obtain rfl := MyPmDevId.eq_toNat_of_ofNat? names
      rcases myPmDeviceResume_cases s d ans with ⟨ret, eq⟩ | ⟨o, -, hops, -⟩
      · simp only [pmStep, eq]; exact notInit
      · simp [unregistered] at hops
    | suspend devId =>
      obtain rfl := MyPmDevId.eq_toNat_of_ofNat? names
      rcases myPmDeviceSuspend_cases s d ans with ⟨ret, eq⟩ | ⟨o, hops, -⟩
      · simp only [pmStep, eq]; exact notInit
      · simp [unregistered] at hops

theorem myPmInit_exact (s : PmSystem) (noUsers : ∀ bus, s.usage bus = 0) : PmExact (myPmInit s) :=
  fun _ => ⟨fun bus _ => by simp [myPmInit, noUsers bus], fun _ _ => by simp [myPmInit], fun _ _ => by simp [myPmInit]⟩

/-- The count along a run in which each device still to be registered is NOT_INIT. -/
theorem pmRun_exact_of_pending {s : PmSystem} (inv : PmInv s) (exact : PmExact s) (calls : List (PmCall × PmAnswers))
    (once : ∀ d, calls.countP (fun call => call.1.registers d) ≤ 1)
    (pending : ∀ d, 0 < calls.countP (fun call => call.1.registers d) → (s.devices d).state = .notInit)
    (batteryOps : ∀ call ∈ calls, call.1.setsBatteryResume = false)
    (putsOk : ∀ call ∈ calls, 0 ≤ call.2.busSuspend) : PmExact (pmRun s calls) := by
  induction calls generalizing s with
  | nil => exact exact
  | cons call rest ih =>
    obtain ⟨call, ans⟩ := call
    have ok : CallOk s call ans := by
      refine ⟨fun devId o d hcall names => ⟨?_, ?_⟩, putsOk _ (List.mem_cons_self ..)⟩
      · have registers : call.registers d = true := by simp [hcall, PmCall.registers, names]
        have first : 0 < ((call, ans) :: rest).countP (fun call => call.1.registers d) := by
          simp [registers]
        rw [pending d first]
        exact nofun
      · rintro rfl
        have given := batteryOps _ (List.mem_cons_self ..)
        simpa [hcall, PmCall.setsBatteryResume, names] using given
    refine ih (pmStep_inv inv call ans) (pmStep_exact exact inv call ans ok) (fun d => ?_) (fun d later => ?_)
      (fun c mem => batteryOps c (List.mem_cons_of_mem _ mem)) (fun c mem => putsOk c (List.mem_cons_of_mem _ mem))
    · have total := once d
      rw [List.countP_cons] at total
      omega
    · -- d is registered later, so this call does not register it and it is still NOT_INIT
      have total := once d
      rw [List.countP_cons] at total
      have other : call.registers d = false := by
        cases registers : call.registers d
        · rfl
        · simp only [registers, if_true] at total
          omega
      have stillPending : 0 < ((call, ans) :: rest).countP (fun call => call.1.registers d) := by
        rw [List.countP_cons]; omega
      exact pmStep_keeps_notInit inv (pending d stillPending) call ans other

def lteResumeCalls : List (PmCall × PmAnswers) :=
  [(.register 2 (some ltePmOps), ⟨0, 0, 0, 0, 0⟩), (.resume 2, ⟨0, 0, 0, 0, 0⟩)]

/-- The battery is NOT_INIT exactly while its ops are NULL, and its ADC has one user more than its state
accounts for. -/
structure BatteryLeaked (s : PmSystem) : Prop where
  unregistered : (s.devices .battery).state = .notInit ↔ (s.devices .battery).ops = none
  extra : (if (s.devices .battery).state = .resume then 2 else 1) ≤ s.usage .batteryAdc

theorem BatteryLeaked.used {s : PmSystem} (leaked : BatteryLeaked s) : 0 < s.usage .batteryAdc := by
  have extra := leaked.extra
  split_ifs at extra <;> omega

theorem BatteryLeaked.resumed {s : PmSystem} (leaked : BatteryLeaked s) {o : PmDeviceOps}
    (hops : (s.devices .battery).ops = some o) (notSuspended : (s.devices .battery).state ≠ .suspended) :
    2 ≤ s.usage .batteryAdc := by
  have resumed : (s.devices .battery).state = .resume := by
    cases hstate : (s.devices .battery).state with
    | notInit => exact absurd (leaked.unregistered.mp hstate) (by simp [hops])
    | suspended => exact absurd hstate notSuspended
    | resume => rfl
  simpa [resumed] using leaked.extra

theorem pmStep_batteryLeaked {s : PmSystem} (leaked : BatteryLeaked s) (call : PmCall) (ans : PmAnswers) :
    BatteryLeaked (pmStep s call ans).1 := by
  cases names : call.device with
  | none => rw [pmStep_outside s call ans names]; exact leaked
  | some d =>
    by_cases battery : d = .battery
    swap
    · -- another device's call leaves the battery and its ADC alone
      have frame := pmStep_frame s call ans names
      have kept := frame.devices .battery (Ne.symm battery)
      have usage := frame.usage .batteryAdc (Ne.symm battery)
      exact ⟨by rw [kept]; exact leaked.unregistered, by rw [kept, usage]; exact leaked.extra⟩
    subst battery
    have used := leaked.used
    cases call with
    | register devId ops =>
      obtain rfl := MyPmDevId.eq_toNat_of_ofNat? names
      cases ops with
      | none => rw [pmStep, myPmDeviceRegister_without_ops]; exact leaked
      | some o =>
        rcases myPmDeviceRegister_cases s .battery ans o with ⟨ret, eq⟩ | eq | ⟨bus, hbus, unused, -⟩
        · simp only [pmStep, eq]
          exact ⟨by simp, by simp; exact used⟩
        · simp only [pmStep, eq]
          exact ⟨by simp, by simp; exact used⟩
        · -- a failing suspend keeps the user only of a bus that had none
          obtain rfl : bus = .batteryAdc := Option.some.inj hbus.symm
          omega
    | resume devId =>
      obtain rfl := MyPmDevId.eq_toNat_of_ofNat? names
      rcases myPmDeviceResume_cases s .battery ans with ⟨ret, eq⟩ | ⟨o, bus, hops, suspended, hbus, -, -, ⟨-, eq⟩ | ⟨-, -, eq⟩⟩
      · simp only [pmStep, eq]; exact leaked
      · obtain rfl : bus = .batteryAdc := Option.some.inj hbus.symm
        simp only [pmStep, eq]
        exact ⟨by simp [hops], by simp; omega⟩
      · -- no rollback case for the battery: the ADC keeps the user the resume added
        obtain rfl : bus = .batteryAdc := Option.some.inj hbus.symm
        simp only [pmStep, eq]
        rcases rollbackSuspend_after_resume s .battery ans hbus with ⟨kept, -⟩ | ⟨ret, -, kept⟩ | ⟨notBattery, -⟩
        · rw [kept]; exact ⟨by simpa using leaked.unregistered, by simp [suspended]⟩
        · rw [kept]; exact ⟨by simpa using leaked.unregistered, by simp [suspended]⟩
        · exact absurd rfl notBattery
    | suspend devId =>
      obtain rfl := MyPmDevId.eq_toNat_of_ofNat? names
      rcases myPmDeviceSuspend_cases s .battery ans with ⟨ret, eq⟩ | ⟨o, hops, notSuspended, ⟨hbus, -⟩ | ⟨bus, hbus, -, eq⟩⟩
      · simp only [pmStep, eq]; exact leaked
      · simp [MyPmDevId.bus] at hbus
      · obtain rfl : bus = .batteryAdc := Option.some.inj hbus.symm
        have twice := leaked.resumed hops notSuspended
        simp only [pmStep, eq]
        exact ⟨by simp [hops], by simp; omega⟩

theorem batteryResume_leaks_adc (s : PmSystem) (o : PmDeviceOps)
    (registered : s.devices .battery = ⟨.suspended, some o⟩) (callback : o.resume = true) (ans : PmAnswers)
    (present : s.present .batteryAdc = true) (resumeOk : 0 ≤ ans.busResume) (callbackFails : ans.resume < 0) :
    myPmDeviceResume s MyPmDevId.battery.toNat ans =
        (s.setUsage .batteryAdc (s.usage .batteryAdc + 1), -enotsup) ∧
      ∀ calls, 0 < (pmRun (s.setUsage .batteryAdc (s.usage .batteryAdc + 1)) calls).usage .batteryAdc := by
  refine ⟨?_, fun calls => ?_⟩
  · simp [myPmDeviceResume, registered, busResume_eq, MyPmDevId.bus, myPmBusResume_of_ok _ s ans present resumeOk,
      callback, callbackFails, rollbackSuspend]
  · have start : BatteryLeaked (s.setUsage .batteryAdc (s.usage .batteryAdc + 1)) :=
      ⟨by simp [registered], by simp [registered]⟩
    exact (foldl_invariant _ BatteryLeaked (fun _ call leaked => pmStep_batteryLeaked leaked call.1 call.2)
      start calls).used

theorem myPmDeviceResume_reports_failed_callback (s : PmSystem) (d : MyPmDevId) (notBattery : d ≠ .battery)
    {bus : PmBus} (hbus : d.bus = some bus) (o : PmDeviceOps) (registered : s.devices d = ⟨.suspended, some o⟩)
    (callback : o.resume = true) (ans : PmAnswers) (present : s.present bus = true) (resumeOk : 0 ≤ ans.busResume)
    (suspendOk : 0 ≤ ans.busSuspend) (callbackFails : ans.resume < 0) :
    myPmDeviceResume s d.toNat ans = (s, 0) := by
  simp only [myPmDeviceResume, MyPmDevId.ofNat?_toNat, registered, busResume_eq, hbus, Option.map_some,
    myPmBusResume_of_ok bus s ans present resumeOk]
  simp only [callback, callbackFails, and_self, if_true, lt_irrefl, if_false, reduceCtorEq, ne_eq,
    not_true_eq_false]
  rw [rollbackSuspend_eq, if_neg notBattery, busSuspend_eq, hbus, Option.map_some,
    myPmBusSuspend_after_resume bus s ans present suspendOk]

/-- The NFC device SUSPENDED with its resume callback, everything else as at boot. -/
def nfcSuspended : PmSystem := pmBoot.setCtx .nfc ⟨.suspended, some sNfcPmOps⟩

/-- The battery SUSPENDED with a resume callback, everything else as at boot. -/
def batterySuspended : PmSystem := pmBoot.setCtx .battery ⟨.suspended, some ⟨false, true, true⟩⟩

end Pm
