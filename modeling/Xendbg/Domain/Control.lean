import Mathlib.Data.List.Chain
import Xendbg.Domain.PauseTracker

/-! The control plane of `Domain` and `DomainHVM` outside the pause tracker: whole-domain pause,
unpause, shutdown and destroy, `get_max_gpfn`, the mem_access settings, and the vCPU-checked
debugging controls.  Each operation makes libxc calls, logged in order with their return codes;
libxc's code for each call, and the `DomInfo` that `get_dominfo` reports, are an oracle over the
calls made before, so the theorems hold whatever Xen answers.  The one part of Xen's state the
control plane reads back, the access of each guest frame, is kept beside the log.
`destroy_follows_poweroff` shows that no run of the control plane destroys a domain it has not
just shut down; `setMemAccess_skips_own_frame` that `set_mem_access` takes a byte address where
libxc expects a frame number. -/

namespace Xendbg

/-- `XenException(msg)` or `XenException(msg, err)`. -/
structure XenException where
  msg : String
  err : Option Int
  deriving DecidableEq, Repr

/-- `xenmem_access_t`, from Xen's public `memory.h`. -/
inductive MemAccess where
  | n | r | w | rw | x | rx | wx | rwx | rx2rw | n2rwx | default
  deriving DecidableEq, Repr

/-- `XEN_DOMCTL_DEBUG_OP_SINGLE_STEP_OFF`, from Xen's public `domctl.h`. -/
def xenDomctlDebugOpSingleStepOff : BitVec 32 := 0

/-- `XEN_DOMCTL_DEBUG_OP_SINGLE_STEP_ON`, from Xen's public `domctl.h`. -/
def xenDomctlDebugOpSingleStepOn : BitVec 32 := 1

/-- `SHUTDOWN_poweroff`, from Xen's public `sched.h`. -/
def shutdownPoweroff : Int := 0

/-- The libxc calls of the control plane, with the arguments Xen receives. -/
inductive XcCall where
  | domainSetdebugging (enable : Bool)
  | domainDebugControl (op : BitVec 32) (vcpu : VcpuId)
  | domainPause
  | domainUnpause
  | domainShutdown (reason : Int)
  | domainDestroy
  | domainMaximumGpfn
  | setMemAccess (access : MemAccess) (firstPfn : BitVec 64) (nr : BitVec 32)
  | getMemAccess (pfn : BitVec 64)
  | domainSetAccessRequired (required : Bool)
  | monitorEnable
  deriving DecidableEq, Repr

/-- The fields of `DomInfo` the control plane reads. -/
structure DomInfo where
  maxVcpuId : VcpuId
  paused : Bool
  deriving DecidableEq, Repr

/-- The log of libxc calls made, oldest first, each with the code it returned. -/
abbrev CallLog := List (XcCall × Int)

/-- What the control plane reads from Xen: the code each libxc call returns (`0` on success, and for
`xc_monitor_enable` the `errno` of a null page), the `DomInfo` of `get_dominfo`, the frame count of
`xc_domain_maximum_gpfn`, and the ring page and event-channel port of `xc_monitor_enable`, each
given the calls made before. -/
structure Xenctrl where
  rc : CallLog → XcCall → Int
  dominfo : CallLog → DomInfo
  maxGpfn : CallLog → BitVec 64
  monitorRing : CallLog → Sring × Nat

/-- The control plane's view of a domain: its `_domid`, the calls made so far, and the access Xen
keeps for each guest frame. -/
structure Control where
  domid : Nat
  calls : CallLog
  memAccess : BitVec 64 → MemAccess

/-- A Xen that accepts every call and reports one running vCPU. -/
def acceptingXen : Xenctrl :=
  ⟨fun _ _ => 0, fun _ => ⟨0, false⟩, fun _ => 0, fun _ => (⟨0, 0, 0, 0, fun _ => VmEvent.zero⟩, 0)⟩

/-- Domain 1 with no call made and every frame at the default access. -/
def freshControl : Control := ⟨1, [], fun _ => .default⟩

/-- What a successful call changes in the part of Xen's state the control plane reads back:
`xc_set_mem_access(xch, domid, access, first_pfn, nr)` sets the access of the `nr` frames from
`first_pfn`. -/
def XcCall.effect : XcCall → (BitVec 64 → MemAccess) → BitVec 64 → MemAccess
  | .setMemAccess access firstPfn nr, m => fun pfn =>
    if firstPfn.toNat ≤ pfn.toNat ∧ pfn.toNat < firstPfn.toNat + nr.toNat then access else m pfn
  | _, m => m

/-- A libxc call: Xen's code is logged, and a successful call takes effect. -/
def xcCall (xen : Xenctrl) (call : XcCall) (s : Control) : Int × Control :=
  let rc := xen.rc s.calls call
  (rc, { s with calls := s.calls ++ [(call, rc)]
                memAccess := if rc = 0 then call.effect s.memAccess else s.memAccess })

/-- The result of an operation and the state it leaves, whether it returned or threw. -/
abbrev ControlResult (α : Type) := Except XenException α × Control

/-- `if ((err = call)) throw XenException(msg, -err);`, the shape of every libxc call of
`Domain`. -/
def checkedCall (xen : Xenctrl) (call : XcCall) (msg : String) (s : Control) : ControlResult Unit :=
  let (err, s) := xcCall xen call s
  (if err ≠ 0 then .error ⟨msg, some (-err)⟩ else .ok (), s)

/-- `msg + std::to_string(_domid)`. -/
def domainMessage (msg : String) (s : Control) : String := msg ++ toString s.domid

/-! ### The whole domain -/

/-- `Domain::pause`: nothing when Xen reports the domain paused. -/
def Domain.pause (xen : Xenctrl) (s : Control) : ControlResult Unit :=
  if (xen.dominfo s.calls).paused then (.ok (), s)
  else checkedCall xen .domainPause (domainMessage "Failed to pause domain " s) s

/-- `Domain::unpause`: nothing when Xen reports the domain running. -/
def Domain.unpause (xen : Xenctrl) (s : Control) : ControlResult Unit :=
  if !(xen.dominfo s.calls).paused then (.ok (), s)
  else checkedCall xen .domainUnpause (domainMessage "Failed to unpause domain " s) s

/-- `Domain::shutdown(reason)`. -/
def Domain.shutdown (xen : Xenctrl) (reason : Int) (s : Control) : ControlResult Unit :=
  checkedCall xen (.domainShutdown reason) (domainMessage "Failed to shutdown domain " s) s

/-- `Domain::destroy`: `shutdown(SHUTDOWN_poweroff)`, and only if it returned, the destroy. -/
def Domain.destroy (xen : Xenctrl) (s : Control) : ControlResult Unit :=
  match Domain.shutdown xen shutdownPoweroff s with
  | (.error e, s) => (.error e, s)
  | (.ok (), s) => checkedCall xen .domainDestroy (domainMessage "Failed to destroy domain " s) s

/-- `Domain::get_max_gpfn`, whose error reads as `destroy`'s. -/
def Domain.getMaxGpfn (xen : Xenctrl) (s : Control) : ControlResult (BitVec 64) :=
  let gpfn := xen.maxGpfn s.calls
  match checkedCall xen .domainMaximumGpfn (domainMessage "Failed to destroy domain " s) s with
  | (.error e, s) => (.error e, s)
  | (.ok (), s) => (.ok gpfn, s)

/-! ### Memory access -/

/-- `Domain::set_mem_access(access, start_address, size)`: the byte address goes to libxc's
`first_pfn` and the size to its 32-bit `nr`. -/
def Domain.setMemAccess (xen : Xenctrl) (access : MemAccess) (startAddress size : BitVec 64)
    (s : Control) : ControlResult Unit :=
  checkedCall xen (.setMemAccess access startAddress (size.setWidth 32)) "xc_set_mem_access" s

/-- `XC_PAGE_SHIFT`. -/
def memPageShift : Nat := 12

/-- `Domain::get_mem_access(address)`: the access of the frame `address >> XC_PAGE_SHIFT`. -/
def Domain.getMemAccess (xen : Xenctrl) (address : BitVec 64) (s : Control) :
    ControlResult MemAccess :=
  let (err, s) := xcCall xen (.getMemAccess (address >>> memPageShift)) s
  (if err ≠ 0 then .error ⟨"xc_get_mem_access", some (-err)⟩
   else .ok (s.memAccess (address >>> memPageShift)), s)

/-- What `get_mem_access` returns is the access Xen keeps for the address's frame. -/
theorem getMemAccess_ok {xen : Xenctrl} {address : BitVec 64} {s : Control} {got : MemAccess}
    (h : (Domain.getMemAccess xen address s).1 = .ok got) :
    got = s.memAccess (address >>> memPageShift) := by
  simp only [Domain.getMemAccess, xcCall] at h
  split at h
  · cases h
  · injection h with h
    rw [← h]
    split <;> rfl

/-- A nonzero address is above its own frame number. -/
theorem toNat_ushiftRight_lt {a : BitVec 64} (h : a ≠ 0) : (a >>> memPageShift).toNat < a.toNat := by
  have hpos : 0 < a.toNat := Nat.pos_of_ne_zero fun h0 => h (BitVec.eq_of_toNat_eq h0)
  rw [BitVec.toNat_ushiftRight, Nat.shiftRight_eq_div_pow, memPageShift]
  exact Nat.div_lt_self hpos (by decide)

/-- `xc_set_mem_access` leaves the frames below `first_pfn` as they were. -/
theorem effect_setMemAccess_below {access : MemAccess} {firstPfn pfn : BitVec 64} (nr : BitVec 32)
    (m : BitVec 64 → MemAccess) (h : pfn.toNat < firstPfn.toNat) :
    (XcCall.setMemAccess access firstPfn nr).effect m pfn = m pfn :=
  if_neg fun h' => absurd h'.1 (Nat.not_le.mpr h)

/-- `set_mem_access(access, start_address, size)` sets the frames numbered from `start_address`,
not those holding the bytes from it: for every nonzero start it leaves the access of the frame
that holds `start_address` as it was, whatever the size and whatever Xen answers, so a
`get_mem_access(start_address)` that follows returns the frame's earlier access. -/
theorem setMemAccess_skips_own_frame (xen : Xenctrl) (access : MemAccess)
    {startAddress : BitVec 64} (hstart : startAddress ≠ 0) (size : BitVec 64) (s : Control) :
    (Domain.setMemAccess xen access startAddress size s).2.memAccess (startAddress >>> memPageShift) =
        s.memAccess (startAddress >>> memPageShift) ∧
      ∀ got, (Domain.getMemAccess xen startAddress
          (Domain.setMemAccess xen access startAddress size s).2).1 = .ok got →
        got = s.memAccess (startAddress >>> memPageShift) := by
  have hframe : (Domain.setMemAccess xen access startAddress size s).2.memAccess
      (startAddress >>> memPageShift) = s.memAccess (startAddress >>> memPageShift) := by
    simp only [Domain.setMemAccess, checkedCall, xcCall]
    split
    · exact effect_setMemAccess_below _ _ (toNat_ushiftRight_lt hstart)
    · rfl
  exact ⟨hframe, fun _ h => (getMemAccess_ok h).trans hframe⟩

theorem setMemAccess_skips_own_frame_second_page :
    (0x1000 : BitVec 64) ≠ 0 ∧
      (Domain.setMemAccess acceptingXen .n 0x1000 0x1000 freshControl).2.memAccess
          (0x1000 >>> memPageShift) = freshControl.memAccess (0x1000 >>> memPageShift) ∧
      ∀ got, (Domain.getMemAccess acceptingXen 0x1000
          (Domain.setMemAccess acceptingXen .n 0x1000 0x1000 freshControl).2).1 = .ok got →
        got = freshControl.memAccess (0x1000 >>> memPageShift) :=
  ⟨by decide, setMemAccess_skips_own_frame acceptingXen .n (by decide) 0x1000 freshControl⟩

/-- `Domain::set_access_required(required)`. -/
def Domain.setAccessRequired (xen : Xenctrl) (required : Bool) (s : Control) : ControlResult Unit :=
  checkedCall xen (.domainSetAccessRequired required) "xc_domain_set_access_required" s

/-! ### The monitor ring -/

/-- `EBUSY`, Linux's. -/
def eBusy : Int := 16

/-- `ENODEV`, Linux's. -/
def eNoDev : Int := 19

/-- `DomainHVM::enable_monitor`: the ring page and event-channel port of `xc_monitor_enable`, or,
when it maps no page, the exception `errno` selects.  `strerror` is libc's. -/
def DomainHVM.enableMonitor (xen : Xenctrl) (strerror : Int → String) (s : Control) :
    ControlResult (Sring × Nat) :=
  let ring := xen.monitorRing s.calls
  let (errno, s) := xcCall xen .monitorEnable s
  (if errno = 0 then .ok ring
   else if errno = eBusy then .error ⟨"Monitoring is already active for this domain!", none⟩
   else if errno = eNoDev then .error ⟨"This domain does not support EPT!", none⟩
   else .error ⟨"Failed to enable monitoring: " ++ strerror errno, none⟩, s)

/-! ### vCPU-checked controls -/

/-- `"enable"` or `"disable"`. -/
def enableWord (enable : Bool) : String := if enable then "enable" else "disable"

/-- The shape of `set_debugging` and `set_single_step`: a vCPU past the `max_vcpu_id` Xen reports
throws before any call, naming the vCPU and the domain; otherwise one checked call. -/
def vcpuCheckedCall (xen : Xenctrl) (what : String) (enable : Bool) (vcpuId : VcpuId)
    (call : XcCall) (msg : String) (s : Control) : ControlResult Unit :=
  if vcpuId > (xen.dominfo s.calls).maxVcpuId then
    (.error ⟨"Tried to " ++ enableWord enable ++ " " ++ what ++ " for nonexistent VCPU " ++
      toString vcpuId.toNat ++ " on domain " ++ toString s.domid, none⟩, s)
  else checkedCall xen call msg s

/-- `Domain::set_debugging(enable, vcpu_id)`. -/
def Domain.setDebugging (xen : Xenctrl) (enable : Bool) (vcpuId : VcpuId) (s : Control) :
    ControlResult Unit :=
  vcpuCheckedCall xen "debugging" enable vcpuId (.domainSetdebugging enable)
    (domainMessage "Failed to enable debugging on domain " s) s

/-- `DomainHVM::set_debugging(enable, vcpu_id)`, the same as `Domain`'s. -/
def DomainHVM.setDebugging (xen : Xenctrl) (enable : Bool) (vcpuId : VcpuId) (s : Control) :
    ControlResult Unit :=
  vcpuCheckedCall xen "debugging" enable vcpuId (.domainSetdebugging enable)
    (domainMessage "Failed to enable debugging on domain " s) s

/-- `DomainHVM::set_single_step(enable, vcpu_id)`. -/
def DomainHVM.setSingleStep (xen : Xenctrl) (enable : Bool) (vcpuId : VcpuId) (s : Control) :
    ControlResult Unit :=
  let op := if enable then xenDomctlDebugOpSingleStepOn else xenDomctlDebugOpSingleStepOff
  vcpuCheckedCall xen "single-step mode" enable vcpuId (.domainDebugControl op vcpuId)
    ("Failed to " ++ enableWord enable ++ " single-step mode for VCPU " ++ toString vcpuId.toNat ++
      " on domain " ++ toString s.domid) s

/-! ### Runs of the control plane -/

/-- The public operations of the control plane modelled here, with their arguments. -/
inductive ControlOp where
  | pause
  | unpause
  | shutdown (reason : Int)
  | destroy
  | getMaxGpfn
  | setMemAccess (access : MemAccess) (startAddress size : BitVec 64)
  | getMemAccess (address : BitVec 64)
  | setDebugging (enable : Bool) (vcpuId : VcpuId)
  | setDebuggingHvm (enable : Bool) (vcpuId : VcpuId)
  | setSingleStep (enable : Bool) (vcpuId : VcpuId)
  | setAccessRequired (required : Bool)
  | enableMonitor (strerror : Int → String)

/-- The state an operation leaves, whether it returned or threw. -/
def ControlOp.run (xen : Xenctrl) : ControlOp → Control → Control
  | .pause, s => (Domain.pause xen s).2
  | .unpause, s => (Domain.unpause xen s).2
  | .shutdown reason, s => (Domain.shutdown xen reason s).2
  | .destroy, s => (Domain.destroy xen s).2
  | .getMaxGpfn, s => (Domain.getMaxGpfn xen s).2
  | .setMemAccess access startAddress size, s =>
    (Domain.setMemAccess xen access startAddress size s).2
  | .getMemAccess address, s => (Domain.getMemAccess xen address s).2
  | .setDebugging enable vcpuId, s => (Domain.setDebugging xen enable vcpuId s).2
  | .setDebuggingHvm enable vcpuId, s => (DomainHVM.setDebugging xen enable vcpuId s).2
  | .setSingleStep enable vcpuId, s => (DomainHVM.setSingleStep xen enable vcpuId s).2
  | .setAccessRequired required, s => (Domain.setAccessRequired xen required s).2
  | .enableMonitor strerror, s => (DomainHVM.enableMonitor xen strerror s).2

/-- The states a run of operations reaches from `s₀`, under the same Xen. -/
inductive ControlRun (xen : Xenctrl) (s₀ : Control) : Control → Prop
  | start : ControlRun xen s₀ s₀
  | step {s : Control} (op : ControlOp) : ControlRun xen s₀ s → ControlRun xen s₀ (op.run xen s)

/-- Every `xc_domain_destroy` in a log comes right after an `xc_domain_shutdown(SHUTDOWN_poweroff)`
that returned 0. -/
def DestroyGuarded (log : CallLog) : Prop :=
  (∀ c ∈ log.head?, c.1 ≠ .domainDestroy) ∧
    log.Chain' fun a b => b.1 = .domainDestroy → a = (.domainShutdown shutdownPoweroff, 0)

theorem DestroyGuarded.append {l₁ l₂ : CallLog} (h₁ : DestroyGuarded l₁) (h₂ : DestroyGuarded l₂) :
    DestroyGuarded (l₁ ++ l₂) := by
  refine ⟨fun c hc => ?_, h₁.2.append h₂.2 fun _ _ y hy hd => absurd hd (h₂.1 y hy)⟩
  cases l₁ with
  | nil => exact h₂.1 c hc
  | cons a l₁ => exact h₁.1 c hc

theorem destroyGuarded_nil : DestroyGuarded [] := ⟨fun _ h => by simp at h, List.chain'_nil⟩

theorem destroyGuarded_single {c : XcCall} (rc : Int) (h : c ≠ .domainDestroy) :
    DestroyGuarded [(c, rc)] :=
  ⟨fun _ hc => by cases hc; exact h, List.chain'_singleton _⟩

/-- `s'` is `s` with calls added to the log that keep every destroy guarded. -/
def AddsGuarded (s s' : Control) : Prop := ∃ new, s'.calls = s.calls ++ new ∧ DestroyGuarded new

theorem AddsGuarded.refl (s : Control) : AddsGuarded s s :=
  ⟨[], (List.append_nil _).symm, destroyGuarded_nil⟩

section Guarded

variable (xen : Xenctrl) (s : Control)

theorem addsGuarded_checkedCall {call : XcCall} (msg : String) (h : call ≠ .domainDestroy) :
    AddsGuarded s (checkedCall xen call msg s).2 :=
  ⟨_, rfl, destroyGuarded_single _ h⟩

/-- A call made only when a check on the state fails, the shape of `pause`, `unpause` and the
vCPU-checked controls. -/
theorem addsGuarded_ite_checkedCall (c : Prop) [Decidable c] (r : Except XenException Unit)
    {call : XcCall} (msg : String) (h : call ≠ .domainDestroy) :
    AddsGuarded s (if c then (r, s) else checkedCall xen call msg s).2 := by
  split
  · exact AddsGuarded.refl s
  · exact addsGuarded_checkedCall xen s msg h

/-- `destroy` adds the shutdown, and the destroy only after a shutdown that returned 0. -/
theorem addsGuarded_destroy : AddsGuarded s (Domain.destroy xen s).2 := by
  unfold Domain.destroy Domain.shutdown checkedCall xcCall
  by_cases h0 : xen.rc s.calls (.domainShutdown shutdownPoweroff) = 0
  · refine ⟨[(.domainShutdown shutdownPoweroff, 0), (.domainDestroy,
      xen.rc (s.calls ++ [(.domainShutdown shutdownPoweroff, 0)]) .domainDestroy)], by simp [h0],
      fun _ hc => by cases hc; decide, List.chain'_pair.mpr fun _ => rfl⟩
  · exact ⟨[(.domainShutdown shutdownPoweroff, xen.rc s.calls (.domainShutdown shutdownPoweroff))],
      by simp [h0], destroyGuarded_single _ (by decide)⟩

theorem getMaxGpfn_state :
    (Domain.getMaxGpfn xen s).2 =
      (checkedCall xen .domainMaximumGpfn (domainMessage "Failed to destroy domain " s) s).2 := by
  unfold Domain.getMaxGpfn
  split <;> next _ _ h => rw [h]

/-- Every operation adds calls that keep every destroy guarded. -/
theorem ControlOp.addsGuarded (op : ControlOp) : AddsGuarded s (op.run xen s) := by
  cases op with
  | pause => exact addsGuarded_ite_checkedCall xen s _ _ _ nofun
  | unpause => exact addsGuarded_ite_checkedCall xen s _ _ _ nofun
  | shutdown reason => exact addsGuarded_checkedCall xen s _ nofun
  | destroy => exact addsGuarded_destroy xen s
  | getMaxGpfn =>
    rw [ControlOp.run, getMaxGpfn_state]
    exact addsGuarded_checkedCall xen s _ nofun
  | setMemAccess access startAddress size => exact addsGuarded_checkedCall xen s _ nofun
  | getMemAccess address => exact ⟨_, rfl, destroyGuarded_single _ nofun⟩
  | setDebugging enable vcpuId => exact addsGuarded_ite_checkedCall xen s _ _ _ nofun
  | setDebuggingHvm enable vcpuId => exact addsGuarded_ite_checkedCall xen s _ _ _ nofun
  | setSingleStep enable vcpuId => exact addsGuarded_ite_checkedCall xen s _ _ _ nofun
  | setAccessRequired required => exact addsGuarded_checkedCall xen s _ nofun
  | enableMonitor strerror => exact ⟨_, rfl, destroyGuarded_single _ nofun⟩

end Guarded

/-- Whatever Xen answers and whatever operations run, starting from a log in which every destroy
is guarded (an empty one, say), every `xc_domain_destroy` the control plane issues comes right
after an `xc_domain_shutdown(SHUTDOWN_poweroff)` that succeeded: no run destroys a domain it has
not just shut down. -/
theorem destroy_follows_poweroff {xen : Xenctrl} {s₀ s : Control} (h₀ : DestroyGuarded s₀.calls)
    (hrun : ControlRun xen s₀ s) : DestroyGuarded s.calls := by
  induction hrun with
  | start => exact h₀
  | step op _ ih =>
    obtain ⟨new, hcalls, hnew⟩ := op.addsGuarded xen _
    rw [hcalls]
    exact ih.append hnew

theorem destroy_follows_poweroff_destroy :
    DestroyGuarded freshControl.calls ∧
      ControlRun acceptingXen freshControl (ControlOp.destroy.run acceptingXen freshControl) ∧
      DestroyGuarded (ControlOp.destroy.run acceptingXen freshControl).calls :=
  ⟨destroyGuarded_nil, .step .destroy .start,
    destroy_follows_poweroff destroyGuarded_nil (.step .destroy .start)⟩

end Xendbg
