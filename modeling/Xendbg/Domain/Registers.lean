import Mathlib.Data.BitVec

/-! The register conversion of `DomainHVM`: `convert_regs_from_hvm` builds the `RegistersX86_64`
that `get_cpu_context` returns from Xen's saved `hvm_hw_cpu`, and `convert_regs_to_hvm` writes one
back over an old context.  `hvm_hw_cpu` comes from Xen's public `save.h` and `RegistersX86_64`
from `Registers/`, neither of which is in the repository: both keep the fields the conversions
and `get_page_table_entry` read, all `uint64_t`. -/

namespace Xendbg

/-- `struct hvm_hw_cpu`, the fields the conversions copy and the control registers that say how
the vCPU pages. -/
structure HvmHwCpu where
  rax : BitVec 64
  rbx : BitVec 64
  rcx : BitVec 64
  rdx : BitVec 64
  rsp : BitVec 64
  rbp : BitVec 64
  rsi : BitVec 64
  rdi : BitVec 64
  r8 : BitVec 64
  r9 : BitVec 64
  r10 : BitVec 64
  r11 : BitVec 64
  r12 : BitVec 64
  r13 : BitVec 64
  r14 : BitVec 64
  r15 : BitVec 64
  rip : BitVec 64
  rflags : BitVec 64
  cr0 : BitVec 64
  cr3 : BitVec 64
  cr4 : BitVec 64
  fsBase : BitVec 64
  gsBase : BitVec 64
  csBase : BitVec 64
  dsBase : BitVec 64
  ssBase : BitVec 64
  msrEfer : BitVec 64
  deriving DecidableEq, Repr, Inhabited

/-- `RegistersX86_64`: the general registers, the segment bases under the segment names, and the
control registers that `get_page_table_entry` reads. -/
structure RegistersX86_64 where
  rax : BitVec 64
  rbx : BitVec 64
  rcx : BitVec 64
  rdx : BitVec 64
  rsp : BitVec 64
  rbp : BitVec 64
  rsi : BitVec 64
  rdi : BitVec 64
  r8 : BitVec 64
  r9 : BitVec 64
  r10 : BitVec 64
  r11 : BitVec 64
  r12 : BitVec 64
  r13 : BitVec 64
  r14 : BitVec 64
  r15 : BitVec 64
  rip : BitVec 64
  rflags : BitVec 64
  fs : BitVec 64
  gs : BitVec 64
  cs : BitVec 64
  ds : BitVec 64
  ss : BitVec 64
  cr0 : BitVec 64
  cr3 : BitVec 64
  cr4 : BitVec 64
  msrEfer : BitVec 64
  deriving DecidableEq, Repr, Inhabited

/-- `DomainHVM::convert_regs_from_hvm`.  `regs` is `RegistersX86_64 regs;`, whose values before
the copies come from the class's default constructor, here `defaults`; the `GET_HVM` lines copy
the general registers, the segment bases and `cr3`. -/
def convertRegsFromHvm (defaults : RegistersX86_64) (hvm : HvmHwCpu) : RegistersX86_64 :=
  { defaults with
    rax := hvm.rax, rbx := hvm.rbx, rcx := hvm.rcx, rdx := hvm.rdx
    rsp := hvm.rsp, rbp := hvm.rbp, rsi := hvm.rsi, rdi := hvm.rdi
    r8 := hvm.r8, r9 := hvm.r9, r10 := hvm.r10, r11 := hvm.r11
    r12 := hvm.r12, r13 := hvm.r13, r14 := hvm.r14, r15 := hvm.r15
    rip := hvm.rip, rflags := hvm.rflags
    fs := hvm.fsBase, gs := hvm.gsBase, cs := hvm.csBase, ds := hvm.dsBase, ss := hvm.ssBase
    cr3 := hvm.cr3 }

/-- `DomainHVM::convert_regs_to_hvm`: the `SET_HVM` lines over the old context `hvm`. -/
def convertRegsToHvm (regs : RegistersX86_64) (hvm : HvmHwCpu) : HvmHwCpu :=
  { hvm with
    rax := regs.rax, rbx := regs.rbx, rcx := regs.rcx, rdx := regs.rdx
    rsp := regs.rsp, rbp := regs.rbp, rsi := regs.rsi, rdi := regs.rdi
    r8 := regs.r8, r9 := regs.r9, r10 := regs.r10, r11 := regs.r11
    r12 := regs.r12, r13 := regs.r13, r14 := regs.r14, r15 := regs.r15
    rip := regs.rip, rflags := regs.rflags
    fsBase := regs.fs, gsBase := regs.gs, csBase := regs.cs, dsBase := regs.ds, ssBase := regs.ss
    cr3 := regs.cr3 }

/-! ### `set_cpu_context` -/

/-- How reading or writing a vCPU's context fails: `XenException(..., -err)` after a libxc call
that returned `err`, or `set_cpu_context_raw`'s `"Not yet implemented!"`. -/
inductive ContextError where
  | getContextFailed (err : Int)
  | notYetImplemented
  deriving DecidableEq, Repr

/-- libxc's `xc_domain_hvm_getcontext_partial(..., HVM_SAVE_CODE(CPU), vcpu_id, buffer, size)`:
`current` is the vCPU's saved CPU context, or the call's nonzero result; on success the buffer
holds that context, whatever it held before. -/
def xcDomainHvmGetcontextPartial (current : Except Int HvmHwCpu) (_buffer : HvmHwCpu) :
    Except Int HvmHwCpu :=
  current

/-- `DomainHVM::get_cpu_context_raw`: the call into an uninitialised `context`, and
`XenException(..., -err)` when it fails. -/
def getCpuContextRaw (current : Except Int HvmHwCpu) : Except ContextError HvmHwCpu :=
  (xcDomainHvmGetcontextPartial current default).mapError fun err => .getContextFailed (-err)

/-- `DomainHVM::get_cpu_context`: the raw context converted; `defaults` is what a
default-constructed `RegistersX86_64` holds. -/
def getCpuContext (defaults : RegistersX86_64) (current : Except Int HvmHwCpu) :
    Except ContextError RegistersX86_64 :=
  (getCpuContextRaw current).map (convertRegsFromHvm defaults)

/-- `DomainHVM::set_cpu_context_raw`, which the source leaves unimplemented. -/
def setCpuContextRaw (_context : HvmHwCpu) : Except ContextError Unit :=
  .error .notYetImplemented

/-- The context `DomainHVM::set_cpu_context(regs, vcpu_id)` hands to `set_cpu_context_raw`: it
reads the old context, converts `regs` over it into `new_context`, and then calls
`xc_domain_hvm_getcontext_partial` with `&new_context` as the buffer, throwing as
`get_cpu_context_raw` does. -/
def setCpuContextArgument (regs : RegistersX86_64) (current : Except Int HvmHwCpu) :
    Except ContextError HvmHwCpu := do
  let oldContext ← getCpuContextRaw current
  let newContext := convertRegsToHvm regs oldContext
  (xcDomainHvmGetcontextPartial current newContext).mapError fun err => .getContextFailed (-err)

/-- `DomainHVM::set_cpu_context`. -/
def setCpuContext (regs : RegistersX86_64) (current : Except Int HvmHwCpu) :
    Except ContextError Unit := do
  setCpuContextRaw (← setCpuContextArgument regs current)

/-- A register set that differs from the all-zero context in `rax` alone. -/
def raxOneRegisters : RegistersX86_64 := { (default : RegistersX86_64) with rax := 1 }

/-- Whatever `regs` holds, `set_cpu_context` hands on the vCPU's current context `h` itself, so for
registers that change a field, such as `rax`, the context is not `convert_regs_to_hvm(regs, h)`. -/
theorem setCpuContext_hands_on_current_context :
    (∀ (regs : RegistersX86_64) (h : HvmHwCpu), setCpuContextArgument regs (.ok h) = .ok h) ∧
      setCpuContextArgument raxOneRegisters (.ok default) ≠
        .ok (convertRegsToHvm raxOneRegisters default) :=
  ⟨fun _ _ => rfl, fun h => absurd (congrArg HvmHwCpu.rax (Except.ok.inj h)) (by decide)⟩

end Xendbg
