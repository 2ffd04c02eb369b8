import Mathlib.Data.BitVec

/-! The vm_event ring that Xen and `HVMMonitor` share: the `vm_event_st` record, the constants of
Xen's `vm_event.h` that the monitor reads, and the macros of Xen's `io/ring.h` that the monitor
uses on its back ring.  Both headers come from `BridgeHeaders/`, which is not in the repository;
their definitions here follow Xen's public headers.  Cursors are `RING_IDX`, an `unsigned int`, so
they are `BitVec 32` and all their arithmetic wraps. -/

namespace Xendbg

/-- The payload of a software-breakpoint request, `struct vm_event_debug`. -/
structure VmEventDebug where
  gfn : BitVec 64
  insnLength : BitVec 32
  type : BitVec 8
  deriving DecidableEq, Repr

/-- `struct vm_event_st`, the type of both `vm_event_request_t` and `vm_event_response_t`, with the
fields the monitor reads or writes; the union `u` is seen through `u.software_breakpoint`. -/
structure VmEvent where
  version : BitVec 32
  flags : BitVec 32
  reason : BitVec 32
  vcpuId : BitVec 32
  softwareBreakpoint : VmEventDebug
  deriving DecidableEq, Repr

/-- The all-zero record that `memset(&rsp, 0, sizeof(rsp))` leaves. -/
def VmEvent.zero : VmEvent := ⟨0, 0, 0, 0, ⟨0, 0, 0⟩⟩

/-- `VM_EVENT_INTERFACE_VERSION`. -/
def vmEventInterfaceVersion : BitVec 32 := 3

/-- `VM_EVENT_FLAG_VCPU_PAUSED`, `1 << 0`. -/
def vmEventFlagVcpuPaused : BitVec 32 := 1

/-- `VM_EVENT_REASON_SOFTWARE_BREAKPOINT`. -/
def vmEventReasonSoftwareBreakpoint : BitVec 32 := 6

/-- `RING_IDX`. -/
abbrev RingIdx := BitVec 32

/-- `RING_SIZE`, the `nr_ents` of a ring: `__RING_SIZE` rounds the number of slots that fit in
the page down to a power of two, and it is stored in an `unsigned int`. -/
structure RingSize where
  log : Nat
  log_lt : log < 32

/-- The number of slots. -/
def RingSize.val (n : RingSize) : Nat := 2 ^ n.log

theorem RingSize.val_pos (n : RingSize) : 0 < n.val := Nat.two_pow_pos _

theorem RingSize.val_le (n : RingSize) : n.val ≤ 2 ^ 31 :=
  Nat.pow_le_pow_right (by decide) (by have := n.log_lt; omega)

theorem RingSize.val_dvd (n : RingSize) : n.val ∣ 2 ^ 32 :=
  Nat.pow_dvd_pow 2 (by have := n.log_lt; omega)

/-- `RING_SIZE(_r)` as the `unsigned int` the macros compute with. -/
def RingSize.idx (n : RingSize) : RingIdx := BitVec.ofNat 32 n.val

@[simp] theorem RingSize.toNat_idx (n : RingSize) : n.idx.toNat = n.val :=
  Nat.mod_eq_of_lt (by have := n.val_le; omega)

/-- The slot `RING_GET_REQUEST(_r, _idx)` and `RING_GET_RESPONSE(_r, _idx)` point at:
`_idx & (RING_SIZE(_r) - 1)`. -/
def ringSlot (n : RingSize) (i : RingIdx) : Nat := (i &&& (n.idx - 1)).toNat

theorem ringSlot_eq_mod (n : RingSize) (i : RingIdx) : ringSlot n i = i.toNat % n.val := by
  have hpos := n.val_pos
  have hle := n.val_le
  have hsub : (n.idx - 1).toNat = 2 ^ n.log - 1 := by
    have h1 : (1 : BitVec 32).toNat = 1 := rfl
    simp only [BitVec.toNat_sub, RingSize.toNat_idx, h1, RingSize.val] at *
    omega
  rw [ringSlot, BitVec.toNat_and, hsub, Nat.and_pow_two_sub_one_eq_mod, RingSize.val]

/-- A cursor that counts `k` items names the slot `k % RING_SIZE`: the ring size divides `2^32`,
so the wrap of the cursor does not move the slot. -/
theorem ringSlot_ofNat (n : RingSize) (k : Nat) : ringSlot n (BitVec.ofNat 32 k) = k % n.val := by
  rw [ringSlot_eq_mod, BitVec.toNat_ofNat, Nat.mod_mod_of_dvd _ n.val_dvd]

/-- Counts fewer than `S` apart leave different remainders by `S`. -/
theorem mod_ne_of_lt {a b S : Nat} (h0 : a < b) (hd : b < a + S) : b % S ≠ a % S := by
  intro h
  have := Nat.sub_mod_eq_zero_of_mod_eq h
  rw [Nat.mod_eq_of_lt (by omega)] at this
  omega

/-- Two cursors fewer than `RING_SIZE` apart name different slots. -/
theorem ringSlot_ne (n : RingSize) {x y : RingIdx} (h0 : 0 < (y - x).toNat)
    (hd : (y - x).toNat < n.val) : ringSlot n y ≠ ringSlot n x := by
  have hle := n.val_le
  have hy : y.toNat = (x.toNat + (y - x).toNat) % 2 ^ 32 := by
    simp only [BitVec.toNat_sub]; omega
  rw [ringSlot_eq_mod, ringSlot_eq_mod, hy, Nat.mod_mod_of_dvd _ n.val_dvd]
  exact mod_ne_of_lt (by omega) (by omega)

/-- The shared page, `vm_event_sring_t`: the four public cursors and the slots, each holding a
request or a response (the union has one layout, `vm_event_st`). -/
structure Sring where
  reqProd : RingIdx
  reqEvent : RingIdx
  rspProd : RingIdx
  rspEvent : RingIdx
  ring : Nat → VmEvent

/-- The consumer's private side of the ring, `vm_event_back_ring_t`; its `sring` is the page of
the state it sits in. -/
structure BackRing where
  rspProdPvt : RingIdx
  reqCons : RingIdx
  nrEnts : RingSize

/-- Xen's producer side of the ring, `vm_event_front_ring_t`. -/
structure FrontRing where
  reqProdPvt : RingIdx
  rspCons : RingIdx
  nrEnts : RingSize

/-- `SHARED_RING_INIT(s)`: both producer cursors at 0 and both event thresholds at 1; the slots
keep whatever the page held. -/
def sharedRingInit (s : Sring) : Sring :=
  { s with reqProd := 0, rspProd := 0, reqEvent := 1, rspEvent := 1 }

/-- `BACK_RING_INIT(r, s, size)`. -/
def backRingInit (n : RingSize) : BackRing := ⟨0, 0, n⟩

/-- `FRONT_RING_INIT(r, s, size)`, done by Xen when monitoring is enabled. -/
def frontRingInit (n : RingSize) : FrontRing := ⟨0, 0, n⟩

/-- `RING_HAS_UNCONSUMED_REQUESTS(r)`: the published requests not yet consumed, bounded by the
free room for responses `RING_SIZE(r) - (req_cons - rsp_prod_pvt)`. -/
def ringHasUnconsumedRequests (r : BackRing) (s : Sring) : RingIdx :=
  let req := s.reqProd - r.reqCons
  let rsp := r.nrEnts.idx - (r.reqCons - r.rspProdPvt)
  if req < rsp then req else rsp

/-- `RING_HAS_UNCONSUMED_RESPONSES(r)`, on Xen's front ring. -/
def ringHasUnconsumedResponses (r : FrontRing) (s : Sring) : RingIdx := s.rspProd - r.rspCons

/-- `RING_FREE_REQUESTS(r)`, on Xen's front ring: the slots neither holding a request nor a
response Xen has not consumed. -/
def ringFreeRequests (r : FrontRing) : RingIdx := r.nrEnts.idx - (r.reqProdPvt - r.rspCons)

/-- One slot of the page overwritten. -/
def Sring.write (s : Sring) (slot : Nat) (e : VmEvent) : Sring :=
  { s with ring := Function.update s.ring slot e }

theorem Sring.write_ring (s : Sring) (i j : Nat) (e : VmEvent) :
    (s.write i e).ring j = if j = i then e else s.ring j := by
  simp only [Sring.write, Function.update_apply]

/-! ### Cursor arithmetic

The cursors are the low 32 bits of counts that grow without bound.  These lemmas move between a
cursor and the count it stands for. -/

theorem ofNat_succ (k : Nat) : BitVec.ofNat 32 k + 1 = BitVec.ofNat 32 (k + 1) := by
  rw [BitVec.ofNat_add]; rfl

/-- The distance between two cursors is the distance between their counts while it stays below
`2^32`. -/
theorem toNat_ofNat_sub {a b : Nat} (hba : b ≤ a) (h : a - b < 2 ^ 32) :
    (BitVec.ofNat 32 a - BitVec.ofNat 32 b).toNat = a - b := by
  simp only [BitVec.toNat_sub, BitVec.toNat_ofNat]
  omega

end Xendbg
