import Xendbg.Ring

/-! `HVMMonitor::get_request`, `put_response` and `read_events`: the loop that drains the vm_event
ring when Xen signals the event channel.  `readEvents` follows the source's `while` loop over the
ring state; `drain` says what the loop does with the pending requests taken as a list, and
`readEvents_drain` shows that the loop computes it whenever the ring is in a state Xen can leave it
in (`Drainable`). -/

namespace Xendbg

/-- `X86_TRAP_INT3`. -/
def x86TrapInt3 : BitVec 8 := 3

/-- A call the monitor makes, in the order it makes them. -/
inductive Call where
  | getRequest (req : VmEvent)
  | injectEvent (vcpu : BitVec 32) (vector type : BitVec 8) (errorCode : Int)
      (insnLength : BitVec 32) (extra : BitVec 64)
  | onSoftwareBreakpoint (req : VmEvent)
  | putResponse (rsp : VmEvent)
  deriving DecidableEq, Repr

/-- What the monitor's collaborators do: `_xendevicemodel.inject_event` and the callback set by
`on_software_breakpoint` return or raise, and whether they raise may depend on every call made so
far, this one included.  `onSoftwareBreakpoint` is `none` while no callback is set. -/
structure Collaborators where
  injectEventRaises : List Call → Bool
  onSoftwareBreakpoint : Option (List Call → Bool)

/-- Collaborators that never raise. -/
structure Collaborators.Quiet (c : Collaborators) : Prop where
  inject : ∀ h, c.injectEventRaises h = false
  callback : ∀ f, c.onSoftwareBreakpoint = some f → ∀ h, f h = false

/-- The monitor's side of the ring: its back ring, the shared page, and the calls made so far. -/
structure Monitor where
  backRing : BackRing
  sring : Sring
  calls : List Call

/-- `HVMMonitor::get_request`: copy the request at `req_cons`, advance `req_cons`, and ask Xen
to notify once the next request is published. -/
def getRequest (m : Monitor) : VmEvent × Monitor :=
  let reqCons := m.backRing.reqCons
  let req := m.sring.ring (ringSlot m.backRing.nrEnts reqCons)
  let reqCons := reqCons + 1
  (req, { backRing := { m.backRing with reqCons }
          sring := { m.sring with reqEvent := reqCons + 1 }
          calls := m.calls ++ [.getRequest req] })

/-- `HVMMonitor::put_response`: copy the response to `rsp_prod_pvt`, advance it, and publish it
with `RING_PUSH_RESPONSES`. -/
def putResponse (rsp : VmEvent) (m : Monitor) : Monitor :=
  let rspProd := m.backRing.rspProdPvt
  let sring := m.sring.write (ringSlot m.backRing.nrEnts rspProd) rsp
  let rspProd := rspProd + 1
  { backRing := { m.backRing with rspProdPvt := rspProd }
    sring := { sring with rspProd := rspProd }
    calls := m.calls ++ [.putResponse rsp] }

/-- The response `read_events` builds for `req`: zeroed, with the interface version, and with the
vCPU, the paused flag and the reason of the request. -/
def responseOf (req : VmEvent) : VmEvent :=
  { VmEvent.zero with
    version := vmEventInterfaceVersion
    vcpuId := req.vcpuId
    flags := req.flags &&& vmEventFlagVcpuPaused
    reason := req.reason }

/-- The `switch (req.reason)` of `read_events`: a software breakpoint is injected back into the
guest as `INT3` and handed to the callback, if one is set; the other reasons are only
acknowledged.  The result is the calls made, or the calls up to the one that raised. -/
def dispatch (c : Collaborators) (req : VmEvent) (calls : List Call) :
    Except (List Call) (List Call) :=
  if req.reason = vmEventReasonSoftwareBreakpoint then
    let calls := calls ++ [.injectEvent req.vcpuId x86TrapInt3 req.softwareBreakpoint.type (-1)
      req.softwareBreakpoint.insnLength 0]
    if c.injectEventRaises calls then .error calls
    else match c.onSoftwareBreakpoint with
      | some raises =>
        let calls := calls ++ [.onSoftwareBreakpoint req]
        if raises calls then .error calls else .ok calls
      | none => .ok calls
  else .ok calls

/-- The number of published requests not yet consumed, the first term of
`RING_HAS_UNCONSUMED_REQUESTS`. -/
def Monitor.unconsumed (m : Monitor) : Nat := (m.sring.reqProd - m.backRing.reqCons).toNat

theorem ringHasUnconsumedRequests_ne_zero {r : BackRing} {s : Sring}
    (h : ringHasUnconsumedRequests r s ≠ 0) : s.reqProd - r.reqCons ≠ 0 := by
  unfold ringHasUnconsumedRequests at h
  dsimp only at h
  split at h
  · exact h
  · rename_i hlt
    intro h0
    rw [h0, BitVec.lt_def] at hlt
    have h00 : (0 : BitVec 32).toNat = 0 := rfl
    exact h (BitVec.eq_of_toNat_eq (by omega))

@[simp] theorem getRequest_backRing_nrEnts (m : Monitor) :
    (getRequest m).2.backRing.nrEnts = m.backRing.nrEnts := rfl

@[simp] theorem getRequest_reqCons (m : Monitor) :
    (getRequest m).2.backRing.reqCons = m.backRing.reqCons + 1 := rfl

@[simp] theorem getRequest_rspProdPvt (m : Monitor) :
    (getRequest m).2.backRing.rspProdPvt = m.backRing.rspProdPvt := rfl

@[simp] theorem getRequest_reqProd (m : Monitor) :
    (getRequest m).2.sring.reqProd = m.sring.reqProd := rfl

@[simp] theorem getRequest_ring (m : Monitor) : (getRequest m).2.sring.ring = m.sring.ring := rfl

@[simp] theorem getRequest_calls (m : Monitor) :
    (getRequest m).2.calls = m.calls ++ [.getRequest (getRequest m).1] := rfl

@[simp] theorem putResponse_backRing_nrEnts (rsp : VmEvent) (m : Monitor) :
    (putResponse rsp m).backRing.nrEnts = m.backRing.nrEnts := rfl

@[simp] theorem putResponse_reqCons (rsp : VmEvent) (m : Monitor) :
    (putResponse rsp m).backRing.reqCons = m.backRing.reqCons := rfl

@[simp] theorem putResponse_rspProdPvt (rsp : VmEvent) (m : Monitor) :
    (putResponse rsp m).backRing.rspProdPvt = m.backRing.rspProdPvt + 1 := rfl

@[simp] theorem putResponse_reqProd (rsp : VmEvent) (m : Monitor) :
    (putResponse rsp m).sring.reqProd = m.sring.reqProd := rfl

@[simp] theorem putResponse_rspProd (rsp : VmEvent) (m : Monitor) :
    (putResponse rsp m).sring.rspProd = m.backRing.rspProdPvt + 1 := rfl

@[simp] theorem putResponse_calls (rsp : VmEvent) (m : Monitor) :
    (putResponse rsp m).calls = m.calls ++ [.putResponse rsp] := rfl

theorem putResponse_ring (rsp : VmEvent) (m : Monitor) (j : Nat) :
    (putResponse rsp m).sring.ring j =
      if j = ringSlot m.backRing.nrEnts m.backRing.rspProdPvt then rsp else m.sring.ring j :=
  Sring.write_ring _ _ _ _

/-- Each request consumed brings the unconsumed count down by one. -/
theorem unconsumed_getRequest {m : Monitor} (h : m.sring.reqProd - m.backRing.reqCons ≠ 0) :
    (getRequest m).2.unconsumed + 1 = m.unconsumed := by
  have h0 : (m.sring.reqProd - m.backRing.reqCons).toNat ≠ 0 := fun h' =>
    h (BitVec.eq_of_toNat_eq (by simpa using h'))
  have h1 : (1 : BitVec 32).toNat = 1 := rfl
  simp only [Monitor.unconsumed, getRequest_reqProd, getRequest_reqCons, BitVec.toNat_sub,
    BitVec.toNat_add, h1] at h0 ⊢
  omega

/-- `HVMMonitor::read_events`: while `RING_HAS_UNCONSUMED_REQUESTS`, take a request, build its
response, skip to the next request when the version is not `VM_EVENT_INTERFACE_VERSION`
(`continue`), dispatch on the reason, and put the response.  An exception from a collaborator
leaves the loop with the state it had then. -/
def readEvents (c : Collaborators) (m : Monitor) : Except Monitor Monitor :=
  if _hmore : ringHasUnconsumedRequests m.backRing m.sring ≠ 0 then
    let req := (getRequest m).1
    let m₁ := (getRequest m).2
    if req.version ≠ vmEventInterfaceVersion then readEvents c m₁
    else match dispatch c req m₁.calls with
      | .error calls => .error { m₁ with calls }
      | .ok calls => readEvents c (putResponse (responseOf req) { m₁ with calls })
  else .ok m
termination_by m.unconsumed
decreasing_by
  all_goals
    have := unconsumed_getRequest (ringHasUnconsumedRequests_ne_zero _hmore)
    simp only [Monitor.unconsumed, putResponse_reqProd, putResponse_reqCons] at this ⊢
    omega

/-! ### One iteration of the loop -/

section Loop

variable (c : Collaborators) {m : Monitor}

theorem readEvents_stop (h : ringHasUnconsumedRequests m.backRing m.sring = 0) :
    readEvents c m = .ok m := by
  rw [readEvents]; simp [h]

theorem readEvents_skip (h : ringHasUnconsumedRequests m.backRing m.sring ≠ 0)
    (hv : (getRequest m).1.version ≠ vmEventInterfaceVersion) :
    readEvents c m = readEvents c (getRequest m).2 := by
  rw [readEvents, dif_pos h]; exact if_pos hv

theorem readEvents_raise (h : ringHasUnconsumedRequests m.backRing m.sring ≠ 0)
    (hv : (getRequest m).1.version = vmEventInterfaceVersion) {calls : List Call}
    (hd : dispatch c (getRequest m).1 (getRequest m).2.calls = .error calls) :
    readEvents c m = .error { (getRequest m).2 with calls } := by
  rw [readEvents, dif_pos h]; dsimp only; rw [if_neg (not_not.mpr hv), hd]

theorem readEvents_respond (h : ringHasUnconsumedRequests m.backRing m.sring ≠ 0)
    (hv : (getRequest m).1.version = vmEventInterfaceVersion) {calls : List Call}
    (hd : dispatch c (getRequest m).1 (getRequest m).2.calls = .ok calls) :
    readEvents c m =
      readEvents c (putResponse (responseOf (getRequest m).1) { (getRequest m).2 with calls }) := by
  rw [readEvents, dif_pos h]; dsimp only; rw [if_neg (not_not.mpr hv), hd]

end Loop

/-! ### The ring as Xen leaves it -/

/-- The requests published and not yet consumed, oldest first. -/
def Monitor.pending (m : Monitor) : List VmEvent :=
  (List.range m.unconsumed).map fun i =>
    m.sring.ring (ringSlot m.backRing.nrEnts (m.backRing.reqCons + BitVec.ofNat 32 i))

/-- The ring as Xen can leave it for `read_events`: `req_cons` lies between `rsp_prod_pvt` and
`req_prod`, and no more than `RING_SIZE` requests are published past the first one not answered.
The lengths are read from `rsp_prod_pvt`, so they survive the wrap of the cursors. -/
structure Monitor.Drainable (m : Monitor) : Prop where
  cons_le : (m.backRing.reqCons - m.backRing.rspProdPvt).toNat ≤
    (m.sring.reqProd - m.backRing.rspProdPvt).toNat
  prod_le : (m.sring.reqProd - m.backRing.rspProdPvt).toNat ≤ m.backRing.nrEnts.val

namespace Monitor.Drainable

variable {m : Monitor} (hm : m.Drainable)
include hm

/-- Room for responses never runs out first: `RING_HAS_UNCONSUMED_REQUESTS` is the number of
unconsumed requests. -/
theorem hasUnconsumed_eq :
    ringHasUnconsumedRequests m.backRing m.sring = m.sring.reqProd - m.backRing.reqCons := by
  have h1 := hm.cons_le
  have h2 := hm.prod_le
  have hle := m.backRing.nrEnts.val_le
  unfold ringHasUnconsumedRequests
  dsimp only
  split
  · rfl
  · rename_i hlt
    rw [BitVec.lt_def] at hlt
    apply BitVec.eq_of_toNat_eq
    simp only [BitVec.toNat_sub, RingSize.toNat_idx] at h1 h2 hlt ⊢
    omega

theorem unconsumed_eq_zero (h : ringHasUnconsumedRequests m.backRing m.sring = 0) :
    m.unconsumed = 0 := by
  rw [hm.hasUnconsumed_eq] at h
  simp [Monitor.unconsumed, h]

theorem getRequest (h : ringHasUnconsumedRequests m.backRing m.sring ≠ 0) :
    (Xendbg.getRequest m).2.Drainable := by
  have h1 := hm.cons_le
  have h2 := hm.prod_le
  have hne := unconsumed_getRequest (ringHasUnconsumedRequests_ne_zero h)
  have hone : (1 : BitVec 32).toNat = 1 := rfl
  simp only [Monitor.unconsumed, getRequest_reqProd, getRequest_reqCons] at hne
  constructor <;>
    simp only [getRequest_reqProd, getRequest_reqCons, getRequest_rspProdPvt,
      getRequest_backRing_nrEnts, BitVec.toNat_sub, BitVec.toNat_add, hone] at h1 h2 hne ⊢ <;>
    omega

/-- A response put for a request already consumed keeps the ring drainable. -/
theorem putResponse (rsp : VmEvent) (hc : 0 < (m.backRing.reqCons - m.backRing.rspProdPvt).toNat) :
    (Xendbg.putResponse rsp m).Drainable := by
  have h1 := hm.cons_le
  have h2 := hm.prod_le
  have hone : (1 : BitVec 32).toNat = 1 := rfl
  constructor <;>
    simp only [putResponse_reqProd, putResponse_reqCons, putResponse_rspProdPvt,
      putResponse_backRing_nrEnts, BitVec.toNat_sub, BitVec.toNat_add, hone] at h1 h2 hc ⊢ <;>
    omega

/-- The slot a response goes to holds no unconsumed request. -/
theorem pending_putResponse (rsp : VmEvent)
    (hc : 0 < (m.backRing.reqCons - m.backRing.rspProdPvt).toNat) :
    (Xendbg.putResponse rsp m).pending = m.pending := by
  simp only [Monitor.pending, Monitor.unconsumed, putResponse_reqProd, putResponse_reqCons,
    putResponse_backRing_nrEnts]
  refine List.map_congr_left fun i hi => ?_
  rw [putResponse_ring, if_neg]
  have h1 := hm.cons_le
  have h2 := hm.prod_le
  have hle := m.backRing.nrEnts.val_le
  rw [List.mem_range] at hi
  apply ringSlot_ne
  all_goals simp only [BitVec.toNat_sub, BitVec.toNat_add, BitVec.toNat_ofNat] at h1 h2 hc hi ⊢
  all_goals omega

end Monitor.Drainable

theorem pending_cons {m : Monitor} (h : m.sring.reqProd - m.backRing.reqCons ≠ 0) :
    m.pending = (getRequest m).1 :: (getRequest m).2.pending := by
  have hne := unconsumed_getRequest h
  simp only [Monitor.pending, ← hne, List.range_succ_eq_map, List.map_cons, List.map_map]
  congr 1
  · simp [getRequest]
  · refine List.map_congr_left fun i _ => ?_
    simp only [Function.comp, getRequest_ring, getRequest_backRing_nrEnts, getRequest_reqCons]
    congr 2
    rw [BitVec.add_assoc, BitVec.add_comm 1, ofNat_succ]

theorem pending_eq_nil {m : Monitor} (h : m.unconsumed = 0) : m.pending = [] := by
  simp [Monitor.pending, h]

/-! ### What the loop does with the pending requests -/

/-- What `read_events` does with the requests `reqs`, oldest first, when only the requests bound
the loop: the calls it makes, or the calls up to the one that raised. -/
def drain (c : Collaborators) : List VmEvent → List Call → Except (List Call) (List Call)
  | [], calls => .ok calls
  | req :: reqs, calls =>
    let calls := calls ++ [.getRequest req]
    if req.version ≠ vmEventInterfaceVersion then drain c reqs calls
    else match dispatch c req calls with
      | .error calls => .error calls
      | .ok calls => drain c reqs (calls ++ [.putResponse (responseOf req)])

/-- The calls made by a run of `read_events`, whether it returned or raised. -/
def outcomeCalls : Except Monitor Monitor → Except (List Call) (List Call)
  | .ok m => .ok m.calls
  | .error m => .error m.calls

/-- The monitor's state when `read_events` returned or raised. -/
def outcomeState : Except Monitor Monitor → Monitor
  | .ok m | .error m => m

/-- On a drainable ring, `read_events` makes the calls of `drain` over the pending requests. -/
theorem readEvents_drain (c : Collaborators) {m : Monitor} (hm : m.Drainable) :
    outcomeCalls (readEvents c m) = drain c m.pending m.calls := by
  induction m using readEvents.induct c with
  | case1 m h req m₁ hv ih =>
    rw [readEvents_skip c h hv, ih (hm.getRequest h),
      pending_cons (ringHasUnconsumedRequests_ne_zero h), drain, if_pos hv]
    rfl
  | case2 m h req m₁ hv calls hd =>
    have hv' : req.version = vmEventInterfaceVersion := not_not.mp hv
    rw [readEvents_raise c h hv' hd, pending_cons (ringHasUnconsumedRequests_ne_zero h), drain,
      if_neg hv]
    simp only [← getRequest_calls, hd]
    rfl
  | case3 m h req m₁ hv calls hd ih =>
    have hv' : req.version = vmEventInterfaceVersion := not_not.mp hv
    have hm₁ := hm.getRequest h
    have hc :
        0 < ((getRequest m).2.backRing.reqCons - (getRequest m).2.backRing.rspProdPvt).toNat := by
      have h1 := hm.cons_le
      have h2 := hm.prod_le
      have hne := unconsumed_getRequest (ringHasUnconsumedRequests_ne_zero h)
      have hone : (1 : BitVec 32).toNat = 1 := rfl
      simp only [Monitor.unconsumed, getRequest_reqProd, getRequest_reqCons, getRequest_rspProdPvt,
        BitVec.toNat_sub, BitVec.toNat_add, hone] at h1 h2 hne ⊢
      omega
    have hm₂ : Monitor.Drainable { (getRequest m).2 with calls } := ⟨hm₁.cons_le, hm₁.prod_le⟩
    rw [readEvents_respond c h hv' hd, ih (hm₂.putResponse _ hc), hm₂.pending_putResponse _ hc,
      pending_cons (ringHasUnconsumedRequests_ne_zero h), drain, if_neg hv]
    simp only [← getRequest_calls, hd]
    rfl
  | case4 m h =>
    rw [readEvents_stop c (not_not.mp h), pending_eq_nil (hm.unconsumed_eq_zero (not_not.mp h))]
    rfl

/-! ### Cursors after the loop -/

/-- Whether a call is a `get_request`. -/
def Call.isGetRequest : Call → Bool
  | .getRequest _ => true
  | _ => false

/-- `req_cons` less the number of `get_request` calls made; `read_events` keeps it. -/
def Monitor.consBase (m : Monitor) : RingIdx :=
  m.backRing.reqCons - BitVec.ofNat 32 (m.calls.countP Call.isGetRequest)

/-- The `switch` adds no `get_request` call, whether it returns or raises. -/
theorem dispatch_countGets (c : Collaborators) (req : VmEvent) {calls l : List Call}
    (h : dispatch c req calls = .ok l ∨ dispatch c req calls = .error l) :
    l.countP Call.isGetRequest = calls.countP Call.isGetRequest := by
  unfold dispatch at h
  dsimp only at h
  repeat' split at h
  all_goals obtain h | h := h <;> cases h
  all_goals simp [Call.isGetRequest]

theorem consBase_getRequest (m : Monitor) : (getRequest m).2.consBase = m.consBase := by
  apply BitVec.eq_of_toNat_eq
  have hone : (1 : BitVec 32).toNat = 1 := rfl
  simp only [Monitor.consBase, getRequest_reqCons, getRequest_calls, List.countP_append,
    BitVec.toNat_sub, BitVec.toNat_add, BitVec.toNat_ofNat, hone]
  simp only [List.countP_cons, List.countP_nil, Call.isGetRequest, if_true]
  omega

theorem consBase_putResponse (rsp : VmEvent) (m : Monitor) :
    (putResponse rsp m).consBase = m.consBase := by
  simp [Monitor.consBase, Call.isGetRequest]

/-- `read_events` advances `req_cons` once for each `get_request` call. -/
theorem readEvents_consBase (c : Collaborators) (m : Monitor) :
    (outcomeState (readEvents c m)).consBase = m.consBase := by
  induction m using readEvents.induct c with
  | case1 m h req m₁ hv ih => rw [readEvents_skip c h hv, ih, consBase_getRequest]
  | case2 m h req m₁ hv calls hd =>
    rw [readEvents_raise c h (not_not.mp hv) hd, ← consBase_getRequest m]
    simp only [outcomeState, Monitor.consBase, dispatch_countGets c _ (.inr hd)]
  | case3 m h req m₁ hv calls hd ih =>
    rw [readEvents_respond c h (not_not.mp hv) hd, ih, consBase_putResponse,
      ← consBase_getRequest m]
    simp only [Monitor.consBase, dispatch_countGets c _ (.inl hd)]
  | case4 m h => rw [readEvents_stop c (not_not.mp h)]; rfl

/-- `read_events` does not move `req_prod`. -/
theorem readEvents_reqProd (c : Collaborators) (m : Monitor) :
    (outcomeState (readEvents c m)).sring.reqProd = m.sring.reqProd := by
  induction m using readEvents.induct c with
  | case1 m h req m₁ hv ih => rw [readEvents_skip c h hv, ih, getRequest_reqProd]
  | case2 m h req m₁ hv calls hd => rw [readEvents_raise c h (not_not.mp hv) hd]; rfl
  | case3 m h req m₁ hv calls hd ih =>
    rw [readEvents_respond c h (not_not.mp hv) hd, ih, putResponse_reqProd]; rfl
  | case4 m h => rw [readEvents_stop c (not_not.mp h)]; rfl

/-! ### Collaborators that never raise -/

/-- The calls the `switch` makes for `req` when no collaborator raises. -/
def dispatchCalls (c : Collaborators) (req : VmEvent) : List Call :=
  if req.reason = vmEventReasonSoftwareBreakpoint then
    .injectEvent req.vcpuId x86TrapInt3 req.softwareBreakpoint.type (-1)
      req.softwareBreakpoint.insnLength 0 ::
      if c.onSoftwareBreakpoint.isSome then [.onSoftwareBreakpoint req] else []
  else []

/-- The calls `read_events` makes for one request when no collaborator raises. -/
def requestCalls (c : Collaborators) (req : VmEvent) : List Call :=
  .getRequest req :: if req.version = vmEventInterfaceVersion then
    dispatchCalls c req ++ [.putResponse (responseOf req)] else []

theorem Collaborators.Quiet.dispatch {c : Collaborators} (hc : c.Quiet) (req : VmEvent)
    (calls : List Call) : dispatch c req calls = .ok (calls ++ dispatchCalls c req) := by
  unfold Xendbg.dispatch dispatchCalls
  split
  · rw [if_neg (by simp [hc.inject])]
    cases hcb : c.onSoftwareBreakpoint with
    | none => simp
    | some f => simp [hc.callback f hcb]
  · simp

theorem Collaborators.Quiet.drain {c : Collaborators} (hc : c.Quiet) (reqs : List VmEvent)
    (calls : List Call) : drain c reqs calls = .ok (calls ++ reqs.flatMap (requestCalls c)) := by
  induction reqs generalizing calls with
  | nil => simp [Xendbg.drain]
  | cons req reqs ih =>
    by_cases hv : req.version = vmEventInterfaceVersion
    · simp [Xendbg.drain, hv, hc.dispatch, ih, requestCalls]
    · simp [Xendbg.drain, hv, ih, requestCalls]

theorem countGets_requestCalls (c : Collaborators) (req : VmEvent) :
    (requestCalls c req).countP Call.isGetRequest = 1 := by
  unfold requestCalls dispatchCalls
  split <;> [split <;> [split; skip]; skip] <;> simp [Call.isGetRequest]

theorem countGets_flatMap_requestCalls (c : Collaborators) (reqs : List VmEvent) :
    (reqs.flatMap (requestCalls c)).countP Call.isGetRequest = reqs.length := by
  induction reqs with
  | nil => rfl
  | cons req reqs ih =>
    rw [List.flatMap_cons, List.countP_append, ih, countGets_requestCalls, List.length_cons,
      Nat.add_comm]

theorem drain_countGets {c : Collaborators} {reqs : List VmEvent} {calls l : List Call}
    (h : drain c reqs calls = .ok l) :
    l.countP Call.isGetRequest = calls.countP Call.isGetRequest + reqs.length := by
  induction reqs generalizing calls with
  | nil => cases h; rfl
  | cons req reqs ih =>
    simp only [drain] at h
    split at h
    · rw [ih h]; simp [Call.isGetRequest]; omega
    · split at h
      · cases h
      · rename_i calls' hd
        rw [ih h, List.countP_append, dispatch_countGets c req (.inl hd)]
        simp [Call.isGetRequest]; omega

/-- The loop over `pre ++ rest` is the loop over `pre` followed, unless it raised, by the loop over
`rest`. -/
theorem drain_append (c : Collaborators) (pre rest : List VmEvent) (calls : List Call) :
    drain c (pre ++ rest) calls = drain c pre calls >>= drain c rest := by
  induction pre generalizing calls with
  | nil => rfl
  | cons req pre ih =>
    simp only [List.cons_append, drain]
    split
    · exact ih _
    · split
      · rfl
      · exact ih _

/-- Where the `get_request` calls of a run put `req_cons`. -/
theorem reqCons_of_consBase {m m' : Monitor} (h : m'.consBase = m.consBase) {k : Nat}
    (hk : m'.calls.countP Call.isGetRequest = m.calls.countP Call.isGetRequest + k) :
    m'.backRing.reqCons = m.backRing.reqCons + BitVec.ofNat 32 k := by
  apply BitVec.eq_of_toNat_eq
  have h' := congrArg BitVec.toNat h
  simp only [Monitor.consBase, hk, BitVec.toNat_sub, BitVec.toNat_add, BitVec.toNat_ofNat] at h' ⊢
  omega

theorem Monitor.length_pending (m : Monitor) : m.pending.length = m.unconsumed := by
  simp [Monitor.pending]

/-- With collaborators that never raise, `read_events` on a drainable ring returns after making,
for each pending request in turn, the calls of `requestCalls`, and leaves no request
unconsumed. -/
theorem readEvents_quiet {c : Collaborators} (hc : c.Quiet) {m : Monitor} (hm : m.Drainable) :
    ∃ m', readEvents c m = .ok m' ∧ m'.calls = m.calls ++ m.pending.flatMap (requestCalls c) ∧
      m'.backRing.reqCons = m.sring.reqProd := by
  have hd := readEvents_drain c hm
  rw [hc.drain] at hd
  have hb := readEvents_consBase c m
  have hp := readEvents_reqProd c m
  cases hr : readEvents c m with
  | error m' => rw [hr] at hd; cases hd
  | ok m' =>
    rw [hr] at hd hb hp
    simp only [outcomeState] at hb hp
    injection hd with hd
    refine ⟨m', rfl, hd, ?_⟩
    have hk : m'.calls.countP Call.isGetRequest =
        m.calls.countP Call.isGetRequest + m.unconsumed := by
      rw [hd, List.countP_append, countGets_flatMap_requestCalls, Monitor.length_pending]
    rw [reqCons_of_consBase hb hk]
    apply BitVec.eq_of_toNat_eq
    simp only [Monitor.unconsumed, BitVec.toNat_add, BitVec.toNat_ofNat, BitVec.toNat_sub]
    omega

/-! ### Requests the loop leaves without a response -/

/-- A ring of eight slots, just initialised, into which Xen has published `reqs`. -/
def Monitor.published (reqs : List VmEvent) : Monitor where
  backRing := backRingInit ⟨3, by decide⟩
  sring := { reqProd := BitVec.ofNat 32 reqs.length, reqEvent := 1, rspProd := 0, rspEvent := 1
             ring := fun i => reqs.getD i VmEvent.zero }
  calls := []

/-- Collaborators that never raise, with a callback set. -/
def quietCollaborators : Collaborators := ⟨fun _ => false, some fun _ => false⟩

/-- A software-breakpoint request of an older interface version. -/
def staleBreakpoint : VmEvent :=
  { VmEvent.zero with version := 2, reason := vmEventReasonSoftwareBreakpoint }

/-- The `continue` at the version check skips `put_response`: a request of another version is
consumed and never answered, even when no collaborator raises. -/
theorem readEvents_stale_request_unanswered :
    ∃ m', readEvents quietCollaborators (Monitor.published [staleBreakpoint]) = .ok m' ∧
      m'.calls = [.getRequest staleBreakpoint] ∧ m'.backRing.reqCons = 1 ∧ m'.sring.rspProd = 0 :=
  ⟨_, by rw [readEvents_skip _ (by decide) (by decide), readEvents_stop _ (by decide)],
    by decide, by decide, by decide⟩

/-- An exception from `inject_event` or the callback while request `req` is handled leaves
`read_events`: the requests before it were handled as usual, `req` is consumed with no response
(the calls end with the one that raised), and the requests after it stay unconsumed. -/
theorem readEvents_raise_stops_drain (c : Collaborators) {m : Monitor} (hm : m.Drainable)
    (pre post : List VmEvent) (req : VmEvent) (hp : m.pending = pre ++ req :: post)
    {calls₁ calls₂ : List Call} (hpre : drain c pre m.calls = .ok calls₁)
    (hv : req.version = vmEventInterfaceVersion)
    (hraise : dispatch c req (calls₁ ++ [.getRequest req]) = .error calls₂) :
    ∃ m', readEvents c m = .error m' ∧ m'.calls = calls₂ ∧ m'.unconsumed = post.length := by
  have hd' : drain c (req :: post) calls₁ = .error calls₂ := by
    simp only [drain, hv, ne_eq, not_true_eq_false, if_false, hraise]
  have hd := readEvents_drain c hm
  rw [hp, drain_append, hpre] at hd
  change _ = drain c (req :: post) calls₁ at hd
  rw [hd'] at hd
  have hb := readEvents_consBase c m
  have hq := readEvents_reqProd c m
  cases hr : readEvents c m with
  | ok m' => rw [hr] at hd; cases hd
  | error m' =>
    rw [hr] at hd hb hq
    simp only [outcomeState] at hb hq
    injection hd with hd
    refine ⟨m', rfl, hd, ?_⟩
    have hk : m'.calls.countP Call.isGetRequest =
        m.calls.countP Call.isGetRequest + (pre.length + 1) := by
      rw [hd, dispatch_countGets c req (.inr hraise), List.countP_append, drain_countGets hpre]
      simp [Call.isGetRequest]; omega
    have hlen := congrArg List.length hp
    rw [Monitor.length_pending, List.length_append, List.length_cons] at hlen
    simp only [Monitor.unconsumed, hq, reqCons_of_consBase hb hk] at hlen ⊢
    simp only [BitVec.toNat_sub, BitVec.toNat_add, BitVec.toNat_ofNat] at hlen ⊢
    omega

/-- Collaborators whose `inject_event` always raises. -/
def failingInjection : Collaborators := ⟨fun _ => true, none⟩

/-- A software-breakpoint request of the supported version on vCPU `v`. -/
def breakpointOn (v : BitVec 32) : VmEvent :=
  { VmEvent.zero with version := vmEventInterfaceVersion, reason := vmEventReasonSoftwareBreakpoint
                      vcpuId := v }

theorem readEvents_raise_stops_drain_two :
    ∃ m', readEvents failingInjection (Monitor.published [breakpointOn 0, breakpointOn 1]) =
      .error m' ∧ m'.calls = [.getRequest (breakpointOn 0),
        .injectEvent 0 x86TrapInt3 0 (-1) 0 0] ∧ m'.unconsumed = 1 :=
  readEvents_raise_stops_drain failingInjection
    (m := Monitor.published [breakpointOn 0, breakpointOn 1])
    ⟨by decide, by decide⟩ [] [breakpointOn 1] (breakpointOn 0) (by decide) rfl (by decide) rfl

/-- An `inject_event` that raises on the first of two breakpoint requests aborts the drain: the
first request gets no response and the second is not consumed. -/
theorem readEvents_injection_failure_aborts_drain :
    ∃ m', readEvents failingInjection (Monitor.published [breakpointOn 0, breakpointOn 1]) =
      .error m' ∧ m'.calls = [.getRequest (breakpointOn 0), .injectEvent 0 x86TrapInt3 0 (-1) 0 0] ∧
      m'.backRing.reqCons ≠ m'.sring.reqProd :=
  ⟨_, readEvents_raise _ (by decide) (by decide) rfl, rfl, by decide⟩

end Xendbg
