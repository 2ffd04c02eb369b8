import Xendbg.Monitor.ReadEvents

/-! The vm_event ring as a protocol between two parties that run at the same time: Xen, which
writes requests at its private `req_prod_pvt`, publishes them in `req_prod` and consumes the
responses the monitor publishes in `rsp_prod`; and the monitor, whose steps are the iterations of
`read_events` (the `RING_HAS_UNCONSUMED_REQUESTS` test, `get_request`, and `put_response` or the
exit of the iteration without one).  `Step` lets either party move at any point, so the reachable
states cover every interleaving.  The cursors wrap at `2^32`; the ghost counts `produced`,
`published`, `consumed`, `answered` and `taken` do not, and `Inv` ties each cursor to its count.
From `Inv`, `ring_protocol_safe`: the monitor reads only published requests, each once and in
order, and writes a response only into a slot that holds neither an unconsumed request nor a
response Xen has not consumed; `read_events_drains_ring`: a call of `read_events` that returns,
as every call does whose `inject_event` and callback do not raise, drains every published
request, while one that raises leaves the requests after the one it was handling. -/

namespace Xendbg

/-- Where the monitor is in `read_events`: at the loop test (also between two calls), past a
test that found requests, or holding the request `req` whose response is still to be put. -/
inductive EnginePc where
  | test
  | get
  | respond (req : VmEvent)

/-- The state of the protocol: Xen's front ring, the monitor (back ring and shared page), where
the monitor is, and the ghost history: every request Xen wrote and how many it published, how
many the monitor consumed, every response the monitor put and how many Xen consumed. -/
structure RingState where
  front : FrontRing
  monitor : Monitor
  pc : EnginePc
  produced : List VmEvent
  published : Nat
  consumed : Nat
  answered : List VmEvent
  taken : Nat

namespace RingState

/-- The state once `HVMMonitor`'s constructor has run `SHARED_RING_INIT` and `BACK_RING_INIT` on
the page Xen set up with `FRONT_RING_INIT`. -/
def init (n : RingSize) (page : Sring) : RingState :=
  ⟨frontRingInit n, ⟨backRingInit n, sharedRingInit page, []⟩, .test, [], 0, 0, [], 0⟩

/-- Xen's `vm_event_put_request` up to the push: the request goes to the slot at
`req_prod_pvt`, which advances. -/
def putRequest (s : RingState) (req : VmEvent) : RingState :=
  { s with
    front := { s.front with reqProdPvt := s.front.reqProdPvt + 1 }
    monitor := { s.monitor with
      sring := s.monitor.sring.write (ringSlot s.front.nrEnts s.front.reqProdPvt) req }
    produced := s.produced ++ [req] }

/-- `RING_PUSH_REQUESTS` on Xen's front ring. -/
def pushRequests (s : RingState) : RingState :=
  { s with
    monitor := { s.monitor with sring := { s.monitor.sring with reqProd := s.front.reqProdPvt } }
    published := s.produced.length }

/-- Xen's `vm_event_get_response`: copy the response at `rsp_cons` and advance it. -/
def getResponse (s : RingState) : VmEvent × RingState :=
  let rspCons := s.front.rspCons
  let rsp := s.monitor.sring.ring (ringSlot s.front.nrEnts rspCons)
  let rspCons := rspCons + 1
  (rsp, { s with
    front := { s.front with rspCons }
    monitor := { s.monitor with sring := { s.monitor.sring with rspEvent := rspCons + 1 } }
    taken := s.taken + 1 })

/-- The monitor's `get_request`. -/
def get (s : RingState) : RingState :=
  { s with
    monitor := (getRequest s.monitor).2
    pc := .respond (getRequest s.monitor).1
    consumed := s.consumed + 1 }

/-- The monitor's `put_response` of the response to `req`. -/
def put (s : RingState) (req : VmEvent) : RingState :=
  { s with
    monitor := putResponse (responseOf req) s.monitor
    pc := .test
    answered := s.answered ++ [responseOf req] }

end RingState

open RingState in
/-- One step of either party.  Xen writes a request while `req_prod_pvt - rsp_cons < RING_SIZE`,
publishes, or consumes a published response.  The monitor passes the loop test, gets a request,
and then puts its response, or goes back to the test without one: after the `continue` of a
request of another version, or when `inject_event` or the callback raised on a software
breakpoint and the next notification calls `read_events` again. -/
inductive Step : RingState → RingState → Prop
  | putRequest {s : RingState} (req : VmEvent) :
      (s.front.reqProdPvt - s.front.rspCons).toNat < s.front.nrEnts.val → Step s (s.putRequest req)
  | pushRequests {s : RingState} : Step s s.pushRequests
  | getResponse {s : RingState} :
      ringHasUnconsumedResponses s.front s.monitor.sring ≠ 0 → Step s s.getResponse.2
  | test {s : RingState} : s.pc = .test →
      ringHasUnconsumedRequests s.monitor.backRing s.monitor.sring ≠ 0 →
      Step s { s with pc := .get }
  | get {s : RingState} : s.pc = .get → Step s s.get
  | put {s : RingState} {req : VmEvent} : s.pc = .respond req →
      req.version = vmEventInterfaceVersion → Step s (s.put req)
  | drop {s : RingState} {req : VmEvent} : s.pc = .respond req →
      req.version ≠ vmEventInterfaceVersion ∨ req.reason = vmEventReasonSoftwareBreakpoint →
      Step s { s with pc := .test }

/-- The states reachable from the initialised ring, under any interleaving of the two parties. -/
inductive Reachable (n : RingSize) (page : Sring) : RingState → Prop
  | init : Reachable n page (RingState.init n page)
  | step {s s' : RingState} : Reachable n page s → Step s s' → Reachable n page s'

/-- What holds in every reachable state.  With `S` slots, `P` requests written, `Q` published,
`C` consumed, `R` responses put and `H` consumed by Xen: each cursor is its count modulo `2^32`,
`H ≤ R ≤ C ≤ Q ≤ P ≤ H + S`, the slots of the unconsumed requests and of the responses Xen has not
taken hold them, and the monitor's position agrees with the counts. -/
structure RingState.Inv (s : RingState) : Prop where
  nrEnts : s.monitor.backRing.nrEnts = s.front.nrEnts
  reqProdPvt : s.front.reqProdPvt = BitVec.ofNat 32 s.produced.length
  reqProd : s.monitor.sring.reqProd = BitVec.ofNat 32 s.published
  reqCons : s.monitor.backRing.reqCons = BitVec.ofNat 32 s.consumed
  rspProdPvt : s.monitor.backRing.rspProdPvt = BitVec.ofNat 32 s.answered.length
  rspProd : s.monitor.sring.rspProd = BitVec.ofNat 32 s.answered.length
  rspCons : s.front.rspCons = BitVec.ofNat 32 s.taken
  taken_le : s.taken ≤ s.answered.length
  answered_le : s.answered.length ≤ s.consumed
  consumed_le : s.consumed ≤ s.published
  published_le : s.published ≤ s.produced.length
  produced_le : s.produced.length ≤ s.taken + s.front.nrEnts.val
  requests : ∀ k (hk : k < s.produced.length), s.consumed ≤ k →
    s.monitor.sring.ring (k % s.front.nrEnts.val) = s.produced[k]
  responses : ∀ k (hk : k < s.answered.length), s.taken ≤ k →
    s.monitor.sring.ring (k % s.front.nrEnts.val) = s.answered[k]
  pc_get : s.pc = .get → s.consumed < s.published
  pc_respond : ∀ req, s.pc = .respond req → s.answered.length < s.consumed

theorem Sring.write_ring_mod (s : Sring) {S j k : Nat} (e : VmEvent) (h : k % S ≠ j % S) :
    (s.write (j % S) e).ring (k % S) = s.ring (k % S) := by
  rw [Sring.write_ring, if_neg h]

namespace RingState.Inv

theorem init (n : RingSize) (page : Sring) : (RingState.init n page).Inv where
  nrEnts := rfl
  reqProdPvt := rfl
  reqProd := rfl
  reqCons := rfl
  rspProdPvt := rfl
  rspProd := rfl
  rspCons := rfl
  taken_le := Nat.le_refl _
  answered_le := Nat.le_refl _
  consumed_le := Nat.le_refl _
  published_le := Nat.le_refl _
  produced_le := Nat.zero_le _
  requests _ hk := absurd hk (Nat.not_lt_zero _)
  responses _ hk := absurd hk (Nat.not_lt_zero _)
  pc_get h := nomatch h
  pc_respond _ h := nomatch h

variable {s : RingState} (hi : s.Inv)
include hi

/-- `req_prod_pvt - rsp_cons` is the number of requests written past the last response Xen took. -/
theorem front_distance :
    (s.front.reqProdPvt - s.front.rspCons).toNat = s.produced.length - s.taken := by
  have := s.front.nrEnts.val_le
  have := hi.produced_le; have := hi.taken_le; have := hi.answered_le; have := hi.consumed_le
  have := hi.published_le
  rw [hi.reqProdPvt, hi.rspCons, toNat_ofNat_sub (by omega) (by omega)]

theorem putRequest (req : VmEvent)
    (hg : (s.front.reqProdPvt - s.front.rspCons).toNat < s.front.nrEnts.val) :
    (s.putRequest req).Inv := by
  rw [hi.front_distance] at hg
  have := hi.taken_le; have := hi.answered_le; have := hi.consumed_le; have := hi.published_le
  have hslot :
      ringSlot s.front.nrEnts s.front.reqProdPvt = s.produced.length % s.front.nrEnts.val := by
    rw [hi.reqProdPvt, ringSlot_ofNat]
  exact
  { hi with
    reqProdPvt := by simp only [RingState.putRequest, hi.reqProdPvt, ofNat_succ, List.length_append,
      List.length_singleton]
    consumed_le := hi.consumed_le
    published_le := by simp only [RingState.putRequest, List.length_append]; omega
    produced_le := by
      simp only [RingState.putRequest, List.length_append, List.length_singleton]; omega
    requests := fun k hk hc => by
      simp only [RingState.putRequest, hslot, List.length_append, List.length_singleton] at hk hc ⊢
      rcases Nat.lt_succ_iff_lt_or_eq.mp hk with hk | rfl
      · rw [Sring.write_ring_mod _ _ (mod_ne_of_lt hk (by omega)).symm, List.getElem_append_left hk]
        exact hi.requests k hk hc
      · simp [Sring.write_ring]
    responses := fun k hk hc => by
      simp only [RingState.putRequest, hslot] at hk hc ⊢
      rw [Sring.write_ring_mod _ _ (mod_ne_of_lt (by omega) (by omega)).symm]
      exact hi.responses k hk hc }

theorem pushRequests : s.pushRequests.Inv :=
  { hi with
    reqProd := hi.reqProdPvt
    consumed_le := Nat.le_trans hi.consumed_le hi.published_le
    published_le := Nat.le_refl _
    pc_get := fun h => Nat.lt_of_lt_of_le (hi.pc_get h) hi.published_le }

/-- `rsp_prod - rsp_cons` is the number of responses Xen has not taken. -/
theorem back_distance :
    (s.monitor.sring.rspProd - s.front.rspCons).toNat = s.answered.length - s.taken := by
  have := s.front.nrEnts.val_le
  have := hi.produced_le; have := hi.taken_le; have := hi.answered_le; have := hi.consumed_le
  have := hi.published_le
  rw [hi.rspProd, hi.rspCons, toNat_ofNat_sub (by omega) (by omega)]

theorem getResponse (hg : ringHasUnconsumedResponses s.front s.monitor.sring ≠ 0) :
    s.getResponse.2.Inv := by
  have hlt : s.taken < s.answered.length := by
    have := hi.back_distance
    have hne : (s.monitor.sring.rspProd - s.front.rspCons).toNat ≠ 0 := fun h =>
      hg (BitVec.eq_of_toNat_eq (by simpa [ringHasUnconsumedResponses] using h))
    omega
  exact
  { hi with
    rspCons := by simp only [RingState.getResponse, hi.rspCons, ofNat_succ]
    taken_le := hlt
    produced_le := Nat.le_trans hi.produced_le (Nat.add_le_add_right (Nat.le_succ _) _)
    responses := fun k hk hc => hi.responses k hk (Nat.le_of_succ_le hc) }

theorem test (hg : ringHasUnconsumedRequests s.monitor.backRing s.monitor.sring ≠ 0) :
    ({ s with pc := .get } : RingState).Inv := by
  have hne := ringHasUnconsumedRequests_ne_zero hg
  have := s.front.nrEnts.val_le
  have := hi.produced_le; have := hi.taken_le; have := hi.answered_le; have := hi.consumed_le
  have := hi.published_le
  have hd :
      (s.monitor.sring.reqProd - s.monitor.backRing.reqCons).toNat = s.published - s.consumed := by
    rw [hi.reqProd, hi.reqCons, toNat_ofNat_sub (by omega) (by omega)]
  have hlt : s.consumed < s.published := by
    have : (s.monitor.sring.reqProd - s.monitor.backRing.reqCons).toNat ≠ 0 := fun h =>
      hne (BitVec.eq_of_toNat_eq (by simpa using h))
    omega
  exact { hi with pc_get := fun _ => hlt, pc_respond := fun _ h => nomatch h }

theorem get (hpc : s.pc = .get) : s.get.Inv :=
  { hi with
    reqCons := by simp only [RingState.get, getRequest_reqCons, hi.reqCons, ofNat_succ]
    answered_le := Nat.le_succ_of_le hi.answered_le
    consumed_le := hi.pc_get hpc
    requests := fun k hk hc => hi.requests k hk (Nat.le_of_succ_le hc)
    pc_get := fun h => nomatch h
    pc_respond := fun _ _ => Nat.lt_succ_of_le hi.answered_le }

theorem put {req : VmEvent} (hpc : s.pc = .respond req) : (s.put req).Inv := by
  have hR := hi.pc_respond req hpc
  have := hi.produced_le; have := hi.taken_le; have := hi.consumed_le; have := hi.published_le
  have hslot : ringSlot s.monitor.backRing.nrEnts s.monitor.backRing.rspProdPvt =
      s.answered.length % s.front.nrEnts.val := by
    rw [hi.rspProdPvt, ringSlot_ofNat, hi.nrEnts]
  exact
  { hi with
    rspProdPvt := by simp only [RingState.put, putResponse_rspProdPvt, hi.rspProdPvt, ofNat_succ,
      List.length_append, List.length_singleton]
    rspProd := by simp only [RingState.put, putResponse_rspProd, hi.rspProdPvt, ofNat_succ,
      List.length_append, List.length_singleton]
    taken_le := by simp only [RingState.put, List.length_append]; omega
    answered_le := by simp only [RingState.put, List.length_append, List.length_singleton]; omega
    requests := fun k hk hc => by
      simp only [RingState.put, putResponse_ring, hslot] at hk hc ⊢
      rw [if_neg (mod_ne_of_lt (by omega) (by omega))]
      exact hi.requests k hk hc
    responses := fun k hk hc => by
      simp only [RingState.put, putResponse_ring, hslot, List.length_append,
        List.length_singleton] at hk hc ⊢
      rcases Nat.lt_succ_iff_lt_or_eq.mp hk with hk | rfl
      · rw [if_neg (mod_ne_of_lt hk (by omega)).symm, List.getElem_append_left hk]
        exact hi.responses k hk hc
      · simp
    pc_get := fun h => nomatch h
    pc_respond := fun _ h => nomatch h }

theorem drop : ({ s with pc := .test } : RingState).Inv :=
  { hi with pc_get := (nomatch ·), pc_respond := fun _ h => nomatch h }

/-- Every step keeps the invariant. -/
theorem step {s' : RingState} (h : Step s s') : s'.Inv := by
  cases h with
  | putRequest req hg => exact hi.putRequest req hg
  | pushRequests => exact hi.pushRequests
  | getResponse hg => exact hi.getResponse hg
  | test _ hg => exact hi.test hg
  | get hpc => exact hi.get hpc
  | put hpc _ => exact hi.put hpc
  | drop _ _ => exact hi.drop

end RingState.Inv

theorem Reachable.inv {n : RingSize} {page : Sring} {s : RingState} (h : Reachable n page s) :
    s.Inv := by
  induction h with
  | init => exact RingState.Inv.init n page
  | step _ hs ih => exact ih.step hs

theorem Reachable.nrEnts {n : RingSize} {page : Sring} {s : RingState} (h : Reachable n page s) :
    s.front.nrEnts = n := by
  induction h with
  | init => rfl
  | step _ hs ih => cases hs <;> exact ih

namespace RingState.Inv

variable {s : RingState} (hi : s.Inv)
include hi

/-- In every state of the protocol, the ring is as `read_events` expects it. -/
theorem drainable : s.monitor.Drainable := by
  have := s.front.nrEnts.val_le
  have := hi.produced_le; have := hi.taken_le; have := hi.answered_le; have := hi.consumed_le
  have := hi.published_le
  constructor
  · rw [hi.reqCons, hi.rspProdPvt, hi.reqProd, toNat_ofNat_sub (by omega) (by omega),
      toNat_ofNat_sub (by omega) (by omega)]
    omega
  · rw [hi.reqProd, hi.rspProdPvt, toNat_ofNat_sub (by omega) (by omega), hi.nrEnts]
    omega

end RingState.Inv

/-- The ring is safe under every interleaving of Xen and the monitor.
(a) When the monitor is about to call `get_request`, `req_cons` is behind `req_prod` by at least
one and at most `RING_SIZE`, and the slot it reads holds the next published request, the
`consumed`-th Xen wrote: requests are read after they are published, once each, in order.
(b) When it is about to call `put_response`, fewer than `RING_SIZE` responses are out, and the slot
at `rsp_prod_pvt` is none of the slots of the requests not yet consumed or of the responses Xen
has not yet consumed. -/
theorem ring_protocol_safe {n : RingSize} {page : Sring} {s : RingState}
    (hs : Reachable n page s) :
    (s.pc = .get →
      0 < (s.monitor.sring.reqProd - s.monitor.backRing.reqCons).toNat ∧
      (s.monitor.sring.reqProd - s.monitor.backRing.reqCons).toNat ≤ n.val ∧
      s.consumed < s.published ∧ s.produced[s.consumed]? = some (getRequest s.monitor).1) ∧
    (∀ req, s.pc = .respond req →
      (s.monitor.backRing.rspProdPvt - s.front.rspCons).toNat < n.val ∧
      (∀ i < (s.front.reqProdPvt - s.monitor.backRing.reqCons).toNat,
        ringSlot n (s.monitor.backRing.reqCons + BitVec.ofNat 32 i) ≠
          ringSlot n s.monitor.backRing.rspProdPvt) ∧
      (∀ i < (s.monitor.backRing.rspProdPvt - s.front.rspCons).toNat,
        ringSlot n (s.front.rspCons + BitVec.ofNat 32 i) ≠
          ringSlot n s.monitor.backRing.rspProdPvt)) := by
  have hi := hs.inv
  have hn := hs.nrEnts
  have := n.val_le
  have := hi.produced_le; have := hi.taken_le; have := hi.answered_le; have := hi.consumed_le
  have := hi.published_le
  rw [hn] at *
  refine ⟨fun hpc => ?_, fun req hpc => ?_⟩
  · have hC := hi.pc_get hpc
    rw [hi.reqProd, hi.reqCons, toNat_ofNat_sub (by omega) (by omega)]
    refine ⟨by omega, by omega, hC, ?_⟩
    rw [List.getElem?_eq_getElem (by omega), Option.some_inj, getRequest, hi.nrEnts, hn, hi.reqCons,
      ringSlot_ofNat, ← hn, hi.requests _ (by omega) (Nat.le_refl _)]
  · have hR := hi.pc_respond req hpc
    rw [hi.rspProdPvt, hi.rspCons, hi.reqProdPvt, hi.reqCons, toNat_ofNat_sub (by omega) (by omega),
      toNat_ofNat_sub (by omega) (by omega)]
    refine ⟨by omega, fun i hlt => ?_, fun i hlt => ?_⟩ <;>
      rw [BitVec.ofNat_add_ofNat, ringSlot_ofNat, ringSlot_ofNat]
    · exact mod_ne_of_lt (by omega) (by omega)
    · exact (mod_ne_of_lt (by omega) (by omega)).symm

/-- A zeroed page. -/
def zeroPage : Sring := ⟨0, 0, 0, 0, fun _ => VmEvent.zero⟩

/-- Xen has written and published one request on an eight-slot ring, and the monitor has passed
the loop test. -/
def oneRequestReady : RingState :=
  { ((RingState.init ⟨3, by decide⟩ zeroPage).putRequest staleBreakpoint).pushRequests with
    pc := .get }

theorem reachable_oneRequestReady : Reachable ⟨3, by decide⟩ zeroPage oneRequestReady :=
  .step (.step (.step .init (.putRequest _ (by decide))) .pushRequests) (.test rfl (by decide))

/-- Xen has written and published two software breakpoints on an eight-slot ring; the monitor is
at the loop test. -/
def twoBreakpointsPublished : RingState :=
  (((RingState.init ⟨3, by decide⟩ zeroPage).putRequest (breakpointOn 0)).putRequest
    (breakpointOn 1)).pushRequests

theorem reachable_twoBreakpointsPublished :
    Reachable ⟨3, by decide⟩ zeroPage twoBreakpointsPublished :=
  .step (.step (.step .init (.putRequest _ (by decide))) (.putRequest _ (by decide))) .pushRequests

/-- From there the monitor answers the first breakpoint, Xen writes a third without publishing
it, and the monitor takes the second: it holds a request while its response to the first is
still unread and the third request is unconsumed. -/
def secondRequestHeld : RingState :=
  { ({ twoBreakpointsPublished with pc := .get }.get.put (breakpointOn 0)).putRequest
      (breakpointOn 2) with pc := .get }.get

theorem reachable_secondRequestHeld : Reachable ⟨3, by decide⟩ zeroPage secondRequestHeld :=
  .step (.step (.step (.step (.step (.step reachable_twoBreakpointsPublished
    (.test rfl (by decide))) (.get rfl)) (.put rfl rfl)) (.putRequest _ (by decide)))
      (.test rfl (by decide))) (.get rfl)

/-- Both parts at work: a request ready to be read, and a request held while a response is out
and a request is unconsumed. -/
theorem ring_protocol_safe_get_and_put :
    Reachable ⟨3, by decide⟩ zeroPage oneRequestReady ∧
    (0 < (oneRequestReady.monitor.sring.reqProd - oneRequestReady.monitor.backRing.reqCons).toNat ∧
      (oneRequestReady.monitor.sring.reqProd - oneRequestReady.monitor.backRing.reqCons).toNat ≤
        RingSize.val ⟨3, by decide⟩ ∧
      oneRequestReady.consumed < oneRequestReady.published ∧
      oneRequestReady.produced[oneRequestReady.consumed]? =
        some (getRequest oneRequestReady.monitor).1) ∧
    Reachable ⟨3, by decide⟩ zeroPage secondRequestHeld ∧
    ((secondRequestHeld.monitor.backRing.rspProdPvt - secondRequestHeld.front.rspCons).toNat <
        RingSize.val ⟨3, by decide⟩ ∧
      (∀ i < (secondRequestHeld.front.reqProdPvt - secondRequestHeld.monitor.backRing.reqCons).toNat,
        ringSlot ⟨3, by decide⟩ (secondRequestHeld.monitor.backRing.reqCons + BitVec.ofNat 32 i) ≠
          ringSlot ⟨3, by decide⟩ secondRequestHeld.monitor.backRing.rspProdPvt) ∧
      (∀ i < (secondRequestHeld.monitor.backRing.rspProdPvt - secondRequestHeld.front.rspCons).toNat,
        ringSlot ⟨3, by decide⟩ (secondRequestHeld.front.rspCons + BitVec.ofNat 32 i) ≠
          ringSlot ⟨3, by decide⟩ secondRequestHeld.monitor.backRing.rspProdPvt)) :=
  ⟨reachable_oneRequestReady, (ring_protocol_safe reachable_oneRequestReady).1 rfl,
    reachable_secondRequestHeld, (ring_protocol_safe reachable_secondRequestHeld).2 _ rfl⟩

/-- A call of `read_events` on a ring reached under the protocol, with Xen idle meanwhile,
returns normally when no collaborator raises; and whenever it returns normally it has consumed
every published request, `req_cons = req_prod`, after exactly `req_prod - req_cons` calls of
`get_request` (modulo `2^32`).  The room-for-responses term of `RING_HAS_UNCONSUMED_REQUESTS`
never stops it early, whatever responses earlier calls left out. -/
theorem read_events_drains_ring {n : RingSize} {page : Sring} {s : RingState}
    (hs : Reachable n page s) (c : Collaborators) :
    (c.Quiet → ∃ m', readEvents c s.monitor = .ok m') ∧
    ∀ m', readEvents c s.monitor = .ok m' →
      m'.backRing.reqCons = m'.sring.reqProd ∧ m'.sring.reqProd = s.monitor.sring.reqProd ∧
      m'.calls.countP Call.isGetRequest = s.monitor.calls.countP Call.isGetRequest +
        (s.monitor.sring.reqProd - s.monitor.backRing.reqCons).toNat := by
  have hm := hs.inv.drainable
  refine ⟨fun hc => (readEvents_quiet hc hm).imp fun _ h => h.1, fun m' hr => ?_⟩
  have hd := readEvents_drain c hm
  have hb := readEvents_consBase c s.monitor
  have hq := readEvents_reqProd c s.monitor
  rw [hr] at hd hb hq
  simp only [outcomeState, outcomeCalls] at hb hq hd
  have hk := drain_countGets hd.symm
  rw [Monitor.length_pending] at hk
  refine ⟨?_, hq, hk⟩
  rw [reqCons_of_consBase hb hk, hq]
  apply BitVec.eq_of_toNat_eq
  simp only [Monitor.unconsumed, BitVec.toNat_add, BitVec.toNat_ofNat, BitVec.toNat_sub]
  omega

theorem read_events_drains_ring_one_request :
    Reachable ⟨3, by decide⟩ zeroPage oneRequestReady ∧
    ((quietCollaborators.Quiet →
        ∃ m', readEvents quietCollaborators oneRequestReady.monitor = .ok m') ∧
    ∀ m', readEvents quietCollaborators oneRequestReady.monitor = .ok m' →
      m'.backRing.reqCons = m'.sring.reqProd ∧
      m'.sring.reqProd = oneRequestReady.monitor.sring.reqProd ∧
      m'.calls.countP Call.isGetRequest = oneRequestReady.monitor.calls.countP Call.isGetRequest +
        (oneRequestReady.monitor.sring.reqProd - oneRequestReady.monitor.backRing.reqCons).toNat) :=
  ⟨reachable_oneRequestReady, read_events_drains_ring reachable_oneRequestReady quietCollaborators⟩

/-- With the two breakpoints published and an `inject_event` that raises, `read_events` leaves at
the first: one `get_request` of the two published requests, and the second unconsumed. -/
theorem read_events_injection_raise_leaves_request :
    Reachable ⟨3, by decide⟩ zeroPage twoBreakpointsPublished ∧
      (twoBreakpointsPublished.monitor.sring.reqProd -
        twoBreakpointsPublished.monitor.backRing.reqCons).toNat = 2 ∧
      ∃ m', readEvents failingInjection twoBreakpointsPublished.monitor = .error m' ∧
        m'.backRing.reqCons ≠ m'.sring.reqProd ∧ m'.calls.countP Call.isGetRequest = 1 :=
  ⟨reachable_twoBreakpointsPublished, by decide, _, readEvents_raise _ (by decide) (by decide) rfl,
    by decide, by decide⟩

/-- Xen's writes are safe as well, under every interleaving: when Xen writes a request, which it
does while `req_prod_pvt - rsp_cons < RING_SIZE`, the slot at `req_prod_pvt` is none of the slots
of the requests the monitor has not consumed, published or not, and none of the slots of the
responses Xen has not read. -/
theorem xen_request_slot_free {n : RingSize} {page : Sring} {s : RingState}
    (hs : Reachable n page s)
    (hroom : (s.front.reqProdPvt - s.front.rspCons).toNat < n.val) :
    (∀ i < (s.front.reqProdPvt - s.monitor.backRing.reqCons).toNat,
      ringSlot n (s.monitor.backRing.reqCons + BitVec.ofNat 32 i) ≠
        ringSlot n s.front.reqProdPvt) ∧
    (∀ i < (s.monitor.sring.rspProd - s.front.rspCons).toNat,
      ringSlot n (s.front.rspCons + BitVec.ofNat 32 i) ≠ ringSlot n s.front.reqProdPvt) := by
  have hi := hs.inv
  have := n.val_le
  have hp := hi.produced_le; have := hi.taken_le; have := hi.answered_le; have := hi.consumed_le
  have := hi.published_le
  rw [hs.nrEnts] at hp
  rw [hi.front_distance] at hroom
  rw [hi.reqProdPvt, hi.reqCons, hi.rspProd, hi.rspCons, toNat_ofNat_sub (by omega) (by omega),
    toNat_ofNat_sub (by omega) (by omega)]
  refine ⟨fun i hlt => ?_, fun i hlt => ?_⟩ <;>
    rw [BitVec.ofNat_add_ofNat, ringSlot_ofNat, ringSlot_ofNat] <;>
    exact (mod_ne_of_lt (by omega) (by omega)).symm

theorem xen_request_slot_free_one_request :
    Reachable ⟨3, by decide⟩ zeroPage oneRequestReady ∧
      (oneRequestReady.front.reqProdPvt - oneRequestReady.front.rspCons).toNat <
        RingSize.val ⟨3, by decide⟩ ∧
      (∀ i < (oneRequestReady.front.reqProdPvt - oneRequestReady.monitor.backRing.reqCons).toNat,
        ringSlot ⟨3, by decide⟩ (oneRequestReady.monitor.backRing.reqCons + BitVec.ofNat 32 i) ≠
          ringSlot ⟨3, by decide⟩ oneRequestReady.front.reqProdPvt) ∧
      (∀ i < (oneRequestReady.monitor.sring.rspProd - oneRequestReady.front.rspCons).toNat,
        ringSlot ⟨3, by decide⟩ (oneRequestReady.front.rspCons + BitVec.ofNat 32 i) ≠
          ringSlot ⟨3, by decide⟩ oneRequestReady.front.reqProdPvt) :=
  ⟨reachable_oneRequestReady, by decide, xen_request_slot_free reachable_oneRequestReady (by decide)⟩

end Xendbg
