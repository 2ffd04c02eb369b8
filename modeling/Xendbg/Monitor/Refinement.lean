import Mathlib.Logic.Relation
import Xendbg.Domain.Control
import Xendbg.Monitor.Protocol

/-! The two levels of the monitor meet: a call of `read_events` is a run of the protocol's monitor
steps (`readEvents_refines_protocol`), so every invariant of the protocol holds of the ring it
leaves.  Over the protocol, a second invariant follows the responses to their requests
(`RingState.Matched`): the responses the monitor puts answer, in the order Xen wrote them,
distinct requests of the supported version it consumed, and Xen reads them back in that order
(`xen_reads_answers_in_order`).  When nothing raises, a call takes only answering steps
(`quiet_read_events_takes_answering_steps`), and over such runs no response is lost
(`quiet_runs_answer_every_request`); each request the monitor goes past without a response
holds a slot Xen never gets back (`dropped_requests_exhaust_ring`). -/

namespace Xendbg

open scoped List

/-! ### The monitor as constructed -/

/-- `HVMMonitor::HVMMonitor`: `enable_monitor`, then `SHARED_RING_INIT` and `BACK_RING_INIT` on the
page it returns; `n` is the size `__RING_SIZE` gives for the page.  Binding the event-channel port
belongs to `XenEventChannel`, which is not in the repository. -/
def hvmMonitorNew (xen : Xenctrl) (strerror : Int → String) (n : RingSize) (s : Control) :
    ControlResult Monitor :=
  match DomainHVM.enableMonitor xen strerror s with
  | (.error e, s) => (.error e, s)
  | (.ok (page, _), s) => (.ok ⟨backRingInit n, sharedRingInit page, []⟩, s)

/-! ### The responses among the calls -/

/-- The response a call puts, if it is a `put_response`. -/
def Call.response? : Call → Option VmEvent
  | .putResponse rsp => some rsp
  | _ => none

/-- The `switch` puts no response, whether it returns or raises. -/
theorem dispatch_responses (c : Collaborators) (req : VmEvent) {calls l : List Call}
    (h : dispatch c req calls = .ok l ∨ dispatch c req calls = .error l) :
    l.filterMap Call.response? = calls.filterMap Call.response? := by
  unfold dispatch at h
  dsimp only at h
  repeat' split at h
  all_goals obtain h | h := h <;> cases h
  all_goals simp [List.filterMap_append, Call.response?]

theorem responses_dispatchCalls (c : Collaborators) (req : VmEvent) :
    (dispatchCalls c req).filterMap Call.response? = [] := by
  unfold dispatchCalls
  split <;> [split; skip] <;> rfl

theorem responses_requestCalls (c : Collaborators) (req : VmEvent) :
    (requestCalls c req).filterMap Call.response? =
      if req.version = vmEventInterfaceVersion then [responseOf req] else [] := by
  unfold requestCalls
  split <;> simp [List.filterMap_append, responses_dispatchCalls, Call.response?]

theorem responses_flatMap_requestCalls (c : Collaborators) (reqs : List VmEvent) :
    (reqs.flatMap (requestCalls c)).filterMap Call.response? =
      (reqs.filter fun req => req.version = vmEventInterfaceVersion).map responseOf := by
  induction reqs with
  | nil => rfl
  | cons req reqs ih =>
    rw [List.flatMap_cons, List.filterMap_append, ih, responses_requestCalls, List.filter_cons]
    split <;> simp_all

/-! ### `read_events` as protocol steps -/

/-- `get_request` reads and writes only the back ring and the page, whatever calls came before. -/
theorem getRequest_congr {m m' : Monitor} (hb : m.backRing = m'.backRing)
    (hr : m.sring = m'.sring) :
    (getRequest m).1 = (getRequest m').1 ∧ (getRequest m).2.backRing = (getRequest m').2.backRing ∧
      (getRequest m).2.sring = (getRequest m').2.sring := by
  simp only [getRequest, hb, hr, and_self]

/-- So does `put_response`. -/
theorem putResponse_congr (rsp : VmEvent) {m m' : Monitor} (hb : m.backRing = m'.backRing)
    (hr : m.sring = m'.sring) :
    (putResponse rsp m).backRing = (putResponse rsp m').backRing ∧
      (putResponse rsp m).sring = (putResponse rsp m').sring := by
  simp only [putResponse, hb, hr, and_self]

/-- Only a software breakpoint's `inject_event` or callback can raise. -/
theorem dispatch_error_reason {c : Collaborators} {req : VmEvent} {calls l : List Call}
    (h : dispatch c req calls = .error l) : req.reason = vmEventReasonSoftwareBreakpoint := by
  unfold dispatch at h
  split at h
  · assumption
  · cases h

/-- `s'` is `s` after steps of the monitor alone that match the code going from `m₀` to `m`: back
at the loop test with the back ring and page of `m`, Xen's front ring and the counts Xen keeps
those of `s`, and the responses put on the way those the code put. -/
structure RingState.MonitorRan (s : RingState) (m₀ m : Monitor) (s' : RingState) : Prop where
  pc : s'.pc = .test
  backRing : s'.monitor.backRing = m.backRing
  sring : s'.monitor.sring = m.sring
  front : s'.front = s.front
  produced : s'.produced = s.produced
  published : s'.published = s.published
  taken : s'.taken = s.taken
  answered : ∃ new, m.calls.filterMap Call.response? = m₀.calls.filterMap Call.response? ++ new ∧
    s'.answered = s.answered ++ new

/-- Monitor steps from `s` to `s₁` that put `pre`, followed by a run from `s₁`. -/
theorem RingState.MonitorRan.cons {s s₁ s' : RingState} {m₀ m₁ m : Monitor} (pre : List VmEvent)
    (h : s₁.MonitorRan m₁ m s') (hfront : s₁.front = s.front) (hproduced : s₁.produced = s.produced)
    (hpublished : s₁.published = s.published) (htaken : s₁.taken = s.taken)
    (hm : m₁.calls.filterMap Call.response? = m₀.calls.filterMap Call.response? ++ pre)
    (hs : s₁.answered = s.answered ++ pre) : s.MonitorRan m₀ m s' := by
  obtain ⟨new, hnew, hans⟩ := h.answered
  exact { h with
    front := h.front.trans hfront
    produced := h.produced.trans hproduced
    published := h.published.trans hpublished
    taken := h.taken.trans htaken
    answered := ⟨pre ++ new, by rw [hnew, hm, List.append_assoc],
      by rw [hans, hs, List.append_assoc]⟩ }

/-- A step that takes the monitor from a request of the supported version back to the loop test
only by answering it: every step but the `drop` of such a request, which only a raise of
`inject_event` or of the callback takes. -/
def Step.Answering (s s' : RingState) : Prop :=
  ∀ req, s.pc = .respond req → req.version = vmEventInterfaceVersion → s'.pc = .test →
    s'.answered = s.answered ++ [responseOf req]

/-- The protocol steps of a run in which nothing raises. -/
def QuietStep (s s' : RingState) : Prop := Step s s' ∧ Step.Answering s s'

/-- The protocol steps the code takes with collaborators `c`: answering ones when `c` never
raises. -/
def CodeStep (c : Collaborators) (s s' : RingState) : Prop := Step s s' ∧ (c.Quiet → Step.Answering s s')

theorem Step.answering_of_ne {s s' : RingState} (h : ∀ req, s.pc ≠ .respond req) :
    Step.Answering s s' :=
  fun req hpc => absurd hpc (h req)

theorem Step.answering_drop {s : RingState} {req : VmEvent} (hpc : s.pc = .respond req)
    (hv : req.version ≠ vmEventInterfaceVersion) : Step.Answering s { s with pc := .test } := by
  intro r hr hr'
  rw [hpc] at hr
  cases hr
  exact absurd hr' hv

theorem Step.answering_put {s : RingState} {req : VmEvent} (hpc : s.pc = .respond req) :
    Step.Answering s (s.put req) := by
  intro r hr
  rw [hpc] at hr
  cases hr
  exact fun _ _ => rfl

/-- The loop test that finds a request, then `get_request`. -/
theorem CodeStep.testGet (c : Collaborators) {s : RingState} (hpc : s.pc = .test)
    (h : ringHasUnconsumedRequests s.monitor.backRing s.monitor.sring ≠ 0) :
    Relation.ReflTransGen (CodeStep c) s ({ s with pc := .get } : RingState).get :=
  .head ⟨.test hpc h, fun _ => Step.answering_of_ne fun _ h => nomatch hpc.symm.trans h⟩
    (.single ⟨.get rfl, fun _ => Step.answering_of_ne fun _ h => nomatch h⟩)

/-- The loop of `read_events`, from a monitor `m` with the ring of the protocol state `s`, as
protocol steps. -/
theorem readEvents_steps (c : Collaborators) : ∀ m s, s.pc = .test →
    s.monitor.backRing = m.backRing → s.monitor.sring = m.sring →
    ∃ s', Relation.ReflTransGen (CodeStep c) s s' ∧
      s.MonitorRan m (outcomeState (readEvents c m)) s' := by
  intro m
  induction m using readEvents.induct c with
  | case1 m h req m₁ hv ih =>
    intro s hpc hb hr
    obtain ⟨hreq, hb₁, hr₁⟩ := getRequest_congr hb hr
    obtain ⟨s', hs', hran⟩ :=
      ih { ({ s with pc := .get } : RingState).get with pc := .test } rfl hb₁ hr₁
    rw [readEvents_skip c h hv]
    exact ⟨s', (CodeStep.testGet c hpc (by rwa [hb, hr])).trans
        (.head ⟨.drop rfl (.inl (hreq ▸ hv)), fun _ => Step.answering_drop rfl (hreq ▸ hv)⟩ hs'),
      hran.cons [] rfl rfl rfl rfl (by simp [m₁, Call.response?]) (List.append_nil _).symm⟩
  | case2 m h req m₁ hv calls hd =>
    intro s hpc hb hr
    obtain ⟨hreq, hb₁, hr₁⟩ := getRequest_congr hb hr
    rw [readEvents_raise c h (not_not.mp hv) hd]
    exact ⟨_, (CodeStep.testGet c hpc (by rwa [hb, hr])).tail
        ⟨.drop rfl (.inr (hreq ▸ dispatch_error_reason hd)),
          fun hc => absurd ((hc.dispatch req _).symm.trans hd) nofun⟩,
      ⟨rfl, hb₁, hr₁, rfl, rfl, rfl, rfl, [],
        by simp [outcomeState, dispatch_responses c req (.inr hd), m₁, Call.response?],
        (List.append_nil _).symm⟩⟩
  | case3 m h req m₁ hv calls hd ih =>
    intro s hpc hb hr
    obtain ⟨hreq, hb₁, hr₁⟩ := getRequest_congr hb hr
    obtain ⟨hb₂, hr₂⟩ := @putResponse_congr (responseOf req) _ { m₁ with calls } hb₁ hr₁
    have hheld : (({ s with pc := .get } : RingState).get).pc = .respond req :=
      congrArg EnginePc.respond hreq
    obtain ⟨s', hs', hran⟩ := ih ((({ s with pc := .get } : RingState).get).put req) rfl hb₂ hr₂
    rw [readEvents_respond c h (not_not.mp hv) hd]
    exact ⟨s', (CodeStep.testGet c hpc (by rwa [hb, hr])).trans
        (.head ⟨.put hheld (not_not.mp hv), fun _ => Step.answering_put hheld⟩ hs'),
      hran.cons [responseOf req] rfl rfl rfl rfl
        (by simp [dispatch_responses c req (.inl hd), m₁, Call.response?]) rfl⟩
  | case4 m h =>
    intro s hpc hb hr
    rw [readEvents_stop c (not_not.mp h)]
    exact ⟨s, .refl, ⟨hpc, hb, hr, rfl, rfl, rfl, rfl, [], (List.append_nil _).symm,
      (List.append_nil _).symm⟩⟩

/-- From the loop test, a call of `read_events` is a run of the protocol's monitor steps: for any
collaborators, whether the call returns or raises, some run of `Step`s with Xen idle ends back at
the test with the back ring and page the call leaves, and the responses the run adds to the
protocol's `answered` are the responses the call put, in order.  A request of another version is
the `drop` after `get_request`, a raise is the `drop` of a software breakpoint, and
`put_response` is `put`. -/
theorem readEvents_refines_protocol (c : Collaborators) {s : RingState} (hpc : s.pc = .test) :
    ∃ s', Relation.ReflTransGen Step s s' ∧
      s.MonitorRan s.monitor (outcomeState (readEvents c s.monitor)) s' :=
  (readEvents_steps c s.monitor s hpc rfl rfl).imp fun _ h => ⟨h.1.mono fun _ _ h => h.1, h.2⟩

theorem Reachable.steps {n : RingSize} {page : Sring} {s s' : RingState}
    (hs : Reachable n page s) (h : Relation.ReflTransGen Step s s') : Reachable n page s' := by
  induction h with
  | refl => exact hs
  | tail _ hstep ih => exact .step ih hstep

/-- A zeroed eight-slot ring on which Xen has written and published a request of an older version
and a software breakpoint on vCPU 0; the monitor is at the loop test. -/
def twoRequestsPublished : RingState :=
  (((RingState.init ⟨3, by decide⟩ zeroPage).putRequest staleBreakpoint).putRequest
    (breakpointOn 0)).pushRequests

theorem reachable_twoRequestsPublished : Reachable ⟨3, by decide⟩ zeroPage twoRequestsPublished :=
  .step (.step (.step .init (.putRequest _ (by decide))) (.putRequest _ (by decide))) .pushRequests

theorem readEvents_refines_protocol_two_requests :
    twoRequestsPublished.pc = .test ∧
      ∃ s', Relation.ReflTransGen Step twoRequestsPublished s' ∧
        twoRequestsPublished.MonitorRan twoRequestsPublished.monitor
          (outcomeState (readEvents failingInjection twoRequestsPublished.monitor)) s' :=
  ⟨rfl, readEvents_refines_protocol failingInjection rfl⟩

/-! ### What one call answers -/

/-- With collaborators that never raise, the responses put are the answers to the pending requests
of the supported version. -/
theorem readEvents_quiet_responses {c : Collaborators} (hc : c.Quiet) {m : Monitor}
    (hm : m.Drainable) :
    ∃ m', readEvents c m = .ok m' ∧ m'.backRing.reqCons = m.sring.reqProd ∧
      m'.calls.filterMap Call.response? = m.calls.filterMap Call.response? ++
        (m.pending.filter fun req => req.version = vmEventInterfaceVersion).map responseOf := by
  obtain ⟨m', hr, hcalls, hcons⟩ := readEvents_quiet hc hm
  exact ⟨m', hr, hcons, by rw [hcalls, List.filterMap_append, responses_flatMap_requestCalls]⟩

/-- With collaborators that never raise, a call of `read_events` on a ring as Xen leaves it puts
one response for each pending request of the supported version, its answer, in the order of the
requests, and none for a request of another version. -/
theorem readEvents_answers_supported_requests {c : Collaborators} (hc : c.Quiet) {m : Monitor}
    (hm : m.Drainable) :
    ∃ m', readEvents c m = .ok m' ∧
      m'.calls.filterMap Call.response? = m.calls.filterMap Call.response? ++
        (m.pending.filter fun req => req.version = vmEventInterfaceVersion).map responseOf :=
  (readEvents_quiet_responses hc hm).imp fun _ h => ⟨h.1, h.2.2⟩

theorem quietCollaborators_quiet : quietCollaborators.Quiet :=
  ⟨fun _ => rfl, fun _ hf _ => by cases hf; rfl⟩

theorem readEvents_answers_supported_requests_two :
    quietCollaborators.Quiet ∧ (Monitor.published [staleBreakpoint, breakpointOn 0]).Drainable ∧
      ∃ m', readEvents quietCollaborators (Monitor.published [staleBreakpoint, breakpointOn 0]) =
          .ok m' ∧
        m'.calls.filterMap Call.response? =
          (Monitor.published [staleBreakpoint, breakpointOn 0]).calls.filterMap Call.response? ++
            ((Monitor.published [staleBreakpoint, breakpointOn 0]).pending.filter
              fun req => req.version = vmEventInterfaceVersion).map responseOf :=
  ⟨quietCollaborators_quiet, ⟨by decide, by decide⟩,
    readEvents_answers_supported_requests quietCollaborators_quiet ⟨by decide, by decide⟩⟩

/-! ### Responses follow their requests -/

/-- The responses owed once the first `k` requests Xen wrote are consumed: the answer to each of
them of the supported version, in order. -/
def owedResponses (produced : List VmEvent) (k : Nat) : List VmEvent :=
  ((produced.take k).filter fun req => req.version = vmEventInterfaceVersion).map responseOf

theorem owedResponses_mono (produced : List VmEvent) {k k' : Nat} (h : k ≤ k') :
    owedResponses produced k <+ owedResponses produced k' :=
  ((List.take_sublist_take_left produced h).filter _).map _

theorem owedResponses_succ {produced : List VmEvent} {k : Nat} {req : VmEvent}
    (h : produced[k]? = some req) :
    owedResponses produced (k + 1) = owedResponses produced k ++
      if req.version = vmEventInterfaceVersion then [responseOf req] else [] := by
  simp only [owedResponses, List.take_succ, h, Option.toList_some, List.filter_append,
    List.filter_cons, List.filter_nil, List.map_append]
  split <;> simp_all

theorem owedResponses_append {produced : List VmEvent} {k : Nat} (more : List VmEvent)
    (h : k ≤ produced.length) : owedResponses (produced ++ more) k = owedResponses produced k := by
  rw [owedResponses, List.take_append_of_le_length h, owedResponses]

/-- The responses put so far answer, in order, distinct requests of the supported version among
those consumed; while the monitor holds a request, it is the last one consumed, and the responses
put answer requests before it. -/
structure RingState.Matched (s : RingState) : Prop where
  answered : s.answered <+ owedResponses s.produced s.consumed
  respond : ∀ req, s.pc = .respond req →
    s.produced[s.consumed - 1]? = some req ∧
      s.answered <+ owedResponses s.produced (s.consumed - 1)

namespace RingState.Inv

variable {s : RingState} (hi : s.Inv)
include hi

/-- `get_request` at `pc = get` reads the next request Xen wrote. -/
theorem getRequest_eq (hpc : s.pc = .get) :
    s.produced[s.consumed]? = some (getRequest s.monitor).1 := by
  have hC := hi.pc_get hpc
  have := hi.published_le
  rw [List.getElem?_eq_getElem (by omega), Option.some_inj, getRequest, hi.nrEnts, hi.reqCons,
    ringSlot_ofNat, hi.requests _ (by omega) (Nat.le_refl _)]

/-- A response Xen has not taken is in the ring. -/
theorem taken_lt (hg : ringHasUnconsumedResponses s.front s.monitor.sring ≠ 0) :
    s.taken < s.answered.length := by
  have := hi.back_distance
  have hne : (s.monitor.sring.rspProd - s.front.rspCons).toNat ≠ 0 := fun h =>
    hg (BitVec.eq_of_toNat_eq (by simpa [ringHasUnconsumedResponses] using h))
  omega

/-- Xen's `vm_event_get_response` reads the oldest response it has not taken. -/
theorem getResponse_eq (hg : ringHasUnconsumedResponses s.front s.monitor.sring ≠ 0) :
    s.answered[s.taken]? = some s.getResponse.1 := by
  have hlt := hi.taken_lt hg
  rw [List.getElem?_eq_getElem hlt, Option.some_inj, RingState.getResponse, hi.rspCons,
    ringSlot_ofNat, hi.responses _ hlt (Nat.le_refl _)]

/-- The requests `read_events` finds pending are those Xen published past the ones consumed. -/
theorem pending_eq :
    s.monitor.pending = (s.produced.drop s.consumed).take (s.published - s.consumed) := by
  have := s.front.nrEnts.val_le
  have := hi.produced_le; have := hi.taken_le; have := hi.answered_le; have := hi.consumed_le
  have := hi.published_le
  have hu : s.monitor.unconsumed = s.published - s.consumed := by
    rw [Monitor.unconsumed, hi.reqProd, hi.reqCons, toNat_ofNat_sub (by omega) (by omega)]
  apply List.ext_getElem
  · rw [Monitor.length_pending, hu, List.length_take, List.length_drop]
    omega
  · intro i h₁ h₂
    rw [Monitor.length_pending, hu] at h₁
    simp only [Monitor.pending, List.getElem_map, List.getElem_range, List.getElem_take,
      List.getElem_drop]
    rw [hi.nrEnts, hi.reqCons, BitVec.ofNat_add_ofNat, ringSlot_ofNat,
      hi.requests _ (by omega) (by omega)]

end RingState.Inv

namespace RingState.Matched

theorem init (n : RingSize) (page : Sring) : (RingState.init n page).Matched :=
  ⟨List.nil_sublist _, fun _ h => nomatch h⟩

variable {s : RingState} (hm : s.Matched) (hi : s.Inv)
include hm hi

/-- Every step keeps the responses matched to their requests. -/
theorem step {s' : RingState} (h : Step s s') : s'.Matched := by
  cases h with
  | putRequest req _ =>
    have hc : s.consumed ≤ s.produced.length := Nat.le_trans hi.consumed_le hi.published_le
    refine ⟨?_, fun r hpc => ?_⟩
    · simpa only [RingState.putRequest, owedResponses_append _ hc] using hm.answered
    · obtain ⟨hr, hsub⟩ := hm.respond r hpc
      have hlt : s.consumed - 1 < s.produced.length := by
        have := hi.pc_respond r hpc; omega
      simp only [RingState.putRequest, owedResponses_append _ (Nat.le_of_lt hlt),
        List.getElem?_append_left hlt]
      exact ⟨hr, hsub⟩
  | pushRequests => exact ⟨hm.answered, hm.respond⟩
  | getResponse _ => exact ⟨hm.answered, hm.respond⟩
  | test _ _ => exact ⟨hm.answered, fun _ h => nomatch h⟩
  | get hpc =>
    refine ⟨(hm.answered.trans (owedResponses_mono _ (Nat.le_succ _))), fun r h => ?_⟩
    cases h
    exact ⟨hi.getRequest_eq hpc, hm.answered⟩
  | put hpc hv =>
    obtain ⟨hr, hsub⟩ := hm.respond _ hpc
    have hpos := hi.pc_respond _ hpc
    refine ⟨?_, fun _ h => nomatch h⟩
    have howed := owedResponses_succ hr
    rw [Nat.sub_add_cancel (by omega), if_pos hv] at howed
    simp only [RingState.put, howed]
    exact hsub.append (List.Sublist.refl _)
  | drop _ _ => exact ⟨hm.answered, fun _ h => nomatch h⟩

end RingState.Matched

theorem Reachable.matched {n : RingSize} {page : Sring} {s : RingState}
    (hs : Reachable n page s) : s.Matched := by
  induction hs with
  | init => exact RingState.Matched.init n page
  | step hs hstep ih => exact ih.step hs.inv hstep

/-- Under every interleaving of Xen and the monitor, the responses the monitor has put answer, in
the order Xen wrote them, distinct requests of the supported version that the monitor consumed;
and each time Xen reads a response it gets the oldest one it has not read.  So Xen reads the
answers to its own requests, each at most once, in the order it wrote the requests. -/
theorem xen_reads_answers_in_order {n : RingSize} {page : Sring} {s : RingState}
    (hs : Reachable n page s) :
    s.answered <+ owedResponses s.produced s.consumed ∧
      (ringHasUnconsumedResponses s.front s.monitor.sring ≠ 0 →
        s.answered[s.taken]? = some s.getResponse.1) :=
  ⟨hs.matched.answered, hs.inv.getResponse_eq⟩

/-- With the second breakpoint held, the answer to the first is out and Xen reads it next. -/
theorem xen_reads_answers_in_order_held_request :
    Reachable ⟨3, by decide⟩ zeroPage secondRequestHeld ∧
      secondRequestHeld.answered <+
        owedResponses secondRequestHeld.produced secondRequestHeld.consumed ∧
      ringHasUnconsumedResponses secondRequestHeld.front secondRequestHeld.monitor.sring ≠ 0 ∧
      secondRequestHeld.answered[secondRequestHeld.taken]? = some secondRequestHeld.getResponse.1 := by
  have h := xen_reads_answers_in_order reachable_secondRequestHeld
  refine ⟨reachable_secondRequestHeld, h.1, ?out, h.2 ?out⟩
  decide

/-! ### No request lost -/

/-- With collaborators that never raise, a call of `read_events` from any reachable state at the
loop test ends in a reachable state where every request Xen published is consumed, and the
responses it adds are the answers to the requests it consumed of the supported version, one each,
in the order Xen wrote them: none of them is lost or answered twice. -/
theorem quiet_read_events_answers_published {n : RingSize} {page : Sring} {s : RingState}
    (hs : Reachable n page s) (hpc : s.pc = .test) {c : Collaborators} (hc : c.Quiet) :
    ∃ s', Reachable n page s' ∧
      s.MonitorRan s.monitor (outcomeState (readEvents c s.monitor)) s' ∧
      s'.consumed = s.published ∧
      s'.answered = s.answered ++ (((s.produced.drop s.consumed).take (s.published - s.consumed)).filter
        fun req => req.version = vmEventInterfaceVersion).map responseOf := by
  obtain ⟨s', hsteps, hran⟩ := readEvents_steps c s.monitor s hpc rfl rfl
  have hi := hs.inv
  have hs' := hs.steps (hsteps.mono fun _ _ h => h.1)
  obtain ⟨m', hr, hcons, hresp⟩ := readEvents_quiet_responses hc hi.drainable
  refine ⟨s', hs', hran, ?_, ?_⟩ <;> rw [hr] at hran
  · -- `req_cons` ends at `req_prod`: the counts agree modulo `2^32` and lie within one ring
    have hi' := hs'.inv
    have hmod := congrArg BitVec.toNat
      ((hi'.reqCons.symm.trans (congrArg BackRing.reqCons hran.backRing)).trans
        (hcons.trans hi.reqProd))
    simp only [BitVec.toNat_ofNat] at hmod
    have h₁ := hi'.consumed_le; have h₂ := hi'.taken_le; have := hi'.answered_le
    rw [hran.published] at h₁; rw [hran.taken] at h₂
    have := hi.published_le; have := hi.produced_le; have := s.front.nrEnts.val_le
    omega
  · obtain ⟨new, hnew, hans⟩ := hran.answered
    rw [hans, ← hi.pending_eq, List.append_cancel_left (hnew.symm.trans hresp)]

theorem quiet_read_events_answers_published_two_requests :
    Reachable ⟨3, by decide⟩ zeroPage twoRequestsPublished ∧ twoRequestsPublished.pc = .test ∧
      quietCollaborators.Quiet ∧
      ∃ s', Reachable ⟨3, by decide⟩ zeroPage s' ∧
        twoRequestsPublished.MonitorRan twoRequestsPublished.monitor
          (outcomeState (readEvents quietCollaborators twoRequestsPublished.monitor)) s' ∧
        s'.consumed = twoRequestsPublished.published ∧
        s'.answered = twoRequestsPublished.answered ++
          (((twoRequestsPublished.produced.drop twoRequestsPublished.consumed).take
            (twoRequestsPublished.published - twoRequestsPublished.consumed)).filter
              fun req => req.version = vmEventInterfaceVersion).map responseOf :=
  ⟨reachable_twoRequestsPublished, rfl, quietCollaborators_quiet,
    quiet_read_events_answers_published reachable_twoRequestsPublished rfl quietCollaborators_quiet⟩

/-! ### No response lost -/

/-- How many of the requests it consumed the monitor is done with: all but the one it holds. -/
def RingState.settled (s : RingState) : Nat :=
  match s.pc with
  | .respond _ => s.consumed - 1
  | _ => s.consumed

theorem RingState.settled_of_respond {s : RingState} {req : VmEvent} (h : s.pc = .respond req) :
    s.settled = s.consumed - 1 := by
  rw [RingState.settled, h]

theorem RingState.settled_le (s : RingState) : s.settled ≤ s.consumed := by
  unfold RingState.settled
  split <;> omega

/-- The responses put are all those owed: the answer to each request of the supported version the
monitor is done with, in the order Xen wrote them. -/
def RingState.Complete (s : RingState) : Prop := s.answered = owedResponses s.produced s.settled

/-- While the monitor holds `req`, the responses owed once it is done are those it has put and,
for a request of the supported version, the answer to `req`. -/
theorem RingState.Complete.owed_of_respond {s : RingState} {req : VmEvent} (hc : s.Complete)
    (hm : s.Matched) (hi : s.Inv) (hpc : s.pc = .respond req) :
    owedResponses s.produced s.consumed = s.answered ++
      if req.version = vmEventInterfaceVersion then [responseOf req] else [] := by
  obtain ⟨hr, -⟩ := hm.respond _ hpc
  have howed := owedResponses_succ hr
  rw [Nat.sub_add_cancel (by have := hi.pc_respond _ hpc; omega)] at howed
  rw [howed, hc, RingState.settled_of_respond hpc]

/-- Every answering step keeps the responses complete. -/
theorem RingState.Complete.step {s s' : RingState} (hc : s.Complete) (hm : s.Matched)
    (hi : s.Inv) (h : QuietStep s s') : s'.Complete := by
  obtain ⟨h, hans⟩ := h
  cases h with
  | putRequest req _ =>
    have hle : s.settled ≤ s.produced.length :=
      s.settled_le.trans (hi.consumed_le.trans hi.published_le)
    exact hc.trans (owedResponses_append [req] hle).symm
  | pushRequests => exact hc
  | getResponse _ => exact hc
  | test hpc _ => simpa only [RingState.Complete, RingState.settled, hpc] using hc
  | get hpc =>
    simpa only [RingState.Complete, RingState.settled, RingState.get, hpc, Nat.add_sub_cancel]
      using hc
  | put hpc hv =>
    show s.answered ++ [responseOf _] = owedResponses s.produced s.consumed
    rw [hc.owed_of_respond hm hi hpc, if_pos hv]
  | @drop req hpc _ =>
    show s.answered = owedResponses s.produced s.consumed
    rw [hc.owed_of_respond hm hi hpc]
    by_cases hv : req.version = vmEventInterfaceVersion
    · nomatch List.append_right_eq_self.mp (hans _ hpc hv rfl).symm
    · rw [if_neg hv, List.append_nil]

/-- Under every interleaving of Xen and a monitor whose `inject_event` and callback never raise,
the responses the monitor has put are exactly the answers owed: one to each request of the
supported version it is done with, in the order Xen wrote them, none lost and none twice. -/
theorem quiet_runs_answer_every_request {n : RingSize} {page : Sring} {s : RingState}
    (hs : Relation.ReflTransGen QuietStep (RingState.init n page) s) :
    s.answered = owedResponses s.produced s.settled := by
  have hrc : Reachable n page s ∧ s.Complete := by
    induction hs with
    | refl => exact ⟨.init, rfl⟩
    | tail _ h ih => exact ⟨.step ih.1 h.1, ih.2.step ih.1.matched ih.1.inv h⟩
  exact hrc.2

theorem quietRun_twoBreakpointsPublished :
    Relation.ReflTransGen QuietStep (RingState.init ⟨3, by decide⟩ zeroPage)
      twoBreakpointsPublished :=
  ((Relation.ReflTransGen.single
      ⟨.putRequest _ (by decide), Step.answering_of_ne fun _ h => nomatch h⟩).tail
    ⟨.putRequest _ (by decide), Step.answering_of_ne fun _ h => nomatch h⟩).tail
    ⟨.pushRequests, Step.answering_of_ne fun _ h => nomatch h⟩

/-- The run to `secondRequestHeld` takes only answering steps. -/
theorem quietRun_secondRequestHeld :
    Relation.ReflTransGen QuietStep (RingState.init ⟨3, by decide⟩ zeroPage) secondRequestHeld :=
  (((((quietRun_twoBreakpointsPublished.tail
    ⟨.test rfl (by decide), Step.answering_of_ne fun _ h => nomatch h⟩).tail
    ⟨.get rfl, Step.answering_of_ne fun _ h => nomatch h⟩).tail
    ⟨@Step.put _ (breakpointOn 0) rfl rfl, Step.answering_put rfl⟩).tail
    ⟨.putRequest (breakpointOn 2) (by decide), Step.answering_of_ne fun _ h => nomatch h⟩).tail
    ⟨.test rfl (by decide), Step.answering_of_ne fun _ h => nomatch h⟩).tail
    ⟨.get rfl, Step.answering_of_ne fun _ h => nomatch h⟩

/-- The answer to the first breakpoint is the one response owed while the second is held. -/
theorem quiet_runs_answer_every_request_held_request :
    Relation.ReflTransGen QuietStep (RingState.init ⟨3, by decide⟩ zeroPage) secondRequestHeld ∧
      secondRequestHeld.answered =
        owedResponses secondRequestHeld.produced secondRequestHeld.settled :=
  ⟨quietRun_secondRequestHeld, quiet_runs_answer_every_request quietRun_secondRequestHeld⟩

/-- With collaborators that never raise, a call of `read_events` from the loop test is a run of
answering steps: of the requests it consumes, it goes past without a response only those of
another version.  So the calls keep every run complete. -/
theorem quiet_read_events_takes_answering_steps {c : Collaborators} (hc : c.Quiet) {s : RingState}
    (hpc : s.pc = .test) :
    ∃ s', Relation.ReflTransGen QuietStep s s' ∧
      s.MonitorRan s.monitor (outcomeState (readEvents c s.monitor)) s' :=
  (readEvents_steps c s.monitor s hpc rfl rfl).imp fun _ h =>
    ⟨h.1.mono fun _ _ h => ⟨h.1, h.2 hc⟩, h.2⟩

theorem quiet_read_events_takes_answering_steps_two_requests :
    quietCollaborators.Quiet ∧ twoRequestsPublished.pc = .test ∧
      ∃ s', Relation.ReflTransGen QuietStep twoRequestsPublished s' ∧
        twoRequestsPublished.MonitorRan twoRequestsPublished.monitor
          (outcomeState (readEvents quietCollaborators twoRequestsPublished.monitor)) s' :=
  ⟨quietCollaborators_quiet, rfl, quiet_read_events_takes_answering_steps quietCollaborators_quiet rfl⟩

/-! ### Requests gone past without a response -/

/-- How many requests the monitor has gone past without putting a response: those of another
version, and software breakpoints whose `inject_event` or callback raised. -/
def RingState.dropped (s : RingState) : Nat := s.settled - s.answered.length

/-- No step puts the response to a request the monitor went past. -/
theorem RingState.dropped_le_step {s s' : RingState} (h : Step s s') : s.dropped ≤ s'.dropped := by
  cases h with
  | putRequest => exact le_rfl
  | pushRequests => exact le_rfl
  | getResponse => exact le_rfl
  | test hpc => simp only [RingState.dropped, RingState.settled, hpc, le_refl]
  | get hpc => simp only [RingState.dropped, RingState.settled, RingState.get, hpc,
      Nat.add_sub_cancel, le_refl]
  | put hpc =>
    simp only [RingState.dropped, RingState.put, RingState.settled_of_respond hpc,
      List.length_append, List.length_singleton]
    show _ ≤ s.consumed - _
    omega
  | drop hpc =>
    simp only [RingState.dropped, RingState.settled_of_respond hpc]
    show _ ≤ s.consumed - _
    omega

theorem RingState.dropped_le_run {s s' : RingState} (h : Relation.ReflTransGen Step s s') :
    s.dropped ≤ s'.dropped := by
  induction h with
  | refl => exact le_rfl
  | tail _ hstep ih => exact ih.trans (RingState.dropped_le_step hstep)

/-- Xen counts each request gone past as in flight: no response ever frees its slot. -/
theorem RingState.Inv.dropped_le_inflight {s : RingState} (hi : s.Inv) :
    s.dropped ≤ (s.front.reqProdPvt - s.front.rspCons).toNat := by
  have := s.settled_le; have := hi.taken_le; have := hi.consumed_le; have := hi.published_le
  rw [hi.front_distance, RingState.dropped]
  omega

/-- Every request the monitor goes past without a response, one of another version or a software
breakpoint whose `inject_event` or callback raised, holds a slot of the ring Xen never gets back:
once there have been `RING_SIZE` of them, in every state either party can reach from there
`RING_FREE_REQUESTS` on Xen's side is 0, and Xen can never write a request again. -/
theorem dropped_requests_exhaust_ring {n : RingSize} {page : Sring} {s s' : RingState}
    (hs : Reachable n page s) (hfull : n.val ≤ s.dropped) (hrun : Relation.ReflTransGen Step s s') :
    ringFreeRequests s'.front = 0 ∧
      ¬(s'.front.reqProdPvt - s'.front.rspCons).toNat < s'.front.nrEnts.val := by
  have hs' := hs.steps hrun
  have hi := hs'.inv
  have hle := hi.dropped_le_inflight
  have hin : (s'.front.reqProdPvt - s'.front.rspCons).toNat = n.val := by
    have := hi.produced_le; have := RingState.dropped_le_run hrun
    rw [hi.front_distance, hs'.nrEnts] at *
    omega
  refine ⟨?_, by rw [hin, hs'.nrEnts]; exact Nat.lt_irrefl _⟩
  rw [ringFreeRequests, hs'.nrEnts,
    show s'.front.reqProdPvt - s'.front.rspCons = n.idx from
      BitVec.eq_of_toNat_eq (by rw [hin, RingSize.toNat_idx]), BitVec.sub_self]
  rfl

/-- A one-slot ring on which Xen wrote and published a request of an older version, and the
monitor went past it. -/
def staleRequestDropped : RingState :=
  { (({ ((RingState.init ⟨0, by decide⟩ zeroPage).putRequest staleBreakpoint).pushRequests with
    pc := .get } : RingState).get) with pc := .test }

theorem reachable_staleRequestDropped : Reachable ⟨0, by decide⟩ zeroPage staleRequestDropped :=
  .step (.step (.step (.step (.step .init (.putRequest _ (by decide))) .pushRequests)
    (.test rfl (by decide))) (.get rfl)) (.drop rfl (.inl (by decide)))

theorem dropped_requests_exhaust_ring_one_slot :
    Reachable ⟨0, by decide⟩ zeroPage staleRequestDropped ∧
      RingSize.val ⟨0, by decide⟩ ≤ staleRequestDropped.dropped ∧
      ringFreeRequests staleRequestDropped.front = 0 ∧
      ¬(staleRequestDropped.front.reqProdPvt - staleRequestDropped.front.rspCons).toNat <
        staleRequestDropped.front.nrEnts.val :=
  ⟨reachable_staleRequestDropped, by decide,
    dropped_requests_exhaust_ring reachable_staleRequestDropped (by decide) .refl⟩

end Xendbg
