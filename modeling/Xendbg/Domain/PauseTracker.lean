import Xendbg.Ring

/-! The vCPU pause tracker of `Domain`: `_vcpu_pause_state`, sized by the constructor, and
`pause_unpause_vcpu`, which issues `XEN_DOMCTL_gdbsx_pausevcpu` or `_unpausevcpu` only when the
tracked bit changes, together with the loops of `pause_unpause_vcpus_except` and
`pause_unpause_all_vcpus` over `VCPU_ID id = 0 .. max_vcpu_id`.  `VCPU_ID` and `max_vcpu_id` are
`unsigned int`s, so they are `BitVec 32`.  Xen's answer to each domctl is an oracle over the
domctls it accepted before, so the theorems hold whatever Xen accepts or refuses and when. -/

namespace Xendbg

/-- `VCPU_ID`. -/
abbrev VcpuId := BitVec 32

/-- `XEN_DOMCTL_gdbsx_pausevcpu`, from Xen's public `domctl.h`. -/
def xenDomctlGdbsxPausevcpu : BitVec 32 := 1001

/-- `XEN_DOMCTL_gdbsx_unpausevcpu`, from Xen's public `domctl.h`. -/
def xenDomctlGdbsxUnpausevcpu : BitVec 32 := 1002

/-- A domctl Xen applied: its command and the vCPU of its `gdbsx_pauseunp_vcpu`. -/
structure Domctl where
  command : BitVec 32
  vcpu : VcpuId
  deriving DecidableEq, Repr

/-- Xen's control channel as the tracker sees it: whether the domctl `d` succeeds, given the
domctls Xen applied before it.  A refused domctl makes `hypercall_domctl` raise. -/
abbrev Channel := List Domctl → Domctl → Bool

/-- The part of `Domain` the tracker uses: the `max_vcpu_id` that `get_dominfo` reported to the
constructor,
`_vcpu_pause_state`, whose length the constructor fixes at `max_vcpu_id + 1` computed in
`unsigned int`, and the domctls Xen applied so far. -/
structure Domain where
  maxVcpuId : VcpuId
  vcpuPauseState : List Bool
  domctls : List Domctl
  length_eq : vcpuPauseState.length = (maxVcpuId + 1).toNat

/-- `Domain::Domain`: `_vcpu_pause_state.resize(max_vcpu_id + 1)`, every vCPU running. -/
def Domain.new (maxVcpuId : VcpuId) : Domain :=
  ⟨maxVcpuId, List.replicate (maxVcpuId + 1).toNat false, [], List.length_replicate _ _⟩

/-- `_vcpu_pause_state[i] = b`. -/
def Domain.setPauseState (d : Domain) (i : Nat) (b : Bool) : Domain :=
  ⟨d.maxVcpuId, d.vcpuPauseState.set i b, d.domctls, by rw [List.length_set, d.length_eq]⟩

@[simp] theorem Domain.setPauseState_vcpuPauseState (d : Domain) (i : Nat) (b : Bool) :
    (d.setPauseState i b).vcpuPauseState = d.vcpuPauseState.set i b := rfl

/-- How a tracker operation fails: Xen refused the domctl (`hypercall_domctl` raises), the command
was neither pause nor unpause (`"Unknown domctl!"`), or `_vcpu_pause_state[i]` was read out of
bounds, which C++ leaves undefined and the model stops at. -/
inductive PauseError where
  | hypercallFailed (d : Domctl)
  | unknownDomctl
  | outOfBounds (i : Nat)
  deriving DecidableEq, Repr

/-- The result of an operation: the domain when it returned, or the error and the domain as the
exception left it. -/
abbrev PauseResult := Except (PauseError × Domain) Domain

/-- `Domain::hypercall_domctl(command, ...)` with `op.vcpu = vcpu_id`. -/
def hypercallDomctl (xen : Channel) (command : BitVec 32) (vcpuId : VcpuId) (d : Domain) :
    PauseResult :=
  let dc : Domctl := ⟨command, vcpuId⟩
  if xen d.domctls dc then .ok { d with domctls := d.domctls ++ [dc] }
  else .error (.hypercallFailed dc, d)

/-- `Domain::pause_unpause_vcpu`: a pause of a paused vCPU, or an unpause of a running one, does
nothing; otherwise the bit is set and then the domctl issued. -/
def pauseUnpauseVcpu (xen : Channel) (hypercall : BitVec 32) (vcpuId : VcpuId) (d : Domain) :
    PauseResult :=
  if hypercall = xenDomctlGdbsxPausevcpu then
    match d.vcpuPauseState[vcpuId.toNat]? with
    | none => .error (.outOfBounds vcpuId.toNat, d)
    | some true => .ok d
    | some false => hypercallDomctl xen hypercall vcpuId (d.setPauseState vcpuId.toNat true)
  else if hypercall = xenDomctlGdbsxUnpausevcpu then
    match d.vcpuPauseState[vcpuId.toNat]? with
    | none => .error (.outOfBounds vcpuId.toNat, d)
    | some true => hypercallDomctl xen hypercall vcpuId (d.setPauseState vcpuId.toNat false)
    | some false => .ok d
  else .error (.unknownDomctl, d)

/-- `Domain::pause_vcpu`. -/
def pauseVcpu (xen : Channel) (vcpuId : VcpuId) : Domain → PauseResult :=
  pauseUnpauseVcpu xen xenDomctlGdbsxPausevcpu vcpuId

/-- `Domain::unpause_vcpu`. -/
def unpauseVcpu (xen : Channel) (vcpuId : VcpuId) : Domain → PauseResult :=
  pauseUnpauseVcpu xen xenDomctlGdbsxUnpausevcpu vcpuId

/-- The loop `for (VCPU_ID id = ...; id <= max_vcpu_id; ++id)` of `pause_unpause_vcpus_except`
(which skips `skip`) and of `pause_unpause_all_vcpus` (`skip = none`), given `fuel` tests of its
condition: it stops at the first exception, and it is `none` when the fuel runs out first. -/
def forVcpuIds (maxVcpuId : VcpuId) (skip : Option VcpuId) (body : VcpuId → Domain → PauseResult) :
    Nat → VcpuId → Domain → Option PauseResult
  | 0, _, _ => none
  | fuel + 1, id, d =>
    if id ≤ maxVcpuId then
      if skip = some id then forVcpuIds maxVcpuId skip body fuel (id + 1) d
      else match body id d with
        | .ok d => forVcpuIds maxVcpuId skip body fuel (id + 1) d
        | .error e => some (.error e)
    else some (.ok d)

/-- Enough tests of the loop condition for every loop that ends: `id` takes at most `2^32`
values before the test fails. -/
def vcpuLoopFuel : Nat := 2 ^ 32 + 1

/-- `Domain::pause_unpause_vcpus_except`; `maxVcpuId` is what `get_dominfo()` reports at the
call. -/
def pauseUnpauseVcpusExcept (xen : Channel) (maxVcpuId : VcpuId) (hypercall : BitVec 32)
    (vcpuId : VcpuId) (d : Domain) : Option PauseResult :=
  forVcpuIds maxVcpuId (some vcpuId) (pauseUnpauseVcpu xen hypercall) vcpuLoopFuel 0 d

/-- `Domain::pause_unpause_all_vcpus`. -/
def pauseUnpauseAllVcpus (xen : Channel) (maxVcpuId : VcpuId) (hypercall : BitVec 32) (d : Domain) :
    Option PauseResult :=
  forVcpuIds maxVcpuId none (pauseUnpauseVcpu xen hypercall) vcpuLoopFuel 0 d

/-- `Domain::pause_vcpus_except`. -/
def pauseVcpusExcept (xen : Channel) (maxVcpuId vcpuId : VcpuId) : Domain → Option PauseResult :=
  pauseUnpauseVcpusExcept xen maxVcpuId xenDomctlGdbsxPausevcpu vcpuId

/-- `Domain::unpause_vcpus_except`. -/
def unpauseVcpusExcept (xen : Channel) (maxVcpuId vcpuId : VcpuId) : Domain → Option PauseResult :=
  pauseUnpauseVcpusExcept xen maxVcpuId xenDomctlGdbsxUnpausevcpu vcpuId

/-- `Domain::pause_all_vcpus`. -/
def pauseAllVcpus (xen : Channel) (maxVcpuId : VcpuId) : Domain → Option PauseResult :=
  pauseUnpauseAllVcpus xen maxVcpuId xenDomctlGdbsxPausevcpu

/-- `Domain::unpause_all_vcpus`. -/
def unpauseAllVcpus (xen : Channel) (maxVcpuId : VcpuId) : Domain → Option PauseResult :=
  pauseUnpauseAllVcpus xen maxVcpuId xenDomctlGdbsxUnpausevcpu

/-! ### One vCPU -/

/-- `hypercall` asks for the tracked bit `target`: a pause for `true`, an unpause for `false`. -/
def PauseCommand (hypercall : BitVec 32) (target : Bool) : Prop :=
  (hypercall = xenDomctlGdbsxPausevcpu ∧ target = true) ∨
    (hypercall = xenDomctlGdbsxUnpausevcpu ∧ target = false)

/-- What `pause_unpause_vcpu` does, for either direction: read the bit, and when it is not the
target already, set it and issue the domctl. -/
theorem pauseUnpauseVcpu_eq (xen : Channel) {hypercall : BitVec 32} {target : Bool}
    (ht : PauseCommand hypercall target) (vcpuId : VcpuId) (d : Domain) :
    pauseUnpauseVcpu xen hypercall vcpuId d =
      match d.vcpuPauseState[vcpuId.toNat]? with
      | none => .error (.outOfBounds vcpuId.toNat, d)
      | some b => if b = target then .ok d
          else hypercallDomctl xen hypercall vcpuId (d.setPauseState vcpuId.toNat target) := by
  have hne : xenDomctlGdbsxUnpausevcpu ≠ xenDomctlGdbsxPausevcpu := by decide
  rcases ht with ⟨rfl, rfl⟩ | ⟨rfl, rfl⟩ <;> simp only [pauseUnpauseVcpu, if_pos, if_neg hne] <;>
    rcases d.vcpuPauseState[vcpuId.toNat]? with _ | _ | _ <;> rfl

@[simp] theorem hypercallDomctl_ok {xen : Channel} {command : BitVec 32} {vcpuId : VcpuId}
    {d d' : Domain} : hypercallDomctl xen command vcpuId d = .ok d' ↔
      xen d.domctls ⟨command, vcpuId⟩ = true ∧
        d' = { d with domctls := d.domctls ++ [⟨command, vcpuId⟩] } := by
  unfold hypercallDomctl
  dsimp only
  split
  · rename_i h
    exact ⟨fun h' => ⟨h, (Except.ok.inj h').symm⟩, fun ⟨_, h'⟩ => h' ▸ rfl⟩
  · rename_i h
    exact ⟨(nomatch ·), fun ⟨h', _⟩ => absurd h' h⟩

/-- The three ways `pause_unpause_vcpu` goes: an index past the tracker, a bit already at the
target, or a bit flipped and the domctl issued. -/
theorem pauseUnpauseVcpu_cases (xen : Channel) {hypercall : BitVec 32} {target : Bool}
    (ht : PauseCommand hypercall target) (vcpuId : VcpuId) (d : Domain) :
    (d.vcpuPauseState.length ≤ vcpuId.toNat ∧
        pauseUnpauseVcpu xen hypercall vcpuId d = .error (.outOfBounds vcpuId.toNat, d)) ∨
      (d.vcpuPauseState[vcpuId.toNat]? = some target ∧
        pauseUnpauseVcpu xen hypercall vcpuId d = .ok d) ∨
      (vcpuId.toNat < d.vcpuPauseState.length ∧ d.vcpuPauseState[vcpuId.toNat]? = some !target ∧
        pauseUnpauseVcpu xen hypercall vcpuId d =
          hypercallDomctl xen hypercall vcpuId (d.setPauseState vcpuId.toNat target)) := by
  rw [pauseUnpauseVcpu_eq xen ht]
  cases hget : d.vcpuPauseState[vcpuId.toNat]? with
  | none => exact .inl ⟨List.getElem?_eq_none_iff.mp hget, rfl⟩
  | some b =>
    by_cases hb : b = target
    · exact .inr (.inl ⟨hb ▸ rfl, if_pos hb⟩)
    · refine .inr (.inr ⟨(List.getElem?_eq_some_iff.mp hget).1, ?_, if_neg hb⟩)
      cases b <;> cases target <;> simp_all

/-- The commands of the domctls Xen applied for vCPU `v`, oldest first. -/
def Domain.history (d : Domain) (v : VcpuId) : List (BitVec 32) :=
  (d.domctls.filter (·.vcpu = v)).map (·.command)

/-- `pause, unpause, pause, ...`, `n` commands long. -/
def pauseAlternation : Nat → List (BitVec 32)
  | 0 => []
  | n + 1 => pauseAlternation n ++
      [if n % 2 = 0 then xenDomctlGdbsxPausevcpu else xenDomctlGdbsxUnpausevcpu]

@[simp] theorem length_pauseAlternation (n : Nat) : (pauseAlternation n).length = n := by
  induction n with
  | zero => rfl
  | succ n ih => simp [pauseAlternation, ih]

/-- The tracker agrees with Xen: for every vCPU, the domctls Xen applied alternate pause, unpause,
..., starting with a pause, and the tracked bit says whether the last one was a pause. -/
def Domain.Balanced (d : Domain) : Prop :=
  ∀ v : VcpuId, d.history v = pauseAlternation (d.history v).length ∧
    d.vcpuPauseState[v.toNat]?.getD false = decide ((d.history v).length % 2 = 1)

theorem Domain.balanced_new (m : VcpuId) : (Domain.new m).Balanced := fun v => by
  refine ⟨rfl, ?_⟩
  simp only [Domain.new, List.getElem?_replicate]
  split <;> rfl

theorem Domain.history_issue (d : Domain) (dc : Domctl) (w : VcpuId) :
    Domain.history { d with domctls := d.domctls ++ [dc] } w =
      d.history w ++ if dc.vcpu = w then [dc.command] else [] := by
  simp only [Domain.history, List.filter_append, List.map_append, List.filter_cons,
    List.filter_nil, decide_eq_true_eq]
  split <;> rfl

@[simp] theorem Domain.history_setPauseState (d : Domain) (i : Nat) (b : Bool) (w : VcpuId) :
    (d.setPauseState i b).history w = d.history w := rfl

/-- The domctl that changes the tracked bit from the parity of `n` is the `n`-th of the
alternation, and the new bit is the parity of `n + 1`. -/
theorem PauseCommand.next {hypercall : BitVec 32} {target : Bool}
    (ht : PauseCommand hypercall target) {n : Nat} (hb : decide (n % 2 = 1) ≠ target) :
    hypercall = (if n % 2 = 0 then xenDomctlGdbsxPausevcpu else xenDomctlGdbsxUnpausevcpu) ∧
      target = decide ((n + 1) % 2 = 1) := by
  rcases ht with ⟨rfl, rfl⟩ | ⟨rfl, rfl⟩ <;> rcases Nat.mod_two_eq_zero_or_one n with h | h <;>
    simp [h, Nat.add_mod] at hb ⊢

/-- A call of `pause_unpause_vcpu` that returns keeps the tracker in agreement with Xen. -/
theorem Domain.Balanced.pauseUnpauseVcpu {xen : Channel} {hypercall : BitVec 32} {target : Bool}
    (ht : PauseCommand hypercall target) {vcpuId : VcpuId} {d d' : Domain} (hb : d.Balanced)
    (h : Xendbg.pauseUnpauseVcpu xen hypercall vcpuId d = .ok d') : d'.Balanced := by
  rcases pauseUnpauseVcpu_cases xen ht vcpuId d with ⟨-, he⟩ | ⟨-, he⟩ | ⟨hlt, hget, he⟩ <;>
    rw [he] at h
  · cases h
  · cases h; exact hb
  obtain ⟨-, rfl⟩ := hypercallDomctl_ok.mp h
  intro w
  rw [Domain.history_issue, Domain.history_setPauseState]
  by_cases hw : vcpuId = w
  · subst hw
    obtain ⟨hh, hbit⟩ := hb vcpuId
    rw [hget, Option.getD_some] at hbit
    obtain ⟨hc, htgt⟩ := ht.next (hbit ▸ Bool.not_ne_self target)
    simp only [if_true, List.length_append, List.length_singleton,
      Domain.setPauseState_vcpuPauseState, List.getElem?_set_self hlt, Option.getD_some]
    exact ⟨by rw [pauseAlternation, ← hh, hc], htgt⟩
  · simp only [hw, if_false, List.append_nil, Domain.setPauseState_vcpuPauseState]
    rw [List.getElem?_set_ne (fun h => hw (BitVec.eq_of_toNat_eq h))]
    exact hb w

/-! ### Runs of the tracker -/

/-- The loop keeps any property that each returning iteration keeps. -/
theorem forVcpuIds_preserves {P : Domain → Prop} {maxVcpuId : VcpuId} {skip : Option VcpuId}
    {body : VcpuId → Domain → PauseResult} (hbody : ∀ id d d', P d → body id d = .ok d' → P d') :
    ∀ {fuel id d d'}, P d → forVcpuIds maxVcpuId skip body fuel id d = some (.ok d') → P d'
  | 0, _, _, _, _, h => nomatch h
  | fuel + 1, id, d, d', hd, h => by
    unfold forVcpuIds at h
    split at h
    · split at h
      · exact forVcpuIds_preserves hbody hd h
      · split at h
        · exact forVcpuIds_preserves hbody (hbody _ _ _ hd ‹_›) h
        · cases h
    · cases h; exact hd

/-- The six public operations of the tracker; the loops carry the `max_vcpu_id` that
`get_dominfo()` reports when they run. -/
inductive PauseOp where
  | pauseVcpu (vcpuId : VcpuId)
  | unpauseVcpu (vcpuId : VcpuId)
  | pauseVcpusExcept (maxVcpuId vcpuId : VcpuId)
  | unpauseVcpusExcept (maxVcpuId vcpuId : VcpuId)
  | pauseAllVcpus (maxVcpuId : VcpuId)
  | unpauseAllVcpus (maxVcpuId : VcpuId)
  deriving DecidableEq, Repr

/-- One call of an operation; `none` when its loop does not end. -/
def PauseOp.run (xen : Channel) : PauseOp → Domain → Option PauseResult
  | .pauseVcpu v, d => some (Xendbg.pauseVcpu xen v d)
  | .unpauseVcpu v, d => some (Xendbg.unpauseVcpu xen v d)
  | .pauseVcpusExcept m v, d => Xendbg.pauseVcpusExcept xen m v d
  | .unpauseVcpusExcept m v, d => Xendbg.unpauseVcpusExcept xen m v d
  | .pauseAllVcpus m, d => Xendbg.pauseAllVcpus xen m d
  | .unpauseAllVcpus m, d => Xendbg.unpauseAllVcpus xen m d

/-- The trackers a freshly constructed `Domain` reaches through operations that return. -/
inductive PauseReachable (xen : Channel) : Domain → Prop
  | new (maxVcpuId : VcpuId) : PauseReachable xen (Domain.new maxVcpuId)
  | step {d d' : Domain} (op : PauseOp) :
      PauseReachable xen d → op.run xen d = some (.ok d') → PauseReachable xen d'

theorem Domain.Balanced.run {xen : Channel} {op : PauseOp} {d d' : Domain} (hb : d.Balanced)
    (h : op.run xen d = some (.ok d')) : d'.Balanced := by
  have hp : PauseCommand xenDomctlGdbsxPausevcpu true := .inl ⟨rfl, rfl⟩
  have hu : PauseCommand xenDomctlGdbsxUnpausevcpu false := .inr ⟨rfl, rfl⟩
  cases op <;> simp only [PauseOp.run, Option.some.injEq] at h
  case pauseVcpu => exact hb.pauseUnpauseVcpu hp h
  case unpauseVcpu => exact hb.pauseUnpauseVcpu hu h
  all_goals exact forVcpuIds_preserves (fun _ _ _ hd h => hd.pauseUnpauseVcpu ‹_› h) hb h

theorem PauseReachable.balanced {xen : Channel} {d : Domain} (hr : PauseReachable xen d) :
    d.Balanced := by
  induction hr with
  | new m => exact Domain.balanced_new m
  | step _ _ h ih => exact ih.run h

theorem getElem?_pauseAlternation {n i : Nat} (hi : i < n) : (pauseAlternation n)[i]? =
    some (if i % 2 = 0 then xenDomctlGdbsxPausevcpu else xenDomctlGdbsxUnpausevcpu) := by
  induction n with
  | zero => omega
  | succ n ih =>
    rw [pauseAlternation]
    rcases Nat.lt_succ_iff_lt_or_eq.mp hi with hi | rfl
    · rw [List.getElem?_append_left (by rw [length_pauseAlternation]; exact hi), ih hi]
    · rw [List.getElem?_append_right (by rw [length_pauseAlternation]), length_pauseAlternation,
        Nat.sub_self]; rfl

theorem count_pauseAlternation (n : Nat) : (pauseAlternation n).count xenDomctlGdbsxPausevcpu =
    (pauseAlternation n).count xenDomctlGdbsxUnpausevcpu + n % 2 := by
  induction n with
  | zero => rfl
  | succ n ih =>
    have hpu : (xenDomctlGdbsxPausevcpu == xenDomctlGdbsxUnpausevcpu) = false := rfl
    have hup : (xenDomctlGdbsxUnpausevcpu == xenDomctlGdbsxPausevcpu) = false := rfl
    simp only [pauseAlternation, List.count_append, ih, List.count_singleton]
    rcases Nat.mod_two_eq_zero_or_one n with h | h <;> simp [h, hpu, hup, Nat.add_mod]

/-- Along every run of the tracker from its construction, whatever Xen accepts or refuses, the
domctls Xen applied for each vCPU alternate pause, unpause, ..., starting with a pause, and the
pauses outnumber the unpauses by the tracked bit. -/
theorem pause_hypercalls_alternate {xen : Channel} {d : Domain} (hr : PauseReachable xen d)
    (v : VcpuId) :
    (∀ i < (d.history v).length, (d.history v)[i]? =
        some (if i % 2 = 0 then xenDomctlGdbsxPausevcpu else xenDomctlGdbsxUnpausevcpu)) ∧
      (d.history v).count xenDomctlGdbsxPausevcpu =
        (d.history v).count xenDomctlGdbsxUnpausevcpu +
          (d.vcpuPauseState[v.toNat]?.getD false).toNat := by
  obtain ⟨hh, hbit⟩ := hr.balanced v
  refine ⟨fun i hi => by rw [hh]; exact getElem?_pauseAlternation hi, ?_⟩
  rw [hbit, hh, count_pauseAlternation, length_pauseAlternation]
  rcases Nat.mod_two_eq_zero_or_one (d.history v).length with h | h <;> simp [h]

/-- A domain of two vCPUs after `pause_vcpu(0)`. -/
def pausedFirst : Domain :=
  { (Domain.new 1).setPauseState 0 true with domctls := [⟨xenDomctlGdbsxPausevcpu, 0⟩] }

/-- Then after `pause_vcpus_except(0)`. -/
def pausedBoth : Domain :=
  { pausedFirst.setPauseState 1 true with
    domctls := [⟨xenDomctlGdbsxPausevcpu, 0⟩, ⟨xenDomctlGdbsxPausevcpu, 1⟩] }

/-- Two calls that Xen accepts on a domain of two vCPUs: `pause_vcpu(0)`, then
`pause_vcpus_except(0)`. -/
theorem pause_hypercalls_alternate_two_calls :
    PauseReachable (fun _ _ => true) pausedBoth ∧
      ((∀ i < (pausedBoth.history 1).length, (pausedBoth.history 1)[i]? =
        some (if i % 2 = 0 then xenDomctlGdbsxPausevcpu else xenDomctlGdbsxUnpausevcpu)) ∧
      (pausedBoth.history 1).count xenDomctlGdbsxPausevcpu =
        (pausedBoth.history 1).count xenDomctlGdbsxUnpausevcpu +
          (pausedBoth.vcpuPauseState[(1 : VcpuId).toNat]?.getD false).toNat) := by
  have h1 : PauseReachable (fun _ _ => true) pausedFirst := .step (.pauseVcpu 0) (.new 1) rfl
  have hr : PauseReachable (fun _ _ => true) pausedBoth := .step (.pauseVcpusExcept 1 0) h1 rfl
  exact ⟨hr, pause_hypercalls_alternate hr 1⟩

/-! ### A call whose domctl Xen refuses -/

theorem hypercallDomctl_error {xen : Channel} {command : BitVec 32} {vcpuId : VcpuId}
    {d d' : Domain} {e : PauseError} (h : hypercallDomctl xen command vcpuId d = .error (e, d')) :
    xen d.domctls ⟨command, vcpuId⟩ = false ∧ e = .hypercallFailed ⟨command, vcpuId⟩ ∧ d' = d := by
  unfold hypercallDomctl at h
  dsimp only at h
  split at h
  · cases h
  · rename_i hx
    cases h; exact ⟨Bool.eq_false_iff.mpr hx, rfl, rfl⟩

/-- When Xen refuses the domctl, `pause_unpause_vcpu` raises with the bit already written: the
vCPU is tracked at the requested state, which it was not in before, and Xen applied nothing.  So
a refusal breaks the agreement between the tracker and Xen. -/
theorem pauseUnpauseVcpu_refused_keeps_bit {xen : Channel} {hypercall : BitVec 32} {target : Bool}
    (ht : PauseCommand hypercall target) {vcpuId : VcpuId} {d d' : Domain} {dc : Domctl}
    (h : pauseUnpauseVcpu xen hypercall vcpuId d = .error (.hypercallFailed dc, d')) :
    d.vcpuPauseState[vcpuId.toNat]? = some !target ∧
      d'.vcpuPauseState = d.vcpuPauseState.set vcpuId.toNat target ∧ d'.domctls = d.domctls ∧
      dc = ⟨hypercall, vcpuId⟩ ∧ (d.Balanced → ¬ d'.Balanced) := by
  rcases pauseUnpauseVcpu_cases xen ht vcpuId d with ⟨-, he⟩ | ⟨-, he⟩ | ⟨hlt, hget, he⟩ <;>
    rw [he] at h
  · cases h
  · cases h
  obtain ⟨-, hdc, rfl⟩ := hypercallDomctl_error h
  refine ⟨hget, rfl, rfl, PauseError.hypercallFailed.inj hdc, fun hbal hbal' => ?_⟩
  have h₁ := (hbal vcpuId).2
  have h₂ := (hbal' vcpuId).2
  rw [hget, Option.getD_some] at h₁
  simp only [Domain.history_setPauseState, Domain.setPauseState_vcpuPauseState,
    List.getElem?_set_self hlt, Option.getD_some] at h₂
  exact Bool.not_ne_self target (h₁.trans h₂.symm)

/-- Xen's channel when it refuses every pause and applies every unpause. -/
def refusingPauses : Channel := fun _ dc => dc.command != xenDomctlGdbsxPausevcpu

/-- On a fresh domain whose only vCPU is 0, a pause Xen refuses raises with vCPU 0 tracked as
paused, so the tracker no longer agrees with Xen, and the next `unpause_vcpu(0)` issues an
unpause that no pause precedes. -/
theorem refused_pause_marks_paused :
    pauseVcpu refusingPauses 0 (Domain.new 0) =
        .error (.hypercallFailed ⟨xenDomctlGdbsxPausevcpu, 0⟩,
          (Domain.new 0).setPauseState 0 true) ∧
      ((Domain.new 0).setPauseState 0 true).vcpuPauseState ≠ (Domain.new 0).vcpuPauseState ∧
      ¬ ((Domain.new 0).setPauseState 0 true).Balanced ∧
      ∃ d, unpauseVcpu refusingPauses 0 ((Domain.new 0).setPauseState 0 true) = .ok d ∧
        d.history 0 = [xenDomctlGdbsxUnpausevcpu] :=
  have h : pauseVcpu refusingPauses 0 (Domain.new 0) =
      .error (.hypercallFailed ⟨xenDomctlGdbsxPausevcpu, 0⟩, (Domain.new 0).setPauseState 0 true) :=
    rfl
  ⟨h, by decide,
    (pauseUnpauseVcpu_refused_keeps_bit (.inl ⟨rfl, rfl⟩) h).2.2.2.2 (Domain.balanced_new 0),
    _, rfl, rfl⟩

/-! ### An id past `max_vcpu_id` -/

/-- `pause_unpause_vcpu` reads `_vcpu_pause_state[vcpu_id]` without comparing `vcpu_id` with
`max_vcpu_id`: for an id past it the read is beyond the vector. -/
theorem pauseUnpauseVcpu_past_max (xen : Channel) {hypercall : BitVec 32} {target : Bool}
    (ht : PauseCommand hypercall target) {d : Domain} {vcpuId : VcpuId}
    (hv : d.maxVcpuId < vcpuId) : d.vcpuPauseState.length ≤ vcpuId.toNat ∧
      pauseUnpauseVcpu xen hypercall vcpuId d = .error (.outOfBounds vcpuId.toNat, d) := by
  have hle : d.vcpuPauseState.length ≤ vcpuId.toNat := by
    have h1 : (1 : VcpuId).toNat = 1 := rfl
    rw [d.length_eq, BitVec.toNat_add, h1]
    rw [BitVec.lt_def] at hv
    omega
  rw [pauseUnpauseVcpu_eq xen ht, List.getElem?_eq_none hle]
  exact ⟨hle, rfl⟩

/-- `pause_vcpu(2)` and `unpause_vcpu(2)` on a domain whose `max_vcpu_id` is 1 read the third
bit of a two-bit tracker. -/
theorem pause_vcpu_past_max_reads_beyond_tracker (xen : Channel) :
    (Domain.new 1).vcpuPauseState.length = 2 ∧
      pauseVcpu xen 2 (Domain.new 1) = .error (.outOfBounds 2, Domain.new 1) ∧
      unpauseVcpu xen 2 (Domain.new 1) = .error (.outOfBounds 2, Domain.new 1) :=
  ⟨rfl, (pauseUnpauseVcpu_past_max xen (.inl ⟨rfl, rfl⟩) (by decide)).2,
    (pauseUnpauseVcpu_past_max xen (.inr ⟨rfl, rfl⟩) (by decide)).2⟩

/-! ### The loops when Xen accepts every domctl -/

/-- Iteration `i` of a loop that skips `skip` and drives every bit to `target`, when `i` is in
range and Xen accepts the domctl. -/
def sweepStep (hypercall : BitVec 32) (target : Bool) (skip : Option VcpuId) (d : Domain)
    (i : Nat) : Domain :=
  if skip ≠ some (BitVec.ofNat 32 i) ∧ d.vcpuPauseState[i]? ≠ some target then
    { d.setPauseState i target with domctls := d.domctls ++ [⟨hypercall, BitVec.ofNat 32 i⟩] }
  else d

section Sweep

variable {hypercall : BitVec 32} {target : Bool} {skip : Option VcpuId}

@[simp] theorem length_sweepStep (d : Domain) (i : Nat) :
    (sweepStep hypercall target skip d i).vcpuPauseState.length = d.vcpuPauseState.length := by
  unfold sweepStep; split <;> simp

theorem getElem?_sweepStep_ne (d : Domain) {i j : Nat} (h : j ≠ i) :
    (sweepStep hypercall target skip d i).vcpuPauseState[j]? = d.vcpuPauseState[j]? := by
  unfold sweepStep; split
  · exact List.getElem?_set_ne (Ne.symm h)
  · rfl

theorem getElem?_sweepStep_self (d : Domain) {i : Nat} (hi : i < d.vcpuPauseState.length) :
    (sweepStep hypercall target skip d i).vcpuPauseState[i]? =
      if skip = some (BitVec.ofNat 32 i) then d.vcpuPauseState[i]? else some target := by
  unfold sweepStep
  by_cases hs : skip = some (BitVec.ofNat 32 i)
  · simp [hs]
  · by_cases hb : d.vcpuPauseState[i]? = some target <;>
      simp [hs, hb, List.getElem?_set_self hi]

theorem domctls_sweepStep (d : Domain) (i : Nat) :
    (sweepStep hypercall target skip d i).domctls = d.domctls ++
      if skip ≠ some (BitVec.ofNat 32 i) ∧ d.vcpuPauseState[i]? ≠ some target then
        [⟨hypercall, BitVec.ofNat 32 i⟩] else [] := by
  unfold sweepStep; split <;> simp

theorem ofNat_le_iff {k : Nat} (hk : k < 2 ^ 32) {m : VcpuId} :
    BitVec.ofNat 32 k ≤ m ↔ k ≤ m.toNat := by
  rw [BitVec.le_def, BitVec.toNat_ofNat, Nat.mod_eq_of_lt hk]

/-- A call for an id in range, not skipped, that Xen accepts is `sweepStep`. -/
theorem pauseUnpauseVcpu_accepted {xen : Channel} (hxen : ∀ h dc, xen h dc = true)
    (ht : PauseCommand hypercall target) {d : Domain} {i : Nat} (hi : i < d.vcpuPauseState.length)
    (h32 : i < 2 ^ 32) (hs : skip ≠ some (BitVec.ofNat 32 i)) :
    pauseUnpauseVcpu xen hypercall (BitVec.ofNat 32 i) d =
      .ok (sweepStep hypercall target skip d i) := by
  rw [pauseUnpauseVcpu_eq xen ht, BitVec.toNat_ofNat, Nat.mod_eq_of_lt h32,
    List.getElem?_eq_getElem hi, sweepStep, List.getElem?_eq_getElem hi]
  dsimp only
  by_cases hb : d.vcpuPauseState[i] = target
  · simp [hb]
  · simp only [hb, if_false, hs, ne_eq, Option.some.injEq, not_false_eq_true, and_self, if_true]
    exact hypercallDomctl_ok.mpr ⟨hxen _ _, rfl⟩

/-- From `id = k`, with `n` ids left to `maxVcpuId`, a loop whose every domctl Xen accepts is the
fold of `sweepStep` over `k .. k + n - 1`. -/
theorem forVcpuIds_accepted {xen : Channel} (hxen : ∀ h dc, xen h dc = true)
    (ht : PauseCommand hypercall target) {maxVcpuId : VcpuId} (hm : maxVcpuId.toNat + 1 < 2 ^ 32) :
    ∀ (n k fuel : Nat) (d : Domain), k + n = maxVcpuId.toNat + 1 →
      maxVcpuId.toNat + 1 = d.vcpuPauseState.length → n < fuel →
      forVcpuIds maxVcpuId skip (pauseUnpauseVcpu xen hypercall) fuel (BitVec.ofNat 32 k) d =
        some (.ok ((List.range' k n).foldl (sweepStep hypercall target skip) d))
  | _, _, 0, _, _, _, hf => absurd hf (Nat.not_lt_zero _)
  | 0, k, fuel + 1, d, hk, _, _ => by
    rw [forVcpuIds, if_neg fun h => absurd ((ofNat_le_iff (by omega)).mp h) (by omega)]; rfl
  | n + 1, k, fuel + 1, d, hk, hd, hf => by
    have hk32 : k < 2 ^ 32 := by omega
    have hle : BitVec.ofNat 32 k ≤ maxVcpuId := (ofNat_le_iff hk32).mpr (by omega)
    have hd' : d.vcpuPauseState.length =
        (sweepStep hypercall target skip d k).vcpuPauseState.length := (length_sweepStep d k).symm
    rw [forVcpuIds, if_pos hle, List.range'_succ, List.foldl_cons, ofNat_succ]
    by_cases hs : skip = some (BitVec.ofNat 32 k)
    · have hstep : sweepStep hypercall target skip d k = d := by simp [sweepStep, hs]
      rw [if_pos hs, hstep]
      exact forVcpuIds_accepted hxen ht hm n (k + 1) fuel d (by omega) hd (by omega)
    · rw [if_neg hs, pauseUnpauseVcpu_accepted hxen ht (by omega) hk32 hs]
      exact forVcpuIds_accepted hxen ht hm n (k + 1) fuel _ (by omega) (hd.trans hd') (by omega)

/-- Over distinct ids in range, the fold drives every id it visits and does not skip to `target`,
and issues one domctl, in order, for each of them whose bit was not `target` already. -/
theorem foldl_sweepStep (l : List Nat) (hl : l.Nodup) (d : Domain)
    (hin : ∀ i ∈ l, i < d.vcpuPauseState.length) :
    (∀ j, (l.foldl (sweepStep hypercall target skip) d).vcpuPauseState[j]? =
      if j ∈ l ∧ skip ≠ some (BitVec.ofNat 32 j) then some target else d.vcpuPauseState[j]?) ∧
    (l.foldl (sweepStep hypercall target skip) d).domctls = d.domctls ++
      (l.filter fun i => skip ≠ some (BitVec.ofNat 32 i) ∧ d.vcpuPauseState[i]? ≠ some target).map
        fun i => ⟨hypercall, BitVec.ofNat 32 i⟩ := by
  induction l generalizing d with
  | nil => simp
  | cons i l ih =>
    obtain ⟨hil, hl⟩ := List.nodup_cons.mp hl
    obtain ⟨ihb, ihd⟩ := ih hl (sweepStep hypercall target skip d i)
      (fun j hj => by rw [length_sweepStep]; exact hin j (List.mem_cons_of_mem _ hj))
    have hframe : ∀ j ∈ l, (sweepStep hypercall target skip d i).vcpuPauseState[j]? =
        d.vcpuPauseState[j]? := fun j hj =>
      getElem?_sweepStep_ne d (fun h => hil (h ▸ hj))
    rw [List.foldl_cons]
    refine ⟨fun j => ?_, ?_⟩
    · rw [ihb j]
      by_cases hj : j = i
      · subst hj
        rw [getElem?_sweepStep_self d (hin j (List.mem_cons_self _ _))]
        by_cases hs : skip = some (BitVec.ofNat 32 j) <;> simp [hil, hs]
      · simp [hj, getElem?_sweepStep_ne d hj]
    · rw [ihd, domctls_sweepStep, List.filter_congr (fun j hj => by rw [hframe j hj]),
        List.filter_cons]
      by_cases hc : skip ≠ some (BitVec.ofNat 32 i) ∧ d.vcpuPauseState[i]? ≠ some target
      · simp only [if_pos hc, decide_eq_true hc, if_true, List.map_cons, List.append_assoc,
          List.singleton_append]
      · simp only [if_neg hc, decide_eq_false hc, List.append_nil, Bool.false_eq_true, if_false]
      
/-- What the loop over `0 .. maxVcpuId` that skips `skip` and asks for `target` leaves: every bit
it does not skip at `target` and the skipped one as it was, with one domctl for each id it does
not skip whose bit was not `target`, in increasing order, and no other. -/
def Swept (hypercall : BitVec 32) (target : Bool) (maxVcpuId : VcpuId) (skip : Option VcpuId)
    (d d' : Domain) : Prop :=
  (∀ u : VcpuId, u ≤ maxVcpuId → d'.vcpuPauseState[u.toNat]? =
      if skip = some u then d.vcpuPauseState[u.toNat]? else some target) ∧
    d'.domctls = d.domctls ++ ((List.range (maxVcpuId.toNat + 1)).filter fun i =>
      skip ≠ some (BitVec.ofNat 32 i) ∧ d.vcpuPauseState[i]? ≠ some target).map
        fun i => ⟨hypercall, BitVec.ofNat 32 i⟩

/-- When `get_dominfo()` reports the `max_vcpu_id` the tracker was sized for and Xen accepts every
domctl, the loop ends and leaves `Swept`. -/
theorem forVcpuIds_swept {xen : Channel} (hxen : ∀ h dc, xen h dc = true)
    (ht : PauseCommand hypercall target) (skip : Option VcpuId) {maxVcpuId : VcpuId} {d : Domain}
    (hm : maxVcpuId.toNat + 1 = d.vcpuPauseState.length) :
    ∃ d', forVcpuIds maxVcpuId skip (pauseUnpauseVcpu xen hypercall) vcpuLoopFuel 0 d =
      some (.ok d') ∧ Swept hypercall target maxVcpuId skip d d' := by
  have hm32 : maxVcpuId.toNat + 1 < 2 ^ 32 := hm ▸ d.length_eq ▸ BitVec.isLt _
  refine ⟨_, forVcpuIds_accepted hxen ht hm32 (maxVcpuId.toNat + 1) 0 vcpuLoopFuel d (by omega) hm
    (by unfold vcpuLoopFuel; omega), ?_⟩
  obtain ⟨hb, hd⟩ := @foldl_sweepStep hypercall target skip
    (List.range' 0 (maxVcpuId.toNat + 1)) (List.nodup_range' _ _) d
    (fun i hi => by rw [List.mem_range'_1] at hi; omega)
  refine ⟨fun u hu => ?_, by rw [hd, List.range_eq_range']⟩
  rw [BitVec.le_def] at hu
  rw [hb, BitVec.ofNat_toNat, BitVec.setWidth_eq]
  by_cases hs : skip = some u
  · simp [hs]
  · simp [hs, List.mem_range'_1]; omega

end Sweep

/-- The four loops, on any tracker, when `get_dominfo()` reports the `max_vcpu_id` the tracker was
sized for and Xen accepts every domctl: each returns, with every bit but the excluded one driven to
its target and one domctl for each bit it changed, in increasing order. -/
theorem vcpu_loops_swept {xen : Channel} (hxen : ∀ h dc, xen h dc = true) {d : Domain}
    {maxVcpuId : VcpuId} (hm : maxVcpuId.toNat + 1 = d.vcpuPauseState.length) (vcpuId : VcpuId) :
    (∃ d', pauseVcpusExcept xen maxVcpuId vcpuId d = some (.ok d') ∧
      Swept xenDomctlGdbsxPausevcpu true maxVcpuId (some vcpuId) d d') ∧
    (∃ d', unpauseVcpusExcept xen maxVcpuId vcpuId d = some (.ok d') ∧
      Swept xenDomctlGdbsxUnpausevcpu false maxVcpuId (some vcpuId) d d') ∧
    (∃ d', pauseAllVcpus xen maxVcpuId d = some (.ok d') ∧
      Swept xenDomctlGdbsxPausevcpu true maxVcpuId none d d') ∧
    (∃ d', unpauseAllVcpus xen maxVcpuId d = some (.ok d') ∧
      Swept xenDomctlGdbsxUnpausevcpu false maxVcpuId none d d') :=
  ⟨forVcpuIds_swept hxen (.inl ⟨rfl, rfl⟩) _ hm, forVcpuIds_swept hxen (.inr ⟨rfl, rfl⟩) _ hm,
    forVcpuIds_swept hxen (.inl ⟨rfl, rfl⟩) _ hm, forVcpuIds_swept hxen (.inr ⟨rfl, rfl⟩) _ hm⟩

theorem vcpu_loops_swept_two :
    (∀ h dc, (fun _ _ => true : Channel) h dc = true) ∧
      (1 : VcpuId).toNat + 1 = (Domain.new 1).vcpuPauseState.length ∧
    ((∃ d', pauseVcpusExcept (fun _ _ => true) 1 0 (Domain.new 1) = some (.ok d') ∧
      Swept xenDomctlGdbsxPausevcpu true 1 (some 0) (Domain.new 1) d') ∧
    (∃ d', unpauseVcpusExcept (fun _ _ => true) 1 0 (Domain.new 1) = some (.ok d') ∧
      Swept xenDomctlGdbsxUnpausevcpu false 1 (some 0) (Domain.new 1) d') ∧
    (∃ d', pauseAllVcpus (fun _ _ => true) 1 (Domain.new 1) = some (.ok d') ∧
      Swept xenDomctlGdbsxPausevcpu true 1 none (Domain.new 1) d') ∧
    (∃ d', unpauseAllVcpus (fun _ _ => true) 1 (Domain.new 1) = some (.ok d') ∧
      Swept xenDomctlGdbsxUnpausevcpu false 1 none (Domain.new 1) d')) :=
  have hm : (1 : VcpuId).toNat + 1 = (Domain.new 1).vcpuPauseState.length := rfl
  ⟨fun _ _ => rfl, hm, vcpu_loops_swept (fun _ _ => rfl) hm 0⟩

/-! ### The bound of the loops -/

/-- More fuel does not change a loop that returned. -/
theorem forVcpuIds_fuel_le {maxVcpuId : VcpuId} {skip : Option VcpuId}
    {body : VcpuId → Domain → PauseResult} :
    ∀ {fuel fuel' : Nat} {id : VcpuId} {d : Domain} {r : PauseResult}, fuel ≤ fuel' →
      forVcpuIds maxVcpuId skip body fuel id d = some r →
      forVcpuIds maxVcpuId skip body fuel' id d = some r
  | 0, _, _, _, _, _, h => nomatch h
  | _ + 1, 0, _, _, _, hle, _ => absurd hle (by omega)
  | fuel + 1, fuel' + 1, id, d, r, hle, h => by
    unfold forVcpuIds at h ⊢
    split_ifs at h ⊢
    · exact forVcpuIds_fuel_le (by omega) h
    · split at h
      · exact forVcpuIds_fuel_le (by omega) h
      · exact h
    · exact h

/-- From `id = k`, with `n` ids left to a `maxVcpuId` below `0xFFFFFFFF` and a tracker sized for
it, the loop returns within `n` iterations, and never with a read outside the tracker: it ends
after `maxVcpuId` or at a domctl Xen refuses. -/
theorem forVcpuIds_in_bounds (xen : Channel) {hypercall : BitVec 32} {target : Bool}
    (ht : PauseCommand hypercall target) {maxVcpuId : VcpuId} {skip : Option VcpuId}
    (hm : maxVcpuId.toNat + 1 < 2 ^ 32) :
    ∀ (n k fuel : Nat) (d : Domain), k + n = maxVcpuId.toNat + 1 →
      maxVcpuId.toNat + 1 = d.vcpuPauseState.length → n < fuel →
      ∃ r, forVcpuIds maxVcpuId skip (pauseUnpauseVcpu xen hypercall) fuel (BitVec.ofNat 32 k) d =
        some r ∧ ∀ i d', r ≠ .error (.outOfBounds i, d')
  | _, _, 0, _, _, _, hf => absurd hf (Nat.not_lt_zero _)
  | 0, k, fuel + 1, d, hk, _, _ => by
    rw [forVcpuIds, if_neg fun h => absurd ((ofNat_le_iff (by omega)).mp h) (by omega)]
    exact ⟨_, rfl, fun _ _ h => nomatch h⟩
  | n + 1, k, fuel + 1, d, hk, hd, hf => by
    have hk32 : k < 2 ^ 32 := by omega
    have hle : BitVec.ofNat 32 k ≤ maxVcpuId := (ofNat_le_iff hk32).mpr (by omega)
    have hrec := fun (d' : Domain) (hd' : maxVcpuId.toNat + 1 = d'.vcpuPauseState.length) =>
      @forVcpuIds_in_bounds xen _ _ ht _ skip hm n (k + 1) fuel d' (by omega) hd' (by omega)
    rw [forVcpuIds, if_pos hle, ofNat_succ]
    by_cases hs : skip = some (BitVec.ofNat 32 k)
    · rw [if_pos hs]; exact hrec d hd
    rw [if_neg hs]
    have hto : (BitVec.ofNat 32 k).toNat = k := by rw [BitVec.toNat_ofNat, Nat.mod_eq_of_lt hk32]
    rcases pauseUnpauseVcpu_cases xen ht (BitVec.ofNat 32 k) d with
      ⟨hlen, -⟩ | ⟨-, hok⟩ | ⟨-, -, hcall⟩
    · omega
    · rw [hok]; exact hrec d hd
    · rw [hcall]
      rcases hx : hypercallDomctl xen hypercall (BitVec.ofNat 32 k)
        (d.setPauseState (BitVec.ofNat 32 k).toNat target) with ⟨e, d'⟩ | d'
      · obtain ⟨-, rfl, -⟩ := hypercallDomctl_error hx
        exact ⟨_, rfl, fun _ _ h => nomatch h⟩
      · obtain ⟨-, rfl⟩ := hypercallDomctl_ok.mp hx
        exact hrec _ (by simp [hd])

/-- With `max_vcpu_id` the one the tracker was sized for, `pause_unpause_vcpus_except` and
`pause_unpause_all_vcpus` (the loop with `skip` some vCPU or none) return after at most
`max_vcpu_id + 1` iterations, none of which reads outside the tracker. -/
theorem vcpu_loops_end_in_bounds (xen : Channel) {hypercall : BitVec 32} {target : Bool}
    (ht : PauseCommand hypercall target) {d : Domain} {maxVcpuId : VcpuId}
    (hm : maxVcpuId.toNat + 1 = d.vcpuPauseState.length) (skip : Option VcpuId) :
    ∃ r, forVcpuIds maxVcpuId skip (pauseUnpauseVcpu xen hypercall) (maxVcpuId.toNat + 2) 0 d =
        some r ∧
      forVcpuIds maxVcpuId skip (pauseUnpauseVcpu xen hypercall) vcpuLoopFuel 0 d = some r ∧
      ∀ i d', r ≠ .error (.outOfBounds i, d') := by
  have hm32 : maxVcpuId.toNat + 1 < 2 ^ 32 := hm ▸ d.length_eq ▸ BitVec.isLt _
  obtain ⟨r, hr, hin⟩ := forVcpuIds_in_bounds xen ht hm32 (maxVcpuId.toNat + 1) 0 _ d (by omega) hm
    (Nat.lt_succ_self _)
  exact ⟨r, hr, forVcpuIds_fuel_le (by unfold vcpuLoopFuel; omega) hr, hin⟩

/-- On a two-vCPU domain whose pauses Xen refuses, `pause_unpause_all_vcpus(PAUSE)` stops at the
refused pause of vCPU 0. -/
theorem vcpu_loops_end_in_bounds_refused :
    PauseCommand xenDomctlGdbsxPausevcpu true ∧
      (1 : VcpuId).toNat + 1 = (Domain.new 1).vcpuPauseState.length ∧
      ∃ r, forVcpuIds 1 none (pauseUnpauseVcpu refusingPauses xenDomctlGdbsxPausevcpu)
          ((1 : VcpuId).toNat + 2) 0 (Domain.new 1) = some r ∧
        forVcpuIds 1 none (pauseUnpauseVcpu refusingPauses xenDomctlGdbsxPausevcpu) vcpuLoopFuel 0
          (Domain.new 1) = some r ∧
        ∀ i d', r ≠ .error (.outOfBounds i, d') := by
  refine ⟨?pause, ?sized, vcpu_loops_end_in_bounds refusingPauses ?pause ?sized none⟩
  case pause => exact .inl ⟨rfl, rfl⟩
  case sized => rfl

/-- For a domain with no vCPUs Xen reports `max_vcpu_id = 0xFFFFFFFF`: the constructor's
`max_vcpu_id + 1` wraps to an empty tracker, and the loops read outside it at their first
iteration, at id 0, or at id 1 when they skip vCPU 0. -/
theorem vcpu_tracker_wraps_at_invalid_max (xen : Channel) :
    (Domain.new 0xFFFFFFFF).vcpuPauseState.length = 0 ∧
      pauseAllVcpus xen 0xFFFFFFFF (Domain.new 0xFFFFFFFF) =
        some (.error (.outOfBounds 0, Domain.new 0xFFFFFFFF)) ∧
      pauseVcpusExcept xen 0xFFFFFFFF 0 (Domain.new 0xFFFFFFFF) =
        some (.error (.outOfBounds 1, Domain.new 0xFFFFFFFF)) :=
  ⟨rfl, rfl, rfl⟩

/-! ### A stop-and-resume cycle -/

theorem length_pauseUnpauseVcpu {xen : Channel} {hypercall : BitVec 32} {target : Bool}
    (ht : PauseCommand hypercall target) {vcpuId : VcpuId} {d d' : Domain}
    (h : pauseUnpauseVcpu xen hypercall vcpuId d = .ok d') :
    d'.vcpuPauseState.length = d.vcpuPauseState.length := by
  rcases pauseUnpauseVcpu_cases xen ht vcpuId d with ⟨-, he⟩ | ⟨-, he⟩ | ⟨-, -, he⟩ <;>
    rw [he] at h
  · cases h
  · cases h; rfl
  · obtain ⟨-, rfl⟩ := hypercallDomctl_ok.mp h
    simp

/-- What the debugger does around a stop, `pause_vcpus_except(v)` and then
`unpause_vcpus_except(v)`, when `get_dominfo()` reports the `max_vcpu_id` the tracker was sized for
and Xen accepts every domctl: both loops return, every vCPU but `v` ends running, also one that
was paused before the stop, and `v` keeps its bit.  Xen gets a pause for each other vCPU that was
running and then an unpause for every other vCPU, each in increasing order: the cycle does not
give back a pause made before it. -/
theorem pause_resume_cycle_runs_others {xen : Channel} (hxen : ∀ h dc, xen h dc = true)
    {d : Domain} {maxVcpuId : VcpuId} (hm : maxVcpuId.toNat + 1 = d.vcpuPauseState.length)
    (vcpuId : VcpuId) :
    ∃ d₁ d₂, pauseVcpusExcept xen maxVcpuId vcpuId d = some (.ok d₁) ∧
      unpauseVcpusExcept xen maxVcpuId vcpuId d₁ = some (.ok d₂) ∧
      (∀ u : VcpuId, u ≤ maxVcpuId → d₂.vcpuPauseState[u.toNat]? =
        if u = vcpuId then d.vcpuPauseState[u.toNat]? else some false) ∧
      d₂.domctls = d.domctls ++
        ((List.range (maxVcpuId.toNat + 1)).filter fun i =>
          some vcpuId ≠ some (BitVec.ofNat 32 i) ∧ d.vcpuPauseState[i]? ≠ some true).map
            (fun i => ⟨xenDomctlGdbsxPausevcpu, BitVec.ofNat 32 i⟩) ++
        ((List.range (maxVcpuId.toNat + 1)).filter fun i => BitVec.ofNat 32 i ≠ vcpuId).map
          (fun i => ⟨xenDomctlGdbsxUnpausevcpu, BitVec.ofNat 32 i⟩) := by
  have hp : PauseCommand xenDomctlGdbsxPausevcpu true := .inl ⟨rfl, rfl⟩
  have hu : PauseCommand xenDomctlGdbsxUnpausevcpu false := .inr ⟨rfl, rfl⟩
  obtain ⟨d₁, h₁, hbits₁, hdom₁⟩ := forVcpuIds_swept hxen hp (some vcpuId) hm
  have hm₁ : maxVcpuId.toNat + 1 = d₁.vcpuPauseState.length :=
    hm.trans (forVcpuIds_preserves (P := fun d' => d'.vcpuPauseState.length = d.vcpuPauseState.length)
      (fun _ _ _ hd h => (length_pauseUnpauseVcpu hp h).trans hd) rfl h₁).symm
  obtain ⟨d₂, h₂, hbits₂, hdom₂⟩ := forVcpuIds_swept hxen hu (some vcpuId) hm₁
  refine ⟨d₁, d₂, h₁, h₂, fun u hu' => ?_, ?_⟩
  · rw [hbits₂ u hu', hbits₁ u hu']
    by_cases huv : u = vcpuId
    · simp [huv]
    · simp [Ne.symm huv, huv]
  · rw [hdom₂, hdom₁]
    congr 2
    refine List.filter_congr fun i hi => ?_
    rw [List.mem_range] at hi
    have hi32 : (BitVec.ofNat 32 i).toNat = i := by
      rw [BitVec.toNat_ofNat, Nat.mod_eq_of_lt (by omega)]
    have hb := hbits₁ (BitVec.ofNat 32 i) ((ofNat_le_iff (by omega)).mpr (by omega))
    rw [hi32] at hb
    by_cases hv : BitVec.ofNat 32 i = vcpuId
    · simp [hv]
    · simp [hv, hb, Ne.symm hv]

/-- Two running vCPUs, the second paused by `pause_vcpu` before the stop. -/
def secondPaused : Domain := (Domain.new 1).setPauseState 1 true

theorem pause_resume_cycle_runs_others_two :
    (∀ h dc, (fun _ _ => true : Channel) h dc = true) ∧
      (1 : VcpuId).toNat + 1 = secondPaused.vcpuPauseState.length ∧
      ∃ d₁ d₂, pauseVcpusExcept (fun _ _ => true) 1 0 secondPaused = some (.ok d₁) ∧
        unpauseVcpusExcept (fun _ _ => true) 1 0 d₁ = some (.ok d₂) ∧
        (∀ u : VcpuId, u ≤ 1 → d₂.vcpuPauseState[u.toNat]? =
          if u = 0 then secondPaused.vcpuPauseState[u.toNat]? else some false) ∧
        d₂.domctls = secondPaused.domctls ++
          ((List.range ((1 : VcpuId).toNat + 1)).filter fun i =>
            some (0 : VcpuId) ≠ some (BitVec.ofNat 32 i) ∧
              secondPaused.vcpuPauseState[i]? ≠ some true).map
              (fun i => ⟨xenDomctlGdbsxPausevcpu, BitVec.ofNat 32 i⟩) ++
          ((List.range ((1 : VcpuId).toNat + 1)).filter fun i => BitVec.ofNat 32 i ≠ 0).map
            (fun i => ⟨xenDomctlGdbsxUnpausevcpu, BitVec.ofNat 32 i⟩) :=
  have hm : (1 : VcpuId).toNat + 1 = secondPaused.vcpuPauseState.length := rfl
  ⟨fun _ _ => rfl, hm, pause_resume_cycle_runs_others (fun _ _ => rfl) hm 0⟩

end Xendbg
