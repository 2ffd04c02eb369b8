import Xendbg.Domain.PageTable

/-! The levels the loop of `get_page_table_entry` goes through, each with the `paddr`, `mask` and
`pte` it holds there: the bits of the address each level's mask selects, where the entry each
level reads lies, how far the uninitialised `pte` reaches, where the walk agrees with the
reference and where its table base does not, and that the offset in the page never reaches the
result. -/

namespace Xendbg

/-- The index `(vaddr & mask) >> (xc_ffs64(mask) - 1)` a level computes. -/
def levelIndex (vaddr mask : BitVec 64) : BitVec 64 :=
  (vaddr &&& mask) >>> (xcFfs64 mask - 1)

/-- The address `paddr + index * size` of the entry a level reads. -/
def entryAddress (size : Nat) (vaddr paddr mask : BitVec 64) : BitVec 64 :=
  paddr + levelIndex vaddr mask * BitVec.ofNat 64 size

/-- `pte` after the level's `memcpy(&pte, map.get() + (paddr & (XC_PAGE_SIZE - 1)), size)`. -/
def levelEntry (mem : GuestMemory) (size : Nat) (vaddr paddr mask pte : BitVec 64) : BitVec 64 :=
  memcpyPte pte (fun i => mapMemory mem (entryAddress size vaddr paddr mask)
    ((entryAddress size vaddr paddr mask &&& (xcPageSize - 1)).toNat + i)) size

/-- One level of the loop, in these terms. -/
theorem walkPageTables_succ (mem : GuestMemory) (ptLevels size : Nat) (vaddr : BitVec 64)
    (level : Nat) (paddr mask pte : BitVec 64) :
    walkPageTables mem ptLevels size vaddr (level + 1) paddr mask pte =
      if levelEntry mem size vaddr paddr mask pte &&& 1 = 0 then .notPresent
      else if (level + 1 = 2 ∨ level + 1 = 3 ∧ ptLevels = 4) ∧
          levelEntry mem size vaddr paddr mask pte &&& ptePse ≠ 0 then
        .largePage ((((levelEntry mem size vaddr paddr mask pte &&& 0x000ffffffffff000) &&&
          ~~~((mask ^^^ ~~~(-mask)) >>> 1)) ||| (vaddr &&& (mask ^^^ ~~~(-mask)) >>> 1)) >>>
            xcPageShift)
      else walkPageTables mem ptLevels size vaddr level
        (levelEntry mem size vaddr paddr mask pte &&& 0x000ffffffffff000)
        (mask >>> if ptLevels = 2 then 10 else 9) (levelEntry mem size vaddr paddr mask pte) :=
  rfl

/-- The levels the loop enters from `level = ptLevels` with the `paddr`, `mask` and `pte` set before
it, each with the values it holds there: a level whose entry is present and not a large page
hands its entry's frame, the next mask and the entry to the level below. -/
inductive WalkReaches (mem : GuestMemory) (ptLevels size : Nat) (vaddr paddr mask pte : BitVec 64) :
    Nat → BitVec 64 → BitVec 64 → BitVec 64 → Prop
  | top : WalkReaches mem ptLevels size vaddr paddr mask pte ptLevels paddr mask pte
  | next {level : Nat} {paddr' mask' pte' : BitVec 64} :
    WalkReaches mem ptLevels size vaddr paddr mask pte (level + 1) paddr' mask' pte' →
    levelEntry mem size vaddr paddr' mask' pte' &&& 1 ≠ 0 →
    ¬((level + 1 = 2 ∨ level + 1 = 3 ∧ ptLevels = 4) ∧
      levelEntry mem size vaddr paddr' mask' pte' &&& ptePse ≠ 0) →
    WalkReaches mem ptLevels size vaddr paddr mask pte level
      (levelEntry mem size vaddr paddr' mask' pte' &&& 0x000ffffffffff000)
      (mask' >>> if ptLevels = 2 then 10 else 9) (levelEntry mem size vaddr paddr' mask' pte')

/-- The walk from the top is the walk from any level it reaches. -/
theorem WalkReaches.walk_eq {mem : GuestMemory} {ptLevels size : Nat}
    {vaddr paddr mask pte : BitVec 64} {level : Nat} {paddr' mask' pte' : BitVec 64}
    (hr : WalkReaches mem ptLevels size vaddr paddr mask pte level paddr' mask' pte') :
    walkPageTables mem ptLevels size vaddr ptLevels paddr mask pte =
      walkPageTables mem ptLevels size vaddr level paddr' mask' pte' := by
  induction hr with
  | top => rfl
  | next _ hp hl ih => rw [ih, walkPageTables_succ, if_neg hp, if_neg hl]

/-- From the top mask of a mode, each level reached holds the mask of its own index, and its
`paddr` is the table base at the top and its entry's frame below. -/
theorem WalkReaches.shape {mem : GuestMemory} {levels : Nat} (hlev : levels ∈ [2, 3, 4])
    {size : Nat} {vaddr base pteInit : BitVec 64} {level : Nat} {paddr mask pte : BitVec 64}
    (hr : WalkReaches mem levels size vaddr base (maskAt levels (levels - 1)) pteInit level paddr
      mask pte) :
    level ≤ levels ∧ (0 < level → mask = maskAt levels (level - 1)) ∧
      (level = levels ∧ paddr = base ∨ level < levels ∧ paddr = pte &&& 0x000ffffffffff000) := by
  induction hr with
  | top => exact ⟨le_rfl, fun _ => rfl, .inl ⟨rfl, rfl⟩⟩
  | @next level _ _ _ _ _ _ ih =>
    obtain ⟨hle, hmask, -⟩ := ih
    refine ⟨by omega, fun hpos => ?_, .inr ⟨by omega, rfl⟩⟩
    obtain ⟨k, rfl⟩ : ∃ k, level = k + 1 := ⟨level - 1, by omega⟩
    rw [hmask (Nat.succ_pos _), Nat.add_sub_cancel,
      (maskAt_facts levels hlev k (by omega)).2.2 (by omega), Nat.add_sub_cancel]

/-! ### The bits each level's mask selects -/

theorem getLsbD_maskAt {levels l : Nat} (h : 12 + indexBits levels * (l + 1) ≤ 64) (i : Nat) :
    (maskAt levels l).getLsbD i =
      decide (12 + indexBits levels * l ≤ i ∧ i < 12 + indexBits levels * (l + 1)) := by
  simp only [maskAt, BitVec.getLsbD_shiftLeft, BitVec.getLsbD_ofNat, Nat.testBit_two_pow_sub_one]
  rw [Bool.eq_iff_iff]
  simp only [Bool.and_eq_true, decide_eq_true_eq, Bool.not_eq_true', decide_eq_false_iff_not,
    Nat.mul_add, Nat.mul_one] at h ⊢
  omega

/-- The index bits of every level of every mode end by bit 48. -/
theorem maskAt_end_le :
    ∀ levels ∈ [2, 3, 4], ∀ l < levels, 12 + indexBits levels * (l + 1) ≤ 48 := by
  decide

theorem toNat_levelIndex_maskAt {levels : Nat} (hlev : levels ∈ [2, 3, 4]) {l : Nat}
    (hl : l < levels) (vaddr : BitVec 64) :
    (levelIndex vaddr (maskAt levels l)).toNat =
      vaddr.toNat / 2 ^ (12 + indexBits levels * l) % 2 ^ indexBits levels := by
  have hw : 2 ^ indexBits levels - 1 < 2 ^ 64 := by unfold indexBits; split <;> decide
  rw [levelIndex, (maskAt_facts levels hlev l hl).1, and_maskAt_ushiftRight, BitVec.toNat_and,
    BitVec.toNat_ushiftRight, BitVec.toNat_ofNat, Nat.mod_eq_of_lt hw,
    Nat.and_pow_two_sub_one_eq_mod, Nat.shiftRight_eq_div_pow]

/-- At every level `l + 1` the walk of a mode reaches, `mask` selects bits
`[12 + w l, 12 + w (l + 1))`, which in 3-level mode at level 3 leave only bits 30 and 31 of the
address truncated to 32 bits; the index is those bits of the address; the large-page mask is every
bit below them, so a large-page exit returns the entry's frame with the address's low bits. -/
theorem walk_level_mask_selects_index {L : Nat} (hL : L ∈ [2, 3, 4]) (mem : GuestMemory)
    (vaddr base pteInit : BitVec 64) {l : Nat} {paddr mask pte : BitVec 64}
    (hr : WalkReaches mem L (entrySize L) (walkStart L vaddr).1 base (walkStart L vaddr).2 pteInit
      (l + 1) paddr mask pte) :
    (∀ i, mask.getLsbD i = decide (12 + indexBits L * l ≤ i ∧ i < 12 + indexBits L * (l + 1))) ∧
    (L = 3 → l + 1 = 3 →
      ∀ i, ((walkStart L vaddr).1 &&& mask).getLsbD i = true → i = 30 ∨ i = 31) ∧
    (levelIndex (walkStart L vaddr).1 mask).toNat =
      (walkStart L vaddr).1.toNat / 2 ^ (12 + indexBits L * l) % 2 ^ indexBits L ∧
    (mask ^^^ ~~~(-mask)) >>> 1 = BitVec.ofNat 64 (2 ^ (12 + indexBits L * l) - 1) ∧
    (levelEntry mem (entrySize L) (walkStart L vaddr).1 paddr mask pte &&& 1 ≠ 0 →
      (l + 1 = 2 ∨ l + 1 = 3 ∧ L = 4) →
      levelEntry mem (entrySize L) (walkStart L vaddr).1 paddr mask pte &&& ptePse ≠ 0 →
      walkPageTables mem L (entrySize L) (walkStart L vaddr).1 L base (walkStart L vaddr).2
          pteInit =
        .largePage ((((levelEntry mem (entrySize L) (walkStart L vaddr).1 paddr mask pte &&&
          0x000ffffffffff000) &&& ~~~BitVec.ofNat 64 (2 ^ (12 + indexBits L * l) - 1)) |||
            ((walkStart L vaddr).1 &&& BitVec.ofNat 64 (2 ^ (12 + indexBits L * l) - 1))) >>>
              12)) := by
  have hmask0 : (walkStart L vaddr).2 = maskAt L (L - 1) := by rw [walkStart_eq hL]
  rw [hmask0] at hr ⊢
  obtain ⟨hle, hmask, -⟩ := hr.shape hL
  have hm : mask = maskAt L l := hmask l.succ_pos
  have hl : l < L := by omega
  have hbits := @getLsbD_maskAt L l (by have := maskAt_end_le L hL l hl; omega)
  refine ⟨hm ▸ hbits, fun h3 hl3 i hi => ?_, hm ▸ toNat_levelIndex_maskAt hL hl _,
    hm ▸ (maskAt_facts L hL l hl).2.1, fun hp hcond hpse => ?_⟩
  · subst h3
    rw [walkStart_eq hL, BitVec.getLsbD_and, hm, hbits] at hi
    simp only [BitVec.getLsbD_and, BitVec.getLsbD_ofNat, Nat.testBit_two_pow_sub_one,
      Bool.and_eq_true, decide_eq_true_eq] at hi
    simp [addressBits, indexBits] at hi
    omega
  · rw [hr.walk_eq, walkPageTables_succ, if_neg hp, if_pos ⟨hcond, hpse⟩, hm,
      (maskAt_facts L hL l hl).2.1]
    rfl

theorem walk_level_mask_selects_index_top :
    (4 ∈ [2, 3, 4]) ∧
    WalkReaches chainMemory 4 (entrySize 4) (walkStart 4 0).1 0x1000 (walkStart 4 0).2 0 (3 + 1)
      0x1000 (walkStart 4 0).2 0 ∧
    ((∀ i, (walkStart 4 0).2.getLsbD i =
        decide (12 + indexBits 4 * 3 ≤ i ∧ i < 12 + indexBits 4 * (3 + 1))) ∧
    (4 = 3 → 3 + 1 = 3 →
      ∀ i, ((walkStart 4 0).1 &&& (walkStart 4 0).2).getLsbD i = true → i = 30 ∨ i = 31) ∧
    (levelIndex (walkStart 4 0).1 (walkStart 4 0).2).toNat =
      (walkStart 4 0).1.toNat / 2 ^ (12 + indexBits 4 * 3) % 2 ^ indexBits 4 ∧
    ((walkStart 4 0).2 ^^^ ~~~(-(walkStart 4 0).2)) >>> 1 =
      BitVec.ofNat 64 (2 ^ (12 + indexBits 4 * 3) - 1) ∧
    (levelEntry chainMemory (entrySize 4) (walkStart 4 0).1 0x1000 (walkStart 4 0).2 0 &&& 1 ≠ 0 →
      (3 + 1 = 2 ∨ 3 + 1 = 3 ∧ 4 = 4) →
      levelEntry chainMemory (entrySize 4) (walkStart 4 0).1 0x1000 (walkStart 4 0).2 0 &&&
        ptePse ≠ 0 →
      walkPageTables chainMemory 4 (entrySize 4) (walkStart 4 0).1 4 0x1000 (walkStart 4 0).2 0 =
        .largePage ((((levelEntry chainMemory (entrySize 4) (walkStart 4 0).1 0x1000
          (walkStart 4 0).2 0 &&& 0x000ffffffffff000) &&&
            ~~~BitVec.ofNat 64 (2 ^ (12 + indexBits 4 * 3) - 1)) |||
          ((walkStart 4 0).1 &&& BitVec.ofNat 64 (2 ^ (12 + indexBits 4 * 3) - 1))) >>> 12))) :=
  ⟨by decide, .top, walk_level_mask_selects_index (by decide) chainMemory 0 0x1000 0 .top⟩

/-! ### Where the entry each level reads lies -/

/-- The `size` bytes a level reads at `paddr + index * size` lie in one page, the one
`map_memory` maps for them, and their address does not wrap past `2^64`. -/
def EntryInPage (size : Nat) (vaddr paddr mask : BitVec 64) : Prop :=
  paddr.toNat + (levelIndex vaddr mask).toNat * size < 2 ^ 64 ∧
    (entryAddress size vaddr paddr mask &&& (xcPageSize - 1)).toNat + size ≤ 4096

theorem toNat_and_two_pow_sub_one (x : BitVec 64) {k : Nat} (hk : k < 64) :
    (x &&& BitVec.ofNat 64 (2 ^ k - 1)).toNat = x.toNat % 2 ^ k := by
  have hlt : 2 ^ k - 1 < 2 ^ 64 :=
    Nat.lt_of_le_of_lt (Nat.sub_le _ _) (Nat.pow_lt_pow_right (by decide) hk)
  rw [BitVec.toNat_and, BitVec.toNat_ofNat, Nat.mod_eq_of_lt hlt, Nat.and_pow_two_sub_one_eq_mod]

/-- A value whose low `k` bits are clear is a multiple of `2^k`. -/
theorem toNat_mod_two_pow_eq_zero {x : BitVec 64} {k : Nat} (hk : k < 64)
    (h : ∀ i < k, x.getLsbD i = false) : x.toNat % 2 ^ k = 0 := by
  have h0 : x &&& BitVec.ofNat 64 (2 ^ k - 1) = 0 := BitVec.eq_of_getLsbD_eq fun ⟨i, _⟩ => by
    by_cases hik : i < k
    · simp [h i hik]
    · simp [BitVec.getLsbD_ofNat, Nat.testBit_two_pow_sub_one, hik]
  rw [← toNat_and_two_pow_sub_one x hk, h0]
  rfl

/-- An entry lies in its page when its offset in the page leaves room for it. -/
theorem entryInPage_of_offset {size : Nat} {vaddr paddr mask : BitVec 64} (hsize : 0 < size)
    (h : paddr.toNat % 4096 + (levelIndex vaddr mask).toNat * size + size ≤ 4096) :
    EntryInPage size vaddr paddr mask := by
  have hp := paddr.isLt
  have hmul : (levelIndex vaddr mask * BitVec.ofNat 64 size).toNat =
      (levelIndex vaddr mask).toNat * size := by
    rw [BitVec.toNat_mul, BitVec.toNat_ofNat, Nat.mod_eq_of_lt (by omega : size < 2 ^ 64),
      Nat.mod_eq_of_lt (by omega)]
  unfold EntryInPage entryAddress
  rw [show xcPageSize - 1 = BitVec.ofNat 64 (2 ^ 12 - 1) from rfl,
    toNat_and_two_pow_sub_one _ (by decide), BitVec.toNat_add, hmul]
  generalize (levelIndex vaddr mask).toNat * size = s at h ⊢
  omega

/-- `get_page_table_entry` walks 2, 3 or 4 levels. -/
theorem pagingSetup_levels {hvm : Bool} {wordSize : Int} {regs : ControlRegisters} {L : Nat}
    {base : BitVec 64} (hs : pagingSetup hvm wordSize regs = some (L, base)) : L ∈ [2, 3, 4] := by
  unfold pagingSetup at hs
  split_ifs at hs <;> cases hs <;> simp

/-- The table base `get_page_table_entry` starts from is 32-byte aligned, and page-aligned outside
3-level mode, except for a 64-bit PV guest, whose base is `cr3` unmasked. -/
theorem pagingSetup_base_aligned {hvm : Bool} {wordSize : Int} {regs : ControlRegisters}
    {L : Nat} {base : BitVec 64} (hs : pagingSetup hvm wordSize regs = some (L, base))
    (halign : hvm = true ∨ wordSize ≠ 8 ∨ regs.cr3 &&& 0xfff = 0) :
    base.toNat % 32 = 0 ∧ (L ≠ 3 → base.toNat % 4096 = 0) := by
  have hpage : ∀ x : BitVec 64, x.toNat % 4096 = 0 →
      x.toNat % 32 = 0 ∧ (L ≠ 3 → x.toNat % 4096 = 0) := fun x h => ⟨by omega, fun _ => h⟩
  have hlow : ∀ x : BitVec 64, (∀ i < 12, x.getLsbD i = false) → x.toNat % 4096 = 0 :=
    fun x hx => toNat_mod_two_pow_eq_zero (k := 12) (by decide) hx
  have hfff : ∀ i < 12, (~~~0xfff : BitVec 64).getLsbD i = false := by decide
  unfold pagingSetup at hs
  split_ifs at hs with hv _ _ _ hw <;> simp only [Option.some.injEq, Prod.mk.injEq] at hs <;>
    obtain ⟨rfl, rfl⟩ := hs
  · exact hpage _ (hlow _ fun i hi => by
      rw [BitVec.getLsbD_and, if_neg (by decide), hfff i hi, Bool.and_false])
  · have h1f : ∀ i < 5, (~~~0x1f : BitVec 64).getLsbD i = false := by decide
    refine ⟨toNat_mod_two_pow_eq_zero (k := 5) (by decide) fun i hi => ?_, fun h => absurd rfl h⟩
    rw [BitVec.getLsbD_and, if_pos trivial, h1f i hi, Bool.and_false]
  · exact hpage _ (hlow _ fun i hi => by
      rw [BitVec.getLsbD_and, if_neg (by decide), hfff i hi, Bool.and_false])
  · rcases halign with h | h | h
    · exact absurd h hv
    · exact absurd hw h
    · refine hpage _ ?_
      have := congrArg BitVec.toNat h
      rwa [show (0xfff : BitVec 64) = BitVec.ofNat 64 (2 ^ 12 - 1) from rfl,
        toNat_and_two_pow_sub_one _ (by decide)] at this
  · exact hpage _ (hlow _ fun i hi => by simp [xcPageShift, hi])

/-- For an HVM guest, a 32-bit PV guest, and a 64-bit PV guest whose `cr3` is page-aligned, every
entry the walk reads, at every level it reaches, lies in one page and its address does not wrap.
In PAE mode the bound is tight: a base at offset `0xfe0` and index 3 end the entry at `0x1000`. -/
theorem walk_entries_in_page {hvm : Bool} {wordSize : Int} {regs : ControlRegisters} {L : Nat}
    {base : BitVec 64} (hs : pagingSetup hvm wordSize regs = some (L, base))
    (halign : hvm = true ∨ wordSize ≠ 8 ∨ regs.cr3 &&& 0xfff = 0) (mem : GuestMemory)
    (vaddr pteInit : BitVec 64) {level : Nat} {paddr mask pte : BitVec 64}
    (hr : WalkReaches mem L (entrySize L) (walkStart L vaddr).1 base (walkStart L vaddr).2 pteInit
      (level + 1) paddr mask pte) :
    EntryInPage (entrySize L) (walkStart L vaddr).1 paddr mask := by
  have hL := pagingSetup_levels hs
  obtain ⟨h32, h4096⟩ := pagingSetup_base_aligned hs halign
  rw [walkStart_eq hL] at hr ⊢
  obtain ⟨hle, hmask, hpaddr⟩ := hr.shape hL
  rw [hmask level.succ_pos]
  have hfm : ∀ i < 12, (0x000ffffffffff000 : BitVec 64).getLsbD i = false := by decide
  have hframe : ∀ x : BitVec 64, (x &&& 0x000ffffffffff000).toNat % 4096 = 0 := fun x =>
    toNat_mod_two_pow_eq_zero (k := 12) (by decide) fun i hi => by
      rw [BitVec.getLsbD_and, hfm i hi, Bool.and_false]
  have htv := toNat_and_two_pow_sub_one vaddr (k := addressBits L)
    (by unfold addressBits; split <;> decide)
  apply entryInPage_of_offset (by unfold entrySize; split <;> decide)
  rw [Nat.add_sub_cancel, toNat_levelIndex_maskAt hL (by omega), htv]
  simp only [List.mem_cons, List.mem_singleton, List.not_mem_nil, or_false] at hL
  rcases hpaddr with ⟨htop, rfl⟩ | ⟨-, rfl⟩
  · obtain rfl : level = L - 1 := by omega
    rcases hL with rfl | rfl | rfl <;> simp [entrySize, indexBits, addressBits] at h32 h4096 ⊢ <;>
      omega
  · have hidx := Nat.mod_lt (vaddr.toNat % 2 ^ addressBits L / 2 ^ (12 + indexBits L * level))
      (Nat.two_pow_pos (indexBits L))
    have := hframe pte
    generalize vaddr.toNat % 2 ^ addressBits L / 2 ^ (12 + indexBits L * level) %
      2 ^ indexBits L = idx at hidx ⊢
    rcases hL with rfl | rfl | rfl <;> simp [entrySize, indexBits] at hidx this ⊢ <;> omega

/-- A 64-bit PV vCPU whose top table is at `0x1000`. -/
def pv64Registers : ControlRegisters := ⟨0, 0x1000, 0, 0⟩

/-- The walk of address 0 on that vCPU over `chainMemory` reaches level 1 through the tables at
frames 1 to 3, and the entry it reads there lies in the table at frame 4. -/
theorem walk_entries_in_page_pv64 :
    pagingSetup false 8 pv64Registers = some (4, 0x1000) ∧
      (false = true ∨ (8 : Int) ≠ 8 ∨ pv64Registers.cr3 &&& 0xfff = 0) ∧
      ∃ paddr mask pte, WalkReaches chainMemory 4 (entrySize 4) (walkStart 4 0).1 0x1000
          (walkStart 4 0).2 0 (0 + 1) paddr mask pte ∧
        EntryInPage (entrySize 4) (walkStart 4 0).1 paddr mask := by
  have hr := (((@WalkReaches.top chainMemory 4 (entrySize 4) (walkStart 4 0).1 0x1000
    (walkStart 4 0).2 0).next (by decide) (by decide)).next (by decide) (by decide)).next
      (by decide) (by decide)
  refine ⟨?setup, ?aligned, _, _, _, hr, walk_entries_in_page ?setup ?aligned chainMemory 0 0 hr⟩
  case setup => decide
  case aligned => exact .inr (.inr (by decide))

/-! ### The uninitialised `pte` -/

/-- Where entries are 8 bytes, a level's `memcpy` overwrites all of `pte`, so the walk from that
level does not depend on the `pte` it starts with. -/
theorem walkPageTables_eight_pte (mem : GuestMemory) (ptLevels : Nat) (vaddr : BitVec 64)
    (level : Nat) (paddr mask pte₁ pte₂ : BitVec 64) :
    walkPageTables mem ptLevels 8 vaddr (level + 1) paddr mask pte₁ =
      walkPageTables mem ptLevels 8 vaddr (level + 1) paddr mask pte₂ := by
  simp only [walkPageTables_succ, levelEntry, memcpyPte_eight]

/-- A 2-level HVM vCPU: paging on, no PAE, no long mode, its page directory at `0x1000`. -/
def twoLevelRegisters : ControlRegisters := ⟨0x80000011, 0x1000, 0, 0⟩

/-- On that vCPU over `chainMemory`, address 0 is in frame 3 when `pte` starts at 0; when it starts
with bit 32 set, the 4-byte `memcpy` at level 2 keeps the bit, the next table base becomes
`0x100002000`, and the walk finds no present entry there. -/
theorem getPageTableEntry_reads_pte_init :
    getPageTableEntry true 8 twoLevelRegisters chainMemory 0 0 = some 0x3003 ∧
      getPageTableEntry true 8 twoLevelRegisters chainMemory 0x100000000 0 = none := by
  decide

/-- A 4-byte `memcpy` keeps the upper half of `pte` and replaces the lower: two values of `pte` with
the same upper half are equal after it. -/
theorem memcpyPte_four_congr {pte₁ pte₂ : BitVec 64} (h : pte₁ >>> 32 = pte₂ >>> 32)
    (src : Nat → BitVec 8) : memcpyPte pte₁ src 4 = memcpyPte pte₂ src 4 := by
  have hhigh : ∀ pte : BitVec 64, ∀ i < 64,
      (pte &&& ~~~BitVec.ofNat 64 (2 ^ (8 * 4) - 1)).getLsbD i =
        (decide (32 ≤ i) && (pte >>> 32).getLsbD (i - 32)) := fun pte i hi => by
    simp only [BitVec.getLsbD_and, BitVec.getLsbD_not, BitVec.getLsbD_ofNat,
      Nat.testBit_two_pow_sub_one, BitVec.getLsbD_ushiftRight]
    by_cases h32 : 32 ≤ i
    · simp [h32, hi, Nat.not_lt.mpr h32, show 32 + (i - 32) = i by omega]
    · simp [h32, Nat.lt_of_not_le h32]
  have hand : pte₁ &&& ~~~BitVec.ofNat 64 (2 ^ (8 * 4) - 1) =
      pte₂ &&& ~~~BitVec.ofNat 64 (2 ^ (8 * 4) - 1) :=
    BitVec.eq_of_getLsbD_eq fun ⟨i, hi⟩ => by rw [hhigh _ _ hi, hhigh _ _ hi, h]
  rw [memcpyPte, memcpyPte, hand]

/-- Where entries are 4 bytes, the walk from a level depends on the `pte` it starts with only
through its upper half. -/
theorem walkPageTables_four_pte (mem : GuestMemory) (ptLevels : Nat) (vaddr : BitVec 64)
    (level : Nat) (paddr mask : BitVec 64) {pte₁ pte₂ : BitVec 64}
    (h : pte₁ >>> 32 = pte₂ >>> 32) :
    walkPageTables mem ptLevels 4 vaddr (level + 1) paddr mask pte₁ =
      walkPageTables mem ptLevels 4 vaddr (level + 1) paddr mask pte₂ := by
  simp only [walkPageTables_succ, levelEntry, memcpyPte_four_congr h]

/-- In every mode, what `get_page_table_entry` returns depends on the value the uninitialised
`pte` holds before the walk only through its upper 32 bits: the 8-byte `memcpy` outside 2-level
mode overwrites all of it, and the 4-byte one of 2-level mode its lower half. -/
theorem getPageTableEntry_pteInit_upper_half (hvm : Bool) (wordSize : Int)
    (regs : ControlRegisters) (mem : GuestMemory) {pte₁ pte₂ : BitVec 64}
    (h : pte₁ >>> 32 = pte₂ >>> 32) (vaddr : BitVec 64) :
    getPageTableEntry hvm wordSize regs mem pte₁ vaddr =
      getPageTableEntry hvm wordSize regs mem pte₂ vaddr := by
  unfold getPageTableEntry pageTableExit
  rcases hs : pagingSetup hvm wordSize regs with _ | ⟨L, base⟩
  · rfl
  · have hL := pagingSetup_levels hs
    obtain ⟨k, rfl⟩ : ∃ k, L = k + 1 := ⟨L - 1, by simp at hL; omega⟩
    dsimp only
    by_cases h2 : k + 1 = 2
    · rw [if_pos h2, walkPageTables_four_pte mem _ _ k _ _ h]
    · rw [if_neg h2, walkPageTables_eight_pte mem _ _ k _ _ pte₁ pte₂]

theorem getPageTableEntry_pteInit_upper_half_two_level :
    (0 : BitVec 64) >>> 32 = (0xffffffff : BitVec 64) >>> 32 ∧
      getPageTableEntry true 8 twoLevelRegisters chainMemory 0 0 =
        getPageTableEntry true 8 twoLevelRegisters chainMemory 0xffffffff 0 :=
  ⟨by decide, getPageTableEntry_pteInit_upper_half true 8 twoLevelRegisters chainMemory
    (by decide) 0⟩

/-! ### Against the reference -/

/-- Where the walk starts as the reference's does and the upper half of the uninitialised `pte` is
zero, `get_page_table_entry` returns what the reference returns, except through level 1, where it
returns the level-1 entry, whose frame is the reference's frame number. -/
theorem getPageTableEntry_of_setup {hvm : Bool} {wordSize : Int} {regs : ControlRegisters}
    (hsetup : pagingSetup hvm wordSize regs = referenceSetup hvm wordSize regs)
    (mem : GuestMemory) {pteInit : BitVec 64} (hinit : pteInit >>> 32 = 0) (vaddr : BitVec 64) :
    getPageTableEntry hvm wordSize regs mem pteInit vaddr =
        referenceTranslation hvm wordSize regs mem vaddr ∨
      ∃ pte, pageTableExit hvm wordSize regs mem pteInit vaddr = .completed pte ∧
        getPageTableEntry hvm wordSize regs mem pteInit vaddr = some pte ∧
        referenceTranslation hvm wordSize regs mem vaddr =
          some ((pte &&& 0x000ffffffffff000) >>> 12) := by
  rw [← pageTableExit_frame hsetup mem hinit vaddr, getPageTableEntry]
  cases pageTableExit hvm wordSize regs mem pteInit vaddr with
  | completed pte => exact .inr ⟨pte, rfl, rfl, rfl⟩
  | _ => exact .inl rfl

/-- On an HVM guest whose paging mode the code's `CR4_PAE` reads right (paging off, long mode on,
or bits 1 and 5 of `cr4` alike), and on a 64-bit PV guest whose `cr3` is page-aligned as Xen
reports it, `get_page_table_entry` refines the reference x86 walk up to its last exit: paging
off, an entry not present and a large page give the reference's result, and a walk through
level 1 gives the level-1 entry, whose frame field is the reference's frame number, provided the
uninitialised `pte` starts with its upper half zero. -/
theorem getPageTableEntry_refines_reference {hvm : Bool} {wordSize : Int}
    {regs : ControlRegisters}
    (hguest : hvm = true ∧ (regs.cr0 &&& cr0Pg = 0 ∨ regs.msrEfer &&& eferLma ≠ 0 ∨
        (regs.cr4 &&& cr4Pae = 0 ↔ regs.cr4 &&& x86Cr4Pae = 0)) ∨
      hvm = false ∧ wordSize = 8 ∧ regs.cr3 &&& 0xfff = 0)
    (mem : GuestMemory) {pteInit : BitVec 64} (hinit : pteInit >>> 32 = 0) (vaddr : BitVec 64) :
    getPageTableEntry hvm wordSize regs mem pteInit vaddr =
        referenceTranslation hvm wordSize regs mem vaddr ∨
      ∃ pte, pageTableExit hvm wordSize regs mem pteInit vaddr = .completed pte ∧
        getPageTableEntry hvm wordSize regs mem pteInit vaddr = some pte ∧
        referenceTranslation hvm wordSize regs mem vaddr =
          some ((pte &&& 0x000ffffffffff000) >>> 12) := by
  have hsetup : pagingSetup hvm wordSize regs = referenceSetup hvm wordSize regs := by
    rcases hguest with ⟨rfl, h⟩ | ⟨rfl, hw, hcr3⟩
    · exact pagingSetup_hvm_of_pae_agrees wordSize h
    · exact pagingSetup_pv64 hw hcr3
  exact getPageTableEntry_of_setup hsetup mem hinit vaddr

/-- On the long-mode HVM vCPU and on the 64-bit PV vCPU, address 0 over `chainMemory`. -/
theorem getPageTableEntry_refines_reference_long_mode_pv64 :
    ((true = true ∧ (longModeRegisters.cr0 &&& cr0Pg = 0 ∨ longModeRegisters.msrEfer &&& eferLma ≠ 0 ∨
        (longModeRegisters.cr4 &&& cr4Pae = 0 ↔ longModeRegisters.cr4 &&& x86Cr4Pae = 0)) ∨
      true = false ∧ (8 : Int) = 8 ∧ longModeRegisters.cr3 &&& 0xfff = 0) ∧
      (getPageTableEntry true 8 longModeRegisters chainMemory 0 0 =
          referenceTranslation true 8 longModeRegisters chainMemory 0 ∨
        ∃ pte, pageTableExit true 8 longModeRegisters chainMemory 0 0 = .completed pte ∧
          getPageTableEntry true 8 longModeRegisters chainMemory 0 0 = some pte ∧
          referenceTranslation true 8 longModeRegisters chainMemory 0 =
            some ((pte &&& 0x000ffffffffff000) >>> 12))) ∧
    ((false = true ∧ (pv64Registers.cr0 &&& cr0Pg = 0 ∨ pv64Registers.msrEfer &&& eferLma ≠ 0 ∨
        (pv64Registers.cr4 &&& cr4Pae = 0 ↔ pv64Registers.cr4 &&& x86Cr4Pae = 0)) ∨
      false = false ∧ (8 : Int) = 8 ∧ pv64Registers.cr3 &&& 0xfff = 0) ∧
      (getPageTableEntry false 8 pv64Registers chainMemory 0 0 =
          referenceTranslation false 8 pv64Registers chainMemory 0 ∨
        ∃ pte, pageTableExit false 8 pv64Registers chainMemory 0 0 = .completed pte ∧
          getPageTableEntry false 8 pv64Registers chainMemory 0 0 = some pte ∧
          referenceTranslation false 8 pv64Registers chainMemory 0 =
            some ((pte &&& 0x000ffffffffff000) >>> 12))) := by
  refine ⟨⟨?longMode, getPageTableEntry_refines_reference ?longMode chainMemory (by decide) 0⟩,
    ⟨?pv64, getPageTableEntry_refines_reference ?pv64 chainMemory (by decide) 0⟩⟩
  case longMode => exact .inl ⟨rfl, .inr (.inl (by decide))⟩
  case pv64 => exact .inr ⟨rfl, rfl, by decide⟩

/-- A value with bit `k` set is at least `2^k`. -/
theorem two_pow_le_toNat {x : BitVec 64} {k : Nat} (h : x.getLsbD k = true) : 2 ^ k ≤ x.toNat :=
  Nat.le_of_not_lt fun hlt => by
    rw [BitVec.getLsbD, Nat.testBit_lt_two_pow hlt] at h
    cases h

/-- For a 32-bit PV guest, the table base `get_page_table_entry` computes in 64 bits,
`((cr3 >> 12) | (cr3 << 20)) << 12`, copies bits 12 to 31 of `cr3` to bits 44 to 63, where Xen's
32-bit extended `cr3` (`xen_cr3_to_pfn`), which the reference follows, has none: whenever `cr3`
has a bit set among bits 12 to 31, as the frame of any table above the first 4 KiB does, the walk
starts at or above `2^44`, away from the reference's base, which lies below `2^44`. -/
theorem pv32_table_base_above_reference {wordSize : Int} (hw : wordSize ≠ 8)
    {regs : ControlRegisters} (hcr3 : regs.cr3 &&& 0xfffff000 ≠ 0) :
    ∃ base ref, pagingSetup false wordSize regs = some (3, base) ∧
      referenceSetup false wordSize regs = some (3, ref) ∧ ref.toNat < 2 ^ 44 ∧
      2 ^ 44 ≤ base.toNat := by
  have hmask : ∀ i < 64, (0xfffff000 : BitVec 64).getLsbD i = decide (12 ≤ i ∧ i < 32) := by
    decide
  obtain ⟨j, hj, hbit⟩ : ∃ j, (12 ≤ j ∧ j < 32) ∧ regs.cr3.getLsbD j = true := by
    by_contra hn
    refine hcr3 (BitVec.eq_of_getLsbD_eq fun ⟨i, hi⟩ => ?_)
    rw [BitVec.getLsbD_and, hmask i hi]
    by_cases hij : 12 ≤ i ∧ i < 32 <;> simp_all
  refine ⟨((regs.cr3 >>> xcPageShift) ||| (regs.cr3 <<< 20)) <<< xcPageShift,
    ((regs.cr3.setWidth 32 >>> 12) ||| (regs.cr3.setWidth 32 <<< 20)).setWidth 64 <<< 12,
    by simp only [pagingSetup, Bool.false_eq_true, if_false, if_neg hw],
    by simp only [referenceSetup, Bool.false_eq_true, if_false, if_neg hw], ?_, ?_⟩
  · have hlt := (((regs.cr3.setWidth 32 >>> 12) ||| (regs.cr3.setWidth 32 <<< 20))).isLt
    simp only [BitVec.toNat_shiftLeft, BitVec.toNat_setWidth, Nat.shiftLeft_eq]
    omega
  · refine Nat.le_trans (Nat.pow_le_pow_right (by decide) (show 44 ≤ j + 32 by omega))
      (two_pow_le_toNat ?_)
    simp only [BitVec.getLsbD_shiftLeft, BitVec.getLsbD_or, BitVec.getLsbD_ushiftRight, xcPageShift]
    simp [show j + 32 < 64 by omega, show ¬ j + 32 < 12 by omega, show j + 32 - 12 - 20 = j by omega,
      show ¬ j + 32 - 12 < 20 by omega, show j + 20 < 64 by omega, hbit]

/-- A 32-bit PV vCPU whose top table is at `0x1000`. -/
def pv32Registers : ControlRegisters := ⟨0, 0x1000, 0, 0⟩

theorem pv32_table_base_above_reference_low_table :
    (4 : Int) ≠ 8 ∧ pv32Registers.cr3 &&& 0xfffff000 ≠ 0 ∧
      ∃ base ref, pagingSetup false 4 pv32Registers = some (3, base) ∧
        referenceSetup false 4 pv32Registers = some (3, ref) ∧ ref.toNat < 2 ^ 44 ∧
        2 ^ 44 ≤ base.toNat :=
  ⟨by decide, by decide, pv32_table_base_above_reference (by decide) (by decide)⟩

/-! ### The page offset -/

/-- Two addresses in one page agree on every bit from 12 up. -/
theorem getLsbD_eq_of_ushiftRight_eq {vaddr vaddr' : BitVec 64}
    (h : vaddr >>> xcPageShift = vaddr' >>> xcPageShift) {i : Nat} (hi : 12 ≤ i) :
    vaddr.getLsbD i = vaddr'.getLsbD i := by
  have := congrArg (BitVec.getLsbD · (i - 12)) h
  simpa only [BitVec.getLsbD_ushiftRight, xcPageShift, Nat.add_sub_cancel' hi] using this

/-- The loop reads the address only from bit 12 up: the mask of each level selects no lower bit,
and a large page's frame number drops them. -/
theorem walkPageTables_high_bits (mem : GuestMemory) {levels : Nat} (hlev : levels ∈ [2, 3, 4])
    (size : Nat) {vaddr vaddr' : BitVec 64} (hv : ∀ i, 12 ≤ i → vaddr.getLsbD i = vaddr'.getLsbD i) :
    ∀ l, l < levels → ∀ paddr pte : BitVec 64,
      walkPageTables mem levels size vaddr (l + 1) paddr (maskAt levels l) pte =
        walkPageTables mem levels size vaddr' (l + 1) paddr (maskAt levels l) pte
  | l, hl, paddr, pte => by
    have hbits := @getLsbD_maskAt levels l (by have := maskAt_end_le levels hlev l hl; omega)
    have hmask : vaddr &&& maskAt levels l = vaddr' &&& maskAt levels l := by
      apply BitVec.eq_of_getLsbD_eq
      rintro ⟨i, -⟩
      by_cases h12 : 12 ≤ i
      · rw [BitVec.getLsbD_and, BitVec.getLsbD_and, hv i h12]
      · simp only [BitVec.getLsbD_and, hbits]
        simp [show ¬12 + indexBits levels * l ≤ i by omega]
    have hentry : levelEntry mem size vaddr paddr (maskAt levels l) pte =
        levelEntry mem size vaddr' paddr (maskAt levels l) pte := by
      simp only [levelEntry, entryAddress, levelIndex, hmask]
    have hlarge : ∀ x m : BitVec 64,
        (x ||| (vaddr &&& m)) >>> xcPageShift = (x ||| (vaddr' &&& m)) >>> xcPageShift := by
      intro x m
      apply BitVec.eq_of_getLsbD_eq
      rintro ⟨i, -⟩
      simp only [BitVec.getLsbD_ushiftRight, BitVec.getLsbD_or, BitVec.getLsbD_and, xcPageShift,
        hv (12 + i) (Nat.le_add_right _ _)]
    rw [walkPageTables_succ, walkPageTables_succ, hentry, hlarge]
    cases l with
    | zero => rfl
    | succ k =>
      rw [(maskAt_facts levels hlev k (by omega)).2.2 hl,
        walkPageTables_high_bits mem hlev size hv k (by omega)]

/-- `get_page_table_entry` answers alike for every address of one page: in every paging mode, for
every register context, guest memory and starting `pte`, the offset in the page never reaches
the walk or the frame it returns. -/
theorem getPageTableEntry_same_page (hvm : Bool) (wordSize : Int) (regs : ControlRegisters)
    (mem : GuestMemory) (pteInit : BitVec 64) {vaddr vaddr' : BitVec 64}
    (h : vaddr >>> xcPageShift = vaddr' >>> xcPageShift) :
    getPageTableEntry hvm wordSize regs mem pteInit vaddr =
      getPageTableEntry hvm wordSize regs mem pteInit vaddr' := by
  unfold getPageTableEntry pageTableExit
  rcases hs : pagingSetup hvm wordSize regs with _ | ⟨L, base⟩
  · rw [h]
  · have hlev := pagingSetup_levels hs
    obtain ⟨k, rfl⟩ : ∃ k, L = k + 1 := ⟨L - 1, by simp at hlev; omega⟩
    have hv : ∀ i, 12 ≤ i → (vaddr &&& BitVec.ofNat 64 (2 ^ addressBits (k + 1) - 1)).getLsbD i =
        (vaddr' &&& BitVec.ofNat 64 (2 ^ addressBits (k + 1) - 1)).getLsbD i := fun i hi => by
      rw [BitVec.getLsbD_and, BitVec.getLsbD_and, getLsbD_eq_of_ushiftRight_eq h hi]
    simp only [walkStart_eq hlev, Nat.add_sub_cancel,
      walkPageTables_high_bits mem hlev _ hv k (Nat.lt_succ_self k)]

theorem getPageTableEntry_same_page_long_mode :
    (0x1234 : BitVec 64) >>> xcPageShift = 0x1fff >>> xcPageShift ∧
      getPageTableEntry true 8 longModeRegisters chainMemory 0 0x1234 =
        getPageTableEntry true 8 longModeRegisters chainMemory 0 0x1fff :=
  ⟨by decide, getPageTableEntry_same_page true 8 longModeRegisters chainMemory 0 (by decide)⟩

end Xendbg
