import Xendbg.Domain.Registers

/-! The software page-table walker `Domain::get_page_table_entry`, which the source calls a
modified version of libxc's `xc_translate_foreign_address`, and that function as the reference
it is compared with.  Addresses, entries and the control registers are `uint64_t`, so they are
`BitVec 64`; guest physical memory is a function from byte addresses to bytes, every page of it
mappable.  `PageTableEntry.hpp` is not in the repository: every `return` builds the result from a
`uint64_t`, which the model keeps.  The reference reads PAE from bit 5 of `cr4`, as x86 and libxc
do; the code's `CR4_PAE` is bit 1. -/

namespace Xendbg

/-- `CR0_PG`. -/
def cr0Pg : BitVec 64 := 0x80000000

/-- `CR4_PAE` as `Domain.cpp` defines it: `0x2`, bit 1 of `cr4`. -/
def cr4Pae : BitVec 64 := 0x2

/-- `PTE_PSE`. -/
def ptePse : BitVec 64 := 0x80

/-- `EFER_LMA`. -/
def eferLma : BitVec 64 := 0x400

/-- `XC_PAGE_SHIFT`. -/
def xcPageShift : Nat := 12

/-- `XC_PAGE_SIZE`. -/
def xcPageSize : BitVec 64 := 4096

/-! ### `xc_ffs` -/

/-- The loop `for (i = ...; i < 8; i++)` of `xc_ffs8` from `i`, with `n` iterations left. -/
def xcFfs8From (x : BitVec 8) : Nat → Nat → Nat
  | 0, _ => 0
  | n + 1, i => if x.setWidth 32 &&& (1 <<< i) ≠ 0 then i + 1 else xcFfs8From x n (i + 1)

/-- `xc_ffs8`: one more than the index of the lowest set bit, 0 for 0. -/
def xcFfs8 (x : BitVec 8) : Nat := xcFfs8From x 8 0

/-- `xc_ffs16`. -/
def xcFfs16 (x : BitVec 16) : Nat :=
  let h : BitVec 8 := (x >>> 8).setWidth 8
  let l : BitVec 8 := x.setWidth 8
  if l ≠ 0 then xcFfs8 l else if h ≠ 0 then xcFfs8 h + 8 else 0

/-- `xc_ffs32`. -/
def xcFfs32 (x : BitVec 32) : Nat :=
  let h : BitVec 16 := (x >>> 16).setWidth 16
  let l : BitVec 16 := x.setWidth 16
  if l ≠ 0 then xcFfs16 l else if h ≠ 0 then xcFfs16 h + 16 else 0

/-- `xc_ffs64`. -/
def xcFfs64 (x : BitVec 64) : Nat :=
  let h : BitVec 32 := (x >>> 32).setWidth 32
  let l : BitVec 32 := x.setWidth 32
  if l ≠ 0 then xcFfs32 l else if h ≠ 0 then xcFfs32 h + 32 else 0

/-! ### `xc_ffs` finds the lowest set bit -/

/-- `r` is what a find-first-set returns for `x`: 0 for 0, otherwise one more than the index of
the lowest set bit. -/
def FirstSetBit {w : Nat} (x : BitVec w) (r : Nat) : Prop :=
  (x = 0 ∧ r = 0) ∨ (0 < r ∧ x.getLsbD (r - 1) = true ∧ ∀ j < r - 1, x.getLsbD j = false)

/-- A test against a one-bit constant reads that bit. -/
theorem and_two_pow_eq_zero_iff {w : Nat} (x : BitVec w) {k : Nat} (hk : k < w) :
    x &&& BitVec.ofNat w (2 ^ k) = 0 ↔ x.getLsbD k = false := by
  have hbit : ∀ i, (BitVec.ofNat w (2 ^ k)).getLsbD i = decide (i < w ∧ k = i) := fun i => by
    simp only [BitVec.getLsbD_ofNat, Nat.testBit_two_pow, Bool.decide_and]
  constructor
  · intro h
    simpa [hbit, hk] using congrArg (BitVec.getLsbD · k) h
  · intro h
    apply BitVec.eq_of_getLsbD_eq
    rintro ⟨i, hi⟩
    by_cases hi' : k = i
    · subst hi'; simp [h]
    · simp [hbit, hi']

/-- The test `x & (1u << i)` of `xc_ffs8`, in `unsigned int`. -/
theorem and_one_shiftLeft_ne_zero_iff (x : BitVec 8) {i : Nat} (hi : i < 32) :
    x.setWidth 32 &&& 1 <<< i ≠ 0 ↔ x.getLsbD i = true := by
  have h1 : ((1 <<< i : Nat) : BitVec 32) = BitVec.ofNat 32 (2 ^ i) := by
    rw [Nat.one_shiftLeft]; rfl
  rw [h1, Ne, and_two_pow_eq_zero_iff _ hi, BitVec.getLsbD_setWidth]
  simp [hi]

/-- The loop of `xc_ffs8` from `i`, when the bits below `i` are clear. -/
theorem firstSetBit_xcFfs8From (x : BitVec 8) :
    ∀ n i, i + n = 8 → (∀ j < i, x.getLsbD j = false) → FirstSetBit x (xcFfs8From x n i)
  | 0, i, hn, hlow =>
    .inl ⟨BitVec.eq_of_getLsbD_eq fun ⟨j, hj⟩ => by simp [hlow j (by omega)], rfl⟩
  | n + 1, i, hn, hlow => by
    rw [xcFfs8From]
    by_cases hb : x.getLsbD i = true
    · rw [if_pos ((and_one_shiftLeft_ne_zero_iff x (by omega)).mpr hb)]
      exact .inr ⟨i.succ_pos, hb, hlow⟩
    · rw [if_neg (mt (and_one_shiftLeft_ne_zero_iff x (by omega)).mp hb)]
      refine firstSetBit_xcFfs8From x n (i + 1) (by omega) fun j hj => ?_
      rcases Nat.lt_succ_iff_lt_or_eq.mp hj with hj | rfl
      · exact hlow j hj
      · simpa using hb

/-- The step of `xc_ffs16`, `xc_ffs32` and `xc_ffs64`: the lower half's answer when it is not 0,
else the upper half's moved up by the half's width. -/
theorem firstSetBit_halves {n : Nat} (x : BitVec (n + n)) {rl rh : Nat}
    (hl : FirstSetBit (x.setWidth n) rl) (hh : FirstSetBit ((x >>> n).setWidth n) rh) :
    FirstSetBit x
      (if x.setWidth n ≠ 0 then rl else if (x >>> n).setWidth n ≠ 0 then rh + n else 0) := by
  have lo : ∀ i, (x.setWidth n).getLsbD i = (decide (i < n) && x.getLsbD i) :=
    fun i => BitVec.getLsbD_setWidth ..
  have up : ∀ i, ((x >>> n).setWidth n).getLsbD i = (decide (i < n) && x.getLsbD (n + i)) :=
    fun i => by rw [BitVec.getLsbD_setWidth, BitVec.getLsbD_ushiftRight]
  by_cases hl0 : x.setWidth n = 0
  · have hlow : ∀ j < n, x.getLsbD j = false := fun j hj => by
      simpa [lo, hj] using congrArg (BitVec.getLsbD · j) hl0
    rw [if_neg (not_not.mpr hl0)]
    by_cases hh0 : (x >>> n).setWidth n = 0
    · rw [if_neg (not_not.mpr hh0)]
      refine .inl ⟨BitVec.eq_of_getLsbD_eq fun ⟨j, hj⟩ => ?_, rfl⟩
      by_cases hjn : j < n
      · simp [hlow j hjn]
      · have := congrArg (BitVec.getLsbD · (j - n)) hh0
        simp only [up, BitVec.getLsbD_zero, show n + (j - n) = j by omega] at this
        simpa [show j - n < n by omega] using this
    · rw [if_pos hh0]
      obtain ⟨hr, hbit, hbelow⟩ := hh.resolve_left fun h => hh0 h.1
      have hrn : rh - 1 < n := by
        by_contra hc; simp [up, hc] at hbit
      refine .inr ⟨by omega, ?_, fun j hj => ?_⟩
      · simpa [up, hrn, show n + (rh - 1) = rh + n - 1 by omega] using hbit
      · by_cases hjn : j < n
        · exact hlow j hjn
        · have := hbelow (j - n) (by omega)
          simpa [up, show j - n < n by omega, show n + (j - n) = j by omega] using this
  · rw [if_pos hl0]
    obtain ⟨hr, hbit, hbelow⟩ := hl.resolve_left fun h => hl0 h.1
    have hrn : rl - 1 < n := by
      by_contra hc; simp [lo, hc] at hbit
    refine .inr ⟨hr, by simpa [lo, hrn] using hbit, fun j hj => ?_⟩
    simpa [lo, show j < n by omega] using hbelow j hj

theorem firstSetBit_xcFfs8 (x : BitVec 8) : FirstSetBit x (xcFfs8 x) :=
  firstSetBit_xcFfs8From x 8 0 rfl fun _ h => absurd h (Nat.not_lt_zero _)

theorem firstSetBit_xcFfs16 (x : BitVec 16) : FirstSetBit x (xcFfs16 x) :=
  firstSetBit_halves (n := 8) x (firstSetBit_xcFfs8 _) (firstSetBit_xcFfs8 _)

theorem firstSetBit_xcFfs32 (x : BitVec 32) : FirstSetBit x (xcFfs32 x) :=
  firstSetBit_halves (n := 16) x (firstSetBit_xcFfs16 _) (firstSetBit_xcFfs16 _)

theorem firstSetBit_xcFfs64 (x : BitVec 64) : FirstSetBit x (xcFfs64 x) :=
  firstSetBit_halves (n := 32) x (firstSetBit_xcFfs32 _) (firstSetBit_xcFfs32 _)

/-- `xc_ffs64(x)` is 0 for 0, and otherwise one more than the number of trailing zero bits of
`x`: the bit there is set and every bit below it clear. -/
theorem xcFfs64_counts_trailing_zeros (x : BitVec 64) :
    (x = 0 → xcFfs64 x = 0) ∧
      (x ≠ 0 → ∃ tz, xcFfs64 x = tz + 1 ∧ x.getLsbD tz = true ∧ ∀ j < tz, x.getLsbD j = false) := by
  rcases firstSetBit_xcFfs64 x with ⟨hx, hr⟩ | ⟨hr, hbit, hbelow⟩
  · exact ⟨fun _ => hr, fun h => absurd hx h⟩
  · refine ⟨fun hx => ?_, fun _ => ⟨_, by omega, hbit, hbelow⟩⟩
    subst hx; simp at hbit

/-! ### Memory -/

/-- Guest physical memory, byte by byte. -/
abbrev GuestMemory := Nat → BitVec 8

/-- `map_memory<char>(address, XC_PAGE_SIZE, PROT_READ)`: the page of the guest frame
`address >> XC_PAGE_SHIFT`, read at an offset.  `XenForeignMemory::map` is not in the
repository; the walk adds `paddr & (XC_PAGE_SIZE - 1)` to the pointer it returns, so the model
takes that pointer to be the start of the frame, as `xenforeignmemory_map` of one frame gives. -/
def mapMemory (mem : GuestMemory) (address : BitVec 64) (offset : Nat) : BitVec 8 :=
  mem ((address >>> xcPageShift).toNat * 2 ^ xcPageShift + offset)

/-- The `n` bytes at `src 0, src 1, ...` as a little-endian `uint64_t`. -/
def readLE (src : Nat → BitVec 8) : Nat → BitVec 64
  | 0 => 0
  | n + 1 => (src 0).setWidth 64 ||| (readLE (fun i => src (i + 1)) n <<< 8)

/-- `memcpy(&pte, src, size)` on the little-endian `uint64_t pte`: its low `size` bytes are
replaced and the others kept. -/
def memcpyPte (pte : BitVec 64) (src : Nat → BitVec 8) (size : Nat) : BitVec 64 :=
  (pte &&& ~~~BitVec.ofNat 64 (2 ^ (8 * size) - 1)) ||| readLE src size

/-! ### `get_page_table_entry` -/

/-- `cr0, cr3, cr4, msr_efer` as the visit of `get_cpu_context(vcpu_id)` returns them. -/
structure ControlRegisters where
  cr0 : BitVec 64
  cr3 : BitVec 64
  cr4 : BitVec 64
  msrEfer : BitVec 64
  deriving DecidableEq, Repr

/-- The control registers of a 64-bit register set. -/
def RegistersX86_64.controlRegisters (regs : RegistersX86_64) : ControlRegisters :=
  ⟨regs.cr0, regs.cr3, regs.cr4, regs.msrEfer⟩

/-- The head of `get_page_table_entry`: `none` when the HVM guest has paging off, otherwise
`pt_levels` and the first table's address `paddr`.  `hvm` is `get_dominfo().hvm` and `wordSize`
is `get_word_size()`. -/
def pagingSetup (hvm : Bool) (wordSize : Int) (regs : ControlRegisters) :
    Option (Nat × BitVec 64) :=
  if hvm then
    if regs.cr0 &&& cr0Pg = 0 then none
    else
      let ptLevels := if regs.msrEfer &&& eferLma ≠ 0 then 4
        else if regs.cr4 &&& cr4Pae ≠ 0 then 3 else 2
      some (ptLevels, regs.cr3 &&& if ptLevels = 3 then ~~~0x1f else ~~~0xfff)
  else if wordSize = 8 then some (4, regs.cr3)
  else some (3, ((regs.cr3 >>> xcPageShift) ||| (regs.cr3 <<< 20)) <<< xcPageShift)

/-- The address bits the walk keeps and the `mask` of the top level's index. -/
def walkStart (ptLevels : Nat) (vaddr : BitVec 64) : BitVec 64 × BitVec 64 :=
  if ptLevels = 4 then (vaddr &&& 0x0000ffffffffffff, 0x0000ff8000000000)
  else if ptLevels = 3 then (vaddr &&& 0x00000000ffffffff, 0x0000007fc0000000)
  else (vaddr &&& 0x00000000ffffffff, 0x00000000ffc00000)

/-- The four `return`s of `get_page_table_entry`: paging off, an entry not present, a large page,
and the walk through level 1. -/
inductive TranslationExit where
  | pagingDisabled (frame : BitVec 64)
  | notPresent
  | largePage (frame : BitVec 64)
  | completed (pte : BitVec 64)
  deriving DecidableEq, Repr

/-- The loop `for (level = pt_levels; level > 0; level--)` of `get_page_table_entry` from `level`,
with its variables `paddr`, `mask` and `pte`. -/
def walkPageTables (mem : GuestMemory) (ptLevels size : Nat) (vaddr : BitVec 64) :
    Nat → BitVec 64 → BitVec 64 → BitVec 64 → TranslationExit
  | 0, _, _, pte => .completed pte
  | level + 1, paddr, mask, pte =>
    let paddr := paddr + ((vaddr &&& mask) >>> (xcFfs64 mask - 1)) * BitVec.ofNat 64 size
    let pte := memcpyPte pte
      (fun i => mapMemory mem paddr ((paddr &&& (xcPageSize - 1)).toNat + i)) size
    if pte &&& 1 = 0 then .notPresent
    else
      let paddr := pte &&& 0x000ffffffffff000
      if (level + 1 = 2 ∨ level + 1 = 3 ∧ ptLevels = 4) ∧ pte &&& ptePse ≠ 0 then
        let mask := (mask ^^^ ~~~(-mask)) >>> 1
        .largePage (((paddr &&& ~~~mask) ||| (vaddr &&& mask)) >>> xcPageShift)
      else walkPageTables mem ptLevels size vaddr level paddr
        (mask >>> if ptLevels = 2 then 10 else 9) pte

/-- Where `get_page_table_entry` returns.  `pteInit` is what the uninitialised `uint64_t pte`
holds when the loop starts. -/
def pageTableExit (hvm : Bool) (wordSize : Int) (regs : ControlRegisters) (mem : GuestMemory)
    (pteInit vaddr : BitVec 64) : TranslationExit :=
  match pagingSetup hvm wordSize regs with
  | none => .pagingDisabled (vaddr >>> xcPageShift)
  | some (ptLevels, paddr) =>
    walkPageTables mem ptLevels (if ptLevels = 2 then 4 else 8) (walkStart ptLevels vaddr).1
      ptLevels paddr (walkStart ptLevels vaddr).2 pteInit

/-- What each `return` of `get_page_table_entry` returns. -/
def TranslationExit.entry : TranslationExit → Option (BitVec 64)
  | .pagingDisabled frame => some frame
  | .notPresent => none
  | .largePage frame => some frame
  | .completed pte => some pte

/-- `Domain::get_page_table_entry(vaddr, vcpu_id)`. -/
def getPageTableEntry (hvm : Bool) (wordSize : Int) (regs : ControlRegisters) (mem : GuestMemory)
    (pteInit vaddr : BitVec 64) : Option (BitVec 64) :=
  (pageTableExit hvm wordSize regs mem pteInit vaddr).entry

/-! ### The reference

libxc's walk as the spec describes it: entries zero-extended from 4 or 8 bytes, the table base
from `cr3` per mode, a 9- or 10-bit index per level, large pages at level 2 and at level 3 in
4-level mode, and the translated address shifted down to a frame number on every exit. -/

/-- Bits of the address that index a table: 10 in 2-level mode, 9 otherwise. -/
def indexBits (levels : Nat) : Nat := if levels = 2 then 10 else 9

/-- Bytes of a table entry. -/
def entrySize (levels : Nat) : Nat := if levels = 2 then 4 else 8

/-- Bits of the address a walk translates: 48 in 4-level mode, 32 otherwise. -/
def addressBits (levels : Nat) : Nat := if levels = 4 then 48 else 32

/-- CR4.PAE as the x86 architecture and libxc's `xc_pagetab.c` define it: bit 5 of `cr4`. -/
def x86Cr4Pae : BitVec 64 := 0x20

/-- The reference's paging mode and table base: long mode from `EFER.LMA`, PAE from `CR4.PAE`,
page-aligned `cr3`, `cr3 & ~0x1f` for a PAE HVM guest, and for a 32-bit PV guest Xen's extended
`cr3`, the frame number rotated in 32 bits. -/
def referenceSetup (hvm : Bool) (wordSize : Int) (regs : ControlRegisters) :
    Option (Nat × BitVec 64) :=
  if hvm then
    if regs.cr0 &&& cr0Pg = 0 then none
    else
      let levels := if regs.msrEfer &&& eferLma ≠ 0 then 4
        else if regs.cr4 &&& x86Cr4Pae ≠ 0 then 3 else 2
      some (levels, if levels = 3 then regs.cr3 &&& ~~~0x1f else regs.cr3 &&& ~~~0xfff)
  else if wordSize = 8 then some (4, regs.cr3 &&& ~~~0xfff)
  else
    let cr3 : BitVec 32 := regs.cr3.setWidth 32
    some (3, ((cr3 >>> 12) ||| (cr3 <<< 20)).setWidth 64 <<< 12)

/-- The reference walk from `level` at the table `table`; after level 1, `table` is the frame of
the translated page. -/
def referenceWalk (mem : GuestMemory) (levels : Nat) (vaddr : BitVec 64) :
    Nat → BitVec 64 → Option (BitVec 64)
  | 0, frame => some (frame >>> 12)
  | level + 1, table =>
    let shift := 12 + indexBits levels * level
    let index := (vaddr >>> shift) &&& BitVec.ofNat 64 (2 ^ indexBits levels - 1)
    let entry := table + index * BitVec.ofNat 64 (entrySize levels)
    let pte := readLE (fun i => mem (entry.toNat + i)) (entrySize levels)
    if pte.getLsbD 0 = false then none
    else
      let frame := pte &&& 0x000ffffffffff000
      let offset := BitVec.ofNat 64 (2 ^ shift - 1)
      if (level + 1 = 2 ∨ level + 1 = 3 ∧ levels = 4) ∧ pte.getLsbD 7 = true then
        some (((frame &&& ~~~offset) ||| (vaddr &&& offset)) >>> 12)
      else referenceWalk mem levels vaddr level frame

/-- The reference translation: the frame number of `vaddr`, or `none` at an entry not present. -/
def referenceTranslation (hvm : Bool) (wordSize : Int) (regs : ControlRegisters)
    (mem : GuestMemory) (vaddr : BitVec 64) : Option (BitVec 64) :=
  match referenceSetup hvm wordSize regs with
  | none => some (vaddr >>> 12)
  | some (levels, base) =>
    referenceWalk mem levels (vaddr &&& BitVec.ofNat 64 (2 ^ addressBits levels - 1)) levels base

/-- The frame each exit of `get_page_table_entry` stands for: a walk through level 1 ends at the
frame of its last entry. -/
def TranslationExit.frame : TranslationExit → Option (BitVec 64)
  | .pagingDisabled frame => some frame
  | .notPresent => none
  | .largePage frame => some frame
  | .completed pte => some ((pte &&& 0x000ffffffffff000) >>> 12)

/-! ### Bits and bytes -/

/-- The index `mask` of the level whose index starts `l` levels above bit 12. -/
def maskAt (levels l : Nat) : BitVec 64 :=
  BitVec.ofNat 64 (2 ^ indexBits levels - 1) <<< (12 + indexBits levels * l)

/-- What the loop computes from `mask` at each level of each mode: `xc_ffs64` finds the index's
shift, `(mask ^ ~-mask) >> 1` is the offset mask of a large page there, and `mask >>= 9` (or 10)
steps down a level. -/
theorem maskAt_facts : ∀ levels ∈ [2, 3, 4], ∀ l < levels,
    xcFfs64 (maskAt levels l) - 1 = 12 + indexBits levels * l ∧
    (maskAt levels l ^^^ ~~~(-maskAt levels l)) >>> 1 =
      BitVec.ofNat 64 (2 ^ (12 + indexBits levels * l) - 1) ∧
    (l + 1 < levels →
      maskAt levels (l + 1) >>> (if levels = 2 then 10 else 9) = maskAt levels l) := by
  decide

/-- Masking with an index mask and shifting down is shifting down and masking. -/
theorem and_shiftLeft_ushiftRight (vaddr : BitVec 64) (b s : Nat) :
    (vaddr &&& BitVec.ofNat 64 (2 ^ b - 1) <<< s) >>> s =
      (vaddr >>> s) &&& BitVec.ofNat 64 (2 ^ b - 1) := by
  apply BitVec.eq_of_getLsbD_eq
  rintro ⟨i, hi⟩
  simp only [BitVec.getLsbD_ushiftRight, BitVec.getLsbD_and, BitVec.getLsbD_shiftLeft,
    BitVec.getLsbD_ofNat]
  by_cases h : s + i < 64
  · simp [h, hi, Nat.not_lt.mpr (Nat.le_add_right s i)]
  · simp [BitVec.getLsbD_ge vaddr (s + i) (by omega)]

/-- The page-aligned part of the address names the page, the rest the offset in it. -/
theorem mapMemory_pageOffset (mem : GuestMemory) (paddr : BitVec 64) (i : Nat) :
    mapMemory mem paddr ((paddr &&& (xcPageSize - 1)).toNat + i) = mem (paddr.toNat + i) := by
  have hm : (xcPageSize - 1).toNat = 2 ^ 12 - 1 := rfl
  have hd := Nat.div_add_mod' paddr.toNat (2 ^ 12)
  rw [mapMemory, BitVec.toNat_and, hm, Nat.and_pow_two_sub_one_eq_mod, BitVec.toNat_ushiftRight,
    Nat.shiftRight_eq_div_pow, xcPageShift]
  congr 1
  omega

theorem getLsbD_readLE (src : Nat → BitVec 8) :
    ∀ n i, 8 * n ≤ i → (readLE src n).getLsbD i = false
  | 0, _, _ => by simp [readLE]
  | n + 1, i, h => by
    have := getLsbD_readLE (fun j => src (j + 1)) n (i - 8) (by omega)
    simp only [readLE, BitVec.getLsbD_or, BitVec.getLsbD_setWidth, BitVec.getLsbD_shiftLeft]
    simp [BitVec.getLsbD_ge (src 0) i (by omega), Nat.not_lt.mpr (show 8 ≤ i by omega), this]

/-- Four bytes leave the upper half of the entry zero. -/
theorem readLE_four_ushiftRight (src : Nat → BitVec 8) : readLE src 4 >>> 32 = 0 := by
  apply BitVec.eq_of_getLsbD_eq
  rintro ⟨i, -⟩
  simp [getLsbD_readLE src 4 (32 + i) (by omega)]

/-- An 8-byte `memcpy` replaces the whole entry. -/
theorem memcpyPte_eight (pte : BitVec 64) (src : Nat → BitVec 8) :
    memcpyPte pte src 8 = readLE src 8 := by
  have h : ~~~BitVec.ofNat 64 (2 ^ (8 * 8) - 1) = 0 := by decide
  simp [memcpyPte, h]

/-- A 4-byte `memcpy` into an entry whose upper half is zero zero-extends the bytes. -/
theorem memcpyPte_four {pte : BitVec 64} (hpte : pte >>> 32 = 0) (src : Nat → BitVec 8) :
    memcpyPte pte src 4 = readLE src 4 := by
  have h : pte &&& ~~~BitVec.ofNat 64 (2 ^ (8 * 4) - 1) = 0 := by
    apply BitVec.eq_of_getLsbD_eq
    rintro ⟨i, hi⟩
    have hb := congrArg (BitVec.getLsbD · (i - 32)) hpte
    simp only [BitVec.getLsbD_ushiftRight, BitVec.getLsbD_zero] at hb
    by_cases h32 : i < 32
    · simp only [BitVec.getLsbD_and, BitVec.getLsbD_not, BitVec.getLsbD_ofNat,
        Nat.testBit_two_pow_sub_one, BitVec.getLsbD_zero]
      simp [h32]
    · rw [show 32 + (i - 32) = i by omega] at hb
      simp [hb]
  rw [memcpyPte, h]
  simp

theorem and_one_eq_zero_iff (x : BitVec 64) : x &&& 1 = 0 ↔ x.getLsbD 0 = false :=
  @and_two_pow_eq_zero_iff 64 x 0 (by decide)

theorem and_ptePse_ne_zero_iff (x : BitVec 64) : x &&& ptePse ≠ 0 ↔ x.getLsbD 7 = true := by
  rw [show ptePse = BitVec.ofNat 64 (2 ^ 7) from rfl, Ne,
    @and_two_pow_eq_zero_iff 64 x 7 (by decide), Bool.not_eq_false]

theorem and_maskAt_ushiftRight (vaddr : BitVec 64) (levels l : Nat) :
    (vaddr &&& maskAt levels l) >>> (12 + indexBits levels * l) =
      (vaddr >>> (12 + indexBits levels * l)) &&& BitVec.ofNat 64 (2 ^ indexBits levels - 1) :=
  and_shiftLeft_ushiftRight vaddr _ _

/-! ### The walk against the reference -/

/-- Level by level, the loop of `get_page_table_entry` reads the entry the reference reads and
leaves where the reference does; after level 1 it holds the entry whose frame the reference
returns.  In 2-level mode this needs the upper half of `pte` zero, since `memcpy` writes only the
lower. -/
theorem walkPageTables_frame (mem : GuestMemory) {levels : Nat} (hlev : levels ∈ [2, 3, 4])
    (vaddr : BitVec 64) : ∀ l, l < levels → ∀ paddr pte : BitVec 64,
      (levels = 2 → pte >>> 32 = 0) →
      (walkPageTables mem levels (entrySize levels) vaddr (l + 1) paddr (maskAt levels l)
        pte).frame =
        referenceWalk mem levels vaddr (l + 1) paddr
  | l, hl, paddr, pte, hpte => by
    obtain ⟨hffs, hlarge, hstep⟩ := maskAt_facts levels hlev l hl
    have hread : ∀ entry : BitVec 64, memcpyPte pte
        (fun i => mapMemory mem entry ((entry &&& (xcPageSize - 1)).toNat + i)) (entrySize levels) =
          readLE (fun i => mem (entry.toNat + i)) (entrySize levels) := fun entry => by
      simp only [mapMemory_pageOffset]
      by_cases h2 : levels = 2
      · simp only [entrySize, if_pos h2]; exact memcpyPte_four (hpte h2) _
      · simp only [entrySize, if_neg h2]; exact memcpyPte_eight _ _
    rw [walkPageTables, referenceWalk]
    simp only [hffs, and_maskAt_ushiftRight, hread, hlarge, and_one_eq_zero_iff,
      and_ptePse_ne_zero_iff]
    generalize hentry : paddr + _ * BitVec.ofNat 64 (entrySize levels) = entry
    have he : levels = 2 → readLE (fun i => mem (entry.toNat + i)) (entrySize levels) >>> 32 = 0 :=
      fun h2 => by simp only [entrySize, if_pos h2]; exact readLE_four_ushiftRight _
    generalize readLE (fun i => mem (entry.toNat + i)) (entrySize levels) = e at he ⊢
    by_cases hp : e.getLsbD 0 = false
    · simp [hp, TranslationExit.frame]
    by_cases hL : (l + 1 = 2 ∨ l + 1 = 3 ∧ levels = 4) ∧ e.getLsbD 7 = true
    · simp only [hp, hL, and_self, if_true, if_false, TranslationExit.frame]; rfl
    simp only [hp, hL, if_false]
    cases l with
    | zero => rfl
    | succ k =>
      rw [(maskAt_facts levels hlev k (by omega)).2.2 hl]
      exact walkPageTables_frame mem hlev vaddr k (by omega) _ e he

theorem walkStart_eq {levels : Nat} (hlev : levels ∈ [2, 3, 4]) (vaddr : BitVec 64) :
    walkStart levels vaddr =
      (vaddr &&& BitVec.ofNat 64 (2 ^ addressBits levels - 1), maskAt levels (levels - 1)) := by
  simp only [List.mem_cons, List.mem_singleton, List.not_mem_nil, or_false] at hlev
  rcases hlev with rfl | rfl | rfl <;> rfl

theorem referenceSetup_levels {hvm : Bool} {wordSize : Int} {regs : ControlRegisters}
    {levels : Nat} {base : BitVec 64} (h : referenceSetup hvm wordSize regs = some (levels, base)) :
    levels ∈ [2, 3, 4] := by
  unfold referenceSetup at h
  split_ifs at h <;> cases h <;> simp

/-- `get_page_table_entry` leaves where the reference does, and each of its exits stands for the
frame the reference returns, when it starts the walk where the reference does and the upper half
of the uninitialised `pte` is zero. -/
theorem pageTableExit_frame {hvm : Bool} {wordSize : Int} {regs : ControlRegisters}
    (hsetup : pagingSetup hvm wordSize regs = referenceSetup hvm wordSize regs)
    (mem : GuestMemory) {pteInit : BitVec 64} (hinit : pteInit >>> 32 = 0) (vaddr : BitVec 64) :
    (pageTableExit hvm wordSize regs mem pteInit vaddr).frame =
      referenceTranslation hvm wordSize regs mem vaddr := by
  unfold pageTableExit referenceTranslation
  rw [hsetup]
  rcases hs : referenceSetup hvm wordSize regs with _ | ⟨levels, base⟩
  · rfl
  · have hlev := referenceSetup_levels hs
    dsimp only
    rw [walkStart_eq hlev]
    obtain ⟨k, rfl⟩ : ∃ k, levels = k + 1 := ⟨levels - 1, by simp at hlev; omega⟩
    exact walkPageTables_frame mem hlev _ k (Nat.lt_succ_self k) base pteInit (fun _ => hinit)

/-- An HVM guest's walk starts where the reference's does when the code's `CR4_PAE` reads its
mode right: paging off, long mode on, or bits 1 and 5 of `cr4` alike. -/
theorem pagingSetup_hvm_of_pae_agrees (wordSize : Int) {regs : ControlRegisters}
    (h : regs.cr0 &&& cr0Pg = 0 ∨ regs.msrEfer &&& eferLma ≠ 0 ∨
      (regs.cr4 &&& cr4Pae = 0 ↔ regs.cr4 &&& x86Cr4Pae = 0)) :
    pagingSetup true wordSize regs = referenceSetup true wordSize regs := by
  simp only [pagingSetup, referenceSetup, if_true]
  by_cases hpg : regs.cr0 &&& cr0Pg = 0
  · simp only [if_pos hpg]
  by_cases hlma : regs.msrEfer &&& eferLma ≠ 0
  · simp only [if_neg hpg, if_pos hlma]
    rfl
  have hpae := (h.resolve_left hpg).resolve_left hlma
  simp only [if_neg hpg, if_neg hlma, ne_eq, hpae, apply_ite (regs.cr3 &&& ·)]

/-- So does a 64-bit PV guest's, when `cr3` is page-aligned as Xen reports it. -/
theorem pagingSetup_pv64 {wordSize : Int} (hw : wordSize = 8) {regs : ControlRegisters}
    (hcr3 : regs.cr3 &&& 0xfff = 0) :
    pagingSetup false wordSize regs = referenceSetup false wordSize regs := by
  have hm : (0xfff : BitVec 64) = BitVec.ofNat 64 (2 ^ 12 - 1) := rfl
  have hal : regs.cr3 &&& ~~~0xfff = regs.cr3 := by
    apply BitVec.eq_of_getLsbD_eq
    rintro ⟨i, hi⟩
    have hb := congrArg (BitVec.getLsbD · i) hcr3
    simp only [hm, BitVec.getLsbD_and, BitVec.getLsbD_ofNat, Nat.testBit_two_pow_sub_one,
      BitVec.getLsbD_zero] at hb
    simp only [hm, BitVec.getLsbD_and, BitVec.getLsbD_not, BitVec.getLsbD_ofNat,
      Nat.testBit_two_pow_sub_one]
    by_cases h12 : i < 12 <;> simp_all
  simp only [pagingSetup, referenceSetup, hw, Bool.false_eq_true, if_false, if_true, hal]

/-- Four tables at frames 1 to 4, each with one present entry, at index 0, pointing at the next
frame; the last points at frame 5. -/
def chainMemory : GuestMemory := fun a =>
  if 4096 ≤ a ∧ a < 5 * 4096 then
    if a % 4096 = 0 then 3 else if a % 4096 = 1 then BitVec.ofNat 8 ((a / 4096 + 1) * 16) else 0
  else 0

/-- A long-mode vCPU with paging on and its top table at `0x1000`. -/
def longModeRegisters : ControlRegisters := ⟨0x80000011, 0x1000, 0x20, 0x500⟩

/-- Address 0 of a long-mode HVM guest is in frame 5, and `get_page_table_entry` returns the
level-1 entry `0x5003`. -/
theorem getPageTableEntry_returns_level_one_entry :
    getPageTableEntry true 8 longModeRegisters chainMemory 0 0 = some 0x5003 ∧
      referenceTranslation true 8 longModeRegisters chainMemory 0 = some 5 := by
  decide

/-- The code reads the paging mode of an HVM vCPU with `CR4_PAE = 0x2`, bit 1 of `cr4`, where x86
and libxc read bit 5: its walk starts where the reference's does exactly when paging is off, long
mode is on, or the two bits are alike.  A PAE vCPU out of long mode, bit 5 set and bit 1 clear, is
walked as a 2-level one, and a vCPU with bit 1 set and bit 5 clear as a PAE one. -/
theorem pagingSetup_hvm_eq_reference_iff (wordSize : Int) (regs : ControlRegisters) :
    pagingSetup true wordSize regs = referenceSetup true wordSize regs ↔
      regs.cr0 &&& cr0Pg = 0 ∨ regs.msrEfer &&& eferLma ≠ 0 ∨
        (regs.cr4 &&& cr4Pae = 0 ↔ regs.cr4 &&& x86Cr4Pae = 0) := by
  refine ⟨fun h => ?_, pagingSetup_hvm_of_pae_agrees wordSize⟩
  by_contra hn
  simp only [not_or, ne_eq, not_not] at hn
  obtain ⟨hpg, hlma, hpae⟩ := hn
  have hlevels := congrArg (Option.map Prod.fst) h
  simp only [pagingSetup, referenceSetup, if_true, if_neg hpg, hlma, ne_eq, not_true_eq_false,
    if_false, Option.map_some', Option.some.injEq] at hlevels
  by_cases h1 : regs.cr4 &&& cr4Pae = 0 <;> by_cases h5 : regs.cr4 &&& x86Cr4Pae = 0 <;>
    simp_all

/-- A 32-bit PAE vCPU: paging on, only the PAE bit of `cr4` set, no long mode, its top table at
`0x1000`. -/
def paeRegisters : ControlRegisters := ⟨0x80000011, 0x1000, 0x20, 0⟩

/-- On it the code walks two levels of 4-byte entries from `0x1000` and returns the entry
`0x3003`, where x86 walks three levels of 8-byte entries to frame 4. -/
theorem pagingSetup_hvm_eq_reference_iff_pae :
    pagingSetup true 4 paeRegisters ≠ referenceSetup true 4 paeRegisters ∧
      getPageTableEntry true 4 paeRegisters chainMemory 0 0 = some 0x3003 ∧
      referenceTranslation true 4 paeRegisters chainMemory 0 = some 4 :=
  ⟨fun h => absurd ((pagingSetup_hvm_eq_reference_iff 4 paeRegisters).mp h) (by decide),
    by decide, by decide⟩

/-! ### The registers the walk reads -/

/-- The control registers of a saved HVM context, which libxc's walk reads. -/
def HvmHwCpu.controlRegisters (hvm : HvmHwCpu) : ControlRegisters :=
  ⟨hvm.cr0, hvm.cr3, hvm.cr4, hvm.msrEfer⟩

/-- Of the vCPU's control registers, the mode `get_page_table_entry` derives from
`get_cpu_context` on an HVM guest depends on `cr3` alone. -/
theorem pagingSetup_convertRegsFromHvm (wordSize : Int) (defaults : RegistersX86_64)
    (hvm : HvmHwCpu) :
    pagingSetup true wordSize (convertRegsFromHvm defaults hvm).controlRegisters =
      pagingSetup true wordSize ⟨defaults.cr0, hvm.cr3, defaults.cr4, defaults.msrEfer⟩ := rfl

/-- A long-mode vCPU with paging on, the rest of its context zero. -/
def longModeCpu : HvmHwCpu :=
  { (default : HvmHwCpu) with cr0 := 0x80000011, cr3 := 0x1000, cr4 := 0x20, msrEfer := 0x500 }

/-- The same vCPU with paging off. -/
def realModeCpu : HvmHwCpu := { (default : HvmHwCpu) with cr3 := 0x1000 }

/-- Whatever the default `RegistersX86_64` holds in `cr0`, `cr4` and `msr_efer`, the converted
registers give the two vCPUs one paging mode, so one of them is walked in the wrong mode. -/
theorem convertRegsFromHvm_misreads_paging (defaults : RegistersX86_64) (wordSize : Int) :
    pagingSetup true wordSize (convertRegsFromHvm defaults longModeCpu).controlRegisters ≠
        pagingSetup true wordSize longModeCpu.controlRegisters ∨
      pagingSetup true wordSize (convertRegsFromHvm defaults realModeCpu).controlRegisters ≠
        pagingSetup true wordSize realModeCpu.controlRegisters := by
  have hdiff : pagingSetup true wordSize longModeCpu.controlRegisters ≠
      pagingSetup true wordSize realModeCpu.controlRegisters := by
    simp only [pagingSetup, if_true]; decide
  have hsame : pagingSetup true wordSize (convertRegsFromHvm defaults longModeCpu).controlRegisters =
      pagingSetup true wordSize (convertRegsFromHvm defaults realModeCpu).controlRegisters := by
    rw [pagingSetup_convertRegsFromHvm, pagingSetup_convertRegsFromHvm]
    rfl
  by_contra h
  obtain ⟨h₁, h₂⟩ := not_or.mp h
  rw [not_not] at h₁ h₂
  exact hdiff (h₁.symm.trans (hsame.trans h₂))

end Xendbg
