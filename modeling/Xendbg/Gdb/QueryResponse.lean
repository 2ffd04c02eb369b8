import Mathlib.Data.List.Basic

/-! The answers of `GDBQueryResponse.cpp` to the GDB remote protocol's queries `qfThreadInfo`,
`qC`, `qSupported` and `qWatchpointSupportInfo`, as the characters their `to_string` writes into
the `std::stringstream`, and as a client reads them back.  Numbers are written by `operator<<` in
the stream's radix, `std::hex` or `std::dec` (`Radix.digits`).  Each response reads back as the
value it was written from (`read_thread_info_round_trip` and its siblings); the `qSupported` list
does so when no feature holds the separator `;`. -/

namespace Xendbg

/-- The radix a `std::stringstream` writes unsigned integers in. -/
structure Radix where
  base : Nat
  two_le : 2 ≤ base
  le_sixteen : base ≤ 16

/-- `std::dec`. -/
def Radix.dec : Radix := ⟨10, by decide, by decide⟩

/-- `std::hex`. -/
def Radix.hex : Radix := ⟨16, by decide, by decide⟩

/-- The characters `ss << n` writes for an unsigned `n`: most significant digit first, in lower
case, with no leading zero, and `0` for zero. -/
def Radix.digits (r : Radix) (n : Nat) : List Char :=
  if _h : n < r.base then [Nat.digitChar n]
  else r.digits (n / r.base) ++ [Nat.digitChar (n % r.base)]
termination_by n
decreasing_by exact Nat.div_lt_self (by have := r.two_le; omega) r.two_le

/-- The value of a digit as a client reads it, in either case. -/
def digitValue (c : Char) : Option Nat :=
  if '0' ≤ c ∧ c ≤ '9' then some (c.toNat - '0'.toNat)
  else if 'a' ≤ c ∧ c ≤ 'f' then some (c.toNat - 'a'.toNat + 10)
  else if 'A' ≤ c ∧ c ≤ 'F' then some (c.toNat - 'A'.toNat + 10)
  else none

/-- The digits `cs` read in radix `r` after the value `acc` read before them. -/
def Radix.readFrom (r : Radix) : Nat → List Char → Option Nat
  | acc, [] => some acc
  | acc, c :: cs =>
    (digitValue c).bind fun d => if d < r.base then r.readFrom (acc * r.base + d) cs else none

/-- A number in radix `r`: one digit or more. -/
def Radix.read (r : Radix) : List Char → Option Nat
  | [] => none
  | c :: cs => r.readFrom 0 (c :: cs)

/-! ### Numbers -/

theorem digitValue_digitChar : ∀ d < 16, digitValue (Nat.digitChar d) = some d := by
  decide

theorem Radix.digits_of_lt (r : Radix) {n : Nat} (h : n < r.base) : r.digits n = [n.digitChar] := by
  rw [Radix.digits, dif_pos h]

theorem Radix.digits_of_le (r : Radix) {n : Nat} (h : r.base ≤ n) :
    r.digits n = r.digits (n / r.base) ++ [Nat.digitChar (n % r.base)] := by
  rw [Radix.digits, dif_neg (Nat.not_lt.mpr h)]

/-- Reading one digit of the radix. -/
theorem Radix.readFrom_digitChar (r : Radix) (acc : Nat) {d : Nat} (hd : d < r.base)
    (rest : List Char) : r.readFrom acc (d.digitChar :: rest) = r.readFrom (acc * r.base + d) rest := by
  rw [Radix.readFrom, digitValue_digitChar d (Nat.lt_of_lt_of_le hd r.le_sixteen), Option.some_bind,
    if_pos hd]

/-- Reading the digits of `n`, and whatever follows them, goes on from `n`. -/
theorem Radix.readFrom_digits (r : Radix) (n : Nat) (rest : List Char) :
    r.readFrom 0 (r.digits n ++ rest) = r.readFrom n rest := by
  induction n using Nat.strong_induction_on generalizing rest with
  | _ n ih =>
    by_cases h : n < r.base
    · rw [r.digits_of_lt h, List.singleton_append, r.readFrom_digitChar 0 h, Nat.zero_mul,
        Nat.zero_add]
    · have hb := r.two_le
      rw [r.digits_of_le (Nat.le_of_not_lt h), List.append_assoc, List.singleton_append,
        ih _ (Nat.div_lt_self (by omega) (by omega)),
        r.readFrom_digitChar _ (Nat.mod_lt _ (by omega)), Nat.div_add_mod']

theorem Radix.digits_ne_nil (r : Radix) (n : Nat) : r.digits n ≠ [] := by
  rw [Radix.digits]
  split <;> simp

/-- What `operator<<` writes reads back as the number written. -/
theorem Radix.read_digits (r : Radix) (n : Nat) : r.read (r.digits n) = some n := by
  obtain ⟨c, cs, hcs⟩ := List.exists_cons_of_ne_nil (r.digits_ne_nil n)
  have := r.readFrom_digits n []
  rw [List.append_nil, hcs] at this
  rw [hcs, Radix.read, this, Radix.readFrom]

/-- Only digits are written. -/
theorem Radix.digitValue_of_mem_digits (r : Radix) (n : Nat) :
    ∀ c ∈ r.digits n, (digitValue c).isSome := by
  induction n using Nat.strong_induction_on with
  | _ n ih =>
    have hb := r.two_le
    have hdigit : ∀ d < r.base, (digitValue (Nat.digitChar d)).isSome := fun d hd => by
      rw [digitValue_digitChar d (Nat.lt_of_lt_of_le hd r.le_sixteen)]; rfl
    intro c hc
    by_cases h : n < r.base
    · rw [r.digits_of_lt h, List.mem_singleton] at hc
      exact hc ▸ hdigit n h
    · rw [r.digits_of_le (Nat.le_of_not_lt h), List.mem_append, List.mem_singleton] at hc
      rcases hc with hc | rfl
      · exact ih _ (Nat.div_lt_self (by omega) (by omega)) c hc
      · exact hdigit _ (Nat.mod_lt _ (by omega))

theorem Radix.not_mem_digits (r : Radix) (n : Nat) {c : Char} (hc : digitValue c = none) :
    c ∉ r.digits n := fun h => by
  have := r.digitValue_of_mem_digits n c h
  rw [hc] at this
  cases this

/-! ### `qfThreadInfo` -/

/-- `size_t`. -/
abbrev SizeT := BitVec 64

/-- A `QueryThreadInfoResponse`: the answer to `qfThreadInfo`, the ids of the threads, one per
vCPU.  Its constructor throws on an empty list, so every value holds an id. -/
structure QueryThreadInfoResponse where
  threadIds : List SizeT
  ne_nil : threadIds ≠ []

/-- The constructor `QueryThreadInfoResponse(thread_ids)`. -/
def QueryThreadInfoResponse.make (threadIds : List SizeT) : Except String QueryThreadInfoResponse :=
  if h : threadIds = [] then .error "Must provide at least one thread ID!" else .ok ⟨threadIds, h⟩

/-- `QueryThreadInfoResponse::to_string`: `m`, then the ids in hex, separated by commas. -/
def QueryThreadInfoResponse.toString (r : QueryThreadInfoResponse) : List Char :=
  match r.threadIds, r.ne_nil with
  | [], h => absurd rfl h
  | tid :: tids, _ =>
    'm' :: (Radix.hex.digits tid.toNat ++ tids.flatMap fun t => ',' :: Radix.hex.digits t.toNat)

/-- How a client reads a `qfThreadInfo` answer: `m`, then hex ids separated by commas. -/
def readThreadInfo : List Char → Option (List SizeT)
  | 'm' :: cs => (cs.splitOn ',').mapM fun id => (Radix.hex.read id).map (BitVec.ofNat 64)
  | _ => none

theorem intercalate_singleton_cons {α : Type} (x : α) (l : List α) (ls : List (List α)) :
    [x].intercalate (l :: ls) = l ++ ls.flatMap (x :: ·) := by
  induction ls generalizing l with
  | nil => simp [List.intercalate]
  | cons l' ls ih =>
    have h : [x].intercalate (l :: l' :: ls) = l ++ x :: [x].intercalate (l' :: ls) := by
      simp [List.intercalate, List.intersperse_cons₂]
    rw [h, ih, List.flatMap_cons, List.cons_append]

theorem mapM_read_hex_digits (ids : List SizeT) :
    (ids.map fun t => Radix.hex.digits t.toNat).mapM
      (fun id => (Radix.hex.read id).map (BitVec.ofNat 64)) = some ids := by
  induction ids with
  | nil => rfl
  | cons t ids ih =>
    simp only [List.map_cons, List.mapM_cons, Radix.read_digits, Option.map_some',
      BitVec.ofNat_toNat, BitVec.setWidth_eq, ih]
    rfl

/-- The `qfThreadInfo` answer reads back as the thread ids it was built from, in order. -/
theorem read_thread_info_round_trip (r : QueryThreadInfoResponse) :
    readThreadInfo r.toString = some r.threadIds := by
  obtain ⟨ids, hne⟩ := r
  match ids, hne with
  | tid :: tids, _ =>
    have hcomma : ∀ l ∈ (tid :: tids).map fun t => Radix.hex.digits t.toNat, ',' ∉ l := by
      simp only [List.mem_map]
      rintro l ⟨t, -, rfl⟩
      exact Radix.hex.not_mem_digits _ (by decide)
    have hsplit := List.splitOn_intercalate _ ',' hcomma (by simp)
    rw [List.map_cons, intercalate_singleton_cons, List.flatMap_map] at hsplit
    simp only [QueryThreadInfoResponse.toString, readThreadInfo, hsplit]
    exact mapM_read_hex_digits (tid :: tids)

/-! ### `qC` -/

/-- A `QueryCurrentThreadIDResponse`: the answer to `qC`, the current thread's id, where
`(size_t)-1` stands for all threads. -/
structure QueryCurrentThreadIDResponse where
  threadId : SizeT

/-- `QueryCurrentThreadIDResponse::to_string`: `QC`, then `-1` for `(size_t)-1` and the id in hex
otherwise. -/
def QueryCurrentThreadIDResponse.toString (r : QueryCurrentThreadIDResponse) : List Char :=
  'Q' :: 'C' :: if r.threadId = -1 then ['-', '1'] else Radix.hex.digits r.threadId.toNat

/-- How a client reads a `qC` answer. -/
def readCurrentThreadId : List Char → Option SizeT
  | ['Q', 'C', '-', '1'] => some (-1)
  | 'Q' :: 'C' :: cs => (Radix.hex.read cs).map (BitVec.ofNat 64)
  | _ => none

/-- The `qC` answer reads back as the thread id it was built from, `(size_t)-1` included. -/
theorem read_current_thread_id_round_trip (r : QueryCurrentThreadIDResponse) :
    readCurrentThreadId r.toString = some r.threadId := by
  unfold QueryCurrentThreadIDResponse.toString
  split
  · rename_i h
    rw [h]
    rfl
  · have hminus : Radix.hex.digits r.threadId.toNat ≠ ['-', '1'] := fun h =>
      Radix.hex.not_mem_digits r.threadId.toNat (c := '-') (by decide)
        (by rw [h]; exact List.mem_cons_self _ _)
    rw [readCurrentThreadId.eq_2 _ hminus, Radix.read_digits, Option.map_some',
      BitVec.ofNat_toNat, BitVec.setWidth_eq]

/-! ### `qSupported` -/

/-- A `QuerySupportedResponse`: the answer to `qSupported`, the features the stub supports. -/
structure QuerySupportedResponse where
  features : List String

/-- `QuerySupportedResponse::to_string`: the features separated by `;`, and nothing for none. -/
def QuerySupportedResponse.toString (r : QuerySupportedResponse) : List Char :=
  match r.features with
  | [] => []
  | f :: fs => f.toList ++ fs.flatMap fun f => ';' :: f.toList

/-- How a client reads a `qSupported` answer: the features between the `;`s. -/
def readSupported (cs : List Char) : List String := (cs.splitOn ';').map String.mk

/-- The `qSupported` answer reads back as its features when there is one at least and none holds a
`;`.  (With none, the empty answer reads back as one empty feature.) -/
theorem read_supported_round_trip (r : QuerySupportedResponse) (hne : r.features ≠ [])
    (hsemi : ∀ f ∈ r.features, ';' ∉ f.toList) : readSupported r.toString = r.features := by
  obtain ⟨fs⟩ := r
  match fs, hne with
  | f :: fs, _ =>
    have hsplit := List.splitOn_intercalate ((f :: fs).map String.toList) ';'
      (by simpa using hsemi) (by simp)
    rw [List.map_cons, intercalate_singleton_cons, List.flatMap_map] at hsplit
    simp only [QuerySupportedResponse.toString, readSupported, hsplit, List.map_cons, List.map_map]
    exact congrArg₂ List.cons rfl (List.map_id'' (fun _ => rfl) fs)

/-- Two features, neither holding a `;`. -/
def twoFeatures : QuerySupportedResponse := ⟨["PacketSize=4000", "qXfer:features:read+"]⟩

theorem read_supported_round_trip_two_features :
    twoFeatures.features ≠ [] ∧ (∀ f ∈ twoFeatures.features, ';' ∉ f.toList) ∧
      readSupported twoFeatures.toString = twoFeatures.features :=
  ⟨by decide, by decide, read_supported_round_trip twoFeatures (by decide) (by decide)⟩

/-! ### `qWatchpointSupportInfo` -/

/-- A `QueryWatchpointSupportInfoResponse`: the number of hardware watchpoints. -/
structure QueryWatchpointSupportInfoResponse where
  num : Nat

/-- `QueryWatchpointSupportInfoResponse::to_string`: `num:`, the number in decimal, `;`. -/
def QueryWatchpointSupportInfoResponse.toString (r : QueryWatchpointSupportInfoResponse) :
    List Char :=
  ['n', 'u', 'm', ':'] ++ Radix.dec.digits r.num ++ [';']

/-- How a client reads a `qWatchpointSupportInfo` answer: `num:`, a decimal number, `;`. -/
def readWatchpointSupportInfo : List Char → Option Nat
  | 'n' :: 'u' :: 'm' :: ':' :: cs =>
    match cs.reverse with
    | ';' :: ds => Radix.dec.read ds.reverse
    | _ => none
  | _ => none

/-- The `qWatchpointSupportInfo` answer reads back as the number it was built from. -/
theorem read_watchpoint_support_info_round_trip (r : QueryWatchpointSupportInfoResponse) :
    readWatchpointSupportInfo r.toString = some r.num := by
  simp only [QueryWatchpointSupportInfoResponse.toString, List.cons_append, List.nil_append,
    readWatchpointSupportInfo, List.reverse_append, List.reverse_singleton, List.singleton_append,
    List.reverse_reverse, Radix.read_digits]

end Xendbg
