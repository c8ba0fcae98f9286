import GmxSynthetics.Utils.Array

/-!
# Reading enumerable sets in pages

`EnumerableValues.sol`: the three overloads of `valuesAt`. Callers read a set page by page until a
page is empty.

* `UintSet.valuesAt_eq` — the overload that looks at `start` first returns every slice;
* `copyRange_eq_ok_iff` — the other two fail when `start` is past the end;
* `valuesAt_pages_iff` — on which ranges and page sizes the three do the same.
-/

namespace GmxSynthetics.EnumerableValues

open Evm

variable {α : Type}

-- ---------------------------------------------------------------------------
-- EnumerableValues.sol
-- ---------------------------------------------------------------------------

/-- `items[index] = value`. -/
def write (items : List α) (index : Nat) (value : α) : Result (List α) :=
  if index < items.length then .ok (items.set index value)
  else .error (.panic .indexOutOfBounds)

/-- `for (uint256 i = start; i < end; i++) { items[i - start] = set.at(i); }`, where `remaining`
elements are left to copy. -/
def copyValues (set : List α) (start : Nat) : (remaining i : Nat) → List α → Result (List α)
  | 0, _, items => pure items
  | remaining + 1, i, items => do
    let items ← write items (← sub i start) (← Array.read set i)
    copyValues set start remaining (i + 1) items

/-- The overloads without a check of `start`. -/
def copyRange [Inhabited α] (set : List α) (start stop : Nat) : Result (List α) := do
  let max := set.length
  let stop := if stop > max then max else stop
  let length ← sub stop start
  copyValues set start length start (List.replicate length default)

def Bytes32Set.valuesAt [Inhabited α] (set : List α) (start stop : Nat) : Result (List α) :=
  copyRange set start stop

def AddressSet.valuesAt [Inhabited α] (set : List α) (start stop : Nat) : Result (List α) :=
  copyRange set start stop

def UintSet.valuesAt [Inhabited α] (set : List α) (start stop : Nat) : Result (List α) :=
  if start ≥ set.length then pure [] else copyRange set start stop

-- ---------------------------------------------------------------------------
-- One page
-- ---------------------------------------------------------------------------

/-- The elements at the indexes from `start` on, before `stop` and the end of the list. -/
def slice (values : List α) (start stop : Nat) : List α := (values.take stop).drop start

variable {set : List α} {start stop pageSize : Nat}

/-- The loop fills the rest of the items. -/
theorem copyValues_eq {remaining i : Nat} {items : List α} (hstart : start ≤ i)
    (hitems : items.length = i - start + remaining) (hset : i + remaining ≤ set.length) :
    copyValues set start remaining i items =
      .ok (items.take (i - start) ++ (set.drop i).take remaining) := by
  induction remaining generalizing i items with
  | zero =>
    rw [List.take_zero, List.append_nil, List.take_of_length_le (by omega)]
    rfl
  | succ remaining ih =>
    have hlt : i < set.length := by omega
    have hread : Array.read set i = .ok set[i] :=
      Array.read_eq_ok.mpr (List.getElem?_eq_getElem hlt)
    have hoffset : sub i start = (.ok (i - start) : Result Nat) := if_pos hstart
    have hwrite : write items (i - start) set[i] = .ok (items.set (i - start) set[i]) :=
      if_pos (by omega)
    have hnext : i + 1 - start = i - start + 1 := by omega
    unfold copyValues
    rw [hread, hoffset, Result.ok_bind, Result.ok_bind, hwrite, Result.ok_bind,
      ih (by omega) (by rw [List.length_set]; omega) (by omega), hnext,
      List.take_succ_eq_append_getElem (by rw [List.length_set]; omega), List.getElem_set_self,
      List.take_set_of_le (Nat.le_refl _), List.append_assoc, List.drop_eq_getElem_cons hlt,
      List.take_succ_cons, List.singleton_append]

variable [Inhabited α]

/-- The overloads without the check return a slice when `start` is not past the end. -/
theorem copyRange_eq (hle : start ≤ stop) (hstart : start ≤ set.length) :
    copyRange set start stop = .ok (slice set start stop) := by
  have hmin : (if stop > set.length then set.length else stop) = min stop set.length := by
    split <;> omega
  unfold copyRange
  dsimp only
  rw [hmin, sub_bind_of_le (by omega),
    copyValues_eq (Nat.le_refl _) (by rw [List.length_replicate]; omega) (by omega),
    Nat.sub_self, List.take_zero, List.nil_append]
  unfold slice
  rw [List.drop_take, Except.ok.injEq, List.take_eq_take_iff, List.length_drop]
  omega

/-- They underflow when it is. -/
theorem copyRange_of_past (hle : start ≤ stop) (hstart : set.length < start) :
    copyRange set start stop = .error (.panic .underflow) := by
  have hunderflows : sub set.length start = (.error (.panic .underflow) : Result Nat) :=
    if_neg (Nat.not_le_of_lt hstart)
  unfold copyRange
  dsimp only
  rw [if_pos (by omega), hunderflows]
  rfl

theorem copyRange_eq_ok_iff (hle : start ≤ stop) :
    copyRange set start stop = .ok (slice set start stop) ↔ start ≤ set.length := by
  constructor
  · intro h
    by_contra hpast
    rw [copyRange_of_past hle (Nat.lt_of_not_le hpast)] at h
    cases h
  · exact copyRange_eq hle

/-- The overload with the check always returns the slice. -/
theorem UintSet.valuesAt_eq (hle : start ≤ stop) :
    UintSet.valuesAt set start stop = .ok (slice set start stop) := by
  unfold UintSet.valuesAt
  split
  · rename_i hpast
    rw [slice, List.drop_eq_nil_of_le (Nat.le_trans (List.length_take_le' _ _) hpast)]
    rfl
  · rename_i hwithin
    exact copyRange_eq hle (by omega)

-- ---------------------------------------------------------------------------
-- Page after page
-- ---------------------------------------------------------------------------

/-- Pages are read from `start` on until one is empty; `values` are their elements, in order. -/
inductive ReadsPages (valuesAt : Nat → Nat → Result (List α)) (pageSize : Nat) :
    (start : Nat) → (values : List α) → Prop
  | empty {start : Nat} : valuesAt start (start + pageSize) = .ok [] →
      ReadsPages valuesAt pageSize start []
  | page {start : Nat} {page values : List α} : valuesAt start (start + pageSize) = .ok page →
      page ≠ [] → ReadsPages valuesAt pageSize (start + pageSize) values →
      ReadsPages valuesAt pageSize start (page ++ values)

omit [Inhabited α] in
theorem slice_append_drop (set : List α) (start pageSize : Nat) :
    slice set start (start + pageSize) ++ set.drop (start + pageSize) = set.drop start := by
  unfold slice
  rw [List.drop_take, Nat.add_sub_cancel_left, ← List.drop_drop]
  exact List.take_append_drop _ _

omit [Inhabited α] in
theorem slice_eq_nil (hpage : 0 < pageSize) :
    slice set start (start + pageSize) = [] ↔ set.length ≤ start := by
  unfold slice
  rw [List.drop_eq_nil_iff, List.length_take]
  omega

omit [Inhabited α] in
/-- Pages that are slices make up the rest of the set. -/
theorem ReadsPages.eq_drop {valuesAt : Nat → Nat → Result (List α)} {values : List α}
    (hpage : 0 < pageSize)
    (hslice : ∀ start page, valuesAt start (start + pageSize) = .ok page →
      page = slice set start (start + pageSize))
    (h : ReadsPages valuesAt pageSize start values) : values = set.drop start := by
  induction h with
  | empty hempty =>
    have hend := (slice_eq_nil hpage).mp (hslice _ _ hempty).symm
    exact (List.drop_eq_nil_of_le hend).symm
  | page hread _ _ ih => rw [ih, hslice _ _ hread, slice_append_drop]

omit [Inhabited α] in
/-- As long as slices are returned, the pages end. -/
theorem readsPages_of_slices {valuesAt : Nat → Nat → Result (List α)} (hpage : 0 < pageSize)
    (reads : Nat → Prop)
    (hslice : ∀ start, reads start →
      valuesAt start (start + pageSize) = .ok (slice set start (start + pageSize)))
    (hnext : ∀ start, reads start → start < set.length → reads (start + pageSize))
    (hstart : reads start) : ReadsPages valuesAt pageSize start (set.drop start) := by
  induction hleft : set.length - start using Nat.strong_induction_on generalizing start with
  | _ left ih =>
    have hread := hslice start hstart
    rcases Nat.lt_or_ge start set.length with hwithin | hpast
    · have hrest := ih (set.length - (start + pageSize)) (by omega)
        (hnext start hstart hwithin) rfl
      rw [← slice_append_drop set start pageSize]
      refine .page hread ?_ hrest
      rw [ne_eq, slice_eq_nil hpage]
      exact Nat.not_le_of_lt hwithin
    · rw [(slice_eq_nil hpage).mpr hpast] at hread
      rw [List.drop_eq_nil_of_le hpast]
      exact .empty hread

/-- With the check, the pages are the set. -/
theorem UintSet.readsPages_iff {values : List α} (hpage : 0 < pageSize) :
    ReadsPages (UintSet.valuesAt set) pageSize 0 values ↔ values = set := by
  have hslice : ∀ start, UintSet.valuesAt set start (start + pageSize) =
      .ok (slice set start (start + pageSize)) :=
    fun start => UintSet.valuesAt_eq (Nat.le_add_right _ _)
  constructor
  · intro h
    refine h.eq_drop hpage fun start page hread => ?_
    exact Except.ok.inj (hread.symm.trans (hslice start))
  · rintro rfl
    exact readsPages_of_slices hpage (fun _ => True) (fun start _ => hslice start)
      (fun _ _ _ => trivial) trivial

/-- Without it, a page that starts past the end is read unless the set is made of whole pages. -/
theorem ReadsPages.dvd {values : List α} (hpage : 0 < pageSize)
    (h : ReadsPages (copyRange set) pageSize start values) :
    start ≤ set.length ∧ pageSize ∣ set.length - start := by
  have hwithin : ∀ start page, copyRange set start (start + pageSize) = .ok page →
      start ≤ set.length := by
    intro start page hread
    by_contra hpast
    rw [copyRange_of_past (Nat.le_add_right _ _) (Nat.lt_of_not_le hpast)] at hread
    cases hread
  induction h with
  | @empty start hempty =>
    have hstart := hwithin _ _ hempty
    rw [copyRange_eq (Nat.le_add_right _ _) hstart] at hempty
    have hend := (slice_eq_nil hpage).mp (Except.ok.inj hempty)
    rw [Nat.sub_eq_zero_of_le hend]
    exact ⟨hstart, Nat.dvd_zero _⟩
  | @page start _ _ hread _ _ ih =>
    obtain ⟨hnext, hdvd⟩ := ih
    have hsplit : set.length - start = set.length - (start + pageSize) + pageSize := by omega
    rw [hsplit]
    exact ⟨hwithin _ _ hread, Nat.dvd_add hdvd (Nat.dvd_refl _)⟩

theorem copyRange_readsPages_iff {values : List α} (hpage : 0 < pageSize) :
    ReadsPages (copyRange set) pageSize 0 values ↔ pageSize ∣ set.length ∧ values = set := by
  constructor
  · intro h
    refine ⟨(h.dvd hpage).2, h.eq_drop hpage fun start page hread => ?_⟩
    rcases Nat.lt_or_ge set.length start with hpast | hwithin
    · rw [copyRange_of_past (Nat.le_add_right _ _) hpast] at hread
      cases hread
    · rw [copyRange_eq (Nat.le_add_right _ _) hwithin] at hread
      exact (Except.ok.inj hread).symm
  · rintro ⟨hdvd, rfl⟩
    refine readsPages_of_slices hpage
      (fun start => start ≤ values.length ∧ pageSize ∣ values.length - start)
      (fun start hreads => copyRange_eq (Nat.le_add_right _ _) hreads.1) ?_
      ⟨Nat.zero_le _, hdvd⟩
    rintro start ⟨-, hrest⟩ hwithin
    have hle : pageSize ≤ values.length - start := Nat.le_of_dvd (by omega) hrest
    rw [Nat.sub_add_eq]
    exact ⟨by omega, Nat.dvd_sub hrest (Nat.dvd_refl _)⟩

-- ---------------------------------------------------------------------------
-- The three overloads
-- ---------------------------------------------------------------------------

/-- All overloads return the same slice. -/
structure ReturnSlice (set : List α) (start stop : Nat) : Prop where
  bytes32Set : Bytes32Set.valuesAt set start stop = .ok (slice set start stop)
  addressSet : AddressSet.valuesAt set start stop = .ok (slice set start stop)
  uintSet : UintSet.valuesAt set start stop = .ok (slice set start stop)

/-- Reading page after page gives the elements of the set, with each overload. -/
structure Enumerate (set : List α) (pageSize : Nat) : Prop where
  bytes32Set : ReadsPages (Bytes32Set.valuesAt set) pageSize 0 set
  addressSet : ReadsPages (AddressSet.valuesAt set) pageSize 0 set
  uintSet : ReadsPages (UintSet.valuesAt set) pageSize 0 set

/-- **Reading in pages.** The overloads return the slice if and only if it does not start past the
end of the set, and their pages enumerate the set if and only if it is made of whole pages. Only
the overload for numbers does so in any case. -/
theorem valuesAt_pages_iff (hle : start ≤ stop) (hpage : 0 < pageSize) :
    (ReturnSlice set start stop ↔ start ≤ set.length) ∧
      (Enumerate set pageSize ↔ pageSize ∣ set.length) ∧
      UintSet.valuesAt set start stop = .ok (slice set start stop) ∧
      ReadsPages (UintSet.valuesAt set) pageSize 0 set := by
  have huint : UintSet.valuesAt set start stop = .ok (slice set start stop) :=
    UintSet.valuesAt_eq hle
  have hpages : ReadsPages (UintSet.valuesAt set) pageSize 0 set :=
    (UintSet.readsPages_iff hpage).mpr rfl
  refine ⟨?_, ?_, huint, hpages⟩
  · constructor
    · intro h
      exact (copyRange_eq_ok_iff hle).mp h.bytes32Set
    · intro hstart
      have hslice := (copyRange_eq_ok_iff hle).mpr hstart
      exact ⟨hslice, hslice, huint⟩
  · constructor
    · intro h
      exact ((copyRange_readsPages_iff hpage).mp h.bytes32Set).1
    · intro hdvd
      have hread := (copyRange_readsPages_iff hpage).mpr ⟨hdvd, rfl⟩
      exact ⟨hread, hread, hpages⟩

/-- A set of three elements is not read from its fourth index on, and not in pages of two. -/
theorem valuesAt_past_end :
    (¬ ∀ (set : List Nat) (start stop : Nat), start ≤ stop → ReturnSlice set start stop) ∧
      ¬ ∀ (set : List Nat) (pageSize : Nat), 0 < pageSize → Enumerate set pageSize := by
  constructor
  · intro hclaim
    have hslice := (hclaim [7, 8, 9] 4 6 (by decide)).bytes32Set
    have hfails : Bytes32Set.valuesAt [7, 8, 9] 4 6 = .error (.panic .underflow) := rfl
    rw [hfails] at hslice
    cases hslice
  · intro hclaim
    have hread := (hclaim [7, 8, 9] 2 (by decide)).bytes32Set
    have hdvd := (hread.dvd (by decide)).2
    revert hdvd
    decide

theorem valuesAt_pages_three : ReturnSlice [7, 8, 9] 1 5 ∧ Enumerate [7, 8, 9] 3 := by
  constructor
  · exact (valuesAt_pages_iff (by decide) (by decide : 0 < 1)).1.mpr (by decide)
  · exact (valuesAt_pages_iff (by decide : 0 ≤ 1) (by decide)).2.1.mpr (by decide)

end GmxSynthetics.EnumerableValues
