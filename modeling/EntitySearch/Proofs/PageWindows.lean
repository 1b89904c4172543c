import EntitySearch.Pagination
import EntitySearch.Proofs.AggregatedRows
import Mathlib.Algebra.Group.Nat.Defs
import Mathlib.Data.List.Lemmas

/-!
# The rows of a page

The dialects bind the offset and the size of a page in different orders, and one of them binds the
last row instead of the size; the numbers are cut down to the greatest integer of 64 bits on the
way.  All of them select the same rows, those behind the offset up to the size, of every result with
no more rows than that integer.  The pages of one size, counted from the start, cut such a result
into parts.
-/

namespace EntitySearch

variable {α : Type}

/-! ## Rows by number -/

/-- The rows with a number, counted from one, that is kept. -/
def rowsNumbered (keep : Nat → Bool) (rows : List α) : List α :=
  ((rows.zipIdx 1).filter fun row => keep row.2).map Prod.fst

theorem rowsNumbered_congr {keep other : Nat → Bool} {rows : List α}
    (same : ∀ number, 1 ≤ number → number ≤ rows.length → keep number = other number) :
    rowsNumbered keep rows = rowsNumbered other rows := by
  rw [rowsNumbered, rowsNumbered]
  congr 1
  apply List.filter_congr
  intro row member
  obtain ⟨-, before_end, -⟩ := List.mem_zipIdx member
  exact same row.2 (List.le_snd_of_mem_zipIdx member) (by omega)

theorem filter_zipIdx (rows : List α) (offset last start : Nat) :
    ((rows.zipIdx start).filter fun row => offset < row.2 && row.2 ≤ last).map Prod.fst =
      (rows.take (last + 1 - start)).drop (offset + 1 - start) := by
  induction rows generalizing start with
  | nil => simp
  | cons row rows ih =>
      rw [List.zipIdx_cons, List.filter_cons]
      have rest := ih (start + 1)
      by_cases small : start ≤ last
      · have taken : last + 1 - start = (last + 1 - (start + 1)) + 1 := by omega
        by_cases behind : offset < start
        · have kept : offset + 1 - start = 0 := by omega
          have kept_next : offset + 1 - (start + 1) = 0 := by omega
          simp [behind, small, rest, taken, kept, kept_next]
        · have dropped : offset + 1 - start = (offset + 1 - (start + 1)) + 1 := by omega
          simp [behind, rest, taken, dropped]
      · have nothing : last + 1 - start = 0 := by omega
        have nothing_next : last + 1 - (start + 1) = 0 := by omega
        simp [small, rest, nothing, nothing_next]

/-- The rows behind an offset up to a size are what is left after skipping and taking. -/
theorem rowsNumbered_behind (offset size : Nat) (rows : List α) :
    rowsNumbered (fun number => offset < number && number ≤ offset + size) rows =
      (rows.drop offset).take size := by
  rw [rowsNumbered, filter_zipIdx]
  simp [List.drop_take]

theorem take_range' (start total size : Nat) :
    (List.range' start total).take size = List.range' start (min size total) := by
  apply List.ext_getElem <;> simp

/-! ## The values of a page -/

/-- The greatest integer of 64 bits, which no number of rows exceeds. -/
def mostRows : Nat := 2 ^ 63 - 1

theorem toInt_ofIntClamp (rows : UInt64) :
    (Int64.ofIntClamp rows.toNat).toInt = min rows.toNat mostRows := by
  have least : Int64.minValue.toInt ≤ rows.toNat := by
    have negative : Int64.minValue.toInt ≤ 0 := by decide
    omega
  have greatest : Int64.maxValue.toInt = mostRows := by decide
  by_cases fits : (rows.toNat : Int) ≤ Int64.maxValue.toInt
  · rw [Int64.toInt_ofIntClamp least fits]
    omega
  · rw [Int64.ofIntClamp, dif_pos least, dif_neg fits, greatest]
    omega

theorem toNat_ofNatClamp (number : Nat) :
    (UInt64.ofNatClamp number).toNat = min number (2 ^ 64 - 1) := by
  have size : UInt64.size = 2 ^ 64 := rfl
  rw [UInt64.ofNatClamp]
  split
  · rw [UInt64.toNat_ofNatLT]
    omega
  · rw [UInt64.toNat_ofNatLT, size]
    omega

namespace Dialect

/-- The rows that the values of a page select.  MySQL and SQL Server skip as many rows as the first
value says and take as many as the second; PostgreSQL and SQLite take the first and skip the second;
Oracle keeps the rows up to the first value that lie behind the second. -/
def select (dialect : Dialect) (values : List Value) (rows : List α) : List α :=
  match values with
  | [.integer first, .integer second] =>
      match dialect with
      | mysql | sqlserver => (rows.drop first.toInt.toNat).take second.toInt.toNat
      | postgresql | sqlite => (rows.drop second.toInt.toNat).take first.toInt.toNat
      | oracle => rowsNumbered (fun number => number ≤ first.toInt && second.toInt < number) rows
  | _ => rows

theorem skip_take_clamped {rows : List α} (countable : rows.length ≤ mostRows)
    (offset size : Nat) :
    (rows.drop (min offset mostRows)).take (min size mostRows) =
      (rows.drop offset).take size := by
  have skipped : rows.drop (min offset mostRows) = rows.drop offset := by
    by_cases small : offset ≤ mostRows
    · rw [Nat.min_eq_left small]
    · rw [List.drop_of_length_le (by omega), List.drop_of_length_le (by omega)]
  have left : (rows.drop offset).length ≤ mostRows := by
    rw [List.length_drop]
    omega
  by_cases small : size ≤ mostRows
  · rw [skipped, Nat.min_eq_left small]
  · rw [skipped, List.take_of_length_le (by omega), List.take_of_length_le (by omega)]

/-- The values of a page are two integers, which select the rows behind its offset up to its
size. -/
theorem select_pageValues (dialect : Dialect) (offset max : UInt64) {rows : List α}
    (countable : rows.length ≤ mostRows) :
    ∃ first second : Int64,
      dialect.pageValues { offset, max? := some max } = [.integer first, .integer second] ∧
        dialect.select [.integer first, .integer second] rows =
          (rows.drop offset.toNat).take max.toNat := by
  have clamped := skip_take_clamped countable offset.toNat max.toNat
  have skipped : (Int64.ofIntClamp offset.toNat).toInt.toNat = min offset.toNat mostRows := by
    rw [toInt_ofIntClamp]
    omega
  have taken : (Int64.ofIntClamp max.toNat).toInt.toNat = min max.toNat mostRows := by
    rw [toInt_ofIntClamp]
    omega
  cases dialect with
  | mysql | postgresql | sqlserver | sqlite =>
      refine ⟨_, _, rfl, ?_⟩
      simp only [select, skipped, taken, clamped]
  | oracle =>
      refine ⟨_, _, rfl, ?_⟩
      have first := toInt_ofIntClamp offset
      have last := toInt_ofIntClamp (saturatingAdd offset max)
      have sum : (saturatingAdd offset max).toNat = min (offset.toNat + max.toNat) (2 ^ 64 - 1) :=
        toNat_ofNatClamp _
      rw [← rowsNumbered_behind, select]
      apply rowsNumbered_congr
      intro number _ before_end
      rw [Bool.and_comm, Bool.eq_iff_iff]
      simp only [Bool.and_eq_true, decide_eq_true_eq, mostRows] at countable first last ⊢
      omega

/-- Every dialect selects the rows whose numbers lie behind the offset, up to the size. -/
theorem select_paginate (dialect : Dialect) (offset max : UInt64) (statement : Fragment)
    {rows : List α} (countable : rows.length ≤ mostRows) :
    ∃ first second : Int64,
      (dialect.paginate { offset, max? := some max } statement).params =
          statement.params ++ [.integer first, .integer second] ∧
        dialect.select [.integer first, .integer second] rows =
          rowsNumbered (fun number => offset.toNat < number && number ≤ offset.toNat + max.toNat)
            rows := by
  obtain ⟨first, second, values, selected⟩ := dialect.select_pageValues offset max countable
  refine ⟨first, second, ?_, ?_⟩
  · rw [params_paginate, values]
  · rw [selected, rowsNumbered_behind]

/-- An offset and a size whose sum exceeds every number of 64 bits: the rows behind the offset are
all selected, also where the sum is bound. -/
theorem select_paginate_beyond_last :
    [10, 20, 30, 40, 50].length ≤ mostRows ∧ ∃ first second : Int64,
      (oracle.paginate { offset := 3, max? := some 0xFFFFFFFFFFFFFFFF }
          (.ofText "select 1")).params = [.integer first, .integer second] ∧
        oracle.select [.integer first, .integer second] [10, 20, 30, 40, 50] = [40, 50] := by
  have countable : [10, 20, 30, 40, 50].length ≤ mostRows := by decide
  obtain ⟨first, second, values, selected⟩ :=
    select_paginate oracle 3 0xFFFFFFFFFFFFFFFF (.ofText "select 1") countable
  exact ⟨countable, first, second, values, selected.trans (by decide +kernel)⟩

end Dialect

/-! ## Pages one after another -/

namespace Pagination

/-- The numbers of the rows on the page at a position, of so many rows altogether. -/
def window (pagination : Pagination) (dialect : Dialect) (size? : Option UInt64) (total : Nat)
    (position : UInt64) : List Nat :=
  dialect.select
    (dialect.paginate (pagination.page (some position) size?) (.ofText "")).params
    (List.range' 1 total)

/-- The pages of one size, counted from the start, are parts of a result.  The size is the one that
the pages have when the given one is requested. -/
structure PartitionsRows (pagination : Pagination) (dialect : Dialect) (size? : Option UInt64)
    (size total : Nat) : Prop where
  disjoint : ∀ position other, pagination.start ≤ position → pagination.start ≤ other →
    position ≠ other →
      (pagination.window dialect size? total position).Disjoint
        (pagination.window dialect size? total other)
  /-- A row is on one page, the one that its number says, unless that page has no position. -/
  unique : ∀ number, 1 ≤ number → number ≤ total →
    pagination.start.toNat + (number - 1) / size < 2 ^ 64 →
      ∃ position, pagination.start ≤ position ∧
        position.toNat = pagination.start.toNat + (number - 1) / size ∧
        ∀ other, pagination.start ≤ other →
          (number ∈ pagination.window dialect size? total other ↔ other = position)
  /-- Positions before the start stand for the first page. -/
  before : ∀ position, position < pagination.start →
    pagination.window dialect size? total position =
      pagination.window dialect size? total pagination.start
  bounded : ∀ position,
    (pagination.window dialect size? total position).length ≤ pagination.maxAllowedSize.toNat

variable {pagination : Pagination} {dialect : Dialect} {size? : Option UInt64} {total : Nat}

theorem toNat_distance (position : UInt64) :
    (pagination.distance (some position)).toNat = position.toNat - pagination.start.toNat := by
  have small := position.toNat_lt
  rw [distance, toNat_ofNatClamp, Option.getD_some]
  omega

theorem page_of_byPage (byPage : pagination.kind = .page) (position : UInt64) :
    pagination.page (some position) size? =
      { offset := .ofNatClamp ((position.toNat - pagination.start.toNat) *
          (pagination.grantedSize size?).toNat)
        max? := some (pagination.grantedSize size?) } := by
  simp only [page, byPage, toNat_distance]

/-- The page at a position skips the pages between the start and the position, as long as the
number of their rows is a number of 64 bits. -/
theorem window_eq (byPage : pagination.kind = .page) (countable : total ≤ mostRows)
    (position : UInt64) :
    pagination.window dialect size? total position =
      ((List.range' 1 total).drop (min ((position.toNat - pagination.start.toNat) *
        (pagination.grantedSize size?).toNat) (2 ^ 64 - 1))).take
          (pagination.grantedSize size?).toNat := by
  have rows : (List.range' 1 total).length ≤ mostRows := by simpa using countable
  obtain ⟨first, second, values, selected⟩ := dialect.select_pageValues
    (.ofNatClamp ((position.toNat - pagination.start.toNat) *
      (pagination.grantedSize size?).toNat)) (pagination.grantedSize size?) rows
  rw [window, page_of_byPage byPage, Dialect.params_paginate, values, Fragment.params_ofText,
    List.nil_append, selected, toNat_ofNatClamp]

theorem mem_window_iff (byPage : pagination.kind = .page)
    (granted : 0 < pagination.grantedSize size?) (countable : total ≤ mostRows)
    {position : UInt64} {number : Nat} :
    number ∈ pagination.window dialect size? total position ↔
      1 ≤ number ∧ number ≤ total ∧
        (number - 1) / (pagination.grantedSize size?).toNat =
          position.toNat - pagination.start.toNat := by
  have positive : 0 < (pagination.grantedSize size?).toNat := UInt64.lt_iff_toNat_lt.mp granted
  have fits : mostRows < 2 ^ 64 - 1 := by decide
  rw [window_eq byPage countable, List.drop_range', take_range', List.mem_range'_1,
    Nat.div_eq_iff positive]
  omega

/-- The pages of a size partition every result that has no more rows than can be counted.  The size
is the requested one or else the usual one, but never more than what is allowed. -/
theorem pages_partition (pagination : Pagination) (byPage : pagination.kind = .page)
    (size? : Option UInt64)
    (granted : 1 ≤ min (size?.getD pagination.defaultSize) pagination.maxAllowedSize)
    (dialect : Dialect) {total : Nat} (countable : total ≤ mostRows) :
    pagination.PartitionsRows dialect size?
      (min (size?.getD pagination.defaultSize) pagination.maxAllowedSize).toNat total where
  disjoint := by
    intro position other from_start other_from_start different number onPage onOther
    obtain ⟨-, -, quotient⟩ := (mem_window_iff byPage granted countable).mp onPage
    obtain ⟨-, -, same⟩ := (mem_window_iff byPage granted countable).mp onOther
    rw [UInt64.le_iff_toNat_le] at from_start other_from_start
    have distance : position.toNat = other.toNat := by omega
    exact different (UInt64.toNat_inj.mp distance)
  unique := by
    intro number from_first to_last fits
    let place := pagination.start.toNat +
      (number - 1) / (min (size?.getD pagination.defaultSize) pagination.maxAllowedSize).toNat
    have position : (UInt64.ofNatLT place fits).toNat = place := UInt64.toNat_ofNatLT
    refine ⟨.ofNatLT place fits, ?_, position, ?_⟩
    · rw [UInt64.le_iff_toNat_le, position]
      exact Nat.le_add_right _ _
    · intro other from_start
      rw [UInt64.le_iff_toNat_le] at from_start
      rw [mem_window_iff byPage granted countable, ← UInt64.toNat_inj, position, grantedSize]
      omega
  before := by
    intro position early
    rw [UInt64.lt_iff_toNat_lt] at early
    have distance : position.toNat - pagination.start.toNat =
        pagination.start.toNat - pagination.start.toNat := by omega
    rw [window_eq byPage countable, window_eq byPage countable, distance]
  bounded := by
    intro position
    have clamped : (pagination.grantedSize size?).toNat ≤ pagination.maxAllowedSize.toNat :=
      UInt64.le_iff_toNat_le.mp Std.min_le_right
    rw [window_eq byPage countable]
    exact (List.length_take_le _ _).trans clamped

/-- Pages of at most five rows from the middle of all positions on. -/
def lastPages : Pagination := { start := 0x8000000000000000, maxAllowedSize := 5 }

/-- Three rows a page are fewer than are allowed, so pages have three; the offset of the page at the
greatest position is cut down to the greatest number. -/
theorem partition_to_last_position :
    1 ≤ min ((some 3).getD lastPages.defaultSize) lastPages.maxAllowedSize ∧
      lastPages.PartitionsRows .oracle (some 3) 3 mostRows ∧
      lastPages.page (some 0xFFFFFFFFFFFFFFFF) (some 3) =
        { offset := 0xFFFFFFFFFFFFFFFF, max? := some 3 } := by
  have granted : 1 ≤ min ((some 3).getD lastPages.defaultSize) lastPages.maxAllowedSize := by decide
  exact ⟨granted, pages_partition lastPages rfl (some 3) granted .oracle le_rfl, by decide +kernel⟩

end Pagination

end EntitySearch
