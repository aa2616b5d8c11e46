import BeanHarvest.Attribute.Extraction
import Mathlib.Order.Lattice

/-! Limiting: what a column keeps of its metrics. The foremost values are kept, in order, and of equal
values those that came first, so that the metrics of a column are settled even where values tie. -/
namespace BeanHarvest

namespace Double

/-- Whether the number has a minus sign; zero and a NaN can have one too. -/
def IsNegative (x : Double) : Prop := Nat.pow 2 63 ≤ x.bits.toNat

/-- The number without its sign, as its bits say it. -/
def magnitude (x : Double) : Nat := x.bits.toNat % Nat.pow 2 63

theorem totalRank_of_negative {x : Double} (negative : x.IsNegative) :
    x.totalRank = -1 - (x.magnitude : Int) := by
  have small : x.bits.toNat < 2 ^ 64 := x.bits.toNat_lt
  have cut : Nat.pow 2 63 = 9223372036854775808 := rfl
  unfold IsNegative at negative
  unfold totalRank magnitude
  rw [cut] at negative
  simp only [cut]
  rw [if_neg (Nat.not_lt.mpr negative)]
  omega

theorem totalRank_of_not_negative {x : Double} (positive : ¬x.IsNegative) :
    x.totalRank = (x.magnitude : Int) := by
  have small : x.bits.toNat < Nat.pow 2 63 := Nat.not_le.mp positive
  unfold totalRank magnitude
  simp only [if_pos small, Nat.mod_eq_of_lt small]

/-- Numbers of one place are one number, bit by bit. -/
theorem totalRank_injective : Function.Injective totalRank := by
  rintro ⟨x⟩ ⟨y⟩ same
  have smallLeft : x.toNat < 2 ^ 64 := x.toNat_lt
  have smallRight : y.toNat < 2 ^ 64 := y.toNat_lt
  have cut : Nat.pow 2 63 = 9223372036854775808 := rfl
  unfold totalRank at same
  simp only [cut] at same
  have equal : x.toNat = y.toNat := by
    split at same <;> split at same <;> omega
  rw [UInt64.toNat_inj.mp equal]

instance : LinearOrder Double := LinearOrder.lift' totalRank totalRank_injective

theorem totalLe_iff {x y : Double} : x.totalLe y = true ↔ x ≤ y := decide_eq_true_iff

/-- Numbers with a minus sign come first, the greatest magnitude in front; then those without one, the
least magnitude in front. -/
theorem le_iff {x y : Double} :
    x ≤ y ↔ (x.IsNegative ∧ ¬y.IsNegative) ∨
      (x.IsNegative ∧ y.IsNegative ∧ y.magnitude ≤ x.magnitude) ∨
      (¬x.IsNegative ∧ ¬y.IsNegative ∧ x.magnitude ≤ y.magnitude) := by
  change x.totalRank ≤ y.totalRank ↔ _
  by_cases left : x.IsNegative <;> by_cases right : y.IsNegative <;>
    simp only [left, right, totalRank_of_negative, totalRank_of_not_negative, not_true, not_false_iff,
      true_and, false_and, and_true, and_false, or_false, false_or, iff_true, iff_false] <;>
    omega

/-- From the negative NaN to the positive one, by way of both infinities and both zeros. -/
example : List.Pairwise (· < ·) (List.map Double.mk
    [0xfff8000000000000, 0xfff0000000000000, 0xbff0000000000000, 0x8000000000000000,
      0, 0x3ff0000000000000, 0x7ff0000000000000, 0x7ff8000000000000]) := by decide

end Double

/-- Whether a metric may stand in front of another one; `Double.le_iff` tells how values are ordered. -/
def SortOrder.Before (order : SortOrder) (a b : Metric) : Prop :=
  match order with
  | .descending => b.value ≤ a.value
  | .ascending => a.value ≤ b.value

namespace Extraction

/-- Metrics of which so many are kept and the others dropped: the kept ones are in order and may all
stand in front of the dropped ones, and metrics of one value follow each other as they came. -/
structure Cut (order : SortOrder) (limit : Nat) (metrics kept dropped : List Metric) : Prop where
  count : kept.length = min limit metrics.length
  whole : (kept ++ dropped).Perm metrics
  sorted : kept.Pairwise order.Before
  foremost : ∀ a ∈ kept, ∀ b ∈ dropped, order.Before a b
  steady : ∀ value : Double,
    kept.filter (·.value = value) ++ dropped.filter (·.value = value) =
      metrics.filter (·.value = value)

variable {order : SortOrder}

theorem inOrder_iff {a b : Metric} : inOrder order a b = true ↔ order.Before a b := by
  cases order <;> exact Double.totalLe_iff

theorem inOrder_trans (a b c : Metric) (first : inOrder order a b = true)
    (second : inOrder order b c = true) : inOrder order a c = true := by
  cases order
  · exact Double.totalLe_trans second first
  · exact Double.totalLe_trans first second

theorem inOrder_total (a b : Metric) : (inOrder order a b || inOrder order b a) = true := by
  cases order
  · exact Double.totalLe_total b.value a.value
  · exact Double.totalLe_total a.value b.value

/-- Metrics of one value are in order as they are. -/
theorem inOrder_of_value_eq {a b : Metric} (same : a.value = b.value) :
    inOrder order a b = true := by
  rw [inOrder_iff]
  cases order
  · exact same.ge
  · exact same.le

theorem pairwise_sorted (metrics : List Metric) :
    (metrics.mergeSort (inOrder order)).Pairwise order.Before :=
  (List.pairwise_mergeSort inOrder_trans inOrder_total metrics).imp inOrder_iff.mp

/-- Sorting leaves the metrics of one value as they were among each other. -/
theorem filter_sorted (metrics : List Metric) (value : Double) :
    (metrics.mergeSort (inOrder order)).filter (·.value = value) =
      metrics.filter (·.value = value) := by
  have ofValue : ∀ metric ∈ metrics.filter (·.value = value), metric.value = value :=
    fun metric member => of_decide_eq_true (List.mem_filter.mp member).2
  have ordered : (metrics.filter (·.value = value)).Pairwise (inOrder order · ·) :=
    List.pairwise_of_forall_mem_list fun a left b right =>
      inOrder_of_value_eq ((ofValue a left).trans (ofValue b right).symm)
  have within : (metrics.filter (·.value = value)).Sublist
      (metrics.mergeSort (inOrder order)) :=
    List.sublist_mergeSort inOrder_trans inOrder_total ordered List.filter_sublist
  have still : (metrics.filter (·.value = value)).Sublist
      ((metrics.mergeSort (inOrder order)).filter (·.value = value)) := by
    have filtered := within.filter fun metric => decide (metric.value = value)
    rw [List.filter_filter] at filtered
    simpa only [Bool.and_self] using filtered
  have asMany := ((List.mergeSort_perm metrics (inOrder order)).filter
    fun metric => decide (metric.value = value)).length_eq
  exact (still.eq_of_length asMany.symm).symm

/-- What is kept and what is dropped of a sorted list is a cut of what was sorted. -/
theorem cut_sorted (metrics : List Metric) (limit : Nat) :
    Cut order limit metrics ((metrics.mergeSort (inOrder order)).take limit)
      ((metrics.mergeSort (inOrder order)).drop limit) := by
  have ordered : (metrics.mergeSort (inOrder order)).Pairwise order.Before := pairwise_sorted metrics
  rw [← List.take_append_drop limit (metrics.mergeSort _)] at ordered
  have apart := List.pairwise_append.mp ordered
  exact {
    count := by rw [List.length_take, List.length_mergeSort]
    whole := by
      rw [List.take_append_drop]
      exact List.mergeSort_perm metrics _
    sorted := apart.1
    foremost := apart.2.2
    steady := fun value => by
      rw [← List.filter_append, List.take_append_drop, filter_sorted] }

/-- A limit keeps the foremost metrics and drops the others; without a limit all stay as they are. -/
theorem limited_cut (metrics : List Metric) (order : SortOrder) :
    limited metrics none order = metrics ∧
      ∀ limit, ∃ dropped, Cut order limit metrics (limited metrics (some limit) order) dropped :=
  ⟨rfl, fun limit => ⟨_, cut_sorted metrics limit⟩⟩

end Extraction
end BeanHarvest
