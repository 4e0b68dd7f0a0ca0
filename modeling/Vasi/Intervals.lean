import Mathlib.MeasureTheory.Measure.Lebesgue.Basic

/-!
# Intervals

A library on lists of intervals. Nothing below concerns a particular program.

A tiling is a list of nonempty spans, one after the other from a start to a stop;
every position between lies in one of them.

The region of a list of intervals is their union on the real line, each without its
end. Its measure adds up over intervals that lie apart, and merging two intervals that
meet leaves the region as it is.
-/
namespace Vasi.Intervals

open MeasureTheory

/-- Nonempty spans, one after the other. -/
inductive Tiles : ℕ → List (ℕ × ℕ) → ℕ → Prop
  | nil (start : ℕ) : Tiles start [] start
  | cons {start middle stop : ℕ} {rest : List (ℕ × ℕ)} (nonempty : start < middle)
      (others : Tiles middle rest stop) : Tiles start ((start, middle) :: rest) stop

/-- The position lies in the span at an index. -/
def InSpan (spans : List (ℕ × ℕ)) (position index : ℕ) : Prop :=
  ∃ span, spans[index]? = some span ∧ span.1 ≤ position ∧ position < span.2

theorem Tiles.le {start stop : ℕ} {spans : List (ℕ × ℕ)} (tiles : Tiles start spans stop) :
    start ≤ stop := by
  induction tiles with
  | nil => exact le_rfl
  | cons nonempty _ inductionHypothesis => exact nonempty.le.trans inductionHypothesis

theorem Tiles.append {start middle stop : ℕ} {left right : List (ℕ × ℕ)}
    (first : Tiles start left middle) (second : Tiles middle right stop) :
    Tiles start (left ++ right) stop := by
  induction first with
  | nil => exact second
  | cons nonempty _ inductionHypothesis => exact .cons nonempty (inductionHypothesis second)

/-- No span of a tiling begins before it. -/
theorem Tiles.start_le {start stop position index : ℕ} {spans : List (ℕ × ℕ)}
    (tiles : Tiles start spans stop) (inside : InSpan spans position index) :
    start ≤ position := by
  induction tiles generalizing index with
  | nil =>
      obtain ⟨span, found, _⟩ := inside
      cases found
  | @cons start middle stop rest nonempty _ inductionHypothesis =>
      cases index with
      | zero =>
          obtain ⟨span, found, lower, _⟩ := inside
          cases found
          exact lower
      | succ index => exact nonempty.le.trans (inductionHypothesis inside)

/-- Every position of a tiling lies in exactly one of its spans. -/
theorem Tiles.unique {start stop position : ℕ} {spans : List (ℕ × ℕ)}
    (tiles : Tiles start spans stop) (lower : start ≤ position) (upper : position < stop) :
    ∃! index, InSpan spans position index := by
  induction tiles with
  | nil => exact absurd lower (not_le.mpr upper)
  | @cons start middle stop rest nonempty others inductionHypothesis =>
      by_cases here : position < middle
      · refine ⟨0, ⟨(start, middle), rfl, lower, here⟩, ?_⟩
        rintro (_ | index) inside
        · rfl
        · exact absurd (others.start_le inside) (not_le.mpr here)
      · obtain ⟨index, inside, only⟩ := inductionHypothesis (not_lt.mp here) upper
        refine ⟨index + 1, inside, ?_⟩
        rintro (_ | other) found
        · obtain ⟨span, first, _, last⟩ := found
          cases first
          exact absurd last here
        · exact congrArg Nat.succ (only other found)

/-! ## Regions -/

/-- The union of the intervals. -/
def region (intervals : List (ℕ × ℕ)) : Set ℝ :=
  {point | ∃ interval ∈ intervals, (interval.1 : ℝ) ≤ point ∧ point < interval.2}

/-- The lengths of the intervals, taken together. -/
def totalLength (intervals : List (ℕ × ℕ)) : ℕ :=
  (intervals.map fun interval => interval.2 - interval.1).sum

theorem region_cons (interval : ℕ × ℕ) (rest : List (ℕ × ℕ)) :
    region (interval :: rest) = Set.Ico (interval.1 : ℝ) interval.2 ∪ region rest := by
  ext point
  simp [region]

theorem region_perm {left right : List (ℕ × ℕ)} (same : left.Perm right) :
    region left = region right := by
  ext point
  simp [region, same.mem_iff]

/-- An interval that ends where it starts or before adds nothing. -/
theorem region_filter (intervals : List (ℕ × ℕ)) :
    region (intervals.filter fun interval => interval.1 < interval.2) = region intervals := by
  ext point
  constructor
  · rintro ⟨interval, member, inside⟩
    exact ⟨interval, (List.mem_filter.mp member).1, inside⟩
  · rintro ⟨interval, member, lower, upper⟩
    have nonempty : interval.1 < interval.2 := by exact_mod_cast lower.trans_lt upper
    exact ⟨interval, List.mem_filter.mpr ⟨member, decide_eq_true nonempty⟩, lower, upper⟩

/-- Two intervals that meet are one. -/
theorem region_merge {start stop : ℕ} {next : ℕ × ℕ} (rest : List (ℕ × ℕ))
    (after : start ≤ next.1) (meets : next.1 ≤ stop) :
    region ((start, stop) :: next :: rest) = region ((start, max stop next.2) :: rest) := by
  rw [region_cons, region_cons, region_cons, ← Set.union_assoc]
  congr 1
  have one : (start : ℝ) ≤ next.1 := by exact_mod_cast after
  have two : (next.1 : ℝ) ≤ stop := by exact_mod_cast meets
  ext point
  simp only [Set.mem_union, Set.mem_Ico, Nat.cast_max, lt_max_iff]
  constructor
  · rintro (⟨lower, upper⟩ | ⟨lower, upper⟩)
    · exact ⟨lower, .inl upper⟩
    · exact ⟨one.trans lower, .inr upper⟩
  · rintro ⟨lower, upper | upper⟩
    · exact .inl ⟨lower, upper⟩
    · rcases lt_or_ge point stop with before | behind
      · exact .inl ⟨lower, before⟩
      · exact .inr ⟨two.trans behind, upper⟩

theorem region_measurable (intervals : List (ℕ × ℕ)) : MeasurableSet (region intervals) := by
  induction intervals with
  | nil =>
      have empty : region [] = ∅ := by
        ext point
        simp [region]
      rw [empty]
      exact MeasurableSet.empty
  | cons interval rest inductionHypothesis =>
      rw [region_cons]
      exact measurableSet_Ico.union inductionHypothesis

theorem volume_interval (interval : ℕ × ℕ) :
    volume (Set.Ico (interval.1 : ℝ) interval.2) = (interval.2 - interval.1 : ℕ) := by
  rw [Real.volume_Ico]
  rcases le_total interval.1 interval.2 with forward | backward
  · rw [← Nat.cast_sub forward, ENNReal.ofReal_natCast]
  · have negative : (interval.2 : ℝ) - interval.1 ≤ 0 := by
      have cast : (interval.2 : ℝ) ≤ interval.1 := by exact_mod_cast backward
      linarith
    rw [ENNReal.ofReal_of_nonpos negative, Nat.sub_eq_zero_of_le backward, Nat.cast_zero]

/-- An interval that ends before the others start adds its length. -/
theorem volume_region_apart {interval : ℕ × ℕ} {rest : List (ℕ × ℕ)}
    (apart : ∀ other ∈ rest, interval.2 ≤ other.1) :
    volume (region (interval :: rest)) =
      (interval.2 - interval.1 : ℕ) + volume (region rest) := by
  rw [region_cons, measure_union _ (region_measurable rest), volume_interval]
  rw [Set.disjoint_left]
  rintro point ⟨_, before⟩ ⟨other, member, behind, _⟩
  have cast : (interval.2 : ℝ) ≤ other.1 := by exact_mod_cast apart other member
  linarith

/-- A region is never longer than its intervals together. -/
theorem volume_region_le (intervals : List (ℕ × ℕ)) :
    volume (region intervals) ≤ totalLength intervals := by
  induction intervals with
  | nil => simp [region, totalLength]
  | cons interval rest inductionHypothesis =>
      rw [region_cons, totalLength, List.map_cons, List.sum_cons, Nat.cast_add]
      refine (measure_union_le _ _).trans (add_le_add ?_ inductionHypothesis)
      rw [volume_interval]

end Vasi.Intervals
