import Mathlib.Data.List.Basic

/-!
# Lines of a text

A text that is written line by line, each with a separator after it, is read back by
splitting at the line breaks. What is read are the lines that were written exactly when
none of them has a line break inside.
-/
namespace Vasi.TextLines

variable {α : Type*} {isBreak : α → Bool} {separator : α}

/-- The lines, each with the separator after it. -/
def printed (separator : α) (lines : List (List α)) : List α :=
  lines.flatMap (· ++ [separator])

/-- The lines of a text that ends with a line break. -/
def textLines (isBreak : α → Bool) (text : List α) : List (List α) :=
  (text.splitOnP isBreak).dropLast

/-- What stands between two breaks has none. -/
theorem free_of_mem_splitOnP {text part : List α} (inside : part ∈ text.splitOnP isBreak) :
    part.any isBreak = false := by
  induction text generalizing part with
  | nil =>
      rw [List.splitOnP_nil, List.mem_singleton] at inside
      rw [inside]
      rfl
  | cons unit rest inductionHypothesis =>
      rw [List.splitOnP_cons_eq_if_modifyHead] at inside
      split at inside
      · rcases List.mem_cons.mp inside with rfl | later
        · rfl
        · exact inductionHypothesis later
      · rename_i plain
        obtain ⟨first, others, parts⟩ :=
          List.exists_cons_of_ne_nil (List.splitOnP_ne_nil isBreak rest)
        rw [parts, List.modifyHead_cons] at inside
        rw [parts] at inductionHypothesis
        rcases List.mem_cons.mp inside with rfl | later
        · rw [List.any_cons, inductionHypothesis List.mem_cons_self]
          simpa using plain
        · exact inductionHypothesis (List.mem_cons_of_mem _ later)

theorem splitOnP_of_free {line : List α} (free : line.any isBreak = false) :
    line.splitOnP isBreak = [line] :=
  List.splitOnP_eq_singleton (by simpa using free)

theorem splitOnP_printed (breaks : isBreak separator = true) (lines : List (List α)) :
    (printed separator lines).splitOnP isBreak =
      lines.flatMap (List.splitOnP isBreak) ++ [[]] := by
  induction lines with
  | nil => exact List.splitOnP_nil
  | cons line rest inductionHypothesis =>
      have shape : printed separator (line :: rest) =
          line ++ separator :: printed separator rest := by simp [printed]
      rw [shape, List.splitOnP_append_cons line _ breaks, inductionHypothesis,
        List.flatMap_cons, List.append_assoc]

theorem flatMap_splitOnP_iff {lines : List (List α)} :
    lines.flatMap (List.splitOnP isBreak) = lines ↔
      ∀ line ∈ lines, line.any isBreak = false := by
  induction lines with
  | nil => simp
  | cons line rest inductionHypothesis =>
      rw [List.flatMap_cons, List.forall_mem_cons]
      constructor
      · intro same
        obtain ⟨first, others, parts⟩ :=
          List.exists_cons_of_ne_nil (List.splitOnP_ne_nil isBreak line)
        rw [parts] at same
        have head : first = line := (List.cons.inj same).1
        have free : line.any isBreak = false := by
          apply free_of_mem_splitOnP
          rw [parts, head]
          exact List.mem_cons_self
        refine ⟨free, inductionHypothesis.mp ?_⟩
        rw [splitOnP_of_free free] at parts
        obtain rfl := (List.cons.inj parts).2
        exact (List.cons.inj same).2
      · rintro ⟨free, others⟩
        rw [splitOnP_of_free free, inductionHypothesis.mpr others]
        rfl

/-- The lines are read as they were written exactly when none has a line break inside. -/
theorem textLines_printed_iff (breaks : isBreak separator = true) (lines : List (List α)) :
    textLines isBreak (printed separator lines) = lines ↔
      ∀ line ∈ lines, line.any isBreak = false := by
  rw [textLines, splitOnP_printed breaks, List.dropLast_concat, flatMap_splitOnP_iff]

end Vasi.TextLines
