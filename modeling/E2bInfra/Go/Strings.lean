import Mathlib.Data.List.Basic

/-!
# `strings.Split` on a separator of one symbol

Go's `strings.Split(s, sep)` with a separator of one byte is `List.splitOn` on the string read
as a list: the pieces between the separators, one piece when there is none, and an empty piece
for an empty string. The lemmas here take a string apart at its first separator; the parsers of
hosts, registry paths and token scopes are built on them.
-/

namespace E2bInfra

section Split

variable {α : Type} [BEq α] [LawfulBEq α] {sep : α}

theorem splitOn_of_not_mem {s : List α} (hs : sep ∉ s) : s.splitOn sep = [s] :=
  List.splitOnP_eq_single (· == sep) s fun x hx h => hs (by rwa [beq_iff_eq.mp h] at hx)

theorem splitOn_append_cons {s : List α} (hs : sep ∉ s) (rest : List α) :
    (s ++ sep :: rest).splitOn sep = s :: rest.splitOn sep :=
  List.splitOnP_first (· == sep) s (fun x hx h => hs (by rwa [beq_iff_eq.mp h] at hx)) sep
    (beq_self_eq_true sep) rest

theorem not_mem_takeWhile_ne (s : List α) : sep ∉ s.takeWhile (· != sep) := fun h => by
  simpa using List.mem_takeWhile_imp h

/-- The symbol after the longest prefix without a separator, when there is one, is a
separator. -/
theorem eq_of_dropWhile_eq_cons {s rest : List α} {c : α}
    (h : s.dropWhile (· != sep) = c :: rest) : c = sep := by
  have hc := List.head?_dropWhile_not (· != sep) s
  rw [h] at hc
  simpa using hc

/-- A string with a separator is its prefix before the first separator, the separator, and the
rest. -/
theorem eq_takeWhile_append_cons {s : List α} (h : sep ∈ s) :
    ∃ rest, s = s.takeWhile (· != sep) ++ sep :: rest := by
  rcases hdrop : s.dropWhile (· != sep) with _ | ⟨c, rest⟩
  · have hall := List.dropWhile_eq_nil_iff.mp hdrop sep h
    simp at hall
  · refine ⟨rest, ?_⟩
    conv_lhs => rw [← List.takeWhile_append_dropWhile (· != sep) s, hdrop,
      eq_of_dropWhile_eq_cons hdrop]

/-- The first piece of a split is the prefix before the first separator. -/
theorem splitOn_eq_takeWhile_cons (s : List α) :
    ∃ tl, s.splitOn sep = s.takeWhile (· != sep) :: tl := by
  by_cases h : sep ∈ s
  · obtain ⟨rest, hrest⟩ := eq_takeWhile_append_cons h
    refine ⟨rest.splitOn sep, ?_⟩
    conv_lhs => rw [hrest]
    exact splitOn_append_cons (not_mem_takeWhile_ne s) rest
  · refine ⟨[], ?_⟩
    rw [splitOn_of_not_mem h, List.takeWhile_eq_self_iff.2 fun x hx => by
      simpa using fun hx' : x = sep => h (hx' ▸ hx)]

/-- The first piece of a split holds no separator. -/
theorem not_mem_of_splitOn_eq_cons {s t : List α} {tl : List (List α)}
    (h : s.splitOn sep = t :: tl) : sep ∉ t := by
  obtain ⟨tl', h'⟩ := @splitOn_eq_takeWhile_cons _ _ _ sep s
  rw [h, List.cons.injEq] at h'
  exact h'.1 ▸ not_mem_takeWhile_ne s

end Split

end E2bInfra
