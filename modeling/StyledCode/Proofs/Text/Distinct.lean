import Mathlib.Data.List.Basic
import Mathlib.Data.List.Induction

/-!
# Names without repetitions

* `pairwise_idxOf_eraseDups` : what is left of some names stands in the order of their first occurrences
* `eraseDups_append_eraseDups`, `eraseDups_eraseDups_append` : repetitions may be left out of a part before they are
  left out of the whole
-/

namespace StyledCode.Text

theorem eraseDups_append_singleton (names : List String) (name : String) :
    (names ++ [name]).eraseDups = names.eraseDups ++ if name ∈ names then [] else [name] := by
  rw [List.eraseDups_append]
  by_cases h : name ∈ names <;> simp [List.removeAll, List.eraseDups_cons, h]

theorem pairwise_idxOf_eraseDups (names : List String) :
    names.eraseDups.Pairwise fun name other => names.idxOf name < names.idxOf other := by
  induction names using List.reverseRecOn with
  | nil => exact .nil
  | append_singleton names last ih =>
    -- the names that are left so far keep their places
    have hplace : ∀ name ∈ names.eraseDups, (names ++ [last]).idxOf name = names.idxOf name := fun name hname =>
      List.idxOf_append_of_mem (List.mem_eraseDups.1 hname)
    have hkept : names.eraseDups.Pairwise fun name other =>
        (names ++ [last]).idxOf name < (names ++ [last]).idxOf other :=
      ih.imp_of_mem fun hname hother hlt => by rwa [hplace _ hname, hplace _ hother]
    rw [eraseDups_append_singleton]
    split
    · rwa [List.append_nil]
    · rename_i hnew
      refine List.pairwise_append.2 ⟨hkept, List.pairwise_singleton _ _, fun name hname other hother => ?_⟩
      obtain rfl := List.mem_singleton.1 hother
      rw [hplace name hname, List.idxOf_append_of_notMem hnew]
      exact Nat.lt_add_right _ (List.idxOf_lt_length_of_mem (List.mem_eraseDups.1 hname))

theorem nodup_eraseDups (names : List String) : names.eraseDups.Nodup :=
  (pairwise_idxOf_eraseDups names).imp fun hlt heq => absurd (heq ▸ hlt) (Nat.lt_irrefl _)

theorem eraseDups_append_eraseDups (front names : List String) :
    (front ++ names.eraseDups).eraseDups = (front ++ names).eraseDups := by
  induction names using List.reverseRecOn with
  | nil => rfl
  | append_singleton names last ih =>
    rw [← List.append_assoc, eraseDups_append_singleton (front ++ names), ← ih, eraseDups_append_singleton]
    by_cases h : last ∈ names
    · simp [h]
    · rw [if_neg h, ← List.append_assoc, eraseDups_append_singleton]
      simp only [List.mem_append, List.mem_eraseDups]

theorem eraseDups_eraseDups_append (names rest : List String) :
    (names.eraseDups ++ rest).eraseDups = (names ++ rest).eraseDups := by
  induction rest using List.reverseRecOn with
  | nil =>
    rw [List.append_nil, List.append_nil]
    exact eraseDups_append_eraseDups [] names
  | append_singleton rest last ih =>
    rw [← List.append_assoc, ← List.append_assoc, eraseDups_append_singleton, eraseDups_append_singleton, ih]
    simp only [List.mem_append, List.mem_eraseDups]

end StyledCode.Text
