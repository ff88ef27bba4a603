/-
  The ledger, seen through the roots that were ever written down and those of
  them that are to be stopped.

  * `Ledger.names`, the roots in the order in which they first came, and
    `Ledger.Distinct`, which says that none came twice;
  * `Ledger.roots_eq_filter`: the roots to be stopped keep that order;
  * what `mark` and `settle` do to both.
-/
import FlowLens.Checker.Ledger
import Mathlib

namespace FlowLens

namespace Ledger

/-- The roots that were ever written down, in the order in which they came. -/
def names (l : Ledger) : List Text :=
  l.entries.map (·.1)

/-- No root was written down twice. -/
def Distinct (l : Ledger) : Prop :=
  l.names.Nodup

/-- The ledger after a root was asked for, if one was. -/
def noted (l : Ledger) : Option Text → Ledger
  | none => l
  | some root => (l.schedule root).2

/-! ## Entries -/

theorem scheduledIn_eq_false {root : Text} {entries : List (Text × Bool)}
    (h : root ∉ entries.map (·.1)) : scheduledIn root entries = false := by
  induction entries with
  | nil => rfl
  | cons entry rest ih =>
    obtain ⟨r, b⟩ := entry
    simp only [List.map_cons, List.mem_cons, not_or] at h
    rw [scheduledIn, if_neg (Ne.symm h.1)]
    exact ih h.2

theorem filter_scheduled {entries : List (Text × Bool)} (h : (entries.map (·.1)).Nodup) :
    (entries.filter (·.2)).map (·.1) =
      (entries.map (·.1)).filter fun root => scheduledIn root entries := by
  induction entries with
  | nil => rfl
  | cons entry rest ih =>
    obtain ⟨r, b⟩ := entry
    rw [List.map_cons, List.nodup_cons] at h
    obtain ⟨hr, hrest⟩ := h
    -- the first entry decides on `r`, and on no other root of the rest
    have hothers : (rest.map (·.1)).filter (fun root => scheduledIn root ((r, b) :: rest)) =
        (rest.map (·.1)).filter fun root => scheduledIn root rest := by
      refine List.filter_congr fun root hroot => ?_
      rw [scheduledIn, if_neg]
      rintro rfl
      exact hr hroot
    rw [List.map_cons, List.filter_cons, List.filter_cons, hothers, ← ih hrest, scheduledIn,
      if_pos rfl]
    cases b <;> rfl

theorem scheduledIn_mark (r root : Text) (entries : List (Text × Bool)) :
    scheduledIn r (mark root entries) = (decide (r = root) || scheduledIn r entries) := by
  induction entries with
  | nil =>
    by_cases h : r = root
    · simp [mark, scheduledIn, h]
    · simp [mark, scheduledIn, h, Ne.symm h]
  | cons entry rest ih =>
    obtain ⟨n, b⟩ := entry
    unfold mark
    split_ifs with hn
    · subst hn
      by_cases h : n = r
      · simp [scheduledIn, h]
      · simp [scheduledIn, h, Ne.symm h]
    · by_cases h : n = r
      · subst h; simp [scheduledIn, hn]
      · simp [scheduledIn, h, ih]

theorem map_mark (root : Text) (entries : List (Text × Bool)) :
    (mark root entries).map (·.1) =
      if root ∈ entries.map (·.1) then entries.map (·.1) else entries.map (·.1) ++ [root] := by
  induction entries with
  | nil => rfl
  | cons entry rest ih =>
    obtain ⟨n, b⟩ := entry
    unfold mark
    by_cases hn : n = root
    · simp [hn]
    · rw [if_neg hn, List.map_cons, ih]
      simp only [List.map_cons, List.mem_cons, Ne.symm hn, false_or]
      split_ifs <;> rfl

/-! ## Ledgers -/

variable {l : Ledger} {root : Text}

theorem mem_names_of_isScheduled (h : l.isScheduled root = true) : root ∈ l.names := by
  by_contra hn
  rw [isScheduled, scheduledIn_eq_false hn] at h
  cases h

/-- **The roots to be stopped are in the order in which they first came.** -/
theorem roots_eq_filter (h : l.Distinct) : l.roots = l.names.filter l.isScheduled :=
  filter_scheduled h

theorem mem_roots_iff (h : l.Distinct) : root ∈ l.roots ↔ l.isScheduled root = true := by
  rw [roots_eq_filter h, List.mem_filter]
  exact ⟨fun hr => hr.2, fun hs => ⟨mem_names_of_isScheduled hs, hs⟩⟩

theorem nodup_roots (h : l.Distinct) : l.roots.Nodup := by
  rw [roots_eq_filter h]
  exact h.filter _

theorem count_roots (h : l.Distinct) (root : Text) :
    l.roots.count root = if l.isScheduled root then 1 else 0 := by
  rw [(nodup_roots h).count]
  simp only [mem_roots_iff h]

theorem schedule_of_isScheduled (h : l.isScheduled root = true) :
    l.schedule root = (false, l) := by
  rw [schedule, if_pos h]

theorem schedule_of_not_isScheduled (h : l.isScheduled root = false) :
    l.schedule root = (true, ⟨mark root l.entries, true⟩) := by
  rw [schedule, if_neg (by simp [h])]

theorem distinct_schedule (h : l.Distinct) : (l.schedule root).2.Distinct := by
  unfold schedule
  split_ifs
  · exact h
  · rw [Distinct, names, map_mark]
    split_ifs with hmem
    · exact h
    · exact List.Nodup.append h (List.nodup_singleton root) (by simpa using hmem)

theorem isScheduled_schedule (r root : Text) :
    (l.schedule root).2.isScheduled r = (decide (r = root) || l.isScheduled r) := by
  cases h : l.isScheduled root with
  | true =>
    rw [schedule_of_isScheduled h]
    by_cases hr : r = root
    · rw [hr, h]; simp
    · simp [hr]
  | false =>
    rw [schedule_of_not_isScheduled h]
    exact scheduledIn_mark r root l.entries

/-- A root is news if it is not scheduled. -/
theorem fst_schedule : (l.schedule root).1 = !l.isScheduled root := by
  cases h : l.isScheduled root with
  | true => rw [schedule_of_isScheduled h]; rfl
  | false => rw [schedule_of_not_isScheduled h]; rfl

theorem hooked_schedule : (l.schedule root).2.hooked = (l.hooked || !l.isScheduled root) := by
  cases h : l.isScheduled root with
  | true => rw [schedule_of_isScheduled h]; simp
  | false => rw [schedule_of_not_isScheduled h]; simp

@[simp]
theorem names_settle : l.settle.names = l.names := by
  simp [names, settle, Function.comp_def]

@[simp]
theorem hooked_settle : l.settle.hooked = l.hooked := rfl

@[simp]
theorem roots_settle : l.settle.roots = [] := by
  simp [roots, settle, List.filter_eq_nil_iff]

@[simp]
theorem settle_settle : l.settle.settle = l.settle := by
  simp [settle, Function.comp_def]

theorem distinct_settle (h : l.Distinct) : l.settle.Distinct := by
  rw [Distinct, names_settle]
  exact h

theorem isScheduled_settle (h : l.Distinct) : l.settle.isScheduled root = false := by
  have hnot : ¬ l.settle.isScheduled root = true := by
    rw [← mem_roots_iff (distinct_settle h), roots_settle]
    exact List.not_mem_nil
  simpa using hnot

end Ledger

end FlowLens
