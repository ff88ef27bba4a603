/-
  What passes a check.  Each lemma takes a check that succeeded apart: the parts
  of a record were found and passed their own checks, and the record is made of
  what these gave.

  * `Checked.map_eq_good_iff` and `Checked.seq_eq_good_iff`, for the two ways of
    putting checks together;
  * `Members.optional_eq_good`, for the fields of a record;
  * `checkNullable_eq_good` and `checkList_eq_good`, for what may be absent and
    for lists;
  * `Checked.Passes`: a check succeeds, whatever it gives.
-/
import FlowLens.Schema.Checked
import FlowLens.Schema.Scalar
import Mathlib

namespace FlowLens

variable {α β : Type}

namespace Checked

theorem map_eq_good_iff {f : α → β} {c : Checked α} {b : β} :
    f <$> c = .good b ↔ ∃ a, c = .good a ∧ f a = b := by
  cases c <;> simp [Functor.map, map]

theorem seq_eq_good_iff {f : Checked (α → β)} {c : Checked α} {b : β} :
    f <*> c = .good b ↔ ∃ g a, f = .good g ∧ c = .good a ∧ g a = b := by
  cases f <;> cases c <;> simp [Seq.seq, seq]

theorem under_eq_good_iff {step : Step} {c : Checked α} {a : α} :
    c.under step = .good a ↔ c = .good a := by
  cases c <;> simp [under]

theorem toOption_eq_some_iff {c : Checked α} {a : α} : c.toOption = some a ↔ c = .good a := by
  cases c <;> simp [toOption]

end Checked

/-! ## Fields -/

namespace Members

variable {members : Members} {f : Field} {check : Value → Checked α} {a : α}

theorem mem_of_get? {name : Text} {v : Value} (h : members.get? name = some v) :
    (name, v) ∈ members := by
  induction members with
  | nil => simp [get?] at h
  | cons m rest ih =>
    obtain ⟨n, w⟩ := m
    unfold get? at h
    split_ifs at h with hn
    · obtain rfl := Option.some.inj h
      simp [hn]
    · exact List.mem_cons_of_mem _ (ih h)

theorem mem_of_lookup? {m : Text × Value} (h : members.lookup? f = some m) : m ∈ members := by
  unfold lookup? at h
  split at h
  · next v hv =>
    obtain rfl := Option.some.inj h
    exact mem_of_get? hv
  · obtain ⟨v, hv, rfl⟩ := Option.map_eq_some_iff.1 h
    exact mem_of_get? hv

/-- A field that may be absent passes if it is, or if its value does. -/
theorem optional_eq_good_iff {fallback : α} :
    members.optional f fallback check = .good a ↔
      (members.lookup? f = none ∧ a = fallback) ∨
        ∃ label v, members.lookup? f = some (label, v) ∧ check v = .good a := by
  unfold optional
  split
  · next label v hv => simp [hv, Checked.under_eq_good_iff]
  · next hv => simp [hv, eq_comm]

theorem optional_eq_good {fallback : α} (h : members.optional f fallback check = .good a) :
    a = fallback ∨ ∃ m ∈ members, check m.2 = .good a := by
  rcases optional_eq_good_iff.1 h with ⟨-, ha⟩ | ⟨label, v, hv, hcheck⟩
  · exact Or.inl ha
  · exact Or.inr ⟨_, mem_of_lookup? hv, hcheck⟩

theorem lookup?_plain (members : Members) (name : Text) :
    members.lookup? (.plain name) = (members.get? name).map (name, ·) := by
  unfold lookup? Field.plain
  cases members.get? name <;> rfl

theorem optional_plain_eq_good_iff {name : Text} {fallback : α} :
    members.optional (.plain name) fallback check = .good a ↔
      (members.get? name = none ∧ a = fallback) ∨
        ∃ v, members.get? name = some v ∧ check v = .good a := by
  rw [optional_eq_good_iff, lookup?_plain]
  simp

end Members

theorem checkRecord_eq_good {check : Members → Checked α} {v : Value} {a : α}
    (h : checkRecord check v = .good a) :
    ∃ members, v = .obj members ∧ check members = .good a := by
  cases v with
  | obj members => exact ⟨members, rfl, h⟩
  | _ => cases h

/-! ## Absent values and lists -/

variable {check : Value → Checked α}

theorem checkNullable_eq_good_iff {v : Value} {o : Option α} :
    checkNullable check v = .good o ↔
      (v = .null ∧ o = none) ∨ (v ≠ .null ∧ ∃ a, check v = .good a ∧ some a = o) := by
  by_cases hv : v = .null
  · subst hv
    simp [checkNullable, eq_comm]
  · have hmap : checkNullable check v = some <$> check v := by
      cases v with
      | null => exact absurd rfl hv
      | _ => rfl
    simp [hmap, hv, Checked.map_eq_good_iff]

theorem checkNullable_eq_good {v : Value} {a : α} (h : checkNullable check v = .good (some a)) :
    check v = .good a := by
  rcases checkNullable_eq_good_iff.1 h with ⟨-, he⟩ | ⟨-, b, hb, he⟩
  · cases he
  · cases he
    exact hb

theorem checkText_eq_good_iff {v : Value} {t : Text} : checkText v = .good t ↔ v = .str t := by
  cases v <;> simp [checkText, Checked.fail]

theorem collectAll_checkEach_eq_good {items : List Value} {as : List α} {i : Nat}
    (h : collectAll (checkEach check i items) = .good as) :
    List.Forall₂ (fun v a => check v = .good a) items as := by
  induction items generalizing as i with
  | nil => cases h; exact .nil
  | cons v rest ih =>
    simp only [checkEach, collectAll, Checked.seq_eq_good_iff, Checked.map_eq_good_iff] at h
    obtain ⟨_, rest', ⟨a, ha, rfl⟩, hrest, rfl⟩ := h
    exact .cons (Checked.under_eq_good_iff.1 ha) (ih hrest)

theorem checkList_eq_good {v : Value} {as : List α} (h : checkList check v = .good as) :
    ∃ items, v = .arr items ∧ List.Forall₂ (fun v a => check v = .good a) items as := by
  cases v with
  | arr items => exact ⟨items, rfl, collectAll_checkEach_eq_good h⟩
  | _ => cases h

theorem exists_mem_of_forall₂ {R : α → β → Prop} {as : List α} {bs : List β} {b : β}
    (h : List.Forall₂ R as bs) (hb : b ∈ bs) : ∃ a ∈ as, R a b := by
  induction h with
  | nil => cases hb
  | cons hr _ ih =>
    rcases List.mem_cons.1 hb with rfl | hb
    · exact ⟨_, List.mem_cons_self .., hr⟩
    · obtain ⟨a, ha, hr'⟩ := ih hb
      exact ⟨a, List.mem_cons_of_mem _ ha, hr'⟩

/-! ## Success -/

/-- A check succeeds. -/
def Checked.Passes (c : Checked α) : Prop :=
  ∃ a, c = .good a

namespace Checked

theorem passes_good (a : α) : (good a).Passes := ⟨a, rfl⟩

theorem not_passes_bad (problems : List Problem) : ¬ (bad problems : Checked α).Passes := by
  rintro ⟨a, h⟩
  cases h

theorem passes_map {f : α → β} {c : Checked α} : (f <$> c).Passes ↔ c.Passes := by
  simp [Passes, map_eq_good_iff]

theorem passes_seq {f : Checked (α → β)} {c : Checked α} :
    (f <*> c).Passes ↔ f.Passes ∧ c.Passes := by
  simp [Passes, seq_eq_good_iff]

end Checked

theorem Members.passes_optional {members : Members} {f : Field} {fallback : α} :
    (members.optional f fallback check).Passes ↔
      ∀ m, members.lookup? f = some m → (check m.2).Passes := by
  simp only [Checked.Passes, optional_eq_good_iff]
  cases members.lookup? f with
  | none => simp
  | some m =>
    obtain ⟨label, v⟩ := m
    simp

theorem passes_checkRecord {check : Members → Checked α} {v : Value} :
    (checkRecord check v).Passes ↔ ∃ members, v = .obj members ∧ (check members).Passes := by
  cases v with
  | obj members => simp [checkRecord]
  | _ => simp [checkRecord, Checked.fail, Checked.not_passes_bad]

theorem passes_checkNullable {v : Value} :
    (checkNullable check v).Passes ↔ v = .null ∨ (check v).Passes := by
  simp only [Checked.Passes, checkNullable_eq_good_iff]
  by_cases hv : v = .null
  · simp [hv]
  · simp [hv]

theorem passes_checkText {v : Value} : (checkText v).Passes ↔ ∃ t, v = .str t := by
  simp [Checked.Passes, checkText_eq_good_iff]

end FlowLens
