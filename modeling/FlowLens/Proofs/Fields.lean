/-
  The fields of a record when one of its members is set anew.

  * `Members.lookup?_put_self` and `Members.lookup?_put_of_apart`: the field that is
    set by its key has the new value, and all others have what they had;
  * `Members.unknown`, the members that belong to no field, and
    `Members.unknown_put`: a member that was called by the field's own name
    becomes one of them;
  * `Members.merge_of_nodup`: members of different names are set side by side.
-/
import FlowLens.Proofs.Passing

namespace FlowLens

/-- Two fields that share neither name nor key. -/
def Field.Apart (f g : Field) : Prop :=
  f.key ≠ g.key ∧ f.key ≠ g.name ∧ f.name ≠ g.key ∧ f.name ≠ g.name

instance (f g : Field) : Decidable (f.Apart g) :=
  inferInstanceAs (Decidable (_ ∧ _))

namespace Members

variable {α : Type} {members : Members} {f g : Field} {fields : List Field} {n name : Text}
  {v : Value}

/-! ## Names and values -/

theorem get?_put (n name : Text) (v : Value) (members : Members) :
    (members.put name v).get? n = if n = name then some v else members.get? n := by
  induction members with
  | nil =>
    by_cases h : n = name
    · simp [put, get?, h]
    · simp [put, get?, h, Ne.symm h]
  | cons m rest ih =>
    obtain ⟨k, w⟩ := m
    unfold put
    by_cases hk : k = name
    · subst hk
      by_cases h : n = k
      · simp [get?, h]
      · simp [get?, h, Ne.symm h]
    · by_cases h : k = n
      · subst h
        simp [get?, hk]
      · simp [get?, hk, h, ih]

theorem get?_isSome_of_mem {m : Text × Value} (hm : m ∈ members) :
    (members.get? m.1).isSome = true := by
  induction members with
  | nil => cases hm
  | cons k rest ih =>
    unfold get?
    split_ifs with hk
    · rfl
    · rcases List.mem_cons.1 hm with rfl | hm
      · exact absurd rfl hk
      · exact ih hm

/-- Setting a name's value leaves the members of other names as they are. -/
theorem filter_put {p : Text → Bool} (hp : p name = false) :
    (members.put name v).filter (fun m => p m.1) = members.filter fun m => p m.1 := by
  induction members with
  | nil => simp [put, hp]
  | cons m rest ih =>
    obtain ⟨k, w⟩ := m
    unfold put
    split_ifs with hk
    · subst hk
      simp [hp]
    · rw [List.filter_cons, List.filter_cons, ih]

theorem put_of_not_mem (h : name ∉ members.map (·.1)) :
    members.put name v = members ++ [(name, v)] := by
  induction members with
  | nil => rfl
  | cons m rest ih =>
    rw [List.map_cons, List.mem_cons, not_or] at h
    rw [put, if_neg (Ne.symm h.1), ih h.2, List.cons_append]

/-- Members that are all called differently keep their places when they are set one by
    one. -/
theorem merge_of_nodup {base later : Members} (h : ((base ++ later).map (·.1)).Nodup) :
    base.merge later = base ++ later := by
  induction later generalizing base with
  | nil => exact (List.append_nil base).symm
  | cons m rest ih =>
    have hnew : m.1 ∉ base.map (·.1) := by
      rw [List.map_append, List.nodup_append'] at h
      exact fun hm => h.2.2 hm (List.mem_cons_self ..)
    have hassoc : base ++ m :: rest = base ++ [m] ++ rest := by simp
    have hstep : base.merge (m :: rest) = (base.put m.1 m.2).merge rest := rfl
    rw [hstep, put_of_not_mem hnew, hassoc]
    exact ih (hassoc ▸ h)

/-! ## Fields -/

theorem lookup?_put_self : (members.put f.key v).lookup? f = some (f.key, v) := by
  simp [lookup?, get?_put]

theorem lookup?_put_of_apart (h : f.Apart g) :
    (members.put f.key v).lookup? g = members.lookup? g := by
  obtain ⟨hkey, hname, -, -⟩ := h
  simp only [lookup?, get?_put, if_neg hkey.symm, if_neg hname.symm]

theorem label_of_lookup? (h : members.lookup? f = some (n, v)) : n = f.key ∨ n = f.name := by
  unfold lookup? at h
  split at h
  · simp_all
  · obtain ⟨w, -, hw⟩ := Option.map_eq_some_iff.1 h
    simp_all

theorem lookup?_of_mem {m : Text × Value} (hm : m ∈ members) (hkey : m.1 = f.key) :
    ∃ w, members.lookup? f = some (m.1, w) := by
  obtain ⟨w, hw⟩ := Option.isSome_iff_exists.1 (get?_isSome_of_mem hm)
  rw [hkey] at hw ⊢
  exact ⟨w, by rw [lookup?, hw]⟩

theorem optional_of_lookup?_eq {members' : Members} {fallback : α} {check : Value → Checked α}
    (h : members.lookup? f = members'.lookup? f) :
    members.optional f fallback check = members'.optional f fallback check := by
  rw [optional, optional, h]

theorem optional_of_lookup?_eq_some {fallback a : α} {check : Value → Checked α}
    (h : members.lookup? f = some (n, v)) (hcheck : check v = .good a) :
    members.optional f fallback check = .good a := by
  simp only [optional, h]
  exact Checked.under_eq_good_iff.2 hcheck

/-! ## Members without a field -/

/-- What the fields that are there are called. -/
def known (members : Members) (fields : List Field) : List Text :=
  fields.filterMap fun f => (members.lookup? f).map (·.1)

/-- The members that are the value of no field. -/
def unknown (members : Members) (fields : List Field) : Members :=
  members.filter fun m => !(members.known fields).contains m.1

theorem onlyFields_eq (members : Members) (fields : List Field) :
    members.onlyFields fields =
      match members.unknown fields with
      | [] => .good ()
      | unknown => .bad (unknown.map fun m => ⟨[.name m.1], .extraForbidden⟩) := rfl

theorem onlyFields_eq_good_iff {u : Unit} :
    members.onlyFields fields = .good u ↔ members.unknown fields = [] := by
  rw [onlyFields_eq]
  split
  · simp_all
  · simp_all

theorem mem_known_iff :
    n ∈ members.known fields ↔ ∃ f ∈ fields, ∃ v, members.lookup? f = some (n, v) := by
  simp [known, List.mem_filterMap]

theorem mem_known_put_iff (hf : f ∈ fields) (hapart : ∀ g ∈ fields, g ≠ f → f.Apart g) :
    n ∈ (members.put f.key v).known fields ↔
      n = f.key ∨ ∃ g ∈ fields, g ≠ f ∧ ∃ w, members.lookup? g = some (n, w) := by
  rw [mem_known_iff]
  constructor
  · rintro ⟨g, hg, w, hw⟩
    by_cases hgf : g = f
    · subst hgf
      rw [lookup?_put_self] at hw
      simp_all
    · rw [lookup?_put_of_apart (hapart g hg hgf)] at hw
      exact .inr ⟨g, hg, hgf, w, hw⟩
  · rintro (rfl | ⟨g, hg, hgf, w, hw⟩)
    · exact ⟨f, hf, v, lookup?_put_self⟩
    · exact ⟨g, hg, w, by rw [lookup?_put_of_apart (hapart g hg hgf), hw]⟩

/-- **A field that is set by its key** adds those members to the ones without a
    field that were called by the field's own name. -/
theorem unknown_put (hf : f ∈ fields) (hapart : ∀ g ∈ fields, g ≠ f → f.Apart g) :
    (members.put f.key v).unknown fields =
      members.filter fun m => m.1 ∉ members.known fields ∨ (m.1 = f.name ∧ f.name ≠ f.key) := by
  have hkey : f.key ∈ (members.put f.key v).known fields :=
    (mem_known_put_iff hf hapart).2 (.inl rfl)
  rw [unknown, filter_put (p := fun n => !((members.put f.key v).known fields).contains n)
    (by simpa using hkey)]
  refine List.filter_congr fun m hm => ?_
  rw [Bool.eq_iff_iff]
  simp only [Bool.not_eq_true', List.contains_eq_mem, decide_eq_false_iff_not, decide_eq_true_eq,
    mem_known_put_iff hf hapart]
  constructor
  · intro hnot
    by_cases hold : m.1 ∈ members.known fields
    · -- it was a field's value, and can only have been that of `f` by its name
      obtain ⟨g, hg, w, hw⟩ := mem_known_iff.1 hold
      obtain rfl : g = f := by
        by_contra hgf
        exact hnot (.inr ⟨g, hg, hgf, w, hw⟩)
      rcases label_of_lookup? hw with hkey' | hname
      · exact absurd (.inl hkey') hnot
      · exact .inr ⟨hname, fun heq => hnot (.inl (hname.trans heq))⟩
    · exact .inl hold
  · rintro (hnot | ⟨hname, hne⟩) (hkey' | ⟨g, hg, hgf, w, hw⟩)
    · obtain ⟨w, hw⟩ := lookup?_of_mem hm hkey'
      exact hnot (mem_known_iff.2 ⟨f, hf, w, hw⟩)
    · exact hnot (mem_known_iff.2 ⟨g, hg, w, hw⟩)
    · exact hne (hname.symm.trans hkey')
    · obtain ⟨-, -, hkeys, hnames⟩ := hapart g hg hgf
      rcases label_of_lookup? hw with h | h
      · exact hkeys (hname.symm.trans h)
      · exact hnames (hname.symm.trans h)

end Members

end FlowLens
