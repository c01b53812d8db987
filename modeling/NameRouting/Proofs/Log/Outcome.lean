import NameRouting.Log.Record
import Mathlib.Data.List.Forall2

/-!
# Outcomes

What a computation ends with does not depend on the records that it writes.  A
sequence of steps ends well when each step does, and so does a step that is taken for
every entry of a list.
-/

namespace NameRouting

variable {ε α β : Type}

/-! ## Steps that can fail -/

namespace Outcome

theorem bind_eq_ok_iff {first : Except ε α} {next : α → Except ε β} {b : β} :
    first >>= next = .ok b ↔ ∃ a, first = .ok a ∧ next a = .ok b := by
  cases first with
  | error fault =>
      constructor
      · intro hbind
        cases hbind
      · rintro ⟨a, hfirst, -⟩
        cases hfirst
  | ok a =>
      constructor
      · intro hbind
        exact ⟨a, rfl, hbind⟩
      · rintro ⟨a', hfirst, hnext⟩
        cases hfirst
        exact hnext

theorem bind_eq_error_iff {first : Except ε α} {next : α → Except ε β} {fault : ε} :
    first >>= next = .error fault ↔
      first = .error fault ∨ ∃ a, first = .ok a ∧ next a = .error fault := by
  cases first with
  | error fault' =>
      constructor
      · intro hbind
        cases hbind
        exact .inl rfl
      · rintro (hfirst | ⟨a, hfirst, -⟩) <;> cases hfirst
        rfl
  | ok a =>
      constructor
      · intro hbind
        exact .inr ⟨a, rfl, hbind⟩
      · rintro (hfirst | ⟨a', hfirst, hnext⟩) <;> cases hfirst
        exact hnext

theorem mapM_eq_ok_iff {step : α → Except ε β} {as : List α} {bs : List β} :
    as.mapM step = .ok bs ↔ List.Forall₂ (fun a b => step a = .ok b) as bs := by
  induction as generalizing bs with
  | nil =>
      rw [List.mapM_nil, List.forall₂_nil_left_iff]
      constructor
      · intro hnil
        cases hnil
        rfl
      · rintro rfl
        rfl
  | cons a as ih =>
      rw [List.mapM_cons, bind_eq_ok_iff, List.forall₂_cons_left_iff]
      refine exists_congr fun b => ?_
      rw [bind_eq_ok_iff]
      constructor
      · rintro ⟨hstep, bs', hrest, hcons⟩
        cases hcons
        exact ⟨bs', hstep, ih.mp hrest, rfl⟩
      · rintro ⟨bs', hstep, hrest, rfl⟩
        exact ⟨hstep, bs', ih.mpr hrest, rfl⟩

theorem exists_of_mem_of_mapM_eq_ok {step : α → Except ε β} {as : List α} {bs : List β} {b : β}
    (hmap : as.mapM step = .ok bs) (hb : b ∈ bs) :
    ∃ a ∈ as, step a = .ok b := by
  have hall := mapM_eq_ok_iff.mp hmap
  clear hmap
  induction hall with
  | nil => cases hb
  | cons hstep _ ih =>
      rcases List.mem_cons.mp hb with rfl | hb
      · exact ⟨_, List.mem_cons_self, hstep⟩
      · obtain ⟨a, ha, hstep⟩ := ih hb
        exact ⟨a, List.mem_cons_of_mem _ ha, hstep⟩

theorem exists_ok_of_mem_of_mapM_eq_ok {step : α → Except ε β} {as : List α} {bs : List β}
    {a : α} (hmap : as.mapM step = .ok bs) (ha : a ∈ as) :
    ∃ b, step a = .ok b := by
  have hall := mapM_eq_ok_iff.mp hmap
  clear hmap
  induction hall with
  | nil => cases ha
  | cons hstep _ ih =>
      rcases List.mem_cons.mp ha with rfl | ha
      · exact ⟨_, hstep⟩
      · exact ih ha

/-- The fault of a list of steps is that of the first step that fails. -/
theorem mapM_eq_error_iff {step : α → Except ε β} {as : List α} {fault : ε} :
    as.mapM step = .error fault ↔ ∃ before a after, as = before ++ a :: after ∧
      (∀ a' ∈ before, ∃ b, step a' = .ok b) ∧ step a = .error fault := by
  induction as with
  | nil =>
      constructor
      · intro hnil
        cases hnil
      · rintro ⟨before, a, after, hsplit, -⟩
        simp at hsplit
  | cons first rest ih =>
      rw [List.mapM_cons, bind_eq_error_iff]
      constructor
      · rintro (hstep | ⟨b, hstep, hrest⟩)
        · exact ⟨[], first, rest, rfl, nofun, hstep⟩
        · rcases bind_eq_error_iff.mp hrest with hrest | ⟨bs, -, hcons⟩
          · obtain ⟨before, a, after, rfl, hbefore, hfault⟩ := ih.mp hrest
            exact ⟨first :: before, a, after, rfl,
              List.forall_mem_cons.mpr ⟨⟨b, hstep⟩, hbefore⟩, hfault⟩
          · cases hcons
      · rintro ⟨_ | ⟨first', before⟩, a, after, hsplit, hbefore, hfault⟩
        · obtain ⟨rfl, rfl⟩ := List.cons.inj hsplit
          exact .inl hfault
        · obtain ⟨rfl, rfl⟩ := List.cons.inj hsplit
          obtain ⟨⟨b, hstep⟩, hbefore⟩ := List.forall_mem_cons.mp hbefore
          have hrest := ih.mpr ⟨before, a, after, rfl, hbefore, hfault⟩
          exact .inr ⟨b, hstep, bind_eq_error_iff.mpr (.inl hrest)⟩

theorem exists_of_mapM_eq_error {step : α → Except ε β} {as : List α} {fault : ε}
    (hmap : as.mapM step = .error fault) :
    ∃ a ∈ as, step a = .error fault := by
  obtain ⟨before, a, after, rfl, -, hfault⟩ := mapM_eq_error_iff.mp hmap
  exact ⟨a, List.mem_append_right before List.mem_cons_self, hfault⟩

end Outcome

/-! ## Steps that write records -/

/-- The warnings among records, in order. -/
def Log.warnings (records : List Log.Record) : List Log.Record :=
  records.filter (·.level == Log.warning)

namespace Logged

@[simp]
theorem outcome_pure (a : α) :
    (Pure.pure a : Logged α).outcome = .ok a :=
  rfl

@[simp]
theorem outcome_write (record : Log.Record) :
    (write record).outcome = .ok () :=
  rfl

@[simp]
theorem outcome_ofExcept (outcome : Except Fault α) :
    (ofExcept outcome).outcome = outcome :=
  rfl

@[simp]
theorem outcome_bind (first : Logged α) (next : α → Logged β) :
    (first >>= next).outcome = first.outcome >>= fun a => (next a).outcome := by
  obtain ⟨outcome, records⟩ := first
  cases outcome <;> rfl

theorem mem_records_bind_iff {first : Logged α} {next : α → Logged β} {record : Log.Record} :
    record ∈ (first >>= next).records ↔ record ∈ first.records ∨
      ∃ a, first.outcome = .ok a ∧ record ∈ (next a).records := by
  obtain ⟨outcome, records⟩ := first
  cases outcome with
  | error fault =>
      refine (or_iff_left ?_).symm
      rintro ⟨a, hfirst, -⟩
      cases hfirst
  | ok a =>
      change record ∈ records ++ (next a).records ↔ _
      rw [List.mem_append]
      simp

end Logged

end NameRouting
