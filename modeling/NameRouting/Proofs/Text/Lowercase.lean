import NameRouting.Text.Lowercase

/-!
# Signs in lower case

Writing a text in lower case neither removes a sign in front of the letters of ASCII
nor makes one appear.
-/

namespace NameRouting.Text

/-- A character of ASCII in front of the letters, other than the first one. -/
def IsSign (c : Char) : Prop :=
  0 < c.toNat ∧ c.toNat ≤ 0x40

instance (c : Char) : Decidable (IsSign c) :=
  inferInstanceAs (Decidable (_ ∧ _))

theorem toLower_eq_iff_of_isSign {c : Char} (hc : IsSign c) (d : Char) :
    d.toLower = c ↔ d = c := by
  delta Char.toLower
  split
  case isTrue hupper =>
    have hlow : 65 ≤ d.toNat := hupper.1
    have hhigh : d.toNat ≤ 90 := hupper.2
    constructor
    · rintro rfl
      have hsmall : (d.val + ('a'.val - 'A'.val)).toNat ≤ 0x40 := hc.2
      rw [UInt32.toNat_add] at hsmall
      have hval : d.val.toNat = d.toNat := rfl
      have hoffset : ('a'.val - 'A'.val).toNat = 32 := rfl
      omega
    · rintro rfl
      have := hc.2
      omega
  case isFalse => rfl

/-- The small letters of capitals lie behind the signs. -/
theorem lt_of_mem_capitalRuns {run : CaseRun} (hrun : run ∈ capitalRuns) :
    (0x40 : Int) < run.first + run.offset := by
  have hall : (capitalRuns.all fun run => decide ((0x40 : Int) < run.first + run.offset)) =
      true := by
    decide +kernel
  exact of_decide_eq_true (List.all_eq_true.mp hall run hrun)

theorem not_isSign_ofNat {n : Nat} (hn : 0x40 < n) : ¬ IsSign (Char.ofNat n) := by
  rintro ⟨hpos, hle⟩
  by_cases hvalid : n.isValidChar
  · have hchar : Char.ofNat n = Char.ofNatAux n hvalid := dif_pos hvalid
    rw [hchar] at hle
    have hcode : n ≤ 0x40 := hle
    omega
  · have hchar : Char.ofNat n = '\x00' := dif_neg hvalid
    rw [hchar] at hpos
    exact absurd hpos (by decide)

theorem smallLetter_eq_iff_of_isSign {c : Char} (hc : IsSign c) (d : Char) :
    smallLetter d = c ↔ d = c := by
  by_cases hascii : d.toNat < 0x80
  · rw [smallLetter, if_pos hascii]
    exact toLower_eq_iff_of_isSign hc d
  · have hne : d ≠ c := by
      rintro rfl
      have := hc.2
      omega
    rw [smallLetter, if_neg hascii]
    split
    case h_1 run hfind =>
      have hfirst : run.first ≤ d.toNat := by
        have hrange := List.find?_some hfind
        simp only [Bool.and_eq_true, decide_eq_true_eq] at hrange
        exact hrange.1.1
      have hsmall := lt_of_mem_capitalRuns (List.mem_of_find?_eq_some hfind)
      constructor
      · rintro rfl
        exact absurd hc (not_isSign_ofNat (by omega))
      · intro hd
        exact absurd hd hne
    case h_2 => rfl

theorem mem_lowercaseAfter_iff {c : Char} (hc : IsSign c) (before cs : List Char) :
    c ∈ lowercaseAfter before cs ↔ c ∈ cs := by
  induction cs generalizing before with
  | nil => rfl
  | cons d rest ih =>
      rw [lowercaseAfter, List.mem_append, ih, List.mem_cons]
      refine or_congr_left ?_
      by_cases hsigma : d = 'Σ'
      · subst hsigma
        have hne : c ≠ 'Σ' ∧ c ≠ 'ς' ∧ c ≠ 'σ' := by
          refine ⟨?_, ?_, ?_⟩ <;> (rintro rfl; exact absurd hc (by decide))
        rw [if_pos rfl]
        split <;> simp [hne]
      · by_cases hdot : d = 'İ'
        · subst hdot
          have hne : c ≠ 'İ' ∧ c ≠ 'i' ∧ c ≠ '\u0307' := by
            refine ⟨?_, ?_, ?_⟩ <;> (rintro rfl; exact absurd hc (by decide))
          rw [if_neg hsigma, if_pos rfl]
          simp [hne]
        · rw [if_neg hsigma, if_neg hdot, List.mem_singleton, eq_comm,
            smallLetter_eq_iff_of_isSign hc, eq_comm]

theorem mem_lowercase_iff {c : Char} (hc : IsSign c) (cs : List Char) :
    c ∈ lowercase cs ↔ c ∈ cs :=
  mem_lowercaseAfter_iff hc [] cs

end NameRouting.Text
