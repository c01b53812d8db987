import NameRouting.Text.Blank
import NameRouting.Text.Printable
import NameRouting.Proofs.Text.Lowercase

/-!
# Small letters

Lower case makes small letters of capitals and leaves all other characters alone.  No
small letter is a capital, so that lower case applied a second time changes nothing, and
every small letter is printable.  The facts about the table of capitals are checked run
by run: the small letters of a run lie between those of its first and its last capital.
-/

namespace NameRouting.Text

/-! ## Sets given by their changes -/

/-- All numbers from `low` to `high` are members of the set with these changes; `member`
tells the side in front of the first change. -/
def holdsBetween : (changes : List Nat) → (low high : Nat) → (member : Bool) → Bool
  | [], _, _, member => member
  | point :: later, low, high, member =>
    bif Nat.ble point high then
      bif Nat.ble point low then holdsBetween later low high (!member) else false
    else member

theorem memberOf_of_holdsBetween {changes : List Nat} {low high n : Nat} {member : Bool}
    (hholds : holdsBetween changes low high member = true) (hlow : low ≤ n) (hhigh : n ≤ high) :
    (member ^^ memberOf changes n) = true := by
  induction changes generalizing member with
  | nil =>
      rw [holdsBetween] at hholds
      rw [memberOf, hholds]
      rfl
  | cons point later ih =>
      rw [holdsBetween] at hholds
      rw [memberOf]
      by_cases hreached : point ≤ high
      · rw [Nat.ble_eq_true_of_le hreached, cond_true] at hholds
        by_cases hbehind : point ≤ low
        · rw [Nat.ble_eq_true_of_le hbehind, cond_true] at hholds
          rw [if_neg (Nat.not_lt.mpr (Nat.le_trans hbehind hlow)), Bool.xor_not,
            ← Bool.not_xor]
          exact ih hholds
        · rw [Bool.eq_false_iff.mpr (mt Nat.le_of_ble_eq_true hbehind), cond_false] at hholds
          cases hholds
      · rw [Bool.eq_false_iff.mpr (mt Nat.le_of_ble_eq_true hreached), cond_false] at hholds
        rw [if_pos (Nat.lt_of_le_of_lt hhigh (Nat.not_le.mp hreached)), hholds]
        rfl

/-! ## The table of capitals -/

namespace CaseRun

/-- The code of a capital of the run. -/
def IsCapital (run : CaseRun) (n : Nat) : Prop :=
  run.first ≤ n ∧ n ≤ run.last ∧ (n - run.first) % run.step = 0

/-- The code of the small letter of the first capital. -/
def lowest (run : CaseRun) : Nat :=
  Int.toNat (run.first + run.offset)

/-- The code of the small letter of the last capital. -/
def highest (run : CaseRun) : Nat :=
  Int.toNat (run.last + run.offset)

/-- The code of a small letter of the run. -/
def IsSmall (run : CaseRun) (n : Nat) : Prop :=
  run.lowest ≤ n ∧ n ≤ run.highest ∧ (n - run.lowest) % run.step = 0

/-- The small letters of a run are those of ASCII or lie behind it; their codes belong to
characters, and the capital I with a dot is not among them. -/
def isInPlace (run : CaseRun) : Bool :=
  0x40 < run.first + run.offset &&
    (0x80 ≤ run.lowest || 0x61 ≤ run.lowest && run.highest ≤ 0x7A) &&
    (run.highest < 0xD800 || 0xE000 ≤ run.lowest && run.highest < 0x110000) &&
    (run.highest < 0x130 || 0x130 < run.lowest)

/-- The small letters of a run lie apart from the capitals of another one, or take turns
with them. -/
def isApart (run other : CaseRun) : Bool :=
  !Nat.ble other.first run.highest || !Nat.ble run.lowest other.last ||
    (run.step == 2 || run.lowest == run.highest) && other.step == 2 &&
      run.lowest % 2 != other.first % 2

theorem not_isCapital_of_isApart {run other : CaseRun} {n : Nat}
    (hapart : run.isApart other = true) (hsmall : run.IsSmall n) :
    ¬ other.IsCapital n := by
  obtain ⟨hlow, hhigh, hsteps⟩ := hsmall
  rintro ⟨hfirst, hlast, hturn⟩
  simp only [isApart, Bool.or_eq_true, Bool.and_eq_true, beq_iff_eq, bne_iff_ne,
    Bool.not_eq_true', ← Bool.not_eq_true, Nat.ble_eq] at hapart
  rcases hapart with (hbefore | hbehind) | ⟨⟨hturns, hother⟩, hparity⟩
  · exact hbefore (Nat.le_trans hfirst hhigh)
  · exact hbehind (Nat.le_trans hlow hlast)
  · rw [hother] at hturn
    rcases hturns with hstep | hsingle
    · rw [hstep] at hsteps
      omega
    · omega

end CaseRun

theorem isInPlace_of_mem {run : CaseRun} (hrun : run ∈ capitalRuns) :
    run.isInPlace = true := by
  have hall : capitalRuns.all CaseRun.isInPlace = true := by
    decide +kernel
  exact List.all_eq_true.mp hall run hrun

theorem isApart_of_mem {run other : CaseRun} (hrun : run ∈ capitalRuns)
    (hother : other ∈ capitalRuns) :
    run.isApart other = true := by
  have hall : (capitalRuns.all fun run => capitalRuns.all run.isApart) = true := by
    decide +kernel
  exact List.all_eq_true.mp (List.all_eq_true.mp hall run hrun) other hother

theorem holdsBetween_printableChanges_of_mem {run : CaseRun} (hrun : run ∈ capitalRuns) :
    holdsBetween printableChanges run.lowest run.highest false = true := by
  have hall : (capitalRuns.all fun run =>
      holdsBetween printableChanges run.lowest run.highest false) = true := by
    decide +kernel
  exact List.all_eq_true.mp hall run hrun

/-! ## What lower case makes of a character -/

/-- The characters that lower case can put in the place of a character. -/
def smallForms (c : Char) : List Char :=
  if c = 'Σ' then ['ς', 'σ'] else if c = 'İ' then ['i', '\u0307'] else [smallLetter c]

theorem smallForms_of_ne {c : Char} (hsigma : c ≠ 'Σ') (hdot : c ≠ 'İ') :
    smallForms c = [smallLetter c] := by
  rw [smallForms, if_neg hsigma, if_neg hdot]

theorem exists_of_mem_lowercaseAfter {before cs : List Char} {d : Char}
    (hd : d ∈ lowercaseAfter before cs) :
    ∃ c ∈ cs, d ∈ smallForms c := by
  induction cs generalizing before with
  | nil => cases hd
  | cons c rest ih =>
      rw [lowercaseAfter, List.mem_append] at hd
      rcases hd with hd | hd
      · refine ⟨c, List.mem_cons_self, ?_⟩
        by_cases hsigma : c = 'Σ'
        · rw [if_pos hsigma, List.mem_singleton] at hd
          rw [hd, hsigma]
          split <;> simp [smallForms]
        · rw [smallForms, if_neg hsigma]
          rwa [if_neg hsigma] at hd
      · obtain ⟨c', hc', hd⟩ := ih hd
        exact ⟨c', List.mem_cons_of_mem _ hc', hd⟩

theorem exists_of_mem_lowercase {cs : List Char} {d : Char} (hd : d ∈ lowercase cs) :
    ∃ c ∈ cs, d ∈ smallForms c :=
  exists_of_mem_lowercaseAfter hd

/-- A character that lower case leaves alone. -/
def IsSettled (c : Char) : Prop :=
  c ≠ 'Σ' ∧ c ≠ 'İ' ∧ smallLetter c = c

instance (c : Char) : Decidable (IsSettled c) :=
  inferInstanceAs (Decidable (_ ∧ _))

theorem lowercaseAfter_eq_self {before cs : List Char} (hcs : ∀ c ∈ cs, IsSettled c) :
    lowercaseAfter before cs = cs := by
  induction cs generalizing before with
  | nil => rfl
  | cons c rest ih =>
      rw [List.forall_mem_cons] at hcs
      obtain ⟨⟨hsigma, hdot, hsmall⟩, hrest⟩ := hcs
      rw [lowercaseAfter, if_neg hsigma, if_neg hdot, hsmall, ih hrest]
      rfl

/-! ## Small letters outside ASCII -/

theorem isCapital_of_find? {run : CaseRun} {n : Nat}
    (hfind : capitalRuns.find? (fun r => r.first ≤ n && n ≤ r.last &&
      (n - r.first) % r.step == 0) = some run) :
    run ∈ capitalRuns ∧ run.IsCapital n := by
  have hn := List.find?_some hfind
  simp only [Bool.and_eq_true, decide_eq_true_eq, beq_iff_eq] at hn
  exact ⟨List.mem_of_find?_eq_some hfind, hn.1.1, hn.1.2, hn.2⟩

theorem find?_eq_none_of_isSmall {run : CaseRun} {n : Nat} (hrun : run ∈ capitalRuns)
    (hsmall : run.IsSmall n) :
    capitalRuns.find? (fun r => r.first ≤ n && n ≤ r.last && (n - r.first) % r.step == 0) =
      none := by
  rw [List.find?_eq_none]
  intro other hother hcapital
  simp only [Bool.and_eq_true, decide_eq_true_eq, beq_iff_eq] at hcapital
  exact CaseRun.not_isCapital_of_isApart (isApart_of_mem hrun hother) hsmall
    ⟨hcapital.1.1, hcapital.1.2, hcapital.2⟩

theorem isSmall_of_isCapital {run : CaseRun} {n : Nat} (hrun : run ∈ capitalRuns)
    (hcapital : run.IsCapital n) :
    run.IsSmall (Int.toNat (n + run.offset)) := by
  have hplace := isInPlace_of_mem hrun
  simp only [CaseRun.isInPlace, Bool.and_eq_true, decide_eq_true_eq] at hplace
  have hpositive := hplace.1.1.1
  obtain ⟨hfirst, hlast, hturn⟩ := hcapital
  have hsteps : Int.toNat (n + run.offset) - run.lowest = n - run.first := by
    rw [CaseRun.lowest]
    omega
  refine ⟨?_, ?_, by rw [hsteps, hturn]⟩
  · rw [CaseRun.lowest]
    omega
  · rw [CaseRun.highest]
    omega

theorem toNat_ofNat_of_isSmall {run : CaseRun} {n : Nat} (hrun : run ∈ capitalRuns)
    (hsmall : run.IsSmall n) :
    (Char.ofNat n).toNat = n := by
  have hplace := isInPlace_of_mem hrun
  simp only [CaseRun.isInPlace, Bool.and_eq_true, Bool.or_eq_true, decide_eq_true_eq] at hplace
  obtain ⟨hlow, hhigh, -⟩ := hsmall
  have hvalid : n.isValidChar := by
    rcases hplace.1.2 with hbelow | ⟨habove, hlimit⟩
    · exact .inl (Nat.lt_of_le_of_lt hhigh hbelow)
    · exact .inr ⟨Nat.lt_of_lt_of_le (by decide) (Nat.le_trans habove hlow),
        Nat.lt_of_le_of_lt hhigh hlimit⟩
  have hchar : Char.ofNat n = Char.ofNatAux n hvalid := dif_pos hvalid
  rw [hchar]
  rfl

/-! ## Small forms -/

/-- A small form of a character is the character itself, the small letter of a capital of
ASCII or of a capital of the table, or one of the forms of the two other capitals. -/
inductive IsSmallForm : Char → Char → Prop
  | self {c : Char} (hsettled : IsSettled c) : IsSmallForm c c
  | ascii {c : Char} (hupper : c.isUpper = true) : IsSmallForm c c.toLower
  | listed {c : Char} {run : CaseRun} {n : Nat} (hrun : run ∈ capitalRuns)
    (hn : run.IsSmall n) : IsSmallForm c (Char.ofNat n)
  | special {c d : Char} (hd : d ∈ ['ς', 'σ', 'i', '\u0307']) : IsSmallForm c d

theorem lt_of_isAlphanum {c : Char} (hc : c.isAlphanum = true) : c.toNat < 0x80 := by
  have hbelow : ∀ bound : UInt32, c.val ≤ bound → bound.toNat < 0x80 → c.toNat < 0x80 := by
    intro bound hle hbound
    exact Nat.lt_of_le_of_lt (UInt32.le_iff_toNat_le.mp hle) hbound
  delta Char.isAlphanum Char.isAlpha Char.isUpper Char.isLower Char.isDigit at hc
  simp only [Bool.or_eq_true, Bool.and_eq_true, decide_eq_true_eq] at hc
  rcases hc with (⟨-, hupper⟩ | ⟨-, hlower⟩) | ⟨-, hdigit⟩
  · exact hbelow _ hupper (by decide)
  · exact hbelow _ hlower (by decide)
  · exact hbelow _ hdigit (by decide)

theorem lt_of_isUpper {c : Char} (hupper : c.isUpper = true) : c.toNat < 0x80 := by
  apply lt_of_isAlphanum
  delta Char.isAlphanum Char.isAlpha
  rw [hupper]
  rfl

theorem isSettled_ascii :
    ∀ n < 0x80, (Char.ofNat n).isUpper = false → IsSettled (Char.ofNat n) := by
  decide

theorem isSettled_toLower_ascii :
    ∀ n < 0x80, (Char.ofNat n).isUpper = true → IsSettled (Char.ofNat n).toLower := by
  decide

theorem isSmallForm_smallLetter {c : Char} (hsigma : c ≠ 'Σ') (hdot : c ≠ 'İ') :
    IsSmallForm c (smallLetter c) := by
  by_cases hascii : c.toNat < 0x80
  · have hsmall : smallLetter c = c.toLower := if_pos hascii
    cases hupper : c.isUpper with
    | true =>
        rw [hsmall]
        exact .ascii hupper
    | false =>
        have hsettled := isSettled_ascii c.toNat hascii
        rw [Char.ofNat_toNat] at hsettled
        have hself := hsettled hupper
        rw [hself.2.2]
        exact .self hself
  · cases hfind : capitalRuns.find? fun r => r.first ≤ c.toNat && c.toNat ≤ r.last &&
        (c.toNat - r.first) % r.step == 0 with
    | none =>
        have hself : smallLetter c = c := by
          rw [smallLetter, if_neg hascii, hfind]
        rw [hself]
        exact .self ⟨hsigma, hdot, hself⟩
    | some run =>
        obtain ⟨hrun, hcapital⟩ := isCapital_of_find? hfind
        have hsmall : smallLetter c = Char.ofNat (Int.toNat (c.toNat + run.offset)) := by
          rw [smallLetter, if_neg hascii, hfind]
        rw [hsmall]
        exact .listed hrun (isSmall_of_isCapital hrun hcapital)

theorem isSmallForm_of_mem {c d : Char} (hd : d ∈ smallForms c) : IsSmallForm c d := by
  by_cases hsigma : c = 'Σ'
  · subst hsigma
    exact .special (List.mem_append_left ['i', '\u0307'] hd)
  · by_cases hdot : c = 'İ'
    · subst hdot
      exact .special (List.mem_append_right ['ς', 'σ'] hd)
    · rw [smallForms_of_ne hsigma hdot, List.mem_singleton] at hd
      rw [hd]
      exact isSmallForm_smallLetter hsigma hdot

theorem isSettled_ofNat_of_isSmall {run : CaseRun} {n : Nat} (hrun : run ∈ capitalRuns)
    (hsmall : run.IsSmall n) :
    IsSettled (Char.ofNat n) := by
  have hplace := isInPlace_of_mem hrun
  simp only [CaseRun.isInPlace, Bool.and_eq_true, Bool.or_eq_true, decide_eq_true_eq] at hplace
  have hchar := toNat_ofNat_of_isSmall hrun hsmall
  have hnone := find?_eq_none_of_isSmall hrun hsmall
  refine ⟨?_, ?_, ?_⟩
  · intro hsigma
    rw [hsigma] at hchar
    rw [← hchar] at hnone
    exact absurd hnone (by decide +kernel)
  · intro hdot
    rw [hdot] at hchar
    have hn : n = 0x130 := hchar.symm
    obtain ⟨hlow, hhigh, -⟩ := hsmall
    omega
  · by_cases hascii : n < 0x80
    · have hlower : ∀ m < 0x80, 0x61 ≤ m → smallLetter (Char.ofNat m) = Char.ofNat m := by
        decide
      obtain ⟨hlow, hhigh, -⟩ := hsmall
      exact hlower n hascii (by omega)
    · rw [smallLetter, hchar, if_neg hascii, hnone]

theorem isSettled_of_isSmallForm {c d : Char} (hform : IsSmallForm c d) : IsSettled d := by
  cases hform with
  | self hsettled => exact hsettled
  | ascii hupper =>
      have hsettled := isSettled_toLower_ascii c.toNat (lt_of_isUpper hupper)
      rw [Char.ofNat_toNat] at hsettled
      exact hsettled hupper
  | listed hrun hn => exact isSettled_ofNat_of_isSmall hrun hn
  | special hd =>
      have hall : (['ς', 'σ', 'i', '\u0307'].all fun d => decide (IsSettled d)) = true := by
        decide +kernel
      exact of_decide_eq_true (List.all_eq_true.mp hall d hd)

theorem lowercase_eq_self {cs : List Char} (hcs : ∀ c ∈ cs, IsSettled c) :
    lowercase cs = cs :=
  lowercaseAfter_eq_self hcs

/-- Lower case applied a second time changes nothing. -/
theorem lowercase_lowercase (cs : List Char) :
    lowercase (lowercase cs) = lowercase cs := by
  refine lowercase_eq_self fun d hd => ?_
  obtain ⟨c, -, hform⟩ := exists_of_mem_lowercase hd
  exact isSettled_of_isSmallForm (isSmallForm_of_mem hform)

theorem lowercase_eq_nil_iff {cs : List Char} : lowercase cs = [] ↔ cs = [] := by
  cases cs with
  | nil => exact iff_of_true rfl rfl
  | cons c rest =>
      refine iff_of_false ?_ (List.cons_ne_nil c rest)
      intro hnil
      rw [lowercase, lowercaseAfter, List.append_eq_nil_iff] at hnil
      obtain ⟨hsmall, -⟩ := hnil
      split at hsmall
      · cases hsmall
      · split at hsmall <;> cases hsmall

/-- A property that lower case keeps: the letters have it that lower case puts in. -/
theorem forall_mem_lowercase {P : Char → Prop} {cs : List Char} (hcs : ∀ c ∈ cs, P c)
    (hlower : ∀ c : Char, 0x61 ≤ c.toNat → c.toNat ≤ 0x7A → P c)
    (hspecial : ∀ c ∈ ['ς', 'σ', '\u0307'], P c)
    (hlisted : ∀ run ∈ capitalRuns, ∀ n, run.IsSmall n → 0x80 ≤ n → P (Char.ofNat n)) :
    ∀ c ∈ lowercase cs, P c := by
  intro d hd
  obtain ⟨c, hc, hform⟩ := exists_of_mem_lowercase hd
  cases isSmallForm_of_mem hform with
  | self => exact hcs d hc
  | ascii hupper =>
      have hrange : ∀ n < 0x80, (Char.ofNat n).isUpper = true →
          0x61 ≤ (Char.ofNat n).toLower.toNat ∧ (Char.ofNat n).toLower.toNat ≤ 0x7A := by
        decide
      have hrange' := hrange c.toNat (lt_of_isUpper hupper)
      rw [Char.ofNat_toNat] at hrange'
      exact hlower _ (hrange' hupper).1 (hrange' hupper).2
  | @listed run n hrun hn =>
      by_cases hascii : 0x80 ≤ n
      · exact hlisted run hrun n hn hascii
      · have hplace := isInPlace_of_mem hrun
        simp only [CaseRun.isInPlace, Bool.and_eq_true, Bool.or_eq_true,
          decide_eq_true_eq] at hplace
        obtain ⟨hlow, hhigh, -⟩ := id hn
        refine hlower _ ?_ ?_ <;> rw [toNat_ofNat_of_isSmall hrun hn] <;> omega
  | special hd =>
      simp only [List.mem_cons, List.not_mem_nil, or_false] at hd hspecial
      rcases hd with rfl | rfl | rfl | rfl
      · exact hspecial _ (.inl rfl)
      · exact hspecial _ (.inr (.inl rfl))
      · exact hlower 'i' (by decide) (by decide)
      · exact hspecial _ (.inr (.inr rfl))

/-! ## Letters that only ASCII is written with -/

/-- A small letter of ASCII that stands for itself and for its capital alone.  The letters
i and k are left out: two capitals outside ASCII become these. -/
def IsPlainSmall (c : Char) : Prop :=
  c.isLower = true ∧ c ≠ 'i' ∧ c ≠ 'k'

instance (c : Char) : Decidable (IsPlainSmall c) :=
  inferInstanceAs (Decidable (_ ∧ _))

theorem lt_of_isPlainSmall {c : Char} (hc : IsPlainSmall c) : c.toNat < 0x80 := by
  apply lt_of_isAlphanum
  delta Char.isAlphanum Char.isAlpha
  rw [hc.1, Bool.or_true, Bool.true_or]

theorem toLower_of_le {c : Char} (hc : 0x80 ≤ c.toNat) : c.toLower = c := by
  delta Char.toLower
  split
  case isTrue hupper =>
    have hle : c.toNat ≤ 90 := hupper.2
    omega
  case isFalse => rfl

/-- The only small letter of ASCII that a capital outside ASCII has is k. -/
theorem eq_of_isSmall_of_lt {run : CaseRun} {n : Nat} (hrun : run ∈ capitalRuns)
    (hsmall : run.IsSmall n) (hn : n < 0x80) :
    n = 0x6B := by
  have hall : (capitalRuns.all fun run =>
      !Nat.ble run.lowest 0x7F || run.lowest == 0x6B && run.highest == 0x6B) = true := by
    decide +kernel
  obtain ⟨hlow, hhigh, -⟩ := hsmall
  have hplace := List.all_eq_true.mp hall run hrun
  rw [Nat.ble_eq_true_of_le (Nat.le_trans hlow (Nat.le_of_lt_succ hn))] at hplace
  simp only [Bool.not_true, Bool.false_or, Bool.and_eq_true, beq_iff_eq] at hplace
  omega

theorem smallLetter_eq_iff_of_isPlainSmall {d : Char} (hd : IsPlainSmall d) (c : Char) :
    smallLetter c = d ↔ c.toLower = d := by
  by_cases hascii : c.toNat < 0x80
  · rw [smallLetter, if_pos hascii]
  · have hlt := lt_of_isPlainSmall hd
    have hne : c ≠ d := by
      rintro rfl
      exact hascii hlt
    rw [toLower_of_le (Nat.not_lt.mp hascii), smallLetter, if_neg hascii]
    refine iff_of_false ?_ hne
    split
    case h_1 run hfind =>
      obtain ⟨hrun, hcapital⟩ := isCapital_of_find? hfind
      have hsmall := isSmall_of_isCapital hrun hcapital
      have hcode := toNat_ofNat_of_isSmall hrun hsmall
      intro heq
      rw [heq] at hcode
      have hk := eq_of_isSmall_of_lt hrun hsmall (hcode ▸ hlt)
      rw [hk] at heq
      exact hd.2.2 heq.symm
    case h_2 => exact hne

/-- A word of such letters is met in any mixture of small letters and capitals, and nowhere
else. -/
theorem lowercase_eq_iff {word : List Char} (hword : ∀ d ∈ word, IsPlainSmall d)
    (cs : List Char) :
    lowercase cs = word ↔ cs.map Char.toLower = word := by
  have hafter : ∀ before, lowercaseAfter before cs = word ↔ cs.map Char.toLower = word := by
    induction cs generalizing word with
    | nil => exact fun before => Iff.rfl
    | cons c rest ih =>
        intro before
        rw [lowercaseAfter, List.map_cons]
        by_cases hsigma : c = 'Σ'
        · rw [if_pos hsigma, hsigma]
          refine iff_of_false ?_ ?_
          · rintro rfl
            have hhead := hword _ List.mem_cons_self
            split at hhead <;> exact absurd hhead (by decide)
          · rintro rfl
            exact absurd (hword _ List.mem_cons_self) (by decide)
        · by_cases hdot : c = 'İ'
          · rw [if_neg hsigma, if_pos hdot, hdot]
            refine iff_of_false ?_ ?_ <;>
              · rintro rfl
                exact absurd (hword _ List.mem_cons_self) (by decide)
          · rw [if_neg hsigma, if_neg hdot, List.singleton_append]
            cases word with
            | nil => simp
            | cons d word =>
                rw [List.forall_mem_cons] at hword
                rw [List.cons.injEq, List.cons.injEq, ih hword.2,
                  smallLetter_eq_iff_of_isPlainSmall hword.1]
  exact hafter []

/-! ## Printable characters -/

/-- No blank behind ASCII is printable. -/
theorem isPrintable_eq_false_of_isBlank {c : Char} (hblank : isBlank c = true)
    (hascii : 0x80 ≤ c.toNat) :
    isPrintable c = false := by
  have hspaces : ∀ n < 11, memberOf printableChanges (0x2000 + n) = false := by
    decide +kernel
  have hothers : ∀ n ∈ [0x85, 0xA0, 0x1680, 0x2028, 0x2029, 0x202F, 0x205F, 0x3000],
      memberOf printableChanges n = false := by
    decide +kernel
  rw [isPrintable, if_neg (by omega)]
  simp only [isBlank, Bool.or_eq_true, Bool.and_eq_true, decide_eq_true_eq, beq_iff_eq] at hblank
  by_cases hspace : 0x2000 ≤ c.toNat ∧ c.toNat ≤ 0x200A
  · have hspace' := hspaces (c.toNat - 0x2000) (by omega)
    rwa [Nat.add_sub_cancel' hspace.1] at hspace'
  · refine hothers c.toNat ?_
    simp only [List.mem_cons, List.not_mem_nil, or_false]
    omega

theorem isPrintable_ofNat_of_isSmall {run : CaseRun} {n : Nat} (hrun : run ∈ capitalRuns)
    (hsmall : run.IsSmall n) (hascii : 0x80 ≤ n) :
    isPrintable (Char.ofNat n) = true := by
  rw [isPrintable, toNat_ofNat_of_isSmall hrun hsmall, if_neg (by omega)]
  obtain ⟨hlow, hhigh, -⟩ := hsmall
  have hmember :=
    memberOf_of_holdsBetween (holdsBetween_printableChanges_of_mem hrun) hlow hhigh
  rwa [Bool.false_xor] at hmember

end NameRouting.Text
