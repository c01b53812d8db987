import NameRouting.Uri.Parts
import NameRouting.Proofs.Log.Outcome

/-!
# Dividing addresses

Every text can be divided into parts.  Whether it is depends on the authority alone: its
brackets are checked, and so are characters that hide a delimiter.
-/

namespace NameRouting.Uri

/-- The characters of a text that count when it is divided. -/
def readable (cs : List Char) : List Char :=
  (cs.dropWhile fun c => c.toNat ≤ 0x20).filter fun c => c ≠ '\t' && c ≠ '\r' && c ≠ '\n'

/-- The parts of a text, with nothing checked. -/
def divided (cs : List Char) : Parts :=
  let afterScheme := takeScheme (readable cs)
  let afterAuthority := takeAuthority afterScheme.2
  let fragment := Text.cutAt '#' afterAuthority.2
  let query := Text.cutAt '?' fragment.1
  ⟨afterScheme.1, afterAuthority.1, query.1, query.2.getD [], fragment.2.getD []⟩

/-- A character that counts wherever it stands, since it is no tab and no line end. -/
def IsKept (c : Char) : Prop :=
  c ≠ '\t' ∧ c ≠ '\r' ∧ c ≠ '\n'

instance (c : Char) : Decidable (IsKept c) :=
  inferInstanceAs (Decidable (_ ∧ _))

theorem isKept_of_lt {c : Char} (hc : 0x20 < c.toNat) : IsKept c := by
  refine ⟨?_, ?_, ?_⟩ <;> (rintro rfl; exact absurd hc (by decide))

theorem filter_isKept (c : Char) :
    (c ≠ '\t' && c ≠ '\r' && c ≠ '\n') = decide (IsKept c) := by
  rw [Bool.eq_iff_iff, decide_eq_true_iff, IsKept]
  simp [and_assoc]

/-- Nothing of a text is passed over that starts with a visible character and holds neither
tabs nor line ends. -/
theorem readable_eq_self {cs : List Char} (hhead : ∀ c ∈ cs.head?, 0x20 < c.toNat)
    (hkept : ∀ c ∈ cs, IsKept c) :
    readable cs = cs := by
  have hdrop : cs.dropWhile (fun c => decide (c.toNat ≤ 0x20)) = cs := by
    cases cs with
    | nil => rfl
    | cons c rest =>
        have hc : ¬ c.toNat ≤ 0x20 := Nat.not_le.mpr (hhead c rfl)
        rw [List.dropWhile_cons_of_neg (by simpa using hc)]
  rw [readable, hdrop, List.filter_eq_self]
  intro c hc
  rw [filter_isKept]
  exact decide_eq_true (hkept c hc)

theorem readable_of_visible {cs : List Char} (hcs : ∀ c ∈ cs, 0x20 < c.toNat) :
    readable cs = cs := by
  apply readable_eq_self
  · intro c hc
    exact hcs c (List.mem_of_head? hc)
  · intro c hc
    exact isKept_of_lt (hcs c hc)

theorem isKept_of_mem_readable {cs : List Char} {c : Char} (hc : c ∈ readable cs) :
    IsKept c := by
  have hfilter := (List.mem_filter.mp hc).2
  rw [filter_isKept] at hfilter
  exact of_decide_eq_true hfilter

theorem lt_of_mem_head?_readable {cs : List Char} {c : Char} (hc : c ∈ (readable cs).head?) :
    0x20 < c.toNat := by
  rw [readable] at hc
  cases hdrop : cs.dropWhile fun c => decide (c.toNat ≤ 0x20) with
  | nil =>
      rw [hdrop] at hc
      cases hc
  | cons d rest =>
      have hhead := List.head?_dropWhile_not (fun c => decide (c.toNat ≤ 0x20)) cs
      rw [hdrop] at hhead hc
      have hd : 0x20 < d.toNat := by
        simpa using hhead
      have hkept : decide (IsKept d) = true := decide_eq_true (isKept_of_lt hd)
      rw [List.filter_cons_of_pos (by rw [filter_isKept, hkept])] at hc
      obtain rfl := Option.some.inj hc
      exact hd

theorem readable_readable (cs : List Char) : readable (readable cs) = readable cs :=
  readable_eq_self (fun _ hc => lt_of_mem_head?_readable hc) fun _ hc => isKept_of_mem_readable hc

theorem divided_readable (cs : List Char) : divided (readable cs) = divided cs := by
  rw [divided, readable_readable]
  rfl

theorem split_eq_ok_iff {cs : List Char} {parts : Parts} :
    split cs = .ok parts ↔ divided cs = parts ∧ checkBrackets parts.authority = .ok () ∧
      ∀ c ∈ parts.authority, hidesDelimiter c = false := by
  have hsplit : split cs = checkBrackets (divided cs).authority >>= fun _ =>
      if (divided cs).authority.any hidesDelimiter = true then
        .error (.compatibilityForm (String.ofList (divided cs).authority))
      else .ok (divided cs) := rfl
  have hany : (divided cs).authority.any hidesDelimiter = true ↔
      ¬ ∀ c ∈ (divided cs).authority, hidesDelimiter c = false := by
    simp
  rw [hsplit, Outcome.bind_eq_ok_iff]
  constructor
  · rintro ⟨_, hcheck, hparts⟩
    split at hparts
    case isTrue => cases hparts
    case isFalse hhidden =>
      cases hparts
      exact ⟨rfl, hcheck, not_not.mp (mt hany.mpr hhidden)⟩
  · rintro ⟨rfl, hcheck, hhidden⟩
    exact ⟨(), hcheck, if_neg fun hhides => hany.mp hhides hhidden⟩

theorem divided_of_split {cs : List Char} {parts : Parts} (hsplit : split cs = .ok parts) :
    divided cs = parts :=
  (split_eq_ok_iff.mp hsplit).1

end NameRouting.Uri
