import Mathlib.Data.Nat.Digits.Defs
import NameRouting.Proofs.Uri.Masking
import NameRouting.Proofs.Uri.Site

/-!
# Sites with a masked password

When the password of an accepted authority is masked, the authority names a site again: with
the same host in small letters and the same port, both found in it as before.  A host with
a colon has its brackets back, and only such a host had brackets before.
-/

namespace NameRouting.Uri

theorem Reference.count_text (reference : Reference) {c : Char} (hscheme : isSchemeChar c = false)
    (hcolon : c ≠ ':') (hslash : c ≠ '/') :
    reference.text.count c = (reference.authority.getD []).count c + reference.tail.count c := by
  have hfront : (reference.scheme.elim [] (· ++ [':'])).count c = 0 := by
    rw [List.count_eq_zero]
    cases hwritten : reference.scheme with
    | none => exact List.not_mem_nil
    | some scheme =>
        have hcorrect := reference.isScheme scheme hwritten
        rw [Option.elim_some, List.mem_append, List.mem_singleton, not_or]
        exact ⟨not_mem_of_isScheme hcorrect hscheme, hcolon⟩
  have hauthority : (reference.authority.elim [] ('/' :: '/' :: ·)).count c =
      (reference.authority.getD []).count c := by
    cases reference.authority with
    | none => rfl
    | some authority =>
        rw [Option.elim_some, List.count_cons_of_ne hslash.symm, List.count_cons_of_ne hslash.symm]
        rfl
  rw [text, List.count_append, List.count_append, hfront, hauthority, Nat.zero_add]

namespace Site

variable (site : Site)

/-- The site that takes the place of another one when the password of a user is masked. -/
def masked (user : List Char) : Site where
  userInfo := some (user ++ ':' :: mask)
  form := if site.form = .plain then .plain else .bracketed
  host := hostName site.host
  port := site.number?.map fun n => (toString n).toList
  host_free := not_mem_hostName (by decide) site.host_free
  port_digits := by
    intro digits hdigits
    obtain ⟨n, -, rfl⟩ := Option.map_eq_some_iff.mp hdigits
    exact (Text.natural?_eq_some (Text.natural?_toString n)).2
  plain_free := by
    intro hform
    have hplain : site.form = .plain := by
      by_contra hne
      rw [if_neg hne] at hform
      cases hform
    obtain ⟨hcolon, hopen⟩ := site.plain_free hplain
    exact ⟨not_mem_hostName (by decide) hcolon, not_mem_hostName (by decide) hopen⟩
  bracket_free := by
    intro hform
    have hplain : site.form ≠ .plain := fun hplain => hform (if_pos hplain)
    exact not_mem_hostName (by decide) (site.bracket_free hplain)
  opened_port := by
    intro hform
    split at hform <;> cases hform

theorem form_masked_of_eq {user : List Char} (hform : site.form = .plain) :
    (site.masked user).form = .plain :=
  if_pos hform

theorem form_masked_of_ne {user : List Char} (hform : site.form ≠ .plain) :
    (site.masked user).form = .bracketed :=
  if_neg hform

theorem name?_masked (user : List Char) : (site.masked user).name? = site.name? := by
  have hempty : hostName site.host = [] ↔ site.host = [] := hostName_eq_nil_iff
  simp only [name?, masked, hempty, hostName_hostName]

theorem number?_masked (user : List Char) : (site.masked user).number? = site.number? := by
  rw [number?, masked]
  dsimp only
  cases site.number? with
  | none => rfl
  | some n => exact Text.natural?_toString n

theorem text_masked {parts : Parts} (hauthority : parts.authority = site.text)
    (hbrackets : site.HasFitBrackets) :
    (site.masked parts.userName).text = parts.maskedAuthority site.number? := by
  have hport : (site.number?.map fun n => (toString n).toList).elim [] (':' :: ·) =
      site.number?.elim [] fun n => ':' :: (toString n).toList := by
    cases site.number? <;> rfl
  have hhost : (if site.form = .plain then HostForm.plain else .bracketed).text
      (hostName site.host) = shownHost (hostName site.host) := by
    rw [shownHost]
    by_cases hform : site.form = .plain
    · have hcolon : ':' ∉ hostName site.host :=
        not_mem_hostName (by decide) (site.plain_free hform).1
      rw [if_pos hform, if_neg (by simpa using hcolon)]
      rfl
    · have hcolon := mem_of_isIpv6 (hbrackets.address hform).2
      rw [if_neg hform, if_pos (List.contains_iff_mem.mpr hcolon)]
      rfl
  rw [Parts.maskedAuthority, Parts.shownPlace, Parts.getD_host?, hauthority, hostAndPort_text,
    text, place]
  dsimp only [masked]
  rw [hport, hhost]
  simp

theorem hasPort_masked (user : List Char) (hport : site.HasPort) : (site.masked user).HasPort := by
  rw [HasPort, number?_masked]
  refine ⟨?_, hport.2⟩
  intro digits hdigits
  obtain ⟨n, hn, rfl⟩ := Option.map_eq_some_iff.mp hdigits
  have hrange : n ≤ 65535 := hport.2 n hn
  have hlength : (toString n).toList.length ≤ 5 := by
    rw [Nat.toString_eq_repr, Nat.toList_repr]
    exact Nat.toDigits_length 10 n 5 (by decide) (by omega)
  exact Nat.le_trans hlength (by decide)

theorem not_mem_text_masked {user : List Char} {c : Char} (hplain : site.form = .plain)
    (huser : user ⊆ site.text) (hbelow : c.toNat < 0x61) (hsigns : c ∉ ['@', ':', '*'])
    (hdigit : c.isDigit = false) (hc : c ∉ site.text) :
    c ∉ (site.masked user).text := by
  simp only [List.mem_cons, List.not_mem_nil, or_false, not_or] at hsigns
  obtain ⟨hat, hcolon, hstar⟩ := hsigns
  have hinfo : c ∉ user ++ ':' :: mask := by
    have hmask : c ∉ mask := by
      simpa [mask] using hstar
    rw [List.mem_append, List.mem_cons, not_or, not_or]
    exact ⟨fun hmem => hc (huser hmem), hcolon, hmask⟩
  have hhost : c ∉ (site.masked user).form.text (site.masked user).host := by
    rw [site.form_masked_of_eq hplain]
    exact not_mem_hostName hbelow fun hmem => hc (site.host_subset_text hmem)
  rw [← List.count_eq_zero, count_text _ hat hcolon hdigit, List.count_eq_zero.mpr hhost]
  exact List.count_eq_zero.mpr hinfo

theorem hasFitBrackets_masked {user : List Char} (huser : user ⊆ site.text)
    (hbrackets : site.HasFitBrackets) :
    (site.masked user).HasFitBrackets := by
  have hform (hne : (site.masked user).form ≠ .plain) : site.form ≠ .plain := fun hplain =>
    hne (site.form_masked_of_eq hplain)
  refine ⟨?_, ?_, ?_⟩
  · intro hmasked
    have hplain : site.form = .plain := by
      by_contra hne
      rw [site.form_masked_of_ne hne] at hmasked
      cases hmasked
    obtain ⟨hopen, hclose⟩ := hbrackets.plain hplain
    exact ⟨site.not_mem_text_masked hplain huser (by decide) (by decide) rfl hopen,
      site.not_mem_text_masked hplain huser (by decide) (by decide) rfl hclose⟩
  · intro hmasked
    rw [text, place, site.form_masked_of_ne (hform hmasked), HostForm.text]
    simp
  · intro hmasked
    have hsmall := (hbrackets.address (hform hmasked)).2
    refine ⟨hsmall, ?_⟩
    rwa [masked, hostName_hostName]

end Site

end NameRouting.Uri
