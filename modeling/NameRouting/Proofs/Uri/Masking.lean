import NameRouting.Proofs.Uri.Host
import NameRouting.Proofs.Uri.Reference

/-!
# Masked passwords

A text with a masked password is put together from the parts of the text that was given: the
user name, three asterisks, the host in small letters and the number of the port.  It has the
same parts again, but for the authority, and its password is the mask.  Nothing is masked
when the port of the text cannot be read.
-/

namespace NameRouting.Uri

/-! ## Schemes in small letters -/

theorem lt_of_isSchemeChar {c : Char} (hc : isSchemeChar c = true) : c.toNat < 0x80 := by
  simp only [isSchemeChar, Bool.or_eq_true, beq_iff_eq] at hc
  rcases hc with ((halphanum | rfl) | rfl) | rfl
  · exact Text.lt_of_isAlphanum halphanum
  · decide
  · decide
  · decide

/-- A character of a scheme is visible, and so is its small letter, which is its own small
letter and a character of a scheme. -/
theorem isSchemeChar_toLower {c : Char} (hc : isSchemeChar c = true) :
    0x20 < c.toNat ∧ isSchemeChar c.toLower = true ∧ c.toLower.toLower = c.toLower := by
  have hascii : ∀ n < 0x80, isSchemeChar (Char.ofNat n) = true →
      0x20 < n ∧ isSchemeChar (Char.ofNat n).toLower = true ∧
        (Char.ofNat n).toLower.toLower = (Char.ofNat n).toLower := by
    decide
  have hcode := hascii c.toNat (lt_of_isSchemeChar hc)
  rw [Char.ofNat_toNat] at hcode
  exact hcode hc

theorem isAlpha_toLower {c : Char} (hc : c.isAlpha = true) : c.toLower.isAlpha = true := by
  have hascii : ∀ n < 0x80, (Char.ofNat n).isAlpha = true →
      (Char.ofNat n).toLower.isAlpha = true := by
    decide
  have hcode := hascii c.toNat (Text.lt_of_isAlphanum (by rw [Char.isAlphanum, hc, Bool.true_or]))
  rw [Char.ofNat_toNat] at hcode
  exact hcode hc

theorem isScheme_map_toLower {scheme : List Char} (hscheme : isScheme scheme = true) :
    isScheme (scheme.map Char.toLower) = true := by
  cases scheme with
  | nil => exact hscheme
  | cons c rest =>
      simp only [isScheme, Bool.and_eq_true, List.all_eq_true] at hscheme
      simp only [List.map_cons, isScheme, Bool.and_eq_true, List.all_eq_true, List.mem_map]
      refine ⟨isAlpha_toLower hscheme.1, ?_⟩
      rintro d ⟨c', hc', rfl⟩
      exact (isSchemeChar_toLower (hscheme.2 c' hc')).2.1

theorem isSchemeChar_of_mem {scheme : List Char} (hscheme : isScheme scheme = true) {c : Char}
    (hc : c ∈ scheme) :
    isSchemeChar c = true := by
  by_contra hne
  rw [Bool.not_eq_true] at hne
  exact not_mem_of_isScheme hscheme hne hc

/-! ## References put together -/

theorem Parts.unsplit_eq (parts : Parts)
    (hpath : parts.path = [] ∨ ∃ rest, parts.path = '/' :: rest) :
    parts.unsplit =
      (if parts.scheme.isEmpty then [] else parts.scheme ++ [':']) ++
        ('/' :: '/' :: parts.authority ++ (parts.path ++
          ((if parts.query.isEmpty then [] else '?' :: parts.query) ++
            (if parts.fragment.isEmpty then [] else '#' :: parts.fragment)))) := by
  rw [unsplit]
  rcases hpath with hpath | ⟨rest, hpath⟩
  · rw [hpath]
    simp
  · rw [hpath]
    simp

namespace Reference

/-- A part that is not empty. -/
def shownPart (part : Option (List Char)) : Option (List Char) :=
  part.filter (!·.isEmpty)

theorem getD_shownPart (part : Option (List Char)) : (shownPart part).getD [] = part.getD [] := by
  rcases part with _ | _ | ⟨c, rest⟩ <;> rfl

theorem elim_shownPart (part : Option (List Char)) (c : Char) :
    (shownPart part).elim [] (c :: ·) =
      if (part.getD []).isEmpty then [] else c :: part.getD [] := by
  rcases part with _ | _ | ⟨d, rest⟩ <;> rfl

theorem elim_shownPart_sublist (part : Option (List Char)) (c : Char) :
    List.Sublist ((shownPart part).elim [] (c :: ·)) (part.elim [] (c :: ·)) := by
  rcases part with _ | _ | ⟨d, rest⟩
  · exact List.Sublist.refl _
  · exact List.nil_sublist _
  · exact List.Sublist.refl _

/-- A reference with another authority, put together from its parts: the scheme is in small
letters, and an empty query or fragment is left out. -/
def rebuilt (reference : Reference) (authority : List Char)
    (hauthority : ∀ c ∈ authority, endsAuthority c = false)
    (hpath : reference.path = [] ∨ ∃ rest, reference.path = '/' :: rest) : Reference where
  scheme := reference.scheme.map (·.map Char.toLower)
  authority := some authority
  path := reference.path
  query := shownPart reference.query
  fragment := shownPart reference.fragment
  isScheme := by
    intro scheme hscheme
    obtain ⟨written, hwritten, rfl⟩ := Option.map_eq_some_iff.mp hscheme
    exact isScheme_map_toLower (reference.isScheme written hwritten)
  authority_free := by
    intro a ha
    obtain rfl := Option.some.inj ha
    exact hauthority
  path_free := reference.path_free
  query_free := fun q hq => reference.query_free q (Option.mem_filter_iff.mp hq).1
  path_slash := fun _ => hpath
  path_bare := nofun
  path_colon := nofun

section Rebuilt

variable {reference : Reference} {authority : List Char}
  (hauthority : ∀ c ∈ authority, endsAuthority c = false)
  (hpath : reference.path = [] ∨ ∃ rest, reference.path = '/' :: rest)

theorem parts_rebuilt :
    (reference.rebuilt authority hauthority hpath).parts =
      { reference.parts with authority := authority } := by
  have hscheme : ((reference.scheme.map (·.map Char.toLower)).getD []).map Char.toLower =
      (reference.scheme.getD []).map Char.toLower := by
    cases hwritten : reference.scheme with
    | none => rfl
    | some scheme =>
        have hcorrect := reference.isScheme scheme hwritten
        rw [Option.map_some, Option.getD_some, Option.getD_some, List.map_map]
        apply List.map_congr_left
        intro c hc
        exact (isSchemeChar_toLower (isSchemeChar_of_mem hcorrect hc)).2.2
  rw [parts, parts, Parts.mk.injEq]
  exact ⟨hscheme, rfl, rfl, getD_shownPart _, getD_shownPart _⟩

theorem text_rebuilt :
    (reference.rebuilt authority hauthority hpath).text =
      { reference.parts with authority := authority }.unsplit := by
  have hscheme : (reference.scheme.map (·.map Char.toLower)).elim [] (· ++ [':']) =
      if ((reference.scheme.getD []).map Char.toLower).isEmpty then []
      else (reference.scheme.getD []).map Char.toLower ++ [':'] := by
    cases hscheme : reference.scheme with
    | none => rfl
    | some scheme =>
        have hne : scheme ≠ [] := by
          rintro rfl
          exact absurd (reference.isScheme [] hscheme) (by decide)
        simp [hne]
  have hunsplit := Parts.unsplit_eq { reference.parts with authority := authority } hpath
  rw [hunsplit, text, tail]
  dsimp only [rebuilt, parts]
  rw [hscheme, elim_shownPart, elim_shownPart]
  rfl

theorem tail_rebuilt_sublist :
    List.Sublist (reference.rebuilt authority hauthority hpath).tail reference.tail := by
  apply List.Sublist.append_left
  apply List.Sublist.append
  · exact elim_shownPart_sublist reference.query '?'
  · exact elim_shownPart_sublist reference.fragment '#'

theorem authority_subset_text : reference.parts.authority ⊆ reference.text := by
  intro c hc
  cases hwritten : reference.authority with
  | none =>
      rw [parts, hwritten] at hc
      cases hc
  | some authority =>
      rw [parts, hwritten] at hc
      rw [text, hwritten]
      exact List.mem_append_right _ (List.mem_append_left _
        (List.mem_cons_of_mem _ (List.mem_cons_of_mem _ hc)))

theorem endsAuthority_authority (reference : Reference) :
    ∀ c ∈ reference.parts.authority, endsAuthority c = false := by
  intro c hc
  cases hwritten : reference.authority with
  | none =>
      rw [parts, hwritten] at hc
      cases hc
  | some authority =>
      rw [parts, hwritten] at hc
      exact reference.authority_free authority hwritten c hc

theorem forall_mem_text_rebuilt {P : Char → Prop} (htext : ∀ c ∈ reference.text, P c)
    (hscheme : ∀ c, isSchemeChar c = true → P c) (hcolon : P ':') (hslash : P '/')
    (hcs : ∀ c ∈ authority, P c) :
    ∀ c ∈ (reference.rebuilt authority hauthority hpath).text, P c := by
  intro c hc
  have hcorrect := (reference.rebuilt authority hauthority hpath).isScheme
  rw [text, List.mem_append, List.mem_append] at hc
  rcases hc with hc | hc | hc
  · cases hwritten : (reference.rebuilt authority hauthority hpath).scheme with
    | none =>
        rw [hwritten] at hc
        cases hc
    | some scheme =>
        rw [hwritten, Option.elim_some, List.mem_append, List.mem_singleton] at hc
        rcases hc with hc | rfl
        · exact hscheme c (isSchemeChar_of_mem (hcorrect scheme hwritten) hc)
        · exact hcolon
  · change c ∈ '/' :: '/' :: authority at hc
    rw [List.mem_cons, List.mem_cons] at hc
    rcases hc with rfl | rfl | hc
    · exact hslash
    · exact hslash
    · exact hcs c hc
  · have hmem := (tail_rebuilt_sublist hauthority hpath).subset hc
    exact htext c (List.mem_append_right _ (List.mem_append_right _ hmem))

theorem lt_of_mem_head?_text (hne : reference.authority ≠ none) {c : Char}
    (hc : c ∈ reference.text.head?) :
    0x20 < c.toNat := by
  rw [text] at hc
  cases hscheme : reference.scheme with
  | none =>
      obtain ⟨authority, hwritten⟩ := Option.ne_none_iff_exists'.mp hne
      rw [hscheme, hwritten] at hc
      obtain rfl := Option.some.inj hc
      decide
  | some scheme =>
      have hcorrect := reference.isScheme scheme hscheme
      obtain ⟨first, rest, rfl⟩ := List.exists_cons_of_ne_nil (l := scheme) (by
        rintro rfl
        cases hcorrect)
      rw [hscheme] at hc
      obtain rfl := Option.some.inj hc
      exact (isSchemeChar_toLower (isSchemeChar_of_mem hcorrect List.mem_cons_self)).1

include hauthority hpath in
/-- The parts of a reference are found again when it is put together from them with another
authority. -/
theorem divided_unsplit (htext : ∀ c ∈ reference.text, IsKept c)
    (hcs : ∀ c ∈ authority, IsKept c) :
    divided { reference.parts with authority := authority }.unsplit =
      { reference.parts with authority := authority } := by
  have hscheme : ∀ c : Char, isSchemeChar c = true → IsKept c := by
    intro c hc
    exact isKept_of_lt (isSchemeChar_toLower hc).1
  have hkept := forall_mem_text_rebuilt hauthority hpath htext hscheme (by decide) (by decide) hcs
  have hhead : ∀ c ∈ (reference.rebuilt authority hauthority hpath).text.head?,
      0x20 < c.toNat := by
    intro c hc
    exact lt_of_mem_head?_text (Option.some_ne_none authority) hc
  have hreadable := readable_eq_self hhead hkept
  have hdivided := (reference.rebuilt authority hauthority hpath).divided_text hreadable
  rwa [text_rebuilt, parts_rebuilt] at hdivided

end Rebuilt

end Reference

/-! ## Masked authorities -/

/-- What stands in the place of a password. -/
def mask : List Char := ['*', '*', '*']

/-- A host in small letters as it is shown: one with a colon gets brackets. -/
def shownHost (host : List Char) : List Char :=
  if host.contains ':' then '[' :: (host ++ [']']) else host

namespace Parts

variable (parts : Parts) (port : Option Nat)

/-- The host and the number of the port as they are shown next to a mask. -/
def shownPlace : List Char :=
  shownHost (parts.host?.getD []) ++ port.elim [] fun n => ':' :: (toString n).toList

/-- The authority with the mask in the place of the password. -/
def maskedAuthority : List Char :=
  (parts.userName ++ ':' :: mask) ++ '@' :: parts.shownPlace port

theorem getD_host? : parts.host?.getD [] = hostName (hostAndPort parts.authority).1 := by
  rw [host?_eq]
  by_cases hhost : (hostAndPort parts.authority).1 = []
  · rw [if_pos hhost, hhost]
    rfl
  · rw [if_neg hhost]
    rfl

/-- A property of the characters of a place: the host has it, and so have brackets, colons
and digits. -/
theorem forall_mem_shownPlace {P : Char → Prop}
    (hhost : ∀ c ∈ hostName (hostAndPort parts.authority).1, P c)
    (hsigns : ∀ c ∈ ['[', ']', ':'], P c) (hdigits : ∀ c : Char, c.isDigit = true → P c) :
    ∀ c ∈ parts.shownPlace port, P c := by
  intro c hc
  rw [shownPlace, getD_host?, List.mem_append] at hc
  rcases hc with hc | hc
  · rw [shownHost] at hc
    split at hc
    · rw [List.mem_cons, List.mem_append, List.mem_singleton] at hc
      rcases hc with rfl | hc | rfl
      · exact hsigns _ (by decide)
      · exact hhost c hc
      · exact hsigns _ (by decide)
    · exact hhost c hc
  · cases port with
    | none => cases hc
    | some n =>
        rw [Option.elim_some, List.mem_cons] at hc
        rcases hc with rfl | hc
        · exact hsigns _ (by decide)
        · exact hdigits c (Text.isDigit_of_mem_toString hc)

theorem userName_subset : parts.userName ⊆ parts.authority := by
  intro c hc
  rw [userName] at hc
  rcases Text.cutAtLast_cases '@' parts.authority with ⟨-, hcut⟩ | ⟨info, place, hsplit, -, hcut⟩
  · rw [userInfo?, hcut] at hc
    cases hc
  · rw [userInfo?, hcut] at hc
    rw [hsplit]
    exact List.mem_append_left _ ((Text.fst_cutAt_prefix ':' info).subset hc)

/-- The user information is the user name and the password. -/
theorem userInfo?_of_password? {secret : List Char} (hpassword : parts.password? = some secret) :
    parts.userInfo? = some (parts.userName ++ ':' :: secret) := by
  rw [password?] at hpassword
  obtain ⟨info, hinfo, hsecret⟩ := Option.bind_eq_some_iff.mp hpassword
  have hcut : Text.cutAt ':' info = (parts.userName, some secret) := by
    rw [userName, hinfo, ← hsecret]
  rw [hinfo, (Text.cutAt_eq_some_iff.mp hcut).2]

theorem not_mem_userName : ':' ∉ parts.userName := by
  rw [userName]
  cases parts.userInfo? with
  | none => exact List.not_mem_nil
  | some info => exact Text.not_mem_fst_cutAt ':' info

theorem forall_mem_maskedAuthority {P : Char → Prop} (hauthority : ∀ c ∈ parts.authority, P c)
    (hhost : ∀ c ∈ hostName (hostAndPort parts.authority).1, P c)
    (hsigns : ∀ c ∈ ['[', ']', ':', '*', '@'], P c)
    (hdigits : ∀ c : Char, c.isDigit = true → P c) :
    ∀ c ∈ parts.maskedAuthority port, P c := by
  have hplace := forall_mem_shownPlace parts port hhost
    (fun c hc => hsigns c (List.mem_append_left ['*', '@'] hc)) hdigits
  have hmask : ∀ c ∈ ':' :: mask, P c := by
    intro c hc
    refine hsigns c ?_
    simp only [mask, List.mem_cons, List.not_mem_nil, or_false] at hc ⊢
    tauto
  have huser : ∀ c ∈ parts.userName, P c := by
    intro c hc
    exact hauthority c (parts.userName_subset hc)
  rw [maskedAuthority, List.forall_mem_append, List.forall_mem_append]
  exact ⟨⟨huser, hmask⟩, List.forall_mem_cons.mpr ⟨hsigns '@' (by decide), hplace⟩⟩

theorem fst_hostAndPort_subset_authority : (hostAndPort parts.authority).1 ⊆ parts.authority :=
  fun _ hc => (Text.cutAtLast_suffix '@' _).subset (fst_hostAndPort_subset _ hc)

theorem not_mem_shownPlace : '@' ∉ parts.shownPlace port := by
  have hhost : '@' ∉ hostName (hostAndPort parts.authority).1 := by
    rw [mem_hostName_iff (by decide)]
    intro hmem
    exact Text.not_mem_cutAtLast '@' _ (fst_hostAndPort_subset _ hmem)
  have hsigns : ∀ c ∈ ['[', ']', ':'], c ≠ '@' := by
    simp
  have hdigits : ∀ c : Char, c.isDigit = true → c ≠ '@' := by
    rintro c hc rfl
    exact absurd hc (by decide)
  have hne := parts.forall_mem_shownPlace port (fun c hc => ne_of_mem_of_not_mem hc hhost)
    hsigns hdigits
  exact fun hmem => hne '@' hmem rfl

theorem cutAtLast_maskedAuthority :
    Text.cutAtLast '@' (parts.maskedAuthority port) =
      (some (parts.userName ++ ':' :: mask), parts.shownPlace port) :=
  Text.cutAtLast_append (parts.not_mem_shownPlace port) _

/-- The password of a masked authority is the mask. -/
theorem password?_masked :
    { parts with authority := parts.maskedAuthority port }.password? = some mask := by
  rw [password?, userInfo?, cutAtLast_maskedAuthority]
  exact congrArg Prod.snd (Text.cutAt_append parts.not_mem_userName mask)

theorem userName_masked :
    { parts with authority := parts.maskedAuthority port }.userName = parts.userName := by
  rw [userName, userInfo?, cutAtLast_maskedAuthority]
  exact congrArg Prod.fst (Text.cutAt_append parts.not_mem_userName mask)

/-- A masked authority is its own masked authority, as long as the host stays the same. -/
theorem maskedAuthority_masked
    (hhost : { parts with authority := parts.maskedAuthority port }.host? = parts.host?) :
    { parts with authority := parts.maskedAuthority port }.maskedAuthority port =
      parts.maskedAuthority port := by
  rw [maskedAuthority, shownPlace, userName_masked, hhost]
  rfl

/-- A property that only signs can lack: the authority has it, and so have the signs that
come in. -/
theorem forall_mem_maskedAuthority_of_isSign {P : Char → Prop}
    (hauthority : ∀ c ∈ parts.authority, P c) (hsign : ∀ c, ¬ P c → Text.IsSign c)
    (hsigns : ∀ c ∈ ['[', ']', ':', '*', '@'], P c)
    (hdigits : ∀ c : Char, c.isDigit = true → P c) :
    ∀ c ∈ parts.maskedAuthority port, P c := by
  apply forall_mem_maskedAuthority parts port hauthority _ hsigns hdigits
  apply forall_mem_hostName_of_isSign _ hsign
  intro c hc
  exact hauthority c (parts.fst_hostAndPort_subset_authority hc)

theorem endsAuthority_maskedAuthority
    (hauthority : ∀ c ∈ parts.authority, endsAuthority c = false) :
    ∀ c ∈ parts.maskedAuthority port, endsAuthority c = false := by
  have hsign : ∀ c, ¬ endsAuthority c = false → Text.IsSign c := by
    intro c hends
    simp only [endsAuthority, Bool.not_eq_false, Bool.or_eq_true, beq_iff_eq] at hends
    rcases hends with (rfl | rfl) | rfl <;> decide
  apply forall_mem_maskedAuthority_of_isSign parts port hauthority hsign
  · simp [endsAuthority]
  · intro c hc
    exact endsAuthority_of_isDigit hc

theorem isKept_maskedAuthority (hauthority : ∀ c ∈ parts.authority, IsKept c) :
    ∀ c ∈ parts.maskedAuthority port, IsKept c := by
  have hsign : ∀ c, ¬ IsKept c → Text.IsSign c := by
    intro c hends
    simp only [IsKept, not_and_or, not_not] at hends
    rcases hends with rfl | rfl | rfl <;> decide
  apply forall_mem_maskedAuthority_of_isSign parts port hauthority hsign
  · simp [IsKept]
  · intro c hc
    refine ⟨?_, ?_, ?_⟩ <;> (rintro rfl; exact absurd hc (by decide))

end Parts

namespace Reference

variable (reference : Reference) (port : Option Nat) (hauthority : reference.authority ≠ none)

/-- A reference with the mask in the place of its password. -/
def masked : Reference :=
  reference.rebuilt (reference.parts.maskedAuthority port)
    (reference.parts.endsAuthority_maskedAuthority port reference.endsAuthority_authority)
    (reference.path_slash hauthority)

theorem parts_masked :
    (reference.masked port hauthority).parts =
      { reference.parts with authority := reference.parts.maskedAuthority port } :=
  parts_rebuilt _ _

theorem text_masked :
    (reference.masked port hauthority).text =
      { reference.parts with authority := reference.parts.maskedAuthority port }.unsplit :=
  text_rebuilt _ _

end Reference

/-! ## Masked texts -/

section Masked

variable {cs : List Char} {parts : Parts}

theorem masked_eq_self_of_port? (hsplit : split cs = .ok parts)
    (hport : ¬ ∃ port, parts.port? = .ok port) :
    masked cs = cs := by
  rw [masked, hsplit]
  dsimp only
  cases hread : parts.port? with
  | error fault => rfl
  | ok port => exact absurd ⟨port, hread⟩ hport

theorem masked_eq_self_of_password? (hsplit : split cs = .ok parts)
    (hpassword : parts.password? = none) :
    masked cs = cs := by
  rw [masked, hsplit]
  dsimp only
  rw [hpassword]
  cases parts.port? <;> rfl

theorem masked_eq_unsplit {port : Option Nat} {secret : List Char}
    (hsplit : split cs = .ok parts) (hport : parts.port? = .ok port)
    (hpassword : parts.password? = some secret) :
    masked cs = { parts with authority := parts.maskedAuthority port }.unsplit := by
  rw [masked, hsplit]
  dsimp only
  rw [hport, hpassword, Parts.maskedAuthority, Parts.shownPlace, shownHost, mask]
  simp

theorem authority_ne_of_password? {secret : List Char}
    (hpassword : parts.password? = some secret) :
    parts.authority ≠ [] := by
  intro hnone
  rw [Parts.password?, Parts.userInfo?, hnone] at hpassword
  cases hpassword

/-- A text with a masked password is divided into the same parts, but for the authority. -/
theorem divided_masked {port : Option Nat} {secret : List Char}
    (hsplit : split cs = .ok parts) (hport : parts.port? = .ok port)
    (hpassword : parts.password? = some secret) :
    divided (masked cs) = { parts with authority := parts.maskedAuthority port } := by
  have hdivided := divided_of_split hsplit
  have hne := authority_ne_of_password? hpassword
  rw [← hdivided] at hne
  obtain ⟨reference, htext, hparts, hauthority⟩ := exists_reference_of_authority hne
  rw [hdivided] at hparts
  have hkept : ∀ c ∈ reference.text, IsKept c := by
    intro c hc
    rw [htext] at hc
    exact isKept_of_mem_readable hc
  have hkept' : ∀ c ∈ parts.authority, IsKept c := by
    intro c hc
    rw [← hparts] at hc
    exact hkept c (Reference.authority_subset_text hc)
  rw [masked_eq_unsplit hsplit hport hpassword]
  have hfree := reference.endsAuthority_authority
  rw [hparts] at hfree
  have hrebuilt := Reference.divided_unsplit (parts.endsAuthority_maskedAuthority port hfree)
    (reference.path_slash hauthority) hkept (parts.isKept_maskedAuthority port hkept')
  rwa [hparts] at hrebuilt

/-- Parts that differ in nothing but the password. -/
structure Parts.DifferInPassword (parts other : Parts) : Prop where
  scheme_eq : parts.scheme = other.scheme
  userName_eq : parts.userName = other.userName
  host?_eq : parts.host? = other.host?
  port?_eq : parts.port? = other.port?
  path_eq : parts.path = other.path
  query_eq : parts.query = other.query
  fragment_eq : parts.fragment = other.fragment
  password?_ne : ∃ secret secret', parts.password? = some secret ∧
    other.password? = some secret' ∧ secret ≠ secret'

/-- The password of a text is hidden exactly when its port can be read: then the mask stands
in its place, and texts that differ in nothing else are shown alike. -/
theorem masked_hides_iff {secret : List Char} (hsplit : split cs = .ok parts)
    (hpassword : parts.password? = some secret) :
    ((divided (masked cs)).password? = some mask ↔
        (∃ port, parts.port? = .ok port) ∨ secret = mask) ∧
      ∀ cs' parts', split cs' = .ok parts' → parts.DifferInPassword parts' →
        (masked cs = masked cs' ↔ ∃ port, parts.port? = .ok port) := by
  constructor
  · by_cases hport : ∃ port, parts.port? = .ok port
    · obtain ⟨port, hport⟩ := hport
      rw [divided_masked hsplit hport hpassword]
      exact iff_of_true (parts.password?_masked port) (.inl ⟨port, hport⟩)
    · rw [masked_eq_self_of_port? hsplit hport, divided_of_split hsplit, hpassword,
        Option.some.injEq, or_iff_right hport]
  · intro cs' parts' hsplit' hdiffer
    obtain ⟨secret₁, secret₂, hpassword₁, hpassword₂, hne⟩ := hdiffer.password?_ne
    constructor
    · intro hmasked
      by_contra hport
      have hport' := hport
      rw [hdiffer.port?_eq] at hport'
      rw [masked_eq_self_of_port? hsplit hport, masked_eq_self_of_port? hsplit' hport'] at hmasked
      have hparts : parts = parts' := by
        rw [← divided_of_split hsplit, hmasked, divided_of_split hsplit']
      rw [← hparts, hpassword₁] at hpassword₂
      exact hne (Option.some.inj hpassword₂)
    · rintro ⟨port, hport⟩
      have hport' := hport
      rw [hdiffer.port?_eq] at hport'
      rw [masked_eq_unsplit hsplit hport hpassword₁, masked_eq_unsplit hsplit' hport' hpassword₂]
      have hauthority : parts.maskedAuthority port = parts'.maskedAuthority port := by
        rw [Parts.maskedAuthority, Parts.maskedAuthority, Parts.shownPlace, Parts.shownPlace,
          hdiffer.userName_eq, hdiffer.host?_eq]
      rw [hauthority, hdiffer.scheme_eq, hdiffer.path_eq, hdiffer.query_eq, hdiffer.fragment_eq]

/-- Two passwords in front of a host with a port that can be read. -/
theorem twoPasswords_hidden :
    (divided (masked "A://u:p@[::1]:080/x".toList)).password? = some mask ∧
      masked "A://u:p@[::1]:080/x".toList = masked "A://u:q@[::1]:080/x".toList := by
  have hsplit : split "A://u:p@[::1]:080/x".toList =
      .ok ⟨['a'], "u:p@[::1]:080".toList, ['/', 'x'], [], []⟩ := by
    decide +kernel
  have hsplit' : split "A://u:q@[::1]:080/x".toList =
      .ok ⟨['a'], "u:q@[::1]:080".toList, ['/', 'x'], [], []⟩ := by
    decide +kernel
  have hport : ∃ port, Parts.port? ⟨['a'], "u:p@[::1]:080".toList, ['/', 'x'], [], []⟩ =
      .ok port := by
    refine ⟨some 80, ?_⟩
    decide +kernel
  have hdiffer : Parts.DifferInPassword ⟨['a'], "u:p@[::1]:080".toList, ['/', 'x'], [], []⟩
      ⟨['a'], "u:q@[::1]:080".toList, ['/', 'x'], [], []⟩ := by
    refine ⟨rfl, ?_, ?_, ?_, rfl, rfl, rfl, ['p'], ['q'], ?_, ?_, ?_⟩ <;> decide +kernel
  obtain ⟨hmask, hothers⟩ := masked_hides_iff hsplit (show _ = some ['p'] by decide +kernel)
  exact ⟨hmask.mpr (.inl hport), (hothers _ _ hsplit' hdiffer).mpr hport⟩

/-- The password is shown when the port is no number. -/
theorem unreadablePort_shows_password :
    ∃ parts, split "a://u:secret@h:bad".toList = .ok parts ∧
      parts.password? = some "secret".toList ∧
      masked "a://u:secret@h:bad".toList = "a://u:secret@h:bad".toList ∧
      (divided (masked "a://u:secret@h:bad".toList)).password? ≠ some mask := by
  refine ⟨⟨['a'], "u:secret@h:bad".toList, [], [], []⟩, ?_, ?_, ?_, ?_⟩ <;> decide +kernel

end Masked

end NameRouting.Uri
