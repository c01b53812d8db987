import NameRouting.Proofs.Text.Lowercase
import NameRouting.Proofs.Text.Separators
import NameRouting.Proofs.Uri.Division
import Mathlib.Data.List.TakeDrop
import Mathlib.Data.List.TakeWhile

/-!
# The authority of an address

An authority reaches to the first slash, question mark or number sign.  Its host
begins behind the last at sign and ends before the port, and brackets around it are
left out.  A host and a port that avoid all these delimiters are found again in the
authority that they make up.
-/

namespace NameRouting

namespace Text

/-! ## Numbers as texts -/

theorem natural?_eq_some {cs : List Char} {n : Nat} (hcs : natural? cs = some n) :
    cs ≠ [] ∧ ∀ c ∈ cs, c.isDigit = true := by
  rw [natural?] at hcs
  split at hcs
  case isTrue hdigits =>
    rw [Bool.and_eq_true, List.all_eq_true] at hdigits
    exact ⟨by simpa using hdigits.1, hdigits.2⟩
  case isFalse => cases hcs

theorem exists_natural? {cs : List Char} (hne : cs ≠ [])
    (hdigits : ∀ c ∈ cs, c.isDigit = true) :
    ∃ n, natural? cs = some n := by
  rw [natural?, if_pos]
  · exact ⟨_, rfl⟩
  · rw [Bool.and_eq_true, List.all_eq_true]
    exact ⟨by simpa using hne, hdigits⟩

theorem natural?_toString (n : Nat) :
    natural? (toString n).toList = some n := by
  have hdigits : (toString n).toList = Nat.toDigits 10 n := by
    rw [Nat.toString_eq_repr, Nat.toList_repr]
  have hall : ∀ c ∈ Nat.toDigits 10 n, c.isDigit = true := fun c hc =>
    Nat.isDigit_of_mem_toDigits (by decide) (by decide) hc
  have hvalue : ofDigits ((Nat.toDigits 10 n).map fun c => c.toNat - 0x30) = n := by
    rw [ofDigits, List.foldl_map]
    exact Nat.ofDigitChars_toDigits (by decide) (by decide)
  rw [hdigits, natural?, hvalue, if_pos]
  rw [Bool.and_eq_true, List.all_eq_true]
  exact ⟨by simp [Nat.toDigits_ne_nil], hall⟩

theorem isDigit_of_mem_toString {n : Nat} {c : Char} (hc : c ∈ (toString n).toList) :
    c.isDigit = true :=
  (natural?_eq_some (natural?_toString n)).2 c hc

end Text

namespace Uri

/-! ## Where an authority ends -/

theorem takeScheme_append {scheme : List Char} (hscheme : isScheme scheme = true)
    (hfree : ':' ∉ scheme) (rest : List Char) :
    takeScheme (scheme ++ ':' :: rest) = (scheme.map Char.toLower, rest) := by
  rw [takeScheme, Text.cutAt_append hfree]
  exact if_pos hscheme

theorem takeAuthority_append {authority rest : List Char}
    (hauthority : ∀ c ∈ authority, endsAuthority c = false)
    (hrest : ∀ c ∈ rest.head?, endsAuthority c = true) :
    takeAuthority ('/' :: '/' :: (authority ++ rest)) = (authority, rest) := by
  have hall : ∀ c ∈ authority, (!endsAuthority c) = true := fun c hc => by
    simp [hauthority c hc]
  have hnone : rest.takeWhile (fun c => !endsAuthority c) = [] ∧
      rest.dropWhile (fun c => !endsAuthority c) = rest := by
    cases rest with
    | nil => exact ⟨rfl, rfl⟩
    | cons c more =>
        have hc := hrest c rfl
        exact ⟨List.takeWhile_cons_of_neg (by simp [hc]), List.dropWhile_cons_of_neg (by simp [hc])⟩
  rw [takeAuthority, List.span_eq_takeWhile_dropWhile, List.takeWhile_append_of_pos hall,
    List.dropWhile_append_of_pos hall, hnone.1, hnone.2, List.append_nil]

theorem takeAuthority_of_forall {authority : List Char}
    (hauthority : ∀ c ∈ authority, endsAuthority c = false) :
    takeAuthority ('/' :: '/' :: authority) = (authority, []) := by
  have hnil : ∀ c ∈ ([] : List Char).head?, endsAuthority c = true := by
    intro c hc
    cases hc
  have happend := takeAuthority_append hauthority hnil
  rwa [List.append_nil] at happend

theorem endsAuthority_of_isDigit {c : Char} (hc : c.isDigit = true) :
    endsAuthority c = false := by
  have hne : c ≠ '/' ∧ c ≠ '?' ∧ c ≠ '#' := by
    refine ⟨?_, ?_, ?_⟩ <;> (rintro rfl; exact absurd hc (by decide))
  simp [endsAuthority, hne]

theorem endsAuthority_of_mem_takeAuthority {cs : List Char} {c : Char}
    (hc : c ∈ (takeAuthority cs).1) :
    endsAuthority c = false := by
  rw [takeAuthority.eq_def] at hc
  split at hc
  · rw [List.span_eq_takeWhile_dropWhile] at hc
    simpa using List.mem_takeWhile_imp hc
  · cases hc

/-- A text of visible characters is divided as it stands. -/
theorem split_eq_ok {cs : List Char} {parts : Parts}
    (hcs : ∀ c ∈ cs, 0x20 < c.toNat) (hsplit : split cs = .ok parts) :
    ∃ rest, takeAuthority (takeScheme cs).2 = (parts.authority, rest) ∧
      checkBrackets parts.authority = .ok () ∧
      parts.path = (Text.cutAt '?' (Text.cutAt '#' rest).1).1 := by
  obtain ⟨rfl, hcheck, -⟩ := split_eq_ok_iff.mp hsplit
  rw [divided, readable_of_visible hcs] at hcheck ⊢
  exact ⟨_, rfl, hcheck, rfl⟩

/-! ## Hosts -/

/-- A host in lower case, up to a scope. -/
def hostName (host : List Char) : List Char :=
  match Text.cutAt '%' host with
  | (name, none) => Text.lowercase name
  | (name, some scope) => Text.lowercase name ++ '%' :: scope

theorem mem_hostName_iff {c : Char} (hc : Text.IsSign c) (host : List Char) :
    c ∈ hostName host ↔ c ∈ host := by
  rw [hostName]
  rcases hcut : Text.cutAt '%' host with ⟨name, _ | scope⟩
  · obtain ⟨rfl, -⟩ := Text.cutAt_eq_none_iff.mp hcut
    exact Text.mem_lowercase_iff hc name
  · obtain ⟨-, rfl⟩ := Text.cutAt_eq_some_iff.mp hcut
    rw [List.mem_append, List.mem_append, Text.mem_lowercase_iff hc]

theorem host?_eq (parts : Parts) :
    parts.host? =
      if (hostAndPort parts.authority).1 = [] then none
      else some (hostName (hostAndPort parts.authority).1) := by
  rw [Parts.host?]
  by_cases hhost : (hostAndPort parts.authority).1 = []
  · simp [hhost]
  · rw [if_neg (by simpa using hhost), if_neg hhost, hostName]
    rcases Text.cutAt '%' (hostAndPort parts.authority).1 with ⟨name, _ | scope⟩ <;> rfl

theorem fst_hostAndPort_subset (authority : List Char) :
    (hostAndPort authority).1 ⊆ (Text.cutAtLast '@' authority).2 := by
  rw [hostAndPort]
  rcases hcut : Text.cutAt '[' (Text.cutAtLast '@' authority).2 with ⟨before, _ | bracketed⟩
  · exact (Text.fst_cutAt_prefix ':' _).subset
  · rw [(Text.cutAt_eq_some_iff.mp hcut).2]
    intro c hc
    exact List.mem_append_right _ (List.mem_cons_of_mem _ ((Text.fst_cutAt_prefix ']' _).subset hc))

/-! ## Brackets -/

theorem mem_brackets_iff {authority : List Char}
    (hcheck : checkBrackets authority = .ok ()) :
    '[' ∈ authority ↔ ']' ∈ authority := by
  rw [checkBrackets] at hcheck
  by_cases hopen : '[' ∈ authority <;> by_cases hclose : ']' ∈ authority <;>
    simp_all

/-- A bracket in front of a host is accepted at its start, and what stands behind the
closing one is a port. -/
theorem exists_place_of_checkBrackets {authority : List Char}
    (hcheck : checkBrackets authority = .ok ())
    (hopen : '[' ∈ (Text.cutAtLast '@' authority).2) :
    ∃ (host : List Char) (after : Option (List Char)),
      (Text.cutAtLast '@' authority).2 = '[' :: (host ++ after.elim [] (']' :: ·)) ∧
        ']' ∉ host ∧ host ≠ [] ∧ (after.getD [] = [] ∨ ∃ port, after.getD [] = ':' :: port) := by
  have hmem : '[' ∈ authority := (Text.cutAtLast_suffix '@' authority).subset hopen
  have hclose := (mem_brackets_iff hcheck).mp hmem
  rw [checkBrackets, List.contains_iff_mem.mpr hmem, List.contains_iff_mem.mpr hclose] at hcheck
  dsimp only at hcheck
  rcases hcut : Text.cutAt '[' (Text.cutAtLast '@' authority).2 with ⟨before, _ | bracketed⟩
  · exact absurd hopen (Text.cutAt_eq_none_iff.mp hcut).2
  · have hplace := (Text.cutAt_eq_some_iff.mp hcut).2
    rw [hcut] at hcheck
    dsimp only at hcheck
    rcases hend : Text.cutAt ']' bracketed with ⟨host, after⟩
    rw [hend] at hcheck
    dsimp only at hcheck
    split at hcheck
    case isTrue => cases hcheck
    case isFalse hplaces =>
      have hends : before = [] ∧
          (after.getD [] = [] ∨ ∃ port, after.getD [] = ':' :: port) := by
        simpa [List.head?_eq_some_iff, Decidable.or_iff_not_imp_left] using hplaces
      obtain ⟨rfl, hport⟩ := hends
      have hhost : host ≠ [] := by
        rintro rfl
        cases hcheck
      obtain ⟨hfree, rfl⟩ := Text.eq_append_of_cutAt hend
      exact ⟨host, after, hplace, hfree, hhost, hport⟩

/-- Accepted brackets enclose a host in front of the port. -/
theorem exists_host_of_checkBrackets {authority : List Char} (hat : '@' ∉ authority)
    (hopen : '[' ∈ authority) (hcheck : checkBrackets authority = .ok ()) :
    ∃ host after, authority = '[' :: (host ++ ']' :: after) ∧ ']' ∉ host ∧ host ≠ [] ∧
      (after = [] ∨ ∃ port, after = ':' :: port) := by
  have hclose := (mem_brackets_iff hcheck).mp hopen
  have hplace := exists_place_of_checkBrackets hcheck
  rw [Text.cutAtLast_of_not_mem hat] at hplace
  obtain ⟨host, after, rfl, hfree, hhost, hport⟩ := hplace hopen
  cases after with
  | none => simp [hfree] at hclose
  | some after => exact ⟨host, after, rfl, hfree, hhost, hport⟩

/-- A host without the brackets around it. -/
def unbracketed (host : List Char) : List Char :=
  if host.head? = some '[' ∧ host.getLast? = some ']' then host.tail.dropLast else host

theorem unbracketed_of_brackets (host : List Char) :
    unbracketed ('[' :: (host ++ [']'])) = host := by
  rw [unbracketed, if_pos (by simp [List.getLast?_cons])]
  simp

theorem unbracketed_of_not_mem {host : List Char} (hhost : '[' ∉ host) :
    unbracketed host = host := by
  refine if_neg ?_
  rintro ⟨hhead, -⟩
  exact hhost (List.mem_of_head? hhead)

theorem unbracketed_cases (host : List Char) :
    host = '[' :: (unbracketed host ++ [']']) ∨ host = unbracketed host := by
  by_cases hends : host.head? = some '[' ∧ host.getLast? = some ']'
  · obtain ⟨rest, rfl⟩ := List.head?_eq_some_iff.mp hends.1
    obtain ⟨front, hfront⟩ := List.getLast?_eq_some_iff.mp hends.2
    cases front with
    | nil => simp at hfront
    | cons c inner =>
        rw [List.cons_append, List.cons.injEq] at hfront
        obtain ⟨rfl, rfl⟩ := hfront
        exact .inl (by rw [unbracketed_of_brackets])
  · exact .inr (if_neg hends).symm

theorem mem_unbracketed_iff {c : Char} (hopen : c ≠ '[') (hclose : c ≠ ']')
    (host : List Char) :
    c ∈ unbracketed host ↔ c ∈ host := by
  rcases unbracketed_cases host with hhost | hhost
  · rw [hhost, unbracketed_of_brackets]
    simp [hopen, hclose]
  · rw [← hhost]

/-! ## Hosts and ports put together -/

theorem isDigit_of_port? {parts : Parts} {port : Option Nat}
    (hport : parts.port? = .ok port) :
    ∀ c ∈ (hostAndPort parts.authority).2, c.isDigit = true := by
  intro c hc
  rw [Parts.port?] at hport
  by_cases hempty : (hostAndPort parts.authority).2 = []
  · rw [hempty] at hc
    cases hc
  · rw [if_neg (by simpa using hempty)] at hport
    cases hnumber : Text.natural? (hostAndPort parts.authority).2 with
    | none =>
        rw [hnumber] at hport
        cases hport
    | some n => exact (Text.natural?_eq_some hnumber).2 c hc

theorem port?_of_natural? {parts : Parts} {port : Option Nat} {n : Nat}
    (hnumber : Text.natural? (hostAndPort parts.authority).2 = some n)
    (hport : parts.port? = .ok port) :
    port = some n := by
  have hne := (Text.natural?_eq_some hnumber).1
  rw [Parts.port?, if_neg (by simpa using hne), hnumber] at hport
  dsimp only at hport
  split at hport
  · cases hport
  · split at hport <;> cases hport
    rfl

section Append

variable {host digits : List Char}

theorem hostAndPort_append_of_not_mem
    (hat : '@' ∉ host ++ ':' :: digits) (hopen : '[' ∉ host ++ ':' :: digits)
    (hcolon : ':' ∉ host) :
    hostAndPort (host ++ ':' :: digits) = (host, digits) := by
  rw [hostAndPort, Text.cutAtLast_of_not_mem hat]
  dsimp only
  rw [Text.cutAt_of_not_mem hopen]
  dsimp only
  rw [Text.cutAt_append hcolon]
  rfl

theorem hostAndPort_brackets {inner after : List Char}
    (hat : '@' ∉ '[' :: (inner ++ ']' :: after)) (hclose : ']' ∉ inner) :
    hostAndPort ('[' :: (inner ++ ']' :: after)) =
      (inner, (Text.cutAt ':' after).2.getD []) := by
  have hcut : Text.cutAt '[' ('[' :: (inner ++ ']' :: after)) =
      ([], some (inner ++ ']' :: after)) := by
    rw [Text.cutAt, if_pos rfl]
  rw [hostAndPort, Text.cutAtLast_of_not_mem hat]
  dsimp only
  rw [hcut]
  dsimp only
  rw [Text.cutAt_append hclose]
  rfl

theorem not_mem_digits (hdigits : ∀ c ∈ digits, c.isDigit = true) {sep : Char}
    (hsep : sep.isDigit = false) : sep ∉ digits := by
  intro hmem
  rw [hdigits sep hmem] at hsep
  cases hsep

/-- The bracket that opens a host is closed before the port. -/
theorem eq_brackets_of_checkBrackets
    (hat : '@' ∉ host ++ ':' :: digits) (hopen : '[' ∈ host)
    (hne : digits ≠ []) (hdigits : ∀ c ∈ digits, c.isDigit = true)
    (hcheck : checkBrackets (host ++ ':' :: digits) = .ok ())
    (hport : ∀ c ∈ (hostAndPort (host ++ ':' :: digits)).2, c.isDigit = true) :
    ∃ inner, host = '[' :: (inner ++ [']']) ∧ ']' ∉ inner ∧ inner ≠ [] := by
  obtain ⟨inner, after, hwhole, hclose, hinner, hafter⟩ :=
    exists_host_of_checkBrackets hat (List.mem_append_left _ hopen) hcheck
  rw [hwhole] at hat hport
  rw [hostAndPort_brackets hat hclose] at hport
  rcases hafter with rfl | ⟨port, rfl⟩
  · -- A text that ends with a digit does not end with a bracket.
    obtain ⟨front, d, rfl⟩ := List.eq_nil_or_concat digits |>.resolve_left hne
    have hlast : d = ']' := by
      simpa [List.getLast?_cons] using congrArg List.getLast? hwhole
    subst hlast
    exact absurd (hdigits ']' (by simp)) (by decide)
  · have hcolon : ':' ∉ port := by
      intro hmem
      exact absurd (hport ':' (by simpa [Text.cutAt] using hmem)) (by decide)
    have hwhole' : host ++ ':' :: digits = '[' :: (inner ++ [']']) ++ ':' :: port := by
      simpa using hwhole
    have hcolon' : ':' ∉ digits := not_mem_digits hdigits rfl
    have hcut := Text.cutAtLast_append hcolon' host
    rw [hwhole', Text.cutAtLast_append hcolon, Prod.mk.injEq, Option.some.injEq] at hcut
    exact ⟨inner, hcut.1.symm, hclose, hinner⟩

/-- The host and the port that make up an accepted authority are found in it again. -/
theorem hostAndPort_append
    (hhost : host ≠ []) (hat : '@' ∉ host)
    (hcolon : ':' ∈ host → '[' ∈ host ∨ ']' ∈ host)
    (hne : digits ≠ []) (hdigits : ∀ c ∈ digits, c.isDigit = true)
    (hcheck : checkBrackets (host ++ ':' :: digits) = .ok ())
    (hport : ∀ c ∈ (hostAndPort (host ++ ':' :: digits)).2, c.isDigit = true) :
    hostAndPort (host ++ ':' :: digits) = (unbracketed host, digits) ∧
      unbracketed host ≠ [] := by
  have hmem {sep : Char} (hsep : sep.isDigit = false) (hne : sep ≠ ':') :
      sep ∈ host ++ ':' :: digits ↔ sep ∈ host := by
    simp [not_mem_digits hdigits hsep, hne]
  have hat' : '@' ∉ host ++ ':' :: digits := by
    rwa [hmem rfl (by decide)]
  by_cases hopen : '[' ∈ host
  · obtain ⟨inner, rfl, hclose, hinner⟩ :=
      eq_brackets_of_checkBrackets hat' hopen hne hdigits hcheck hport
    have hwhole : '[' :: (inner ++ [']']) ++ ':' :: digits =
        '[' :: (inner ++ ']' :: ':' :: digits) := by
      simp
    rw [hwhole] at hat' ⊢
    rw [hostAndPort_brackets hat' hclose, unbracketed_of_brackets]
    exact ⟨rfl, hinner⟩
  · have hopen' : '[' ∉ host ++ ':' :: digits := by
      rwa [hmem rfl (by decide)]
    have hclose : ']' ∉ host := by
      rw [← hmem rfl (by decide), ← mem_brackets_iff hcheck]
      exact hopen'
    have hcolon' : ':' ∉ host := fun h => (hcolon h).elim hopen hclose
    rw [hostAndPort_append_of_not_mem hat' hopen' hcolon', unbracketed_of_not_mem hopen]
    exact ⟨rfl, hhost⟩

end Append

end Uri

end NameRouting
