import NameRouting.Proofs.Uri.Authority

/-!
# Numeric addresses

An address of eight groups holds a colon, and it starts with a digit or a colon.  So it is
no address of four octets, and none of a future kind.
-/

namespace NameRouting.Uri

theorem not_mem_of_isIpv4 {cs : List Char} (hcs : isIpv4 cs = true) : ':' ∉ cs := by
  intro hcolon
  rw [isIpv4, Bool.and_eq_true, List.all_eq_true] at hcs
  rw [← Text.joined_pieces '.' cs, Text.mem_joined_iff] at hcolon
  rcases hcolon with ⟨octet, hoctet, hmem⟩ | ⟨hdot, -⟩
  · have hvalue := hcs.2 octet hoctet
    rw [isOctet, Bool.and_eq_true, Option.any_eq_true] at hvalue
    obtain ⟨n, hn, -⟩ := hvalue.2
    have hdigit := (Text.natural?_eq_some hn).2 ':' hmem
    exact absurd hdigit (by decide)
  · exact absurd hdot (by decide)

/-! ## Groups -/

theorem isHexDigit_of_sideCount? {first : List Char} {rest : List (List Char)} {n : Nat}
    (hcount : sideCount? (first :: rest) = some n) :
    ∀ c ∈ first, isHexDigit c = true := by
  rw [sideCount?] at hcount
  by_cases hempty : (first :: rest == [[]]) = true
  · obtain ⟨rfl, -⟩ := List.cons.inj (beq_iff_eq.mp hempty)
    intro c hc
    cases hc
  · rw [if_neg hempty] at hcount
    by_cases hall : (first :: rest).all isGroup = true
    · have hfirst := List.all_eq_true.mp hall first List.mem_cons_self
      rw [isGroup, Bool.and_eq_true, List.all_eq_true] at hfirst
      exact hfirst.2
    · rw [if_neg hall] at hcount
      cases hcount

theorem head?_of_aroundGap? {groups front back : List (List Char)}
    (hgap : aroundGap? groups = some (front, back)) :
    front.head? = groups.head? := by
  rcases groups with _ | ⟨first, _ | ⟨second, _ | ⟨third, rest⟩⟩⟩
  · cases hgap
  · cases hgap
  · cases hgap
  · rw [aroundGap?] at hgap
    split at hgap
    · cases hgap
      rfl
    · obtain ⟨sides, -, hsides⟩ := Option.map_eq_some_iff.mp hgap
      cases hsides
      rfl

theorem isHexDigit_of_areGroups {first : List Char} {rest : List (List Char)}
    (hgroups : areGroups (first :: rest) = true) :
    ∀ c ∈ first, isHexDigit c = true := by
  rw [areGroups] at hgroups
  cases hgap : aroundGap? (first :: rest) with
  | none =>
      rw [hgap] at hgroups
      rw [Bool.and_eq_true, List.all_eq_true] at hgroups
      have hfirst := hgroups.2 first List.mem_cons_self
      rw [isGroup, Bool.and_eq_true, List.all_eq_true] at hfirst
      exact hfirst.2
  | some sides =>
      obtain ⟨front, back⟩ := sides
      obtain ⟨others, rfl⟩ := List.head?_eq_some_iff.mp (head?_of_aroundGap? hgap)
      rw [hgap] at hgroups
      dsimp only at hgroups
      cases hcount : sideCount? (first :: others) with
      | none =>
          rw [hcount] at hgroups
          cases hgroups
      | some n => exact isHexDigit_of_sideCount? hcount

theorem three_le_length_of_areGroups {groups : List (List Char)}
    (hgroups : areGroups groups = true) :
    3 ≤ groups.length := by
  rcases groups with _ | ⟨first, _ | ⟨second, _ | ⟨third, rest⟩⟩⟩
  · cases hgroups
  · cases hgroups
  · cases hgroups
  · rw [List.length_cons, List.length_cons, List.length_cons]
    omega

/-- Two groups may stand in the place of the last one. -/
theorem groups?_cases {cs : List Char} {groups : List (List Char)}
    (hgroups : groups? cs = some groups) :
    groups = Text.pieces ':' cs ∨
      groups = (Text.pieces ':' cs).dropLast ++ [['0'], ['0']] := by
  rw [groups?] at hgroups
  split at hgroups
  · cases hgroups
  · split at hgroups
    · split at hgroups
      · cases hgroups
        exact .inr rfl
      · cases hgroups
    · cases hgroups
      exact .inl rfl

/-! ## Addresses of eight groups -/

theorem exists_groups_of_isIpv6 {cs : List Char} (hcs : isIpv6 cs = true) :
    ∃ groups, groups? (Text.cutAt '%' cs).1 = some groups ∧ areGroups groups = true := by
  rw [isIpv6, Bool.and_eq_true] at hcs
  exact (Option.any_eq_true _ _).mp hcs.2

theorem two_le_length_pieces_of_isIpv6 {cs : List Char} (hcs : isIpv6 cs = true) :
    2 ≤ (Text.pieces ':' (Text.cutAt '%' cs).1).length := by
  obtain ⟨groups, hgroups, hare⟩ := exists_groups_of_isIpv6 hcs
  have hlength := three_le_length_of_areGroups hare
  rcases groups?_cases hgroups with rfl | rfl
  · omega
  · rw [List.length_append, List.length_dropLast, List.length_cons, List.length_singleton]
      at hlength
    omega

theorem mem_of_isIpv6 {cs : List Char} (hcs : isIpv6 cs = true) : ':' ∈ cs := by
  have hlength := two_le_length_pieces_of_isIpv6 hcs
  have hmem : ':' ∈ (Text.cutAt '%' cs).1 := by
    rw [← Text.joined_pieces ':' (Text.cutAt '%' cs).1, Text.mem_joined_iff]
    exact .inr ⟨rfl, hlength⟩
  exact (Text.fst_cutAt_prefix '%' cs).subset hmem

theorem head?_ne_of_isIpv6 {cs : List Char} (hcs : isIpv6 cs = true) :
    cs.head? ≠ some 'v' := by
  intro hhead
  obtain ⟨rest, rfl⟩ := List.head?_eq_some_iff.mp hhead
  obtain ⟨groups, hgroups, hare⟩ := exists_groups_of_isIpv6 hcs
  have hlength := two_le_length_pieces_of_isIpv6 hcs
  -- The letter stands in the first piece, which is one of the groups.
  obtain ⟨first, others, hpieces⟩ : ∃ first others,
      Text.pieces ':' (Text.cutAt '%' ('v' :: rest)).1 = ('v' :: first) :: others := by
    obtain ⟨first, others, hpieces⟩ := List.exists_cons_of_ne_nil
      (Text.pieces_ne_nil ':' (Text.cutAt '%' rest).1)
    refine ⟨first, others, ?_⟩
    rw [Text.cutAt, if_neg (by decide)]
    dsimp only
    rw [Text.pieces, if_neg (by decide), hpieces]
  rw [hpieces, List.length_cons] at hlength
  obtain ⟨second, more, rfl⟩ := List.exists_cons_of_length_pos (l := others) (by omega)
  have hfirst : ∃ more', groups = ('v' :: first) :: more' := by
    rcases groups?_cases hgroups with hgroups | hgroups
    · exact ⟨second :: more, hgroups.trans hpieces⟩
    · rw [hpieces] at hgroups
      exact ⟨_, hgroups⟩
  obtain ⟨more', rfl⟩ := hfirst
  have hdigit := isHexDigit_of_areGroups hare 'v' List.mem_cons_self
  exact absurd hdigit (by decide)

/-! ## Bracketed hosts -/

theorem checkBracketedHost_of_isIpv6 {host : List Char} (hhost : isIpv6 host = true) :
    checkBracketedHost host = .ok () := by
  have hfour : isIpv4 host ≠ true := fun hfour =>
    not_mem_of_isIpv4 hfour (mem_of_isIpv6 hhost)
  rw [checkBracketedHost, if_neg (head?_ne_of_isIpv6 hhost), if_neg hfour, if_pos hhost]

theorem isIpv6_of_checkBracketedHost {host : List Char}
    (hcheck : checkBracketedHost host = .ok ()) (hhead : host.head? ≠ some 'v') :
    isIpv6 host = true := by
  rw [checkBracketedHost, if_neg hhead] at hcheck
  by_contra hhost
  rw [if_neg hhost] at hcheck
  split at hcheck <;> cases hcheck

end NameRouting.Uri
