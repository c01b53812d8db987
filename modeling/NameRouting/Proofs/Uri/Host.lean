import NameRouting.Proofs.Text.SmallLetters
import NameRouting.Proofs.Uri.Authority

/-!
# Hosts in small letters

The host of an address is written in small letters up to its scope.  Doing so a second
time changes nothing, no delimiter appears or is lost, and no character comes in that hides
a delimiter.
-/

namespace NameRouting.Uri

theorem hostName_of_not_mem {host : List Char} (hhost : '%' ∉ host) :
    hostName host = Text.lowercase host := by
  rw [hostName, Text.cutAt_of_not_mem hhost]

theorem hostName_append {name : List Char} (hname : '%' ∉ name) (scope : List Char) :
    hostName (name ++ '%' :: scope) = Text.lowercase name ++ '%' :: scope := by
  rw [hostName, Text.cutAt_append hname]

/-- A host is its name, and the scope when there is one. -/
theorem host_cases (host : List Char) :
    '%' ∉ host ∨ ∃ name scope, host = name ++ '%' :: scope ∧ '%' ∉ name := by
  rcases hcut : Text.cutAt '%' host with ⟨name, _ | scope⟩
  · exact .inl (Text.cutAt_eq_none_iff.mp hcut).2
  · obtain ⟨hname, hhost⟩ := Text.cutAt_eq_some_iff.mp hcut
    exact .inr ⟨name, scope, hhost, hname⟩

theorem hostName_eq_nil_iff {host : List Char} : hostName host = [] ↔ host = [] := by
  rcases host_cases host with hhost | ⟨name, scope, rfl, hname⟩
  · rw [hostName_of_not_mem hhost, Text.lowercase_eq_nil_iff]
  · rw [hostName_append hname]
    simp

theorem hostName_hostName (host : List Char) :
    hostName (hostName host) = hostName host := by
  have hsign : Text.IsSign '%' := by decide
  rcases host_cases host with hhost | ⟨name, scope, rfl, hname⟩
  · have hlower : '%' ∉ Text.lowercase host := by
      rwa [Text.mem_lowercase_iff hsign]
    rw [hostName_of_not_mem hhost, hostName_of_not_mem hlower, Text.lowercase_lowercase]
  · have hlower : '%' ∉ Text.lowercase name := by
      rwa [Text.mem_lowercase_iff hsign]
    rw [hostName_append hname, hostName_append hlower, Text.lowercase_lowercase]

/-- A property that small letters keep: the letters have it that they put in. -/
theorem forall_mem_hostName {P : Char → Prop} {host : List Char} (hhost : ∀ c ∈ host, P c)
    (hlower : ∀ c : Char, 0x61 ≤ c.toNat → c.toNat ≤ 0x7A → P c)
    (hspecial : ∀ c ∈ ['ς', 'σ', '\u0307'], P c)
    (hlisted : ∀ run ∈ Text.capitalRuns, ∀ n, run.IsSmall n → 0x80 ≤ n → P (Char.ofNat n)) :
    ∀ c ∈ hostName host, P c := by
  rcases host_cases host with hfree | ⟨name, scope, rfl, hname⟩
  · rw [hostName_of_not_mem hfree]
    exact Text.forall_mem_lowercase hhost hlower hspecial hlisted
  · rw [List.forall_mem_append] at hhost
    rw [hostName_append hname, List.forall_mem_append]
    exact ⟨Text.forall_mem_lowercase hhost.1 hlower hspecial hlisted, hhost.2⟩

/-- A property that only signs can lack is kept, since small letters put in no signs. -/
theorem forall_mem_hostName_of_isSign {P : Char → Prop} {host : List Char}
    (hhost : ∀ c ∈ host, P c) (hsign : ∀ c, ¬ P c → Text.IsSign c) :
    ∀ c ∈ hostName host, P c := by
  intro c hc
  by_contra hne
  rw [mem_hostName_iff (hsign c hne)] at hc
  exact hne (hhost c hc)

theorem not_mem_hostName {c : Char} (hbelow : c.toNat < 0x61) {host : List Char}
    (hc : c ∉ host) :
    c ∉ hostName host := by
  have hne : ∀ d ∈ hostName host, d ≠ c := by
    refine forall_mem_hostName (fun d hd => ?_) (fun d hlow _ => ?_) (fun d hd => ?_)
      fun run hrun n hn hascii => ?_
    · rintro rfl
      exact hc hd
    · rintro rfl
      omega
    · rintro rfl
      have hlarge : ∀ d ∈ ['ς', 'σ', '\u0307'], 0x61 ≤ d.toNat := by
        simp
      have := hlarge d hd
      omega
    · rintro rfl
      rw [Text.toNat_ofNat_of_isSmall hrun hn] at hbelow
      omega
  exact fun hmem => hne c hmem rfl

theorem hidesDelimiter_of_lt {c : Char} (hc : c.toNat < 0x80) : hidesDelimiter c = false := by
  have hcodes : ∀ n < 0x80, hidesDelimiter (Char.ofNat n) = false := by
    decide
  have hcode := hcodes c.toNat hc
  rwa [Char.ofNat_toNat] at hcode

theorem hidesDelimiter_ofNat_of_isSmall {run : Text.CaseRun} {n : Nat}
    (hrun : run ∈ Text.capitalRuns) (hn : run.IsSmall n) :
    hidesDelimiter (Char.ofNat n) = false := by
  have hall : (Text.capitalRuns.all fun run =>
      [0x2047, 0x2048, 0x2049, 0x2100, 0x2101, 0x2105, 0x2106, 0x2A74, 0xFE13, 0xFE16, 0xFE55,
        0xFE56, 0xFE5F, 0xFE6B, 0xFF03, 0xFF0F, 0xFF1A, 0xFF1F, 0xFF20].all fun code =>
        !Nat.ble run.lowest code || !Nat.ble code run.highest) = true := by
    decide +kernel
  obtain ⟨hlow, hhigh, -⟩ := id hn
  rw [hidesDelimiter, Text.toNat_ofNat_of_isSmall hrun hn, Bool.eq_false_iff]
  intro hcode
  have hoff := List.all_eq_true.mp (List.all_eq_true.mp hall run hrun) n
    (List.contains_iff_mem.mp hcode)
  rw [Nat.ble_eq_true_of_le hlow, Nat.ble_eq_true_of_le hhigh] at hoff
  cases hoff

theorem hidesDelimiter_hostName {host : List Char}
    (hhost : ∀ c ∈ host, hidesDelimiter c = false) :
    ∀ c ∈ hostName host, hidesDelimiter c = false := by
  refine forall_mem_hostName hhost (fun c hlow hhigh => ?_) (by simp [hidesDelimiter])
    fun run hrun n hn _ => hidesDelimiter_ofNat_of_isSmall hrun hn
  exact hidesDelimiter_of_lt (by omega)

/-- A host that starts with a small letter still does. -/
theorem head?_hostName {host : List Char} (hhead : host.head? = some 'v') :
    (hostName host).head? = some 'v' := by
  obtain ⟨rest, rfl⟩ := List.head?_eq_some_iff.mp hhead
  have hlower : ∀ cs, ∃ more, Text.lowercase ('v' :: cs) = 'v' :: more := by
    intro cs
    exact ⟨Text.lowercaseAfter ['v'] cs, rfl⟩
  rcases host_cases ('v' :: rest) with hfree | ⟨name, scope, hhost, hname⟩
  · obtain ⟨more, hmore⟩ := hlower rest
    rw [hostName_of_not_mem hfree, hmore]
    rfl
  · cases name with
    | nil => exact absurd (List.cons.inj hhost).1 (by decide)
    | cons c name =>
        obtain ⟨rfl, -⟩ := List.cons.inj hhost
        obtain ⟨more, hmore⟩ := hlower name
        rw [hhost, hostName_append hname, hmore]
        rfl

end NameRouting.Uri
