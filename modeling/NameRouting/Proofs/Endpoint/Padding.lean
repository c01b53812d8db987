import NameRouting.Proofs.Endpoint.Connection
import NameRouting.Proofs.Template.Meaning
import NameRouting.Proofs.Text.Trimming

/-!
# Blanks in a list of endpoints

The tokens of a list of endpoints are trimmed one by one, but the empty ones at the
end are dropped before that.  An empty token at the end that has blanks is therefore
kept and read as an endpoint without scheme and host, while blanks at every other
place do not count.  The names of connections are trimmed first, and there no blanks
count.
-/

namespace NameRouting.Endpoint

/-! ## Empty tokens at the end -/

theorem dropTrailingEmpty_cons (token : List Char) (rest : List (List Char)) :
    dropTrailingEmpty (token :: rest) =
      if dropTrailingEmpty rest = [] ∧ token = [] then [] else token :: dropTrailingEmpty rest := by
  rw [dropTrailingEmpty]
  cases hrest : dropTrailingEmpty rest <;> cases token <;> simp

theorem dropTrailingEmpty_eq_nil_iff {tokens : List (List Char)} :
    dropTrailingEmpty tokens = [] ↔ ∀ token ∈ tokens, token = [] := by
  induction tokens with
  | nil => simp [dropTrailingEmpty]
  | cons token rest ih =>
      rw [dropTrailingEmpty_cons, List.forall_mem_cons, ← ih]
      by_cases hempty : dropTrailingEmpty rest = [] ∧ token = []
      · simp [hempty]
      · rw [if_neg hempty]
        simpa using fun htoken hrest => hempty ⟨hrest, htoken⟩

theorem dropTrailingEmpty_subset (tokens : List (List Char)) :
    dropTrailingEmpty tokens ⊆ tokens := by
  induction tokens with
  | nil => exact List.Subset.refl _
  | cons token rest ih =>
      rw [dropTrailingEmpty_cons]
      split
      · exact List.nil_subset _
      · exact List.cons_subset_cons token ih

theorem dropTrailingEmpty_append {front : List (List Char)}
    (hfront : ∀ hne : front ≠ [], front.getLast hne ≠ []) (back : List (List Char)) :
    dropTrailingEmpty (front ++ back) = front ++ dropTrailingEmpty back := by
  induction front with
  | nil => rfl
  | cons token rest ih =>
      have hrest : ∀ hne : rest ≠ [], rest.getLast hne ≠ [] := by
        intro hne
        have hlast := hfront (List.cons_ne_nil token rest)
        rwa [List.getLast_cons hne] at hlast
      rw [List.cons_append, dropTrailingEmpty_cons, ih hrest, if_neg]
      · rfl
      · rintro ⟨hnil, rfl⟩
        obtain ⟨rfl, -⟩ := List.append_eq_nil_iff.mp hnil
        exact hfront (List.cons_ne_nil _ _) rfl

theorem getLast?_dropTrailingEmpty (tokens : List (List Char)) :
    (dropTrailingEmpty tokens).getLast? ≠ some [] := by
  induction tokens with
  | nil => exact nofun
  | cons token rest ih =>
      rw [dropTrailingEmpty_cons]
      split
      case isTrue => exact nofun
      case isFalse hkept =>
        cases hrest : dropTrailingEmpty rest with
        | nil => simpa [hrest] using hkept
        | cons next others =>
            rwa [List.getLast?_cons_cons, ← hrest]

theorem exists_dropTrailingEmpty_append (tokens : List (List Char)) :
    ∃ n, dropTrailingEmpty tokens ++ List.replicate n [] = tokens := by
  induction tokens with
  | nil => exact ⟨0, rfl⟩
  | cons token rest ih =>
      obtain ⟨n, hn⟩ := ih
      rw [dropTrailingEmpty_cons]
      split
      case isTrue hempty =>
        rw [hempty.1, List.nil_append] at hn
        exact ⟨n + 1, by rw [← hn, hempty.2, List.nil_append, List.replicate_succ]⟩
      case isFalse => exact ⟨n, by rw [List.cons_append, hn]⟩

/-! ## Reading the tokens of a list -/

/-- Reads one token. -/
def readToken (token : List Char) : Except Fault Endpoint :=
  match parse (String.ofList token) with
  | .error cause => .error (.invalidEndpoint (String.ofList token) (some cause.message))
  | .ok endpoint => .ok endpoint

theorem parseTokens_eq_mapM (tokens : List (List Char)) :
    parseTokens tokens = (tokens.map Text.trim).mapM readToken := by
  induction tokens with
  | nil => rfl
  | cons token rest ih =>
      rw [parseTokens, List.map_cons, List.mapM_cons, readToken, ih]
      cases parse (String.ofList (Text.trim token)) with
      | error cause => rfl
      | ok endpoint => cases (rest.map Text.trim).mapM readToken <;> rfl

/-- What an empty token is read as. -/
def blank : Endpoint :=
  ⟨"", none, none, none, ""⟩

theorem readToken_nil : readToken [] = .ok blank := by
  decide +kernel

theorem mapM_readToken_replicate (n : Nat) :
    (List.replicate n []).mapM readToken = .ok (List.replicate n blank) := by
  rw [Outcome.mapM_eq_ok_iff]
  induction n with
  | zero => exact .nil
  | succ n ih => exact .cons readToken_nil ih

theorem outcome_parseList (text : String) :
    (parseList text).outcome =
      ((dropTrailingEmpty (Text.pieces ',' text.toList)).map Text.trim).mapM readToken := by
  rw [parseList, Logged.outcome_bind, Logged.outcome_ofExcept, parseTokens_eq_mapM]
  simp only [Logged.outcome_bind, Logged.outcome_write, Logged.outcome_pure]
  exact bind_pure _

/-! ## Padded tokens -/

/-- A token of a list with the blanks around it. -/
structure Padded where
  before : List Char
  token : List Char
  after : List Char
  before_blank : ∀ c ∈ before, Text.isBlank c = true
  after_blank : ∀ c ∈ after, Text.isBlank c = true
  token_trimmed : Text.trim token = token
  token_noComma : ',' ∉ token
  token_noDollar : '$' ∉ token

namespace Padded

/-- The token as it stands in a list. -/
def text (padded : Padded) : List Char :=
  padded.before ++ (padded.token ++ padded.after)

theorem trim_text (padded : Padded) : Text.trim padded.text = padded.token := by
  rw [text, Text.trim_append_left padded.before_blank,
    Text.trim_append_right padded.after_blank, padded.token_trimmed]

theorem not_mem_text {padded : Padded} {c : Char} (hblank : Text.isBlank c = false)
    (htoken : c ∉ padded.token) :
    c ∉ padded.text := by
  intro hmem
  rw [text, List.mem_append, List.mem_append] at hmem
  rcases hmem with hmem | hmem | hmem
  · exact Bool.false_ne_true (hblank.symm.trans (padded.before_blank c hmem))
  · exact htoken hmem
  · exact Bool.false_ne_true (hblank.symm.trans (padded.after_blank c hmem))

theorem text_eq_nil_iff {padded : Padded} :
    padded.text = [] ↔ padded.before = [] ∧ padded.token = [] ∧ padded.after = [] := by
  rw [text, List.append_eq_nil_iff, List.append_eq_nil_iff]

/-- The token without blanks. -/
def bare (padded : Padded) : Padded :=
  ⟨[], padded.token, [], nofun, nofun, padded.token_trimmed, padded.token_noComma,
    padded.token_noDollar⟩

@[simp]
theorem text_bare (padded : Padded) : padded.bare.text = padded.token := by
  rw [text, bare, List.nil_append, List.append_nil]

end Padded

/-! ## Lists of padded tokens -/

section Tokens

variable (tokens : List Padded)

/-- The tokens with their blanks, separated by commas. -/
def listText : String :=
  String.ofList (Text.joined ',' (tokens.map Padded.text))

/-- The tokens up to the last one that is not empty. -/
def core : List Padded :=
  tokens.rdropWhile fun padded => padded.token.isEmpty

/-- The empty tokens at the end. -/
def trailing : List Padded :=
  tokens.rtakeWhile fun padded => padded.token.isEmpty

/-- How many of the empty tokens at the end are kept because of blanks. -/
def strays : Nat :=
  (dropTrailingEmpty ((trailing tokens).map Padded.text)).length

theorem core_append_trailing : core tokens ++ trailing tokens = tokens :=
  List.rdropWhile_append_rtakeWhile

theorem token_of_mem_trailing {tokens : List Padded} {padded : Padded}
    (hmem : padded ∈ trailing tokens) : padded.token = [] := by
  simpa using List.mem_rtakeWhile_imp hmem

theorem map_trim_text :
    (tokens.map Padded.text).map Text.trim = tokens.map Padded.token := by
  rw [List.map_map]
  exact List.map_congr_left fun padded _ => padded.trim_text

theorem strays_eq_zero_iff :
    strays tokens = 0 ↔ ∀ padded ∈ trailing tokens, padded.text = [] := by
  rw [strays, List.length_eq_zero_iff, dropTrailingEmpty_eq_nil_iff, List.forall_mem_map]

/-- The tokens that are left when the empty ones at the end were dropped. -/
theorem map_trim_dropTrailingEmpty :
    (dropTrailingEmpty (tokens.map Padded.text)).map Text.trim =
      (core tokens).map Padded.token ++ List.replicate (strays tokens) [] := by
  have htexts : tokens.map Padded.text =
      (core tokens).map Padded.text ++ (trailing tokens).map Padded.text := by
    rw [← List.map_append, core_append_trailing]
  have hlast : ∀ hne : (core tokens).map Padded.text ≠ [],
      ((core tokens).map Padded.text).getLast hne ≠ [] := by
    intro hne
    rw [List.getLast_map, ne_eq, Padded.text_eq_nil_iff]
    rintro ⟨-, htoken, -⟩
    have hcore : core tokens ≠ [] := by simpa using hne
    exact List.rdropWhile_last_not _ tokens hcore (List.isEmpty_iff.mpr htoken)
  have hstrays : (dropTrailingEmpty ((trailing tokens).map Padded.text)).map Text.trim =
      List.replicate (strays tokens) [] := by
    rw [List.eq_replicate_iff, List.length_map, List.forall_mem_map]
    refine ⟨rfl, fun text htext => ?_⟩
    obtain ⟨padded, hpadded, rfl⟩ := List.mem_map.mp (dropTrailingEmpty_subset _ htext)
    rw [padded.trim_text, token_of_mem_trailing hpadded]
  rw [htexts, dropTrailingEmpty_append hlast, List.map_append, hstrays, map_trim_text]

theorem core_map_bare : core (tokens.map Padded.bare) = (core tokens).map Padded.bare := by
  rw [core, List.rdropWhile, ← List.map_reverse, List.dropWhile_map, ← List.map_reverse]
  rfl

theorem strays_map_bare : strays (tokens.map Padded.bare) = 0 := by
  rw [strays_eq_zero_iff]
  intro padded hpadded
  have hsuffix : trailing (tokens.map Padded.bare) <:+ tokens.map Padded.bare :=
    List.rtakeWhile_suffix _ _
  obtain ⟨original, -, rfl⟩ := List.mem_map.mp (hsuffix.subset hpadded)
  have htoken : original.bare.token = [] := token_of_mem_trailing hpadded
  exact original.text_bare.trans htoken

theorem listText_eq_empty_iff :
    listText tokens = "" ↔ tokens = [] ∨ ∃ padded, tokens = [padded] ∧ padded.text = [] := by
  rw [listText, ← String.ofList_nil, String.ofList_inj]
  match tokens with
  | [] => simp [Text.joined]
  | [padded] => simp [Text.joined]
  | first :: second :: rest => simp [Text.joined]

theorem pieces_listText (hne : tokens ≠ []) :
    Text.pieces ',' (listText tokens).toList = tokens.map Padded.text := by
  rw [listText, String.toList_ofList]
  refine Text.pieces_joined (by simpa using hne) ?_
  intro text htext
  obtain ⟨padded, -, rfl⟩ := List.mem_map.mp htext
  exact Padded.not_mem_text (by decide) padded.token_noComma

theorem not_mem_listText : '$' ∉ (listText tokens).toList := by
  rw [listText, String.toList_ofList, Text.mem_joined_iff]
  rintro (⟨text, htext, hmem⟩ | ⟨hcomma, -⟩)
  · obtain ⟨padded, -, rfl⟩ := List.mem_map.mp htext
    exact Padded.not_mem_text (by decide) padded.token_noDollar hmem
  · exact absurd hcomma (by decide)

theorem configured_listText (expansion : Expansion) (env : Table Value) :
    configured expansion (env.insert Property.providerUrl (.text (listText tokens))) =
      if (listText tokens).isEmpty then
        connectionEndpoints expansion
          (env.insert Property.providerUrl (.text (listText tokens)))
      else do
        let endpoints ← parseList (listText tokens)
        return some endpoints := by
  have hexpand : expansion.expand
      (env.insert Property.providerUrl (.text (listText tokens))) (listText tokens) =
        listText tokens := by
    rw [Expansion.expand, Template.expand, Template.meaning_of_not_mem _ (not_mem_listText tokens),
      String.ofList_toList]
  have htext : textOf? (env.insert Property.providerUrl (.text (listText tokens)))
      Property.providerUrl = some (listText tokens) := by
    rw [textOf?, Table.get?_insert_self]
    rfl
  rw [configured, htext, Option.map_some, Option.getD_some, hexpand]

/-- A list is read up to the last token that is not empty, and one blank endpoint follows
for every stray. -/
theorem outcome_configured_listText (expansion : Expansion) (env : Table Value)
    (hne : listText tokens ≠ "") :
    (configured expansion (env.insert Property.providerUrl (.text (listText tokens)))).outcome =
      ((core tokens).map Padded.token).mapM readToken >>= fun endpoints =>
        .ok (some (endpoints ++ List.replicate (strays tokens) blank)) := by
  have htokens : tokens ≠ [] := by
    rintro rfl
    exact hne rfl
  rw [configured_listText, if_neg (by simpa using hne), Logged.outcome_bind, outcome_parseList,
    pieces_listText tokens htokens, map_trim_dropTrailingEmpty, List.mapM_append,
    mapM_readToken_replicate]
  cases ((core tokens).map Padded.token).mapM readToken <;> rfl

end Tokens

/-! ## Lists of names -/

theorem listedNames_insert (env : Table Value) (text : String) :
    listedNames (env.insert Property.connections (.text text)) = Text.trim text.toList := by
  rw [listedNames, Table.get?_insert_self]
  by_cases htext : text = ""
  · subst htext
    rfl
  · exact if_neg (by simpa [Value.isBare] using htext)

theorem connectionNames_trim_listText {tokens : List Padded} (hne : tokens ≠ []) :
    connectionNames (Text.trim (listText tokens).toList) =
      (dropTrailingEmpty (tokens.map Padded.token)).map String.ofList := by
  rw [connectionNames, Text.map_trim_pieces_trim (by decide), pieces_listText tokens hne,
    map_trim_text]

theorem trim_listText_eq_nil_iff (tokens : List Padded) :
    Text.trim (listText tokens).toList = [] ↔
      (∀ padded ∈ tokens, padded.token = []) ∧ tokens.length < 2 := by
  rw [Text.trim_eq_nil_iff, listText, String.toList_ofList]
  constructor
  · intro hblank
    refine ⟨fun padded hpadded => ?_, ?_⟩
    · rw [← padded.trim_text, Text.trim_eq_nil_iff]
      intro c hc
      exact hblank c (Text.mem_joined_iff.mpr
        (.inl ⟨padded.text, List.mem_map_of_mem hpadded, hc⟩))
    · by_contra hlength
      have hlong : 2 ≤ (tokens.map Padded.text).length := by
        rw [List.length_map]
        omega
      have hcomma := hblank ',' (Text.mem_joined_iff.mpr (.inr ⟨rfl, hlong⟩))
      exact absurd hcomma (by decide)
  · rintro ⟨hempty, hlength⟩ c hc
    rcases Text.mem_joined_iff.mp hc with ⟨text, htext, hc⟩ | ⟨-, hlong⟩
    · obtain ⟨padded, hpadded, rfl⟩ := List.mem_map.mp htext
      have htrim := padded.trim_text.trans (hempty padded hpadded)
      exact Text.trim_eq_nil_iff.mp htrim c hc
    · rw [List.length_map] at hlong
      omega

/-- Blanks around names do not count, neither for the names nor for whether there is any
text at all. -/
theorem listedNames_map_bare (env : Table Value) (tokens : List Padded) :
    let padded := listedNames (env.insert Property.connections (.text (listText tokens)))
    let bare := listedNames
      (env.insert Property.connections (.text (listText (tokens.map Padded.bare))))
    connectionNames padded = connectionNames bare ∧ (padded = [] ↔ bare = []) := by
  rw [listedNames_insert, listedNames_insert]
  constructor
  · by_cases hne : tokens = []
    · rw [hne]
      rfl
    · have hbare : tokens.map Padded.bare ≠ [] := by simpa using hne
      rw [connectionNames_trim_listText hne, connectionNames_trim_listText hbare, List.map_map]
      rfl
  · rw [trim_listText_eq_nil_iff, trim_listText_eq_nil_iff, List.forall_mem_map, List.length_map]
    rfl

/-! ## Blanks that count -/

theorem blank_not_mem_of_connectionEndpoints {expansion : Expansion} {env : Table Value}
    {endpoints : List Endpoint}
    (houtcome : (connectionEndpoints expansion env).outcome = .ok (some endpoints)) :
    blank ∉ endpoints := by
  intro hmem
  rw [outcome_connectionEndpoints] at houtcome
  split at houtcome
  · cases houtcome
  · obtain ⟨read, hread, hsome⟩ := Outcome.bind_eq_ok_iff.mp houtcome
    cases hsome
    obtain ⟨fields, -, hfields⟩ := Outcome.exists_of_mem_of_mapM_eq_ok hread hmem
    obtain ⟨-, n, -, hparse⟩ := endpoint_eq_ok hfields
    obtain ⟨scheme, parts, hblank⟩ := exists_isRead_of_parse hparse
    have hraw := congrArg String.toList hblank.raw_eq
    rw [toList_address, String.toList_ofList] at hraw
    simp [blank] at hraw

theorem exists_readToken_eq_error_iff {token : List Char} :
    (∃ fault, readToken token = .error fault) ↔
      ∃ cause, parse (String.ofList token) = .error cause := by
  rw [readToken]
  cases parse (String.ofList token) <;> simp

theorem exists_mapM_readToken_eq_error_iff (tokens : List Padded) :
    (∃ fault, ((core tokens).map Padded.token).mapM readToken = .error fault) ↔
      ∃ padded ∈ tokens, ∃ cause, parse (String.ofList padded.token) = .error cause := by
  constructor
  · rintro ⟨fault, hread⟩
    obtain ⟨token, htoken, hfault⟩ := Outcome.exists_of_mapM_eq_error hread
    obtain ⟨padded, hpadded, rfl⟩ := List.mem_map.mp htoken
    refine ⟨padded, ?_, exists_readToken_eq_error_iff.mp ⟨fault, hfault⟩⟩
    rw [← core_append_trailing tokens]
    exact List.mem_append_left _ hpadded
  · rintro ⟨padded, hpadded, hcause⟩
    obtain ⟨fault, hfault⟩ := exists_readToken_eq_error_iff.mpr hcause
    rw [← core_append_trailing tokens, List.mem_append] at hpadded
    rcases hpadded with hpadded | hpadded
    · cases hread : ((core tokens).map Padded.token).mapM readToken with
      | error fault => exact ⟨fault, rfl⟩
      | ok endpoints =>
          obtain ⟨endpoint, hendpoint⟩ :=
            Outcome.exists_ok_of_mem_of_mapM_eq_ok hread (List.mem_map_of_mem hpadded)
          rw [hfault] at hendpoint
          cases hendpoint
    · rw [token_of_mem_trailing hpadded, readToken_nil] at hfault
      cases hfault

theorem strays_eq_zero_of_listText {tokens : List Padded} (hempty : listText tokens = "") :
    strays tokens = 0 ∧ listText (tokens.map Padded.bare) = "" := by
  rcases (listText_eq_empty_iff tokens).mp hempty with rfl | ⟨padded, rfl, htext⟩
  · exact ⟨rfl, rfl⟩
  · constructor
    · rw [strays_eq_zero_iff]
      intro padded' hmem
      have hsuffix : trailing [padded] <:+ [padded] := List.rtakeWhile_suffix _ _
      rwa [List.mem_singleton.mp (hsuffix.subset hmem)]
    · refine (listText_eq_empty_iff _).mpr (.inr ⟨padded.bare, rfl, ?_⟩)
      rw [Padded.text_bare]
      exact (Padded.text_eq_nil_iff.mp htext).2.1

theorem exists_eq_singleton_of_listText {tokens : List Padded} (hne : listText tokens ≠ "")
    (hbare : listText (tokens.map Padded.bare) = "") :
    ∃ padded, tokens = [padded] ∧ padded.token = [] ∧ padded.text ≠ [] := by
  rcases (listText_eq_empty_iff _).mp hbare with hnil | ⟨single, hsingle, htext⟩
  · rw [List.map_eq_nil_iff.mp hnil] at hne
    exact absurd rfl hne
  · obtain ⟨padded, rfl, rfl⟩ := List.map_eq_singleton_iff.mp hsingle
    refine ⟨padded, rfl, padded.text_bare.symm.trans htext, fun htext => hne ?_⟩
    exact (listText_eq_empty_iff _).mpr (.inr ⟨padded, rfl, htext⟩)

theorem outcome_listText_eq_iff (expansion : Expansion) (env : Table Value)
    (tokens : List Padded) :
    (configured expansion
          (env.insert Property.providerUrl (.text (listText tokens)))).outcome =
        (configured expansion
          (env.insert Property.providerUrl (.text (listText (tokens.map Padded.bare))))).outcome ↔
      strays tokens = 0 ∨
        ∃ fault, ((core tokens).map Padded.token).mapM readToken = .error fault := by
  by_cases hempty : listText tokens = ""
  · obtain ⟨hstrays, hbare⟩ := strays_eq_zero_of_listText hempty
    rw [hempty, hbare]
    exact iff_of_true rfl (.inl hstrays)
  · rw [outcome_configured_listText tokens expansion env hempty]
    by_cases hbare : listText (tokens.map Padded.bare) = ""
    · -- Without its blanks the list is empty, and connections are looked at instead.
      obtain ⟨padded, rfl, htoken, htext⟩ := exists_eq_singleton_of_listText hempty hbare
      have hcore : core [padded] = [] :=
        List.rdropWhile_eq_nil_iff.mpr (by simp [htoken])
      have hstrays : strays [padded] ≠ 0 := by
        have htrailing : trailing [padded] = [padded] :=
          List.rtakeWhile_eq_self_iff.mpr (by simp [htoken])
        rw [ne_eq, strays_eq_zero_iff, htrailing]
        exact fun hall => htext (hall padded List.mem_cons_self)
      rw [hcore]
      refine iff_of_false ?_ ?_
      · intro heq
        rw [configured_listText, if_pos (by rw [hbare]; rfl)] at heq
        refine blank_not_mem_of_connectionEndpoints heq.symm ?_
        exact List.mem_replicate.mpr ⟨hstrays, rfl⟩
      · rintro (hzero | ⟨fault, hfault⟩)
        · exact hstrays hzero
        · cases hfault
    · rw [outcome_configured_listText (tokens.map Padded.bare) expansion env hbare,
        core_map_bare, List.map_map, strays_map_bare, List.replicate_zero]
      change _ = ((core tokens).map Padded.token).mapM readToken >>= _ ↔ _
      cases ((core tokens).map Padded.token).mapM readToken with
      | error fault => exact iff_of_true rfl (.inr ⟨fault, rfl⟩)
      | ok endpoints =>
          have hsame : (Except.ok (some (endpoints ++ List.replicate (strays tokens) blank)) :
              Except Fault (Option (List Endpoint))) = .ok (some (endpoints ++ [])) ↔
                strays tokens = 0 := by
            simp
          refine hsame.trans (or_iff_left ?_).symm
          rintro ⟨fault, hfault⟩
          cases hfault

/-- Blanks around the tokens of a list make a difference exactly when an empty token at
the end has some and every token can be read.  Around the names of connections they
never make a difference. -/
theorem configured_listText_eq_iff (expansion : Expansion) (env : Table Value)
    (tokens : List Padded) :
    let padded := listText tokens
    let bare := listText (tokens.map Padded.bare)
    let paddedNames := listedNames (env.insert Property.connections (.text padded))
    let bareNames := listedNames (env.insert Property.connections (.text bare))
    ((configured expansion (env.insert Property.providerUrl (.text padded))).outcome =
          (configured expansion (env.insert Property.providerUrl (.text bare))).outcome ↔
        (∀ token ∈ trailing tokens, token.text = []) ∨
          ∃ token ∈ tokens, ∃ cause, parse (String.ofList token.token) = .error cause) ∧
      connectionNames paddedNames = connectionNames bareNames ∧
      (paddedNames = [] ↔ bareNames = []) := by
  intro padded bare paddedNames bareNames
  rw [← strays_eq_zero_iff, ← exists_mapM_readToken_eq_error_iff]
  exact ⟨outcome_listText_eq_iff expansion env tokens, listedNames_map_bare env tokens⟩

/-- A token followed by an empty one that has a blank. -/
def blankAtEnd : List Padded :=
  [⟨[], "a://h:1".toList, [], nofun, nofun, by decide +kernel, by decide +kernel, by decide +kernel⟩,
    ⟨[' '], [], [], List.forall_mem_singleton.mpr rfl, nofun, rfl, nofun, nofun⟩]

/-- The blank behind the last comma adds an endpoint without scheme and host. -/
theorem blankAtEnd_adds_endpoint :
    (configured ⟨none, .empty⟩
        (Table.insert .empty Property.providerUrl (.text (listText blankAtEnd)))).outcome =
      .ok (some [⟨"a://h:1", some "a", some "h", some 1, ""⟩, blank]) ∧
    (configured ⟨none, .empty⟩ (Table.insert .empty Property.providerUrl
        (.text (listText (blankAtEnd.map Padded.bare))))).outcome =
      .ok (some [⟨"a://h:1", some "a", some "h", some 1, ""⟩]) := by
  constructor <;> decide +kernel

end NameRouting.Endpoint
