import NameRouting.Config.Flatten
import NameRouting.Proofs.Endpoint.Padding

/-!
# Lists of endpoints in configurations

A configuration may write its endpoints as a list.  Flattening joins the texts of the
list by commas, and the endpoints are found again when the joined text is cut at the
commas.  The texts come back as they are if they hold no comma and no template, have no
blanks around them, and the last one is not empty.
-/

namespace NameRouting.Endpoint

/-! ## Texts that can be listed -/

/-- Texts that are found again when they are joined by commas. -/
structure AreListable (texts : List String) : Prop where
  noComma : ∀ text ∈ texts, ',' ∉ text.toList
  noDollar : ∀ text ∈ texts, '$' ∉ text.toList
  trimmed : ∀ text ∈ texts, Text.trim text.toList = text.toList
  ne_nil : texts ≠ []
  getLast_ne : texts.getLast ne_nil ≠ ""

section Listable

variable {texts : List String} (htexts : AreListable texts)

theorem isBlank_of_mem_nil : ∀ c ∈ ([] : List Char), Text.isBlank c = true :=
  List.forall_mem_nil _

/-- Listable texts as the tokens of a list. -/
def tokensOf : List Padded :=
  texts.attach.map fun text =>
    ⟨[], text.1.toList, [], isBlank_of_mem_nil, isBlank_of_mem_nil, htexts.trimmed text.1 text.2,
      htexts.noComma text.1 text.2, htexts.noDollar text.1 text.2⟩

theorem map_token_tokensOf : (tokensOf htexts).map Padded.token = texts.map String.toList := by
  rw [tokensOf, List.map_map]
  change (texts.attach.map fun text => text.1.toList) = _
  exact List.attach_map_val

theorem map_text_tokensOf : (tokensOf htexts).map Padded.text = texts.map String.toList := by
  rw [← map_token_tokensOf htexts, List.map_congr_left]
  intro padded hpadded
  obtain ⟨text, -, rfl⟩ := List.mem_map.mp hpadded
  rw [Padded.text, List.nil_append, List.append_nil]

theorem listText_tokensOf : listText (tokensOf htexts) = ",".intercalate texts := by
  rw [← String.toList_inj, listText, map_text_tokensOf, Text.joined_eq_intercalate,
    String.toList_ofList, String.toList_intercalate]
  rfl

theorem getLast_tokensOf (hne : tokensOf htexts ≠ []) :
    ((tokensOf htexts).getLast hne).token ≠ [] := by
  have hmap : (tokensOf htexts).map Padded.token ≠ [] := by simpa using hne
  have hlast : ((tokensOf htexts).map Padded.token).getLast hmap ≠ [] := by
    simp only [map_token_tokensOf, List.getLast_map, ne_eq, String.toList_eq_nil_iff]
    exact htexts.getLast_ne
  rwa [List.getLast_map] at hlast

/-- Nothing of a list of listable texts is dropped. -/
theorem core_tokensOf : core (tokensOf htexts) = tokensOf htexts :=
  List.rdropWhile_eq_self_iff.mpr fun hne hempty =>
    getLast_tokensOf htexts hne (List.isEmpty_iff.mp hempty)

theorem strays_tokensOf : strays (tokensOf htexts) = 0 := by
  have htrailing : trailing (tokensOf htexts) = [] :=
    List.rtakeWhile_eq_nil_iff.mpr fun hne hempty =>
      getLast_tokensOf htexts hne (List.isEmpty_iff.mp hempty)
  rw [strays, htrailing]
  rfl

theorem listText_tokensOf_ne : listText (tokensOf htexts) ≠ "" := by
  intro hempty
  rcases (listText_eq_empty_iff _).mp hempty with hnil | ⟨padded, hsingle, htext⟩
  · rw [tokensOf, List.map_eq_nil_iff, List.attach_eq_nil_iff] at hnil
    exact htexts.ne_nil hnil
  · have hne : tokensOf htexts ≠ [] := by simp [hsingle]
    have hlast := getLast_tokensOf htexts hne
    simp only [hsingle, List.getLast_singleton] at hlast
    exact hlast (Padded.text_eq_nil_iff.mp htext).2.1

/-- Reads a text of a list. -/
def readText (text : String) : Except Fault Endpoint :=
  readToken text.toList

theorem readText_eq_ok_iff {text : String} {endpoint : Endpoint} :
    readText text = .ok endpoint ↔ parse text = .ok endpoint := by
  rw [readText, readToken, String.ofList_toList]
  cases parse text <;> simp

theorem readText_eq_error_iff {text : String} {fault : Fault} :
    readText text = .error fault ↔
      ∃ cause, parse text = .error cause ∧ fault = .invalidEndpoint text (some cause.message) := by
  rw [readText, readToken, String.ofList_toList]
  cases parse text <;> simp [eq_comm]

theorem mapM_readText_eq_ok_iff {endpoints : List Endpoint} :
    texts.mapM readText = .ok endpoints ↔
      List.Forall₂ (fun text endpoint => parse text = .ok endpoint) texts endpoints := by
  simp only [Outcome.mapM_eq_ok_iff, readText_eq_ok_iff]

/-- The first text that cannot be read is reported. -/
theorem exists_first_of_mapM_readText {fault : Fault}
    (hread : texts.mapM readText = .error fault) :
    ∃ before text after cause, texts = before ++ text :: after ∧
      (∀ earlier ∈ before, ∃ endpoint, parse earlier = .ok endpoint) ∧
        parse text = .error cause ∧ fault = .invalidEndpoint text (some cause.message) := by
  obtain ⟨before, text, after, hsplit, hbefore, hfault⟩ := Outcome.mapM_eq_error_iff.mp hread
  obtain ⟨cause, hcause, hfault⟩ := readText_eq_error_iff.mp hfault
  simp only [readText_eq_ok_iff] at hbefore
  exact ⟨before, text, after, cause, hsplit, hbefore, hcause, hfault⟩

include htexts in
/-- The endpoints of a joined list are those of its texts. -/
theorem outcome_configured_intercalate (expansion : Expansion) (env : Table Value) :
    (configured expansion
        (env.insert Property.providerUrl (.text (",".intercalate texts)))).outcome =
      texts.mapM readText >>= fun endpoints => .ok (some endpoints) := by
  rw [← listText_tokensOf htexts,
    outcome_configured_listText _ expansion env (listText_tokensOf_ne htexts),
    core_tokensOf, strays_tokensOf, map_token_tokensOf, List.mapM_map]
  simp only [List.replicate_zero, List.append_nil]
  rfl

end Listable

/-! ## Endpoints and their texts -/

theorem raw_eq_of_parse {text : String} {endpoint : Endpoint}
    (hparse : parse text = .ok endpoint) : endpoint.raw = text := by
  obtain ⟨scheme, parts, hread⟩ := exists_isRead_of_parse hparse
  rw [hread.raw_eq, String.ofList_toList]

theorem map_raw_eq {texts : List String} {endpoints : List Endpoint}
    (hparse : List.Forall₂ (fun text endpoint => parse text = .ok endpoint) texts endpoints) :
    endpoints.map (·.raw) = texts := by
  induction hparse with
  | nil => rfl
  | cons hfirst _ ih => rw [List.map_cons, raw_eq_of_parse hfirst, ih]

/-! ## Lists in configurations -/

/-- A configuration that lists texts as the addresses of providers. -/
def listing (texts : List String) : List (Value × Value) :=
  [(.text "naming", .map [(.text "provider", .map [(.text "url", .list (texts.map .text))])])]

theorem update_flatten_listing (env : Table Value) (texts : List String) :
    env.update (Config.flatten (listing texts) "") =
      env.insert Property.providerUrl (.text (",".intercalate texts)) := by
  have hitems : (texts.map Value.text).map Value.toText = texts := by
    rw [List.map_map]
    exact List.map_id texts
  have hflat : Config.flatten (listing texts) "" =
      ⟨[(Property.providerUrl, Config.leafValue (.list (texts.map .text)))]⟩ :=
    rfl
  rw [hflat, Config.leafValue_list, hitems]
  rfl

/-- A list in a configuration says the same as its joined text.  When all texts can be
read, the endpoints are the ones that they are read as, in order, each with its text,
and the joined texts of the endpoints configure them again.  Otherwise the first text
that cannot be read is reported, and there are no endpoints. -/
theorem configured_listing {texts : List String} (htexts : AreListable texts)
    (expansion : Expansion) (env : Table Value) :
    let listed := env.update (Config.flatten (listing texts) "")
    let joined (texts : List String) (env : Table Value) :=
      env.insert Property.providerUrl (.text (",".intercalate texts))
    configured expansion listed = configured expansion (joined texts env) ∧
      ((∀ text ∈ texts, ∃ endpoint, parse text = .ok endpoint) →
        ∃ endpoints,
          List.Forall₂ (fun text endpoint => parse text = .ok endpoint) texts endpoints ∧
            (configured expansion listed).outcome = .ok (some endpoints) ∧
            endpoints.map (·.raw) = texts ∧
            ∀ other, (configured expansion (joined (endpoints.map (·.raw)) other)).outcome =
              .ok (some endpoints)) ∧
      ((∃ text ∈ texts, ∃ cause, parse text = .error cause) →
        ∃ before text after cause, texts = before ++ text :: after ∧
          (∀ text ∈ before, ∃ endpoint, parse text = .ok endpoint) ∧
            parse text = .error cause ∧
            (configured expansion listed).outcome =
              .error (.invalidEndpoint text (some cause.message))) := by
  intro listed joined
  have hlisted : listed = joined texts env := update_flatten_listing env texts
  have houtcome (env : Table Value) : (configured expansion (joined texts env)).outcome =
      texts.mapM readText >>= fun endpoints => .ok (some endpoints) :=
    outcome_configured_intercalate htexts expansion env
  rw [hlisted]
  refine ⟨rfl, fun hall => ?_, fun ⟨faulty, hfaulty, cause, hcause⟩ => ?_⟩
  · cases hread : texts.mapM readText with
    | error fault =>
        obtain ⟨before, text, after, cause, hsplit, -, hcause, -⟩ :=
          exists_first_of_mapM_readText hread
        have htext : text ∈ texts := by simp [hsplit]
        obtain ⟨endpoint, hendpoint⟩ := hall text htext
        cases hendpoint.symm.trans hcause
    | ok endpoints =>
        have hparse := mapM_readText_eq_ok_iff.mp hread
        have hok (env : Table Value) :
            (configured expansion (joined texts env)).outcome = .ok (some endpoints) := by
          rw [houtcome, hread]
          rfl
        refine ⟨endpoints, hparse, hok env, map_raw_eq hparse, ?_⟩
        rw [map_raw_eq hparse]
        exact hok
  · cases hread : texts.mapM readText with
    | error fault =>
        obtain ⟨before, text, after, cause, hsplit, hbefore, hcause, rfl⟩ :=
          exists_first_of_mapM_readText hread
        refine ⟨before, text, after, cause, hsplit, hbefore, hcause, ?_⟩
        rw [houtcome, hread]
        rfl
    | ok endpoints =>
        obtain ⟨endpoint, hendpoint⟩ := Outcome.exists_ok_of_mem_of_mapM_eq_ok hread hfaulty
        cases (readText_eq_ok_iff.mp hendpoint).symm.trans hcause

/-- A list with an empty text inside is read in full, and of one with a blank inside a
text that text is reported. -/
theorem listings_configured :
    let env : Table Value := ⟨[(Property.connections, .text "c")]⟩
    (∃ endpoints, (configured ⟨none, .empty⟩ (env.update
        (Config.flatten (listing ["a://h", "", "b://h"]) ""))).outcome = .ok (some endpoints) ∧
      endpoints.map (·.raw) = ["a://h", "", "b://h"]) ∧
    ∃ reason, (configured ⟨none, .empty⟩ (env.update
      (Config.flatten (listing ["a://h", "y z", "b://h"]) ""))).outcome =
        .error (.invalidEndpoint "y z" (some reason)) := by
  intro env
  have hfirst : parse "a://h" = .ok ⟨"a://h", some "a", some "h", none, ""⟩ := by
    decide +kernel
  have hempty : parse "" = .ok blank := by
    decide +kernel
  have hlast : parse "b://h" = .ok ⟨"b://h", some "b", some "h", none, ""⟩ := by
    decide +kernel
  have hblank : parse "y z" = .error (.illegalCharacter 1) := by
    decide +kernel
  constructor
  · have hinside : AreListable ["a://h", "", "b://h"] :=
      ⟨by decide +kernel, by decide +kernel, by decide +kernel, by decide, by decide⟩
    obtain ⟨endpoints, -, houtcome, hraw, -⟩ :=
      (configured_listing hinside ⟨none, .empty⟩ env).2.1 (by simp [hfirst, hempty, hlast])
    exact ⟨endpoints, houtcome, hraw⟩
  · have hfaulty : AreListable ["a://h", "y z", "b://h"] :=
      ⟨by decide +kernel, by decide +kernel, by decide +kernel, by decide, by decide⟩
    obtain ⟨before, text, after, cause, hsplit, -, hcause, houtcome⟩ :=
      (configured_listing hfaulty ⟨none, .empty⟩ env).2.2
        ⟨"y z", by decide, _, hblank⟩
    have hmem : text ∈ ["a://h", "y z", "b://h"] := by simp [hsplit]
    obtain rfl : text = "y z" := by
      have hcases : text = "a://h" ∨ text = "y z" ∨ text = "b://h" := by simpa using hmem
      rcases hcases with rfl | rfl | rfl
      · rw [hfirst] at hcause
        cases hcause
      · rfl
      · rw [hlast] at hcause
        cases hcause
    exact ⟨_, houtcome⟩

end NameRouting.Endpoint
