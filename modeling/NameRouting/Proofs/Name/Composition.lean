import NameRouting.Proofs.Name.Grammar
import NameRouting.Routing.Session

/-!
# Composed names

Putting a name in front of another one concatenates their components, whatever form
the two have.  Written names are read first and the result is written again, so the
law rests on the writer and the reader being inverse to each other: the text of the
result is not the concatenation of the texts.

A composite name in front that the user keeps is extended in its place.  No other name
of the user changes, and none at all when a written name cannot be read.
-/

namespace NameRouting

namespace CompositeName

theorem append_assoc (front middle back : CompositeName) :
    front ++ middle ++ back = front ++ (middle ++ back) :=
  congrArg mk (List.append_assoc _ _ _)

theorem nil_append (name : CompositeName) : ⟨[]⟩ ++ name = name :=
  rfl

theorem append_nil (name : CompositeName) : name ++ ⟨[]⟩ = name :=
  congrArg mk (List.append_nil _)

end CompositeName

namespace GivenName

variable {name outer : GivenName} {front back : CompositeName} {fault : Fault}

/-! ## The name that is composed -/

/-- The written form of a name is read as that name. -/
theorem resolve_text_render (name : CompositeName) :
    (GivenName.text name.render).resolve = .ok name := by
  rw [resolve, CompositeName.parse, CompositeName.render, String.toList_ofList,
    CompositeName.readSegments_renderComponents]
  simp

theorem resolve_text_empty : (GivenName.text "").resolve = .ok ⟨[]⟩ :=
  resolve_text_render ⟨[]⟩

theorem ne_missing_of_resolve (hname : name.resolve = .ok back) : name ≠ .missing := by
  rintro rfl
  exact nomatch hname

/-- A composed name is written if both names are, and in components otherwise. -/
def inForm (name outer : GivenName) (whole : CompositeName) : GivenName :=
  match name, outer with
  | .text _, .text _ => .text whole.render
  | _, _ => .composite whole

/-- The name in front is read first. -/
theorem compose_eq (hname : name ≠ .missing) (houter : outer ≠ .missing) :
    name.compose outer =
      outer.resolve.bind fun front =>
        name.resolve.bind fun back => .ok (inForm name outer (front ++ back)) := by
  cases name with
  | missing => exact absurd rfl hname
  | text _ => cases outer <;> first | rfl | exact absurd rfl houter
  | composite _ => cases outer <;> first | rfl | exact absurd rfl houter

theorem compose_eq_ok (houter : outer.resolve = .ok front) (hname : name.resolve = .ok back) :
    name.compose outer = .ok (inForm name outer (front ++ back)) := by
  rw [compose_eq (ne_missing_of_resolve hname) (ne_missing_of_resolve houter), houter, hname]
  rfl

/-- Two written names compose to the written form of their concatenation. -/
theorem compose_texts {name outer : String}
    (houter : CompositeName.parse outer = .ok front)
    (hname : CompositeName.parse name = .ok back) :
    (GivenName.text name).compose (.text outer) = .ok (.text (front ++ back).render) :=
  compose_eq_ok houter hname

theorem compose_composites (front back : CompositeName) :
    (GivenName.composite back).compose (.composite front) =
      .ok (.composite (front ++ back)) :=
  compose_eq_ok rfl rfl

/-- Three written names may be put together from either end. -/
theorem compose_texts_assoc {first second third : String} {a b c : CompositeName}
    (hfirst : CompositeName.parse first = .ok a) (hsecond : CompositeName.parse second = .ok b)
    (hthird : CompositeName.parse third = .ok c) :
    ((GivenName.text second).compose (.text first)).bind
        (fun inner => (GivenName.text third).compose inner) =
          .ok (.text (a ++ b ++ c).render) ∧
      ((GivenName.text third).compose (.text second)).bind
        (fun inner => inner.compose (.text first)) =
          .ok (.text (a ++ b ++ c).render) := by
  constructor
  · rw [compose_texts hfirst hsecond]
    exact compose_texts (resolve_text_render _) hthird
  · rw [compose_texts hsecond hthird, CompositeName.append_assoc]
    exact compose_texts hfirst (resolve_text_render _)

/-- A name composed with the empty text is written anew. -/
theorem compose_empty {text : String} {name : CompositeName}
    (hname : CompositeName.parse text = .ok name) :
    (GivenName.text text).compose (.text "") = .ok (.text name.render) ∧
      (GivenName.text "").compose (.text text) = .ok (.text name.render) := by
  have hfront := compose_texts resolve_text_empty hname
  have hback := compose_texts hname resolve_text_empty
  rw [CompositeName.nil_append] at hfront
  rw [CompositeName.append_nil] at hback
  exact ⟨hfront, hback⟩

/-- A name that cannot be read is refused, and the one in front is the first to be
read. -/
theorem exists_of_isUnreadable (hname : name ≠ .missing) (houter : outer ≠ .missing)
    (hunreadable : outer.IsUnreadable ∨ name.IsUnreadable) :
    ∃ text, ∃ cause : NameFault,
      (outer = .text text ∨ (¬ outer.IsUnreadable ∧ name = .text text)) ∧
        name.compose outer = .error (.malformedName text cause.reason) := by
  rw [compose_eq hname houter]
  cases hfront : outer.resolve with
  | error fault =>
      obtain ⟨text, cause, rfl, rfl⟩ := exists_of_resolve_eq_error houter hfront
      exact ⟨text, cause, .inl rfl, rfl⟩
  | ok front =>
      have hread : ¬ outer.IsUnreadable := by
        rintro ⟨fault, hfault⟩
        exact nomatch hfront.symm.trans hfault
      obtain ⟨fault, hfault⟩ := hunreadable.resolve_left hread
      obtain ⟨text, cause, rfl, rfl⟩ := exists_of_resolve_eq_error hname hfault
      refine ⟨text, cause, .inr ⟨hread, rfl⟩, ?_⟩
      rw [hfault]
      rfl

end GivenName

/-! ## The names that a user keeps -/

/-- Two arguments are the same object only if they are the same kept name. -/
def NameArgument.IsApart (name other : NameArgument) : Prop :=
  ∀ key, other = .kept key → name ≠ .kept key

namespace Session

variable (session : Session) (router : Router) (environment : Nat)
  {name outer : NameArgument} {front back : CompositeName} {key : String}

/-- The session after a composition: a kept name in front is extended in its place. -/
def extended (session : Session) (outer : NameArgument) (outcome : Except Fault GivenName) :
    Session :=
  match outcome, outer with
  | .ok (.composite whole), .kept key =>
    { session with names := session.names.insert key whole }
  | _, _ => session

theorem compose_routing :
    session.compose (.routing router environment) name outer =
      ((session.name name).compose (session.name outer),
        session.extended outer ((session.name name).compose (session.name outer))) := by
  have hrouter : (Held.routing router environment).router "compose_name" = .ok router := rfl
  unfold compose extended
  -- A routing context has the operation, so only the outcome of composing decides.
  rw [hrouter]
  change (match (session.name name).compose (session.name outer), outer with
    | .ok (.composite whole), .kept key =>
      ((session.name name).compose (session.name outer),
        { session with names := session.names.insert key whole })
    | _, _ => ((session.name name).compose (session.name outer), session)) = _
  split <;> rfl

theorem extended_error (fault : Fault) : session.extended outer (.error fault) = session :=
  rfl

theorem name_kept_eq_composite_iff :
    session.name (.kept key) = .composite front ↔ session.names.get? key = some front := by
  rw [name]
  cases session.names.get? key <;> simp

theorem name_insert_self (whole : CompositeName) :
    ({ session with names := session.names.insert key whole } : Session).name (.kept key) =
      .composite whole := by
  rw [name_kept_eq_composite_iff]
  exact Table.get?_insert_self _ _ _

theorem name_insert_of_ne {other : NameArgument} (hother : other ≠ .kept key)
    (whole : CompositeName) :
    ({ session with names := session.names.insert key whole } : Session).name other =
      session.name other := by
  cases other with
  | given given => rfl
  | kept otherKey =>
      have hkey : key ≠ otherKey := by
        rintro rfl
        exact hother rfl
      rw [name, Table.get?_insert_of_ne _ _ hkey]
      rfl

/-- A refused composition has no effect. -/
theorem compose_of_isUnreadable (hname : session.name name ≠ .missing)
    (houter : session.name outer ≠ .missing)
    (hunreadable : (session.name outer).IsUnreadable ∨ (session.name name).IsUnreadable) :
    ∃ text, ∃ cause : NameFault,
      (session.name outer = .text text ∨ session.name name = .text text) ∧
        session.compose (.routing router environment) name outer =
          (.error (.malformedName text cause.reason), session) := by
  obtain ⟨text, cause, hgiven, hcompose⟩ :=
    GivenName.exists_of_isUnreadable hname houter hunreadable
  refine ⟨text, cause, hgiven.imp_right And.right, ?_⟩
  rw [compose_routing, hcompose, extended_error]

theorem compose_of_composite (hfront : session.name outer = .composite front)
    (hback : (session.name name).resolve = .ok back) :
    session.compose (.routing router environment) name outer =
      (.ok (.composite (front ++ back)),
        session.extended outer (.ok (.composite (front ++ back)))) := by
  have houter : (session.name outer).resolve = .ok front := by
    rw [hfront]
    rfl
  have hcompose : (session.name name).compose (session.name outer) =
      .ok (.composite (front ++ back)) := by
    rw [GivenName.compose_eq_ok houter hback, hfront]
    cases session.name name <;> rfl
  rw [compose_routing, hcompose]

/-- Extending a name changes what is known under its key, and nothing else. -/
theorem extended_composite (outer : NameArgument) (whole : CompositeName) :
    let after := session.extended outer (.ok (.composite whole))
    after = { session with names := after.names } ∧
      (∀ key, outer = .kept key → after.name outer = .composite whole) ∧
      ∀ other : NameArgument, other.IsApart outer → after.name other = session.name other := by
  intro after
  cases outer with
  | given given =>
      refine ⟨rfl, ?_, fun other _ => rfl⟩
      intro key hkey
      exact nomatch hkey
  | kept key =>
      refine ⟨rfl, fun _ _ => session.name_insert_self whole, ?_⟩
      intro other hother
      exact session.name_insert_of_ne (hother key rfl) whole

/-- Composing concatenates names, written ones and those in components alike.  It is
associative on written names, and with the empty name it gives the form in which the
other one is written.  A name that cannot be read is refused without any effect; a
kept name in front is extended in its place, and all other names stay as they are.
Only the empty name can be put in front of itself where it is kept. -/
theorem compose_concatenates :
    (∀ name outer back front,
      CompositeName.parse name = .ok back → CompositeName.parse outer = .ok front →
        ∃ whole joint, (GivenName.text name).compose (.text outer) = .ok (.text whole) ∧
          CompositeName.parse whole = .ok (front ++ back) ∧
          (GivenName.composite back).compose (.composite front) = .ok (.composite joint) ∧
          whole = joint.render) ∧
      (∀ first second third a b c, CompositeName.parse first = .ok a →
        CompositeName.parse second = .ok b → CompositeName.parse third = .ok c →
          ∃ whole,
            ((GivenName.text second).compose (.text first)).bind
              (fun inner => (GivenName.text third).compose inner) = .ok (.text whole) ∧
            ((GivenName.text third).compose (.text second)).bind
              (fun inner => inner.compose (.text first)) = .ok (.text whole)) ∧
      (∀ text name, CompositeName.parse text = .ok name →
        (GivenName.text text).compose (.text "") = .ok (.text name.render) ∧
          (GivenName.text "").compose (.text text) = .ok (.text name.render)) ∧
      ∀ (session : Session) (router : Router) (environment : Nat) (name outer : NameArgument),
        session.name name ≠ .missing → session.name outer ≠ .missing →
          let composed := session.compose (.routing router environment) name outer
          (name.IsApart outer ∨ session.name outer = .composite ⟨[]⟩ →
              composed.1 = (session.name name).compose (session.name outer)) ∧
            ((session.name outer).IsUnreadable ∨ (session.name name).IsUnreadable →
              ∃ text, ∃ cause : NameFault,
                (session.name outer = .text text ∨ session.name name = .text text) ∧
                  composed = (.error (.malformedName text cause.reason), session)) ∧
            ∀ front back, session.name outer = .composite front →
              (session.name name).resolve = .ok back → name.IsApart outer →
                composed.1 = .ok (.composite (front ++ back)) ∧
                  composed.2 = { session with names := composed.2.names } ∧
                  (∀ key, outer = .kept key →
                    composed.2.name outer = .composite (front ++ back)) ∧
                  composed.2.name name = session.name name ∧
                  ∀ other : NameArgument, other.IsApart outer →
                    composed.2.name other = session.name other := by
  refine ⟨?_, ?_, fun text name => GivenName.compose_empty, ?_⟩
  · intro name outer back front hname houter
    exact ⟨(front ++ back).render, front ++ back, GivenName.compose_texts houter hname,
      GivenName.resolve_text_render _, GivenName.compose_composites front back, rfl⟩
  · intro first second third a b c hfirst hsecond hthird
    exact ⟨_, GivenName.compose_texts_assoc hfirst hsecond hthird⟩
  · intro session router environment name outer hname houter composed
    refine ⟨fun _ => congrArg Prod.fst (session.compose_routing router environment),
      session.compose_of_isUnreadable router environment hname houter, ?_⟩
    intro front back hfront hback hapart
    have hcomposed : composed = _ :=
      session.compose_of_composite router environment hfront hback
    obtain ⟨hnames, hself, hothers⟩ := session.extended_composite outer (front ++ back)
    rw [hcomposed]
    exact ⟨rfl, hnames, hself, hothers name hapart, hothers⟩

/-- A router without plugins. -/
def bareRouter : Router :=
  ⟨⟨[], [], .empty⟩, ⟨none, .empty⟩⟩

/-- The session of a user who keeps a name of empty components and one that needs a
mark. -/
def twoNames : Session :=
  start .empty (.routing bareRouter 0)
    ⟨[("blank", ⟨["", ""]⟩), ("slashed", ⟨["a/", ""]⟩)]⟩

theorem twoNames_composed :
    (∃ whole joint, (GivenName.text "'/'/b").compose (.text "//") = .ok (.text whole) ∧
      CompositeName.parse whole = .ok ⟨["", "", "/", "b"]⟩ ∧
      (GivenName.composite ⟨["/", "b"]⟩).compose (.composite ⟨["", ""]⟩) =
        .ok (.composite joint) ∧
      whole = joint.render) ∧
      let composed := twoNames.compose (.routing bareRouter 0) (.kept "slashed") (.kept "blank")
      composed.1 = .ok (.composite ⟨["", "", "a/", ""]⟩) ∧
        composed.2.name (.kept "blank") = .composite ⟨["", "", "a/", ""]⟩ ∧
        composed.2.name (.kept "slashed") = .composite ⟨["a/", ""]⟩ := by
  obtain ⟨hwritten, -, -, hkept⟩ := compose_concatenates
  refine ⟨?_, ?_⟩
  · exact hwritten "'/'/b" "//" ⟨["/", "b"]⟩ ⟨["", ""]⟩ (by decide +kernel) (by decide +kernel)
  · have hslashed : twoNames.name (.kept "slashed") = .composite ⟨["a/", ""]⟩ := by decide
    have hblank : twoNames.name (.kept "blank") = .composite ⟨["", ""]⟩ := by decide
    have hapart : NameArgument.IsApart (.kept "slashed") (.kept "blank") := by
      intro key hkey hsame
      rw [← hkey] at hsame
      exact absurd hsame (by decide)
    obtain ⟨-, -, hextends⟩ := hkept twoNames bareRouter 0 (.kept "slashed") (.kept "blank")
      (by simp [hslashed]) (by simp [hblank])
    obtain ⟨houtcome, -, hself, hname, -⟩ :=
      hextends ⟨["", ""]⟩ ⟨["a/", ""]⟩ hblank (by rw [hslashed]; rfl) hapart
    exact ⟨houtcome, hself "blank" rfl, hname.trans hslashed⟩

end Session

end NameRouting
