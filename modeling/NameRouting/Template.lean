import NameRouting.Table
import NameRouting.Text.Blank
import NameRouting.Text.Pieces
import NameRouting.Value

/-!
# Templates

A template is a text with references to properties. `${key}` stands for the value of a property,
`${env.KEY}` for a variable of the process, `${a,b}` for the first of several that has a value, and
`${a:default}` for the default, itself a template, when none has one. `$$` stands for a dollar sign.
Every text is a template: a dollar sign before anything else stands for itself, and a reference that
is never closed stands for itself together with all that follows.
-/

namespace NameRouting.Template

/-- Where references find their values: the properties and the variables of the process. -/
structure Scope where
  properties : Table Value
  process : Table String

/-- The value that a key refers to, as a text. -/
def Scope.value? (scope : Scope) (key : List Char) : Option String :=
  match key with
  | 'e' :: 'n' :: 'v' :: '.' :: title => scope.process.get? (String.ofList title)
  | _ =>
    match scope.properties.get? (String.ofList key) with
    | none | some .null => none
    | some value => some value.toText

/-- The value of the first key that has one; blank keys are passed over. -/
def Scope.firstValue? (scope : Scope) (keys : List (List Char)) : Option String :=
  keys.findSome? fun key =>
    let key := Text.trim key
    if key.isEmpty then none else scope.value? key

/-- The body of a reference up to the brace that closes it, and what follows the brace; `depth`
counts the references inside it that are still open. -/
def body? (depth : Nat) : List Char → Option (List Char × List Char)
  | [] => none
  | '$' :: '{' :: rest =>
    (body? (depth + 1) rest).map fun (body, after) => ('$' :: '{' :: body, after)
  | c :: rest =>
    if c = '}' then
      match depth with
      | 0 => some ([], rest)
      | outer + 1 => (body? outer rest).map fun (body, after) => (c :: body, after)
    else
      (body? depth rest).map fun (body, after) => (c :: body, after)

/-- A body and what follows it are together shorter than the text they were found in. -/
theorem length_add_length_lt_of_body? {depth : Nat} {cs body after : List Char}
    (h : body? depth cs = some (body, after)) : body.length + after.length < cs.length := by
  fun_induction body? depth cs generalizing body with
  | case1 => simp at h
  | case2 depth rest ih =>
    obtain ⟨⟨inner, left⟩, hinner, heq⟩ := Option.map_eq_some_iff.1 h
    obtain ⟨rfl, rfl⟩ := Prod.mk.inj heq
    have := ih hinner
    simp only [List.length_cons]
    omega
  | case3 =>
    simp at h
    simp [h.1, h.2]
  | case4 rest outer _ ih =>
    obtain ⟨⟨inner, left⟩, hinner, heq⟩ := Option.map_eq_some_iff.1 h
    obtain ⟨rfl, rfl⟩ := Prod.mk.inj heq
    have := ih hinner
    simp only [List.length_cons]
    omega
  | case5 depth c rest _ _ ih =>
    obtain ⟨⟨inner, left⟩, hinner, heq⟩ := Option.map_eq_some_iff.1 h
    obtain ⟨rfl, rfl⟩ := Prod.mk.inj heq
    have := ih hinner
    simp only [List.length_cons]
    omega

/-- The text that a template stands for. -/
def meaning (scope : Scope) (cs : List Char) : List Char :=
  match cs with
  | [] => []
  | '$' :: '$' :: rest => '$' :: meaning scope rest
  | '$' :: '{' :: rest =>
    match _hbody : body? 0 rest with
    | none => '$' :: '{' :: rest
    | some (body, after) =>
      match _hcut : Text.cutAt ':' body with
      | (keys, none) =>
        ((scope.firstValue? (Text.pieces ',' keys)).getD "").toList ++ meaning scope after
      | (keys, some default) =>
        (match scope.firstValue? (Text.pieces ',' keys) with
          | some value => value.toList
          | none => meaning scope default) ++ meaning scope after
  | c :: rest => c :: meaning scope rest
termination_by cs.length
decreasing_by
  all_goals
    try have := length_add_length_lt_of_body? _hbody
    try have := Text.length_lt_of_cutAt_eq_some _hcut
    simp only [List.length_cons]
    omega

/-- The text that a template stands for. -/
def expand (scope : Scope) (template : String) : String :=
  String.ofList (meaning scope template.toList)

end NameRouting.Template
