import NameRouting.Name.Parse
import NameRouting.Program

/-!
# The library's own contexts

An empty context finds nothing but itself under the empty name, and refuses to be changed. A plain
context offers no operation at all. Every other context is asked to carry out the operation.
-/

namespace NameRouting

namespace Operation

/-- The word for a change in the refusal of an empty context. -/
def refusedChange? : Operation → Option (String × GivenName)
  | on (.bind _) name => some ("bind", name)
  | on (.rebind _) name => some ("rebind", name)
  | on .unbind name => some ("unbind", name)
  | on .createSubcontext name => some ("create", name)
  | rename old _ => some ("rename", old)
  | _ => none

end Operation

namespace Context

/-- What an empty context replies when its own name, the empty one, is looked up or listed. -/
def emptyReply (environment : Nat) : Verb → Reply
  | .list | .listBindings => .listing (.enumeration ⟨some ⟨[], none⟩, [], false⟩)
  | _ => .context ⟨.empty, environment, none⟩

/-- What an empty context of an environment does. -/
def performEmpty (environment : Nat) (operation : Operation) : Except Fault Reply :=
  match operation.refusedChange? with
  | some (change, name) =>
    .error (.notSupported ("Read-only context: cannot " ++ change ++ " " ++ name.display))
  | none =>
    match operation with
    | .on .destroySubcontext name => .error (.nameNotFound name)
    | .on verb name => do
      let found ← name.resolve
      if found.isEmpty then
        return emptyReply environment verb
      else
        throw (.nameNotFound name)
    | .rename old _ => .error (.nameNotFound old)

/-- Carries out an operation in a context. -/
def perform (context : Context) (operation : Operation) : Program Reply :=
  match context.kind with
  | .own _ => Program.request (.perform context operation)
  | .empty => Program.ofExcept (performEmpty context.environment operation)
  | .plain => Program.fail (.notSupported ("Not supported: " ++ operation.word))

end Context

end NameRouting
