import NameRouting.Reader.Yaml.Typing

/-!
# Documents

A reader of documents to run the program with, in an interpreter without limits. It knows JSON, and
the part of YAML that configurations are written in: collections of numbers, truth values and texts.
Moments are texts for it; it has no sets and no binary data, and a collection cannot contain itself.
What is proved about the program holds with any other reader in its place.
-/

namespace NameRouting.Reader

/-- The text with every line end as a line feed. -/
def withLineFeeds : List Char → List Char
  | [] => []
  | '\r' :: '\n' :: rest => '\n' :: withLineFeeds rest
  | c :: rest => (if c = '\r' then '\n' else c) :: withLineFeeds rest

/-- Reads a document in JSON, or else in YAML. -/
def read (json : Bool) (bytes : ByteArray) : Except ReadFault Value :=
  match String.fromUTF8? bytes with
  | none => .error (.raised (.value "UnicodeDecodeError" "'utf-8' codec can't decode"))
  | some text =>
    let cs := withLineFeeds text.toList
    if json then Json.parse cs else Yaml.parse cs

/-- An interpreter without limits, on a machine without accounts. -/
def interpreter : Interpreter where
  read := read
  flattening _ := none
  derivation _ := none
  printing _ := none
  home? _ := none

end NameRouting.Reader
