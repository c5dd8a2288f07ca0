import RecordSchema.Json.Reader

/-!
# Input documents

A check reads its documents from files, each of them one JSON document in UTF-8. Paths are put into
their shortest form first, and it is in this form that messages give them.
-/

namespace RecordSchema.Checker

/-- What a path leads to. -/
inductive File where
  | missing
  /-- Something is there, but its content cannot be read. -/
  | unreadable
  | content (bytes : ByteArray)

/-- The files that a check can see, by their paths. -/
abbrev Files := Text → File

namespace Path

/-- The parts of a path between its slashes. -/
def parts : List Point → List (List Point)
  | [] => [[]]
  | c :: rest =>
    match c, parts rest with
    | '/', others => [] :: others
    | _, part :: others => (c :: part) :: others
    | _, [] => [[c]]

/-- The slashes that a path starts with, of which one or exactly two count. -/
def root (cs : List Point) : List Point :=
  match (cs.takeWhile (· = .char '/')).length with
  | 0 => []
  | 2 => [.char '/', .char '/']
  | _ => [.char '/']

/-- A path without empty parts and without parts that stay in place. -/
def tidy (path : Text) : Text :=
  let cs := path.toList
  let kept := (parts cs).filter fun part => part ≠ [] ∧ part ≠ [.char '.']
  match root cs ++ List.intercalate [.char '/'] kept with
  | [] => "."
  | tidied => Text.ofList tidied

end Path

/-- Why a document cannot be read. -/
inductive InputFault where
  | notFound (path : Text)
  | unreadable (path : Text)
  | notText (path : Text)
  | notDocument (path : Text)
  deriving DecidableEq, Repr

/-- The message of an input fault. -/
def InputFault.message : InputFault → Text
  | notFound path => "File not found: " ++ path
  | unreadable path => "File not readable: " ++ path
  | notText path => "File not in UTF-8: " ++ path
  | notDocument path => "File not a JSON document: " ++ path

/-- Reads the document at a path. -/
def load (files : Files) (path : Text) : Except InputFault Value :=
  let path := Path.tidy path
  match files path with
  | .missing => .error (.notFound path)
  | .unreadable => .error (.unreadable path)
  | .content bytes =>
    match String.fromUTF8? bytes with
    | none => .error (.notText path)
    | some s =>
      match Json.read? s.toList with
      | none => .error (.notDocument path)
      | some v => .ok v

end RecordSchema.Checker
