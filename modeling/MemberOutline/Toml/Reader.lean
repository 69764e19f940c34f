import MemberOutline.Toml.Table
import MemberOutline.Toml.Numbers

/-!
# Reading TOML

A document is a list of assignments and headers, one a line. Arrays may go over several lines,
tables between braces may not. Arrays and such tables nest up to a fixed depth.
-/

namespace MemberOutline.Toml

/-- A value that holds no other. -/
def readScalar (t : Text) : Option (Node × Text) :=
  match t with
  | [] => none
  | c :: _ =>
    if c = '\x22' ∨ c = '\x27' then (readString t).map fun (s, rest) => (.string s, rest)
    else if c = 't' then (Text.after? "true".toList t).map fun rest => (.boolean true, rest)
    else if c = 'f' then (Text.after? "false".toList t).map fun rest => (.boolean false, rest)
    else if c.isDigit ∨ c = '+' ∨ c = '-' then readNumber t
    else readSpecialFloat t

/-- The items of an array up to its closing bracket; a comma may follow the last one. -/
def readItems (readOne : Text → Option (Node × Text)) : Nat → Text → Option (List Node × Text)
  | 0, _ => none
  | bound + 1, t =>
    match skipBlankLines false t with
    | ']' :: rest => some ([], rest)
    | t =>
      match readOne t with
      | none => none
      | some (item, rest) =>
        match skipBlankLines false rest with
        | ',' :: rest =>
          (readItems readOne bound rest).map fun (items, rest) => (item :: items, rest)
        | ']' :: rest => some ([item], rest)
        | _ => none

/-- An assignment, with the spaces around its value. -/
def readAssignment (readOne : Text → Option (Node × Text)) (t : Text) :
    Option (Assignment × Text) := do
  let (path, key, t) ← readKey t
  let t ← expect '=' t
  let (node, t) ← readOne (skipSpaces t)
  return (⟨path, key, node⟩, skipSpaces t)

/-- The assignments of a table between braces, at least one, up to its closing brace. -/
def readFields (readOne : Text → Option (Node × Text)) : Nat → Text →
    Option (List Assignment × Text)
  | 0, _ => none
  | bound + 1, t =>
    match readAssignment readOne t with
    | none => none
    | some (a, rest) =>
      match rest with
      | ',' :: rest => (readFields readOne bound rest).map fun (more, rest) => (a :: more, rest)
      | '}' :: rest => some ([a], rest)
      | _ => none

/-- A value in which arrays and tables nest up to a depth. -/
def readValue : Nat → Text → Option (Node × Text)
  | 0, t => readScalar t
  | depth + 1, t =>
    match t with
    | '[' :: rest =>
      (readItems (readValue depth) (rest.length + 1) rest).map fun (items, rest) =>
        (.array items, rest)
    | '{' :: rest =>
      match skipSpaces rest with
      | '}' :: rest => some (.table .inline [], rest)
      | rest =>
        match readFields (readValue depth) (rest.length + 1) rest with
        | none => none
        | some (assignments, rest) =>
          (Entries.assignAll [] assignments).map fun entries => (.table .inline entries, rest)
    | _ => readScalar t

/-- A line of a document. -/
inductive Statement where
  | assignment (a : Assignment)
  | header (repeated : Bool) (path : List Text) (key : Text)
  deriving Repr

/-- A header, after its first bracket. -/
def readHeader (t : Text) : Option (Statement × Text) := do
  let (repeated, t) := match t with
    | '[' :: rest => (true, rest)
    | _ => (false, t)
  let (path, key, t) ← readKey t
  let t ← expect ']' t
  let t ← if repeated then expect ']' t else some t
  return (.header repeated path key, t)

/-- A statement, with the end of its line. -/
def readStatement (t : Text) : Option (Statement × Text) := do
  let (statement, t) ← match t with
    | '[' :: rest => readHeader rest
    | _ => (readAssignment (readValue nestingLimit) t).map fun (a, rest) => (.assignment a, rest)
  let t ← afterLineEnd? t
  return (statement, t)

/-- The statements of a document, at most as many as the bound. -/
def readStatements : Nat → Text → Option (List Statement)
  | 0, _ => none
  | bound + 1, t =>
    match skipBlankLines false t with
    | [] => some []
    | t =>
      match readStatement t with
      | none => none
      | some (statement, rest) => (readStatements bound rest).map (statement :: ·)

/-- The assignments before the first header, and the headers with those below each. -/
def group (statements : List Statement) : List Assignment × List Section :=
  statements.foldr (fun statement (assignments, sections) =>
    match statement with
    | .assignment a => (a :: assignments, sections)
    | .header repeated path key => ([], ⟨repeated, path, key, assignments⟩ :: sections))
    ([], [])

/-- The document that a text holds. A byte order mark may come first. -/
def read? (t : Text) : Option Entries := do
  let t := (expect '\uFEFF' t).getD t
  let statements ← readStatements (t.length + 1) t
  let (assignments, sections) := group statements
  document? assignments sections

end MemberOutline.Toml
