import MemberOutline.Text.Basic

/-!
# TOML documents

A document is a table. A table remembers how it came to be, since that decides what may still be
added to it, and keeps its entries in the order in which they were made.
-/

namespace MemberOutline.Toml

/-- How a table came to be. -/
inductive Origin where
  /-- By a header of its own, or as the document. -/
  | declared
  /-- By the header of a table inside it. -/
  | implied
  /-- By a dotted key. -/
  | dotted
  /-- As a value between braces. -/
  | inline
  deriving DecidableEq, Repr

/-- What a key stands for. -/
inductive Node where
  | string (s : Text)
  | integer (n : Int)
  | float (x : Float)
  | boolean (b : Bool)
  /-- A date, a time or both; nothing more is asked of it. -/
  | datetime
  | array (items : List Node)
  | table (origin : Origin) (entries : List (Text × Node))
  /-- The tables that repeated headers of one name declare. -/
  | tables (elements : List (List (Text × Node)))
  deriving Repr, Inhabited

/-- The entries of a table in order. -/
abbrev Entries := List (Text × Node)

/-- What a table has under a key. -/
def Entries.find? (entries : Entries) (key : Text) : Option Node := entries.lookup key

/-- The entries with another node under a key that they have. -/
def Entries.replace (entries : Entries) (key : Text) (node : Node) : Entries :=
  entries.map fun entry => if entry.1 = key then (key, node) else entry

/-- The entries without a key. -/
def Entries.erase (entries : Entries) (key : Text) : Entries :=
  entries.filter fun entry => entry.1 ≠ key

/-- A value for a key, or for one inside tables that a dotted key names. -/
structure Assignment where
  path : List Text
  key : Text
  node : Node
  deriving Repr

/-- A header with the assignments below it. -/
structure Section where
  /-- Whether the header adds one more table to those of its name. -/
  repeated : Bool
  path : List Text
  key : Text
  assignments : List Assignment
  deriving Repr

end MemberOutline.Toml
