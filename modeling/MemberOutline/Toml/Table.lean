import MemberOutline.Toml.Basic

/-!
# Building tables

Assignments and sections add to tables under the rules that no key is given twice, that no table is
declared twice, and that a dotted key reaches only tables made by dotted keys.
-/

namespace MemberOutline.Toml

/-- Whether a path may lead through a table of this origin. A dotted key does not reach into a table
that a header declares, and nothing reaches into a value. -/
def Origin.admits (origin : Origin) (byKey : Bool) : Bool :=
  match origin with
  | .declared => !byKey
  | .implied | .dotted => true
  | .inline => false

/-- Changes the table at the end of a path and makes the tables missing on the way. A path through
repeated tables leads to the last one. -/
def Entries.alter (byKey : Bool) (change : Origin → Entries → Option Entries) :
    List Text → Origin → Entries → Option Entries
  | [], origin, entries => change origin entries
  | key :: path, _, entries =>
    match entries.find? key with
    | none =>
      let origin := if byKey then .dotted else .implied
      (alter byKey change path origin []).map fun inner => entries ++ [(key, .table origin inner)]
    | some (.table origin inner) =>
      if origin.admits byKey then
        (alter byKey change path origin inner).map fun inner =>
          entries.replace key (.table origin inner)
      else none
    | some (.tables elements) =>
      match elements.getLast? with
      | none => none
      | some last =>
        (alter byKey change path .declared last).map fun last =>
          entries.replace key (.tables (elements.dropLast ++ [last]))
    | some _ => none

/-- Adds a value. Behind a dotted key the table must come from dotted keys too. -/
def Entries.assign (entries : Entries) (a : Assignment) : Option Entries :=
  entries.alter true (fun origin inner =>
    if origin = .dotted ↔ a.path = [] then none
    else if (inner.find? a.key).isSome then none
    else some (inner ++ [(a.key, a.node)])) a.path .declared

/-- Adds values in turn. -/
def Entries.assignAll (entries : Entries) (assignments : List Assignment) : Option Entries :=
  assignments.foldlM Entries.assign entries

/-- Adds the table of a section. A table that headers of inner tables implied is declared now and
moves to the end. -/
def Entries.addSection (entries : Entries) (s : Section) : Option Entries :=
  entries.alter false (fun _ outer =>
    match outer.find? s.key, s.repeated with
    | none, false =>
      (Entries.assignAll [] s.assignments).map fun inner =>
        outer ++ [(s.key, .table .declared inner)]
    | some (.table .implied inner), false =>
      (Entries.assignAll inner s.assignments).map fun inner =>
        outer.erase s.key ++ [(s.key, .table .declared inner)]
    | none, true =>
      (Entries.assignAll [] s.assignments).map fun inner => outer ++ [(s.key, .tables [inner])]
    | some (.tables elements), true =>
      (Entries.assignAll [] s.assignments).map fun inner =>
        outer.replace s.key (.tables (elements ++ [inner]))
    | _, _ => none) s.path .declared

/-- The document with these assignments before its first header and these sections. -/
def document? (assignments : List Assignment) (sections : List Section) : Option Entries :=
  (Entries.assignAll [] assignments).bind fun entries => sections.foldlM Entries.addSection entries

end MemberOutline.Toml
