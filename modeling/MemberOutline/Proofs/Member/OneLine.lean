import MemberOutline.Member.Classify
import MemberOutline.Proofs.Member.Accessor
import MemberOutline.Proofs.Shape.OneLine

/-!
# What an outline shows stands on one line

A name is a word of the leading text, or the word `operator` with a symbol that was cut off at the
first blank (`operatorName_oneLine`). A label is made of a name or is the leading text. So nothing
that the outline shows of a member breaks a line, whatever the declaration looks like
(`oneLine_ofText`).
-/

namespace MemberOutline.Member

open Text (isBlank Solid)

/-- What the outline shows of a member stands on one line, with its modifiers as single words and
its sequence without blanks. -/
structure OneLine (m : Member) : Prop where
  /-- The modifiers are words that a declaration may start with. -/
  modifiers : ∀ w ∈ m.modifiers, w ∈ modifierWords
  /-- One of them tells whether the member is static. -/
  isStatic : m.isStatic = m.modifiers.contains "static".toList
  /-- The name stands on one line. -/
  name : Text.OneLine m.name
  /-- The label stands on one line. -/
  label : Text.OneLine m.label
  /-- The sequence has no blanks. -/
  sequence : Solid m.shape.sequence

/-! ## Names -/

variable {t symbol : Text}

/-- The symbol of an operator has no blanks: it ends before the first one. -/
theorem operatorSymbolHere?_solid (h : operatorSymbolHere? t = some symbol) :
    Solid symbol := by
  unfold operatorSymbolHere? at h
  split at h
  next rest _ =>
    simp only [Option.ite_none_left_eq_some, Option.some.injEq] at h
    obtain ⟨-, rfl⟩ := h
    intro c hc
    have hsymbol := List.mem_takeWhile_imp hc
    simp only [Bool.and_eq_true, Bool.not_eq_true'] at hsymbol
    exact hsymbol.1
  next _ => cases h

/-- The first operator symbol in a declaration has no blanks. -/
theorem operatorSymbolFrom?_solid {inWord : Bool}
    (h : operatorSymbolFrom? inWord t = some symbol) : Solid symbol := by
  induction t generalizing inWord with
  | nil => cases h
  | cons c rest ih =>
    simp only [operatorSymbolFrom?] at h
    rcases Option.or_eq_some_iff.1 h with hhere | ⟨-, hlater⟩
    · split_ifs at hhere
      exact operatorSymbolHere?_solid hhere
    · exact ih hlater

/-- The name of an operator stands on one line. -/
theorem operatorName_oneLine (declaration : Text) : Text.OneLine (operatorName declaration) := by
  have hword : Text.OneLine Shape.operatorWord := by decide
  have hspace : Text.OneLine [' '] := by decide
  unfold operatorName
  cases hsymbol : operatorSymbolFrom? false declaration with
  | none => exact hword
  | some symbol =>
    have hsolid := operatorSymbolFrom?_solid hsymbol
    exact hword.append (hspace.append hsolid.oneLine)

/-- The last word of a text stands on one line. -/
theorem lastWord_oneLine (t : Text) : Text.OneLine ((Text.words t).getLast?.getD []) := by
  cases hlast : (Text.words t).getLast? with
  | none => exact fun c hc => by cases hc
  | some w =>
    have hmem := List.mem_of_getLast? hlast
    rw [Text.words_eq_runs] at hmem
    have hsolid : Solid w := fun c hc => ((Text.of_mem_runs hmem).2 c hc).2
    exact hsolid.oneLine

/-- The name of an accessor stands on one line. -/
theorem accessorName_oneLine {a : Accessor} {name : Text} (h : accessor? t = some (a, name)) :
    Text.OneLine name := by
  obtain ⟨-, hname, -⟩ := accessor?_eq_some_iff.1 h
  have hsolid : Solid name := not_isBlank_of_isName hname
  exact hsolid.oneLine

/-- The name of a member stands on one line. -/
theorem name_oneLine (declaration : Text) (shape : Shape) (modifiers : List Text)
    (className : Option Text) :
    Text.OneLine (kindAndName declaration shape modifiers className).2 := by
  unfold kindAndName
  simp only
  split_ifs
  · exact operatorName_oneLine declaration
  all_goals
    split
    · exact accessorName_oneLine ‹_›
    · exact accessorName_oneLine ‹_›
    · exact lastWord_oneLine _

/-- A label stands on one line if the name and the leading text do. -/
theorem labelOf_oneLine {name leadingText : Text} (kind : Kind) (hname : Text.OneLine name)
    (hleading : Text.OneLine leadingText) : Text.OneLine (labelOf kind name leadingText) := by
  have hget : Text.OneLine "get ".toList := by decide
  have hset : Text.OneLine "set ".toList := by decide
  have hcall : Text.OneLine "()".toList := by decide
  cases kind with
  | getter => exact hget.append hname
  | setter => exact hset.append hname
  | method | operator | constructor => exact hname.append hcall
  | field => exact hname
  | unknown => exact hleading

/-- All that an outline shows of a declaration stands on one line. -/
theorem oneLine_ofText (strip : Bool) (declaration : Text) (className : Option Text) :
    (ofText strip declaration className).OneLine where
  modifiers _ hw := List.contains_iff_mem.1 (List.mem_takeWhile_imp hw)
  isStatic := rfl
  name := name_oneLine _ _ _ _
  label := labelOf_oneLine _ (name_oneLine _ _ _ _) (Shape.leadingText_oneLine strip declaration)
  sequence := Shape.sequence_solid strip declaration

end MemberOutline.Member
