import MemberOutline.Proofs.Member.OneLine
import MemberOutline.Report

/-!
# Reports as text

Nothing is escaped in a report as text, and still what it shows can be read back from it
(`text_decodes`). A report is made of rows, each on one line (`shapeRows`, `memberRows`), so its
lines are its rows, and a row begins with a caption of a fixed length. The line of a member in the
report on a file is two columns and the label, and neither the kind nor the sequence has spaces, so
each column ends at its first one (`memberLine_inj`).
-/

namespace MemberOutline.Report

open Text (OneLine Solid joinWith)

/-- What a report shows of two members is the same. -/
structure ShownAlike (m n : Member) : Prop where
  kind : m.kind = n.kind
  name : m.name = n.name
  modifiers : m.modifiers = n.modifiers
  isStatic : m.isStatic = n.isStatic
  hasBody : m.hasBody = n.hasBody
  label : m.label = n.label
  sequence : m.shape.sequence = n.shape.sequence

variable {s s' : Shape} {m n : Member}

/-! ## Single values -/

/-- Kinds are told apart by their words. -/
theorem kind_of_word {kind kind' : Member.Kind} (h : kind.word.toList = kind'.word.toList) :
    kind = kind' := by
  cases kind <;> cases kind' <;> first | rfl | exact absurd h (by decide)

/-- The word for a kind has no blanks. -/
theorem word_solid (kind : Member.Kind) : Solid kind.word.toList := by
  cases kind <;> decide

/-- The modifiers as a report shows them. -/
def modifiersText (modifiers : List Text) : Text :=
  if modifiers = [] then ['-'] else joinWith [' '] modifiers

/-- Modifiers are words. -/
theorem modifier_solid {w : Text} (h : w ∈ Member.modifierWords) : w ≠ [] ∧ Solid w := by
  have hall : ∀ w ∈ Member.modifierWords, w ≠ [] ∧ Solid w := by decide
  exact hall w h

/-- The words of what a report shows are the modifiers, or a dash if there are none. -/
theorem words_modifiersText {modifiers : List Text}
    (h : ∀ w ∈ modifiers, w ∈ Member.modifierWords) :
    Text.words (modifiersText modifiers) = if modifiers = [] then [['-']] else modifiers := by
  unfold modifiersText
  split_ifs
  · rfl
  · exact Text.words_joinWith fun w hw => modifier_solid (h w hw)

/-- Modifiers are told apart by what a report shows of them, as no modifier is a dash. -/
theorem modifiersText_inj {modifiers modifiers' : List Text}
    (h : ∀ w ∈ modifiers, w ∈ Member.modifierWords)
    (h' : ∀ w ∈ modifiers', w ∈ Member.modifierWords)
    (heq : modifiersText modifiers = modifiersText modifiers') : modifiers = modifiers' := by
  have hdash : ['-'] ∉ Member.modifierWords := by decide
  have hwords := words_modifiersText h
  rw [heq, words_modifiersText h'] at hwords
  split_ifs at hwords with hnil' hnil hnil
  · rw [hnil, hnil']
  · exact absurd (h _ (hwords ▸ List.mem_singleton_self _)) hdash
  · exact absurd (h' _ (hwords ▸ List.mem_singleton_self _)) hdash
  · exact hwords.symm

/-- The modifiers that a report shows stand on one line. -/
theorem modifiersText_oneLine {modifiers : List Text}
    (h : ∀ w ∈ modifiers, w ∈ Member.modifierWords) : OneLine (modifiersText modifiers) := by
  unfold modifiersText
  split_ifs
  · decide
  · exact .joinWith fun w hw => (modifier_solid (h w hw)).2.oneLine

/-! ## The reports on one declaration -/

/-- The word for whether a member has a body. -/
def bodyText (hasBody : Bool) : Text := if hasBody then "yes".toList else "no".toList

/-- The rows of the report on a shape. -/
def shapeRows (s : Shape) : List Text :=
  ["sequence:     ".toList ++ s.sequence, "leading text: ".toList ++ s.leadingText]

/-- The rows of the report on a member. -/
def memberRows (m : Member) : List Text :=
  ["kind:      ".toList ++ m.kind.word.toList, "name:      ".toList ++ m.name,
    "modifiers: ".toList ++ modifiersText m.modifiers, "body:      ".toList ++ bodyText m.hasBody,
    "label:     ".toList ++ m.label, "sequence:  ".toList ++ m.shape.sequence]

/-- The report on a shape is its rows. -/
theorem shapeText_eq (s : Shape) : shapeText s = joinWith ['\n'] (shapeRows s) := by
  have hleading : "\nleading text: ".toList = ['\n'] ++ "leading text: ".toList := by decide
  unfold shapeText shapeRows
  rw [hleading]
  simp only [joinWith, List.append_assoc]

/-- The report on a member is its rows. -/
theorem memberText_eq (m : Member) : memberText m = joinWith ['\n'] (memberRows m) := by
  have hname : "\nname:      ".toList = ['\n'] ++ "name:      ".toList := by decide
  have hmodifiers : "\nmodifiers: ".toList = ['\n'] ++ "modifiers: ".toList := by decide
  have hbody : "\nbody:      ".toList = ['\n'] ++ "body:      ".toList := by decide
  have hlabel : "\nlabel:     ".toList = ['\n'] ++ "label:     ".toList := by decide
  have hsequence : "\nsequence:  ".toList = ['\n'] ++ "sequence:  ".toList := by decide
  unfold memberText memberRows
  rw [hname, hmodifiers, hbody, hlabel, hsequence]
  simp only [joinWith, modifiersText, bodyText, List.append_assoc]

/-- A caption with a text after it is a row. -/
theorem captioned {caption t : Text} (hcaption : caption ≠ [] ∧ OneLine caption)
    (ht : OneLine t) : caption ++ t ≠ [] ∧ OneLine (caption ++ t) :=
  ⟨List.append_ne_nil_of_left_ne_nil hcaption.1 t, hcaption.2.append ht⟩

/-- Each row of the report on a shape stands on one line. -/
theorem shapeRows_oneLine (strip : Bool) (d : Text) :
    ∀ row ∈ shapeRows (Shape.ofText strip d), row ≠ [] ∧ OneLine row := by
  have hsequence := captioned (by decide : "sequence:     ".toList ≠ [] ∧ OneLine _)
    (Shape.sequence_solid strip d).oneLine
  have hleading := captioned (by decide : "leading text: ".toList ≠ [] ∧ OneLine _)
    (Shape.leadingText_oneLine strip d)
  unfold shapeRows
  simp only [List.forall_mem_cons]
  exact ⟨hsequence, hleading, List.forall_mem_nil _⟩

/-- Each row of the report on a member stands on one line. -/
theorem memberRows_oneLine (h : m.OneLine) : ∀ row ∈ memberRows m, row ≠ [] ∧ OneLine row := by
  have hbody : OneLine (bodyText m.hasBody) := by
    cases m.hasBody <;> decide
  have hkind := captioned (by decide : "kind:      ".toList ≠ [] ∧ OneLine _)
    (word_solid m.kind).oneLine
  have hname := captioned (by decide : "name:      ".toList ≠ [] ∧ OneLine _) h.name
  have hmodifiers := captioned (by decide : "modifiers: ".toList ≠ [] ∧ OneLine _)
    (modifiersText_oneLine h.modifiers)
  have hbody := captioned (by decide : "body:      ".toList ≠ [] ∧ OneLine _) hbody
  have hlabel := captioned (by decide : "label:     ".toList ≠ [] ∧ OneLine _) h.label
  have hsequence := captioned (by decide : "sequence:  ".toList ≠ [] ∧ OneLine _)
    h.sequence.oneLine
  unfold memberRows
  simp only [List.forall_mem_cons]
  exact ⟨hkind, hname, hmodifiers, hbody, hlabel, hsequence, List.forall_mem_nil _⟩

/-- The lines of the report on a shape are its rows. -/
theorem lines_shapeText (strip : Bool) (d : Text) :
    Text.lines (shapeText (Shape.ofText strip d)) = shapeRows (Shape.ofText strip d) := by
  rw [shapeText_eq]
  exact Text.lines_joinWith (shapeRows_oneLine strip d)

/-- The lines of the report on a member are its rows. -/
theorem lines_memberText (h : m.OneLine) : Text.lines (memberText m) = memberRows m := by
  rw [memberText_eq]
  exact Text.lines_joinWith (memberRows_oneLine h)

/-- The rows on two shapes tell them apart. -/
theorem shapeRows_inj (h : shapeRows s = shapeRows s') : s = s' := by
  simp only [shapeRows, List.cons.injEq, List.append_cancel_left_eq, and_true] at h
  obtain ⟨hsequence, hleading⟩ := h
  cases s
  cases s'
  congr

/-- The rows on two members tell them apart in all that they show. -/
theorem memberRows_inj (hm : m.OneLine) (hn : n.OneLine) (h : memberRows m = memberRows n) :
    ShownAlike m n := by
  simp only [memberRows, List.cons.injEq, List.append_cancel_left_eq, and_true] at h
  obtain ⟨hkind, hname, hmodifiers, hbody, hlabel, hsequence⟩ := h
  have hmodifiers := modifiersText_inj hm.modifiers hn.modifiers hmodifiers
  have hbody : m.hasBody = n.hasBody := by
    revert hbody
    cases m.hasBody <;> cases n.hasBody <;> decide
  exact
    { kind := kind_of_word hkind
      name := hname
      modifiers := hmodifiers
      isStatic := by rw [hm.isStatic, hn.isStatic, hmodifiers]
      hasBody := hbody
      label := hlabel
      sequence := hsequence }

/-! ## The report on a file -/

/-- A text stays on one line when it is padded. -/
theorem padTo_oneLine {t : Text} (width : Nat) (h : OneLine t) : OneLine (Text.padTo width t) := by
  have hspaces : OneLine (List.replicate (width - t.length) ' ') :=
    fun c hc _ => List.eq_of_mem_replicate hc
  exact h.append hspaces

/-- The line of a member is not empty and has no line break in it. -/
theorem memberLine_oneLine (h : m.OneLine) : memberLine m ≠ [] ∧ OneLine (memberLine m) := by
  have hspace : OneLine [' '] := by decide
  have hkind := padTo_oneLine 12 (word_solid m.kind).oneLine
  have hsequence := padTo_oneLine 10 h.sequence.oneLine
  refine ⟨by simp [memberLine], ?_⟩
  unfold memberLine
  exact (hkind.append (hspace.append hsequence)).append (hspace.append h.label)

/-- The lines of two members tell apart the two columns and the label. -/
theorem memberLine_inj (hm : m.OneLine) (hn : n.OneLine) (h : memberLine m = memberLine n) :
    m.kind = n.kind ∧ m.shape.sequence = n.shape.sequence ∧ m.label = n.label := by
  have hspace {t : Text} (ht : Solid t) : ' ' ∉ t := by
    intro hmem
    exact absurd (ht ' ' hmem) (by decide)
  unfold memberLine at h
  rw [List.append_assoc, List.append_assoc, List.cons_append, List.cons_append] at h
  obtain ⟨hkind, hmore⟩ :=
    Text.padTo_append_inj (hspace (word_solid m.kind)) (hspace (word_solid n.kind)) h
  obtain ⟨hsequence, hlabel⟩ :=
    Text.padTo_append_inj (hspace hm.sequence) (hspace hn.sequence) hmore
  exact ⟨kind_of_word hkind, hsequence, hlabel⟩

/-- All that is shown of a member of a file stands on one line. -/
theorem oneLine_of_mem_members {content : Text} {className : Option Text} {settings : Settings}
    (h : m ∈ members content className settings) : m.OneLine := by
  obtain ⟨d, -, rfl⟩ := List.mem_map.1 h
  exact Member.oneLine_ofText _ d className

/-! ## What can be read back -/

/-- From equal reports as text on two shapes the same shape is read back, and from equal ones on two
members all that they show. A report on a file is one row for each member, in the order of the
file, and from equal rows of two members, be they in one file or in two, their kind, their sequence
and their label are read back. -/
theorem text_decodes :
    (∀ d d' settings settings',
      (scan d .text settings).1 = (scan d' .text settings').1 →
        Shape.ofText settings.stripTypeArguments d =
          Shape.ofText settings'.stripTypeArguments d') ∧
    (∀ d d' className className' settings settings',
      (classify d className .text settings).1 = (classify d' className' .text settings').1 →
        ShownAlike (Member.ofText settings.stripTypeArguments d className)
          (Member.ofText settings'.stripTypeArguments d' className')) ∧
    (∀ path content className settings, ∃ rows,
      (batch path content className .text settings).1 = joinWith ['\n'] rows ∧
        rows = (members content className settings).map memberLine ∧
        (∀ row ∈ rows, row ≠ [] ∧ '\n' ∉ row) ∧
        Text.lines (batch path content className .text settings).1 = rows) ∧
    ∀ content content' className className' settings settings',
      ∀ m ∈ members content className settings, ∀ n ∈ members content' className' settings',
        memberLine m = memberLine n →
          m.kind = n.kind ∧ m.shape.sequence = n.shape.sequence ∧ m.label = n.label := by
  refine ⟨fun d d' settings settings' h => ?_,
    fun d d' className className' settings settings' h => ?_,
    fun path content className settings => ?_,
    fun content content' className className' settings settings' m hm n hn h => ?_⟩
  · -- Equal reports have equal lines, which are the rows.
    have hlines := congrArg Text.lines h
    apply shapeRows_inj
    calc
      _ = Text.lines (scan d .text settings).1 := (lines_shapeText _ d).symm
      _ = Text.lines (scan d' .text settings').1 := hlines
      _ = _ := lines_shapeText _ d'
  · have hm := Member.oneLine_ofText settings.stripTypeArguments d className
    have hn := Member.oneLine_ofText settings'.stripTypeArguments d' className'
    have hlines := congrArg Text.lines h
    apply memberRows_inj hm hn
    calc
      _ = Text.lines (classify d className .text settings).1 := (lines_memberText hm).symm
      _ = Text.lines (classify d' className' .text settings').1 := hlines
      _ = _ := lines_memberText hn
  · have hrows : ∀ row ∈ (members content className settings).map memberLine,
        row ≠ [] ∧ OneLine row := by
      rw [List.forall_mem_map]
      exact fun m hm => memberLine_oneLine (oneLine_of_mem_members hm)
    refine ⟨_, rfl, rfl, fun row hrow => ?_, Text.lines_joinWith hrows⟩
    obtain ⟨hne, hone⟩ := hrows row hrow
    exact ⟨hne, hone.newline_not_mem⟩
  · exact memberLine_inj (oneLine_of_mem_members hm) (oneLine_of_mem_members hn) h

/-- A field with type arguments and the same one without them. -/
theorem text_decodes_argumentsField :
    (scan "List<int> a;".toList .text {}).1 = (scan "List a;".toList .text {}).1 ∧
      Shape.ofText true "List<int> a;".toList = Shape.ofText true "List a;".toList ∧
      ShownAlike (Member.ofText true "List<int> a;".toList none)
        (Member.ofText true "List a;".toList (some "A".toList)) ∧
      Text.lines (batch "a" "List<int> a;\n\nget b => c".toList none .text {}).1 =
        ["field        ;          a".toList, "getter       =>         get b".toList] ∧
      (Member.ofText true "List a;".toList none).label = "a".toList := by
  obtain ⟨hscan, hclassify, hrows, hline⟩ := text_decodes
  have hreports :
      (scan "List<int> a;".toList .text {}).1 = (scan "List a;".toList .text {}).1 := by decide
  obtain ⟨_, -, hmembers, -, hlines⟩ := hrows "a" "List<int> a;\n\nget b => c".toList none {}
  refine ⟨hreports, hscan _ _ {} {} hreports,
    hclassify _ _ none (some "A".toList) {} {} (by decide), ?_, ?_⟩
  · rw [hlines, hmembers]
    decide
  · have hsame := hline "List<int> a;".toList "List a;".toList none none {} {}
      (Member.ofText true "List<int> a;".toList none) (by decide)
      (Member.ofText true "List a;".toList none) (by decide) (by decide)
    rw [← hsame.2.2]
    decide

end MemberOutline.Report
