import MemberOutline.Proofs.Shape.Remains
import MemberOutline.Proofs.Shape.Showing

/-!
# The wording of a leading text

As long as a leading text is collected, it is what remains of the code read so far, squeezed into
words with single spaces between them (`Tells`). `Told` says this of each state of the leading text:
inside type arguments it holds of the text with them, as they may be given up, and of the text
before them, as they may be dropped. Every step keeps it (`Scan.Worded.stride`).

So the leading text of a declaration is what remains of its code up to a boundary, squeezed
(`LabelEnds.exists_wording`). It consists of words with single spaces between them
(`leadingText_normal`).
-/

namespace MemberOutline.Shape

open Text (anyStep isBlank isIdentifierChar joinWith)

variable {strip gap : Bool} {view stretch : List (Option Char)} {text : Text} {c : Char}

/-! ## Text and view -/

/-- A text tells a view: it is what remains of the view, squeezed, and no character is in it that is
never shown. A gap says that what remains ends in a separator. -/
def Tells (strip : Bool) (view : List (Option Char)) (text : Text) (gap : Bool) : Prop :=
  ∃ kept, Remains strip view kept ∧ (∀ c ∈ neverShown, some c ∉ kept) ∧ text = squeezed kept ∧
    gap = kept.getLast?.any separates

namespace Tells

/-- The empty text tells the empty view. -/
theorem nil : Tells strip [] [] false := ⟨[], .nil, fun _ _ => List.not_mem_nil, rfl, rfl⟩

/-- A text with one more character tells the view with that character, after a space if there is a
gap. -/
theorem add (h : Tells strip view text gap) (hblank : isBlank c = false)
    (hnever : c ∉ neverShown) :
    Tells strip (view ++ [some c]) (text ++ LeadingText.spaced (gap && text ≠ []) c) false := by
  obtain ⟨kept, hremains, hkept, rfl, rfl⟩ := h
  refine ⟨kept ++ [some c], hremains.append (.all _), fun d hd => ?_, ?_, ?_⟩
  · rw [List.mem_append, not_or]
    refine ⟨hkept d hd, fun hmem => hnever ?_⟩
    obtain rfl : d = c := by simpa using hmem
    exact hd
  · exact (squeezed_append_some kept hblank).symm
  · rw [List.getLast?_concat]
    exact hblank.symm

/-- A text with a gap tells a view with separators at its end. -/
theorem blank {places : List (Option Char)} (h : Tells strip view text gap) (hne : places ≠ [])
    (hplaces : ∀ x ∈ places, separates x = true) : Tells strip (view ++ places) text true := by
  obtain ⟨kept, hremains, hkept, rfl, -⟩ := h
  refine ⟨kept ++ places, hremains.append (.all _), fun d hd => ?_, ?_, ?_⟩
  · rw [List.mem_append, not_or]
    refine ⟨hkept d hd, fun hmem => ?_⟩
    have hsolid : neverShown.all (fun d => !separates (some d)) = true := by decide
    have hnone := List.all_eq_true.1 hsolid d hd
    rw [hplaces _ hmem] at hnone
    cases hnone
  · exact (squeezed_append_separators hplaces).symm
  · rw [List.getLast?_append_of_ne_nil _ hne, List.getLast?_eq_some_getLast hne]
    exact (hplaces _ (List.getLast_mem hne)).symm

/-- A text tells a view also with a stretch after it that is left out. -/
theorem leave (h : Tells strip view text gap) (hleft : LeftOut strip stretch) :
    Tells strip (view ++ stretch) text gap := by
  obtain ⟨kept, hremains, hkept, htext, hgap⟩ := h
  refine ⟨kept, ?_, hkept, htext, hgap⟩
  have hmore := hremains.append (.of_leftOut hleft)
  rwa [List.append_nil] at hmore

/-- A text has no gap at its end if the view that it tells ends in an identifier. -/
theorem gap_eq_false {x : Option Char} (h : Tells strip view text gap) (hx : x ∈ view.getLast?)
    (hidentifier : x.any isIdentifierChar = true) : gap = false := by
  obtain ⟨kept, hremains, -, -, rfl⟩ := h
  have hlast := hremains.getLast?_identifier hx hidentifier
  rw [Option.mem_def.1 hlast]
  by_contra hseparates
  have hnone := any_isIdentifierChar_of_separates (by simpa using hseparates)
  rw [hidentifier] at hnone
  cases hnone

end Tells

/-! ## The state of a leading text -/

/-- Where type arguments are attached to words, a text with nothing to show is empty. -/
theorem Collected.Attached.eq_empty {collected : Collected} (h : collected.Attached)
    (hnil : collected.render strip = []) : collected = .empty := by
  obtain ⟨groups, text⟩ := collected
  obtain ⟨hgroups, rfl⟩ := List.append_eq_nil_iff.1 hnil
  cases groups with
  | nil => rfl
  | cons p groups =>
    have hfirst := (List.append_eq_nil_iff.1 hgroups).1
    have hbefore := (h.before p List.mem_cons_self).ne_nil
    cases strip
    · exact absurd (List.append_eq_nil_iff.1 hfirst).1 hbefore
    · exact absurd hfirst hbefore

/-- Type arguments at the end of a text are shown if they are not dropped. -/
theorem Collected.render_concat (strip : Bool) (groups : List (Text × Text))
    (text arguments : Text) :
    Collected.render strip ⟨groups ++ [(text, arguments)], []⟩ =
      Collected.render strip ⟨groups, text⟩ ++ if strip then [] else arguments := by
  cases strip <;> simp [Collected.render]

/-- A leading text tells a view. Inside type arguments the text with them tells the view, and the
text before them tells the part of the view before their `<`. -/
def Told (strip : Bool) (view : List (Option Char)) : LeadingText → Prop
  | .outside collected gap => Tells strip view (collected.render strip) gap
  | .inside collected arguments gap =>
    Tells strip view (collected.render strip ++ arguments) gap ∧
      ∃ before stretch, view = before ++ stretch ∧ stretch.head? = some (some '<') ∧
        Tells strip before (collected.render strip) false
  | .ended _ => True

namespace Told

variable {l : LeadingText}

/-- The `<` of type arguments stands where it stood when more of the view is told. -/
theorem exists_stretch {text : Text}
    (h : ∃ before stretch, view = before ++ stretch ∧ stretch.head? = some (some '<') ∧
      Tells strip before text false) (more : List (Option Char)) :
    ∃ before stretch, view ++ more = before ++ stretch ∧ stretch.head? = some (some '<') ∧
      Tells strip before text false := by
  obtain ⟨before, stretch, rfl, hfirst, htells⟩ := h
  refine ⟨before, stretch ++ more, List.append_assoc .., ?_, htells⟩
  rw [List.head?_append, hfirst]
  rfl

/-- A leading text tells a character by taking it up. -/
theorem add (h : Told strip view l) (hattached : l.Attached) (hblank : isBlank c = false)
    (hnever : c ∉ neverShown) : Told strip (view ++ [some c]) (l.add c) := by
  cases l with
  | outside collected gap =>
    have hempty : collected ≠ .empty ↔ collected.render strip ≠ [] := by
      refine not_congr ⟨?_, hattached.eq_empty⟩
      rintro rfl
      rfl
    have hadd := Tells.add h hblank hnever
    simp only [← hempty] at hadd
    rw [Collected.render, List.append_assoc] at hadd
    exact hadd
  | inside collected arguments gap =>
    obtain ⟨htells, hstretch⟩ := h
    have hne : collected.render strip ++ arguments ≠ [] := by
      intro hnil
      obtain ⟨-, -, hfirst, -⟩ := hattached
      rw [(List.append_eq_nil_iff.1 hnil).2] at hfirst
      cases hfirst
    refine ⟨?_, exists_stretch hstretch _⟩
    have hadd := htells.add hblank hnever
    rwa [decide_eq_true hne, Bool.and_true, List.append_assoc] at hadd
  | ended collected => trivial

/-- A leading text tells separators by noting a gap. -/
theorem blank {places : List (Option Char)} (h : Told strip view l) (hne : places ≠ [])
    (hplaces : ∀ x ∈ places, separates x = true) : Told strip (view ++ places) l.blank := by
  cases l with
  | outside collected gap => exact Tells.blank h hne hplaces
  | inside collected arguments gap =>
    exact ⟨h.1.blank hne hplaces, exists_stretch h.2 _⟩
  | ended collected => trivial

/-- A leading text tells a view also with a stretch after it that is left out. -/
theorem skip (h : Told strip view l) (hleft : LeftOut strip stretch) :
    Told strip (view ++ stretch) l := by
  cases l with
  | outside collected gap => exact Tells.leave h hleft
  | inside collected arguments gap => exact ⟨h.1.leave hleft, exists_stretch h.2 _⟩
  | ended collected => trivial

/-- A leading text tells a `<` after an identifier by opening type arguments. -/
theorem enter {x : Option Char} (h : Told strip view l) (outside : ∀ o ∈ l.outermost?, o = none)
    (hx : x ∈ view.getLast?) (hidentifier : x.any isIdentifierChar = true) :
    Told strip (view ++ [some '<']) l.enter := by
  cases l with
  | outside collected gap =>
    obtain rfl := Tells.gap_eq_false h hx hidentifier
    exact ⟨Tells.add h (by decide) (by decide), view, [some '<'], rfl, rfl, h⟩
  | inside collected arguments gap => cases outside _ rfl
  | ended collected => trivial

/-- A leading text tells a `>` by leaving its type arguments out or keeping them. -/
theorem leave (h : Told strip view l) (hattached : l.Attached) :
    Told strip (view ++ [some '>']) l.leave := by
  cases l with
  | outside collected gap => exact add h hattached (by decide) (by decide)
  | inside collected arguments gap =>
    have hrender := Collected.render_concat strip collected.groups collected.text
      (arguments ++ LeadingText.spaced gap '>')
    show Tells strip _ (Collected.render strip _) false
    rw [hrender]
    cases strip with
    | false => exact (add (c := '>') h hattached (by decide) (by decide)).1
    | true =>
      obtain ⟨-, before, stretch, rfl, hfirst, htells⟩ := h
      have hleft : LeftOut true (stretch ++ [some '>']) := by
        refine .inr ⟨rfl, ?_, List.getLast?_concat⟩
        rw [List.head?_append, hfirst]
        rfl
      rw [List.append_assoc]
      have hmore := htells.leave hleft
      rwa [← List.append_nil (collected.render true)] at hmore
  | ended collected => trivial

/-- A leading text tells the same view when its type arguments are given up. -/
theorem giveUp (h : Told strip view l) : Told strip view l.giveUp := by
  cases l with
  | outside collected gap => exact h
  | inside collected arguments gap =>
    have htells := h.1
    rw [Collected.render, List.append_assoc] at htells
    exact htells
  | ended collected => trivial

/-- All that is collected of a leading text tells the view. -/
theorem collected (h : Told strip view l) (hopen : l.outermost? ≠ none) :
    ∃ gap, Tells strip view (l.collected.render strip) gap := by
  cases l with
  | outside collected gap => exact ⟨gap, h⟩
  | inside collected arguments gap => exact ⟨gap, h.giveUp⟩
  | ended collected => exact absurd rfl hopen

/-- Where type arguments open, an identifier ends. -/
theorem exists_identifier_of_opensArguments {seen : Text} (h : opensArguments seen = true) :
    ∃ x ∈ seen.head?, isIdentifierChar x = true := by
  by_contra hnone
  have hhead : seen.head?.any isIdentifierChar = false := by
    rw [Option.any_eq_false]
    exact fun x hx => Bool.eq_false_iff.2 fun hidentifier => hnone ⟨x, hx, hidentifier⟩
  simp [opensArguments, endingWord, Scan.takeWhile_of_head? hhead] at h

/-- What a step does keeps that the leading text tells the view. -/
theorem showing {seen : Text} {l' : LeadingText} (h : Told strip view l)
    (hattached : l.Attached) (hshows : Showing seen l stretch l')
    (hends : ∀ x ∈ seen.head?, isIdentifierChar x = true → view.getLast? = some (some x)) :
    Told strip (view ++ stretch) l' := by
  cases hshows with
  | blank hne hgap => exact h.blank hne hgap
  | add hblank hnever => exact h.add hattached hblank hnever
  | skip hu => exact h.skip (.inl ⟨_, hu, rfl⟩)
  | finish _ => trivial
  | enter opens outside =>
    obtain ⟨x, hx, hidentifier⟩ := exists_identifier_of_opensArguments opens
    exact h.enter outside (hends x hx hidentifier) hidentifier
  | leave => exact h.leave hattached

end Told

/-! ## Every step -/

namespace Scan

variable {s t : Scan} {seen more after rest : Text}

/-- The leading text of a scan tells the view of the characters before it, and that view ends in an
identifier if these characters do. -/
structure Worded (strip : Bool) (s : Scan) (seen : Text) (view : List (Option Char)) : Prop where
  /-- The leading text fits the groups. -/
  coupled : s.Coupled
  /-- Its type arguments are attached to words. -/
  attached : s.Attached seen
  /-- An identifier directly before the scan ends the view. -/
  ends : s.literals = [] →
    ∀ x ∈ seen.head?, isIdentifierChar x = true → view.getLast? = some (some x)
  /-- The leading text tells the view. -/
  told : Told strip view s.leading

/-- A scan that starts has no characters before it to tell. -/
theorem worded_start : start.Worded strip [] [] where
  coupled := coupled_start
  attached := attached_start
  ends := fun _ _ hx => by cases hx
  told := .nil

/-- The last character that a step covers ends its places, if it is one of an identifier. -/
theorem getLast?_places {x : Char} (houtside : (stride s seen c (more ++ after)).2.literals = [])
    (covers : (more ++ after).take ((stride s seen c (more ++ after)).1 - 1) = more)
    (hx : x ∈ (more.reverse ++ c :: seen).head?) (hidentifier : isIdentifierChar x = true) :
    (places s seen c more after).getLast? = some (some x) := by
  rcases hstep : Literal.step s.literals seen.head? c (more ++ after) with ⟨answer, next⟩
  cases answer with
  | consumed width =>
    -- A literal ends in no identifier.
    rw [literals_stride, hstep] at houtside
    rw [width_of_consumed hstep] at covers
    obtain rfl : next = [] := houtside
    have hends := Literal.consumed_ends_outside seen hstep covers
    rw [Option.mem_def.1 hx] at hends
    exact absurd hidentifier (Bool.eq_false_iff.1 hends)
  | code =>
    obtain ⟨-, rfl⟩ := Literal.step_eq_code hstep
    have hsame : (more.reverse ++ c :: seen).head? = (c :: more).getLast? := by
      rw [← List.head?_reverse, List.reverse_cons]
      cases more.reverse <;> rfl
    rw [places_of_code hstep, List.getLast?_map, ← hsame, Option.mem_def.1 hx]
    rfl

/-- Every step keeps that the leading text tells the view. -/
theorem Worded.stride (h : s.Worded strip seen view)
    (covers : (more ++ after).take ((Scan.stride s seen c (more ++ after)).1 - 1) = more) :
    (Scan.stride s seen c (more ++ after)).2.Worded strip (more.reverse ++ c :: seen)
      (view ++ places s seen c more after) where
  coupled := h.coupled.stride seen c (more ++ after)
  attached := h.attached.stride covers
  ends := by
    intro houtside x hx hidentifier
    have hlast := getLast?_places houtside covers hx hidentifier
    have hne : places s seen c more after ≠ [] := by
      intro hnil
      rw [hnil] at hlast
      cases hlast
    rw [List.getLast?_append_of_ne_nil _ hne, hlast]
  told := by
    rcases hstep : Literal.step s.literals seen.head? c (more ++ after) with ⟨answer, next⟩
    cases answer with
    | consumed width =>
      rw [stride_of_consumed hstep, places_of_consumed hstep]
      refine h.told.blank (by simp) fun x hx => ?_
      rw [List.eq_of_mem_replicate hx]
      rfl
    | code =>
      obtain ⟨houtside, rfl⟩ := Literal.step_eq_code hstep
      obtain ⟨l, hl, hshows⟩ := showing_stride h.coupled covers
      rcases hl with rfl | rfl
      · exact h.told.showing h.attached.1 hshows (h.ends houtside)
      · exact h.told.giveUp.showing h.attached.1.giveUp hshows (h.ends houtside)

/-- A step after which the leading text is complete comes to a boundary, and it leaves what is
collected as it is. -/
theorem ended_of_stride (hcoupled : s.Coupled) (hopen : s.leading.outermost? ≠ none)
    (covers : (more ++ after).take ((Scan.stride s seen c (more ++ after)).1 - 1) = more)
    (hended : (Scan.stride s seen c (more ++ after)).2.leading.outermost? = none) :
    (∃ u ∈ boundaries, places s seen c more after = u.map some) ∧
      (Scan.stride s seen c (more ++ after)).2.leading = .ended s.leading.collected := by
  obtain ⟨l, hl, hshows⟩ := showing_stride hcoupled covers
  have hsame : l.outermost? ≠ none ∧ l.collected = s.leading.collected := by
    rcases hl with rfl | rfl
    · exact ⟨hopen, rfl⟩
    · exact ⟨by simpa using hopen, LeadingText.collected_giveUp _⟩
  generalize Scan.stride s seen c (more ++ after) = answer at hshows hended ⊢
  generalize places s seen c more after = shown at hshows ⊢
  generalize answer.2.leading = l' at hshows hended ⊢
  cases hshows with
  | finish hu => exact ⟨⟨_, hu, rfl⟩, by rw [LeadingText.finish, hsame.2]⟩
  | blank _ _ | add _ _ | skip _ | enter _ _ | leave =>
    exact absurd (by simpa using hended) hsame.1

end Scan

/-! ## The end of a leading text -/

/-- The leading text of a text ends between two parts of it: a scan comes to the second part while
the leading text is collected, and its step there completes the leading text. -/
def LabelEnds (a b : Text) : Prop :=
  ∃ s, Text.Path id Scan.stride anyStep .start [] a b s ∧ s.leading.outermost? ≠ none ∧
    ∀ c rest, b = c :: rest → (Scan.stride s a.reverse c rest).2.leading.outermost? = none

/-- The leading text of every text ends between two parts of it, the second of which may be
empty. -/
theorem exists_labelEnds (t : Text) : ∃ a b, t = a ++ b ∧ LabelEnds a b := by
  have hpath : Text.Path id Scan.stride anyStep .start [] t [] (Scan.ofText t) :=
    Text.path_walk Scan.start [] t
  -- As long as it did not end, the leading text is collected.
  have hkept := hpath.keeps_split
    (motive := fun u _ _ => u.leading.outermost? ≠ none ∨ ∃ a b, t = a ++ b ∧ LabelEnds a b)
    (by
      rintro u a c more after htext hbefore - (hopen | hends)
      · by_cases hnext : (Scan.stride u a.reverse c (more ++ after)).2.leading.outermost? = none
        · rw [List.append_nil] at htext
          refine .inr ⟨a, c :: (more ++ after), htext.symm, u, hbefore, hopen, ?_⟩
          rintro _ _ ⟨⟩
          exact hnext
        · exact .inl hnext
      · exact .inr hends)
    (.inl (by decide))
  rcases hkept with hopen | hends
  · exact ⟨t, [], (List.append_nil t).symm, _, hpath, hopen, fun _ _ hnil => by cases hnil⟩
  · exact hends

namespace LabelEnds

variable {a b : Text}

/-- A scan that comes to the end of a leading text tells the view up to there, and after it the view
goes on with no identifier. -/
theorem exists_worded (h : LabelEnds a b) (strip : Bool) :
    ∃ (s : Scan) (view after : List (Option Char)), view.length = a.length ∧
      Literal.codeView (a ++ b) = view ++ after ∧
      (∀ x ∈ after.head?, x.any isIdentifierChar = false) ∧ s.Worded strip a.reverse view ∧
      s.leading.outermost? ≠ none ∧
      (Scan.ofText (a ++ b)).leading.collected = s.leading.collected := by
  obtain ⟨s, hpath, hopen, hends⟩ := h
  obtain ⟨view, hlength, hview, hworded⟩ := Scan.path_view
    (Scan.Worded strip) (fun _ _ _ _ _ _ covers h => h.stride covers) hpath Scan.worded_start
  rw [List.append_nil] at hview hworded
  have hwalk : Scan.ofText (a ++ b) = Text.walk id Scan.stride s 0 a.reverse b := by
    rw [Scan.ofText, hpath.walk_eq, List.append_nil]
  refine ⟨s, view, Literal.codeFrom s.literals 0 a.reverse b, hlength, hview, ?_⟩
  rw [hwalk]
  have honward : Text.Path id Scan.stride anyStep s a.reverse b []
      (Text.walk id Scan.stride s 0 a.reverse b) := Text.path_walk s a.reverse b
  generalize Text.walk id Scan.stride s 0 a.reverse b = t at honward
  cases honward with
  | stay => exact ⟨fun _ hx => (Option.not_mem_none _ hx).elim, hworded, hopen, rfl⟩
  | @step _ _ _ more after _ c _ covers hafter =>
    rw [List.append_nil] at covers hafter
    obtain ⟨⟨u, hu, hplaces⟩, hleading⟩ :=
      Scan.ended_of_stride hworded.coupled hopen covers (hends c _ rfl)
    refine ⟨fun x hx => ?_, hworded, hopen, ?_⟩
    · have hboundary : ∀ u ∈ boundaries, u.head?.any (!isIdentifierChar ·) = true := by decide
      obtain ⟨d, hd, hnot⟩ := (Option.any_eq_true _ _).1 (hboundary u hu)
      rw [Scan.codeFrom_stride covers, hplaces, List.head?_append, List.head?_map, hd] at hx
      obtain rfl : some d = x := Option.some.inj hx
      simpa using hnot
    · rw [Scan.leading_of_path_ended hafter hleading]
      rfl

/-- A leading text is what remains of the view up to its end, squeezed. -/
theorem exists_wording (h : LabelEnds a b) (strip : Bool) :
    ∃ view after kept : List (Option Char), view.length = a.length ∧
      Literal.codeView (a ++ b) = view ++ after ∧
      (∀ x ∈ after.head?, x.any isIdentifierChar = false) ∧ Remains strip view kept ∧
      (∀ c ∈ neverShown, some c ∉ kept) ∧
      (Shape.ofText strip (a ++ b)).leadingText = squeezed kept := by
  obtain ⟨s, view, after, hlength, hview, hafter, hworded, hopen, hcollected⟩ :=
    h.exists_worded strip
  obtain ⟨gap, kept, hremains, hnever, htext, -⟩ := hworded.told.collected hopen
  refine ⟨view, after, kept, hlength, hview, hafter, hremains, hnever, ?_⟩
  rw [← htext, Shape.ofText, Scan.shape, hcollected]

end LabelEnds

/-! ## The normal form -/

/-- A leading text is its words with single spaces between them, and it has no equals sign, no
semicolon and no quote in it. -/
theorem leadingText_normal (strip : Bool) (t : Text) :
    joinWith [' '] (Text.words (Shape.ofText strip t).leadingText) =
        (Shape.ofText strip t).leadingText ∧
      ∀ c ∈ (Shape.ofText strip t).leadingText, c ∉ ['=', ';', '\x27', '\x22'] := by
  obtain ⟨a, b, rfl, hends⟩ := exists_labelEnds t
  obtain ⟨-, -, kept, -, -, -, -, hnever, htext⟩ := hends.exists_wording strip
  rw [htext]
  refine ⟨joinWith_words_squeezed kept, fun c hc hmem => ?_⟩
  rcases of_mem_squeezed hc with rfl | hkept
  · revert hmem
    decide
  · exact hnever c hmem hkept

end MemberOutline.Shape
