import MemberOutline.Proofs.Shape.Label
import MemberOutline.Proofs.Shape.Squeezed
import Mathlib.Data.List.Chain

/-!
# What a label leaves out

Signs leave no trace in a leading text, and neither do type arguments where they are dropped
(`LeftOut`). `Remains` says that a view is another one with such stretches left out. Each stretch
begins and ends in a character that belongs to no identifier, so an identifier of what remains has
whole identifiers of the view in it, and only what is left out between them
(`Remains.stemsFrom`). It is one identifier of the view if no two of them are that close
(`StemsFrom.mem_shownIdentifiers`).
-/

namespace MemberOutline.Shape

open Text (isIdentifierChar)

/-- A stretch of a view that a leading text leaves out without a trace: a sign, or type arguments
from their `<` to their `>` if these are dropped. -/
def LeftOut (strip : Bool) (stretch : List (Option Char)) : Prop :=
  (∃ u ∈ signs, stretch = u.map some) ∨
    (strip = true ∧ stretch.head? = some (some '<') ∧ stretch.getLast? = some (some '>'))

/-- What remains of a view when some stretches are left out. -/
inductive Remains (strip : Bool) : List (Option Char) → List (Option Char) → Prop
  /-- Nothing remains of nothing. -/
  | nil : Remains strip [] []
  /-- A place may remain. -/
  | keep (x : Option Char) {view kept : List (Option Char)} (h : Remains strip view kept) :
    Remains strip (x :: view) (x :: kept)
  /-- A stretch may be left out. -/
  | leave {stretch view kept : List (Option Char)} (left : LeftOut strip stretch)
    (h : Remains strip view kept) : Remains strip (stretch ++ view) kept

variable {strip : Bool} {view view' kept kept' stretch : List (Option Char)} {x : Option Char}

/-! ## Stretches that are left out -/

/-- The characters that a stretch which is left out can begin with. -/
def firstsLeftOut : List (Option Char) := [some '=', some ';', some '<']

/-- The characters that a stretch which is left out can end in. -/
def lastsLeftOut : List (Option Char) := [some '=', some ';', some '>']

/-- A stretch that is left out begins and ends in one of the characters for this. -/
theorem LeftOut.exists_ends (h : LeftOut strip stretch) :
    (∃ x ∈ firstsLeftOut, stretch.head? = some x) ∧
      ∃ y ∈ lastsLeftOut, stretch.getLast? = some y := by
  rcases h with ⟨u, hu, rfl⟩ | ⟨-, hfirst, hlast⟩
  · have hsigns : ∀ u ∈ signs, (∃ x ∈ firstsLeftOut, (u.map some).head? = some x) ∧
        ∃ y ∈ lastsLeftOut, (u.map some).getLast? = some y := by decide
    exact hsigns u hu
  · exact ⟨⟨some '<', by decide, hfirst⟩, some '>', by decide, hlast⟩

/-- A character of an identifier is not among some characters none of which is one. -/
theorem not_mem_of_identifier {ends : List (Option Char)}
    (hends : ends.all (fun y => !y.any isIdentifierChar) = true)
    (hx : x.any isIdentifierChar = true) : x ∉ ends := by
  intro hmem
  have hnot := List.all_eq_true.1 hends x hmem
  rw [hx] at hnot
  cases hnot

namespace Remains

/-- All of a view may remain. -/
theorem all (view : List (Option Char)) : Remains strip view view := by
  induction view with
  | nil => exact .nil
  | cons x view ih => exact .keep x ih

/-- What remains of two views, one after the other. -/
theorem append (h : Remains strip view kept) (h' : Remains strip view' kept') :
    Remains strip (view ++ view') (kept ++ kept') := by
  induction h with
  | nil => exact h'
  | keep x _ ih => exact .keep x ih
  | leave left _ ih =>
    rw [List.append_assoc]
    exact .leave left ih

/-- Nothing remains of a stretch that is left out. -/
theorem of_leftOut (h : LeftOut strip stretch) : Remains strip stretch [] := by
  have hleave : Remains strip (stretch ++ []) [] := .leave h .nil
  rwa [List.append_nil] at hleave

/-- Where what remains is cut, the view can be cut. -/
theorem exists_split (h : Remains strip view (kept ++ kept')) :
    ∃ first second, view = first ++ second ∧ Remains strip first kept ∧
      Remains strip second kept' := by
  generalize hall : kept ++ kept' = all at h
  induction h generalizing kept with
  | nil =>
    obtain ⟨rfl, rfl⟩ := List.append_eq_nil_iff.1 hall
    exact ⟨[], [], rfl, .nil, .nil⟩
  | @keep x view all h ih =>
    cases kept with
    | nil =>
      obtain rfl : kept' = x :: all := hall
      exact ⟨[], x :: view, rfl, .nil, .keep x h⟩
    | cons y kept =>
      obtain ⟨rfl, hmore⟩ := List.cons.inj hall
      obtain ⟨first, second, rfl, hfirst, hsecond⟩ := ih hmore
      exact ⟨y :: first, second, rfl, .keep y hfirst, hsecond⟩
  | @leave stretch view all left _ ih =>
    obtain ⟨first, second, rfl, hfirst, hsecond⟩ := ih hall
    exact ⟨stretch ++ first, second, by rw [List.append_assoc], .leave left hfirst, hsecond⟩

/-- Before the first place that remains all is left out. -/
theorem exists_first (h : Remains strip view (x :: kept)) :
    ∃ left more, view = left ++ x :: more ∧ Remains strip left [] ∧ Remains strip more kept := by
  generalize hall : x :: kept = all at h
  induction h with
  | nil => cases hall
  | @keep y view all h _ =>
    obtain ⟨rfl, rfl⟩ := List.cons.inj hall
    exact ⟨[], view, rfl, .nil, h⟩
  | @leave stretch view all left _ ih =>
    obtain ⟨front, more, rfl, hfront, hmore⟩ := ih hall
    exact ⟨stretch ++ front, more, by rw [List.append_assoc], .leave left hfront, hmore⟩

/-- After the last place that remains all is left out. -/
theorem exists_last (h : Remains strip view (kept ++ [x])) :
    ∃ front left, view = front ++ x :: left ∧ Remains strip front kept ∧
      Remains strip left [] := by
  obtain ⟨first, second, rfl, hfirst, hsecond⟩ := h.exists_split
  obtain ⟨left, more, rfl, hleft, hmore⟩ := hsecond.exists_first
  refine ⟨first ++ left, more, by rw [List.append_assoc], ?_, hmore⟩
  have hfront := hfirst.append hleft
  rwa [List.append_nil] at hfront

/-- What a view begins with remains, unless a stretch that is left out can begin so. -/
theorem head?_eq (h : Remains strip view kept) (hx : x ∈ view.head?) (hnot : x ∉ firstsLeftOut) :
    x ∈ kept.head? := by
  cases h with
  | nil => exact hx
  | keep y _ => exact hx
  | leave left _ =>
    obtain ⟨⟨y, hy, hfirst⟩, -⟩ := left.exists_ends
    rw [List.head?_append, hfirst] at hx
    obtain rfl : y = x := Option.some.inj hx
    exact absurd hy hnot

/-- What a view ends in remains, unless a stretch that is left out can end so. -/
theorem getLast?_eq (h : Remains strip view kept) (hx : x ∈ view.getLast?)
    (hnot : x ∉ lastsLeftOut) : x ∈ kept.getLast? := by
  induction h with
  | nil => exact hx
  | @keep y view kept h ih =>
    cases view with
    | nil =>
      -- Nothing can be left out of nothing.
      have hnil : kept = [] := by
        cases kept with
        | nil => rfl
        | cons z kept =>
          obtain ⟨left, more, hsplit, -⟩ := h.exists_first
          simp at hsplit
      rw [hnil]
      exact hx
    | cons z view =>
      rw [List.getLast?_cons_cons] at hx
      have hlast := ih hx
      cases kept with
      | nil => cases hlast
      | cons z kept =>
        rw [List.getLast?_cons_cons]
        exact hlast
  | @leave stretch view kept left _ ih =>
    cases view with
    | nil =>
      obtain ⟨-, y, hy, hlast⟩ := left.exists_ends
      rw [List.append_nil, hlast] at hx
      obtain rfl : y = x := Option.some.inj hx
      exact absurd hy hnot
    | cons z view =>
      rw [List.getLast?_append_of_ne_nil _ (List.cons_ne_nil z view)] at hx
      exact ih hx

/-- An identifier at the beginning of a view remains there. -/
theorem head?_identifier (h : Remains strip view kept) (hx : x ∈ view.head?)
    (hidentifier : x.any isIdentifierChar = true) : x ∈ kept.head? :=
  h.head?_eq hx (not_mem_of_identifier (by decide) hidentifier)

/-- An identifier at the end of a view remains there. -/
theorem getLast?_identifier (h : Remains strip view kept) (hx : x ∈ view.getLast?)
    (hidentifier : x.any isIdentifierChar = true) : x ∈ kept.getLast? :=
  h.getLast?_eq hx (not_mem_of_identifier (by decide) hidentifier)

end Remains

/-! ## Identifiers of what remains -/

/-- A word of what remains stems from a view: it is what remains of a stretch that begins and ends
in an identifier, and no identifier goes on before the stretch or after it. -/
def StemsFrom (strip : Bool) (view word : List (Option Char)) : Prop :=
  ∃ before stretch after, view = before ++ (stretch ++ after) ∧
    (∀ x ∈ before.getLast?, x.any isIdentifierChar = false) ∧
    (∀ x ∈ after.head?, x.any isIdentifierChar = false) ∧
    (∃ x ∈ stretch.head?, x.any isIdentifierChar = true) ∧
    (∃ x ∈ stretch.getLast?, x.any isIdentifierChar = true) ∧
    Remains strip stretch word

/-- Between two identifiers of a view there is more than what is left out. -/
def KeepsApart (strip : Bool) (view : List (Option Char)) : Prop :=
  ∀ before x gap y after, view = before ++ x :: (gap ++ y :: after) →
    x.any isIdentifierChar = true → y.any isIdentifierChar = true → Remains strip gap [] → gap = []

variable {word : List (Option Char)}

/-- An identifier of what remains stems from the view. -/
theorem Remains.stemsFrom (h : Remains strip view kept) (hword : word ∈ shownIdentifiers kept) :
    StemsFrom strip view word := by
  obtain ⟨hne, hall, before, after, rfl, hbefore, hafter⟩ := Text.mem_runs_iff.1 hword
  obtain ⟨first, rest, rfl, hfirst, hrest⟩ := h.exists_split
  obtain ⟨middle, last, rfl, hmiddle, hlast⟩ := hrest.exists_split
  -- The stretch goes from the first character of the word to the last one.
  obtain ⟨init, y, rfl⟩ : ∃ init y, word = init ++ [y] :=
    ⟨word.dropLast, word.getLast hne, (List.dropLast_append_getLast hne).symm⟩
  obtain ⟨front, left, rfl, hfront, hleft⟩ := hmiddle.exists_last
  obtain ⟨x, tail, htail⟩ := List.exists_cons_of_ne_nil hne
  have hstretch : Remains strip (front ++ [y]) (x :: tail) := by
    rw [← htail]
    exact hfront.append (.all [y])
  obtain ⟨left', stretch, hsplit, hleft', hremains⟩ := hstretch.exists_first
  have hidentifier {z : Option Char} (hz : z ∈ init ++ [y]) : z.any isIdentifierChar = true := by
    simpa using hall z hz
  refine ⟨first ++ left', x :: stretch, left ++ last, ?_, ?_, ?_, ?_, ?_, ?_⟩
  · have hview : front ++ y :: left = (front ++ [y]) ++ left := by simp
    rw [hview, hsplit]
    simp
  · intro z hz
    by_contra hnot
    have hremainsBefore := hfirst.append hleft'
    rw [List.append_nil] at hremainsBefore
    have hz' := hremainsBefore.getLast?_identifier hz (by simpa using hnot)
    exact hnot (by simpa using hbefore z hz')
  · intro z hz
    by_contra hnot
    have hz' := (hleft.append hlast).head?_identifier hz (by simpa using hnot)
    exact hnot (by simpa using hafter z hz')
  · exact ⟨x, rfl, hidentifier (by rw [htail]; exact List.mem_cons_self)⟩
  · refine ⟨y, ?_, hidentifier (by simp)⟩
    have hlasts := congrArg List.getLast? hsplit
    rw [List.getLast?_concat,
      List.getLast?_append_of_ne_nil _ (List.cons_ne_nil x stretch)] at hlasts
    exact hlasts.symm
  · rw [htail]
    exact .keep x hremains

/-- Where all identifiers are kept apart, nothing is left out within one. -/
theorem KeepsApart.eq (h : KeepsApart strip view) {before after : List (Option Char)}
    (hview : view = before ++ x :: (stretch ++ after)) (hx : x.any isIdentifierChar = true)
    (hremains : Remains strip stretch word) (hword : ∀ y ∈ word, y.any isIdentifierChar = true)
    (hlast : ∀ y ∈ stretch.getLast?, y.any isIdentifierChar = true) : stretch = word := by
  induction word generalizing before x stretch with
  | nil =>
    -- Nothing remains of the stretch, so it has no identifier at its end.
    rw [← List.getLast?_eq_none_iff, Option.eq_none_iff_forall_not_mem]
    intro y hy
    cases hremains.getLast?_identifier hy (hlast y hy)
  | cons y word ih =>
    obtain ⟨gap, more, rfl, hgap, hmore⟩ := hremains.exists_first
    have hy := hword y List.mem_cons_self
    obtain rfl : gap = [] := h before x gap y (more ++ after) (by rw [hview]; simp) hx hy hgap
    rw [List.nil_append] at hview hlast ⊢
    have hfurther : view = (before ++ [x]) ++ y :: (more ++ after) := by
      rw [hview]
      simp
    have hrest : more = word := by
      refine ih hfurther hy hmore (fun z hz => hword z (List.mem_cons_of_mem y hz))
        (fun z hz => hlast z ?_)
      cases more with
      | nil => cases hz
      | cons w more => rwa [List.getLast?_cons_cons]
    rw [hrest]

/-- Where all identifiers are kept apart, an identifier of what remains is one of the view. -/
theorem StemsFrom.mem_shownIdentifiers (h : StemsFrom strip view word)
    (hword : ∀ x ∈ word, x.any isIdentifierChar = true) (apart : KeepsApart strip view) :
    word ∈ shownIdentifiers view := by
  obtain ⟨before, stretch, after, hview, hbefore, hafter, ⟨x, hx, hfirst⟩, ⟨y, hy, hlast⟩,
    hremains⟩ := h
  obtain ⟨more, rfl⟩ := List.head?_eq_some_iff.1 hx
  obtain ⟨tail, rfl⟩ := List.head?_eq_some_iff.1 (hremains.head?_identifier hx hfirst)
  obtain ⟨left, more', hsplit, hleft, hmore⟩ := hremains.exists_first
  -- Nothing is left out before the first character, as it is the first of the stretch.
  obtain rfl : left = [] := by
    cases left with
    | nil => rfl
    | cons z left =>
      obtain ⟨rfl, -⟩ := List.cons.inj hsplit
      cases hleft.head?_identifier rfl hfirst
  obtain rfl : more = more' := (List.cons.inj hsplit).2
  have hends : ∀ z ∈ more.getLast?, z.any isIdentifierChar = true := by
    intro z hz
    obtain rfl : y = z := by
      cases more with
      | nil => cases hz
      | cons w more =>
        rw [List.getLast?_cons_cons] at hy
        exact Option.mem_unique hy hz
    exact hlast
  obtain rfl : more = tail := apart.eq hview hfirst hmore
    (fun z hz => hword z (List.mem_cons_of_mem x hz)) hends
  refine Text.mem_runs_iff.2 ⟨List.cons_ne_nil x more, fun z hz => ?_, before, after, hview,
    fun z hz => ?_, fun z hz => ?_⟩
  · rw [hword z hz]
    rfl
  · rw [hbefore z hz]
    rfl
  · rw [hafter z hz]
    rfl

/-- Identifiers are kept apart where none directly follows a character that a stretch which is left
out can end in. -/
theorem keepsApart_of_isChain
    (h : view.IsChain fun x y => y.any isIdentifierChar = true → x ∉ lastsLeftOut) :
    KeepsApart strip view := by
  rintro before x gap y after rfl - hy hgap
  rcases List.eq_nil_or_concat' gap with rfl | ⟨front, z, rfl⟩
  · rfl
  · have hview : before ++ x :: (front ++ [z] ++ y :: after) =
        (before ++ x :: front) ++ z :: y :: after := by simp
    rw [hview] at h
    have hnot := (List.isChain_append_cons_cons.1 h).2.1 hy
    -- Nothing remains of the gap, so its last character is one of those.
    cases hgap.getLast?_eq List.getLast?_concat hnot

end MemberOutline.Shape
