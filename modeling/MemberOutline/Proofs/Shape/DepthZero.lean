import MemberOutline.Proofs.Shape.Label
import Mathlib.Algebra.Group.Nat.Even

/-!
# Tokens at depth zero

Where the tokens of the reference scan stand, said of the places of a view. The round, square and
curly brackets of the code before a place tell which groups are open there (`openBrackets`), and
equals signs one after the other pair up from the left, so that one after an even number of them
begins a token (`equalsAtEnd`). A token is reported exactly if it stands at a place where no group
is open and it begins there (`mem_tokens_iff`).
-/

namespace MemberOutline.Shape

variable {view view' a b : List (Option Char)} {x : Option Char} {u : Text}

/-! ## Brackets -/

/-- The groups that are open after one more place, innermost first: an opener opens its group, a
closer closes it if it is the innermost one, and all else changes nothing. -/
def bracketStep (groups : List Group) (x : Option Char) : List Group :=
  match x with
  | none => groups
  | some c =>
    match Group.ofOpener? c, Group.ofCloser? c with
    | some g, _ => g :: groups
    | none, some g => if groups.head? = some g then groups.tail else groups
    | none, none => groups

variable {c : Char} {g : Group} {groups : List Group}

/-- An opener opens its group. -/
theorem bracketStep_opener (hopener : Group.ofOpener? c = some g) :
    bracketStep groups (some c) = g :: groups := by
  simp only [bracketStep, hopener]

/-- A closer closes the innermost group if it is one of its kind. -/
theorem bracketStep_closer (hopener : Group.ofOpener? c = none)
    (hcloser : Group.ofCloser? c = some g) :
    bracketStep groups (some c) = if groups.head? = some g then groups.tail else groups := by
  simp only [bracketStep, hopener, hcloser]

/-- A character that is no bracket changes nothing in the open groups. -/
theorem bracketStep_other (hopener : Group.ofOpener? c = none)
    (hcloser : Group.ofCloser? c = none) : bracketStep groups (some c) = groups := by
  simp only [bracketStep, hopener, hcloser]

/-- The groups that are open at the end of a view. -/
def openBrackets (view : List (Option Char)) : List Group := view.foldl bracketStep []

namespace Reference

/-- A token that is reported changes nothing in the groups. -/
theorem groups_report (r : Reference) (token : Text) : (r.report token).groups = r.groups := by
  unfold report
  split_ifs <;> rfl

/-- A sign is reported. -/
theorem read_sign (hu : u ∈ signs) (r : Reference) : r.read u = r.report u := by
  unfold read
  exact if_pos hu

/-- A lexeme of one character opens and closes the groups that the character does. -/
theorem groups_read_single (r : Reference) (c : Char) :
    (r.read [c]).groups = bracketStep r.groups (some c) := by
  cases hopener : Group.ofOpener? c with
  | some g =>
    rw [bracketStep_opener hopener, read_opener r hopener]
    rfl
  | none =>
    cases hcloser : Group.ofCloser? c with
    | some g =>
      rw [bracketStep_closer hopener hcloser, read_closer r hcloser]
      unfold closeGroup
      split_ifs
      · exact groups_report _ [c]
      · rfl
    | none =>
      rw [bracketStep_other hopener hcloser]
      by_cases hsign : [c] ∈ signs
      · rw [read_sign hsign, groups_report]
      · have hnot : c ≠ '=' ∧ c ≠ ';' := by simpa [signs] using hsign
        rw [read_other r hnot.1 hnot.2 hopener hcloser]

/-- The groups after lexemes are those after the places of the view. -/
theorem groups_foldl (view : List (Option Char)) (r : Reference) :
    ((lexemes view).foldl read r).groups = view.foldl bracketStep r.groups := by
  induction view using lexemes.induct generalizing r with
  | case1 => rfl
  | case2 view ih => exact ih r
  | case3 view ih =>
    rw [lexemes, List.foldl_cons, ih, read_sign (by decide), groups_report]
    rfl
  | case4 view ih =>
    rw [lexemes, List.foldl_cons, ih, read_sign (by decide), groups_report]
    rfl
  | case5 c view hequals harrow ih =>
    rw [lexemes, List.foldl_cons, ih, groups_read_single]
    · rfl
    · exact hequals
    · exact harrow

/-! ## Tokens and lexemes -/

/-- The texts of tokens: the signs and the brackets. -/
def tokenTexts : List Text := boundaries ++ [[')'], [']'], ['}']]

/-- Signs and openers are reported exactly at depth zero. -/
theorem tokens_read_boundary (hu : u ∈ boundaries) (r : Reference) :
    (r.read u).tokens = if r.groups = [] then r.tokens ++ [u] else r.tokens := by
  rcases List.mem_append.1 hu with hsign | hopener
  · rw [read_sign hsign, tokens_report]
  · have hcases : u = ['('] ∨ u = ['['] ∨ u = ['{'] := by simpa using hopener
    rcases hcases with rfl | rfl | rfl
    · exact tokens_openGroup r '(' .round
    · exact tokens_openGroup r '[' .square
    · exact tokens_openGroup r '{' .curly

/-- A lexeme that is no boundary is read as a closer or passed over. -/
theorem read_of_not_boundary (hu : u ∉ boundaries) (r : Reference) :
    (∃ c g, u = [c] ∧ Group.ofCloser? c = some g ∧ r.read u = r.closeGroup c g) ∨
      r.read u = r := by
  have hsign : u ∉ [['='], ['=', '='], ['=', '>'], [';']] := fun h =>
    hu (List.mem_append_left _ h)
  unfold read
  rw [if_neg hsign]
  split
  next c =>
    cases hopener : Group.ofOpener? c with
    | some g =>
      refine absurd ?_ hu
      rcases Group.ofOpener?_eq_some_iff.1 hopener with ⟨rfl, -⟩ | ⟨rfl, -⟩ | ⟨rfl, -⟩ <;> decide
    | none =>
      cases hcloser : Group.ofCloser? c with
      | some g => exact .inl ⟨c, g, rfl, hcloser, rfl⟩
      | none => exact .inr rfl
  next => exact .inr rfl

/-- Reading a lexeme reports nothing but the lexeme, and only a sign or a bracket. -/
theorem tokens_read_cases (r : Reference) (u : Text) :
    (r.read u).tokens = r.tokens ∨
      u ∈ tokenTexts ∧ (r.read u).tokens = r.tokens ++ [u] := by
  by_cases hboundary : u ∈ boundaries
  · rw [tokens_read_boundary hboundary]
    split_ifs
    · exact .inr ⟨List.mem_append_left _ hboundary, rfl⟩
    · exact .inl rfl
  · rcases read_of_not_boundary hboundary r with ⟨c, g, rfl, hcloser, hread⟩ | hread
    · have hmem : [c] ∈ tokenTexts := by
        rcases Group.ofCloser?_eq_some_iff.1 hcloser with ⟨rfl, -⟩ | ⟨rfl, -⟩ | ⟨rfl, -⟩ <;> decide
      rw [hread]
      unfold closeGroup
      split_ifs
      · rw [tokens_report]
        split_ifs
        · exact .inr ⟨hmem, rfl⟩
        · exact .inl rfl
      · exact .inl rfl
    · rw [hread]
      exact .inl rfl

/-- All tokens that lexemes add are signs and brackets. -/
theorem mem_tokenTexts_of_foldl (us : List Text) (r : Reference)
    (hr : ∀ u ∈ r.tokens, u ∈ tokenTexts) (hu : u ∈ (us.foldl read r).tokens) :
    u ∈ tokenTexts := by
  induction us generalizing r with
  | nil => exact hr u hu
  | cons v us ih =>
    refine ih (r.read v) (fun w hw => ?_) hu
    rcases tokens_read_cases r v with h | ⟨hv, h⟩
    · exact hr w (by rwa [h] at hw)
    · rw [h, List.mem_append, List.mem_singleton] at hw
      rcases hw with hw | rfl
      · exact hr w hw
      · exact hv

/-- A sign or an opener is a token exactly if it is a lexeme before which no group is open. -/
theorem mem_tokens_foldl_iff (hu : u ∈ boundaries) (us : List Text) (r : Reference) :
    u ∈ (us.foldl read r).tokens ↔ u ∈ r.tokens ∨
      ∃ before after, us = before ++ u :: after ∧ (before.foldl read r).groups = [] := by
  induction us generalizing r with
  | nil => simp
  | cons v us ih =>
    have hfirst : u ∈ (r.read v).tokens ↔ u ∈ r.tokens ∨ v = u ∧ r.groups = [] := by
      by_cases hv : v = u
      · subst hv
        rw [tokens_read_boundary hu]
        split_ifs with hgroups <;> simp [hgroups]
      · rcases tokens_read_cases r v with h | ⟨-, h⟩ <;> rw [h] <;> simp [hv, Ne.symm hv]
    rw [List.foldl_cons, ih, hfirst, or_assoc]
    refine or_congr_right ?_
    constructor
    · rintro (⟨rfl, hgroups⟩ | ⟨before, after, rfl, hgroups⟩)
      · exact ⟨[], us, rfl, hgroups⟩
      · exact ⟨v :: before, after, rfl, hgroups⟩
    · rintro ⟨before, after, hsplit, hgroups⟩
      cases before with
      | nil =>
        obtain ⟨rfl, -⟩ := List.cons.inj hsplit
        exact .inl ⟨rfl, hgroups⟩
      | cons w before =>
        obtain ⟨rfl, rfl⟩ := List.cons.inj hsplit
        exact .inr ⟨before, after, rfl, hgroups⟩

end Reference

/-! ## Lexemes and places -/

/-- The number of equals signs that a view ends in. -/
def equalsAtEnd (view : List (Option Char)) : Nat := (view.rtakeWhile (· = some '=')).length

/-- With one more place a view ends in one equals sign more if that place holds one, and in none if
it does not. -/
theorem equalsAtEnd_concat (view : List (Option Char)) (x : Option Char) :
    equalsAtEnd (view ++ [x]) = if x = some '=' then equalsAtEnd view + 1 else 0 := by
  unfold equalsAtEnd
  rw [List.rtakeWhile_concat]
  by_cases hx : x = some '=' <;> simp [hx]

/-- Of the equals signs that a view ends in only those after the last place without one count. -/
theorem equalsAtEnd_past (hx : x ≠ some '=') (front view : List (Option Char)) :
    equalsAtEnd (front ++ x :: view) = equalsAtEnd view := by
  induction view using List.reverseRecOn with
  | nil =>
    rw [equalsAtEnd_concat, if_neg hx]
    rfl
  | append_singleton view y ih =>
    rw [← List.cons_append, ← List.append_assoc, equalsAtEnd_concat, equalsAtEnd_concat, ih]

/-- A pair of equals signs at the beginning of a view does not change whether it ends in an even
number of them. -/
theorem even_equalsAtEnd_pair (view : List (Option Char)) :
    Even (equalsAtEnd (some '=' :: some '=' :: view)) ↔ Even (equalsAtEnd view) := by
  induction view using List.reverseRecOn with
  | nil => decide
  | append_singleton view y ih =>
    rw [← List.cons_append, ← List.cons_append, equalsAtEnd_concat, equalsAtEnd_concat]
    split_ifs
    · rw [Nat.even_add_one, Nat.even_add_one, ih]
    · rfl

/-- A place at the beginning of a view adds nothing to the equals signs at its end, unless it holds
an equals sign and no other place without one comes next. -/
theorem equalsAtEnd_cons (h : x = some '=' → ∃ y ∈ view.head?, y ≠ some '=') :
    equalsAtEnd (x :: view) = equalsAtEnd view := by
  by_cases hx : x = some '='
  · obtain ⟨y, hy, hne⟩ := h hx
    obtain ⟨more, rfl⟩ := List.head?_eq_some_iff.1 hy
    rw [← List.singleton_append, equalsAtEnd_past hne, ← List.nil_append (y :: more),
      equalsAtEnd_past hne]
  · rw [← List.nil_append (x :: view), equalsAtEnd_past hx]

/-- Where no lexeme of two characters begins, no part of one comes next. -/
theorem head?_ne_of_single {c : Char} (hequals : ∀ more, view = some '=' :: more → c = '=' → False)
    (harrow : ∀ more, view = some '>' :: more → c = '=' → False) :
    c = '=' → view.head? ≠ some (some '=') ∧ view.head? ≠ some (some '>') := by
  intro hc
  refine ⟨fun hhead => ?_, fun hhead => ?_⟩ <;> obtain ⟨more, rfl⟩ := List.head?_eq_some_iff.1 hhead
  · exact hequals more rfl hc
  · exact harrow more rfl hc

/-- A view can be read in two parts where no lexeme of two characters is cut: after an even number
of equals signs, or before a place that holds no second character of such a lexeme. -/
theorem lexemes_append (h : Even (equalsAtEnd a) ∨ b.head? ≠ some (some '=') ∧
    b.head? ≠ some (some '>')) : lexemes (a ++ b) = lexemes a ++ lexemes b := by
  induction a using lexemes.induct with
  | case1 => rfl
  | case2 a ih =>
    rw [List.cons_append, lexemes, lexemes]
    refine ih (h.imp_left fun heven => ?_)
    rwa [equalsAtEnd_cons (by rintro ⟨⟩)] at heven
  | case3 a ih =>
    rw [List.cons_append, List.cons_append, lexemes, lexemes, List.cons_append,
      ih (h.imp_left (even_equalsAtEnd_pair a).1)]
  | case4 a ih =>
    rw [List.cons_append, List.cons_append, lexemes, lexemes, List.cons_append]
    rw [ih (h.imp_left fun heven => ?_)]
    rwa [← equalsAtEnd_past (x := some '>') (by decide) [some '='] a]
  | case5 c a hequals harrow ih =>
    have hnext := head?_ne_of_single hequals harrow
    have hboth : c = '=' →
        (a ++ b).head? ≠ some (some '=') ∧ (a ++ b).head? ≠ some (some '>') := by
      cases a with
      | nil =>
        -- A single equals sign is an odd number of them.
        rintro rfl
        exact h.resolve_left (by decide)
      | cons y a => exact hnext
    rw [List.cons_append, lexemes_cons hboth, lexemes_cons hnext, List.cons_append]
    rw [ih (h.imp_left fun heven => ?_)]
    cases a with
    | nil => exact Even.zero
    | cons y a =>
      rwa [equalsAtEnd_cons fun hc => ⟨y, rfl, fun hy => ?_⟩] at heven
      exact (hnext (Option.some.inj hc)).1 (by rw [hy]; rfl)

/-- A view can be cut before a lexeme: what is before it has some lexemes, and it ends in an even
number of equals signs if the lexeme begins with one. -/
def CutsBefore (u : Text) (before : List Text) (view : List (Option Char)) : Prop :=
  ∃ a b, view = a ++ (u.map some ++ b) ∧ lexemes a = before ∧
    (u.head? = some '=' → Even (equalsAtEnd a))

variable {before after : List Text}

/-- Where one more lexeme comes first, a view is cut before that or where it was cut without it. -/
theorem cutsBefore_append {v : Text} (h : v :: lexemes view = before ++ u :: after)
    (ih : ∀ {before}, lexemes view = before ++ u :: after → CutsBefore u before view)
    (hlater : ∀ a b, view = a ++ (u.map some ++ b) → lexemes (v.map some ++ a) = v :: lexemes a ∧
      (u.head? = some '=' → Even (equalsAtEnd a) → Even (equalsAtEnd (v.map some ++ a)))) :
    CutsBefore u before (v.map some ++ view) := by
  cases before with
  | nil =>
    obtain ⟨rfl, -⟩ := List.cons.inj h
    exact ⟨[], view, rfl, rfl, fun _ => Even.zero⟩
  | cons w before =>
    obtain ⟨rfl, hmore⟩ := List.cons.inj h
    obtain ⟨a, b, rfl, hread, heven⟩ := ih hmore
    obtain ⟨hlexemes, hkept⟩ := hlater a b rfl
    refine ⟨v.map some ++ a, b, (List.append_assoc _ _ _).symm, ?_, fun hu => hkept hu (heven hu)⟩
    rw [hlexemes, hread]

/-- Where lexemes are cut, the view can be cut. -/
theorem cutsBefore_of_lexemes (h : lexemes view = before ++ u :: after) :
    CutsBefore u before view := by
  induction view using lexemes.induct generalizing before with
  | case1 => simp [lexemes] at h
  | case2 view ih =>
    obtain ⟨a, b, rfl, hread, heven⟩ := ih h
    refine ⟨none :: a, b, rfl, hread, fun hu => ?_⟩
    rw [equalsAtEnd_cons (by rintro ⟨⟩)]
    exact heven hu
  | case3 view ih =>
    rw [lexemes] at h
    refine cutsBefore_append (v := ['=', '=']) h ih fun a b _ => ⟨rfl, fun _ heven => ?_⟩
    exact (even_equalsAtEnd_pair a).2 heven
  | case4 view ih =>
    rw [lexemes] at h
    refine cutsBefore_append (v := ['=', '>']) h ih fun a b _ => ⟨rfl, fun _ heven => ?_⟩
    show Even (equalsAtEnd ([some '='] ++ some '>' :: a))
    rwa [equalsAtEnd_past (by decide)]
  | case5 c view hequals harrow ih =>
    have hnext := head?_ne_of_single hequals harrow
    rw [lexemes_cons hnext] at h
    refine cutsBefore_append (v := [c]) h ih fun a b hsplit => ?_
    subst hsplit
    cases a with
    | nil =>
      refine ⟨lexemes_cons fun _ => ⟨by simp, by simp⟩, fun hu _ => ?_⟩
      -- No equals sign comes before the one that the lexeme begins with.
      obtain ⟨more, rfl⟩ := List.head?_eq_some_iff.1 hu
      have hne : some c ≠ some '=' := fun hc => (hnext (Option.some.inj hc)).1 rfl
      rw [List.append_nil, List.map_singleton, equalsAtEnd_cons fun hc => absurd hc hne]
      exact Even.zero
    | cons y a =>
      refine ⟨lexemes_cons hnext, fun _ heven => ?_⟩
      rw [List.map_singleton, List.singleton_append,
        equalsAtEnd_cons fun hc => ⟨y, rfl, fun hy => ?_⟩]
      · exact heven
      · exact (hnext (Option.some.inj hc)).1 (by rw [hy]; rfl)

/-! ## Tokens and places -/

/-- A boundary other than a single equals sign is a lexeme whatever comes after it. -/
theorem lexemes_boundary (hu : u ∈ boundaries) (hne : u ≠ ['=']) (b : List (Option Char)) :
    lexemes (u.map some ++ b) = u :: lexemes b := by
  have hcases : u = ['='] ∨ u = ['=', '='] ∨ u = ['=', '>'] ∨ u = [';'] ∨ u = ['('] ∨ u = ['['] ∨
      u = ['{'] := by
    simpa [boundaries, signs] using hu
  rcases hcases with rfl | rfl | rfl | rfl | rfl | rfl | rfl
  · exact absurd rfl hne
  all_goals simp [lexemes]

/-- A boundary other than a single equals sign is a token of the reference scan exactly if it
stands at a place where no brackets are open, after an even number of equals signs if it begins
with one. -/
theorem mem_tokens_iff (hu : u ∈ boundaries) (hne : u ≠ ['=']) (view : List (Option Char)) :
    u ∈ (Reference.ofView view).tokens ↔
      ∃ a b, view = a ++ (u.map some ++ b) ∧ openBrackets a = [] ∧
        (u.head? = some '=' → Even (equalsAtEnd a)) := by
  have hgroups (a : List (Option Char)) :
      ((lexemes a).foldl Reference.read .start).groups = openBrackets a :=
    Reference.groups_foldl a .start
  rw [Reference.ofView, Reference.mem_tokens_foldl_iff hu]
  constructor
  · rintro (hstart | ⟨before, after, hsplit, hopen⟩)
    · cases hstart
    · obtain ⟨a, b, hview, rfl, heven⟩ := cutsBefore_of_lexemes hsplit
      exact ⟨a, b, hview, by rw [← hgroups, hopen], heven⟩
  · rintro ⟨a, b, rfl, hopen, heven⟩
    refine .inr ⟨lexemes a, lexemes b, ?_, by rw [hgroups, hopen]⟩
    rw [lexemes_append, lexemes_boundary hu hne]
    by_cases hequals : u.head? = some '='
    · exact .inl (heven hequals)
    · right
      have hhead : ∀ u ∈ boundaries, u.head? ≠ some '=' →
          (u.map some).head? ≠ none ∧ (u.map some).head? ≠ some (some '=') ∧
            (u.map some).head? ≠ some (some '>') := by decide
      obtain ⟨hsome, hnot⟩ := hhead u hu hequals
      rwa [List.head?_append_of_ne_nil _ (fun hnil => hsome (by rw [hnil]; rfl))]

end MemberOutline.Shape
