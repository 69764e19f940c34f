import MemberOutline.Proofs.Shape.Apart
import MemberOutline.Proofs.Shape.ArgumentGrammar
import MemberOutline.Proofs.Shape.ClosedArguments
import MemberOutline.Proofs.Shape.GroupBody

/-!
# Type arguments are recognised

Wherever a scan comes to type arguments at depth zero, right after an identifier, it takes them for
what they are (`arguments_recognised`): after them nothing is open or withheld, nothing is reported,
and without type arguments the leading text is what it was before.

The proof is an induction on the grammar that follows the groups alone. In round brackets the scan
may guess at angles of its own, but only above the group of the bracket, and the closer gives them
up (`WellBracketed.crossed`). Right inside the type arguments nothing makes the scan give up an
angle, so each `>` closes its own (`Items.readInside`). Since the outermost angle stays open up to
its `>`, what this means for the tokens and for the leading text is known from the theory of groups
that stay open (`Scan.path_within`, `Scan.apart?_within`).
-/

namespace MemberOutline.Shape

open Text (anyStep isIdentifierChar isBlank)

namespace Scan

variable {s t : Scan} {below around : List Group} {seen rest : Text} {c : Char} {g : Group}

/-! ## Inside brackets -/

/-- A scan is outside all literals and right above these groups, but for angles. -/
structure Over (below : List Group) (s : Scan) : Prop where
  /-- No literal is open. -/
  outside : s.literals = []
  /-- Without the angles on top these groups are open. -/
  groups : s.groups.dropWhile (· = .angle) = below

namespace Over

/-- The groups that a scan is right above, but for angles, are open. -/
theorem suffix (h : Over below s) : below <:+ s.groups := by
  rw [← h.groups]
  exact List.dropWhile_suffix _

/-- Settling the angles leaves the groups below them. -/
theorem settle (h : Over below s) (c : Char) : Over below (s.settle c) where
  outside := by rw [literals_settle, h.outside]
  groups := by
    unfold Scan.settle
    split_ifs
    · rw [groups_giveUpAngles, List.dropWhile_idempotent, h.groups]
    · exact h.groups

/-- A character that is no bracket leaves the groups open. -/
theorem stride (h : Over below s) (hopener : Group.ofOpener? c = none)
    (hcloser : Group.ofCloser? c = none)
    (code : Literal.step s.literals seen.head? c rest = (.code, [])) :
    Over below (Scan.stride s seen c rest).2 := by
  have hliterals : (Scan.stride s seen c rest).2.literals = [] := by
    rw [literals_stride, code]
  refine ⟨hliterals, ?_⟩
  have hsettled := (h.settle c).groups
  have hmove := stride_move s seen c rest
  generalize Scan.stride s seen c rest = answer at hmove
  cases hmove with
  | literal consumed =>
    rw [code] at consumed
    cases consumed
  | equals _ _ | semicolon _ _ =>
    rw [groups_report]
    exact hsettled
  | opener _ hc =>
    rw [hopener] at hc
    cases hc
  | closer _ hc =>
    rw [hcloser] at hc
    cases hc
  | openAngle _ _ _ =>
    unfold openAngle
    simpa using hsettled
  | closeAngle _ _ top =>
    rw [groups_closeAngle]
    -- The angle that closes is one of those on top.
    obtain ⟨inner, hinner⟩ := List.head?_eq_some_iff.1 top
    rw [hinner] at hsettled ⊢
    simpa using hsettled
  | plain _ _ _ _ _ _ _ => exact hsettled

/-- An opener opens its group above the others. -/
theorem openGroup (h : Over below s) (hc : Group.ofOpener? c = some g) :
    Over (g :: (s.settle c).groups) ((s.settle c).openGroup c g) where
  outside := by rw [literals_openGroup, literals_settle, h.outside]
  groups := by
    have hg := Group.ne_angle_of_opener hc
    rw [groups_openGroup]
    simp [hg]

/-- A closer closes its group if that is the one below the angles. -/
theorem closeGroup (h : Over (g :: below) s) (c : Char) :
    ((s.settle c).closeGroup c g).groups = below := by
  have hgiven : (s.settle c).giveUpAngles.groups = g :: below := by
    rw [giveUpAngles_settle, groups_giveUpAngles, h.groups]
  unfold Scan.closeGroup
  simp only
  rw [if_pos (by rw [hgiven]; rfl), groups_closeInnermost, hgiven]
  rfl

end Over

/-- Outside all literals a character is code if it is no quote, begins no comment and no quote
follows. -/
theorem step_of_quoteless {before : Option Char} (hquote : c ∉ ['\x27', '\x22'])
    (hslash : c = '/' → ∀ d ∈ rest.head?, d ≠ '/' ∧ d ≠ '*') (hrest : Quoteless rest) :
    Literal.step [] before c rest = (.code, []) := by
  have hnoQuote {d : Char} (hd : d ∉ ['\x27', '\x22']) : Literal.Quote.ofChar? d = none := by
    rw [Option.eq_none_iff_forall_ne_some]
    intro q hq
    have hchar : q.char ∈ ['\x27', '\x22'] := by cases q <;> decide
    rw [← Literal.Quote.ofChar?_eq_some_iff.1 hq] at hchar
    exact hd hchar
  have hnone : Literal.opening? before c rest = none := by
    rw [Literal.opening?_eq_none_iff]
    refine ⟨hnoQuote hquote, ?_, ?_⟩
    · rintro ⟨hc, hhead | hhead⟩
      · exact (hslash hc _ hhead).1 rfl
      · exact (hslash hc _ hhead).2 rfl
    · rintro ⟨-, -, hraw⟩
      cases hhead : rest.head? with
      | none =>
        rw [hhead] at hraw
        cases hraw
      | some d =>
        rw [hhead, Option.bind_some, hnoQuote (hrest d hhead)] at hraw
        cases hraw
  simp only [Literal.step, hnone]

/-- Outside all literals a character is code if no literal begins with it and no quote follows. -/
theorem step_of_not_literal {before : Option Char} (hc : c ∉ literalSigns)
    (hrest : Quoteless rest) : Literal.step [] before c rest = (.code, []) := by
  refine step_of_quoteless (not_mem_of_literalSigns hc) (fun hslash => ?_) hrest
  subst hslash
  exact absurd (by decide) hc

end Scan

open Scan

variable {t : Text} {c : Char} {g : Group}

/-- A text ends where a closer follows. -/
def BeforeCloser (rest : Text) : Prop := ∃ c after, rest = c :: after ∧ (Group.ofCloser? c).isSome

/-- No closer is a quote. -/
theorem BeforeCloser.quoteless {rest : Text} (h : BeforeCloser rest) : Quoteless rest := by
  obtain ⟨c, after, rfl, hc⟩ := h
  intro d hd
  obtain rfl := Option.some.inj hd
  obtain ⟨g, hg⟩ := Option.isSome_iff_exists.1 hc
  rcases Group.ofCloser?_eq_some_iff.1 hg with ⟨rfl, -⟩ | ⟨rfl, -⟩ | ⟨rfl, -⟩ <;> decide

/-- A scan crosses a text up to a closer: it stays above the groups that are open, and in the end
nothing else is open but angles. -/
def Crossed (t : Text) : Prop :=
  ∀ (below : List Group) (s : Scan) (seen rest : Text), below ≠ [] → Over below s →
    BeforeCloser rest →
      ∃ u, Text.Path id stride (Within below) s seen t rest u ∧ Over below u

/-- The empty text is crossed. -/
theorem crossed_nil : Crossed [] := fun _ s _ _ _ hover _ => ⟨s, .stay, hover⟩

/-- Before a closer the second of two characters is one of the text, not the closer. -/
theorem BeforeCloser.exists_cons {rest : Text} (h : BeforeCloser rest)
    (htwo : (equalsToken (t ++ rest)).length = 2) :
    ∃ d more, t = d :: more ∧ (d = '=' ∨ d = '>') := by
  obtain ⟨e, after, rfl, hclose⟩ := h
  cases t with
  | nil =>
    obtain ⟨g, hg⟩ := Option.isSome_iff_exists.1 hclose
    rcases Group.ofCloser?_eq_some_iff.1 hg with ⟨rfl, -⟩ | ⟨rfl, -⟩ | ⟨rfl, -⟩ <;>
      simp [equalsToken] at htwo
  | cons d more =>
    refine ⟨d, more, rfl, ?_⟩
    by_contra hnot
    have hone : equalsToken ((d :: more) ++ e :: after) = ['='] := by
      rw [not_or] at hnot
      simp [equalsToken, hnot.1, hnot.2]
    rw [hone] at htwo
    cases htwo

/-- A character that is no bracket is crossed, together with the rest of its token. -/
theorem crossed_char (hopener : Group.ofOpener? c = none) (hcloser : Group.ofCloser? c = none)
    (hliteral : c ∉ literalSigns) (ht : WellBracketed t) (hall : Crossed t)
    (hafter : ∀ d more, t = d :: more → d = '=' ∨ d = '>' → Crossed more) : Crossed (c :: t) := by
  intro below s seen rest hne hover hrest
  have code : Literal.step s.literals seen.head? c (t ++ rest) = (.code, []) := by
    rw [hover.outside]
    exact step_of_not_literal hliteral (ht.quoteless hrest.quoteless)
  have hnext := hover.stride hopener hcloser code
  have hwidth := width_of_code code
  rcases hstride : stride s seen c (t ++ rest) with ⟨width, u⟩
  rw [hstride] at hnext hwidth
  -- Only an equals sign may cover one more character.
  have hcases : width = 1 ∨ width = 2 ∧ (equalsToken (t ++ rest)).length = 2 := by
    simp only at hwidth
    have hlength := length_equalsToken (t ++ rest)
    split_ifs at hwidth <;> omega
  rcases hcases with hone | ⟨htwo, hlength⟩
  · obtain ⟨v, hpath, hv⟩ := hall below u (c :: seen) rest hne hnext hrest
    exact ⟨v, .cons_one hover.suffix hstride hone hpath, hv⟩
  · obtain ⟨d, more, rfl, hd⟩ := hrest.exists_cons hlength
    obtain ⟨v, hpath, hv⟩ := hafter d more rfl hd below u (d :: c :: seen) rest hne hnext hrest
    exact ⟨v, .cons_two hover.suffix hstride htwo hpath, hv⟩

/-- A path goes past a pair of brackets if it goes over the opener, over what stands between them
with further groups open, and over the closer. -/
theorem path_bracketed {below above : List Group} {s s' u u' v : Scan} {o : Char}
    {seen inner rest : Text} (hbelow : below <:+ above) (before : below <:+ s.groups)
    (opens : stride s seen o (inner ++ c :: (t ++ rest)) = (1, s'))
    (inside : Text.Path id stride (Within above) s' (o :: seen) inner (c :: (t ++ rest)) u)
    (after : above <:+ u.groups)
    (closes : stride u (inner.reverse ++ o :: seen) c (t ++ rest) = (1, u'))
    (onward : Text.Path id stride (Within below) u' (c :: (inner.reverse ++ o :: seen)) t rest v) :
    Text.Path id stride (Within below) s seen (o :: (inner ++ c :: t)) rest v := by
  have hpast : Text.Path id stride (Within below) u (inner.reverse ++ o :: seen) (c :: t) rest v :=
    .cons_one (hbelow.trans after) closes rfl onward
  have hboth : Text.Path id stride (Within below) s' (o :: seen) (inner ++ c :: t) rest v :=
    .trans (within_mono hbelow inside) hpast
  have hopens : stride s seen o ((inner ++ c :: t) ++ rest) = (1, s') := by
    rw [List.append_assoc]
    exact opens
  exact .cons_one before hopens rfl hboth

/-- A pair of brackets is crossed with what stands between them. -/
theorem crossed_group {o : Char} {inner : Text} (ho : Group.ofOpener? o = some g)
    (hc : Group.ofCloser? c = some g) (hinner : Crossed inner) (ht : Crossed t) :
    Crossed (o :: (inner ++ c :: t)) := by
  intro below s seen rest hne hover hrest
  have hsettled := (hover.settle o).suffix
  have hopens : stride s seen o (inner ++ c :: (t ++ rest)) = (1, (s.settle o).openGroup o g) := by
    rw [stride_of_code (by rw [hover.outside]; exact step_of_opener _ _ ho),
      code_of_opener _ _ _ ho]
  obtain ⟨u, hinside, hu⟩ := hinner _ _ (o :: seen) (c :: (t ++ rest)) (List.cons_ne_nil _ _)
    (hover.openGroup ho) ⟨c, _, rfl, by rw [hc]; rfl⟩
  have hcloses : stride u (inner.reverse ++ o :: seen) c (t ++ rest) =
      (1, (u.settle c).closeGroup c g) := by
    rw [stride_of_code (by rw [hu.outside]; exact step_of_closer _ _ hc),
      code_of_closer _ _ _ hc]
  have hclosed : Over below ((u.settle c).closeGroup c g) := by
    refine ⟨by rw [literals_closeGroup, literals_settle, hu.outside], ?_⟩
    rw [hu.closeGroup c]
    exact (hover.settle o).groups
  obtain ⟨v, honward, hv⟩ := ht below _ (c :: (inner.reverse ++ o :: seen)) rest hne hclosed hrest
  -- The brackets stay inside all groups that were open before them.
  have hwithin : below <:+ g :: (s.settle o).groups := hsettled.trans (List.suffix_cons _ _)
  exact ⟨v, path_bracketed hwithin hover.suffix hopens hinside hu.suffix hcloses honward, hv⟩

/-- A text whose brackets are nested is crossed. -/
theorem WellBracketed.crossed (h : WellBracketed t) : Crossed t := by
  -- A token may cover the first character of the rest, so that the rest without a first character
  -- that is no bracket belongs to the induction hypothesis.
  have hboth : Crossed t ∧ ∀ d more, t = d :: more → d = '=' ∨ d = '>' → Crossed more := by
    induction h with
    | nil => exact ⟨crossed_nil, fun d more hnil => by cases hnil⟩
    | @char c t notOpener notCloser notLiteral more ih =>
      refine ⟨crossed_char notOpener notCloser notLiteral more ih.1 ih.2, ?_⟩
      intro d rest hsplit _
      obtain ⟨-, rfl⟩ := List.cons.inj hsplit
      exact ih.1
    | @group o c g inner t opener closer _ _ ihInside ihMore =>
      refine ⟨crossed_group opener closer ihInside.1 ihMore.1, ?_⟩
      intro d rest hsplit hd
      obtain ⟨rfl, -⟩ := List.cons.inj hsplit
      rcases hd with rfl | rfl <;> cases opener
  exact hboth.1

/-! ## Right inside type arguments -/

/-- A scan reads a text right inside type arguments: it comes back to where it was, and the type
arguments stay open on the way. -/
def ReadInside (seen t : Text) : Prop :=
  ∀ (around : List Group) (s : Scan) (rest : Text), s.literals = [] →
    s.groups = .angle :: around → Quoteless rest →
      ∃ u, Text.Path id stride (Within (.angle :: around)) s seen t rest u ∧ u.literals = [] ∧
        u.groups = .angle :: around

variable {seen inner : Text}

/-- A character that stands for itself is read right inside type arguments. -/
theorem readInside_char (hc : isItemChar c = true) (ht : Items (c :: seen) t)
    (hmore : ReadInside (c :: seen) t) : ReadInside seen (c :: t) := by
  intro around s rest houtside hgroups hrest
  have hne {d : Char} (hd : isItemChar d = false) : c ≠ d := ne_of_isItemChar hc hd
  have hopener : Group.ofOpener? c = none := by
    unfold Group.ofOpener?
    rw [if_neg (hne (by decide)), if_neg (hne (by decide)), if_neg (hne (by decide))]
  have hcloser : Group.ofCloser? c = none := by
    unfold Group.ofCloser?
    rw [if_neg (hne (by decide)), if_neg (hne (by decide)), if_neg (hne (by decide))]
  have hcode : stride s seen c (t ++ rest) = s.code seen c (t ++ rest) := by
    rw [stride_of_code (by
        rw [houtside]
        exact step_of_not_literal (not_mem_literalSigns_of_isItemChar hc) (ht.quoteless hrest)),
      settle_of_holds s (argumentsHold_of_isItemChar hc)]
  have hplain : s.code seen c (t ++ rest) = (1, s.plain c) := by
    unfold code
    rw [if_neg (hne (by decide)), if_neg (hne (by decide)), hopener, hcloser]
    simp only
    rw [if_neg fun h => hne (by decide) h.1, if_neg fun h => hne (by decide) h.1]
  obtain ⟨u, hpath, hu⟩ := hmore around (s.plain c) rest houtside hgroups hrest
  have hopen : Group.angle :: around <:+ s.groups := hgroups ▸ List.suffix_rfl
  exact ⟨u, .cons_one hopen (hcode.trans hplain) rfl hpath, hu⟩

/-- Round brackets are read right inside type arguments with what stands in them. -/
theorem readInside_round (hinner : WellBracketed inner)
    (hmore : ReadInside (')' :: (inner.reverse ++ '(' :: seen)) t) :
    ReadInside seen ('(' :: (inner ++ ')' :: t)) := by
  intro around s rest houtside hgroups hrest
  have hopen : Group.angle :: around <:+ s.groups := hgroups ▸ List.suffix_rfl
  have hopens : stride s seen '(' (inner ++ ')' :: (t ++ rest)) =
      (1, s.openGroup '(' .round) := by
    rw [stride_eq_code houtside (by decide) (by decide), code_of_opener _ _ _ rfl]
  have hover : Over (.round :: .angle :: around) (s.openGroup '(' .round) := by
    refine ⟨by rw [literals_openGroup, houtside], ?_⟩
    rw [groups_openGroup, hgroups]
    rfl
  obtain ⟨u, hinside, hu⟩ := hinner.crossed _ _ ('(' :: seen) (')' :: (t ++ rest))
    (List.cons_ne_nil _ _) hover ⟨')', _, rfl, rfl⟩
  have hcloses : stride u (inner.reverse ++ '(' :: seen) ')' (t ++ rest) =
      (1, (u.settle ')').closeGroup ')' .round) := by
    rw [stride_of_code (by rw [hu.outside]; exact step_of_closer _ _ rfl),
      code_of_closer _ _ _ rfl]
  obtain ⟨v, honward, hv⟩ := hmore around ((u.settle ')').closeGroup ')' .round) rest
    (by rw [literals_closeGroup, literals_settle, hu.outside]) (hu.closeGroup ')') hrest
  exact ⟨v, path_bracketed (List.suffix_cons _ _) hopen hopens hinside hu.suffix hcloses honward,
    hv⟩

/-- Type arguments are read right inside other type arguments. -/
theorem readInside_nested (opens : opensArguments seen = true)
    (hinner : ReadInside ('<' :: seen) inner)
    (hmore : ReadInside ('>' :: (inner.reverse ++ '<' :: seen)) t) :
    ReadInside seen ('<' :: (inner ++ '>' :: t)) := by
  intro around s rest houtside hgroups hrest
  have hopen : Group.angle :: around <:+ s.groups := hgroups ▸ List.suffix_rfl
  have hquote : Quoteless ('>' :: (t ++ rest)) := by
    intro d hd
    obtain rfl := Option.some.inj hd
    decide
  obtain ⟨u, hinside, huoutside, hugroups⟩ := hinner (.angle :: around) s.openAngle
    ('>' :: (t ++ rest)) houtside (by rw [← hgroups]; rfl) hquote
  have huopen : .angle :: .angle :: around <:+ u.groups := hugroups ▸ List.suffix_rfl
  have hcloses : stride u (inner.reverse ++ '<' :: seen) '>' (t ++ rest) = (1, u.closeAngle) :=
    stride_closeAngle huoutside (by rw [hugroups]; rfl) _ _
  have hclosed : u.closeAngle.groups = .angle :: around := by
    rw [groups_closeAngle, hugroups]
    rfl
  obtain ⟨v, honward, hv⟩ := hmore around u.closeAngle rest
    (by rw [literals_closeAngle, huoutside]) hclosed hrest
  exact ⟨v, path_bracketed (List.suffix_cons _ _) hopen (stride_openAngle houtside opens _) hinside
    huopen hcloses honward, hv⟩

/-- Whatever may stand in type arguments is read there. -/
theorem Items.readInside (h : Items seen t) : ReadInside seen t := by
  induction h with
  | nil => exact fun _ s _ houtside hgroups _ => ⟨s, .stay, houtside, hgroups⟩
  | char hc more ih => exact readInside_char hc more ih
  | round inside _ ih => exact readInside_round inside ih
  | nested opens _ _ ihInside ihMore => exact readInside_nested opens ihInside ihMore

/-- Type arguments after a word at depth zero are closed by their own `>`, whatever follows them. -/
theorem Items.argumentsClose {p items : Text} (h : Items ('<' :: p.reverse) items)
    (outside : (Scan.ofText p).literals = []) (word : opensArguments p.reverse = true) (b : Text) :
    ArgumentsClose p items b (Scan.ofText p).groups := by
  have hquote : Quoteless ('>' :: b) := by
    intro d hd
    obtain rfl := Option.some.inj hd
    decide
  have hinert : Literal.Inert ('<' :: (items ++ '>' :: b)) := Literal.inert_cons (by decide) _
  have harrives := path_before_inert (Text.path_walk start [] p) outside hinert
  obtain ⟨t, hinside, ht, hgroups⟩ := h.readInside (Scan.ofText p).groups (Scan.ofText p).openAngle
    ('>' :: b) outside rfl hquote
  exact ⟨Scan.ofText p, t, harrives, outside, rfl, word, hinside, ht, hgroups⟩

/-! ## After the type arguments -/

/-- Type arguments with their angles. -/
def argumentList (items : Text) : Text := '<' :: (items ++ ['>'])

/-- After type arguments that are closed at depth zero nothing is open, withheld or reported, and
the leading text without type arguments is what it was before them. -/
theorem ArgumentsClose.state_after {p items b : Text} (h : ArgumentsClose p items b []) :
    ∃ u : Scan, Text.Path id stride anyStep .start [] (p ++ argumentList items) b u ∧
      u.groups = [] ∧ u.withheld = [] ∧ u.literals = [] ∧ u.tokens = (Scan.ofText p).tokens ∧
      u.leading.collected.render true = (Scan.ofText p).leading.collected.render true := by
  obtain ⟨s, t, arrives, outside, depth, word, inside, hcode, htop⟩ := h
  rw [ofText_eq_of_path arrives outside]
  have hend : [Group.angle] <:+ t.groups := htop ▸ List.suffix_rfl
  -- Up to their `>` the type arguments stay open.
  obtain ⟨-, htokens, -⟩ := path_within (List.cons_ne_nil _ _) inside hend
  have hcoupled : s.Coupled := arrives.keeps (fun _ _ _ _ _ h => h.stride _ _ _) coupled_start
  have hentered : s.openAngle.leading.apart? = some s.leading.collected := by
    unfold openAngle
    rw [if_pos depth]
    refine LeadingText.apart?_enter fun o ho => ?_
    rw [← hcoupled o ho, depth]
    rfl
  have hapart := apart?_within (List.cons_ne_nil _ _) inside hend
  rw [hentered] at hapart
  -- The path goes over the `<`, the items and the `>`.
  have hopens : stride s p.reverse '<' ((items ++ ['>']) ++ b) = (1, s.openAngle) :=
    stride_openAngle outside word _
  have hcloses : stride t (items.reverse ++ '<' :: p.reverse) '>' ([] ++ b) = (1, t.closeAngle) :=
    stride_closeAngle hcode (by rw [htop]; rfl) _ _
  have hitems : Text.Path id stride anyStep s.openAngle ('<' :: p.reverse) (items ++ ['>']) b
      t.closeAngle :=
    .trans (inside.mono fun _ _ _ _ _ => trivial) (.cons_one trivial hcloses rfl .stay)
  have harguments : Text.Path id stride anyStep s p.reverse (argumentList items) b t.closeAngle :=
    .cons_one trivial hopens rfl hitems
  have hpath : Text.Path id stride anyStep .start [] (p ++ argumentList items) b t.closeAngle := by
    refine .trans (by simpa [argumentList] using arrives) ?_
    rw [List.append_nil]
    exact harguments
  have hclosed : t.closeAngle =
      { t with groups := [], withheld := [], leading := t.leading.leave } :=
    closeAngle_of_nil (by rw [htop]; rfl)
  refine ⟨t.closeAngle, hpath, ?_⟩
  rw [hclosed]
  exact ⟨rfl, rfl, hcode, htokens, LeadingText.render_leave hapart⟩

/-- Type arguments are recognised wherever a scan has just come past a word other than `operator` at
depth zero: whatever follows them, it comes right past their `>`, and there no group or literal is
open and nothing is withheld, the tokens are those from before the type arguments, and so is the
leading text without type arguments. -/
theorem arguments_recognised {p items : Text} (outside : (Scan.ofText p).literals = [])
    (depth : (Scan.ofText p).groups = []) (word : opensArguments p.reverse = true)
    (h : Items ('<' :: p.reverse) items) :
    (∀ b, Text.Path id stride anyStep .start [] (p ++ argumentList items) b
      (Scan.ofText (p ++ argumentList items))) ∧
    (Scan.ofText (p ++ argumentList items)).groups = [] ∧
    (Scan.ofText (p ++ argumentList items)).withheld = [] ∧
    (Scan.ofText (p ++ argumentList items)).literals = [] ∧
    (Scan.ofText (p ++ argumentList items)).tokens = (Scan.ofText p).tokens ∧
    (Scan.ofText (p ++ argumentList items)).leading.collected.render true =
      (Scan.ofText p).leading.collected.render true := by
  have hafter (b : Text) := (depth ▸ h.argumentsClose outside word b).state_after
  refine ⟨fun b => ?_, ?_⟩
  · obtain ⟨u, hpath, -, -, hliterals, -⟩ := hafter b
    rw [ofText_eq_of_path hpath hliterals]
    exact hpath
  · obtain ⟨u, hpath, hgroups, hwithheld, hliterals, hstate⟩ := hafter []
    rw [ofText_eq_of_path hpath hliterals]
    exact ⟨hgroups, hwithheld, hliterals, hstate⟩

/-- A function type with a comparison, an arrow and square brackets between its round ones, and type
arguments of its own. -/
def functionItems : Text := "F(a=>b<[c;])?, L<T>".toList

/-- After a type with a function type among its arguments a scan stands where it stood before them,
and goes on with the leading text that it was collecting. -/
theorem arguments_recognised_functionItems :
    Items ('<' :: "final Map".toList.reverse) functionItems ∧
      (Scan.ofText ("final Map".toList ++ argumentList functionItems)).groups = [] ∧
      (Scan.ofText ("final Map".toList ++ argumentList functionItems)).withheld = [] ∧
      (Scan.ofText ("final Map".toList ++ argumentList functionItems)).tokens = [] ∧
      (Scan.ofText
        ("final Map".toList ++ argumentList functionItems)).leading.collected.render true =
          "final Map".toList ∧
      (Shape.ofText true ("final Map".toList ++ argumentList functionItems ++ " a;".toList)) =
        ⟨[';'], "final Map a".toList⟩ := by
  have hbrackets : WellBracketed "a=>b<[c;]".toList :=
    .char rfl rfl (by decide) <| .char rfl rfl (by decide) <| .char rfl rfl (by decide) <|
      .char rfl rfl (by decide) <| .char rfl rfl (by decide) <|
        @WellBracketed.group '[' ']' .square ['c', ';'] [] rfl rfl
          (.char rfl rfl (by decide) <| .char rfl rfl (by decide) .nil) .nil
  have hitems : Items ('<' :: "final Map".toList.reverse) functionItems :=
    .char (by decide) <| @Items.round _ "a=>b<[c;]".toList _ hbrackets <| .char (by decide) <|
      .char (by decide) <| .char (by decide) <| .char (by decide) <|
        @Items.nested _ ['T'] [] (by decide) (.char (by decide) .nil) .nil
  obtain ⟨-, hgroups, hwithheld, -, htokens, hleading⟩ :=
    arguments_recognised (p := "final Map".toList) (by decide) (by decide) (by decide) hitems
  refine ⟨hitems, hgroups, hwithheld, ?_, ?_, by decide⟩
  · rw [htokens]
    decide
  · rw [hleading]
    decide

end MemberOutline.Shape
