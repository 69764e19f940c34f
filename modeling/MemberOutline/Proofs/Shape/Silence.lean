import MemberOutline.Proofs.Literal.Reading
import MemberOutline.Proofs.Shape.Move

/-!
# Literals and blanks count as one space

A stretch of a text is silent if a scan comes through it, from code to code, by nothing but parts of
literals and blanks; every literal of the grammar is (`IsSilent.of_literal`). The main statement is
`shape_of_silent`: a silent stretch can be replaced by one space, and so by any other silent
stretch, without a change in the shape of the text.

Nothing before the stretch can see into it: a step that ends before it is the same before any inert
text, and a space is inert (`stride_before_inert`). On the stretch itself a gap is noted in the
leading text and no more (`path_silent`). And nothing after the stretch can see into it: all that a
step asks about the characters before it is the identifier that they end in, and neither a silent
stretch nor a space ends in one (`head?_of_silent`, `stride_of_seen`).
-/

namespace MemberOutline.Shape

open Text (anyStep isBlank isIdentifierChar)

/-! ## Blanks -/

/-- The code points of the blanks. -/
def blankCodes : List Nat :=
  List.range' 9 5 ++ [0x20, 0x85, 0xA0, 0x1680] ++ List.range' 0x2000 11 ++
    [0x2028, 0x2029, 0x202F, 0x205F, 0x3000]

/-- What holds of the characters at these code points holds of every blank. -/
theorem of_isBlank {P : Char → Prop} (hall : ∀ n ∈ blankCodes, P (Char.ofNat n)) {c : Char}
    (h : isBlank c = true) : P c := by
  have hcode : c.toNat ∈ blankCodes := by
    simp only [isBlank, Bool.or_eq_true, Bool.and_eq_true, decide_eq_true_eq, beq_iff_eq] at h
    simp only [blankCodes, List.mem_append, List.mem_range'_1, List.mem_cons, List.not_mem_nil,
      or_false]
    omega
  have hc := hall c.toNat hcode
  rwa [Char.ofNat_toNat] at hc

/-- No blank belongs to an identifier. -/
theorem not_isIdentifierChar_of_isBlank {c : Char} (h : isBlank c = true) :
    isIdentifierChar c = false :=
  -- The table of letters is long, but there are few blanks to look up.
  of_isBlank (P := fun c => isIdentifierChar c = false) (by decide +kernel) h

/-- Noting a blank twice is noting it once. -/
theorem LeadingText.blank_blank (l : LeadingText) : l.blank.blank = l.blank := by
  cases l <;> rfl

namespace Scan

variable {s t : Scan} {seen way rest : Text} {c : Char}

/-! ## Looking ahead -/

/-- What follows an equals sign within a stretch of text is found before any inert text. -/
theorem equalsToken_before_inert {within rest' : Text} (hinert : Literal.Inert rest')
    (hreach : (equalsToken (within ++ rest)).length ≤ within.length + 1) :
    equalsToken (within ++ rest') = equalsToken (within ++ rest) := by
  cases within with
  | cons d within => rfl
  | nil =>
    rw [List.nil_append] at hreach ⊢
    -- The token covers one character, so no other one of its kind follows.
    have hrest : equalsToken rest = ['='] := by
      unfold equalsToken at hreach ⊢
      split at hreach
      · simp at hreach
      · simp at hreach
      · rfl
    rw [List.nil_append, hrest]
    unfold equalsToken
    split
    next h => exact absurd h (hinert.head?_ne (by decide))
    next h => exact absurd h (hinert.head?_ne (by decide))
    next => rfl

/-- A step that ends within a stretch of text is the same before any inert text. -/
theorem stride_before_inert {within rest' : Text} (hinert : Literal.Inert rest')
    (hreach : (stride s seen c (within ++ rest)).1 ≤ within.length + 1) :
    stride s seen c (within ++ rest') = stride s seen c (within ++ rest) := by
  rcases hstep : Literal.step s.literals seen.head? c (within ++ rest) with ⟨answer, literals⟩
  -- A code character is a step of its own for the literals, also where the scan covers two.
  have hsame : Literal.step s.literals seen.head? c (within ++ rest') = (answer, literals) := by
    rw [Literal.step_before_inert hinert, hstep]
    rw [hstep]
    cases answer with
    | code => exact Nat.le_add_left 1 within.length
    | consumed width =>
      rw [width_of_consumed hstep] at hreach
      exact hreach
  unfold stride
  rw [hstep, hsame]
  cases answer with
  | consumed width => rfl
  | code =>
    obtain ⟨-, rfl⟩ := Literal.step_eq_code hstep
    rw [width_of_code hstep] at hreach
    simp only
    unfold code
    by_cases hc : c = '='
    · rw [if_pos hc] at hreach
      rw [if_pos hc, if_pos hc, equalsToken_before_inert hinert hreach]
    · rw [if_neg hc, if_neg hc]

/-- A token of an equals sign has one character or two. -/
theorem length_equalsToken (t : Text) :
    (equalsToken t).length = 1 ∨ (equalsToken t).length = 2 := by
  unfold equalsToken
  split
  · exact .inr rfl
  · exact .inr rfl
  · exact .inl rfl

/-- The token of an equals sign lies within the text. -/
theorem length_equalsToken_le (rest : Text) : (equalsToken rest).length ≤ rest.length + 1 := by
  unfold equalsToken
  cases rest with
  | nil => exact Nat.le_refl 1
  | cons d rest =>
    have htwo : 2 ≤ (d :: rest).length + 1 := by
      rw [List.length_cons]
      omega
    split
    · exact htwo
    · exact htwo
    · exact Nat.le_add_left 1 (d :: rest).length

/-- A step that asks for more characters than there are is an escape at the end of the text, and
asks for one more. -/
theorem width_stride_le_or_escape_at_end (s : Scan) (seen : Text) (c : Char) (rest : Text) :
    (stride s seen c rest).1 ≤ rest.length + 1 ∨
      rest = [] ∧ (stride s seen c rest).1 = 2 ∧
        Literal.EscapesIn c (stride s seen c rest).2.literals := by
  have hliteral := Literal.width_le_or_escape_at_end s.literals seen.head? c rest
  rw [literals_stride]
  rcases hstep : Literal.step s.literals seen.head? c rest with ⟨answer, literals⟩
  rw [hstep] at hliteral
  cases answer with
  | consumed width =>
    rw [width_of_consumed hstep]
    exact hliteral
  | code =>
    obtain ⟨-, rfl⟩ := Literal.step_eq_code hstep
    left
    rw [width_of_code hstep]
    split_ifs
    · exact length_equalsToken_le rest
    · exact Nat.le_add_left 1 rest.length

/-- A step that leaves no literal open asks for no more characters than there are. -/
theorem width_stride_le (hout : (stride s seen c rest).2.literals = []) :
    (stride s seen c rest).1 ≤ rest.length + 1 := by
  rcases width_stride_le_or_escape_at_end s seen c rest with hle | ⟨-, -, -, d, outer, hopen⟩
  · exact hle
  · rw [hout] at hopen
    cases hopen

/-- A path that ends outside all literals is the same before any inert text. -/
theorem path_before_inert {rest' : Text} (h : Text.Path id stride anyStep s seen way rest t)
    (hout : t.literals = []) (hinert : Literal.Inert rest') :
    Text.Path id stride anyStep s seen way rest' t := by
  cases rest with
  | nil =>
    refine h.before_rest_of_end (fun t => t.literals = []) hout ?_ ?_
    · exact fun s seen c more hlast => width_stride_le hlast
    · intro s seen c within _ hreach
      have hnil : (stride s seen c (within ++ [])).1 ≤ within.length + 1 := by
        rw [List.append_nil]
        exact hreach
      have hsame := stride_before_inert hinert hnil
      rwa [List.append_nil] at hsame
  | cons d rest =>
    exact h.before_rest (List.cons_ne_nil d rest) fun _ _ _ _ hreach =>
      stride_before_inert hinert hreach

/-- A scan that has come to code is where it would be if the text ended there. -/
theorem ofText_eq_of_path (arrives : Text.Path id stride anyStep .start [] way rest s)
    (outside : s.literals = []) : ofText way = s := by
  have hend : Literal.Inert [] := fun d hd => by cases hd
  have hwalk := (path_before_inert arrives outside hend).walk_eq
  rwa [List.append_nil] at hwalk

/-! ## A silent stretch -/

/-- The condition on a step that it passes over a part of a literal or a blank. -/
def Silent : Text.Condition Scan := fun s seen c rest =>
  (Literal.step s.literals seen.head? c rest).1 ≠ .code ∨ isBlank c = true

instance : Decidable (Silent s seen c rest) :=
  inferInstanceAs (Decidable (_ ≠ _ ∨ _ = _))

/-- A code character of a silent step is a blank. -/
theorem Silent.isBlank (h : Silent s seen c rest)
    (code : Literal.step s.literals seen.head? c rest = (.code, [])) : isBlank c = true := by
  rcases h with h | h
  · rw [code] at h
    contradiction
  · exact h

/-- A blank between code only leaves a gap. -/
theorem stride_blank (code : Literal.step s.literals seen.head? c rest = (.code, []))
    (hc : isBlank c = true) :
    stride s seen c rest = (1, { s with leading := s.leading.blank }) := by
  have hne {d : Char} (hd : isBlank d = false) : c ≠ d := by
    rintro rfl
    rw [hc] at hd
    cases hd
  have hopener : Group.ofOpener? c = none := by
    unfold Group.ofOpener?
    rw [if_neg (hne (by decide)), if_neg (hne (by decide)), if_neg (hne (by decide))]
  have hcloser : Group.ofCloser? c = none := by
    unfold Group.ofCloser?
    rw [if_neg (hne (by decide)), if_neg (hne (by decide)), if_neg (hne (by decide))]
  have hsettle : s.settle c = s := settle_of_holds s (by simp [argumentsHold, hc])
  rw [stride_of_code code, hsettle]
  unfold Scan.code
  rw [if_neg (hne (by decide)), if_neg (hne (by decide)), hopener, hcloser]
  simp only
  rw [if_neg fun h => hne (by decide) h.1, if_neg fun h => hne (by decide) h.1]
  unfold plain
  rw [if_pos hc]

/-- A silent step only goes on with the literals and leaves a gap. -/
theorem stride_silent (h : Silent s seen c rest) :
    (stride s seen c rest).2 =
      { s with
        literals := (stride s seen c rest).2.literals
        leading := s.leading.blank } := by
  rcases hstep : Literal.step s.literals seen.head? c rest with ⟨answer, literals⟩
  cases answer with
  | consumed width =>
    rw [stride_of_consumed hstep]
  | code =>
    obtain ⟨-, rfl⟩ := Literal.step_eq_code hstep
    rw [stride_blank hstep (h.isBlank hstep)]

/-- A silent stretch only goes on with the literals and leaves a gap. -/
theorem path_silent (h : Text.Path id stride Silent s seen way rest t) (hway : way ≠ []) :
    t = { s with literals := t.literals, leading := s.leading.blank } := by
  induction h with
  | stay => contradiction
  | @step s t seen more way rest c silent _ onward ih =>
    have hfirst := stride_silent silent
    generalize (stride s seen c (more ++ (way ++ rest))).2 = next at hfirst onward ih
    by_cases hnil : way = []
    · subst hnil
      cases onward
      exact hfirst
    -- The gap was there after the first step already.
    · rw [ih hnil, hfirst]
      simp only [LeadingText.blank_blank]

/-- A silent stretch up to code ends in no identifier. -/
theorem head?_of_silent (h : Text.Path id stride Silent s seen way rest t) (hway : way ≠ [])
    (ht : t.literals = []) : (way.reverse ++ seen).head?.any isIdentifierChar = false := by
  induction h with
  | stay => contradiction
  | @step s t seen more way rest c silent covers onward ih =>
    by_cases hnil : way = []
    · -- The last step is either the end of a literal or a blank.
      subst hnil
      cases onward
      rw [List.nil_append] at silent covers ht
      rw [List.append_nil, List.reverse_cons, List.append_assoc, List.singleton_append]
      rw [literals_stride] at ht
      rcases hstep : Literal.step s.literals seen.head? c (more ++ rest) with ⟨answer, literals⟩
      cases answer with
      | consumed width =>
        rw [hstep] at ht
        obtain rfl : literals = [] := ht
        rw [id, width_of_consumed hstep] at covers
        exact Literal.consumed_ends_outside seen hstep covers
      | code =>
        obtain ⟨-, rfl⟩ := Literal.step_eq_code hstep
        have hblank := silent.isBlank hstep
        rw [id, stride_blank hstep hblank] at covers
        obtain rfl : [] = more := covers
        exact not_isIdentifierChar_of_isBlank hblank
    · have hlast := ih hnil ht
      rw [List.reverse_cons, List.reverse_append, List.append_assoc, List.append_assoc]
      exact hlast

/-! ## Looking back -/

/-- Characters that end in the same identifier have one before them, or none. -/
theorem any_head?_of_takeWhile {seen' : Text}
    (h : seen.takeWhile isIdentifierChar = seen'.takeWhile isIdentifierChar) :
    seen.head?.any isIdentifierChar = seen'.head?.any isIdentifierChar := by
  have hhead (seen : Text) :
      seen.head?.any isIdentifierChar = (seen.takeWhile isIdentifierChar).head?.isSome := by
    cases seen with
    | nil => rfl
    | cons d seen =>
      rw [List.takeWhile_cons]
      cases hd : isIdentifierChar d <;> simp [hd]
  rw [hhead, hhead, h]

/-- Of the characters before it a step only sees the identifier that they end in. -/
theorem stride_of_seen {seen' : Text}
    (h : seen.takeWhile isIdentifierChar = seen'.takeWhile isIdentifierChar) :
    stride s seen c rest = stride s seen' c rest := by
  have hstep := Literal.step_of_before s.literals c rest (any_head?_of_takeWhile h)
  have hopens : opensArguments seen = opensArguments seen' := by
    unfold opensArguments endingWord
    rw [h]
  unfold stride code
  rw [hstep, hopens]

/-- A walk goes the same way after all characters that end in the same identifier. -/
theorem walk_of_seen (s : Scan) (k : Nat) {seen seen' : Text} (t : Text)
    (h : seen.takeWhile isIdentifierChar = seen'.takeWhile isIdentifierChar) :
    Text.walk id stride s k seen t = Text.walk id stride s k seen' t := by
  refine Text.walk_after_alike
    (fun seen seen' => seen.takeWhile isIdentifierChar = seen'.takeWhile isIdentifierChar)
    ?_ ?_ s k t h
  · intro c seen seen' h
    rw [List.takeWhile_cons, List.takeWhile_cons, h]
  · exact fun s seen seen' c rest h => stride_of_seen h

/-- Characters that end in no identifier count as much as none. -/
theorem takeWhile_of_head? (h : seen.head?.any isIdentifierChar = false) :
    seen.takeWhile isIdentifierChar = [] := by
  cases seen with
  | nil => rfl
  | cons d seen =>
    have hd : isIdentifierChar d = false := h
    rw [List.takeWhile_cons, hd]
    rfl

/-- A scan that has come to code goes on over a space in place of what is there. -/
theorem ofText_space {a rest b : Text}
    (arrives : Text.Path id stride anyStep .start [] a rest s) (outside : s.literals = []) :
    ofText (a ++ ' ' :: b) =
      Text.walk id stride { s with leading := s.leading.blank } 0 (' ' :: a.reverse) b := by
  -- What comes before is read the same before a space.
  have hinert : Literal.Inert (' ' :: b) := Literal.inert_cons (by decide) b
  have hbefore := path_before_inert arrives outside hinert
  have hspace : stride s a.reverse ' ' b = (1, { s with leading := s.leading.blank }) :=
    stride_blank (by rw [outside]; exact Literal.step_of_not_mem (by decide)) (by decide)
  rw [ofText, hbefore.walk_eq, List.append_nil, Text.walk, hspace]
  rfl

end Scan

/-! ## Replacing a silent stretch -/

/-- A stretch between two others is silent: a scan comes to code right before it and right after it,
and passes over literals and blanks on the way. -/
def IsSilent (a x b : Text) : Prop :=
  x ≠ [] ∧ ∃ s t : Scan, Text.Path id Scan.stride anyStep .start [] a (x ++ b) s ∧ s.literals = [] ∧
    Text.Path id Scan.stride Scan.Silent s a.reverse x b t ∧ t.literals = []

/-- Runs a scan to find out whether a stretch between two others is silent. -/
def findsSilent (a x b : Text) : Bool :=
  x ≠ [] &&
    (Text.arrival? id Scan.stride (fun _ _ _ _ => true) .start 0 [] a (x ++ b)).any fun s =>
      s.literals = [] &&
        (Text.arrival? id Scan.stride (fun s seen c rest => Scan.Silent s seen c rest) s 0
          a.reverse x b).any fun t => t.literals = []

/-- What is found to be silent is silent. -/
theorem IsSilent.of_finds {a x b : Text} (h : findsSilent a x b = true) : IsSilent a x b := by
  simp only [findsSilent, Bool.and_eq_true, decide_eq_true_eq, Option.any_eq_true] at h
  obtain ⟨hx, s, hfirst, hs, t, hsecond, ht⟩ := h
  have hbefore := (Text.path_of_arrival hfirst).1.mono fun _ _ _ _ _ => (trivial : True)
  have hsilent := (Text.path_of_arrival hsecond).1.mono fun _ _ _ _ hvia => of_decide_eq_true hvia
  exact ⟨hx, s, t, hbefore, hs, hsilent, ht⟩

/-- The way of the literals through a stretch without code is a silent one of a scan. -/
theorem path_silent_of_literals {stack next : Literal.Stack} {seen way rest : Text}
    (h : Text.Path Literal.Step.width Literal.stride
      (fun stack seen c rest => (Literal.stride stack seen c rest).1 ≠ .code) stack seen way rest
      next)
    (s : Scan) (hs : s.literals = stack) :
    ∃ t : Scan, Text.Path id Scan.stride Scan.Silent s seen way rest t ∧ t.literals = next := by
  induction h generalizing s with
  | stay => exact ⟨s, .stay, hs⟩
  | @step stack next seen more way rest c hnot covers _ ih =>
    subst hs
    rw [Literal.stride] at hnot covers
    rcases hstep : Literal.step s.literals seen.head? c (more ++ (way ++ rest)) with
      ⟨answer, literals⟩
    cases answer with
    | code =>
      rw [hstep] at hnot
      contradiction
    | consumed width =>
      rw [hstep] at covers
      obtain ⟨t, honward, ht⟩ := ih (Scan.stride s seen c (more ++ (way ++ rest))).2
        (Scan.literals_stride s seen c _)
      refine ⟨t, .step (.inl hnot) ?_ honward, ht⟩
      rw [id, Scan.width_of_consumed hstep]
      exact covers

/-- A literal between code is silent. -/
theorem IsSilent.of_literal {a literal b : Text} {s : Scan}
    (arrives : Text.Path id Scan.stride anyStep .start [] a (literal ++ b) s) (hs : s.literals = [])
    (stands : Literal.Stands .literal a.getLast? literal b) : IsSilent a literal b := by
  have hread := stands.read a.reverse List.head?_reverse [] (.inl rfl)
  obtain ⟨t, hsilent, ht⟩ := path_silent_of_literals hread.path_consumed s hs
  obtain ⟨c, more, body, -, rfl, -⟩ := hread
  exact ⟨List.cons_ne_nil _ _, s, t, arrives, hs, hsilent, ht⟩

/-- After a silent stretch a scan goes on as after one space. -/
theorem IsSilent.ofText_eq {a x b : Text} (h : IsSilent a x b) :
    Scan.ofText (a ++ (x ++ b)) = Scan.ofText (a ++ ' ' :: b) := by
  obtain ⟨hx, s, t, hbefore, hs, hsilent, ht⟩ := h
  -- The stretch and the space lead to the same state.
  have hstate : t = { s with leading := s.leading.blank } := by
    rw [Scan.path_silent hsilent hx, ht, hs]
  have hseen : (x.reverse ++ a.reverse).takeWhile isIdentifierChar =
      (' ' :: a.reverse).takeWhile isIdentifierChar := by
    rw [Scan.takeWhile_of_head? (Scan.head?_of_silent hsilent hx ht)]
    rfl
  calc Scan.ofText (a ++ (x ++ b))
      = Text.walk id Scan.stride s 0 a.reverse (x ++ b) := by
        rw [Scan.ofText, hbefore.walk_eq, List.append_nil]
    _ = Text.walk id Scan.stride t 0 (x.reverse ++ a.reverse) b := hsilent.walk_eq
    _ = Text.walk id Scan.stride t 0 (' ' :: a.reverse) b := Scan.walk_of_seen t 0 b hseen
    _ = Scan.ofText (a ++ ' ' :: b) := by rw [hstate, Scan.ofText_space hbefore hs]

/-- A silent stretch counts as one space in the shape of a text, and so as much as any other silent
stretch in its place: what a literal contains is of no influence. -/
theorem shape_of_silent {a x b : Text} (h : IsSilent a x b) (strip : Bool) :
    Shape.ofText strip (a ++ (x ++ b)) = Shape.ofText strip (a ++ ' ' :: b) ∧
      ∀ y, IsSilent a y b →
        Shape.ofText strip (a ++ (x ++ b)) = Shape.ofText strip (a ++ (y ++ b)) := by
  unfold Shape.ofText
  refine ⟨by rw [h.ofText_eq], fun y hy => by rw [h.ofText_eq, hy.ofText_eq]⟩

/-- A blank, a string with an interpolation and a block comment. -/
def stringAndComment : Text := " \x22;$\x7b\x27(\x27\x7d\x22/*[*/".toList

/-- A stretch of a blank, a string and a block comment counts as much as one space, and as much as a
line comment in its place. -/
theorem shape_of_silent_stringAndComment :
    IsSilent "s =".toList stringAndComment "+ t;".toList ∧
      IsSilent "s =".toList "// ;\n".toList "+ t;".toList ∧
      Shape.ofText true ("s =".toList ++ (stringAndComment ++ "+ t;".toList)) =
        Shape.ofText true ("s =".toList ++ ' ' :: "+ t;".toList) ∧
      Shape.ofText true ("s =".toList ++ (stringAndComment ++ "+ t;".toList)) =
        Shape.ofText true ("s =".toList ++ ("// ;\n".toList ++ "+ t;".toList)) := by
  have hfirst : IsSilent "s =".toList stringAndComment "+ t;".toList := .of_finds (by decide)
  have hsecond : IsSilent "s =".toList "// ;\n".toList "+ t;".toList := .of_finds (by decide)
  have hshape := shape_of_silent hfirst true
  exact ⟨hfirst, hsecond, hshape.1, hshape.2 _ hsecond⟩

end MemberOutline.Shape
