import MemberOutline.Proofs.Literal.CodeView
import MemberOutline.Proofs.Shape.Move

/-!
# A plain reference scanner

`Reference` scans the code of a text without guessing at type arguments: it passes over `<` and `>`,
keeps the round, square and curly groups that are open, passes over a closer that does not match the
innermost one, and reports the tokens at depth zero in order. It reads the code in lexemes
(`lexemes`), so that `==` and `=>` are one token each.

`OmitsRound` says that a list of tokens is another one with some of its round brackets left out.
-/

namespace MemberOutline.Shape

/-- The lexemes of the code of a text: an equals sign goes together with the `=` or `>` right after
it, and any other code character is a lexeme by itself. -/
def lexemes : List (Option Char) → List Text
  | [] => []
  | none :: view => lexemes view
  | some '=' :: some '=' :: view => ['=', '='] :: lexemes view
  | some '=' :: some '>' :: view => ['=', '>'] :: lexemes view
  | some c :: view => [c] :: lexemes view

/-- Where a reference scan stands. -/
structure Reference where
  /-- The round, square and curly groups that are open, innermost first. -/
  groups : List Group
  /-- The tokens reported. -/
  tokens : List Text
  deriving DecidableEq, Repr

namespace Reference

/-- The reference scan before the first lexeme. -/
def start : Reference := ⟨[], []⟩

/-- The reference scan after a token: it reports the token if it stands at depth zero. -/
def report (r : Reference) (token : Text) : Reference :=
  if r.groups = [] then { r with tokens := r.tokens ++ [token] } else r

/-- The reference scan after an opener: its group is open. -/
def openGroup (r : Reference) (c : Char) (g : Group) : Reference :=
  { r.report [c] with groups := g :: r.groups }

/-- The reference scan after a closer: the innermost group is closed if it is the one of the
closer. -/
def closeGroup (r : Reference) (c : Char) (g : Group) : Reference :=
  if r.groups.head? = some g then { r with groups := r.groups.tail }.report [c] else r

/-- The reference scan after a lexeme. -/
def read (r : Reference) (lexeme : Text) : Reference :=
  if lexeme ∈ [['='], ['=', '='], ['=', '>'], [';']] then r.report lexeme
  else
    -- Every lexeme of two characters is a token, so only single ones are left.
    match lexeme with
    | [c] =>
      match Group.ofOpener? c, Group.ofCloser? c with
      | some g, _ => r.openGroup c g
      | none, some g => r.closeGroup c g
      | none, none => r
    | _ => r

/-- The reference scan of the code of a text. -/
def ofView (view : List (Option Char)) : Reference := (lexemes view).foldl read start

/-- The reference scan of a text. -/
def ofText (t : Text) : Reference := ofView (Literal.codeView t)

end Reference

/-! ## Lexemes -/

/-- The places of a literal add no lexemes. -/
theorem lexemes_literal (n : Nat) (view : List (Option Char)) :
    lexemes (List.replicate n none ++ view) = lexemes view := by
  induction n with
  | zero => rfl
  | succ n ih => rw [List.replicate_succ, List.cons_append, lexemes, ih]

/-- A character that does not begin `==` or `=>` is a lexeme by itself. -/
theorem lexemes_cons {c : Char} {view : List (Option Char)}
    (h : c = '=' → view.head? ≠ some (some '=') ∧ view.head? ≠ some (some '>')) :
    lexemes (some c :: view) = [c] :: lexemes view := by
  rw [lexemes]
  · rintro view rfl rfl
    exact (h rfl).1 rfl
  · rintro view rfl rfl
    exact (h rfl).2 rfl

/-! ## Reading a lexeme -/

namespace Reference

variable (r : Reference) {c : Char} {g : Group}

/-- A character that is no token by itself is read as an opener or a closer. -/
theorem read_single (hequals : c ≠ '=') (hsemicolon : c ≠ ';') :
    r.read [c] =
      match Group.ofOpener? c, Group.ofCloser? c with
      | some g, _ => r.openGroup c g
      | none, some g => r.closeGroup c g
      | none, none => r := by
  unfold read
  rw [if_neg (by simp [hequals, hsemicolon])]

/-- An opener opens its group. -/
theorem read_opener (h : Group.ofOpener? c = some g) : r.read [c] = r.openGroup c g := by
  rw [read_single r (by rintro rfl; cases h) (by rintro rfl; cases h), h]

/-- A closer closes its group. -/
theorem read_closer (h : Group.ofCloser? c = some g) : r.read [c] = r.closeGroup c g := by
  have hopener : Group.ofOpener? c = none := by
    rcases Group.ofCloser?_eq_some_iff.1 h with ⟨rfl, -⟩ | ⟨rfl, -⟩ | ⟨rfl, -⟩ <;> rfl
  rw [read_single r (by rintro rfl; cases h) (by rintro rfl; cases h), h, hopener]

/-- A character that is neither a sign nor a bracket is passed over. -/
theorem read_other (hequals : c ≠ '=') (hsemicolon : c ≠ ';')
    (hopener : Group.ofOpener? c = none) (hcloser : Group.ofCloser? c = none) :
    r.read [c] = r := by
  rw [read_single r hequals hsemicolon, hopener, hcloser]

/-- The tokens after a report have one more at depth zero. -/
theorem tokens_report (token : Text) :
    (r.report token).tokens = if r.groups = [] then r.tokens ++ [token] else r.tokens := by
  unfold report
  split_ifs <;> rfl

/-- The tokens after an opener have it as one more at depth zero. -/
theorem tokens_openGroup (c : Char) (g : Group) :
    (r.openGroup c g).tokens = if r.groups = [] then r.tokens ++ [[c]] else r.tokens :=
  r.tokens_report [c]

variable {r} {below : List Group}

/-- A closer of the innermost group closes it and is reported. -/
theorem closeGroup_eq (h : r.groups = g :: below) (c : Char) :
    r.closeGroup c g = { r with groups := below }.report [c] := by
  unfold closeGroup
  rw [h]
  exact if_pos rfl

/-- The groups after a closer of the innermost group are those below that. -/
theorem groups_closeGroup (h : r.groups = g :: below) (c : Char) :
    (r.closeGroup c g).groups = below := by
  rw [closeGroup_eq h]
  unfold report
  split_ifs <;> rfl

/-- The tokens after a closer of the innermost group have it as one more if no group is left. -/
theorem tokens_closeGroup (h : r.groups = g :: below) (c : Char) :
    (r.closeGroup c g).tokens = if below = [] then r.tokens ++ [[c]] else r.tokens := by
  rw [closeGroup_eq h, tokens_report]

end Reference

/-! ## Leaving out round brackets -/

/-- Whether a token is a round bracket. -/
def isRound (token : Text) : Bool := token = ['('] ∨ token = [')']

/-- A list of tokens is another one with nothing but round brackets left out: it is a sublist, and
the other tokens of the two are the same. -/
def OmitsRound (kept all : List Text) : Prop :=
  kept.Sublist all ∧ kept.filter (!isRound ·) = all.filter (!isRound ·)

namespace OmitsRound

variable {kept all kept' all' : List Text}

/-- Every list of tokens is itself with nothing left out. -/
theorem refl (all : List Text) : OmitsRound all all := ⟨List.Sublist.refl _, rfl⟩

/-- What is left out of two lists one after the other is left out of each. -/
theorem append (h : OmitsRound kept all) (h' : OmitsRound kept' all') :
    OmitsRound (kept ++ kept') (all ++ all') := by
  refine ⟨h.1.append h'.1, ?_⟩
  rw [List.filter_append, List.filter_append, h.2, h'.2]

/-- Round brackets at the end can be left out. -/
theorem of_append_round (h : OmitsRound (kept ++ kept') all) (hround : ∀ u ∈ kept', isRound u) :
    OmitsRound kept all := by
  refine ⟨(List.sublist_append_left kept kept').trans h.1, ?_⟩
  have hnone : kept'.filter (!isRound ·) = [] := by
    rw [List.filter_eq_nil_iff]
    intro u hu
    simp [hround u hu]
  rw [← h.2, List.filter_append, hnone, List.append_nil]

end OmitsRound

end MemberOutline.Shape
