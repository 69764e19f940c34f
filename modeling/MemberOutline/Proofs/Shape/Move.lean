import MemberOutline.Shape.Scan
import MemberOutline.Proofs.Literal.Reach
import Mathlib.Data.List.DropRight

/-!
# What one step of a scan can do

`Move` lists the kinds of step that a scan takes, each with the condition under which it is taken,
and `stride_move` says that every step is one of them; a fact about all steps is then a case for
each kind. Before a code character the angles that cannot hold it are given up. What that does to
the groups depends on whether a group other than an angle is open (`giveUpAngles_of_all_angles`,
`giveUpAngles_of_other`), and afterwards an angle on top can hold the character
(`head?_settle_ne_angle`).
-/

namespace MemberOutline.Shape

/-! ## Groups -/

/-- The three openers with their groups. -/
theorem Group.ofOpener?_eq_some_iff {c : Char} {g : Group} :
    Group.ofOpener? c = some g ↔
      c = '(' ∧ g = .round ∨ c = '[' ∧ g = .square ∨ c = '{' ∧ g = .curly := by
  unfold Group.ofOpener?
  split_ifs <;> simp_all [eq_comm]

/-- The three closers with their groups. -/
theorem Group.ofCloser?_eq_some_iff {c : Char} {g : Group} :
    Group.ofCloser? c = some g ↔
      c = ')' ∧ g = .round ∨ c = ']' ∧ g = .square ∨ c = '}' ∧ g = .curly := by
  unfold Group.ofCloser?
  split_ifs <;> simp_all [eq_comm]

/-- No opener opens an angle for certain. -/
theorem Group.ne_angle_of_opener {c : Char} {g : Group} (h : Group.ofOpener? c = some g) :
    g ≠ .angle := by
  rcases Group.ofOpener?_eq_some_iff.1 h with ⟨-, rfl⟩ | ⟨-, rfl⟩ | ⟨-, rfl⟩ <;> decide

/-- No closer closes an angle for certain. -/
theorem Group.ne_angle_of_closer {c : Char} {g : Group} (h : Group.ofCloser? c = some g) :
    g ≠ .angle := by
  rcases Group.ofCloser?_eq_some_iff.1 h with ⟨-, rfl⟩ | ⟨-, rfl⟩ | ⟨-, rfl⟩ <;> decide

/-- The angles above another group are all that comes off a stack of groups. -/
theorem dropWhile_angle_append {g : Group} (hg : g ≠ .angle) (above below : List Group) :
    (above ++ g :: below).dropWhile (· = .angle) =
      above.dropWhile (· = .angle) ++ g :: below := by
  -- At the latest the group that is no angle ends what comes off.
  have hbelow : (g :: below).dropWhile (· = .angle) = g :: below := by simp [hg]
  rw [List.dropWhile_append]
  split_ifs with hempty
  · rw [hbelow, List.isEmpty_iff.1 hempty, List.nil_append]
  · rfl

/-- A stack of angles comes off as a whole. -/
theorem dropWhile_angle_replicate (n : Nat) :
    (List.replicate n Group.angle).dropWhile (· = .angle) = [] := by
  rw [List.dropWhile_replicate]
  rfl

/-- No angle is left on top of a stack that the angles came off. -/
theorem head?_dropWhile_ne_angle (groups : List Group) :
    (groups.dropWhile (· = .angle)).head? ≠ some .angle := by
  intro h
  obtain ⟨tail, htail⟩ := List.head?_eq_some_iff.1 h
  have hnot := List.head_dropWhile_not (fun g => decide (g = Group.angle)) (l := groups)
    (by rw [htail]; exact List.cons_ne_nil _ _)
  simp [htail] at hnot

namespace Scan

/-- Only angles are open in a stack that consists of one or more of them. -/
theorem onlyAngles_replicate (n : Nat) :
    onlyAngles (List.replicate (n + 1) .angle) = true := by
  simp [onlyAngles]

/-- A group that is no angle is open among others. -/
theorem onlyAngles_of_other {g : Group} (hg : g ≠ .angle) (above below : List Group) :
    onlyAngles (above ++ g :: below) = false := by
  simp [onlyAngles, hg]

/-! ## Giving up angles -/

/-- Angles given up below which nothing is open: what they withheld is reported. -/
theorem giveUpAngles_of_all_angles {s : Scan} (h : s.groups.dropWhile (· = .angle) = []) :
    s.giveUpAngles =
      { s with
        groups := []
        tokens := s.tokens ++ s.withheld
        withheld := []
        leading := s.leading.giveUp } := by
  unfold giveUpAngles
  rw [h]

/-- Angles given up above another group: nothing else changes. -/
theorem giveUpAngles_of_other {s : Scan} (h : s.groups.dropWhile (· = .angle) ≠ []) :
    s.giveUpAngles = { s with groups := s.groups.dropWhile (· = .angle) } := by
  unfold giveUpAngles
  split
  · contradiction
  · rfl

/-- The groups that remain when the angles on top are given up. -/
@[simp]
theorem groups_giveUpAngles (s : Scan) :
    s.giveUpAngles.groups = s.groups.dropWhile (· = .angle) := by
  by_cases h : s.groups.dropWhile (· = .angle) = []
  · rw [giveUpAngles_of_all_angles h, h]
  · rw [giveUpAngles_of_other h]

/-- Angles are given up only once. -/
theorem giveUpAngles_giveUpAngles (s : Scan) : s.giveUpAngles.giveUpAngles = s.giveUpAngles := by
  by_cases h : s.groups.dropWhile (· = .angle) = []
  · rw [giveUpAngles_of_all_angles h, giveUpAngles_of_all_angles rfl]
    cases s.leading <;> simp [LeadingText.giveUp]
  · have hidem : (s.groups.dropWhile (· = .angle)).dropWhile (· = .angle) =
        s.groups.dropWhile (· = .angle) := List.dropWhile_idempotent _ _
    rw [giveUpAngles_of_other h, giveUpAngles_of_other (by rw [hidem]; exact h)]
    simp only [hidem]

/-- Angles that are given up may be settled before. -/
theorem giveUpAngles_settle (s : Scan) (c : Char) :
    (s.settle c).giveUpAngles = s.giveUpAngles := by
  unfold settle
  split_ifs
  · exact giveUpAngles_giveUpAngles s
  · rfl

/-- Before a character that no angle holds, no angle is left on top. -/
theorem head?_settle_ne_angle (s : Scan) {c : Char} (hc : argumentsHold c = false) :
    (s.settle c).groups.head? ≠ some .angle := by
  unfold settle
  split_ifs with h
  · rw [groups_giveUpAngles]
    exact head?_dropWhile_ne_angle _
  · simpa [hc] using h

/-- Where angles can hold a character, none are given up. -/
theorem settle_of_holds (s : Scan) {c : Char} (hc : argumentsHold c = true) : s.settle c = s := by
  unfold settle
  rw [if_neg fun h => h.2 hc]

/-! ## Opening and closing -/

/-- The groups when a token is reported. -/
theorem groups_report (s : Scan) (token : Text) : (s.report token).groups = s.groups := by
  unfold report
  split_ifs <;> rfl

/-- A group that opens while nothing is open: its opener is a token. -/
theorem openGroup_of_nil {s : Scan} (h : s.groups = []) (c : Char) (g : Group) :
    s.openGroup c g =
      { s with groups := [g], tokens := s.tokens ++ [c], leading := s.leading.finish } := by
  unfold openGroup report
  rw [if_pos h, if_pos h]

/-- A group that opens inside others. -/
theorem openGroup_of_ne_nil {s : Scan} (h : s.groups ≠ []) (c : Char) (g : Group) :
    s.openGroup c g =
      { s with
        groups := g :: s.groups
        withheld := if onlyAngles s.groups then s.withheld ++ [c] else s.withheld
        leading := s.leading.add c } := by
  unfold openGroup
  rw [if_neg h]

/-- The groups when one opens. -/
theorem groups_openGroup (s : Scan) (c : Char) (g : Group) :
    (s.openGroup c g).groups = g :: s.groups := by
  by_cases h : s.groups = []
  · rw [openGroup_of_nil h, h]
  · rw [openGroup_of_ne_nil h]

/-- The tokens when a group opens. -/
theorem tokens_openGroup (s : Scan) (c : Char) (g : Group) :
    (s.openGroup c g).tokens = if s.groups = [] then s.tokens ++ [c] else s.tokens := by
  split_ifs with h
  · rw [openGroup_of_nil h]
  · rw [openGroup_of_ne_nil h]

/-- What is withheld when a group opens. -/
theorem withheld_openGroup (s : Scan) (c : Char) (g : Group) :
    (s.openGroup c g).withheld =
      if onlyAngles s.groups then s.withheld ++ [c] else s.withheld := by
  by_cases h : s.groups = []
  · rw [openGroup_of_nil h, h]
    rfl
  · rw [openGroup_of_ne_nil h]

/-- The only group open closes: its closer is a token. -/
theorem closeInnermost_of_nil {s : Scan} (h : s.groups.tail = []) (c : Char) :
    s.closeInnermost c = { s with groups := [], tokens := s.tokens ++ [c] } := by
  unfold closeInnermost
  rw [h]

/-- A group inside others closes. -/
theorem closeInnermost_of_ne_nil {s : Scan} (h : s.groups.tail ≠ []) (c : Char) :
    s.closeInnermost c =
      { s with
        groups := s.groups.tail
        withheld := if onlyAngles s.groups.tail then s.withheld ++ [c] else s.withheld } := by
  unfold closeInnermost
  split
  · contradiction
  · rfl

/-- The groups when the innermost one closes. -/
theorem groups_closeInnermost (s : Scan) (c : Char) :
    (s.closeInnermost c).groups = s.groups.tail := by
  by_cases h : s.groups.tail = []
  · rw [closeInnermost_of_nil h, h]
  · rw [closeInnermost_of_ne_nil h]

/-- The tokens when the innermost group closes. -/
theorem tokens_closeInnermost (s : Scan) (c : Char) :
    (s.closeInnermost c).tokens = if s.groups.tail = [] then s.tokens ++ [c] else s.tokens := by
  split_ifs with h
  · rw [closeInnermost_of_nil h]
  · rw [closeInnermost_of_ne_nil h]

/-- What is withheld when the innermost group closes. -/
theorem withheld_closeInnermost (s : Scan) (c : Char) :
    (s.closeInnermost c).withheld =
      if onlyAngles s.groups.tail then s.withheld ++ [c] else s.withheld := by
  by_cases h : s.groups.tail = []
  · rw [closeInnermost_of_nil h, h]
    rfl
  · rw [closeInnermost_of_ne_nil h]

/-- The leading text when the innermost group closes. -/
theorem leading_closeInnermost (s : Scan) (c : Char) :
    (s.closeInnermost c).leading = s.leading := by
  unfold closeInnermost
  split <;> rfl

/-- The only angle open closes: what it withheld is forgotten. -/
theorem closeAngle_of_nil {s : Scan} (h : s.groups.tail = []) :
    s.closeAngle = { s with groups := [], withheld := [], leading := s.leading.leave } := by
  unfold closeAngle
  rw [h]

/-- An angle inside other groups closes: nothing but the groups and the leading text changes. -/
theorem closeAngle_of_ne_nil {s : Scan} (h : s.groups.tail ≠ []) :
    s.closeAngle = { s with groups := s.groups.tail, leading := s.leading.add '>' } := by
  unfold closeAngle
  split
  · contradiction
  · rfl

/-- An angle that closes is no longer open. -/
theorem groups_closeAngle (s : Scan) : s.closeAngle.groups = s.groups.tail := by
  by_cases h : s.groups.tail = []
  · rw [closeAngle_of_nil h, h]
  · rw [closeAngle_of_ne_nil h]

/-! ## Moves -/

/-- What a scan does at a character: with a literal, or outside all literals with a code character,
once the angles are settled. -/
inductive Move (s : Scan) (seen : Text) (c : Char) (rest : Text) : Nat × Scan → Prop
  /-- It passes over a part of a literal. -/
  | literal {width : Nat} {literals : Literal.Stack}
      (consumed : Literal.step s.literals seen.head? c rest = (.consumed width, literals)) :
      Move s seen c rest (width, { s with literals := literals, leading := s.leading.blank })
  /-- It comes to an equals sign. -/
  | equals (code : Literal.step s.literals seen.head? c rest = (.code, [])) (hc : c = '=') :
      Move s seen c rest
        ((equalsToken rest).length, (s.settle c).report (equalsToken rest))
  /-- It comes to a semicolon. -/
  | semicolon (code : Literal.step s.literals seen.head? c rest = (.code, []))
      (hc : c = ';') :
      Move s seen c rest (1, (s.settle c).report [';'])
  /-- It opens a group. -/
  | opener {g : Group} (code : Literal.step s.literals seen.head? c rest = (.code, []))
      (hc : Group.ofOpener? c = some g) :
      Move s seen c rest (1, (s.settle c).openGroup c g)
  /-- It comes to a closer. -/
  | closer {g : Group} (code : Literal.step s.literals seen.head? c rest = (.code, []))
      (hc : Group.ofCloser? c = some g) :
      Move s seen c rest (1, (s.settle c).closeGroup c g)
  /-- It opens type arguments. -/
  | openAngle (code : Literal.step s.literals seen.head? c rest = (.code, []))
      (hc : c = '<') (opens : opensArguments seen = true) :
      Move s seen c rest (1, (s.settle c).openAngle)
  /-- It closes type arguments. -/
  | closeAngle (code : Literal.step s.literals seen.head? c rest = (.code, []))
      (hc : c = '>') (top : (s.settle c).groups.head? = some .angle) :
      Move s seen c rest (1, (s.settle c).closeAngle)
  /-- It takes up any other character. -/
  | plain (code : Literal.step s.literals seen.head? c rest = (.code, []))
      (notEquals : c ≠ '=') (notSemicolon : c ≠ ';')
      (notOpener : Group.ofOpener? c = none) (notCloser : Group.ofCloser? c = none)
      (opensNot : ¬ (c = '<' ∧ opensArguments seen = true))
      (closesNot : ¬ (c = '>' ∧ (s.settle c).groups.head? = some .angle)) :
      Move s seen c rest (1, (s.settle c).plain c)

/-- Every step of a scan is a move. -/
theorem stride_move (s : Scan) (seen : Text) (c : Char) (rest : Text) :
    Move s seen c rest (stride s seen c rest) := by
  unfold stride
  split
  next width literals h => exact .literal h
  next literals h =>
    obtain ⟨houtside, rfl⟩ := Literal.step_eq_code h
    have hs : { s with literals := [] } = s := by rw [← houtside]
    rw [hs]
    -- The cases come in the order in which the step asks for them.
    unfold code
    by_cases hequals : c = '='
    · rw [if_pos hequals]
      exact .equals h hequals
    rw [if_neg hequals]
    by_cases hsemicolon : c = ';'
    · rw [if_pos hsemicolon]
      exact .semicolon h hsemicolon
    rw [if_neg hsemicolon]
    cases hopener : Group.ofOpener? c with
    | some g => exact .opener h hopener
    | none =>
      cases hcloser : Group.ofCloser? c with
      | some g => exact .closer h hcloser
      | none =>
        simp only
        split_ifs with hopens hcloses
        · exact .openAngle h hopens.1 hopens.2
        · exact .closeAngle h hcloses.1 hcloses.2
        · exact .plain h hequals hsemicolon hopener hcloser hopens hcloses

/-- A step over a part of a literal only goes on with the literals and leaves a gap. -/
theorem stride_of_consumed {s : Scan} {seen rest : Text} {c : Char} {width : Nat}
    {literals : Literal.Stack}
    (h : Literal.step s.literals seen.head? c rest = (.consumed width, literals)) :
    stride s seen c rest =
      (width, { s with literals := literals, leading := s.leading.blank }) := by
  unfold stride
  rw [h]

/-- A step at a code character. -/
theorem stride_of_code {s : Scan} {seen rest : Text} {c : Char}
    (h : Literal.step s.literals seen.head? c rest = (.code, [])) :
    stride s seen c rest = (s.settle c).code seen c rest := by
  have hs : { s with literals := [] } = s := by rw [← (Literal.step_eq_code h).1]
  unfold stride
  rw [h]
  simp only [hs]

/-- An opener opens its group. -/
theorem code_of_opener (s : Scan) (seen rest : Text) {c : Char} {g : Group}
    (hc : Group.ofOpener? c = some g) : s.code seen c rest = (1, s.openGroup c g) := by
  unfold code
  rw [if_neg (by rintro rfl; cases hc), if_neg (by rintro rfl; cases hc), hc]

/-- A closer closes its group. -/
theorem code_of_closer (s : Scan) (seen rest : Text) {c : Char} {g : Group}
    (hc : Group.ofCloser? c = some g) : s.code seen c rest = (1, s.closeGroup c g) := by
  have hopener : Group.ofOpener? c = none := by
    rcases Group.ofCloser?_eq_some_iff.1 hc with ⟨rfl, -⟩ | ⟨rfl, -⟩ | ⟨rfl, -⟩ <;> rfl
  unfold code
  rw [if_neg (by rintro rfl; cases hc), if_neg (by rintro rfl; cases hc), hc, hopener]

/-! ## Literals and widths -/

/-- Giving up angles leaves the literals as they are. -/
@[simp]
theorem literals_giveUpAngles (s : Scan) : s.giveUpAngles.literals = s.literals := by
  unfold giveUpAngles
  split <;> rfl

/-- Settling the angles leaves the literals as they are. -/
@[simp]
theorem literals_settle (s : Scan) (c : Char) : (s.settle c).literals = s.literals := by
  unfold settle
  split_ifs
  · exact literals_giveUpAngles s
  · rfl

/-- A token leaves the literals as they are. -/
@[simp]
theorem literals_report (s : Scan) (token : Text) : (s.report token).literals = s.literals := by
  unfold report
  split_ifs <;> rfl

/-- An opener leaves the literals as they are. -/
@[simp]
theorem literals_openGroup (s : Scan) (c : Char) (g : Group) :
    (s.openGroup c g).literals = s.literals := by
  unfold openGroup
  split_ifs
  · exact literals_report s [c]
  all_goals rfl

/-- A closer leaves the literals as they are. -/
@[simp]
theorem literals_closeGroup (s : Scan) (c : Char) (g : Group) :
    (s.closeGroup c g).literals = s.literals := by
  have hinnermost (s : Scan) : (s.closeInnermost c).literals = s.literals := by
    unfold closeInnermost
    split <;> rfl
  unfold closeGroup
  simp only
  split_ifs
  · rw [hinnermost, literals_giveUpAngles]
  · exact literals_giveUpAngles s

/-- The end of type arguments leaves the literals as they are. -/
@[simp]
theorem literals_closeAngle (s : Scan) : s.closeAngle.literals = s.literals := by
  unfold closeAngle
  split <;> rfl

/-- The literals of a scan go their own way, whatever the scan makes of the code. -/
theorem literals_stride (s : Scan) (seen : Text) (c : Char) (rest : Text) :
    (stride s seen c rest).2.literals = (Literal.step s.literals seen.head? c rest).2 := by
  have hmove := stride_move s seen c rest
  generalize stride s seen c rest = taken at hmove
  cases hmove with
  | literal consumed => rw [consumed]
  | equals code | semicolon code | opener code | closer code | openAngle code | closeAngle code
  | plain code =>
    -- Code is found where nothing is open, and leaves it so.
    rw [code, ← (Literal.step_eq_code code).1]
    simp [openAngle, plain]

/-- A scan covers as many characters of a literal as the literal step does. -/
theorem width_of_consumed {s : Scan} {seen rest : Text} {c : Char} {width : Nat}
    {literals : Literal.Stack}
    (h : Literal.step s.literals seen.head? c rest = (.consumed width, literals)) :
    (stride s seen c rest).1 = width := by
  rw [stride_of_consumed h]

/-- Of the code characters only those of `==` and `=>` are covered together. -/
theorem width_of_code {s : Scan} {seen rest : Text} {c : Char}
    (h : Literal.step s.literals seen.head? c rest = (.code, [])) :
    (stride s seen c rest).1 = if c = '=' then (equalsToken rest).length else 1 := by
  have hmove := stride_move s seen c rest
  generalize stride s seen c rest = taken at hmove
  cases hmove with
  | literal consumed => simp [h] at consumed
  | equals _ hc => rw [if_pos hc]
  | semicolon _ hc | openAngle _ hc _ | closeAngle _ hc _ =>
    subst hc
    rfl
  | opener _ hc =>
    rw [if_neg]
    rintro rfl
    cases hc
  | closer _ hc =>
    rw [if_neg]
    rintro rfl
    cases hc
  | plain _ notEquals _ _ _ _ _ => rw [if_neg notEquals]

end Scan

end MemberOutline.Shape
