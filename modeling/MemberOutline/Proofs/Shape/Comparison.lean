import MemberOutline.Proofs.Shape.Refinement

/-!
# A `<` that no `>` closes

If no `>` closes type arguments at depth zero, each `<` there turns out to be a comparison, and the
sequence should be the one of the reference scan, which passes over angles. `sequence_of_unclosed`
says when it is: unless the text ends inside a group that stands in the type arguments of a `<`.
Then what the `<` withheld is missing from the sequence, although it was a comparison
(`sequence_of_truncatedCall`).

The proof looks at all that a scan has emitted: what it reported and then what it withholds. Giving
up angles changes nothing in it, since a scan that withholds tokens has nothing reported after them.
So every step adds the same to it as to the tokens of the reference scan, but for the one that
closes type arguments at depth zero and forgets (`Scan.Spells.stride`).
-/

namespace MemberOutline.Shape

open Text (anyStep)

namespace Scan

variable {s : Scan} {r : Reference} {c : Char} {g : Group}

/-! ## What a scan has emitted -/

/-- The tokens that a scan reported, and after them those that it withholds. -/
def emitted (s : Scan) : Text := s.tokens ++ s.withheld

/-- Giving up angles reports what they withheld, or nothing at all. -/
theorem emitted_giveUpAngles (s : Scan) : s.giveUpAngles.emitted = s.emitted := by
  unfold emitted
  by_cases hdrop : s.groups.dropWhile (· = .angle) = []
  · rw [giveUpAngles_of_all_angles hdrop]
    exact List.append_nil _
  · rw [giveUpAngles_of_other hdrop]

/-- Settling the angles changes nothing in what is emitted. -/
theorem emitted_settle (s : Scan) (c : Char) : (s.settle c).emitted = s.emitted := by
  unfold settle
  split_ifs
  · exact emitted_giveUpAngles s
  · rfl

/-- An opener or a closer is emitted, reported or withheld, if no group but angles is open below
it. -/
theorem emitted_bracket {tokens withheld : Text} {below : List Group}
    (hwithheld : below = [] → withheld = []) (c : Char) :
    (if below = [] then tokens ++ [c] else tokens) ++
        (if onlyAngles below then withheld ++ [c] else withheld) =
      tokens ++ withheld ++ if below.filter (· ≠ .angle) = [] then [c] else [] := by
  by_cases hbelow : below = []
  · rw [hwithheld hbelow]
    subst hbelow
    simp [onlyAngles]
  rw [if_neg hbelow]
  by_cases honly : onlyAngles below = true
  · rw [if_pos honly, if_pos ((onlyAngles_iff below).1 honly).2, List.append_assoc]
  · rw [if_neg honly, if_neg fun hnil => honly ((onlyAngles_iff below).2 ⟨hbelow, hnil⟩),
      List.append_nil]

/-! ## Forgetting nothing -/

/-- A scan goes along with a reference scan and has emitted all its tokens. -/
structure Spells (s : Scan) (r : Reference) : Prop where
  /-- The groups and the tokens of the two go together. -/
  simulates : s.Simulates False r
  /-- Nothing was forgotten. -/
  emitted_eq : s.emitted = r.tokens.flatten

/-- The tokens of the reference scan with one more, or without. -/
theorem flatten_tokens_if (r : Reference) (token : Text) (p : Prop) [Decidable p] :
    (if p then r.tokens ++ [token] else r.tokens).flatten =
      r.tokens.flatten ++ if p then token else [] := by
  split_ifs <;> simp

/-- What a scan notes besides tokens and groups is nothing to the reference scan. -/
theorem Spells.of_eq {t : Scan} (h : s.Spells r) (groups : t.groups = s.groups)
    (tokens : t.tokens = s.tokens) (withheld : t.withheld = s.withheld) : t.Spells r := by
  refine ⟨h.simulates.of_eq groups tokens withheld, ?_⟩
  rw [← h.emitted_eq, emitted, emitted, tokens, withheld]

/-- A scan that gives up angles has still emitted the tokens of the reference scan. -/
theorem Spells.giveUpAngles (h : s.Spells r) : s.giveUpAngles.Spells r :=
  ⟨h.simulates.giveUpAngles, (emitted_giveUpAngles s).trans h.emitted_eq⟩

/-- A scan that settles the angles has still emitted the tokens of the reference scan. -/
theorem Spells.settle (h : s.Spells r) (c : Char) : (s.settle c).Spells r :=
  ⟨h.simulates.settle c, (emitted_settle s c).trans h.emitted_eq⟩

/-- A scan and its reference scan both emit a token, or neither does. -/
theorem Spells.report (h : s.Spells r) (hhead : s.groups.head? ≠ some .angle) {token : Text}
    (htoken : token ∈ units) : (s.report token).Spells (r.report token) := by
  refine ⟨h.simulates.report hhead htoken, ?_⟩
  have heq := h.emitted_eq
  rw [Reference.tokens_report, flatten_tokens_if, ← heq,
    if_congr (h.simulates.groups_eq_nil_iff hhead) rfl rfl]
  unfold Scan.report emitted
  split_ifs with hgroups
  · -- Nothing is withheld at depth zero, so the token comes last.
    have hwithheld := h.simulates.paired.withheld_eq_nil (by simp [hgroups])
    simp only [hwithheld, List.append_nil]
  · rw [List.append_nil]

/-- A scan and its reference scan both emit an opener, or neither does. -/
theorem Spells.openGroup (h : s.Spells r) (hc : Group.ofOpener? c = some g)
    (hround : s.groups.head? = some .angle → g = .round) :
    (s.openGroup c g).Spells (r.openGroup c g) := by
  refine ⟨h.simulates.openGroup hc hround, ?_⟩
  have hwithheld (hnil : s.groups = []) : s.withheld = [] :=
    h.simulates.paired.withheld_eq_nil (by simp [hnil])
  rw [Reference.tokens_openGroup, flatten_tokens_if, ← h.emitted_eq, emitted, tokens_openGroup,
    withheld_openGroup, ← h.simulates.groups_eq]
  exact emitted_bracket hwithheld c

/-- A scan and its reference scan both emit the closer of the innermost group, or neither does. -/
theorem Spells.closeInnermost (h : s.Spells r) (hc : Group.ofCloser? c = some g)
    (hhead : s.groups.head? = some g) : (s.closeInnermost c).Spells (r.closeGroup c g) := by
  refine ⟨h.simulates.closeInnermost hc hhead, ?_⟩
  have hg := Group.ne_angle_of_closer hc
  obtain ⟨below, hgroups⟩ := List.head?_eq_some_iff.1 hhead
  have htail : s.groups.tail = below := by rw [hgroups]; rfl
  have hr : r.groups = g :: below.filter (· ≠ .angle) := by
    rw [← h.simulates.groups_eq, hgroups, filter_cons_of_ne_angle hg]
  have hwithheld (hnil : below = []) : s.withheld = [] := by
    apply h.simulates.paired.withheld_eq_nil
    rw [hgroups, hnil]
    simpa using hg
  rw [Reference.tokens_closeGroup hr, flatten_tokens_if, ← h.emitted_eq, emitted,
    tokens_closeInnermost, withheld_closeInnermost, htail]
  exact emitted_bracket hwithheld c

/-- A scan and its reference scan both close a group, or both pass over the closer. -/
theorem Spells.closeGroup (h : s.Spells r) (hc : Group.ofCloser? c = some g) :
    (s.closeGroup c g).Spells (r.closeGroup c g) := by
  have hgiven := h.giveUpAngles
  unfold Scan.closeGroup
  simp only
  by_cases hmatch : s.giveUpAngles.groups.head? = some g
  · rw [if_pos hmatch]
    exact (hgiven.closeInnermost hc hmatch).of_eq rfl rfl rfl
  · rw [if_neg hmatch]
    unfold Reference.closeGroup
    rw [h.simulates.head?_giveUpAngles, if_neg hmatch]
    exact hgiven.of_eq rfl rfl rfl

/-- Type arguments that open are nothing to the reference scan. -/
theorem Spells.openAngle (h : s.Spells r) : s.openAngle.Spells r :=
  ⟨h.simulates.openAngle id, h.emitted_eq⟩

/-- Type arguments that close inside other groups forget nothing. -/
theorem Spells.closeAngle (h : s.Spells r) (hhead : s.groups.head? = some .angle)
    (hinside : s.groups ≠ [.angle]) : s.closeAngle.Spells r := by
  refine ⟨h.simulates.closeAngle hhead, ?_⟩
  obtain ⟨below, hgroups⟩ := List.head?_eq_some_iff.1 hhead
  have hne : s.groups.tail ≠ [] := by
    rintro hnil
    apply hinside
    rw [hgroups] at hnil ⊢
    rw [show below = [] from hnil]
  rw [closeAngle_of_ne_nil hne]
  exact h.emitted_eq

/-! ## A step and a walk -/

/-- The condition on a step that it closes no type arguments at depth zero. -/
def ClosesNothing : Text.Condition Scan := fun s seen c rest =>
  Literal.step s.literals seen.head? c rest = (.code, []) → c = '>' → s.groups ≠ [.angle]

instance {seen rest : Text} : Decidable (ClosesNothing s seen c rest) :=
  inferInstanceAs (Decidable (_ = _ → _ = _ → _ ≠ _))

/-- A step that closes no type arguments at depth zero emits what the reference scan reports of the
lexemes that it takes up. -/
theorem Spells.stride {seen rest : Text} (h : s.Spells r)
    (hcloses : ClosesNothing s seen c rest) :
    (Scan.stride s seen c rest).2.Spells ((taken s seen c rest).foldl Reference.read r) := by
  have hmove := stride_move s seen c rest
  generalize Scan.stride s seen c rest = answer at hmove
  have hsettled := h.settle c
  cases hmove with
  | literal consumed =>
    rw [taken_of_consumed consumed]
    exact h.of_eq rfl rfl rfl
  | equals code hc =>
    subst hc
    rw [taken_of_equals code, List.foldl_cons, List.foldl_nil, read_equalsToken]
    exact hsettled.report (head?_settle_ne_angle s (by decide)) (equalsToken_mem_units rest)
  | semicolon code hc =>
    subst hc
    rw [taken_of_code code (by decide)]
    exact hsettled.report (head?_settle_ne_angle s (by decide)) (by decide)
  | opener code hc =>
    rw [taken_of_code code (by rintro rfl; cases hc), List.foldl_cons, List.foldl_nil,
      r.read_opener hc]
    exact hsettled.openGroup hc (round_of_opener hc)
  | closer code hc =>
    rw [taken_of_code code (by rintro rfl; cases hc), List.foldl_cons, List.foldl_nil,
      r.read_closer hc]
    exact hsettled.closeGroup hc
  | openAngle code hc _ =>
    subst hc
    rw [taken_of_code code (by decide)]
    exact hsettled.openAngle
  | closeAngle code hc top =>
    -- The one step that may forget.
    have hinside := hcloses code hc
    subst hc
    rw [taken_of_code code (by decide)]
    rw [settle_of_holds s (by decide)] at top ⊢
    exact h.closeAngle top hinside
  | plain code notEquals notSemicolon notOpener notCloser _ _ =>
    rw [taken_of_code code notEquals, List.foldl_cons, List.foldl_nil,
      r.read_other notEquals notSemicolon notOpener notCloser]
    exact hsettled.of_eq rfl rfl rfl

end Scan

/-- No `>` closes type arguments at depth zero in a text. -/
def ClosesNoArguments (t : Text) : Prop :=
  Text.Path id Scan.stride Scan.ClosesNothing .start [] t [] (Scan.ofText t)

/-- Runs a scan to find out whether a text closes type arguments at depth zero. -/
def findsNoClosing (t : Text) : Bool :=
  Text.arrival? id Scan.stride (fun s seen c rest => Scan.ClosesNothing s seen c rest) .start 0 []
    t [] = some (Scan.ofText t)

variable {t : Text}

/-- A text in which no closing is found has none. -/
theorem ClosesNoArguments.of_finds (h : findsNoClosing t = true) : ClosesNoArguments t :=
  (Text.path_of_arrival (of_decide_eq_true h)).1.mono fun _ _ _ _ => of_decide_eq_true

/-- If no type arguments are closed at depth zero, a scan emits the tokens of the reference scan. -/
theorem ClosesNoArguments.spells (h : ClosesNoArguments t) :
    (Scan.ofText t).Spells (.ofText t) := by
  refine Scan.lexemes_of_path (fun s read => s.Spells (read.foldl Reference.read .start)) ?_ h
    ⟨Scan.simulates_start, rfl⟩
  intro s seen c rest read meets h
  rw [List.foldl_append]
  exact h.stride meets

/-! ## The sequence -/

/-- A text ends in type arguments that are not closed, inside a group of another kind. -/
def EndsInArguments (t : Text) : Prop :=
  (Scan.ofText t).groups.getLast? = some .angle ∧ ∃ g ∈ (Scan.ofText t).groups, g ≠ .angle

instance (t : Text) : Decidable (EndsInArguments t) :=
  inferInstanceAs (Decidable (_ = _ ∧ _))

/-- The sequence has all that was emitted, unless the text ends inside a group in type arguments.
Then some pairs of round brackets and an opener are missing. -/
theorem sequence_emitted (strip : Bool) (t : Text) :
    (¬ EndsInArguments t → (Shape.ofText strip t).sequence = (Scan.ofText t).emitted) ∧
      (EndsInArguments t → ∃ pairs, RoundPairs pairs ∧
        (Scan.ofText t).emitted = (Shape.ofText strip t).sequence ++ (pairs ++ ['('])) := by
  unfold EndsInArguments Shape.ofText Scan.shape Scan.emitted
  simp only
  cases Scan.paired_ofText t with
  | closed groups_eq withheld_eq _ =>
    simp [groups_eq, withheld_eq, Scan.onlyAngles]
  | opened groups_eq withheld_eq opener _ _ =>
    have hg := Group.ne_angle_of_opener opener
    simp [groups_eq, withheld_eq, Scan.onlyAngles_of_other hg, hg]
  | angles groups_eq _ _ =>
    rw [groups_eq, Scan.onlyAngles_replicate]
    refine ⟨fun _ => if_pos rfl, ?_⟩
    rintro ⟨-, g, hmem, hg⟩
    exact absurd (List.eq_of_mem_replicate hmem) hg
  | @round inner n withheld groups_eq withheld_eq pairs _ =>
    rw [groups_eq, Scan.onlyAngles_of_other (by decide), withheld_eq]
    have hlast : (inner ++ Group.round :: List.replicate (n + 1) .angle).getLast? =
        some .angle := by
      simp [List.getLast?_append, List.getLast?_cons, List.getLast?_replicate]
    exact ⟨fun hnot => absurd ⟨hlast, .round, by simp, by decide⟩ hnot,
      fun _ => ⟨withheld, pairs, by simp⟩⟩

/-- If no type arguments are closed at depth zero, the sequence is the one of the reference scan
exactly if the text does not end inside a group in type arguments. If it does, the round brackets
right inside the type arguments are missing at the end, among them at least one opener. -/
theorem sequence_of_unclosed (h : ClosesNoArguments t) (strip : Bool) :
    ((Shape.ofText strip t).sequence = (Reference.ofText t).tokens.flatten ↔
        ¬ EndsInArguments t) ∧
      (EndsInArguments t → ∃ pairs, RoundPairs pairs ∧
        (Reference.ofText t).tokens.flatten =
          (Shape.ofText strip t).sequence ++ (pairs ++ ['('])) := by
  obtain ⟨hall, hmissing⟩ := sequence_emitted strip t
  rw [h.spells.emitted_eq] at hall hmissing
  refine ⟨⟨?_, hall⟩, hmissing⟩
  intro heq hends
  obtain ⟨pairs, -, hmore⟩ := hmissing hends
  rw [heq] at hmore
  have hlength := congrArg List.length hmore
  simp at hlength

/-- A comparison with a call whose result is compared again, up to the end of the text. -/
def comparedCalls : Text := "bool get big => a<b(c) && d<e(f)".toList

/-- The first `<` is given up at an ampersand and the second one is still open in the end, so the
sequence has the brackets of both calls. -/
theorem sequence_of_comparedCalls :
    ClosesNoArguments comparedCalls ∧ ¬ EndsInArguments comparedCalls ∧
      (Shape.ofText true comparedCalls).sequence =
        (Reference.ofText comparedCalls).tokens.flatten ∧
      (Reference.ofText comparedCalls).tokens.flatten = "=>()()".toList := by
  have hnone : ClosesNoArguments comparedCalls := .of_finds (by decide)
  have hends : ¬ EndsInArguments comparedCalls := by decide
  exact ⟨hnone, hends, (sequence_of_unclosed hnone true).1.2 hends, by decide⟩

/-- A comparison with a call that is applied once more, in a text that ends inside the second pair
of brackets. -/
def truncatedCall : Text := "bool get big => count<max(a)(b".toList

/-- The `<` is not closed, so it was a comparison, but the brackets after it are missing from the
sequence, even those of the first pair. -/
theorem sequence_of_truncatedCall :
    ClosesNoArguments truncatedCall ∧
      (Reference.ofText truncatedCall).tokens.flatten = "=>()(".toList ∧
      ∀ strip : Bool, (Shape.ofText strip truncatedCall).sequence = "=>".toList :=
  ⟨.of_finds (by decide), by decide, by decide⟩

end MemberOutline.Shape
