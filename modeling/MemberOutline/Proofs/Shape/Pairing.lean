import MemberOutline.Proofs.Shape.Move

/-!
# Openers and closers come in pairs

The tokens of a shape are whole units, among them an opener directly followed by its closer, except
that the last token can be the opener of a group that is still open. `Scan.Paired` is the invariant
that carries this: it says what is reported and what is withheld for each kind of stack of groups.
While only angles are open, whole round pairs are withheld; while a round group is open right above
them, its opener is withheld as well; while any other group is the outermost one, its opener is the
last token and nothing is withheld.

The main statement is `sequence_units`. What a step does to the invariant is shown move by move
(`Scan.Paired.stride`).
-/

namespace MemberOutline.Shape

/-- The units that a sequence of tokens is made of. -/
def units : List Text :=
  [['='], ['=', '='], ['=', '>'], [';'], ['(', ')'], ['[', ']'], ['{', '}']]

/-- A text that consists of whole units. -/
def Complete (t : Text) : Prop := ∃ us : List Text, (∀ u ∈ us, u ∈ units) ∧ us.flatten = t

/-- A text that consists of pairs of round brackets. -/
def RoundPairs (t : Text) : Prop := ∃ n, t = (List.replicate n ['(', ')']).flatten

/-- The empty text consists of no units. -/
theorem Complete.nil : Complete [] := ⟨[], by simp, rfl⟩

/-- Whole units after whole units are whole units. -/
theorem Complete.append {s t : Text} (hs : Complete s) (ht : Complete t) : Complete (s ++ t) := by
  obtain ⟨us, hus, rfl⟩ := hs
  obtain ⟨vs, hvs, rfl⟩ := ht
  refine ⟨us ++ vs, ?_, List.flatten_append⟩
  intro u hu
  rcases List.mem_append.1 hu with hu | hu
  · exact hus u hu
  · exact hvs u hu

/-- A unit by itself is complete. -/
theorem Complete.unit {u : Text} (hu : u ∈ units) : Complete u :=
  ⟨[u], by simpa using hu, by simp⟩

/-- Pairs of round brackets are whole units. -/
theorem RoundPairs.complete {t : Text} (h : RoundPairs t) : Complete t := by
  obtain ⟨n, rfl⟩ := h
  refine ⟨List.replicate n ['(', ')'], ?_, rfl⟩
  intro u hu
  rw [List.eq_of_mem_replicate hu]
  decide

/-- The empty text consists of no pairs of round brackets. -/
theorem RoundPairs.nil : RoundPairs [] := ⟨0, rfl⟩

/-- Pairs of round brackets with one more pair after them are pairs of round brackets. -/
theorem RoundPairs.snoc {t : Text} (h : RoundPairs t) : RoundPairs (t ++ ['('] ++ [')']) := by
  obtain ⟨n, rfl⟩ := h
  refine ⟨n + 1, ?_⟩
  rw [List.replicate_succ', List.flatten_append]
  simp

/-- An opener and the closer of the same group are a unit. -/
theorem pair_mem_units {o c : Char} {g : Group} (ho : Group.ofOpener? o = some g)
    (hc : Group.ofCloser? c = some g) : [o, c] ∈ units := by
  rcases Group.ofOpener?_eq_some_iff.1 ho with ⟨rfl, rfl⟩ | ⟨rfl, rfl⟩ | ⟨rfl, rfl⟩
  all_goals
    rcases Group.ofCloser?_eq_some_iff.1 hc with ⟨rfl, h⟩ | ⟨rfl, h⟩ | ⟨rfl, h⟩
    all_goals first | decide | cases h

/-- The token of an equals sign is a unit. -/
theorem equalsToken_mem_units (rest : Text) : Scan.equalsToken rest ∈ units := by
  unfold Scan.equalsToken
  split <;> decide

namespace Scan

/-- How the tokens that a scan reported and those it withholds fit the groups that are open. -/
inductive Paired (s : Scan) : Prop
  /-- Nothing is open. -/
  | closed (groups_eq : s.groups = []) (withheld_eq : s.withheld = [])
      (complete : Complete s.tokens)
  /-- The outermost group is no angle, and its opener is the last token. -/
  | opened {inner : List Group} {g : Group} {tokens : Text} {o : Char}
      (groups_eq : s.groups = inner ++ [g]) (withheld_eq : s.withheld = [])
      (opener : Group.ofOpener? o = some g) (tokens_eq : s.tokens = tokens ++ [o])
      (complete : Complete tokens)
  /-- Only angles are open. -/
  | angles {n : Nat} (groups_eq : s.groups = List.replicate (n + 1) .angle)
      (pairs : RoundPairs s.withheld) (complete : Complete s.tokens)
  /-- A round group is open right above the outermost angles. -/
  | round {inner : List Group} {n : Nat} {withheld : Text}
      (groups_eq : s.groups = inner ++ .round :: List.replicate (n + 1) .angle)
      (withheld_eq : s.withheld = withheld ++ ['(']) (pairs : RoundPairs withheld)
      (complete : Complete s.tokens)

variable {s : Scan} {c : Char} {g : Group}

/-! ## The parts of a step -/

/-- Giving up angles keeps the pairs: what they withheld is complete when nothing is open below
them. -/
theorem Paired.giveUpAngles (h : s.Paired) : s.giveUpAngles.Paired := by
  cases h with
  | closed groups_eq withheld_eq complete =>
    rw [giveUpAngles_of_all_angles (by rw [groups_eq, List.dropWhile_nil])]
    exact .closed rfl rfl (complete.append (by rw [withheld_eq]; exact .nil))
  | @opened inner g tokens o groups_eq withheld_eq opener tokens_eq complete =>
    have hdrop : s.groups.dropWhile (· = .angle) = inner.dropWhile (· = .angle) ++ [g] := by
      rw [groups_eq, dropWhile_angle_append (Group.ne_angle_of_opener opener)]
    -- The angles come off above the outermost group, which stays open.
    rw [giveUpAngles_of_other (by rw [hdrop]; simp)]
    exact .opened hdrop withheld_eq opener tokens_eq complete
  | @angles n groups_eq pairs complete =>
    -- Nothing stays open, and whole pairs are added to whole units.
    rw [giveUpAngles_of_all_angles (by rw [groups_eq, dropWhile_angle_replicate])]
    exact .closed rfl rfl (complete.append pairs.complete)
  | @round inner n withheld groups_eq withheld_eq pairs complete =>
    have hdrop : s.groups.dropWhile (· = .angle) =
        inner.dropWhile (· = .angle) ++ .round :: List.replicate (n + 1) .angle := by
      rw [groups_eq, dropWhile_angle_append (by decide)]
    rw [giveUpAngles_of_other (by rw [hdrop]; simp)]
    exact .round hdrop withheld_eq pairs complete

/-- Settling the angles keeps the pairs. -/
theorem Paired.settle (h : s.Paired) (c : Char) : (s.settle c).Paired := by
  unfold Scan.settle
  split_ifs
  · exact h.giveUpAngles
  · exact h

/-- Nothing is withheld unless the outermost group is an angle. -/
theorem Paired.withheld_eq_nil (h : s.Paired) (hlast : s.groups.getLast? ≠ some .angle) :
    s.withheld = [] := by
  cases h with
  | closed _ withheld_eq _ => exact withheld_eq
  | opened _ withheld_eq _ _ _ => exact withheld_eq
  | angles groups_eq _ _ => simp [groups_eq, List.getLast?_replicate] at hlast
  | round groups_eq _ _ _ =>
    simp [groups_eq, List.getLast?_cons, List.getLast?_append, List.getLast?_replicate] at hlast

/-- A group right above nothing but angles is a round one. -/
theorem Paired.eq_round (h : s.Paired) {below : List Group} (hgroups : s.groups = g :: below)
    (hg : g ≠ .angle) (hbelow : onlyAngles below = true) : g = .round := by
  cases h with
  | closed groups_eq _ _ => simp [groups_eq] at hgroups
  | @opened inner g' _ _ groups_eq _ opener _ _ =>
    rw [groups_eq] at hgroups
    cases inner with
    | nil =>
      obtain ⟨-, rfl⟩ := List.cons.inj hgroups
      simp [onlyAngles] at hbelow
    | cons top inner =>
      rw [List.cons_append] at hgroups
      obtain ⟨-, rfl⟩ := List.cons.inj hgroups
      rw [onlyAngles_of_other (Group.ne_angle_of_opener opener)] at hbelow
      cases hbelow
  | angles groups_eq _ _ =>
    rw [groups_eq] at hgroups
    exact absurd (List.cons.inj hgroups).1.symm hg
  | @round inner _ _ groups_eq _ _ _ =>
    rw [groups_eq] at hgroups
    cases inner with
    | nil => exact (List.cons.inj hgroups).1.symm
    | cons top inner =>
      rw [List.cons_append] at hgroups
      obtain ⟨-, rfl⟩ := List.cons.inj hgroups
      rw [onlyAngles_of_other (g := .round) (by decide)] at hbelow
      cases hbelow

/-- What a scan reported while nothing is open is complete. -/
theorem Paired.complete_of_nil (h : s.Paired) (hgroups : s.groups = []) : Complete s.tokens := by
  cases h with
  | closed _ _ complete => exact complete
  | opened groups_eq _ _ _ _ => simp [groups_eq] at hgroups
  | angles _ _ complete => exact complete
  | round _ _ _ complete => exact complete

/-- Reporting a token that is a unit keeps the pairs. -/
theorem Paired.report (h : s.Paired) {token : Text} (htoken : token ∈ units) :
    (s.report token).Paired := by
  unfold Scan.report
  split_ifs with hgroups
  · exact .closed hgroups (h.withheld_eq_nil (by simp [hgroups]))
      ((h.complete_of_nil hgroups).append (.unit htoken))
  · exact h

/-- Opening a group keeps the pairs, as only a round one opens right inside an angle. -/
theorem Paired.openGroup (h : s.Paired) (hc : Group.ofOpener? c = some g)
    (hround : s.groups.head? = some .angle → g = .round) : (s.openGroup c g).Paired := by
  cases h with
  | closed groups_eq withheld_eq complete =>
    rw [openGroup_of_nil groups_eq]
    exact .opened (List.nil_append [g]).symm withheld_eq hc rfl complete
  | @opened inner g' tokens o groups_eq withheld_eq opener tokens_eq complete =>
    rw [openGroup_of_ne_nil (by rw [groups_eq]; simp), groups_eq,
      onlyAngles_of_other (Group.ne_angle_of_opener opener)]
    exact .opened (List.cons_append ..).symm withheld_eq opener tokens_eq complete
  | @angles n groups_eq pairs complete =>
    obtain rfl : g = .round := hround (by rw [groups_eq]; rfl)
    obtain rfl : c = '(' := by simpa using Group.ofOpener?_eq_some_iff.1 hc
    rw [openGroup_of_ne_nil (by rw [groups_eq]; simp), groups_eq, onlyAngles_replicate, if_pos rfl]
    exact .round (List.nil_append _).symm rfl pairs complete
  | @round inner n withheld groups_eq withheld_eq pairs complete =>
    rw [openGroup_of_ne_nil (by rw [groups_eq]; simp), groups_eq, onlyAngles_of_other (by decide)]
    exact .round (List.cons_append ..).symm withheld_eq pairs complete

/-- Closing the innermost group keeps the pairs. -/
theorem Paired.closeInnermost (h : s.Paired) (hc : Group.ofCloser? c = some g)
    (hhead : s.groups.head? = some g) : (s.closeInnermost c).Paired := by
  cases h with
  | closed groups_eq _ _ => simp [groups_eq] at hhead
  | @opened inner g' tokens o groups_eq withheld_eq opener tokens_eq complete =>
    cases inner with
    | nil =>
      -- The closer comes right after its opener, the last token.
      obtain rfl : g' = g := by simpa [groups_eq] using hhead
      rw [closeInnermost_of_nil (by rw [groups_eq]; rfl)]
      refine .closed rfl withheld_eq ?_
      rw [tokens_eq, List.append_assoc]
      exact complete.append (.unit (pair_mem_units opener hc))
    | cons top inner =>
      have htail : s.groups.tail = inner ++ [g'] := by rw [groups_eq]; rfl
      rw [closeInnermost_of_ne_nil (by rw [htail]; simp), htail,
        onlyAngles_of_other (Group.ne_angle_of_opener opener)]
      exact .opened rfl withheld_eq opener tokens_eq complete
  | angles groups_eq _ _ =>
    refine absurd ?_ (Group.ne_angle_of_closer hc)
    simpa [groups_eq, List.replicate_succ, eq_comm] using hhead
  | @round inner n withheld groups_eq withheld_eq pairs complete =>
    cases inner with
    | nil =>
      -- The closer completes the pair that is withheld last.
      obtain rfl : Group.round = g := by simpa [groups_eq] using hhead
      obtain rfl : c = ')' := by simpa using Group.ofCloser?_eq_some_iff.1 hc
      have htail : s.groups.tail = List.replicate (n + 1) .angle := by rw [groups_eq]; rfl
      rw [closeInnermost_of_ne_nil (by rw [htail]; simp), htail, onlyAngles_replicate, if_pos rfl]
      refine .angles rfl ?_ complete
      rw [withheld_eq]
      exact pairs.snoc
    | cons top inner =>
      have htail : s.groups.tail = inner ++ .round :: List.replicate (n + 1) .angle := by
        rw [groups_eq]
        rfl
      rw [closeInnermost_of_ne_nil (by rw [htail]; simp), htail, onlyAngles_of_other (by decide)]
      exact .round rfl withheld_eq pairs complete

/-- Taking note of leading text changes nothing in the tokens. -/
theorem Paired.of_eq {t : Scan} (h : s.Paired) (groups : t.groups = s.groups)
    (tokens : t.tokens = s.tokens) (withheld : t.withheld = s.withheld) : t.Paired := by
  obtain ⟨_, _, _, _, _⟩ := t
  subst groups tokens withheld
  cases h with
  | closed groups_eq withheld_eq complete => exact .closed groups_eq withheld_eq complete
  | opened groups_eq withheld_eq opener tokens_eq complete =>
    exact .opened groups_eq withheld_eq opener tokens_eq complete
  | angles groups_eq pairs complete => exact .angles groups_eq pairs complete
  | round groups_eq withheld_eq pairs complete =>
    exact .round groups_eq withheld_eq pairs complete

/-- A closer keeps the pairs. -/
theorem Paired.closeGroup (h : s.Paired) (hc : Group.ofCloser? c = some g) :
    (s.closeGroup c g).Paired := by
  unfold Scan.closeGroup
  simp only
  split_ifs with hhead
  · exact (h.giveUpAngles.closeInnermost hc hhead).of_eq rfl rfl rfl
  · exact h.giveUpAngles.of_eq rfl rfl rfl

/-- Opening type arguments keeps the pairs. -/
theorem Paired.openAngle (h : s.Paired) : s.openAngle.Paired := by
  unfold Scan.openAngle
  cases h with
  | closed groups_eq withheld_eq complete =>
    refine .angles (n := 0) (by rw [groups_eq]; rfl) ?_ complete
    rw [withheld_eq]
    exact .nil
  | @opened inner g tokens o groups_eq withheld_eq opener tokens_eq complete =>
    have hgroups : .angle :: s.groups = (.angle :: inner) ++ [g] := by rw [groups_eq]; rfl
    exact .opened hgroups withheld_eq opener tokens_eq complete
  | @angles n groups_eq pairs complete =>
    exact .angles (n := n + 1) (by rw [groups_eq]; rfl) pairs complete
  | @round inner n withheld groups_eq withheld_eq pairs complete =>
    have hgroups : .angle :: s.groups =
        (.angle :: inner) ++ .round :: List.replicate (n + 1) .angle := by
      rw [groups_eq]
      rfl
    exact .round hgroups withheld_eq pairs complete

/-- Closing type arguments keeps the pairs: at depth zero those withheld are forgotten. -/
theorem Paired.closeAngle (h : s.Paired) (hhead : s.groups.head? = some .angle) :
    s.closeAngle.Paired := by
  cases h with
  | closed groups_eq _ _ => simp [groups_eq] at hhead
  | @opened inner g tokens o groups_eq withheld_eq opener tokens_eq complete =>
    cases inner with
    | nil => exact absurd (by simpa [groups_eq] using hhead) (Group.ne_angle_of_opener opener)
    | cons top inner =>
      have htail : s.groups.tail = inner ++ [g] := by rw [groups_eq]; rfl
      rw [closeAngle_of_ne_nil (by rw [htail]; simp)]
      exact .opened htail withheld_eq opener tokens_eq complete
  | @angles n groups_eq pairs complete =>
    have htail : s.groups.tail = List.replicate n .angle := by rw [groups_eq]; rfl
    cases n with
    | zero =>
      -- The pairs withheld are forgotten, and the tokens stay whole units.
      rw [closeAngle_of_nil htail]
      exact .closed rfl rfl complete
    | succ n =>
      rw [closeAngle_of_ne_nil (by rw [htail]; simp)]
      exact .angles htail pairs complete
  | @round inner n withheld groups_eq withheld_eq pairs complete =>
    cases inner with
    | nil => simp [groups_eq] at hhead
    | cons top inner =>
      have htail : s.groups.tail = inner ++ .round :: List.replicate (n + 1) .angle := by
        rw [groups_eq]
        rfl
      rw [closeAngle_of_ne_nil (by rw [htail]; simp)]
      exact .round htail withheld_eq pairs complete

/-! ## A step and a walk -/

/-- Only a round group opens where an angle is on top. -/
theorem round_of_opener (hc : Group.ofOpener? c = some g)
    (hhead : (s.settle c).groups.head? = some .angle) : g = .round := by
  have hsettle (h : argumentsHold c = false) : g = .round :=
    absurd hhead (head?_settle_ne_angle s h)
  rcases Group.ofOpener?_eq_some_iff.1 hc with ⟨-, hg⟩ | ⟨rfl, -⟩ | ⟨rfl, -⟩
  · exact hg
  · exact hsettle (by decide)
  · exact hsettle (by decide)

/-- Every step keeps the pairs. -/
theorem Paired.stride (h : s.Paired) (seen : Text) (c : Char) (rest : Text) :
    (Scan.stride s seen c rest).2.Paired := by
  have hmove := stride_move s seen c rest
  generalize Scan.stride s seen c rest = taken at hmove
  have hsettled := h.settle c
  cases hmove with
  | literal _ => exact h.of_eq rfl rfl rfl
  | equals _ _ => exact hsettled.report (equalsToken_mem_units rest)
  | semicolon _ _ => exact hsettled.report (by decide)
  | opener _ hc => exact hsettled.openGroup hc (round_of_opener hc)
  | closer _ hc => exact hsettled.closeGroup hc
  | openAngle _ _ _ => exact hsettled.openAngle
  | closeAngle _ _ top => exact hsettled.closeAngle top
  | plain _ _ _ _ _ _ _ => exact hsettled.of_eq rfl rfl rfl

/-- The tokens of a scan that starts are in pairs. -/
theorem paired_start : start.Paired := .closed rfl rfl .nil

/-- The tokens of a scan are in pairs at the end of every text. -/
theorem paired_ofText (t : Text) : (ofText t).Paired :=
  Text.walk_keeps (fun _ _ _ _ h => h.stride _ _ _) start [] t paired_start

end Scan

/-! ## The sequence of a shape -/

/-- An opener is one of three characters. -/
theorem mem_of_opener {o : Char} {g : Group} (h : Group.ofOpener? o = some g) :
    o ∈ ['(', '[', '{'] := by
  rcases Group.ofOpener?_eq_some_iff.1 h with ⟨rfl, -⟩ | ⟨rfl, -⟩ | ⟨rfl, -⟩ <;> decide

/-- The sequence of a shape consists of whole units and, in the end, the opener of the outermost
group if that one was left open and is no angle. So every other opener is directly followed by its
own closer. -/
theorem sequence_units (strip : Bool) (t : Text) :
    ∃ (us : List Text) (last : Option Char),
      (∀ u ∈ us, u ∈ units) ∧
      (Shape.ofText strip t).sequence = us.flatten ++ last.toList ∧
      (∀ o ∈ last, o ∈ ['(', '[', '{'] ∧
        Group.ofOpener? o = (Scan.ofText t).groups.getLast?) ∧
      (last.isSome ↔ ∃ g ∈ (Scan.ofText t).groups.getLast?, g ≠ .angle) := by
  unfold Shape.ofText Scan.shape
  simp only
  cases Scan.paired_ofText t with
  | closed groups_eq _ complete =>
    obtain ⟨us, hus, htokens⟩ := complete
    refine ⟨us, none, hus, ?_, by simp, by simp [groups_eq]⟩
    simp [groups_eq, htokens, Scan.onlyAngles]
  | @opened inner g tokens o groups_eq _ opener tokens_eq complete =>
    -- The only case with an opener left at the end.
    obtain ⟨us, hus, rfl⟩ := complete
    have hlast : (Scan.ofText t).groups.getLast? = some g := by
      rw [groups_eq, List.getLast?_concat]
    have hg := Group.ne_angle_of_opener opener
    refine ⟨us, some o, hus, ?_, ?_, by simp [hlast, hg]⟩
    · rw [groups_eq, Scan.onlyAngles_of_other hg, tokens_eq]
      rfl
    · intro o' ho
      obtain rfl := Option.mem_some.1 ho
      exact ⟨mem_of_opener opener, by rw [opener, hlast]⟩
  | @angles n groups_eq pairs complete =>
    -- The `<` still open was a comparison, so what it withheld is part of the sequence.
    obtain ⟨us, hus, heq⟩ := complete.append pairs.complete
    refine ⟨us, none, hus, ?_, by simp, ?_⟩
    · rw [groups_eq, Scan.onlyAngles_replicate, if_pos rfl, heq]
      simp
    · simp [groups_eq, List.getLast?_replicate]
  | @round inner n withheld groups_eq _ _ complete =>
    obtain ⟨us, hus, heq⟩ := complete
    refine ⟨us, none, hus, ?_, by simp, ?_⟩
    · rw [groups_eq, Scan.onlyAngles_of_other (by decide), ← heq]
      simp
    · simp [groups_eq, List.getLast?_cons, List.getLast?_append, List.getLast?_replicate]

end MemberOutline.Shape
