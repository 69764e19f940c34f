import MemberOutline.Proofs.Shape.Lexemes
import MemberOutline.Proofs.Shape.Pairing

/-!
# A scan and the reference scan

A scan that guesses at type arguments and the plain reference scan go through a text together. The
main statement is `refines_reference`: at every stop the groups of the two are the same but for the
angles, the sequence in the end has the tokens of the reference scan with nothing but round brackets
left out, and nothing is left out when no type arguments open.

`Scan.Simulates` is the relation between the two that every step keeps. Where the tokens go is the
business of `Accounts`: those reported, and after them those withheld, are the ones of the reference
scan. What is withheld are round brackets, so these alone are lost when an angle closes. The
proposition `lossless` goes through the whole development; it stands for the promise that no type
arguments open, under which nothing is lost.
-/

namespace MemberOutline.Shape

open Text (anyStep)

variable {lossless : Prop}

/-! ## Accounting for tokens -/

/-- The tokens reported and then those withheld are all of these with some round brackets left out,
or just these if nothing may be left out; and what is withheld are round brackets. -/
def Accounts (lossless : Prop) (tokens withheld : Text) (all : List Text) : Prop :=
  ∃ reported deferred : List Text, reported.flatten = tokens ∧ deferred.flatten = withheld ∧
    (∀ u ∈ deferred, isRound u) ∧ OmitsRound (reported ++ deferred) all ∧
    (lossless → reported ++ deferred = all)

namespace Accounts

variable {tokens withheld token : Text} {all : List Text}

/-- At the start no tokens are reported, and there are none to account for. -/
theorem nil : Accounts lossless [] [] [] :=
  ⟨[], [], rfl, rfl, by simp, .refl [], fun _ => rfl⟩

/-- All tokens are still accounted for when what was withheld is reported. -/
theorem flush (h : Accounts lossless tokens withheld all) :
    Accounts lossless (tokens ++ withheld) [] all := by
  obtain ⟨reported, deferred, rfl, rfl, -, homits, hexact⟩ := h
  refine ⟨reported ++ deferred, [], List.flatten_append, rfl, by simp, ?_, ?_⟩
  · rwa [List.append_nil]
  · rwa [List.append_nil]

/-- Round brackets are no empty tokens, so a list of them without text is empty. -/
theorem eq_nil_of_flatten {deferred : List Text} (hround : ∀ u ∈ deferred, isRound u)
    (hempty : deferred.flatten = []) : deferred = [] := by
  rw [List.eq_nil_iff_forall_not_mem]
  intro u hu
  have hu' := hround u hu
  rw [List.flatten_eq_nil_iff.1 hempty u hu] at hu'
  cases hu'

/-- While nothing is withheld, the tokens reported account for all tokens. -/
theorem reported (h : Accounts lossless tokens [] all) :
    ∃ kept : List Text, kept.flatten = tokens ∧ OmitsRound kept all ∧ (lossless → kept = all) := by
  obtain ⟨reported, deferred, htokens, hempty, hround, homits, hexact⟩ := h
  rw [eq_nil_of_flatten hround hempty, List.append_nil] at homits hexact
  exact ⟨reported, htokens, homits, hexact⟩

/-- All tokens are still accounted for when what was withheld is forgotten. -/
theorem forget (h : Accounts lossless tokens withheld all) (hnone : lossless → withheld = []) :
    Accounts lossless tokens [] all := by
  obtain ⟨reported, deferred, rfl, rfl, hround, homits, hexact⟩ := h
  refine ⟨reported, [], rfl, rfl, by simp, ?_, ?_⟩
  · rw [List.append_nil]
    exact homits.of_append_round hround
  · intro he
    rw [List.append_nil, ← hexact he, eq_nil_of_flatten hround (hnone he), List.append_nil]

/-- A token is accounted for that is reported while nothing is withheld. -/
theorem report (h : Accounts lossless tokens [] all) (token : Text) :
    Accounts lossless (tokens ++ token) [] (all ++ [token]) := by
  obtain ⟨kept, rfl, homits, hexact⟩ := h.reported
  refine ⟨kept ++ [token], [], by simp, rfl, by simp, ?_, ?_⟩
  · rw [List.append_nil]
    exact homits.append (.refl [token])
  · intro he
    rw [List.append_nil, hexact he]

/-- A round bracket is accounted for that is withheld. -/
theorem withhold (h : Accounts lossless tokens withheld all) (hround : isRound token) :
    Accounts lossless tokens (withheld ++ token) (all ++ [token]) := by
  obtain ⟨reported, deferred, rfl, rfl, hdeferred, homits, hexact⟩ := h
  refine ⟨reported, deferred ++ [token], rfl, by simp, ?_, ?_, ?_⟩
  · intro u hu
    rcases List.mem_append.1 hu with hu | hu
    · exact hdeferred u hu
    · rwa [List.mem_singleton.1 hu]
  · rw [← List.append_assoc]
    exact homits.append (.refl [token])
  · intro he
    rw [← List.append_assoc, hexact he]

end Accounts

/-! ## Groups without angles -/

/-- The angles on top are not among the groups that are left without angles. -/
theorem filter_dropWhile_angle (groups : List Group) :
    (groups.dropWhile (· = .angle)).filter (· ≠ .angle) = groups.filter (· ≠ .angle) := by
  induction groups with
  | nil => rfl
  | cons g groups ih =>
    by_cases hg : g = .angle
    · simpa [hg] using ih
    · simp [hg]

/-- Only angles are open exactly if groups are open, but none without the angles. -/
theorem onlyAngles_iff (groups : List Group) :
    Scan.onlyAngles groups = true ↔ groups ≠ [] ∧ groups.filter (· ≠ .angle) = [] := by
  simp [Scan.onlyAngles]

/-- Where only angles are open, one is on top. -/
theorem head?_of_onlyAngles {groups : List Group} (h : Scan.onlyAngles groups = true) :
    groups.head? = some .angle := by
  cases groups with
  | nil => simp [Scan.onlyAngles] at h
  | cons g below =>
    obtain ⟨hg, -⟩ : g = .angle ∧ ∀ g ∈ below, g = .angle := by simpa [Scan.onlyAngles] using h
    rw [hg]
    rfl

/-- Below a group that is no angle the stack without angles is the one without those below. -/
theorem filter_cons_of_ne_angle {g : Group} (hg : g ≠ .angle) (below : List Group) :
    (g :: below).filter (· ≠ .angle) = g :: below.filter (· ≠ .angle) := by
  simp [hg]

/-- An opener or a closer is accounted for by the groups below it: while none are open it is
reported, right inside nothing but angles it is withheld as a round bracket, and elsewhere it is no
token. -/
theorem Accounts.bracket {tokens withheld : Text} {all : List Text} {below : List Group} {c : Char}
    (h : Accounts lossless tokens withheld all) (hwithheld : below = [] → withheld = [])
    (hround : Scan.onlyAngles below = true → isRound [c]) :
    Accounts lossless (if below = [] then tokens ++ [c] else tokens)
      (if Scan.onlyAngles below then withheld ++ [c] else withheld)
      (if below.filter (· ≠ .angle) = [] then all ++ [[c]] else all) := by
  by_cases hbelow : below = []
  · rw [hwithheld hbelow] at h ⊢
    subst hbelow
    exact h.report [c]
  rw [if_neg hbelow]
  by_cases honly : Scan.onlyAngles below = true
  · -- The reference scan is at depth zero.
    rw [if_pos honly, if_pos ((onlyAngles_iff below).1 honly).2]
    exact h.withhold (hround honly)
  · rw [if_neg honly, if_neg fun hnil => honly ((onlyAngles_iff below).2 ⟨hbelow, hnil⟩)]
    exact h

namespace Scan

/-- A scan goes along with a reference scan. -/
structure Simulates (lossless : Prop) (s : Scan) (r : Reference) : Prop where
  /-- Its tokens fit its groups. -/
  paired : s.Paired
  /-- But for the angles the groups are the same. -/
  groups_eq : s.groups.filter (· ≠ .angle) = r.groups
  /-- There are no angles if none may open. -/
  noAngles : lossless → Group.angle ∉ s.groups
  /-- The tokens are those of the reference scan. -/
  accounts : Accounts lossless s.tokens s.withheld r.tokens

variable {s : Scan} {r : Reference} {c : Char} {g : Group}

/-! ## The parts of a step -/

/-- Giving up angles is nothing to the reference scan. -/
theorem Simulates.giveUpAngles (h : s.Simulates lossless r) :
    s.giveUpAngles.Simulates lossless r := by
  have hgroups : s.giveUpAngles.groups.filter (· ≠ .angle) = r.groups := by
    rw [groups_giveUpAngles, filter_dropWhile_angle, h.groups_eq]
  have hnone (he : lossless) : Group.angle ∉ s.giveUpAngles.groups := by
    rw [groups_giveUpAngles]
    exact fun hmem => h.noAngles he ((List.dropWhile_sublist _).subset hmem)
  refine ⟨h.paired.giveUpAngles, hgroups, hnone, ?_⟩
  by_cases hdrop : s.groups.dropWhile (· = .angle) = []
  · rw [giveUpAngles_of_all_angles hdrop]
    exact h.accounts.flush
  · rw [giveUpAngles_of_other hdrop]
    exact h.accounts

/-- Settling the angles is nothing to the reference scan. -/
theorem Simulates.settle (h : s.Simulates lossless r) (c : Char) :
    (s.settle c).Simulates lossless r := by
  unfold Scan.settle
  split_ifs
  · exact h.giveUpAngles
  · exact h

/-- Where no angle is on top, a scan and its reference scan are both at depth zero or neither is. -/
theorem Simulates.groups_eq_nil_iff (h : s.Simulates lossless r)
    (hhead : s.groups.head? ≠ some .angle) : r.groups = [] ↔ s.groups = [] := by
  rw [← h.groups_eq]
  cases hgroups : s.groups with
  | nil => simp
  | cons g below =>
    have hg : g ≠ .angle := by simpa [hgroups] using hhead
    rw [filter_cons_of_ne_angle hg]
    simp

/-- A scan and its reference scan both report a token, or neither does. -/
theorem Simulates.report (h : s.Simulates lossless r) (hhead : s.groups.head? ≠ some .angle)
    {token : Text} (htoken : token ∈ units) :
    (s.report token).Simulates lossless (r.report token) := by
  have hpaired := h.paired.report htoken
  unfold Scan.report Reference.report at *
  rw [if_congr (h.groups_eq_nil_iff hhead) rfl rfl]
  split_ifs at hpaired ⊢ with hgroups
  · refine ⟨hpaired, h.groups_eq, h.noAngles, ?_⟩
    -- Nothing is withheld at depth zero, so the token comes last in both.
    have hwithheld := h.paired.withheld_eq_nil (by simp [hgroups])
    have haccounts := h.accounts
    simp only [hwithheld] at haccounts ⊢
    exact haccounts.report token
  · exact h

/-- A scan and its reference scan both open a group. -/
theorem Simulates.openGroup (h : s.Simulates lossless r) (hc : Group.ofOpener? c = some g)
    (hround : s.groups.head? = some .angle → g = .round) :
    (s.openGroup c g).Simulates lossless (r.openGroup c g) := by
  have hg := Group.ne_angle_of_opener hc
  refine ⟨h.paired.openGroup hc hround, ?_, ?_, ?_⟩
  · rw [groups_openGroup, filter_cons_of_ne_angle hg, h.groups_eq]
    rfl
  · intro he
    rw [groups_openGroup]
    simpa [hg.symm] using h.noAngles he
  · rw [tokens_openGroup, withheld_openGroup, Reference.tokens_openGroup, ← h.groups_eq]
    have hwithheld (hnil : s.groups = []) : s.withheld = [] :=
      h.paired.withheld_eq_nil (by simp [hnil])
    refine h.accounts.bracket hwithheld fun honly => ?_
    -- Right inside nothing but angles only a round group opens.
    obtain rfl := hround (head?_of_onlyAngles honly)
    obtain rfl : c = '(' := by simpa using Group.ofOpener?_eq_some_iff.1 hc
    rfl

/-- A scan and its reference scan both close the innermost group. -/
theorem Simulates.closeInnermost (h : s.Simulates lossless r) (hc : Group.ofCloser? c = some g)
    (hhead : s.groups.head? = some g) :
    (s.closeInnermost c).Simulates lossless (r.closeGroup c g) := by
  have hg := Group.ne_angle_of_closer hc
  obtain ⟨below, hgroups⟩ := List.head?_eq_some_iff.1 hhead
  have htail : s.groups.tail = below := by rw [hgroups]; rfl
  have hr : r.groups = g :: below.filter (· ≠ .angle) := by
    rw [← h.groups_eq, hgroups, filter_cons_of_ne_angle hg]
  refine ⟨h.paired.closeInnermost hc hhead, ?_, ?_, ?_⟩
  · rw [groups_closeInnermost, htail, Reference.groups_closeGroup hr]
  · intro he hmem
    rw [groups_closeInnermost] at hmem
    exact h.noAngles he (List.mem_of_mem_tail hmem)
  · rw [tokens_closeInnermost, withheld_closeInnermost, htail, Reference.tokens_closeGroup hr]
    refine h.accounts.bracket ?_ fun honly => ?_
    · rintro rfl
      exact h.paired.withheld_eq_nil (by simp [hgroups, hg])
    · -- The group right above nothing but angles is a round one.
      obtain rfl := h.paired.eq_round hgroups hg honly
      obtain rfl : c = ')' := by simpa using Group.ofCloser?_eq_some_iff.1 hc
      rfl

/-- What a scan notes besides tokens and groups is nothing to the reference scan. -/
theorem Simulates.of_eq {t : Scan} (h : s.Simulates lossless r) (groups : t.groups = s.groups)
    (tokens : t.tokens = s.tokens) (withheld : t.withheld = s.withheld) :
    t.Simulates lossless r := by
  refine ⟨h.paired.of_eq groups tokens withheld, ?_, ?_, ?_⟩
  · rw [groups]
    exact h.groups_eq
  · rw [groups]
    exact h.noAngles
  · rw [tokens, withheld]
    exact h.accounts

/-- Without the angles on top a scan and its reference scan see the same innermost group. -/
theorem Simulates.head?_giveUpAngles (h : s.Simulates lossless r) :
    r.groups.head? = s.giveUpAngles.groups.head? := by
  have htop := head?_dropWhile_ne_angle s.groups
  rw [← h.giveUpAngles.groups_eq]
  rw [groups_giveUpAngles] at *
  generalize s.groups.dropWhile (· = .angle) = groups at *
  cases groups with
  | nil => rfl
  | cons top below =>
    rw [filter_cons_of_ne_angle (by simpa using htop)]
    rfl

/-- A scan and its reference scan both close a group, or both pass over the closer. -/
theorem Simulates.closeGroup (h : s.Simulates lossless r) (hc : Group.ofCloser? c = some g) :
    (s.closeGroup c g).Simulates lossless (r.closeGroup c g) := by
  have hgiven := h.giveUpAngles
  unfold Scan.closeGroup
  simp only
  by_cases hmatch : s.giveUpAngles.groups.head? = some g
  · rw [if_pos hmatch]
    exact (hgiven.closeInnermost hc hmatch).of_eq rfl rfl rfl
  · rw [if_neg hmatch]
    unfold Reference.closeGroup
    rw [h.head?_giveUpAngles, if_neg hmatch]
    exact hgiven.of_eq rfl rfl rfl

/-- Type arguments that open are nothing to the reference scan. -/
theorem Simulates.openAngle (h : s.Simulates lossless r) (hnot : ¬ lossless) :
    s.openAngle.Simulates lossless r := by
  refine ⟨h.paired.openAngle, ?_, fun he => absurd he hnot, h.accounts⟩
  rw [← h.groups_eq]
  rfl

/-- Type arguments that close are nothing to the reference scan: at depth zero it does not miss
what they withheld. -/
theorem Simulates.closeAngle (h : s.Simulates lossless r) (hhead : s.groups.head? = some .angle) :
    s.closeAngle.Simulates lossless r := by
  have hpaired := h.paired.closeAngle hhead
  obtain ⟨below, hgroups⟩ := List.head?_eq_some_iff.1 hhead
  have hnot : ¬ lossless := fun he => h.noAngles he (by rw [hgroups]; exact List.mem_cons_self)
  have htail : s.groups.tail = below := by rw [hgroups]; rfl
  have hr : below.filter (· ≠ .angle) = r.groups := by
    rw [← h.groups_eq, hgroups]
    rfl
  cases below with
  | nil =>
    rw [closeAngle_of_nil htail] at hpaired ⊢
    exact ⟨hpaired, hr, fun he => absurd he hnot, h.accounts.forget fun he => absurd he hnot⟩
  | cons top below =>
    have hne : s.groups.tail ≠ [] := by rw [htail]; exact List.cons_ne_nil top below
    rw [closeAngle_of_ne_nil hne, htail] at hpaired ⊢
    exact ⟨hpaired, hr, fun he => absurd he hnot, h.accounts⟩

/-! ## A step -/

/-- The condition on a step that it opens no type arguments. -/
def OpensNothing : Text.Condition Scan := fun s seen c rest =>
  Literal.step s.literals seen.head? c rest = (.code, []) → c = '<' → opensArguments seen = false

/-- The condition on a step that it opens no type arguments if nothing may be left out. -/
abbrev Promise (lossless : Prop) : Text.Condition Scan := fun s seen c rest =>
  lossless → OpensNothing s seen c rest

/-- The token of an equals sign is read as a token. -/
theorem read_equalsToken (r : Reference) (rest : Text) :
    r.read (equalsToken rest) = r.report (equalsToken rest) := by
  have hmem : equalsToken rest ∈ [['='], ['=', '='], ['=', '>'], [';']] := by
    unfold equalsToken
    split <;> decide
  unfold Reference.read
  rw [if_pos hmem]

/-- A step of a scan goes along with reading the lexemes that it takes up. -/
theorem Simulates.stride {seen rest : Text} (h : s.Simulates lossless r)
    (hopens : Promise lossless s seen c rest) :
    (Scan.stride s seen c rest).2.Simulates lossless
      ((taken s seen c rest).foldl Reference.read r) := by
  have hmove := stride_move s seen c rest
  generalize Scan.stride s seen c rest = answer at hmove
  have hsettled := h.settle c
  cases hmove with
  | literal consumed =>
    rw [taken_of_consumed consumed]
    exact h.of_eq rfl rfl rfl
  | equals code hc =>
    subst hc
    rw [taken_of_equals code, List.foldl_cons, List.foldl_nil, read_equalsToken]
    exact hsettled.report (head?_settle_ne_angle s (by decide)) (equalsToken_mem_units rest)
  | semicolon code hc =>
    subst hc
    rw [taken_of_code code (by decide)]
    exact hsettled.report (head?_settle_ne_angle s (by decide)) (by decide)
  | opener code hc =>
    rw [taken_of_code code (by rintro rfl; cases hc), List.foldl_cons, List.foldl_nil,
      r.read_opener hc]
    exact hsettled.openGroup hc (round_of_opener hc)
  | closer code hc =>
    rw [taken_of_code code (by rintro rfl; cases hc), List.foldl_cons, List.foldl_nil,
      r.read_closer hc]
    exact hsettled.closeGroup hc
  | openAngle code hc opens =>
    -- The one step that the promise rules out.
    have hnot : ¬ lossless := fun he => by
      rw [hopens he code hc] at opens
      cases opens
    subst hc
    rw [taken_of_code code (by decide)]
    exact hsettled.openAngle hnot
  | closeAngle code hc top =>
    subst hc
    rw [taken_of_code code (by decide)]
    exact hsettled.closeAngle top
  | plain code notEquals notSemicolon notOpener notCloser _ _ =>
    rw [taken_of_code code notEquals, List.foldl_cons, List.foldl_nil,
      r.read_other notEquals notSemicolon notOpener notCloser]
    exact hsettled.of_eq rfl rfl rfl

/-! ## A path -/

/-- A scan goes along with the reference scan of the code on its way. -/
theorem Simulates.path {seen way rest : Text} {t : Scan}
    (hpath : Text.Path id Scan.stride (Promise lossless) s seen way rest t)
    (h : s.Simulates lossless r) :
    ∃ view : List (Option Char), view.length = way.length ∧
      Literal.codeFrom s.literals 0 seen (way ++ rest) =
        view ++ Literal.codeFrom t.literals 0 (way.reverse ++ seen) rest ∧
      t.Simulates lossless ((lexemes view).foldl Reference.read r) := by
  have hstart : s.Simulates lossless (([] : List Text).foldl Reference.read r) := h
  refine path_lexemes (fun s read => s.Simulates lossless (read.foldl Reference.read r)) ?_ hpath
    hstart
  intro s seen c rest read meets h
  rw [List.foldl_append]
  exact h.stride meets

/-- A scan and a reference scan that start go along with each other. -/
theorem simulates_start : start.Simulates lossless .start :=
  ⟨paired_start, rfl, fun _ => List.not_mem_nil, .nil⟩

/-- The code that a scan has come through is the view of the text up to its stop. -/
theorem simulates_of_path {a b : Text}
    (hpath : Text.Path id Scan.stride (Promise lossless) start [] a b s) :
    Literal.codeView (a ++ b) =
        (Literal.codeView (a ++ b)).take a.length ++ Literal.codeFrom s.literals 0 a.reverse b ∧
      s.Simulates lossless (.ofView ((Literal.codeView (a ++ b)).take a.length)) := by
  obtain ⟨view, hlength, hview, hsimulates⟩ := simulates_start.path hpath
  rw [List.append_nil] at hview
  have htake : (Literal.codeView (a ++ b)).take a.length = view := by
    unfold Literal.codeView
    rw [show Literal.codeFrom [] 0 [] (a ++ b) = _ from hview, ← hlength, List.take_left]
  rw [htake]
  exact ⟨hview, hsimulates⟩

/-- The sequence found by a scan accounts for the tokens of the reference scan. -/
theorem Simulates.sequence (h : s.Simulates lossless r) (strip : Bool) :
    ∃ kept : List Text, kept.flatten = (s.shape strip).sequence ∧ OmitsRound kept r.tokens ∧
      (lossless → kept = r.tokens) := by
  unfold Scan.shape
  by_cases honly : onlyAngles s.groups = true
  · simp only [honly, if_true]
    exact h.accounts.flush.reported
  · -- What a group above the angles still withholds is lost, unless no angle could open.
    simp only [honly]
    refine (h.accounts.forget fun he => ?_).reported
    exact h.paired.withheld_eq_nil fun hlast => h.noAngles he (List.mem_of_getLast? hlast)

end Scan

/-! ## The refinement -/

/-- No `<` outside all literals opens type arguments. -/
def OpensNoArguments (t : Text) : Prop :=
  ∀ i < t.length, (Literal.codeView t)[i]? = some (some '<') →
    opensArguments (t.take i).reverse = false

instance (t : Text) : Decidable (OpensNoArguments t) :=
  inferInstanceAs (Decidable (∀ i < t.length, _ → _))

variable {t : Text}

/-- On every path the steps open no type arguments if a false promise is made. -/
theorem path_unpromised {s u : Scan} {seen way rest : Text}
    (hpath : Text.Path id Scan.stride anyStep s seen way rest u) :
    Text.Path id Scan.stride (Scan.Promise False) s seen way rest u :=
  hpath.mono fun _ _ _ _ _ hfalse => hfalse.elim

/-- Where no type arguments open in a text, no step of a scan opens any. -/
theorem path_opensNothing (h : OpensNoArguments t) :
    Text.Path id Scan.stride Scan.OpensNothing .start [] t [] (Scan.ofText t) := by
  refine (Text.path_walk _ _ _).of_steps ?_
  intro a c b u ht hpath hcode hc
  subst hc
  obtain ⟨hview, -⟩ := Scan.simulates_of_path (path_unpromised hpath)
  -- The `<` stands in the view of the text where the scan came to it.
  rw [List.append_nil] at hview hcode ⊢
  rw [List.append_nil] at hcode
  rw [← ht, Literal.codeFrom_code hcode] at hview
  have hlength : ((Literal.codeView t).take a.length).length = a.length := by
    rw [List.length_take, Literal.codeView, Literal.length_codeFrom, ht]
    simp
  have hplace : (Literal.codeView t)[a.length]? = some (some '<') := by
    rw [hview, List.getElem?_append_right (by omega), hlength, Nat.sub_self]
    rfl
  have hopens := h a.length (by rw [ht]; simp) hplace
  rwa [ht, List.take_left] at hopens

/-- A scan of a whole text goes along with the reference scan of it. -/
theorem simulates_ofText
    (hpath : Text.Path id Scan.stride (Scan.Promise lossless) .start [] t [] (Scan.ofText t)) :
    (Scan.ofText t).Simulates lossless (.ofText t) := by
  obtain ⟨-, hsimulates⟩ := Scan.simulates_of_path hpath
  rw [List.append_nil, List.take_of_length_le] at hsimulates
  · exact hsimulates
  · exact Nat.le_of_eq (Literal.length_codeFrom [] 0 [] t)

/-- A scan refines the reference scan. At every stop the groups of the two are the same but for the
angles. The sequence has the tokens of the reference scan, in order, with nothing but round brackets
left out, and when no type arguments open it has all of them. -/
theorem refines_reference (t : Text) :
    (∀ a b s, t = a ++ b → Text.Path id Scan.stride anyStep .start [] a b s →
      s.groups.filter (· ≠ .angle) =
        (Reference.ofView ((Literal.codeView t).take a.length)).groups) ∧
    ∀ strip : Bool,
      (∃ kept : List Text, kept.flatten = (Shape.ofText strip t).sequence ∧
        OmitsRound kept (Reference.ofText t).tokens) ∧
      (OpensNoArguments t →
        (Shape.ofText strip t).sequence = (Reference.ofText t).tokens.flatten) := by
  refine ⟨?_, fun strip => ⟨?_, ?_⟩⟩
  · rintro a b s rfl hpath
    exact (Scan.simulates_of_path (path_unpromised hpath)).2.groups_eq
  · have hsimulates := simulates_ofText (path_unpromised (Text.path_walk Scan.start [] t))
    obtain ⟨kept, hkept, homits, -⟩ := hsimulates.sequence strip
    exact ⟨kept, hkept, homits⟩
  · intro hopens
    have hpath := (path_opensNothing hopens).mono fun _ _ _ _ hvia (_ : True) => hvia
    obtain ⟨kept, hkept, -, hexact⟩ := (simulates_ofText hpath).sequence strip
    rw [hexact trivial] at hkept
    exact hkept.symm

/-- A declaration with a `<` that follows a blank. -/
def spacedComparison : Text := "a < b(c) = d;".toList

/-- The refinement for a declaration in which no type arguments open. -/
theorem refines_reference_spacedComparison :
    OpensNoArguments spacedComparison ∧
      (Shape.ofText true spacedComparison).sequence =
        (Reference.ofText spacedComparison).tokens.flatten ∧
      ∃ s, Text.Path id Scan.stride anyStep .start [] "a < b(".toList "c) = d;".toList s ∧
        s.groups.filter (· ≠ .angle) =
          (Reference.ofView ((Literal.codeView spacedComparison).take 6)).groups := by
  have hopens : OpensNoArguments spacedComparison := by decide
  have harrival : (Text.arrival? id Scan.stride (fun _ _ _ _ => true) .start 0 []
      "a < b(".toList "c) = d;".toList).isSome = true := by decide
  obtain ⟨s, hs⟩ := Option.isSome_iff_exists.1 harrival
  have hpath := (Text.path_of_arrival hs).1.mono fun _ _ _ _ _ => (trivial : True)
  have hrefines := refines_reference spacedComparison
  exact ⟨hopens, (hrefines.2 true).2 hopens, s, hpath, hrefines.1 _ _ s rfl hpath⟩

/-- The round brackets right inside type arguments are the tokens left out. -/
example :
    (Reference.ofText "T<F()> f() => g;".toList).tokens.flatten = "()()=>;".toList ∧
      (Shape.ofText true "T<F()> f() => g;".toList).sequence = "()=>;".toList := by
  decide

end MemberOutline.Shape
