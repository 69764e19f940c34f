import MemberOutline.Member.Classify
import MemberOutline.Proofs.Member.Accessor
import Mathlib.Data.Nat.Find

/-!
# The name is the last word

An accessor is found by a search: the pattern of an accessor is tried from each place of the leading
text on, and the leftmost place where it matches up to the end of the text counts
(`LeftmostMatch`). All places where it matches give the same keyword and the same name, since these
are the last two words of the text. So the search says no more than the words do, and the name of
every member that is no operator is the last word of its leading text (`accessor_by_words`).
-/

namespace MemberOutline.Member

open Text (isBlank words)

variable {t name : Text} {a : Accessor} {start : Nat}

/-! ## The search -/

/-- The pattern of an accessor matches from a place of a text to its end: there are the beginning of
the text or a blank, the keyword, blanks and the name. -/
def MatchesFrom (a : Accessor) (name t : Text) (start : Nat) : Prop :=
  (start = 0 ∧ DeclaresHere a name t) ∨
    ∃ b here, t.drop start = b :: here ∧ isBlank b = true ∧ DeclaresHere a name here

/-- The pattern of an accessor matches from a place of a text, and from no place further left with
any keyword or name. -/
def LeftmostMatch (a : Accessor) (name t : Text) : Prop :=
  ∃ start, MatchesFrom a name t start ∧
    ∀ earlier < start, ∀ a' name', ¬ MatchesFrom a' name' t earlier

/-- A text declares an accessor where the pattern matches. -/
theorem declares_iff_matches : Declares a name t ↔ ∃ start, MatchesFrom a name t start := by
  constructor
  · rintro ⟨front, here, hhere, hfront, rfl⟩
    rcases List.eq_nil_or_concat front with rfl | ⟨front, b, rfl⟩
    · exact ⟨0, .inl ⟨rfl, hhere⟩⟩
    · have hb : isBlank b = true := hfront b (by simp)
      exact ⟨front.length, .inr ⟨b, here, by simp, hb, hhere⟩⟩
  · rintro ⟨start, ⟨-, hhere⟩ | ⟨b, here, hdrop, hb, hhere⟩⟩
    · exact ⟨[], t, hhere, by simp, rfl⟩
    · have ht : t = (t.take start ++ [b]) ++ here := by
        rw [List.append_assoc, List.singleton_append, ← hdrop, List.take_append_drop]
      exact ⟨t.take start ++ [b], here, hhere, by simpa using hb, ht⟩

/-- An accessor is read in a text exactly if the text declares it. -/
theorem accessor?_eq_some_iff_declares : accessor? t = some (a, name) ↔ Declares a name t := by
  rw [accessor?_eq_some_iff, declares_iff]

/-- The accessor that is read is the one of the leftmost match. -/
theorem accessor?_eq_some_iff_leftmost :
    accessor? t = some (a, name) ↔ LeftmostMatch a name t := by
  classical
  constructor
  · intro h
    have hsome : ∃ start a' name', MatchesFrom a' name' t start := by
      obtain ⟨start, hmatch⟩ := declares_iff_matches.1 (accessor?_eq_some_iff_declares.1 h)
      exact ⟨start, a, name, hmatch⟩
    obtain ⟨a', name', hmatch⟩ := Nat.find_spec hsome
    -- A match anywhere reads the same accessor.
    have h' := accessor?_eq_some_iff_declares.2 (declares_iff_matches.2 ⟨_, hmatch⟩)
    obtain ⟨rfl, rfl⟩ : a = a' ∧ name = name' := by simpa using h.symm.trans h'
    refine ⟨Nat.find hsome, hmatch, fun earlier hlt a' name' hearlier => ?_⟩
    exact Nat.find_min hsome hlt ⟨a', name', hearlier⟩
  · rintro ⟨start, hmatch, -⟩
    exact accessor?_eq_some_iff_declares.2 (declares_iff_matches.2 ⟨start, hmatch⟩)

/-! ## The words -/

/-- The last two elements of a list. -/
theorem exists_eq_append_pair_iff {α : Type} {l : List α} {x y : α} :
    (∃ front, l = front ++ [x, y]) ↔ l.getLast? = some y ∧ l.dropLast.getLast? = some x := by
  constructor
  · rintro ⟨front, rfl⟩
    have hpair : front ++ [x, y] = (front ++ [x]) ++ [y] := by simp
    rw [hpair, List.getLast?_concat, List.dropLast_concat, List.getLast?_concat]
    exact ⟨rfl, rfl⟩
  · rintro ⟨hlast, hbefore⟩
    obtain ⟨init, rfl⟩ := List.getLast?_eq_some_iff.1 hlast
    rw [List.dropLast_concat] at hbefore
    obtain ⟨front, rfl⟩ := List.getLast?_eq_some_iff.1 hbefore
    exact ⟨front, by simp⟩

/-- What an accessor is shown as. -/
def Accessor.kind : Accessor → Kind
  | .get => .getter
  | .set => .setter

/-- Unless it is an operator, a member is named by the last word of its leading text, and if this
declares an accessor the member is one. -/
theorem kindAndName_of_ne_operator {declaration : Text} {shape : Shape} {modifiers : List Text}
    {className : Option Text}
    (h : (kindAndName declaration shape modifiers className).1 ≠ .operator) :
    (kindAndName declaration shape modifiers className).2 =
        (words shape.leadingText).getLast?.getD [] ∧
      ∀ a name, accessor? shape.leadingText = some (a, name) →
        (kindAndName declaration shape modifiers className).1 = a.kind := by
  have hname {a : Accessor} {name : Text} (hread : accessor? shape.leadingText = some (a, name)) :
      name = (words shape.leadingText).getLast?.getD [] := by
    rw [(accessor?_eq_some_iff.1 hread).2.2.1]
    rfl
  unfold kindAndName at h ⊢
  simp only at h ⊢
  split_ifs at h ⊢ with hoperator
  · exact absurd rfl h
  all_goals
    cases hread : accessor? shape.leadingText with
    | none => exact ⟨rfl, fun a name hsome => by cases hsome⟩
    | some found =>
      obtain ⟨a, name⟩ := found
      cases a
      · exact ⟨hname hread, fun a' name' hsome => by cases hsome; rfl⟩
      · exact ⟨hname hread, fun a' name' hsome => by cases hsome; rfl⟩

/-! ## What decides on the kind and the name -/

section

variable {shape : Shape} {declaration : Text} {modifiers : List Text} {className : Option Text}

/-- The word `operator` makes an operator, whatever else there is. -/
theorem kindAndName_of_operator (h : Shape.operatorWord ∈ words shape.leadingText) :
    kindAndName declaration shape modifiers className = (.operator, operatorName declaration) := by
  unfold kindAndName
  simp only
  rw [if_pos (List.contains_iff_mem.2 h)]

/-- Only the word `operator` makes an operator. -/
theorem kind_ne_operator (h : Shape.operatorWord ∉ words shape.leadingText) :
    (kindAndName declaration shape modifiers className).1 ≠ .operator := by
  unfold kindAndName
  simp only
  rw [if_neg (by simpa using h)]
  split
  · exact Kind.noConfusion
  · exact Kind.noConfusion
  · split_ifs <;> exact Kind.noConfusion

/-- The kind of a member that is neither an operator nor an accessor nor a constructor. -/
def kindOfSequence (sequence lastWord : Text) : Kind :=
  if sequence.head? = some '(' then .method
  else if isFieldSequence sequence ∧ lastWord ≠ [] then .field
  else .unknown

/-- Without the word `operator` and an accessor, the modifiers, the class and the sequence decide on
the kind. -/
theorem kind_of_neither (hoperator : Shape.operatorWord ∉ words shape.leadingText)
    (haccessor : accessor? shape.leadingText = none) :
    (kindAndName declaration shape modifiers className).1 =
      if isConstructor modifiers ((words shape.leadingText).getLast?.getD []) className then
        .constructor
      else kindOfSequence shape.sequence ((words shape.leadingText).getLast?.getD []) := by
  unfold kindAndName kindOfSequence
  simp only [haccessor]
  rw [if_neg (by simpa using hoperator)]
  split_ifs <;> rfl

/-- The kind of a member by its sequence is none of those that its words decide on. -/
theorem kindOfSequence_ne (sequence lastWord : Text) :
    kindOfSequence sequence lastWord ≠ .constructor ∧
      ∀ a : Accessor, kindOfSequence sequence lastWord ≠ a.kind := by
  unfold kindOfSequence
  refine ⟨?_, fun a => ?_⟩
  · split_ifs <;> exact Kind.noConfusion
  · cases a <;> split_ifs <;> exact Kind.noConfusion

/-- For the body of a member its kind counts only as far as it is a field or not. -/
theorem bodyOf_congr {kind kind' : Kind} (h : kind = .field ↔ kind' = .field) (sequence : Text) :
    bodyOf kind sequence = bodyOf kind' sequence := by
  have hother {kind : Kind} (hne : kind ≠ .field) :
      bodyOf kind sequence = (sequence.contains '{' || hasArrow sequence) := by
    cases kind with
    | field => exact absurd rfl hne
    | _ => rfl
  by_cases hfield : kind = .field
  · rw [hfield, h.1 hfield]
  · rw [hother hfield, hother (mt h.2 hfield)]

/-- A name of an operator that has no blanks is the word `operator` alone. -/
theorem eq_operatorWord_of_operatorName (h : operatorName declaration = name)
    (hname : ∀ c ∈ name, isBlank c = false) : name = Shape.operatorWord := by
  unfold operatorName at h
  split at h
  · rw [← h] at hname
    exact absurd (hname ' ' (by simp)) (by decide)
  · exact h.symm

/-- The last word of a text, if there is one, has no blanks and is a word of it. -/
theorem lastWord_spec (t : Text) : (∀ c ∈ (words t).getLast?.getD [], isBlank c = false) ∧
    ((words t).getLast?.getD [] = Shape.operatorWord → Shape.operatorWord ∈ words t) := by
  cases hlast : (words t).getLast? with
  | none => exact ⟨(fun c hc => by cases hc), fun h => by cases h⟩
  | some w =>
    have hmem : w ∈ words t := List.mem_of_getLast? hlast
    refine ⟨fun c hc => ?_, fun h => ?_⟩
    · rw [Text.words_eq_runs] at hmem
      exact ((Text.of_mem_runs hmem).2 c hc).2
    · rwa [← h]

/-- The last word of a text is empty only if there is none. -/
theorem lastWord_eq_nil_iff (t : Text) : (words t).getLast?.getD [] = [] ↔ words t = [] := by
  rcases List.eq_nil_or_concat (words t) with hnil | ⟨front, w, hwords⟩
  · rw [hnil]
    exact iff_of_true rfl rfl
  · have hmem : w ∈ words t := by simp [hwords]
    rw [Text.words_eq_runs] at hmem
    rw [hwords, List.concat_eq_append, List.getLast?_concat]
    exact iff_of_false (Text.of_mem_runs hmem).1 (by simp)

/-- The name of an operator is not the last word of a text without the word `operator`. -/
theorem operatorName_ne_lastWord {t : Text} (h : Shape.operatorWord ∉ words t)
    (declaration : Text) :
    operatorName declaration ≠ (words t).getLast?.getD [] := by
  intro heq
  obtain ⟨hsolid, hword⟩ := lastWord_spec t
  exact h (hword (eq_operatorWord_of_operatorName heq hsolid))

end

/-! ## The result -/

/-- The search for an accessor finds the leftmost match, and it finds one exactly if the text does
not end in a blank and its last two words are the keyword and a name. So every member but an
operator is named by the last word of its leading text, and it is the accessor found there, if
any. -/
theorem accessor_by_words :
    (∀ (t : Text) (a : Accessor) (name : Text),
      (accessor? t = some (a, name) ↔ LeftmostMatch a name t) ∧
        (accessor? t = some (a, name) ↔
          (∀ c ∈ t.getLast?, isBlank c = false) ∧ isName name = true ∧
            ∃ front, words t = front ++ [a.keyword, name])) ∧
      ∀ (declaration : Text) (shape : Shape) (className : Option Text),
        (ofShape declaration shape className).kind ≠ .operator →
          (ofShape declaration shape className).name =
              (words shape.leadingText).getLast?.getD [] ∧
            ∀ a name, accessor? shape.leadingText = some (a, name) →
              (ofShape declaration shape className).kind = a.kind := by
  constructor
  · intro t a name
    refine ⟨accessor?_eq_some_iff_leftmost, ?_⟩
    rw [accessor?_eq_some_iff, exists_eq_append_pair_iff]
  · intro declaration shape className
    exact kindAndName_of_ne_operator

/-- A leading text with several keywords, blanks of several kinds and an identifier that begins like
a keyword. -/
def repeatedKeywords : Shape := ⟨"=>;".toList, "get set\tgetter\u2003 get set\n_x$1".toList⟩

/-- In a leading text with several keywords only the last one counts, and the name is the last
word. -/
theorem accessor_by_words_repeated :
    accessor? repeatedKeywords.leadingText = some (.set, "_x$1".toList) ∧
      LeftmostMatch .set "_x$1".toList repeatedKeywords.leadingText ∧
      (ofShape [] repeatedKeywords none).kind ≠ .operator ∧
      (ofShape [] repeatedKeywords none).kind = .setter ∧
      (ofShape [] repeatedKeywords none).name = "_x$1".toList := by
  have hlast : ∀ c ∈ repeatedKeywords.leadingText.getLast?, isBlank c = false := by
    rintro c ⟨⟩
    decide
  have hread : accessor? repeatedKeywords.leadingText = some (.set, "_x$1".toList) :=
    (accessor_by_words.1 _ .set _).2.2 ⟨hlast, by decide,
      ["get", "set", "getter", "get"].map String.toList, by decide⟩
  have hkind : (ofShape [] repeatedKeywords none).kind ≠ .operator := by decide +kernel
  obtain ⟨hname, haccessor⟩ := accessor_by_words.2 [] repeatedKeywords none hkind
  have hword : (words repeatedKeywords.leadingText).getLast?.getD [] = "_x$1".toList := by decide
  exact ⟨hread, (accessor_by_words.1 _ _ _).1.1 hread, hkind, haccessor _ _ hread,
    hname.trans hword⟩

end MemberOutline.Member
