import MemberOutline.Proofs.Member.KeptWords
import MemberOutline.Proofs.Member.LastWord

/-!
# Type arguments that are kept

A member is classified by the words of its leading text, whether that has its type arguments or not.
`outline_of_keptArguments` says field by field when keeping them makes no difference: for the
modifiers, when none are attached to the first modifier that is not plain; for the name, when none
are attached to the last word; for the kind, when none are attached to the two words of an accessor
and a constructor is still seen. For the last two the word `operator` has to be there with type
arguments exactly if it is there without them.

These conditions do not hold of every declaration: the type parameters of a method are in its name
(`name_of_keptParameter`).
-/

namespace MemberOutline.Member

open Shape (Word operatorWord)
open Text (words)

/-- The words of the leading text of a declaration, with the type arguments attached to them. -/
def leadingWords (t : Text) : List Word := (Shape.Scan.ofText t).leading.collected.words

section

variable (t : Text) (className : Option Text)

/-- The words of a leading text are well formed. -/
theorem allWellFormed_leadingWords : AllWellFormed (leadingWords t) :=
  fun _ hw => (Shape.Scan.attached_ofText t).of_mem_words hw

/-- The words that a member is classified by when type arguments are dropped. -/
theorem words_dropped :
    words (Shape.ofText true t).leadingText = (leadingWords t).map Word.bare :=
  (Shape.Scan.attached_ofText t).words_render_true

/-- The words that a member is classified by when type arguments are kept. -/
theorem words_kept : words (Shape.ofText false t).leadingText = fullWords (leadingWords t) :=
  (Shape.Scan.attached_ofText t).words_render_false

/-- The modifiers that are left when type arguments are kept are the plain ones. -/
theorem modifiers_kept : (ofText false t className).modifiers =
    ((leadingWords t).takeWhile isPlainModifier).map Word.bare := by
  show (words (Shape.ofText false t).leadingText).takeWhile _ = _
  rw [words_kept, takeWhile_fullWords (allWellFormed_leadingWords t)]

/-- The modifiers that there are when type arguments are dropped. -/
theorem modifiers_dropped : (ofText true t className).modifiers =
    ((leadingWords t).map Word.bare).takeWhile modifierWords.contains := by
  show (words (Shape.ofText true t).leadingText).takeWhile _ = _
  rw [words_dropped]

/-- An accessor is found when type arguments are kept exactly if it is found when they are dropped
and none are attached to its two words. -/
theorem accessor?_kept_eq_some_iff {a : Accessor} {name : Text} :
    accessor? (Shape.ofText false t).leadingText = some (a, name) ↔
      accessor? (Shape.ofText true t).leadingText = some (a, name) ∧
        PlainLastTwo (leadingWords t) := by
  have hattached := Shape.Scan.attached_ofText t
  rw [accessor?_eq_some_iff, accessor?_eq_some_iff, ← exists_eq_append_pair_iff,
    ← exists_eq_append_pair_iff, words_kept, words_dropped]
  constructor
  · rintro ⟨-, hname, hpair⟩
    obtain ⟨hbare, hplain⟩ :=
      (exists_pair_fullWords_iff (allWellFormed_leadingWords t) a hname).1 hpair
    exact ⟨⟨hattached.endsSolid_render true, hname, hbare⟩, hplain⟩
  · rintro ⟨⟨-, hname, hbare⟩, hplain⟩
    exact ⟨hattached.endsSolid_render false, hname,
      (exists_pair_fullWords_iff (allWellFormed_leadingWords t) a hname).2 ⟨hbare, hplain⟩⟩

/-- When type arguments are kept, the same accessor is found as when they are dropped, or none if
some are attached to the last two words. -/
theorem accessor?_kept :
    accessor? (Shape.ofText false t).leadingText =
      if PlainLastTwo (leadingWords t) then accessor? (Shape.ofText true t).leadingText
      else none := by
  refine Option.ext fun found => ?_
  rw [accessor?_kept_eq_some_iff]
  split_ifs with hplain
  · exact and_iff_left hplain
  · exact iff_of_false (fun h => hplain h.2) (by simp)

variable {t} {strip : Bool}

/-- A member with the word `operator` is an operator, and its name is not in its leading text. -/
theorem ofText_of_operator (h : operatorWord ∈ words (Shape.ofText strip t).leadingText) :
    (ofText strip t className).kind = .operator ∧
      (ofText strip t className).name = operatorName t := by
  have hpair : kindAndName t (Shape.ofText strip t) (ofText strip t className).modifiers className =
      (.operator, operatorName t) := kindAndName_of_operator h
  exact ⟨congrArg Prod.fst hpair, congrArg Prod.snd hpair⟩

/-- A member without the word `operator` is no operator, and its name is the last word. -/
theorem ofText_of_not_operator (h : operatorWord ∉ words (Shape.ofText strip t).leadingText) :
    (ofText strip t className).kind ≠ .operator ∧ (ofText strip t className).name =
      (words (Shape.ofText strip t).leadingText).getLast?.getD [] := by
  have hkind : (ofText strip t className).kind ≠ .operator := kind_ne_operator h
  exact ⟨hkind, (kindAndName_of_ne_operator hkind).1⟩

/-- A member without the word `operator` whose leading text declares an accessor is that one. -/
theorem kind_ofText_of_accessor {a : Accessor} {name : Text}
    (hnot : operatorWord ∉ words (Shape.ofText strip t).leadingText)
    (h : accessor? (Shape.ofText strip t).leadingText = some (a, name)) :
    (ofText strip t className).kind = a.kind :=
  (kindAndName_of_ne_operator (kind_ne_operator hnot)).2 a name h

/-- A member without the word `operator` and an accessor is a constructor, or its sequence decides
on its kind. -/
theorem kind_ofText_of_neither (hnot : operatorWord ∉ words (Shape.ofText strip t).leadingText)
    (hnone : accessor? (Shape.ofText strip t).leadingText = none) :
    (ofText strip t className).kind =
      if isConstructor (ofText strip t className).modifiers (ofText strip t className).name
          className then .constructor
      else kindOfSequence (Shape.ofText strip t).sequence
        ((words (Shape.ofText strip t).leadingText).getLast?.getD []) := by
  rw [(ofText_of_not_operator className hnot).2]
  exact kind_of_neither hnot hnone

variable (t)

/-- The sequence decides on the same kind when type arguments are kept, since there are words with
them exactly if there are words without them. -/
theorem kindOfSequence_kept :
    kindOfSequence (Shape.ofText false t).sequence
        ((words (Shape.ofText false t).leadingText).getLast?.getD []) =
      kindOfSequence (Shape.ofText true t).sequence
        ((words (Shape.ofText true t).leadingText).getLast?.getD []) := by
  have hnil : (words (Shape.ofText false t).leadingText).getLast?.getD [] = [] ↔
      (words (Shape.ofText true t).leadingText).getLast?.getD [] = [] := by
    rw [lastWord_eq_nil_iff, lastWord_eq_nil_iff, words_kept, words_dropped,
      fullWords_eq_nil_iff (allWellFormed_leadingWords t)]
  unfold kindOfSequence
  simp only [ne_eq, hnil]
  rfl

/-- What is the same for two operators, is not for an operator and another member, and for two other
members is so under a condition, holds of a declaration with its type arguments and without them
exactly if the word `operator` is there both times, or neither time and the condition holds. -/
theorem kept_iff {same condition : Prop}
    (both : operatorWord ∈ words (Shape.ofText false t).leadingText →
      operatorWord ∈ words (Shape.ofText true t).leadingText → same)
    (onlyKept : operatorWord ∈ words (Shape.ofText false t).leadingText →
      operatorWord ∉ words (Shape.ofText true t).leadingText → ¬ same)
    (onlyDropped : operatorWord ∉ words (Shape.ofText false t).leadingText →
      operatorWord ∈ words (Shape.ofText true t).leadingText → ¬ same)
    (neither : operatorWord ∉ words (Shape.ofText false t).leadingText →
      operatorWord ∉ words (Shape.ofText true t).leadingText → (same ↔ condition)) :
    same ↔ SameOperator (leadingWords t) ∧
      (operatorWord ∉ (leadingWords t).map Word.bare → condition) := by
  unfold SameOperator
  rw [← words_kept, ← words_dropped]
  by_cases hkept : operatorWord ∈ words (Shape.ofText false t).leadingText <;>
    by_cases hdropped : operatorWord ∈ words (Shape.ofText true t).leadingText
  · exact iff_of_true (both hkept hdropped)
      ⟨iff_of_true hkept hdropped, fun hnot => absurd hdropped hnot⟩
  · exact iff_of_false (onlyKept hkept hdropped) fun h => hdropped (h.1.1 hkept)
  · exact iff_of_false (onlyDropped hkept hdropped) fun h => hkept (h.1.2 hdropped)
  · rw [neither hkept hdropped]
    exact ⟨fun h => ⟨iff_of_false hkept hdropped, fun _ => h⟩, fun h => h.2 hdropped⟩

/-- The name is the same when type arguments are kept exactly if it is that of an operator both
times, or it is the last word both times and none are attached to that. -/
theorem name_kept_iff :
    (ofText false t className).name = (ofText true t className).name ↔
      SameOperator (leadingWords t) ∧
        (operatorWord ∉ (leadingWords t).map Word.bare → PlainLastWord (leadingWords t)) := by
  refine kept_iff t (fun hkept hdropped => ?_) (fun hkept hdropped => ?_)
    (fun hkept hdropped => ?_) fun hkept hdropped => ?_
  · rw [(ofText_of_operator className hkept).2, (ofText_of_operator className hdropped).2]
  · rw [(ofText_of_operator className hkept).2, (ofText_of_not_operator className hdropped).2]
    exact operatorName_ne_lastWord hdropped t
  · rw [(ofText_of_not_operator className hkept).2, (ofText_of_operator className hdropped).2]
    exact (operatorName_ne_lastWord hkept t).symm
  · rw [(ofText_of_not_operator className hkept).2, (ofText_of_not_operator className hdropped).2,
      words_kept, words_dropped]
    exact getLast?_fullWords_eq_iff (allWellFormed_leadingWords t)

/-- Without the word `operator` the kind is the same when type arguments are kept exactly if an
accessor has none attached to its two words, and if a member that is no accessor constructs the
class both times or neither time. -/
theorem kind_kept_iff_of_not_operator
    (hkept : operatorWord ∉ words (Shape.ofText false t).leadingText)
    (hdropped : operatorWord ∉ words (Shape.ofText true t).leadingText) :
    (ofText false t className).kind = (ofText true t className).kind ↔
      ((accessor? (Shape.ofText true t).leadingText).isSome = true →
          PlainLastTwo (leadingWords t)) ∧
        (accessor? (Shape.ofText true t).leadingText = none →
          isConstructor (ofText false t className).modifiers (ofText false t className).name
              className =
            isConstructor (ofText true t className).modifiers (ofText true t className).name
              className) := by
  have hfound := accessor?_kept t
  cases haccessor : accessor? (Shape.ofText true t).leadingText with
  | some found =>
    obtain ⟨a, name⟩ := found
    rw [haccessor] at hfound
    rw [kind_ofText_of_accessor className hdropped haccessor]
    split_ifs at hfound with hplain
    · exact iff_of_true (kind_ofText_of_accessor className hkept hfound)
        ⟨fun _ => hplain, fun hnone => by cases hnone⟩
    · -- No accessor is found when they are kept, and nothing else makes the kind of one.
      refine iff_of_false (fun h => ?_) fun h => hplain (h.1 rfl)
      rw [kind_ofText_of_neither className hkept hfound] at h
      split_ifs at h
      · cases a <;> cases h
      · exact (kindOfSequence_ne _ _).2 a h
  | none =>
    rw [haccessor, ite_self] at hfound
    rw [kind_ofText_of_neither className hkept hfound,
      kind_ofText_of_neither className hdropped haccessor, kindOfSequence_kept]
    obtain ⟨hother, -⟩ := kindOfSequence_ne (Shape.ofText true t).sequence
      ((words (Shape.ofText true t).leadingText).getLast?.getD [])
    generalize isConstructor (ofText false t className).modifiers _ className = constructs
    generalize isConstructor (ofText true t className).modifiers _ className = constructs'
    cases constructs <;> cases constructs' <;> simp [hother, hother.symm]

/-- The kind is the same when type arguments are kept exactly if it is that of an operator both
times, or none are attached to the two words of an accessor and a member that is no accessor
constructs the class both times or neither time. -/
theorem kind_kept_iff :
    (ofText false t className).kind = (ofText true t className).kind ↔
      SameOperator (leadingWords t) ∧
        (operatorWord ∉ (leadingWords t).map Word.bare →
          ((accessor? (Shape.ofText true t).leadingText).isSome = true →
              PlainLastTwo (leadingWords t)) ∧
            (accessor? (Shape.ofText true t).leadingText = none →
              isConstructor (ofText false t className).modifiers (ofText false t className).name
                  className =
                isConstructor (ofText true t className).modifiers (ofText true t className).name
                  className)) := by
  refine kept_iff t (fun hkept hdropped => ?_) (fun hkept hdropped => ?_)
    (fun hkept hdropped => ?_) (kind_kept_iff_of_not_operator t className)
  · rw [(ofText_of_operator className hkept).1, (ofText_of_operator className hdropped).1]
  · rw [(ofText_of_operator className hkept).1]
    exact (ofText_of_not_operator className hdropped).1.symm
  · rw [(ofText_of_operator className hdropped).1]
    exact (ofText_of_not_operator className hkept).1

end

/-- Type arguments that are kept never change the sequence. Beyond that,

* the modifiers are the same exactly if no type arguments are attached to the first modifier that is
  not plain, and whether `static` is one of them exactly if it is a plain one or none;
* the name is the same exactly if it is that of an operator both times, or the last word both times
  and no type arguments are attached to that;
* the kind is the same exactly if it is that of an operator both times, or no type arguments are
  attached to the two words of an accessor, and what is no accessor constructs the class both times
  or neither time;
* whether there is a body is the same if the member is a field both times or neither time. -/
theorem outline_of_keptArguments (t : Text) (className : Option Text) :
    (ofText false t className).shape.sequence = (ofText true t className).shape.sequence ∧
      ((ofText false t className).modifiers = (ofText true t className).modifiers ↔
        PlainModifiers (leadingWords t)) ∧
      ((ofText false t className).isStatic = (ofText true t className).isStatic ↔
        ((ofText true t className).isStatic = true →
          "static".toList ∈ ((leadingWords t).takeWhile isPlainModifier).map Word.bare)) ∧
      ((ofText false t className).name = (ofText true t className).name ↔
        SameOperator (leadingWords t) ∧
          (operatorWord ∉ (leadingWords t).map Word.bare → PlainLastWord (leadingWords t))) ∧
      ((ofText false t className).kind = (ofText true t className).kind ↔
        SameOperator (leadingWords t) ∧
          (operatorWord ∉ (leadingWords t).map Word.bare →
            ((accessor? (Shape.ofText true t).leadingText).isSome = true →
                PlainLastTwo (leadingWords t)) ∧
              (accessor? (Shape.ofText true t).leadingText = none →
                isConstructor (ofText false t className).modifiers (ofText false t className).name
                    className =
                  isConstructor (ofText true t className).modifiers (ofText true t className).name
                    className))) ∧
      (((ofText false t className).kind = .field ↔ (ofText true t className).kind = .field) →
        (ofText false t className).hasBody = (ofText true t className).hasBody) := by
  refine ⟨rfl, ?_, ?_, name_kept_iff t className, kind_kept_iff t className, fun hfield => ?_⟩
  · rw [modifiers_kept, modifiers_dropped]
    exact takeWhile_plain_eq_iff
  · have hstatic (strip : Bool) : (ofText strip t className).isStatic = true ↔
        "static".toList ∈ (ofText strip t className).modifiers := List.contains_iff_mem
    rw [Bool.eq_iff_iff, hstatic, hstatic, modifiers_kept, modifiers_dropped]
    exact ⟨Iff.mpr, fun h => ⟨mem_takeWhile_of_plain, h⟩⟩
  · exact bodyOf_congr hfield (Shape.ofText true t).sequence

/-- A getter of a nullable type with nested type arguments. -/
def staticGetter : Text := "static Map<String, List<int>>? get items => _items;".toList

/-- A generic method. -/
def staticWrap : Text := "static T wrap<T>() \x7b\x7d".toList

/-- The type arguments of a static getter make no difference when they are kept. Those of a static
method change its name and nothing else. -/
theorem outline_of_keptArguments_static :
    ((ofText false staticGetter none).kind = (ofText true staticGetter none).kind ∧
        (ofText false staticGetter none).name = (ofText true staticGetter none).name ∧
        (ofText false staticGetter none).modifiers = (ofText true staticGetter none).modifiers ∧
        (ofText false staticGetter none).isStatic = (ofText true staticGetter none).isStatic ∧
        (ofText false staticGetter none).hasBody = (ofText true staticGetter none).hasBody) ∧
      (ofText false staticWrap none).kind = (ofText true staticWrap none).kind ∧
      (ofText false staticWrap none).name ≠ (ofText true staticWrap none).name ∧
      (ofText false staticWrap none).modifiers = (ofText true staticWrap none).modifiers ∧
      (ofText false staticWrap none).isStatic = (ofText true staticWrap none).isStatic ∧
      (ofText false staticWrap none).hasBody = (ofText true staticWrap none).hasBody := by
  obtain ⟨-, hmodifiers, hstatic, hname, hkind, hbody⟩ := outline_of_keptArguments staticGetter none
  obtain ⟨-, hmodifiers', hstatic', hname', hkind', hbody'⟩ :=
    outline_of_keptArguments staticWrap none
  have samekind := hkind.2 ⟨by decide, fun _ => ⟨fun _ => by decide, fun h => by cases h⟩⟩
  have samekind' := hkind'.2 ⟨by decide, fun _ => ⟨(fun h => by cases h), fun _ => by decide⟩⟩
  refine ⟨⟨samekind, hname.2 ⟨by decide, fun _ => by decide⟩, hmodifiers.2 (by decide),
      hstatic.2 fun _ => by decide, hbody (by rw [samekind])⟩,
    samekind', fun hsame => ?_, hmodifiers'.2 (by decide), hstatic'.2 fun _ => by decide,
    hbody' (by rw [samekind'])⟩
  exact absurd ((hname'.1 hsame).2 (by decide)) (by decide)

/-- When type arguments are kept, the type parameter of a method is in its name, or only a part of
it is if there are blanks in it, and a constructor with a type parameter is taken for a method. When
they are dropped, none of this is so. -/
theorem name_of_keptParameter :
    (ofText false "T wrap<T>() \x7b\x7d".toList none).name = "wrap<T>".toList ∧
      (ofText true "T wrap<T>() \x7b\x7d".toList none).name = "wrap".toList ∧
      (ofText false "Map<K, V> foo<K, V>() \x7b\x7d".toList none).name = "V>".toList ∧
      (ofText true "Map<K, V> foo<K, V>() \x7b\x7d".toList none).name = "foo".toList ∧
      (ofText false "Box<T>(this.x);".toList (some "Box".toList)).kind = .method ∧
      (ofText true "Box<T>(this.x);".toList (some "Box".toList)).kind = .constructor := by
  decide

end MemberOutline.Member
