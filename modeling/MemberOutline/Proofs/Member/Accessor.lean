import MemberOutline.Member.Keyword
import MemberOutline.Proofs.Shape.Silence
import MemberOutline.Proofs.Text.Words

/-!
# Accessors by their words

A text declares an accessor where it ends in `get` or `set`, blanks and a name (`Declares`). In the
words of the text this says that the last one is a name and the one before it a keyword
(`accessor?_eq_some_iff`), so of several keywords only the last counts.
-/

namespace MemberOutline.Member

open Text (isBlank words)

/-- The word for an accessor. -/
def Accessor.keyword : Accessor → Text
  | .get => "get".toList
  | .set => "set".toList

variable {t name : Text} {a : Accessor}

/-! ## Names -/

/-- A blank belongs to no name. -/
theorem not_isBlank_of_isName (h : isName name = true) : ∀ c ∈ name, isBlank c = false := by
  cases name with
  | nil => simp
  | cons first rest =>
    simp only [isName, Bool.and_eq_true, List.all_eq_true, Bool.or_eq_true, decide_eq_true_eq] at h
    intro c hc
    by_contra hblank
    rw [Bool.not_eq_false] at hblank
    rcases List.mem_cons.1 hc with rfl | hc
    · have hnot : isNameStart c = false :=
        Shape.of_isBlank (P := fun c => isNameStart c = false) (by decide +kernel) hblank
      rw [hnot] at h
      exact Bool.false_ne_true h.1
    · have hnot : ¬ (Text.isWordChar c = true ∨ c = '$') :=
        Shape.of_isBlank (P := fun c => ¬ (Text.isWordChar c = true ∨ c = '$'))
          (by decide +kernel) hblank
      exact hnot (h.2 c hc)

/-- A name is not empty. -/
theorem ne_nil_of_isName (h : isName name = true) : name ≠ [] := by
  rintro rfl
  cases h

/-- What is left of a text without the blanks at its start, where these come before a name. -/
theorem nameAfterBlanks?_eq_some_iff : nameAfterBlanks? t = some name ↔
    isName name = true ∧ ∃ gap, gap ≠ [] ∧ (∀ c ∈ gap, isBlank c = true) ∧ t = gap ++ name := by
  constructor
  · intro h
    cases t with
    | nil => cases h
    | cons b rest =>
      simp only [nameAfterBlanks?, Option.ite_none_right_eq_some, Option.some.injEq,
        Bool.and_eq_true] at h
      obtain ⟨⟨hb, hname⟩, rfl⟩ := h
      refine ⟨hname, b :: rest.takeWhile isBlank, List.cons_ne_nil _ _, ?_, ?_⟩
      · intro c hc
        rcases List.mem_cons.1 hc with rfl | hc
        · exact hb
        · exact List.mem_takeWhile_imp hc
      · rw [List.cons_append, List.takeWhile_append_dropWhile]
  · rintro ⟨hname, gap, hne, hgap, rfl⟩
    cases gap with
    | nil => contradiction
    | cons b gap =>
      -- The name does not start with a blank, so only those before it come off.
      have hdrop : (gap ++ name).dropWhile isBlank = name := by
        rw [List.dropWhile_append_of_pos fun c hc => hgap c (by simp [hc])]
        cases name with
        | nil => cases hname
        | cons first rest =>
          rw [List.dropWhile_cons_of_neg]
          rw [not_isBlank_of_isName hname first (by simp)]
          exact Bool.false_ne_true
      simp [nameAfterBlanks?, hdrop, hname, hgap b (by simp)]

/-! ## Where a text declares an accessor -/

/-- A text consists of the keyword of an accessor, blanks and a name. -/
def DeclaresHere (a : Accessor) (name t : Text) : Prop :=
  isName name = true ∧ ∃ gap, gap ≠ [] ∧ (∀ c ∈ gap, isBlank c = true) ∧
    t = a.keyword ++ (gap ++ name)

/-- A text declares an accessor: it ends in the keyword, blanks and a name, and what comes before
that is empty or ends in a blank. -/
def Declares (a : Accessor) (name t : Text) : Prop :=
  ∃ front here, DeclaresHere a name here ∧ (∀ c ∈ front.getLast?, isBlank c = true) ∧
    t = front ++ here

/-- The accessor that is read at the start of a text. -/
theorem accessorHere?_eq_some_iff :
    accessorHere? t = some (a, name) ↔ DeclaresHere a name t := by
  unfold DeclaresHere
  constructor
  · intro h
    unfold accessorHere? at h
    split at h
    next rest =>
      obtain ⟨n, hn, hpair⟩ := Option.map_eq_some_iff.1 h
      cases hpair
      obtain ⟨hname, gap, hne, hgap, rfl⟩ := nameAfterBlanks?_eq_some_iff.1 hn
      exact ⟨hname, gap, hne, hgap, rfl⟩
    next rest =>
      obtain ⟨n, hn, hpair⟩ := Option.map_eq_some_iff.1 h
      cases hpair
      obtain ⟨hname, gap, hne, hgap, rfl⟩ := nameAfterBlanks?_eq_some_iff.1 hn
      exact ⟨hname, gap, hne, hgap, rfl⟩
    next => cases h
  · rintro ⟨hname, gap, hne, hgap, rfl⟩
    have hn := nameAfterBlanks?_eq_some_iff.2 ⟨hname, gap, hne, hgap, rfl⟩
    cases a <;> simp [Accessor.keyword, accessorHere?, hn]

/-- An accessor that is read after a blank of a text is declared at the end of the text. -/
theorem of_accessorAfterBlank? (h : accessorAfterBlank? t = some (a, name)) :
    ∃ front b here, DeclaresHere a name here ∧ isBlank b = true ∧ t = front ++ b :: here := by
  induction t with
  | nil => cases h
  | cons c rest ih =>
    have hlater (h : accessorAfterBlank? rest = some (a, name)) :
        ∃ front b here, DeclaresHere a name here ∧ isBlank b = true ∧
          c :: rest = front ++ b :: here := by
      obtain ⟨front, b, here, hhere, hb, rfl⟩ := ih h
      exact ⟨c :: front, b, here, hhere, hb, rfl⟩
    unfold accessorAfterBlank? at h
    split_ifs at h with hc
    · rcases Option.or_eq_some_iff.1 h with hhere | ⟨-, h⟩
      · exact ⟨[], c, rest, accessorHere?_eq_some_iff.1 hhere, hc, rfl⟩
      · exact hlater h
    · exact hlater h

/-- If an accessor is declared after a blank of a text, one is read after a blank. -/
theorem isSome_accessorAfterBlank? {here : Text} {b : Char} (h : DeclaresHere a name here)
    (hb : isBlank b = true) (front : Text) :
    (accessorAfterBlank? (front ++ b :: here)).isSome = true := by
  induction front with
  | nil =>
    rw [List.nil_append, accessorAfterBlank?, if_pos hb, accessorHere?_eq_some_iff.2 h]
    rfl
  | cons c front ih =>
    rw [List.cons_append, accessorAfterBlank?]
    split_ifs
    · rw [Option.isSome_or, ih, Bool.or_true]
    · exact ih

/-- An accessor that is read is declared. -/
theorem declares_of_accessor? (h : accessor? t = some (a, name)) : Declares a name t := by
  rcases Option.or_eq_some_iff.1 h with hhere | ⟨-, hlater⟩
  · exact ⟨[], t, accessorHere?_eq_some_iff.1 hhere, by simp, rfl⟩
  · obtain ⟨front, b, here, hhere, hb, rfl⟩ := of_accessorAfterBlank? hlater
    exact ⟨front ++ [b], here, hhere, by simpa using hb, by simp⟩

/-- If a text declares an accessor, one is read: of several the first. -/
theorem isSome_accessor? (h : Declares a name t) : (accessor? t).isSome = true := by
  obtain ⟨front, here, hhere, hfront, rfl⟩ := h
  rw [accessor?, Option.isSome_or]
  rcases List.eq_nil_or_concat front with rfl | ⟨front, b, rfl⟩
  · rw [List.nil_append, accessorHere?_eq_some_iff.2 hhere]
    rfl
  · rw [List.concat_eq_append, List.append_assoc, List.singleton_append,
      isSome_accessorAfterBlank? hhere (hfront b (by simp)), Bool.or_true]

/-! ## By its words -/

/-- A keyword is a word. -/
theorem Accessor.keyword_isWord (a : Accessor) :
    a.keyword ≠ [] ∧ ∀ c ∈ a.keyword, isBlank c = false := by
  have hall : (a.keyword.all fun c => !isBlank c) = true := by cases a <;> decide
  refine ⟨by cases a <;> decide, fun c hc => ?_⟩
  have hc := List.all_eq_true.1 hall c hc
  rwa [Bool.not_eq_true'] at hc

/-- A text declares an accessor exactly if it does not end in a blank and its last two words are a
keyword and a name. -/
theorem declares_iff : Declares a name t ↔
    (∀ c ∈ t.getLast?, isBlank c = false) ∧ isName name = true ∧
      (words t).getLast? = some name ∧ (words t).dropLast.getLast? = some a.keyword := by
  obtain ⟨hkeyword, hsolid⟩ := a.keyword_isWord
  constructor
  · rintro ⟨front, here, ⟨hname, gap, hgap, hblank, rfl⟩, hfront, rfl⟩
    have hname' := ne_nil_of_isName hname
    have hgaps : ∀ c ∈ (front ++ (a.keyword ++ gap)).getLast?, isBlank c = true := by
      rw [← List.append_assoc, List.getLast?_append_of_ne_nil _ hgap]
      exact fun c hc => hblank c (List.mem_of_getLast? hc)
    have hwords : words (front ++ (a.keyword ++ (gap ++ name))) =
        (words front ++ [a.keyword]) ++ [name] := by
      rw [← List.append_assoc a.keyword, ← List.append_assoc front,
        Text.words_append_word hgaps hname' (not_isBlank_of_isName hname),
        ← List.append_assoc front, Text.words_append_gap hblank,
        Text.words_append_word hfront hkeyword hsolid]
    refine ⟨?_, hname, ?_, ?_⟩
    · rw [← List.append_assoc a.keyword, ← List.append_assoc front,
        List.getLast?_append_of_ne_nil _ hname']
      exact fun c hc => not_isBlank_of_isName hname c (List.mem_of_getLast? hc)
    · rw [hwords, List.getLast?_concat]
    · rw [hwords, List.dropLast_concat, List.getLast?_concat]
  · rintro ⟨hend, hname, hlast, hbefore⟩
    -- The last word comes off, then the blanks before it, and then the keyword.
    obtain rfl | ⟨front, w, rfl, hfront, hw, hwsolid⟩ := Text.exists_word_at_end hend
    · cases hlast
    rw [Text.words_append_word hfront hw hwsolid, List.getLast?_concat, Option.some.injEq] at hlast
    rw [Text.words_append_word hfront hw hwsolid, List.dropLast_concat] at hbefore
    subst hlast
    obtain ⟨body, gap, rfl, hbody, hgap⟩ := Text.exists_gap_at_end front
    rw [Text.words_append_gap hgap] at hbefore
    obtain rfl | ⟨front, k, rfl, hfront', hk, hksolid⟩ := Text.exists_word_at_end hbody
    · cases hbefore
    rw [Text.words_append_word hfront' hk hksolid, List.getLast?_concat,
      Option.some.injEq] at hbefore
    subst hbefore
    refine ⟨front, _, ⟨hname, gap, ?_, hgap, rfl⟩, hfront', by simp⟩
    -- Without blanks between them the two would be one word.
    rintro rfl
    rw [List.append_nil, List.getLast?_append_of_ne_nil _ hk,
      List.getLast?_eq_some_getLast hk] at hfront
    have hblank := hfront _ rfl
    rw [hksolid _ (List.getLast_mem hk)] at hblank
    cases hblank

/-- A text declares an accessor, as the search finds it, exactly if it does not end in a blank and
its last two words are the keyword and the name. -/
theorem accessor?_eq_some_iff : accessor? t = some (a, name) ↔
    (∀ c ∈ t.getLast?, isBlank c = false) ∧ isName name = true ∧
      (words t).getLast? = some name ∧ (words t).dropLast.getLast? = some a.keyword := by
  rw [← declares_iff]
  refine ⟨declares_of_accessor?, fun h => ?_⟩
  -- The accessor that is read has the same last two words.
  obtain ⟨⟨a', name'⟩, hread⟩ := Option.isSome_iff_exists.1 (isSome_accessor? h)
  obtain ⟨-, -, hlast, hbefore⟩ := declares_iff.1 h
  obtain ⟨-, -, hlast', hbefore'⟩ := declares_iff.1 (declares_of_accessor? hread)
  have hname : name' = name := Option.some.inj (hlast'.symm.trans hlast)
  have hkeyword : a'.keyword = a.keyword := Option.some.inj (hbefore'.symm.trans hbefore)
  have ha : a' = a := by cases a <;> cases a' <;> first | rfl | cases hkeyword
  rw [hread, ha, hname]

end MemberOutline.Member
