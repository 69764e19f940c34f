import MemberOutline.Proofs.Member.Trimming
import MemberOutline.Proofs.Shape.Plain

/-!
# Declarations of operators

An operator is declared by a header of words, the word `operator` and a symbol (`Header`,
`operatorSymbols`). Up to the first token of the symbol all of it stands for itself, so the words of
the leading text are those before that token. The member is an operator if the word `operator` is
one of them: if blanks or a token follow it (`operator_of_header`). Its name is found where the word
`operator` first begins in the declaration, also within a word of the header.
-/

namespace MemberOutline.Member

open Shape (operatorWord boundaries markChars opensArguments endingWord)
open Text (isBlank isIdentifierChar isWordChar words)

/-- The symbols of the operators that can be declared. -/
def operatorSymbols : List Text :=
  ["==", "<", ">", "<=", ">=", "+", "-", "*", "/", "~/", "%", "|", "&", "^", "~", "<<", ">>",
    ">>>", "[]", "[]="].map String.toList

/-- The symbols of operators that begin with a token. -/
def tokenSymbols : List Text := ["==", "[]", "[]="].map String.toList

/-- Whether a character may stand before the word `operator`: one of an identifier, a blank, a
question mark or a point. -/
def isHeaderChar (c : Char) : Bool :=
  isIdentifierChar c || isBlank c || ['?', '.'].contains c

/-- What may stand before the word `operator` in a declaration: modifiers and a type, each with a
blank after it. -/
structure Header (h : Text) : Prop where
  /-- It consists of identifiers, blanks, question marks and points. -/
  chars : ∀ c ∈ h, isHeaderChar c = true
  /-- It ends in a blank, if it is not empty. -/
  last : ∀ c ∈ h.getLast?, isBlank c = true
  /-- No word of it begins with `operator`. -/
  words : ∀ u ∈ Text.words h, ¬ operatorWord <+: u

instance (h : Text) : Decidable (Header h) :=
  decidable_of_iff (h.all isHeaderChar = true ∧ h.getLast?.all isBlank = true ∧
      ∀ u ∈ Text.words h, ¬ operatorWord <+: u)
    ⟨fun ⟨chars, last, words⟩ =>
        ⟨List.all_eq_true.1 chars, Option.all_eq_true _ _ |>.1 last, words⟩,
      fun ⟨chars, last, words⟩ =>
        ⟨List.all_eq_true.2 chars, Option.all_eq_true _ _ |>.2 last, words⟩⟩

/-- The declaration of an operator: a header, the word `operator`, blanks or none, a symbol, and the
bracket before its parameters with all that follows. -/
def operatorDeclaration (h w S rest : Text) : Text :=
  h ++ (operatorWord ++ (w ++ (S ++ '(' :: rest)))

/-- The word `operator` begins between two parts of a text, and no word goes on there. -/
def WordBegins (a b : Text) : Prop := a.getLast?.any isWordChar = false ∧ operatorWord <+: b

/-- The word `operator` begins somewhere in a text. -/
def MentionsOperator (t : Text) : Prop := ∃ a b, t = a ++ b ∧ WordBegins a b

variable {h w S t : Text} {c : Char}

instance (a b : Text) : Decidable (WordBegins a b) := inferInstanceAs (Decidable (_ ∧ _))

/-- Whether a text mentions the word `operator` is found out by looking at each of its places. -/
theorem mentionsOperator_iff :
    MentionsOperator t ↔ ∃ n ∈ List.range (t.length + 1), WordBegins (t.take n) (t.drop n) := by
  constructor
  · rintro ⟨a, b, rfl, hbegins⟩
    have hlength : a.length < (a ++ b).length + 1 := by
      rw [List.length_append]
      omega
    refine ⟨a.length, List.mem_range.2 hlength, ?_⟩
    rwa [List.take_left, List.drop_left]
  · rintro ⟨n, -, hbegins⟩
    exact ⟨t.take n, t.drop n, (List.take_append_drop n t).symm, hbegins⟩

instance (t : Text) : Decidable (MentionsOperator t) := decidable_of_iff _ mentionsOperator_iff.symm

/-! ## The symbols -/

/-- Whether a character goes on with the leading text in the declaration of an operator, that is
begins neither a token of its symbol nor its parameters. -/
def goesOn (c : Char) : Bool := c ∉ ['=', '[', '(']

/-- What a leading text shows of a symbol: its characters before the first token. -/
def shownSymbol (S : Text) : Text := (S ++ ['(']).takeWhile goesOn

/-- What is shown of a symbol are signs that stand for themselves, with a slash only at their
end. -/
theorem shownSymbol_signs (hS : S ∈ operatorSymbols) :
    (∀ c ∈ shownSymbol S, c ∉ markChars ∧ isBlank c = false ∧ isIdentifierChar c = false) ∧
      '/' ∉ (shownSymbol S).dropLast := by
  have hall : ∀ S ∈ operatorSymbols, ((shownSymbol S).all fun c =>
      c ∉ markChars ∧ isBlank c = false ∧ isIdentifierChar c = false) = true ∧
        '/' ∉ (shownSymbol S).dropLast := by decide
  obtain ⟨hsigns, hslash⟩ := hall S hS
  exact ⟨fun c hc => of_decide_eq_true (List.all_eq_true.1 hsigns c hc), hslash⟩

/-- Nothing is shown of the symbols that begin with a token. -/
theorem shownSymbol_eq_nil_iff (hS : S ∈ operatorSymbols) :
    shownSymbol S = [] ↔ S ∈ tokenSymbols := by
  revert S
  decide

/-- A symbol has no blank and no round bracket in it, and no header goes on with it. -/
theorem symbol_signs (hS : S ∈ operatorSymbols) :
    S ≠ [] ∧ (∀ c ∈ S, (!isBlank c && c ≠ '(') = true) ∧ S.head?.any isHeaderChar = false := by
  have hall : ∀ S ∈ operatorSymbols, S ≠ [] ∧ (S.all fun c => !isBlank c && c ≠ '(') = true ∧
      S.head?.any isHeaderChar = false := by decide
  obtain ⟨hne, hsigns, hhead⟩ := hall S hS
  exact ⟨hne, List.all_eq_true.1 hsigns, hhead⟩

/-- After what is shown of a symbol comes a boundary. -/
theorem exists_boundary (S : Text) :
    ∃ d back, S ++ ['('] = shownSymbol S ++ d :: back ∧ [d] ∈ boundaries ∧ d ≠ '/' ∧ d ≠ '*' := by
  have hsplit := List.takeWhile_append_dropWhile (p := goesOn) (l := S ++ ['('])
  cases hback : (S ++ ['(']).dropWhile goesOn with
  | nil =>
    -- The bracket is there at the latest.
    have hall := List.dropWhile_eq_nil_iff.1 hback '(' (by simp)
    cases hall
  | cons d back =>
    have hstops : goesOn d = false := by
      have hhead := List.head?_dropWhile_not goesOn (S ++ ['('])
      rw [hback] at hhead
      exact hhead
    rw [hback] at hsplit
    refine ⟨d, back, hsplit.symm, ?_⟩
    have hd : d = '=' ∨ d = '[' ∨ d = '(' := by
      simpa [goesOn, or_iff_not_imp_left] using hstops
    rcases hd with rfl | rfl | rfl <;> decide

/-! ## The leading text -/

/-- A character of a header stands for itself. -/
theorem ne_of_isHeaderChar (hc : isHeaderChar c = true) : c ∉ markChars ∧ c ≠ '/' ∧ c ≠ '<' := by
  have hnone : (markChars ++ ['/', '<']).all (!isHeaderChar ·) = true := by decide
  have hnot : c ∉ markChars ++ ['/', '<'] := by
    intro hmem
    have hother := List.all_eq_true.1 hnone c hmem
    rw [hc] at hother
    cases hother
  simpa [not_or] using hnot

/-- The characters of the word `operator` and of blanks may stand in a header. -/
theorem isHeaderChar_of_mem (header : Header h) (hw : ∀ c ∈ w, isBlank c = true)
    (hc : c ∈ h ++ (operatorWord ++ w)) : isHeaderChar c = true := by
  have hword : operatorWord.all isHeaderChar = true := by decide
  rcases List.mem_append.1 hc with hc | hc
  · exact header.chars c hc
  · rcases List.mem_append.1 hc with hc | hc
    · exact List.all_eq_true.1 hword c hc
    · unfold isHeaderChar
      rw [hw c hc, Bool.or_true, Bool.true_or]

/-- A character that is not in the first part of a text is in the second. -/
theorem exists_of_not_mem {u v a b : Text} (hsplit : u ++ v = a ++ c :: b) (hc : c ∉ u) :
    ∃ a', a = u ++ a' ∧ v = a' ++ c :: b := by
  rcases List.append_eq_append_iff.1 hsplit with ⟨a', ha, hv⟩ | ⟨u', hu, hrest⟩
  · exact ⟨a', ha, hv⟩
  · cases u' with
    | nil => exact ⟨[], by simpa using hu.symm, hrest.symm⟩
    | cons d u' =>
      obtain ⟨rfl, -⟩ := List.cons.inj hrest
      exact absurd (by simp [hu]) hc

/-- No type arguments open where no identifier ends. -/
theorem opensArguments_of_last (ht : t.getLast?.any isIdentifierChar = false) :
    opensArguments t.reverse = false := by
  have hword : t.reverse.takeWhile isIdentifierChar = [] := by
    apply Shape.Scan.takeWhile_of_head?
    rwa [List.head?_reverse]
  simp [opensArguments, endingWord, hword]

/-- No type arguments open after the word `operator`, whether blanks follow it or not. -/
theorem opensArguments_after_operatorWord (header : Header h) (hw : ∀ c ∈ w, isBlank c = true) :
    opensArguments (h ++ (operatorWord ++ w)).reverse = false := by
  have hblank {t : Text} (ht : ∀ c ∈ t.getLast?, isBlank c = true) :
      t.getLast?.any isIdentifierChar = false := by
    rw [Option.any_eq_false]
    exact fun c hc => Shape.not_isIdentifierChar_of_isBlank (ht c hc)
  by_cases hnil : w = []
  · -- The identifier that ends there is the word itself.
    have hbefore : h.reverse.takeWhile isIdentifierChar = [] := by
      apply Shape.Scan.takeWhile_of_head?
      rw [List.head?_reverse]
      exact hblank header.last
    have hword : operatorWord.reverse.takeWhile isIdentifierChar = operatorWord.reverse := by
      decide
    have hending : endingWord (h ++ (operatorWord ++ w)).reverse = operatorWord := by
      unfold endingWord
      rw [hnil, List.append_nil, List.reverse_append, List.takeWhile_append, hword, if_pos rfl,
        hbefore, List.append_nil, List.reverse_reverse]
    unfold opensArguments
    rw [hending]
    decide
  · apply opensArguments_of_last
    rw [← List.append_assoc, List.getLast?_append_of_ne_nil _ hnil]
    exact hblank fun c hc => hw c (List.mem_of_mem_getLast? hc)

/-- The declaration of an operator stands for itself before the first token of the symbol. -/
theorem plain_declaration (header : Header h) (hw : ∀ c ∈ w, isBlank c = true)
    (hS : S ∈ operatorSymbols) {d : Char} (hd : [d] ∈ boundaries) (hslash : d ≠ '/' ∧ d ≠ '*')
    (rest : Text) :
    Shape.Plain (h ++ (operatorWord ++ w) ++ shownSymbol S) (d :: rest) := by
  obtain ⟨hsigns, hlast⟩ := shownSymbol_signs hS
  have hplain {c : Char} (hc : c ∈ h ++ (operatorWord ++ w)) :=
    ne_of_isHeaderChar (isHeaderChar_of_mem header hw hc)
  constructor
  case unmarked =>
    intro c hc
    rcases List.mem_append.1 hc with hc | hc
    · exact (hplain hc).1
    · exact (hsigns c hc).1
  case slash =>
    intro a b hsplit e he
    obtain ⟨a', -, hshown⟩ := exists_of_not_mem hsplit fun hc => (hplain hc).2.1 rfl
    -- The slash is the last sign, so the boundary comes next.
    obtain rfl : b = [] := by
      by_contra hne
      apply hlast
      rw [hshown, List.dropLast_append_of_ne_nil (List.cons_ne_nil '/' b),
        List.dropLast_cons_of_ne_nil hne]
      simp
    obtain rfl : d = e := Option.some.inj he
    exact hslash
  case angle =>
    intro a b hsplit
    obtain ⟨a', rfl, hshown⟩ := exists_of_not_mem hsplit fun hc => (hplain hc).2.2 rfl
    by_cases hnil : a' = []
    · rw [hnil, List.append_nil]
      exact opensArguments_after_operatorWord header hw
    · apply opensArguments_of_last
      rw [List.getLast?_append_of_ne_nil _ hnil, Option.any_eq_false]
      intro c hc
      exact (hsigns c (by rw [hshown]; simp [List.mem_of_mem_getLast? hc])).2.2
  case quoteless =>
    intro c hc
    obtain rfl : d = c := Option.some.inj hc
    intro hquote
    have hboundaries : ['\x27', '\x22'].all ([·] ∉ boundaries) = true := by decide
    exact of_decide_eq_true (List.all_eq_true.1 hboundaries d hquote) hd

/-! ## The words -/

/-- No blank is in the word `operator`. -/
theorem not_isBlank_of_mem_operatorWord (hc : c ∈ operatorWord) : isBlank c = false := by
  have hall : operatorWord.all (!isBlank ·) = true := by decide
  simpa using List.all_eq_true.1 hall c hc

/-- In the declaration of an operator up to its symbol `operator` is a word exactly if blanks or a
token follow it. -/
theorem operatorWord_mem_words_iff (header : Header h) (hw : ∀ c ∈ w, isBlank c = true)
    (hS : S ∈ operatorSymbols) :
    operatorWord ∈ words (h ++ (operatorWord ++ w) ++ shownSymbol S) ↔
      w ≠ [] ∨ S ∈ tokenSymbols := by
  have hne : operatorWord ≠ [] := by decide
  cases w with
  | nil =>
    -- The word goes on with the signs that are shown.
    have hwords : words (h ++ (operatorWord ++ []) ++ shownSymbol S) =
        words h ++ [operatorWord ++ shownSymbol S] := by
      rw [List.append_nil, List.append_assoc]
      refine Text.words_append_word header.last (by simp [hne]) fun c hc => ?_
      rcases List.mem_append.1 hc with hc | hc
      · exact not_isBlank_of_mem_operatorWord hc
      · exact ((shownSymbol_signs hS).1 c hc).2.1
    have hnot : operatorWord ∉ words h := fun hmem => header.words _ hmem List.prefix_rfl
    rw [hwords, List.mem_append, or_iff_right hnot, List.mem_singleton, List.self_eq_append_right,
      shownSymbol_eq_nil_iff hS]
    simp only [ne_eq, not_true, false_or]
  | cons b w =>
    have hmem : operatorWord ∈ words (h ++ (operatorWord ++ b :: w) ++ shownSymbol S) := by
      rw [Text.words_eq_runs, Text.mem_runs_iff]
      refine ⟨hne, fun c hc => not_isBlank_of_mem_operatorWord hc, h, b :: w ++ shownSymbol S,
        by simp, header.last, fun c hc => ?_⟩
      obtain rfl : b = c := Option.some.inj hc
      exact hw b List.mem_cons_self
    exact iff_of_true hmem (.inl (List.cons_ne_nil b w))

/-! ## The name -/

/-- The symbol after the word `operator` at the beginning of a text. -/
theorem operatorSymbolHere?_append (rest : Text) {u : Text} (hu : u ≠ [])
    (hsymbol : ((Text.trimStart rest).takeWhile fun c => !isBlank c && c ≠ '(') = u) :
    operatorSymbolHere? (operatorWord ++ rest) = some u := by
  have hprefix : operatorWord.isPrefixOf (operatorWord ++ rest) = true :=
    List.isPrefixOf_iff_prefix.2 (List.prefix_append _ _)
  unfold operatorSymbolHere? Text.after?
  rw [if_pos hprefix, List.drop_left]
  simp only [hsymbol, if_neg hu]

/-- No symbol is read where a text does not begin with the word `operator`. -/
theorem operatorSymbolHere?_of_not (ht : ¬ operatorWord <+: t) : operatorSymbolHere? t = none := by
  have hprefix : ¬ operatorWord.isPrefixOf t = true := fun h => ht (List.isPrefixOf_iff_prefix.1 h)
  unfold operatorSymbolHere? Text.after?
  rw [if_neg hprefix]

/-- The symbol after the word `operator` is found where the search comes to that word. -/
theorem operatorSymbolFrom?_symbol (hw : ∀ c ∈ w, isBlank c = true) (hS : S ∈ operatorSymbols)
    (rest : Text) :
    operatorSymbolFrom? false (operatorWord ++ (w ++ (S ++ '(' :: rest))) = some S := by
  obtain ⟨hne, hsigns, -⟩ := symbol_signs hS
  obtain ⟨c, S', rfl⟩ := List.exists_cons_of_ne_nil hne
  have hblank : isBlank c = false := by
    have hc := hsigns c List.mem_cons_self
    simp only [Bool.and_eq_true, Bool.not_eq_true'] at hc
    exact hc.1
  have htrim : Text.trimStart (w ++ (c :: S' ++ '(' :: rest)) = c :: S' ++ '(' :: rest := by
    unfold Text.trimStart
    rw [List.dropWhile_append_of_pos hw, List.cons_append,
      List.dropWhile_cons_of_neg (by simp [hblank])]
  have hsymbol : ((Text.trimStart (w ++ (c :: S' ++ '(' :: rest))).takeWhile
      fun c => !isBlank c && c ≠ '(') = c :: S' := by
    rw [htrim, List.takeWhile_append_of_pos hsigns, List.takeWhile_cons_of_neg (by simp),
      List.append_nil]
  have hhere := operatorSymbolHere?_append _ hne hsymbol
  obtain ⟨o, more, hword⟩ := List.exists_cons_of_ne_nil (show operatorWord ≠ [] by decide)
  rw [hword, List.cons_append] at hhere ⊢
  rw [operatorSymbolFrom?, hhere]
  rfl

variable {a b rest : Text}

/-- Before the word `operator` a header has a character that is not blank, or the word has. -/
theorem exists_trimStart (hb : ∀ c ∈ b, isHeaderChar c = true) (rest : Text) :
    ∃ c u, Text.trimStart (b ++ (operatorWord ++ rest)) = c :: u ∧ isHeaderChar c = true ∧
      isBlank c = false := by
  induction b with
  | nil => exact ⟨'o', "perator".toList ++ rest, rfl, by decide, by decide⟩
  | cons c b ih =>
    cases hblank : isBlank c with
    | true =>
      obtain ⟨d, u, htrim, hd⟩ := ih fun d hd => hb d (List.mem_cons_of_mem c hd)
      refine ⟨d, u, ?_, hd⟩
      rw [← htrim]
      exact List.dropWhile_cons_of_pos hblank
    | false =>
      refine ⟨c, b ++ (operatorWord ++ rest), ?_, hb c List.mem_cons_self, hblank⟩
      exact List.dropWhile_cons_of_neg (by simp [hblank])

/-- Where a header mentions the word `operator`, a symbol is found that begins with a character of a
header. -/
theorem operatorSymbolHere?_header (hb : ∀ c ∈ b, isHeaderChar c = true)
    (hword : operatorWord <+: b) (rest : Text) :
    ∃ c u, operatorSymbolHere? (b ++ (operatorWord ++ rest)) = some (c :: u) ∧
      isHeaderChar c = true := by
  obtain ⟨b, rfl⟩ := hword
  obtain ⟨c, u, htrim, hc, hblank⟩ :=
    exists_trimStart (fun c hc => hb c (List.mem_append_right operatorWord hc)) rest
  have hround : c ≠ '(' := by
    rintro rfl
    exact absurd hc (by decide)
  refine ⟨c, u.takeWhile fun c => !isBlank c && c ≠ '(', ?_, hc⟩
  rw [List.append_assoc]
  refine operatorSymbolHere?_append _ (List.cons_ne_nil _ _) ?_
  rw [htrim]
  exact List.takeWhile_cons_of_pos (by simp [hblank, hround])

/-- The word `operator` does not begin in a header and end after it. -/
theorem operatorWord_prefix_header (hb : b ≠ []) (hlast : ∀ c ∈ b.getLast?, isBlank c = true)
    (h : operatorWord <+: b ++ rest) : operatorWord <+: b := by
  rcases List.prefix_or_prefix_of_prefix h (List.prefix_append b rest) with hword | hshort
  · exact hword
  · -- The blank at the end of the header is not in the word.
    have hblank := hlast _ (List.getLast?_eq_some_getLast hb)
    rw [not_isBlank_of_mem_operatorWord (hshort.subset (List.getLast_mem hb))] at hblank
    cases hblank

/-- A character at which the word `operator` does not begin is passed over. -/
theorem operatorSymbolFrom?_cons_of_not (hnot : ¬ WordBegins a (c :: t)) :
    operatorSymbolFrom? (a.getLast?.any isWordChar) (c :: t) =
      operatorSymbolFrom? ((a ++ [c]).getLast?.any isWordChar) t := by
  have hnone : (if a.getLast?.any isWordChar then none else operatorSymbolHere? (c :: t)) =
      none := by
    split_ifs with hin
    · rfl
    · exact operatorSymbolHere?_of_not fun hword => hnot ⟨Bool.eq_false_iff.2 hin, hword⟩
  rw [operatorSymbolFrom?, hnone, List.getLast?_concat]
  rfl

/-- The word `operator` begins at the first character of a text or after it. -/
theorem exists_wordBegins_cons_iff (a b : Text) (c : Char) :
    (∃ a' b', c :: b = a' ++ b' ∧ WordBegins (a ++ a') b') ↔
      WordBegins a (c :: b) ∨ ∃ a' b', b = a' ++ b' ∧ WordBegins (a ++ [c] ++ a') b' := by
  constructor
  · rintro ⟨a', b', hsplit, hbegins⟩
    cases a' with
    | nil =>
      rw [List.append_nil, ← (show c :: b = b' from hsplit)] at hbegins
      exact .inl hbegins
    | cons d a' =>
      obtain ⟨rfl, hmore⟩ := List.cons.inj hsplit
      exact .inr ⟨a', b', hmore, by simpa using hbegins⟩
  · rintro (hbegins | ⟨a', b', rfl, hbegins⟩)
    · exact ⟨[], c :: b, rfl, by rwa [List.append_nil]⟩
    · exact ⟨c :: a', b', rfl, by simpa using hbegins⟩

/-- The search for a symbol goes through a header: it finds a symbol where the word `operator`
begins in it, and passes over the header if it does not. -/
theorem operatorSymbolFrom?_header (header : Header h) (rest : Text) (hsplit : h = a ++ b) :
    (∃ a' b', b = a' ++ b' ∧ WordBegins (a ++ a') b') ∧
        (∃ c u, operatorSymbolFrom? (a.getLast?.any isWordChar) (b ++ (operatorWord ++ rest)) =
          some (c :: u) ∧ isHeaderChar c = true) ∨
      (¬ ∃ a' b', b = a' ++ b' ∧ WordBegins (a ++ a') b') ∧
        operatorSymbolFrom? (a.getLast?.any isWordChar) (b ++ (operatorWord ++ rest)) =
          operatorSymbolFrom? (h.getLast?.any isWordChar) (operatorWord ++ rest) := by
  induction b generalizing a with
  | nil =>
    refine .inr ⟨?_, ?_⟩
    · rintro ⟨a', b', hnil, -, hword⟩
      rw [(List.append_eq_nil_iff.1 hnil.symm).2] at hword
      exact absurd (List.prefix_nil.1 hword) (by decide)
    · rw [hsplit, List.append_nil, List.nil_append]
  | cons c b ih =>
    have hb : ∀ d ∈ c :: b, isHeaderChar d = true := fun d hd =>
      header.chars d (by rw [hsplit]; exact List.mem_append_right a hd)
    have hlast : ∀ d ∈ (c :: b).getLast?, isBlank d = true := by
      intro d hd
      refine header.last d ?_
      rw [hsplit, List.getLast?_append_of_ne_nil _ (List.cons_ne_nil c b)]
      exact hd
    rw [exists_wordBegins_cons_iff]
    by_cases hbegins : WordBegins a (c :: b)
    · obtain ⟨d, u, hhere, hd⟩ := operatorSymbolHere?_header hb hbegins.2 rest
      refine .inl ⟨.inl hbegins, d, u, ?_, hd⟩
      rw [List.cons_append] at hhere ⊢
      rw [operatorSymbolFrom?, hbegins.1, hhere]
      rfl
    · -- No symbol is found here, so the search goes on as it does after the character.
      have hnot : ¬ WordBegins a (c :: (b ++ (operatorWord ++ rest))) := fun hword =>
        hbegins ⟨hword.1, operatorWord_prefix_header (List.cons_ne_nil c b) hlast hword.2⟩
      rw [or_iff_right hbegins, List.cons_append, operatorSymbolFrom?_cons_of_not hnot]
      exact ih (by rw [hsplit]; simp)

/-- The name of a declared operator is the word `operator` and its symbol exactly if the header does
not mention the word. -/
theorem operatorName_eq_iff (header : Header h) (hw : ∀ c ∈ w, isBlank c = true)
    (hS : S ∈ operatorSymbols) (rest : Text) :
    operatorName (operatorDeclaration h w S rest) = operatorWord ++ ' ' :: S ↔
      ¬ MentionsOperator h := by
  have hsearch := operatorSymbolFrom?_header header (w ++ (S ++ '(' :: rest))
    (List.nil_append h).symm
  simp only [List.getLast?_nil, Option.any_none, List.nil_append] at hsearch
  unfold operatorName operatorDeclaration
  rcases hsearch with ⟨hmentions, c, u, hfound, hc⟩ | ⟨hnot, hfound⟩
  · rw [hfound]
    refine iff_of_false (fun hname => ?_) (not_not_intro hmentions)
    obtain ⟨-, -, hhead⟩ := symbol_signs hS
    have hsame : c :: u = S := by simpa using hname
    rw [← hsame] at hhead
    exact absurd hc (Bool.eq_false_iff.1 hhead)
  · have hoff : h.getLast?.any isWordChar = false := by
      rw [Option.any_eq_false]
      exact fun c hc => not_isWordChar_of_isBlank (header.last c hc)
    rw [hfound, hoff, operatorSymbolFrom?_symbol hw hS]
    exact iff_of_true rfl hnot

/-! ## The member -/

/-- A member is an operator exactly if the word `operator` is in its leading text. -/
theorem kind_eq_operator_iff (d : Text) (shape : Shape) (className : Option Text) :
    (ofShape d shape className).kind = .operator ↔ operatorWord ∈ words shape.leadingText := by
  unfold ofShape kindAndName
  simp only
  by_cases hword : operatorWord ∈ words shape.leadingText
  · rw [if_pos (List.contains_iff_mem.2 hword)]
    exact iff_of_true rfl hword
  · rw [if_neg fun h => hword (List.contains_iff_mem.1 h)]
    refine iff_of_false ?_ hword
    split
    · exact fun h => by cases h
    · exact fun h => by cases h
    · split_ifs <;> exact fun h => by cases h

/-- The name of an operator is the one found in its declaration. -/
theorem name_of_operator {d : Text} {shape : Shape} {className : Option Text}
    (hkind : (ofShape d shape className).kind = .operator) :
    (ofShape d shape className).name = operatorName d := by
  have hword := (kind_eq_operator_iff d shape className).1 hkind
  unfold ofShape kindAndName
  simp only
  rw [if_pos (List.contains_iff_mem.2 hword)]

/-- Up to the first token of its symbol the declaration of an operator stands for itself. -/
theorem words_operatorDeclaration (header : Header h) (hw : ∀ c ∈ w, isBlank c = true)
    (hS : S ∈ operatorSymbols) (strip : Bool) (rest : Text) :
    words (Shape.ofText strip (operatorDeclaration h w S rest)).leadingText =
      words (h ++ (operatorWord ++ w) ++ shownSymbol S) := by
  obtain ⟨d, back, hsymbol, hd, hslash⟩ := exists_boundary S
  have hplain := plain_declaration header hw hS hd hslash (back ++ rest)
  have htext : operatorDeclaration h w S rest =
      h ++ (operatorWord ++ w) ++ shownSymbol S ++ d :: (back ++ rest) := by
    calc operatorDeclaration h w S rest
        = h ++ (operatorWord ++ w) ++ ((S ++ ['(']) ++ rest) := by simp [operatorDeclaration]
      _ = h ++ (operatorWord ++ w) ++ shownSymbol S ++ d :: (back ++ rest) := by
        rw [hsymbol]
        simp
  rw [htext, hplain.words_leadingText hd]

/-- After a header, the word `operator`, blanks or none and a symbol declare an operator if blanks
are there or the symbol begins with a token, and only then. The operator is named after its symbol
unless the header mentions the word. -/
theorem operator_of_header (header : Header h) (hw : ∀ c ∈ w, isBlank c = true)
    (hS : S ∈ operatorSymbols) (strip : Bool) (rest : Text) (className : Option Text) :
    ((ofText strip (operatorDeclaration h w S rest) className).kind = .operator ↔
        w ≠ [] ∨ S ∈ tokenSymbols) ∧
      ((ofText strip (operatorDeclaration h w S rest) className).kind = .operator →
        ((ofText strip (operatorDeclaration h w S rest) className).name = operatorWord ++ ' ' :: S ↔
          ¬ MentionsOperator h)) := by
  constructor
  · rw [ofText, kind_eq_operator_iff, words_operatorDeclaration header hw hS]
    exact operatorWord_mem_words_iff header hw hS
  · intro hkind
    rw [ofText, name_of_operator hkind]
    exact operatorName_eq_iff header hw hS rest

/-- A comparison with a blank after the word `operator`. -/
theorem operator_of_spacedComparison :
    let m := ofText true "static bool operator <(T other) => true;".toList none
    m.kind = .operator ∧ m.name = "operator <".toList := by
  have htext : operatorDeclaration "static bool ".toList [' '] ['<'] "T other) => true;".toList =
      "static bool operator <(T other) => true;".toList := by decide
  have hheader : Header "static bool ".toList := by decide
  obtain ⟨hkind, hname⟩ := operator_of_header (S := ['<']) hheader
    (List.forall_mem_singleton.2 (by decide : isBlank ' ' = true)) (by decide) true
    "T other) => true;".toList none
  rw [htext] at hkind hname
  have hoperator := hkind.2 (.inl (by decide))
  exact ⟨hoperator, (hname hoperator).2 (by decide)⟩

/-- Without a blank after the word `operator` a comparison is taken for a method, and where an
identifier of the header ends in the word after a dollar the name is not the one of the symbol. -/
theorem operator_misread :
    (Header "bool ".toList ∧
      (ofText true (operatorDeclaration "bool ".toList [] ['<'] "Version other) => true;".toList)
        none).kind = .method) ∧
    Header "int $operator ".toList ∧
      (ofText true (operatorDeclaration "int $operator ".toList [' '] ['+'] "int o) => 0;".toList)
        none).name = "operator operator".toList := by
  refine ⟨⟨?_, ?_⟩, ?_, ?_⟩ <;> decide

end MemberOutline.Member
