import MemberOutline.Proofs.Literal.Reach

/-!
# Where a text may be cut

A step that looks ahead does so at a slash, a star, a dollar sign, a quote, an equals sign or the
letter of a raw string. A text that ends in no such character is `Decided`: each step in it is the
same whatever follows the text, also where the text ends (`step_append_of_decided`). `Inert` asks
for a harmless continuation; here the end of the text itself is harmless.
-/

namespace MemberOutline.Literal

/-- The characters at which a step asks for the next one. -/
def asking : Text := ['/', '*', '$', '=', 'r', 'R', '\x27', '\x22']

/-- A text that does not end in a character at which a step asks for the next one. -/
def Decided (t : Text) : Prop := ∀ c ∈ t.getLast?, c ∉ asking

variable {within : Text} {c : Char}

/-- If the end of a text is decided, the whole text is. -/
theorem Decided.of_suffix {t part : Text} (h : Decided t) (hpart : part <:+ t) (hne : part ≠ []) :
    Decided part := by
  obtain ⟨front, rfl⟩ := hpart
  rwa [Decided, List.getLast?_append_of_ne_nil front hne] at h

/-- A decided text stays decided without its first character, unless that is all there is. -/
theorem Decided.tail (h : Decided (c :: within)) (hne : within ≠ []) : Decided within :=
  h.of_suffix (List.suffix_cons c within) hne

/-- If a decided text begins with a character at which a step asks for the next one, more text
follows that character. -/
theorem Decided.ne_nil (h : Decided (c :: within)) (hc : c ∈ asking) : within ≠ [] := by
  rintro rfl
  exact h c rfl hc

/-- Quotes are among the characters at which a step asks. -/
theorem Quote.char_mem_asking (q : Quote) : q.char ∈ asking := by
  cases q <;> decide

/-- The next character is the same whatever follows, unless the text ends here. -/
theorem head?_append_of_ne_nil (hne : within ≠ []) (rest : Text) :
    (within ++ rest).head? = within.head? := by
  obtain ⟨d, within, rfl⟩ := List.exists_cons_of_ne_nil hne
  rfl

/-- A run of quotes begins a text or not, whatever follows, if the text ends in no quote. -/
theorem isPrefixOf_append_of_decided (q : Quote) (k : Nat) (hne : within ≠ [])
    (hdecided : Decided within) (rest : Text) :
    (List.replicate k q.char).isPrefixOf (within ++ rest) =
      (List.replicate k q.char).isPrefixOf within := by
  induction k generalizing within with
  | zero => simp
  | succ k ih =>
    obtain ⟨d, within, rfl⟩ := List.exists_cons_of_ne_nil hne
    rw [List.replicate_succ, List.cons_append, List.isPrefixOf_cons_cons,
      List.isPrefixOf_cons_cons]
    by_cases hd : q.char = d
    · -- The run goes on, and since its quote is not the last character, so does the text.
      have hmore := hdecided.ne_nil (hd ▸ q.char_mem_asking)
      rw [ih hmore (hdecided.tail hmore)]
    · rw [beq_eq_false_iff_ne.2 hd, Bool.false_and, Bool.false_and]

/-- A string that opens before a decided text is the same whatever follows. -/
theorem openString_append_of_decided (q : Quote) (raw : Bool) (hne : within ≠ [])
    (hdecided : Decided within) (rest : Text) :
    openString q raw (within ++ rest) = openString q raw within := by
  have heq : [q.char, q.char].isPrefixOf (within ++ rest) = [q.char, q.char].isPrefixOf within :=
    isPrefixOf_append_of_decided q 2 hne hdecided rest
  simp only [openString, heq]

/-- What opens in a decided text opens whatever follows. -/
theorem opening?_append_of_decided {before : Option Char} (hdecided : Decided (c :: within))
    (rest : Text) : opening? before c (within ++ rest) = opening? before c within := by
  by_cases hc : c ∈ asking
  · have hne := hdecided.ne_nil hc
    have htail := hdecided.tail hne
    obtain ⟨d, within, rfl⟩ := List.exists_cons_of_ne_nil hne
    have hplain (q : Quote) : openString q false (d :: within ++ rest) =
        openString q false (d :: within) := openString_append_of_decided q false hne htail rest
    -- A raw string looks one character further, and its quote is not the last one.
    have hraw (q : Quote) (hq : Quote.ofChar? d = some q) :
        openString q true (within ++ rest) = openString q true within := by
      obtain rfl := Quote.ofChar?_eq_some_iff.1 hq
      have hmore := htail.ne_nil q.char_mem_asking
      exact openString_append_of_decided q true hmore (htail.tail hmore) rest
    unfold opening?
    simp only [hplain]
    rw [List.cons_append]
    simp only [List.head?_cons]
    cases hd : Quote.ofChar? d with
    | none => rfl
    | some q => simp only [Option.map_some, hraw q hd]
  · have hnone : c ∉ ['\x27', '\x22', '/', 'r', 'R'] := by
      intro hmem
      have hall : ['\x27', '\x22', '/', 'r', 'R'].all (· ∈ asking) = true := by decide
      exact hc (of_decide_eq_true (List.all_eq_true.1 hall c hmem))
    rw [opening?_of_not_mem hnone, opening?_of_not_mem hnone]

/-- A step in a string is the same whatever follows a decided text. -/
theorem stringStep_append_of_decided (d : Delimiter) (raw : Bool) (outer : Stack)
    (hdecided : Decided (c :: within)) (rest : Text) :
    stringStep d raw c (within ++ rest) outer = stringStep d raw c within outer := by
  have hdollar : (!raw && decide (c = '$') && decide ((within ++ rest).head? = some '{')) =
      (!raw && decide (c = '$') && decide (within.head? = some '{')) := by
    by_cases hc : c = '$'
    · rw [head?_append_of_ne_nil (hdecided.ne_nil (hc ▸ by decide)) rest]
    · rw [decide_eq_false hc, Bool.and_false, Bool.false_and, Bool.false_and]
  have hcloses : d.text.isPrefixOf (c :: (within ++ rest)) = d.text.isPrefixOf (c :: within) :=
    isPrefixOf_append_of_decided d.quote d.width (List.cons_ne_nil c within) hdecided rest
  simp only [stringStep, hdollar, hcloses]

/-- A step in a block comment is the same whatever follows a decided text. -/
theorem commentStep_append_of_decided (depth : Nat) (outer : Stack)
    (hdecided : Decided (c :: within)) (rest : Text) :
    commentStep depth c (within ++ rest) outer = commentStep depth c within outer := by
  by_cases hc : c ∈ asking
  · simp only [commentStep, head?_append_of_ne_nil (hdecided.ne_nil hc) rest]
  · have hslash : c ≠ '/' := fun h => hc (h ▸ by decide)
    have hstar : c ≠ '*' := fun h => hc (h ▸ by decide)
    simp only [commentStep, hslash, hstar, false_and, if_false]

/-- A step in a decided text is the same whatever follows. -/
theorem step_append_of_decided (stack : Stack) (before : Option Char)
    (hdecided : Decided (c :: within)) (rest : Text) :
    step stack before c (within ++ rest) = step stack before c within := by
  match stack with
  | [] | .interpolation _ :: _ =>
    simp only [step, opening?_append_of_decided hdecided rest]
  | .lineComment :: outer => rfl
  | .blockComment depth :: outer => exact commentStep_append_of_decided depth outer hdecided rest
  | .string d raw :: outer => exact stringStep_append_of_decided d raw outer hdecided rest

end MemberOutline.Literal
