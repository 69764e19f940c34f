import MemberOutline.Proofs.Json.Numerals
import MemberOutline.Proofs.Json.Strings

/-!
# Reading what was written

A value that is written in the layout for readers is read back as it was (`read?_pretty`). What is
shown of each value is that the reader takes its text, and nothing else, from the front of a longer
one (`ReadBack`), on any level and with any bound that twice the length of the text does not
exceed; so a value may stand inside another one.
-/

namespace MemberOutline.Json

/-- A value all of whose numerals are well formed. -/
inductive WellFormed : Json → Prop
  | null : WellFormed .null
  | boolean (b : Bool) : WellFormed (.boolean b)
  | number {n : Numeral} (h : n.WellFormed) : WellFormed (.number n)
  | string (s : Text) : WellFormed (.string s)
  | array {items : List Json} (h : ∀ v ∈ items, WellFormed v) : WellFormed (.array items)
  | object {members : List (Text × Json)} (h : ∀ m ∈ members, WellFormed m.2) :
    WellFormed (.object members)

/-- A value is read from its text whatever comes after that. -/
def ReadBack (v : Json) : Prop := ∀ level bound rest, Closes rest →
  2 * (prettyAt level v).length ≤ bound →
    readValue bound (prettyAt level v ++ rest) = some (v, rest)

variable {t u rest : Text} {level bound : Nat} {v : Json} {members : List (Text × Json)}

/-! ## Blanks -/

/-- The white space of JSON. -/
def blanks : Text := [' ', '\t', '\n', '\r']

/-- What may begin a value: no blank, and no bracket that closes an array. -/
def Begins (t : Text) : Prop := ∃ c more, t = c :: more ∧ c ∉ blanks ∧ c ≠ ']'

/-- No blank is passed over before another character. -/
theorem skipBlanks_cons {c : Char} (hc : c ∉ blanks) (t : Text) : skipBlanks (c :: t) = c :: t := by
  have hblank : ¬ (decide (c = ' ') || decide (c = '\t') || decide (c = '\n') ||
      decide (c = '\r')) = true := by
    simpa [blanks, and_assoc] using hc
  exact List.dropWhile_cons_of_neg hblank

/-- A blank is passed over. -/
theorem skipBlanks_blank {c : Char} (hc : c ∈ blanks) (t : Text) :
    skipBlanks (c :: t) = skipBlanks t := by
  have hblank : (decide (c = ' ') || decide (c = '\t') || decide (c = '\n') ||
      decide (c = '\r')) = true := by
    simpa [blanks, or_assoc] using hc
  exact List.dropWhile_cons_of_pos hblank

/-- A new line is passed over. -/
theorem skipBlanks_newLine (level : Nat) (t : Text) :
    skipBlanks (newLine level ++ t) = skipBlanks t := by
  have hspaces (n : Nat) : skipBlanks (List.replicate n ' ' ++ t) = skipBlanks t := by
    induction n with
    | zero => rfl
    | succ n ih =>
      rw [List.replicate_succ, List.cons_append, skipBlanks_blank (by decide), ih]
  unfold newLine
  rw [List.cons_append, skipBlanks_blank (by decide), hspaces]

/-- A value is read past the blanks before it. -/
theorem readValue_congr (h : skipBlanks t = skipBlanks u) :
    readValue bound t = readValue bound u := by
  cases bound with
  | zero => rfl
  | succ bound =>
    rw [readValue, readValue, h]

/-- A numeral begins with a minus sign or a digit. -/
theorem exists_text_eq_cons {n : Numeral} (h : n.WellFormed) :
    ∃ c more, n.text = c :: more ∧ (c = '-' ∨ c.isDigit = true) := by
  obtain ⟨d, more, hwhole, hd⟩ := h.whole.exists_cons
  unfold Numeral.text
  rw [hwhole]
  cases n.negative with
  | true => exact ⟨'-', _, rfl, .inl rfl⟩
  | false => exact ⟨d, _, rfl, .inr hd⟩

/-- A numeral begins with no other sign than a minus sign or a digit. -/
theorem exists_text_not_mem {n : Numeral} (h : n.WellFormed) {signs : Text}
    (hsigns : (signs.all fun c => c ≠ '-' && !c.isDigit) = true) :
    ∃ c more, n.text = c :: more ∧ c ∉ signs := by
  obtain ⟨c, more, htext, hc⟩ := exists_text_eq_cons h
  refine ⟨c, more, htext, fun hmem => ?_⟩
  have hsign := List.all_eq_true.1 hsigns c hmem
  rw [Bool.and_eq_true, decide_eq_true_eq, Bool.not_eq_true'] at hsign
  rcases hc with hc | hc
  · exact hsign.1 hc
  · rw [hsign.2] at hc
    cases hc

/-- The text that is written for a value begins as a value does. -/
theorem begins_prettyAt (h : WellFormed v) (level : Nat) : Begins (prettyAt level v) := by
  cases h with
  | null => exact ⟨'n', _, by rw [prettyAt]; rfl, by decide, by decide⟩
  | boolean b =>
    cases b with
    | true => exact ⟨'t', _, by rw [prettyAt]; rfl, by decide, by decide⟩
    | false => exact ⟨'f', _, by rw [prettyAt]; rfl, by decide, by decide⟩
  | number h =>
    have hsigns : ((']' :: blanks).all fun c => c ≠ '-' && !c.isDigit) = true := by decide
    obtain ⟨c, more, htext, hc⟩ := exists_text_not_mem h hsigns
    rw [List.mem_cons, not_or] at hc
    rw [prettyAt]
    exact ⟨c, more, htext, hc.2, hc.1⟩
  | string s => exact ⟨'\x22', _, by rw [prettyAt]; rfl, by decide, by decide⟩
  | @array items h =>
    cases items with
    | nil => exact ⟨'[', _, by rw [prettyAt]; rfl, by decide, by decide⟩
    | cons item more => exact ⟨'[', _, by rw [prettyAt]; rfl, by decide, by decide⟩
  | @object members h =>
    cases members with
    | nil => exact ⟨'{', _, by rw [prettyAt]; rfl, by decide, by decide⟩
    | cons member more =>
      obtain ⟨key, item⟩ := member
      exact ⟨'{', _, by rw [prettyAt]; rfl, by decide, by decide⟩

/-- No blanks are passed over before a value. -/
theorem skipBlanks_of_begins (h : Begins t) (rest : Text) :
    skipBlanks (t ++ rest) = t ++ rest := by
  obtain ⟨c, more, rfl, hc, -⟩ := h
  exact skipBlanks_cons hc _

/-! ## Items -/

/-- A new line may come after a value. -/
theorem closes_newLine (level : Nat) (rest : Text) : Closes (newLine level ++ rest) := by
  intro c hc
  exact .inr (Option.some.inj hc).symm

/-- After a value a text may go on with a comma, or with a new line if there is no comma. -/
theorem closes_append (h : t = [] ∨ t.head? = some ',') (level : Nat) (rest : Text) :
    Closes (t ++ (newLine level ++ rest)) := by
  rcases h with rfl | h
  · exact closes_newLine level rest
  · intro c hc
    rw [List.head?_append, h] at hc
    exact .inl (Option.some.inj hc).symm

/-- Further items begin with a comma. -/
theorem head?_prettyItems (level : Nat) (items : List Json) :
    prettyItems level items = [] ∨ (prettyItems level items).head? = some ',' := by
  cases items with
  | nil => exact .inl (by rw [prettyItems])
  | cons item more => exact .inr (by rw [prettyItems]; rfl)

/-- A further item comes after a comma and a new line. -/
theorem prettyItems_cons (level : Nat) (item : Json) (more : List Json) (t : Text) :
    prettyItems level (item :: more) ++ t =
      ',' :: (newLine level ++ (prettyAt level item ++ (prettyItems level more ++ t))) := by
  rw [prettyItems]
  simp only [List.cons_append, List.append_assoc]

/-- A further item takes two characters at least. -/
theorem length_prettyItems_cons (level : Nat) (item : Json) (more : List Json) :
    (prettyItems level (item :: more)).length =
      (prettyAt level item ++ prettyItems level more).length + 2 * level + 2 := by
  rw [prettyItems]
  simp only [newLine, List.length_append, List.length_cons, List.length_replicate]
  omega

variable {item : Json} {key : Text}

/-- An item is read. If a bracket follows, it was the last one; if a comma follows, the items after
that are read, too. -/
theorem readItems_prettyAt (hitem : ReadBack item) (hcloses : Closes t)
    (hbound : 2 * (prettyAt level item).length ≤ bound) :
    (skipBlanks t = ']' :: u →
      readItems (bound + 1) (newLine level ++ (prettyAt level item ++ t)) = some ([item], u)) ∧
    (skipBlanks t = ',' :: u →
      readItems (bound + 1) (newLine level ++ (prettyAt level item ++ t)) =
        (readItems bound u).map fun (items, r) => (item :: items, r)) := by
  have hread := hitem level bound t hcloses hbound
  rw [← readValue_congr (skipBlanks_newLine level _)] at hread
  rw [readItems, hread]
  exact ⟨fun ht => by simp only [ht], fun ht => by simp only [ht]⟩

/-- Items that are read one by one are read in a row, up to the bracket. -/
theorem readItems_pretty {more : List Json} (outer : Nat) (rest : Text)
    (hitem : ReadBack item) (hmore : ∀ v ∈ more, ReadBack v)
    (hbound : 2 * (prettyAt level item ++ prettyItems level more).length < bound) :
    readItems bound (newLine level ++ (prettyAt level item ++ (prettyItems level more ++
      (newLine outer ++ ']' :: rest)))) = some (item :: more, rest) := by
  induction more generalizing item bound with
  | nil =>
    obtain ⟨bound, rfl⟩ : ∃ b, bound = b + 1 := ⟨bound - 1, by omega⟩
    have hlast : prettyItems level [] ++ (newLine outer ++ ']' :: rest) =
        newLine outer ++ ']' :: rest := by rw [prettyItems, List.nil_append]
    rw [List.length_append] at hbound
    rw [hlast]
    refine (readItems_prettyAt hitem (closes_newLine outer _) (by omega)).1 ?_
    rw [skipBlanks_newLine, skipBlanks_cons (by decide)]
  | cons next more ih =>
    obtain ⟨bound, rfl⟩ : ∃ b, bound = b + 1 := ⟨bound - 1, by omega⟩
    have hcloses := closes_append (head?_prettyItems level (next :: more)) outer (']' :: rest)
    rw [List.length_append, length_prettyItems_cons] at hbound
    have hread : readItems bound (newLine level ++ (prettyAt level next ++
        (prettyItems level more ++ (newLine outer ++ ']' :: rest)))) = some (next :: more, rest) :=
      ih (hmore next List.mem_cons_self) (fun v hv => hmore v (List.mem_cons_of_mem next hv))
        (by omega)
    rw [prettyItems_cons] at hcloses ⊢
    rw [(readItems_prettyAt hitem hcloses (by omega)).2 (skipBlanks_cons (by decide) _), hread]
    rfl

/-! ## Members -/

/-- A member as it is written, with what comes after it. -/
def memberText (level : Nat) (key : Text) (item : Json) (t : Text) : Text :=
  stringText key ++ (": ".toList ++ (prettyAt level item ++ t))

/-- A member begins with its name between quotes, a colon and a space. -/
theorem memberText_eq (level : Nat) (key : Text) (item : Json) (t : Text) :
    memberText level key item t = '\x22' :: (key.flatMap escapedChar ++
      '\x22' :: ':' :: ' ' :: (prettyAt level item ++ t)) := by
  unfold memberText stringText
  rw [List.append_assoc]
  rfl

/-- Further members begin with a comma. -/
theorem head?_prettyMembers (level : Nat) (members : List (Text × Json)) :
    prettyMembers level members = [] ∨ (prettyMembers level members).head? = some ',' := by
  cases members with
  | nil => exact .inl (by rw [prettyMembers])
  | cons member more =>
    obtain ⟨key, item⟩ := member
    exact .inr (by rw [prettyMembers]; rfl)

/-- A further member comes after a comma and a new line. -/
theorem prettyMembers_cons (level : Nat) (key : Text) (item : Json) (more : List (Text × Json))
    (t : Text) :
    prettyMembers level ((key, item) :: more) ++ t =
      ',' :: (newLine level ++ memberText level key item (prettyMembers level more ++ t)) := by
  unfold memberText
  rw [prettyMembers]
  simp only [List.cons_append, List.append_assoc]

/-- A further member takes two characters at least. -/
theorem length_prettyMembers_cons (level : Nat) (key : Text) (item : Json)
    (more : List (Text × Json)) :
    (prettyAt level item ++ prettyMembers level more).length + 2 ≤
      (prettyMembers level ((key, item) :: more)).length := by
  rw [prettyMembers]
  simp only [newLine, List.length_append, List.length_cons, List.length_replicate]
  omega

/-- A member is read. If a brace follows, it was the last one; if a comma follows, the members after
that are read, too. -/
theorem readMembers_memberText (hitem : ReadBack item) (hcloses : Closes t)
    (hbound : 2 * (prettyAt level item).length ≤ bound) :
    (skipBlanks t = '}' :: u →
      readMembers (bound + 1) (newLine level ++ memberText level key item t) =
        some ([(key, item)], u)) ∧
    (skipBlanks t = ',' :: u →
      readMembers (bound + 1) (newLine level ++ memberText level key item t) =
        (readMembers bound u).map fun (members, r) => ((key, item) :: members, r)) := by
  have hread := hitem level bound t hcloses hbound
  rw [← readValue_congr (skipBlanks_blank (by decide : ' ' ∈ blanks) _)] at hread
  rw [memberText_eq, readMembers, skipBlanks_newLine, skipBlanks_cons (by decide)]
  simp only [readChars_stringText]
  rw [skipBlanks_cons (by decide)]
  simp only [hread]
  exact ⟨fun ht => by simp only [ht], fun ht => by simp only [ht]⟩

/-- Members that are read one by one are read in a row, up to the brace. -/
theorem readMembers_pretty {more : List (Text × Json)} (outer : Nat) (rest : Text)
    (hitem : ReadBack item) (hmore : ∀ m ∈ more, ReadBack m.2)
    (hbound : 2 * (prettyAt level item ++ prettyMembers level more).length < bound) :
    readMembers bound (newLine level ++ memberText level key item
      (prettyMembers level more ++ (newLine outer ++ '}' :: rest))) =
        some ((key, item) :: more, rest) := by
  induction more generalizing key item bound with
  | nil =>
    obtain ⟨bound, rfl⟩ : ∃ b, bound = b + 1 := ⟨bound - 1, by omega⟩
    have hlast : prettyMembers level [] ++ (newLine outer ++ '}' :: rest) =
        newLine outer ++ '}' :: rest := by rw [prettyMembers, List.nil_append]
    rw [List.length_append] at hbound
    rw [hlast]
    refine (readMembers_memberText hitem (closes_newLine outer _) (by omega)).1 ?_
    rw [skipBlanks_newLine, skipBlanks_cons (by decide)]
  | cons next more ih =>
    obtain ⟨nextKey, next⟩ := next
    obtain ⟨bound, rfl⟩ : ∃ b, bound = b + 1 := ⟨bound - 1, by omega⟩
    have hcloses :=
      closes_append (head?_prettyMembers level ((nextKey, next) :: more)) outer ('}' :: rest)
    have hlength := length_prettyMembers_cons level nextKey next more
    rw [List.length_append] at hbound
    have hnext : ReadBack next := hmore (nextKey, next) List.mem_cons_self
    have hread : readMembers bound (newLine level ++ memberText level nextKey next
        (prettyMembers level more ++ (newLine outer ++ '}' :: rest))) =
          some ((nextKey, next) :: more, rest) :=
      ih hnext (fun m hm => hmore m (List.mem_cons_of_mem _ hm)) (by omega)
    rw [prettyMembers_cons] at hcloses ⊢
    rw [(readMembers_memberText hitem hcloses (by omega)).2 (skipBlanks_cons (by decide) _), hread]
    rfl

/-! ## Values -/

/-- An opening bracket starts an array. -/
theorem readValue_array {c : Char} (h : skipBlanks t = c :: u) (hc : c ≠ ']') :
    readValue (bound + 1) ('[' :: t) =
      (readItems bound t).map fun (items, r) => (.array items, r) := by
  rw [readValue, skipBlanks_cons (by decide)]
  simp only
  rw [if_neg (by decide), if_pos trivial, h]
  split
  · cases ‹_ = _›
    contradiction
  · rfl

/-- An opening brace starts an object. -/
theorem readValue_object (h : skipBlanks t = '\x22' :: u) :
    readValue (bound + 1) ('{' :: t) =
      (readMembers bound t).map fun (members, r) => (.object members, r) := by
  rw [readValue, skipBlanks_cons (by decide)]
  simp only
  rw [if_neg (by decide), if_neg (by decide), if_pos trivial, h]
  rfl

/-- A bound that a text does not exceed leaves a step for the value. -/
theorem exists_bound (h : Begins t) (hbound : 2 * t.length ≤ bound) :
    ∃ b, bound = b + 1 ∧ 2 * t.length ≤ b + 1 := by
  obtain ⟨c, more, rfl, -⟩ := h
  rw [List.length_cons] at hbound
  exact ⟨bound - 1, by omega, by rw [List.length_cons]; omega⟩

/-- The null is read back. -/
theorem readBack_null : ReadBack .null := by
  intro level bound rest _ hbound
  obtain ⟨bound, rfl, -⟩ := exists_bound (begins_prettyAt .null level) hbound
  rw [readValue, skipBlanks_of_begins (begins_prettyAt .null level), prettyAt]
  rfl

/-- A truth value is read back. -/
theorem readBack_boolean (b : Bool) : ReadBack (.boolean b) := by
  intro level bound rest _ hbound
  obtain ⟨bound, rfl, -⟩ := exists_bound (begins_prettyAt (.boolean b) level) hbound
  rw [readValue, skipBlanks_of_begins (begins_prettyAt (.boolean b) level)]
  cases b <;> rw [prettyAt] <;> rfl

/-- A string is read back. -/
theorem readBack_string (s : Text) : ReadBack (.string s) := by
  intro level bound rest _ hbound
  obtain ⟨bound, rfl, -⟩ := exists_bound (begins_prettyAt (.string s) level) hbound
  rw [readValue, skipBlanks_of_begins (begins_prettyAt (.string s) level), prettyAt]
  have htext : stringText s ++ rest = '\x22' :: (s.flatMap escapedChar ++ '\x22' :: rest) := by
    unfold stringText
    rw [List.append_assoc]
    rfl
  rw [htext]
  simp only
  rw [if_pos trivial, readChars_stringText]
  rfl

/-- A number is read back, as it begins with none of the signs that other values begin with. -/
theorem readBack_number {n : Numeral} (h : n.WellFormed) : ReadBack (.number n) := by
  intro level bound rest hrest hbound
  obtain ⟨bound, rfl, -⟩ := exists_bound (begins_prettyAt (.number h) level) hbound
  have hread := readNumber_text h hrest
  have hsigns :
      (['\x22', '[', '{', 't', 'f', 'n'].all fun c => c ≠ '-' && !c.isDigit) = true := by decide
  obtain ⟨c, more, htext, hc⟩ := exists_text_not_mem h hsigns
  simp only [List.mem_cons, List.not_mem_nil, or_false, not_or] at hc
  obtain ⟨hquote, hbracket, hbrace, ht, hf, hn⟩ := hc
  rw [readValue, skipBlanks_of_begins (begins_prettyAt (.number h) level), prettyAt]
  rw [htext, List.cons_append] at hread ⊢
  simp only
  rw [if_neg hquote, if_neg hbracket, if_neg hbrace, if_neg ht, if_neg hf, if_neg hn, hread]
  rfl

/-- An array is read back if its items are. -/
theorem readBack_array {items : List Json} (hitems : ∀ v ∈ items, WellFormed v)
    (h : ∀ v ∈ items, ReadBack v) : ReadBack (.array items) := by
  intro level bound rest hrest hbound
  obtain ⟨bound, rfl, hbound⟩ := exists_bound (begins_prettyAt (.array hitems) level) hbound
  cases items with
  | nil =>
    rw [readValue, skipBlanks_of_begins (begins_prettyAt (.array hitems) level), prettyAt]
    rfl
  | cons item more =>
    have htext : prettyAt level (.array (item :: more)) ++ rest =
        '[' :: (newLine (level + 1) ++ (prettyAt (level + 1) item ++
          (prettyItems (level + 1) more ++ (newLine level ++ ']' :: rest)))) := by
      rw [prettyAt]
      simp only [List.cons_append, List.append_assoc, List.nil_append]
    have hlength : (prettyAt (level + 1) item ++ prettyItems (level + 1) more).length + 1 ≤
        (prettyAt level (.array (item :: more))).length := by
      rw [prettyAt]
      simp only [List.length_append, List.length_cons]
      omega
    obtain ⟨c, text, hitem, hblank, hbracket⟩ :=
      begins_prettyAt (hitems item List.mem_cons_self) (level + 1)
    have hskip : skipBlanks (newLine (level + 1) ++ (prettyAt (level + 1) item ++
        (prettyItems (level + 1) more ++ (newLine level ++ ']' :: rest)))) =
        c :: (text ++ (prettyItems (level + 1) more ++ (newLine level ++ ']' :: rest))) := by
      rw [skipBlanks_newLine, hitem, List.cons_append, skipBlanks_cons hblank]
    rw [htext, readValue_array hskip hbracket,
      readItems_pretty level rest (h item List.mem_cons_self)
        (fun v hv => h v (List.mem_cons_of_mem item hv)) (by omega)]
    rfl

/-- An object is read back if its members are. -/
theorem readBack_object {members : List (Text × Json)} (hmembers : ∀ m ∈ members, WellFormed m.2)
    (h : ∀ m ∈ members, ReadBack m.2) : ReadBack (.object members) := by
  intro level bound rest hrest hbound
  obtain ⟨bound, rfl, hbound⟩ := exists_bound (begins_prettyAt (.object hmembers) level) hbound
  cases members with
  | nil =>
    rw [readValue, skipBlanks_of_begins (begins_prettyAt (.object hmembers) level), prettyAt]
    rfl
  | cons member more =>
    obtain ⟨key, item⟩ := member
    have htext : prettyAt level (.object ((key, item) :: more)) ++ rest =
        '{' :: (newLine (level + 1) ++ memberText (level + 1) key item
          (prettyMembers (level + 1) more ++ (newLine level ++ '}' :: rest))) := by
      unfold memberText
      rw [prettyAt]
      simp only [List.cons_append, List.append_assoc, List.nil_append]
    have hlength : (prettyAt (level + 1) item ++ prettyMembers (level + 1) more).length + 1 ≤
        (prettyAt level (.object ((key, item) :: more))).length := by
      rw [prettyAt]
      simp only [List.length_append, List.length_cons]
      omega
    have hskip (t : Text) : skipBlanks (newLine (level + 1) ++ memberText (level + 1) key item t) =
        '\x22' :: (key.flatMap escapedChar ++
          '\x22' :: ':' :: ' ' :: (prettyAt (level + 1) item ++ t)) := by
      rw [skipBlanks_newLine, memberText_eq, skipBlanks_cons (by decide)]
    have hitem : ReadBack item := h (key, item) List.mem_cons_self
    rw [htext, readValue_object (hskip _),
      readMembers_pretty level rest hitem (fun m hm => h m (List.mem_cons_of_mem _ hm)) (by omega)]
    rfl

/-- Every value is read back from its text. -/
theorem WellFormed.readBack (h : WellFormed v) : ReadBack v := by
  induction h with
  | null => exact readBack_null
  | boolean b => exact readBack_boolean b
  | number h => exact readBack_number h
  | string s => exact readBack_string s
  | array hitems ih => exact readBack_array hitems ih
  | object hmembers ih => exact readBack_object hmembers ih

/-- A text that was written for a value is read as that value. -/
theorem read?_pretty (h : WellFormed v) : read? v.pretty = some v := by
  have hread := h.readBack 0 (2 * v.pretty.length + 2) [] (fun c hc => by cases hc)
    (Nat.le_add_right _ 2)
  rw [List.append_nil] at hread
  have hread : readValue (2 * v.pretty.length + 2) v.pretty = some (v, []) := hread
  unfold read?
  rw [hread]
  rfl

end MemberOutline.Json
