import MemberOutline.Proofs.Text.Path

/-!
# Reading a text by positions

A walk sees a text as the characters before it and those after it, so it cannot look outside the
text. A loop that keeps a position instead could: here a read at a position fails where the text has
no character, and `Run` is a loop whose steps read in this way and never fail.

A step by positions that reads as the stride of a walk does (`ReadsAs`) makes a loop of the walk
(`exists_run`): the loop has the stops and the final state of the walk, and it ends at the end of
the text or past it as far as its last step asks for more than there is. Its positions increase
(`Run.increasing`).
-/

namespace MemberOutline.Text

/-! ## Reads -/

/-- The character at a position. The read fails if the text has none there. -/
def charAt (t : Text) (i : Nat) : Except Nat Char :=
  match t[i]? with
  | some c => .ok c
  | none => .error i

/-- The characters from one position up to another one. The read fails if the first one is greater
than the other one or this is past the end. -/
def slice (t : Text) (first past : Nat) : Except Nat Text :=
  if past < first then .error first
  else if t.length < past then .error past
  else .ok ((t.take past).drop first)

/-- A read that does not fail hands on what it finds. -/
theorem ok_bind {α β ε : Type} (found : α) (next : α → Except ε β) :
    (Except.ok found >>= next) = next found := rfl

variable {t : Text}

/-- The character after a text that comes first. -/
theorem charAt_append (a b : Text) (c : Char) : charAt (a ++ c :: b) a.length = .ok c := by
  simp [charAt]

/-- The character before the end of a text that comes first. -/
theorem charAt_before (a b : Text) (c : Char) :
    charAt ((a ++ [c]) ++ b) ((a ++ [c]).length - 1) = .ok c := by
  simp [charAt]

/-- The character after the one that comes next. -/
theorem getElem?_append_succ (a b : Text) (c : Char) : (a ++ c :: b)[a.length + 1]? = b.head? := by
  rw [List.getElem?_append_right (Nat.le_add_right _ 1), Nat.add_sub_cancel_left,
    List.getElem?_cons_succ, List.head?_eq_getElem?]

/-- Positions in order inside the text and at its end give the characters between them. -/
theorem slice_eq {first past : Nat} (order : first ≤ past) (inside : past ≤ t.length) :
    slice t first past = .ok ((t.take past).drop first) := by
  rw [slice, if_neg (Nat.not_lt.2 order), if_neg (Nat.not_lt.2 inside)]

/-! ## Loops -/

variable {State Answer : Type} {width : Answer → Nat} {stride : Stride State Answer}

/-- A step by positions: from a text, the state and a position to an answer and the state to go on
with. It fails at a read outside the text. -/
abbrev StepAt (State Answer : Type) := Text → State → Nat → Except Nat (Answer × State)

variable {stepAt : StepAt State Answer} {s final : State} {i last : Nat}
  {on : List (Stop State Answer)}

/-- A loop through a text, from a state and a position on: its stops, the state in which it ends,
and the position at which it does. As long as its position is inside the text, it takes a step
there, which does not fail, and goes on past the characters that the step covers. -/
inductive Run (width : Answer → Nat) (stepAt : StepAt State Answer) (t : Text) :
    State → Nat → List (Stop State Answer) → State → Nat → Prop
  /-- The position is not inside the text. -/
  | done {s : State} {i : Nat} (past : t.length ≤ i) : Run width stepAt t s i [] s i
  /-- It takes a step and goes on. -/
  | step {s next final : State} {i last : Nat} {answer : Answer} {on : List (Stop State Answer)}
      (inside : i < t.length) (reads : stepAt t s i = .ok (answer, next))
      (onward : Run width stepAt t next (i + width answer) on final last) :
      Run width stepAt t s i (⟨i, answer, next⟩ :: on) final last

/-- A step by positions reads as a stride does: at every position inside a text it does not fail,
and does what the stride of a walk does there. -/
def ReadsAs (stepAt : StepAt State Answer) (stride : Stride State Answer) : Prop :=
  ∀ a s c b, stepAt (a ++ c :: b) s a.length = .ok (stride s a.reverse c b)

/-- What a step by positions does at any position inside a text. -/
theorem ReadsAs.at_position (reads : ReadsAs stepAt stride) (s : State) (inside : i < t.length) :
    stepAt t s i = .ok (stride s (t.take i).reverse t[i] (t.drop (i + 1))) := by
  have hsplit : t.take i ++ t[i] :: t.drop (i + 1) = t := by
    rw [← List.drop_eq_getElem_cons inside, List.take_append_drop]
  have hstep := reads (t.take i) s t[i] (t.drop (i + 1))
  rwa [hsplit, List.length_take_of_le (Nat.le_of_lt inside)] at hstep

/-- The stops of a loop are inside the text, at or after the position where it starts. -/
theorem Run.mem_range (h : Run width stepAt t s i on final last) :
    ∀ v ∈ on, i ≤ v.position ∧ v.position < t.length := by
  induction h with
  | done _ => simp
  | step inside _ _ ih =>
    intro v hv
    rcases List.mem_cons.1 hv with rfl | hv
    · exact ⟨Nat.le_refl _, inside⟩
    · obtain ⟨hle, hlt⟩ := ih v hv
      exact ⟨Nat.le_trans (Nat.le_add_right _ _) hle, hlt⟩

/-- If every step covers a character, the positions of a loop increase. -/
theorem Run.increasing (reads : ReadsAs stepAt stride)
    (advances : ∀ s seen c rest, 1 ≤ width (stride s seen c rest).1)
    (h : Run width stepAt t s i on final last) : (on.map (·.position)).Pairwise (· < ·) := by
  induction h with
  | done _ => exact .nil
  | @step s next final i last answer on inside hread onward ih =>
    refine List.pairwise_cons.2 ⟨fun p hp => ?_, ih⟩
    obtain ⟨v, hv, rfl⟩ := List.mem_map.1 hp
    have hle := (onward.mem_range v hv).1
    have hpos : 1 ≤ width answer := by
      have hsame := hread.symm.trans (reads.at_position s inside)
      have hfirst := advances s (t.take i).reverse t[i] (t.drop (i + 1))
      rwa [← Except.ok.inj hsame] at hfirst
    show i < v.position
    omega

/-- A step that ends within the text leads on from the place after it. -/
theorem Run.of_stride {a more after : Text} {c : Char} (reads : ReadsAs stepAt stride)
    (covers : width (stride s a.reverse c (more ++ after)).1 = more.length + 1)
    (onward : Run width stepAt ((a ++ c :: more) ++ after) (stride s a.reverse c (more ++ after)).2
      (a ++ c :: more).length on final last) :
    Run width stepAt (a ++ c :: (more ++ after)) s a.length
      (⟨a.length, (stride s a.reverse c (more ++ after)).1,
        (stride s a.reverse c (more ++ after)).2⟩ :: on) final last := by
  have htext : (a ++ c :: more) ++ after = a ++ c :: (more ++ after) := by simp
  have hnext : (a ++ c :: more).length =
      a.length + width (stride s a.reverse c (more ++ after)).1 := by
    rw [covers, List.length_append, List.length_cons]
  rw [htext, hnext] at onward
  exact .step (by simp) (reads a s c (more ++ after)) onward

/-- A walk from a place of a text on is a loop. If its steps ask for at most one character more than
there is, and this only in the end, the loop ends at the end of the text or right after it. -/
theorem exists_run (width : Answer → Nat) (Beyond : Char → State → Prop)
    (reads : ReadsAs stepAt stride)
    (reaches : ∀ s seen c rest, width (stride s seen c rest).1 ≤ rest.length + 1 ∨
      rest = [] ∧ width (stride s seen c rest).1 = 2 ∧ Beyond c (stride s seen c rest).2)
    (advances : ∀ s seen c rest, 1 ≤ width (stride s seen c rest).1)
    (a t : Text) (s : State) :
    ∃ last, Run width stepAt (a ++ t) s a.length (stops width stride s a.length 0 a.reverse t)
        (walk width stride s 0 a.reverse t) last ∧
      (last = (a ++ t).length ∨ last = (a ++ t).length + 1 ∧
        ∃ c ∈ (a ++ t).getLast?, Beyond c (walk width stride s 0 a.reverse t)) := by
  -- A step may cover any part of the rest, so the induction is on the length.
  induction hn : t.length using Nat.strongRecOn generalizing a t s with
  | ind n ih =>
    cases t with
    | nil => exact ⟨a.length, .done (by simp), .inl (by simp)⟩
    | cons c rest =>
      have hpos := advances s a.reverse c rest
      obtain ⟨k, hk⟩ : ∃ k, width (stride s a.reverse c rest).1 = k + 1 :=
        Nat.exists_eq_succ_of_ne_zero (Nat.pos_iff_ne_zero.1 hpos)
      have hcovers : width (stride s a.reverse c rest).1 - 1 = k := by rw [hk, Nat.add_sub_cancel]
      rw [stops_cons s a.length a.reverse c rest hcovers, walk_cons s a.reverse c rest hcovers]
      rcases reaches s a.reverse c rest with hwidth | ⟨rfl, hwidth, hbeyond⟩
      · -- The step ends within the text, and the loop goes on right after it.
        obtain ⟨more, after, rfl, rfl⟩ : ∃ more after, rest = more ++ after ∧ more.length = k :=
          ⟨rest.take k, rest.drop k, (List.take_append_drop k rest).symm,
            List.length_take_of_le (by omega)⟩
        have hshorter : after.length < n := by
          rw [← hn, List.length_cons, List.length_append]
          omega
        have htext : (a ++ c :: more) ++ after = a ++ c :: (more ++ after) := by simp
        have hseen : (a ++ c :: more).reverse = more.reverse ++ c :: a.reverse := by simp
        have hposition : (a ++ c :: more).length = a.length + 1 + more.length := by
          rw [List.length_append, List.length_cons, Nat.add_assoc, Nat.add_comm 1]
        obtain ⟨last, hrun, hlast⟩ := ih after.length hshorter (a ++ c :: more) after
          (stride s a.reverse c (more ++ after)).2 rfl
        rw [List.take_left, List.drop_left, ← hposition, ← hseen]
        rw [htext] at hlast
        exact ⟨last, .of_stride reads hk hrun, hlast⟩
      · -- The step at the last character asks for one more.
        obtain rfl : k = 1 := by omega
        refine ⟨a.length + 2, .step (by simp) (reads a s c []) ?_,
          .inr ⟨by simp, c, by simp, hbeyond⟩⟩
        rw [hwidth]
        exact .done (by simp)

end MemberOutline.Text
