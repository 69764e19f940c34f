import MemberOutline.Text.Walk
import Mathlib.Data.List.Basic

/-!
# The path of a walk

A walk stops at some places of a text and passes over the characters that its steps cover. `Path`
says that it goes through a stretch of text and stops right after it, in which state it does so, and
that every step on the way meets a condition. Paths join (`Path.trans`), a path leaves the rest of
the walk as it is (`Path.walk_eq`), and there is one to the end of every text (`path_walk`), so what
each step keeps holds wherever the walk stops and in the end (`Path.keeps`, `walk_keeps`).
-/

namespace MemberOutline.Text

variable {State Answer : Type} {width : Answer → Nat} {stride : Stride State Answer}

/-- A condition on a step: on the state before it, the characters before it, the nearest first, the
character it looks at and those after it. -/
abbrev Condition (State : Type) := State → Text → Char → Text → Prop

/-- The condition that every step meets. -/
abbrev anyStep : Condition State := fun _ _ _ _ => True

/-- A walk goes through a stretch of text, by steps that meet the condition, and stops right after
it: from a state and the characters seen, over the stretch, with the rest of the text after it, to
another state. A step covers the character it looks at and `more`; only where the text ends these
can be fewer than it answers. -/
inductive Path (width : Answer → Nat) (stride : Stride State Answer) (via : Condition State) :
    State → Text → Text → Text → State → Prop
  /-- The walk has stopped already. -/
  | stay {s : State} {seen rest : Text} : Path width stride via s seen [] rest s
  /-- The walk takes a step and goes on. -/
  | step {s t : State} {seen more way rest : Text} {c : Char}
      (meets : via s seen c (more ++ (way ++ rest)))
      (covers : (more ++ (way ++ rest)).take
        (width (stride s seen c (more ++ (way ++ rest))).1 - 1) = more)
      (onward : Path width stride via (stride s seen c (more ++ (way ++ rest))).2
        (more.reverse ++ c :: seen) way rest t) :
      Path width stride via s seen (c :: (more ++ way)) rest t

/-- A walk that starts inside the characters of a step passes over them first. -/
theorem walk_covered (s : State) (k : Nat) (seen t : Text) :
    walk width stride s k seen t =
      walk width stride s 0 ((t.take k).reverse ++ seen) (t.drop k) := by
  -- Each character covered moves from the rest to those seen.
  induction t generalizing k seen with
  | nil => simp [walk]
  | cons c rest ih =>
    cases k with
    | zero => simp
    | succ k =>
      rw [walk, ih]
      simp

/-- A step of a walk leads past the characters it covers. -/
theorem walk_cons (s : State) (seen : Text) (c : Char) (rest : Text) {k : Nat}
    (covers : width (stride s seen c rest).1 - 1 = k) :
    walk width stride s 0 seen (c :: rest) =
      walk width stride (stride s seen c rest).2 0 ((rest.take k).reverse ++ c :: seen)
        (rest.drop k) := by
  rw [walk, ← covers, ← walk_covered]

/-- The stops of a walk that starts inside the characters of a step are those after them. -/
theorem stops_covered (s : State) (n k : Nat) (seen t : Text) :
    stops width stride s n k seen t =
      stops width stride s (n + (t.take k).length) 0 ((t.take k).reverse ++ seen) (t.drop k) := by
  induction t generalizing n k seen with
  | nil => simp [stops]
  | cons c rest ih =>
    cases k with
    | zero => simp
    | succ k =>
      rw [stops, ih]
      simp [Nat.add_comm, Nat.add_left_comm]

/-- The first stop of a walk, and those past the characters that its step covers. -/
theorem stops_cons (s : State) (n : Nat) (seen : Text) (c : Char) (rest : Text) {k : Nat}
    (covered : width (stride s seen c rest).1 - 1 = k) :
    stops width stride s n 0 seen (c :: rest) =
      ⟨n, (stride s seen c rest).1, (stride s seen c rest).2⟩ ::
        stops width stride (stride s seen c rest).2 (n + 1 + (rest.take k).length) 0
          ((rest.take k).reverse ++ c :: seen) (rest.drop k) := by
  rw [stops, ← covered, ← stops_covered]

/-- The stops of a walk are at or after the place where it starts. -/
theorem le_position_of_mem_stops {s : State} {n k : Nat} {seen t : Text} {v : Stop State Answer}
    (h : v ∈ stops width stride s n k seen t) : n ≤ v.position := by
  induction t generalizing s n k seen with
  | nil => simp [stops] at h
  | cons c rest ih =>
    cases k with
    | succ k => exact Nat.le_of_succ_le (ih h)
    | zero =>
      rw [stops] at h
      rcases List.mem_cons.1 h with rfl | h
      · exact Nat.le_refl _
      · exact Nat.le_of_succ_le (ih h)

namespace Path

variable {via : Condition State} {s t u : State} {seen way onward rest : Text} {c : Char}

/-- What follows the characters that a step covers. -/
theorem drop_eq_of_take_eq {k : Nat} {more after : Text} (h : (more ++ after).take k = more) :
    (more ++ after).drop k = after := by
  have hsplit := List.take_append_drop k (more ++ after)
  rw [h] at hsplit
  exact List.append_cancel_left hsplit

/-- A step whose answer is known, over a character and `more`. -/
theorem cons (more : Text) {answer : Answer} (meets : via s seen c (more ++ (way ++ rest)))
    (takes : stride s seen c (more ++ (way ++ rest)) = (answer, u))
    (covers : width answer = more.length + 1)
    (onward : Path width stride via u (more.reverse ++ c :: seen) way rest t) :
    Path width stride via s seen (c :: (more ++ way)) rest t := by
  refine .step meets ?_ ?_
  · rw [takes, covers, Nat.add_sub_cancel, List.take_left]
  · rw [takes]
    exact onward

/-- A step over one character. -/
theorem cons_one {answer : Answer} (meets : via s seen c (way ++ rest))
    (takes : stride s seen c (way ++ rest) = (answer, u)) (covers : width answer = 1)
    (onward : Path width stride via u (c :: seen) way rest t) :
    Path width stride via s seen (c :: way) rest t :=
  cons [] meets takes covers onward

/-- A step over two characters. -/
theorem cons_two {answer : Answer} {d : Char} (meets : via s seen c (d :: (way ++ rest)))
    (takes : stride s seen c (d :: (way ++ rest)) = (answer, u)) (covers : width answer = 2)
    (onward : Path width stride via u (d :: c :: seen) way rest t) :
    Path width stride via s seen (c :: d :: way) rest t :=
  cons [d] meets takes covers onward

/-- A path of one step. -/
theorem one {more : Text} (meets : via s seen c (more ++ rest))
    (covers : (more ++ rest).take (width (stride s seen c (more ++ rest)).1 - 1) = more) :
    Path width stride via s seen (c :: more) rest (stride s seen c (more ++ rest)).2 := by
  have hpath : Path width stride via s seen (c :: (more ++ [])) rest
      (stride s seen c (more ++ ([] ++ rest))).2 := .step meets covers .stay
  rwa [List.append_nil, List.nil_append] at hpath

/-- Two paths, one after the other, are one. -/
theorem trans (first : Path width stride via s seen way (onward ++ rest) t)
    (second : Path width stride via t (way.reverse ++ seen) onward rest u) :
    Path width stride via s seen (way ++ onward) rest u := by
  generalize hrest : onward ++ rest = after at first
  induction first with
  | stay => exact second
  | @step s t seen more way after c meets covers _ ih =>
    subst hrest
    -- The first step is the same; only what comes after it is split once more.
    rw [List.cons_append, List.append_assoc]
    have hassoc : way ++ (onward ++ rest) = (way ++ onward) ++ rest := by
      rw [List.append_assoc]
    rw [hassoc] at meets covers ih
    refine .step meets covers (ih ?_ rfl)
    simpa [List.append_assoc] using second

/-- A path by steps that meet a condition also meets any weaker one. -/
theorem mono {via' : Condition State} (weaker : ∀ s seen c rest, via s seen c rest →
    via' s seen c rest) (h : Path width stride via s seen way rest t) :
    Path width stride via' s seen way rest t := by
  induction h with
  | stay => exact .stay
  | step meets covers _ ih => exact .step (weaker _ _ _ _ meets) covers ih

/-- After a path the walk goes on as if it had started there. -/
theorem walk_eq (h : Path width stride via s seen way rest t) :
    walk width stride s 0 seen (way ++ rest) =
      walk width stride t 0 (way.reverse ++ seen) rest := by
  induction h with
  | stay => rfl
  | @step s t seen more way rest c _ covers _ ih =>
    rw [List.cons_append, List.append_assoc, walk_cons _ _ _ _ rfl, covers,
      drop_eq_of_take_eq covers, ih]
    simp

/-- A step that leaves text after it answers how many characters it covers. -/
theorem width_eq {more after : Text} {k : Nat} (covers : (more ++ after).take (k - 1) = more)
    (hne : after ≠ []) : k - 1 = more.length := by
  have hlen := congrArg List.length covers
  have hpos := List.length_pos_of_ne_nil hne
  rw [List.length_take, List.length_append] at hlen
  omega

/-- A path is the same before other text, if no step that ends within the path can tell the two
texts apart. -/
theorem before_rest {rest' : Text} (h : Path width stride via s seen way rest t) (hne : rest ≠ [])
    (alike : ∀ s seen c within, width (stride s seen c (within ++ rest)).1 ≤ within.length + 1 →
      stride s seen c (within ++ rest') = stride s seen c (within ++ rest)) :
    Path width stride anyStep s seen way rest' t := by
  induction h with
  | stay => exact .stay
  | @step s t seen more way rest c _ covers _ ih =>
    -- The step ends within the path, so it does not reach the text after it.
    have hwidth := width_eq covers (by simp [hne])
    have hstep := alike s seen c (more ++ way) (by
      rw [List.append_assoc, List.length_append]
      omega)
    rw [List.append_assoc, List.append_assoc] at hstep
    refine .step trivial ?_ ?_
    · rw [hstep, hwidth, List.take_left]
    · rw [hstep]
      exact ih hne alike

/-- A path to the end of a text is the same before other text, if no step that ends within the path
can tell the two apart and no step that leads to a state like its last one asks for more text than
there is. Of the text before the end a step sees a suffix of the path. -/
theorem before_rest_of_end {rest' : Text} (Last : State → Prop)
    (h : Path width stride via s seen way [] t) (last : Last t)
    (ends : ∀ s seen c more, Last (stride s seen c more).2 →
      width (stride s seen c more).1 ≤ more.length + 1)
    (alike : ∀ s seen c within, c :: within <:+ way →
      width (stride s seen c within).1 ≤ within.length + 1 →
      stride s seen c (within ++ rest') = stride s seen c within) :
    Path width stride anyStep s seen way rest' t := by
  generalize hrest : ([] : Text) = rest at h
  induction h with
  | stay => exact .stay
  | @step s t seen more way rest d _ covers onward ih =>
    subst hrest
    rw [List.append_nil] at covers onward ih
    -- The last step ends with the text, and any other one before the text after it.
    have hwidth : width (stride s seen d (more ++ way)).1 - 1 = more.length := by
      by_cases hway : way = []
      · subst hway
        rw [List.append_nil] at covers onward ⊢
        have hend : (stride s seen d more).2 = t := by
          cases onward
          rfl
        have hle := ends s seen d more (by rw [hend]; exact last)
        have hlen := congrArg List.length covers
        rw [List.length_take] at hlen
        omega
      · exact width_eq covers hway
    have hstep := alike s seen d (more ++ way) List.suffix_rfl (by rw [List.length_append]; omega)
    rw [List.append_assoc] at hstep
    refine .step trivial ?_ ?_
    · rw [hstep, hwidth, List.take_left]
    · rw [hstep]
      refine ih last (fun s seen c within hwithin => alike s seen c within ?_) rfl
      exact hwithin.trans ((List.suffix_append more way).trans (List.suffix_cons d _))

/-- If every step on a path meets a condition, the path is one by steps that meet it. -/
theorem of_steps {via' : Condition State} (h : Path width stride via s seen way rest t)
    (meets : ∀ a c b u, way = a ++ c :: b → Path width stride via s seen a (c :: b ++ rest) u →
      via' u (a.reverse ++ seen) c (b ++ rest)) :
    Path width stride via' s seen way rest t := by
  induction h with
  | stay => exact .stay
  | @step s t seen more way rest c hmeets covers _ ih =>
    refine .step ?_ covers (ih ?_)
    · have hfirst := meets [] c (more ++ way) s rfl .stay
      rwa [List.append_assoc] at hfirst
    · -- A step further on is reached by the first step and the path from there.
      intro a d b u hway hpath
      subst hway
      rw [List.append_assoc] at hmeets covers hpath
      have hlater := meets (c :: (more ++ a)) d b u (by simp) (.step hmeets covers hpath)
      simpa using hlater

/-- The stops on a path come before those after it, and what its steps answer is known from the
condition that they meet. -/
theorem stops_eq (Known : Answer → Prop) (h : Path width stride via s seen way rest t)
    (known : ∀ s seen c rest, via s seen c rest → Known (stride s seen c rest).1) (n : Nat) :
    ∃ on, stops width stride s n 0 seen (way ++ rest) =
        on ++ stops width stride t (n + way.length) 0 (way.reverse ++ seen) rest ∧
      ∀ v ∈ on, v.position < n + way.length ∧ Known v.answer := by
  induction h generalizing n with
  | stay => exact ⟨[], rfl, by simp⟩
  | @step s t seen more way rest c meets covers _ ih =>
    obtain ⟨on, hon, hall⟩ := ih (n + 1 + more.length)
    have hlen : n + 1 + more.length + way.length = n + (c :: (more ++ way)).length := by
      rw [List.length_cons, List.length_append]
      omega
    rw [hlen] at hon hall
    -- The first stop is where the path begins; the others are past what its step covers.
    let taken := stride s seen c (more ++ (way ++ rest))
    refine ⟨⟨n, taken.1, taken.2⟩ :: on, ?_, ?_⟩
    · rw [List.cons_append, List.append_assoc, stops_cons _ _ _ _ _ rfl, covers,
        drop_eq_of_take_eq covers, hon]
      simp [taken]
    · intro v hv
      rcases List.mem_cons.1 hv with rfl | hv
      · exact ⟨by simp, known _ _ _ _ meets⟩
      · exact hall v hv

/-- Of two paths through the same text the longer one goes on from the end of the shorter. -/
theorem onward_of_le {via' : Condition State} {way' rest' : Text}
    (short : Path width stride via s seen way rest t)
    (long : Path width stride via' s seen way' rest' u) (same : way ++ rest = way' ++ rest')
    (hle : way.length ≤ way'.length) :
    ∃ onward, way' = way ++ onward ∧ rest = onward ++ rest' ∧
      Path width stride via' t (way.reverse ++ seen) onward rest' u := by
  induction short generalizing way' with
  | stay => exact ⟨way', rfl, same, long⟩
  | @step s t seen more way rest c _ covers _ ih =>
    cases long with
    | stay => simp at hle
    | @step _ _ _ more' way' _ _ meets' covers' onward' =>
      -- Both take the same first step, and it covers the same characters.
      simp only [List.cons_append, List.append_assoc, List.cons.injEq] at same
      obtain ⟨rfl, htext⟩ := same
      rw [← htext] at covers' onward'
      obtain rfl : more = more' := covers.symm.trans covers'
      have hrest := List.append_cancel_left htext
      have hlength : way.length ≤ way'.length := by
        simpa using hle
      obtain ⟨onward, rfl, hsplit, hpath⟩ := ih onward' hrest hlength
      refine ⟨onward, by simp, hsplit, ?_⟩
      simpa using hpath

/-- There is no stop within the characters that a step covers. -/
theorem length_le_of_step {more after way' rest' : Text}
    (h : Path width stride via s seen way' rest' t) (hne : way' ≠ [])
    (same : way' ++ rest' = c :: (more ++ after))
    (covers : (more ++ after).take (width (stride s seen c (more ++ after)).1 - 1) = more) :
    more.length < way'.length := by
  cases h with
  | stay => contradiction
  | @step _ _ _ more' way' _ _ _ covers' _ =>
    simp only [List.cons_append, List.append_assoc, List.cons.injEq] at same
    obtain ⟨rfl, htext⟩ := same
    rw [htext] at covers'
    obtain rfl : more = more' := covers.symm.trans covers'
    rw [List.length_cons, List.length_append]
    omega

/-- What every step keeps of a state and the characters before it holds at the end of a path. -/
theorem keeps_along {motive : State → Text → Prop} (step : ∀ s seen c more after,
      via s seen c (more ++ after) →
      (more ++ after).take (width (stride s seen c (more ++ after)).1 - 1) = more →
      motive s seen → motive (stride s seen c (more ++ after)).2 (more.reverse ++ c :: seen))
    (h : Path width stride via s seen way rest t) (start : motive s seen) :
    motive t (way.reverse ++ seen) := by
  induction h with
  | stay => exact start
  | step meets covers _ ih =>
    have honward := ih (step _ _ _ _ _ meets covers start)
    simpa using honward

/-- What holds before a text, and is kept by each step from a place that a path through it comes to,
holds at the end of the path. -/
theorem keeps_split {motive : State → Text → Text → Prop}
    (step : ∀ u a c more after, a ++ c :: (more ++ after) = way ++ rest →
      Path width stride via s [] a (c :: (more ++ after)) u →
      (more ++ after).take (width (stride u a.reverse c (more ++ after)).1 - 1) = more →
      motive u a (c :: (more ++ after)) →
      motive (stride u a.reverse c (more ++ after)).2 (a ++ c :: more) after)
    (h : Path width stride via s [] way rest t) (start : motive s [] (way ++ rest)) :
    motive t way rest := by
  -- Each step is taken at a place of the text that a path leads to.
  have hreached : Path width stride (fun u seen c more => seen.reverse ++ c :: more = way ++ rest ∧
      Path width stride via s [] seen.reverse (c :: more) u) s [] way rest t := h.of_steps (by
    rintro a c b u rfl hpath
    simp only [List.append_nil, List.reverse_reverse]
    exact ⟨by simp, hpath⟩)
  have hend := hreached.keeps_along
    (motive := fun u seen => ∀ after, seen.reverse ++ after = way ++ rest →
      motive u seen.reverse after) (by
      rintro u seen c more after ⟨htext, hpath⟩ covers hkept after' hafter
      obtain rfl : after' = after := by
        have hsame := hafter.trans htext.symm
        simpa using hsame
      have hnext := step u seen.reverse c more after' htext hpath
        (by rw [List.reverse_reverse]; exact covers) (hkept _ htext)
      simpa using hnext)
    (by
      rintro after hafter
      obtain rfl : after = way ++ rest := by simpa using hafter
      exact start)
  simpa using hend rest (by simp)

/-- What every step keeps holds at the end of a path. -/
theorem keeps {Kept : State → Prop} (step : ∀ s seen c rest, via s seen c rest → Kept s →
    Kept (stride s seen c rest).2) (h : Path width stride via s seen way rest t) (start : Kept s) :
    Kept t := by
  induction h with
  | stay => exact start
  | step meets _ _ ih => exact ih (step _ _ _ _ meets start)

end Path

/-- A walk takes a path to the end of the text. -/
theorem path_walk (s : State) (seen t : Text) :
    Path width stride anyStep s seen t [] (walk width stride s 0 seen t) := by
  -- A step may cover any part of the rest, so the induction is on the length.
  induction hn : t.length using Nat.strongRecOn generalizing s seen t with
  | ind n ih =>
    cases t with
    | nil => exact .stay
    | cons c rest =>
      obtain ⟨k, hk⟩ : ∃ k, width (stride s seen c rest).1 - 1 = k := ⟨_, rfl⟩
      rw [walk_cons _ _ _ _ hk]
      have hsplit : rest = rest.take k ++ (rest.drop k ++ []) := by simp
      have hlen : (rest.drop k).length < n := by
        rw [← hn, List.length_drop, List.length_cons]
        omega
      have hpath : Path width stride anyStep s seen (c :: (rest.take k ++ rest.drop k)) []
          (walk width stride (stride s seen c rest).2 0 ((rest.take k).reverse ++ c :: seen)
            (rest.drop k)) := by
        refine .step trivial ?_ ?_
        · rw [← hsplit, hk]
        · rw [← hsplit]
          exact ih _ hlen _ _ _ rfl
      rwa [List.take_append_drop] at hpath

/-- What every step keeps holds at the end of a walk. -/
theorem walk_keeps {Kept : State → Prop} (step : ∀ s seen c rest, Kept s →
    Kept (stride s seen c rest).2) (s : State) (seen t : Text) (start : Kept s) :
    Kept (walk width stride s 0 seen t) :=
  (path_walk s seen t).keeps (fun s seen c rest _ => step s seen c rest) start

/-- If no step can tell whether a text ends or more of it follows, a walk goes on where it would
have ended, past the characters that its last step covers. -/
theorem exists_walk_append {more : Text} (alike : ∀ s seen c rest,
    stride s seen c (rest ++ more) = stride s seen c rest) (s : State) (k : Nat) (seen t : Text) :
    ∃ k', walk width stride s k seen (t ++ more) =
      walk width stride (walk width stride s k seen t) k' (t.reverse ++ seen) more := by
  induction t generalizing s k seen with
  | nil => exact ⟨k, rfl⟩
  | cons c rest ih =>
    rw [List.reverse_cons, List.append_assoc, List.singleton_append]
    cases k with
    | succ k => exact ih s k (c :: seen)
    | zero =>
      rw [List.cons_append, walk, walk, alike]
      exact ih _ _ (c :: seen)

/-- A walk goes the same way after other characters, if no step can tell the two apart. -/
theorem walk_after_alike (Alike : Text → Text → Prop)
    (cons : ∀ c seen seen', Alike seen seen' → Alike (c :: seen) (c :: seen'))
    (same : ∀ s seen seen' c rest, Alike seen seen' →
      stride s seen c rest = stride s seen' c rest)
    (s : State) (k : Nat) {seen seen' : Text} (t : Text) (alike : Alike seen seen') :
    walk width stride s k seen t = walk width stride s k seen' t := by
  induction t generalizing s k seen seen' with
  | nil => rfl
  | cons c rest ih =>
    cases k with
    | zero =>
      rw [walk, walk, same s seen seen' c rest alike]
      exact ih _ _ (cons c _ _ alike)
    | succ k =>
      rw [walk, walk]
      exact ih _ _ (cons c _ _ alike)

/-- What every step keeps between two states, covering as many characters from the one as from the
other, holds between the ends of two walks through a text. -/
theorem walk_related {Related : State → State → Prop}
    (step : ∀ s t seen c rest, Related s t →
      width (stride s seen c rest).1 = width (stride t seen c rest).1 ∧
        Related (stride s seen c rest).2 (stride t seen c rest).2)
    {s t : State} (k : Nat) (seen text : Text) (h : Related s t) :
    Related (walk width stride s k seen text) (walk width stride t k seen text) := by
  induction text generalizing s t k seen with
  | nil => exact h
  | cons c rest ih =>
    cases k with
    | succ k => exact ih k (c :: seen) h
    | zero =>
      obtain ⟨hwidth, hnext⟩ := step s t seen c rest h
      rw [walk, walk]
      dsimp only
      rw [hwidth]
      exact ih _ (c :: seen) hnext

/-- The state in which a walk stops right after a stretch of text whose first `covered` characters
belong to the step before, if it stops there and its steps meet the condition. -/
def arrival? (width : Answer → Nat) (stride : Stride State Answer)
    (via : State → Text → Char → Text → Bool) (s : State) (covered : Nat) (seen : Text) :
    Text → Text → Option State
  | [], rest => if covered = 0 ∨ rest = [] then some s else none
  | c :: way, rest =>
    match covered with
    | covered + 1 => arrival? width stride via s covered (c :: seen) way rest
    | 0 =>
      let (answer, next) := stride s seen c (way ++ rest)
      if via s seen c (way ++ rest) then
        arrival? width stride via next (width answer - 1) (c :: seen) way rest
      else none

/-- A walk that arrives has taken a path. -/
theorem path_of_arrival {via : State → Text → Char → Text → Bool} {s t : State} {k : Nat}
    {seen way rest : Text} (h : arrival? width stride via s k seen way rest = some t) :
    Path width stride (fun s seen c rest => via s seen c rest = true) s
        ((way.take k).reverse ++ seen) (way.drop k) rest t ∧
      (way ++ rest).take k = way.take k := by
  induction way generalizing s k seen with
  | nil =>
    simp only [arrival?, Option.ite_none_right_eq_some, Option.some.injEq] at h
    obtain ⟨hend, rfl⟩ := h
    refine ⟨by simpa using Path.stay, ?_⟩
    rcases hend with rfl | rfl <;> simp
  | cons c way ih =>
    cases k with
    | succ k =>
      obtain ⟨hpath, htake⟩ := ih h
      exact ⟨by simpa using hpath, by simpa using htake⟩
    | zero =>
      simp only [arrival?, Option.ite_none_right_eq_some] at h
      obtain ⟨hvia, harrives⟩ := h
      obtain ⟨hpath, htake⟩ := ih harrives
      generalize hk : width (stride s seen c (way ++ rest)).1 - 1 = k at hpath htake
      have hsplit : way.take k ++ (way.drop k ++ rest) = way ++ rest := by
        rw [← List.append_assoc, List.take_append_drop]
      have hstep : Path width stride (fun s seen c rest => via s seen c rest = true) s seen
          (c :: (way.take k ++ way.drop k)) rest t := by
        refine .step ?_ ?_ ?_
        · rw [hsplit]
          exact hvia
        · rw [hsplit, hk]
          exact htake
        · rw [hsplit]
          exact hpath
      rw [List.take_append_drop] at hstep
      exact ⟨by simpa using hstep, by simp⟩

end MemberOutline.Text
