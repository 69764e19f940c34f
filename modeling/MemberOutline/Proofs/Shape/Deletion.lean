import MemberOutline.Proofs.Shape.OpenArguments
import MemberOutline.Proofs.Shape.Resolving

/-!
# Type arguments dropped from the leading text

Dropping the type arguments deletes them from the leading text and does nothing else
(`leadingText_of_arguments`). What is deleted are the type arguments at depth zero that their own
`>` closes before the leading text ends, all of them and no others, in their order; kept, each is
what the scan has collected from its `<` to its `>`.

The proof goes along the scan. At each place the type arguments that it keeps apart are those closed
so far (`Recorded`). A step joins others to them only at a `>` that closes some (`Recorded.concat`),
and at such a `>` there are just these, since two `<` at depth zero cannot both be open
(`Arguments.IsClosed.eq_of_length`).
-/

namespace MemberOutline.Shape

open Text (anyStep)

/-- Type arguments in a text: what comes before their `<`, what they contain, and what comes after
their `>`. -/
structure Arguments where
  /-- The text before the `<`. -/
  before : Text
  /-- The text between the `<` and the `>`. -/
  body : Text
  /-- The text after the `>`. -/
  after : Text

namespace Arguments

/-- The whole text. -/
def text (g : Arguments) : Text := g.before ++ '<' :: (g.body ++ '>' :: g.after)

/-- The text up to the `>`. -/
def upToClose (g : Arguments) : Text := g.before ++ '<' :: g.body

/-- The type arguments stand at depth zero, and their own `>` closes them before the leading text
has ended. -/
def IsClosed (g : Arguments) : Prop :=
  ArgumentsClose g.before g.body g.after [] ∧
    ¬ ∃ collected, (Scan.ofText g.upToClose).leading = .ended collected

/-- What a scan that comes to the `>` has collected from the `<` on, and the `>`. -/
def buffered (g : Arguments) : Text :=
  match (Scan.ofText g.upToClose).leading with
  | .inside _ arguments gap => arguments ++ LeadingText.spaced gap '>'
  | _ => []

variable {g g' : Arguments} {t : Text}

/-- The text up to the `>`, the `>` and the text after it. -/
theorem text_eq (g : Arguments) : g.text = g.upToClose ++ '>' :: g.after := by
  simp [text, upToClose]

/-- How far the `>` is from the start. -/
theorem length_upToClose (g : Arguments) :
    g.upToClose.length = g.before.length + g.body.length + 1 := by
  simp [upToClose, Nat.add_assoc]

namespace IsClosed

/-- A scan comes to the `>` of type arguments that are closed with the leading text inside them. -/
theorem exists_quits (h : g.IsClosed) :
    ∃ s : Scan, s.OpenSince g.before g.body ('>' :: g.after) ∧ s.Quits '>' ∧
      Scan.ofText g.upToClose = s := by
  obtain ⟨⟨u, s, arrives, outside, hdepth, opens, inside, hout, htop⟩, hopen⟩ := h
  have hsince : s.OpenSince g.before g.body ('>' :: g.after) :=
    ⟨u, arrives, outside, hdepth, opens, inside⟩
  have hstate : Scan.ofText g.upToClose = s := Scan.ofText_eq_of_path hsince.path hout
  have hcoupled : s.Coupled :=
    hsince.path.keeps (fun _ seen c rest _ h => h.stride seen c rest) Scan.coupled_start
  rw [hstate] at hopen
  refine ⟨s, hsince, ⟨hout, rfl, htop, ?_⟩, hstate⟩
  cases hleading : s.leading with
  | outside collected gap =>
    -- Outside type arguments no group would be open.
    have hnone := hcoupled none (by simp [hleading, LeadingText.outermost?])
    simp [htop] at hnone
  | inside collected arguments gap => exact ⟨collected, arguments, gap, rfl⟩
  | ended collected => exact absurd ⟨collected, hleading⟩ hopen

/-- No walk comes to depth zero between the `<` and the `>`. -/
theorem not_inside (h : g.IsClosed) {way rest : Text} {u : Scan}
    (path : Text.Path id Scan.stride anyStep .start [] way rest u) (same : way ++ rest = g.text)
    (depth : u.groups = []) :
    way.length ≤ g.before.length ∨ g.upToClose.length < way.length := by
  obtain ⟨s, hsince, ⟨-, -, htop, -⟩, -⟩ := h.exists_quits
  rw [length_upToClose]
  exact hsince.not_inside (by rw [htop]; rfl) path same depth

/-- A scan is at depth zero after the `>`. -/
theorem exists_path_past (h : g.IsClosed) :
    ∃ u : Scan, Text.Path id Scan.stride anyStep .start [] (g.upToClose ++ ['>']) g.after u ∧
      u.groups = [] := by
  obtain ⟨s, hsince, ⟨hout, -, htop, -⟩, -⟩ := h.exists_quits
  have hclose : Text.Path id Scan.stride anyStep s (g.upToClose.reverse ++ []) ['>'] g.after
      s.closeAngle :=
    .cons_one trivial (Scan.stride_closeAngle hout (by rw [htop]; rfl) _ _) rfl .stay
  have hpast : Text.Path id Scan.stride anyStep .start [] (g.upToClose ++ ['>']) g.after
      s.closeAngle := .trans hsince.path hclose
  refine ⟨s.closeAngle, hpast, ?_⟩
  rw [Scan.groups_closeAngle, htop]
  rfl

/-- Of two type arguments in a text with the same `>` none begins later than the other. -/
theorem length_before_le (h : g.IsClosed) (h' : g'.IsClosed) (htext : g.text = g'.text)
    (hlength : g.upToClose.length = g'.upToClose.length) :
    g'.before.length ≤ g.before.length := by
  obtain ⟨⟨u, -, arrives, -, hdepth, -⟩, -⟩ := h'
  rcases h.not_inside arrives htext.symm hdepth with hle | hlt
  · exact hle
  · rw [hlength, length_upToClose] at hlt
    omega

/-- Type arguments in a text are known by their `>`. -/
theorem eq_of_length (h : g.IsClosed) (h' : g'.IsClosed) (htext : g.text = g'.text)
    (hlength : g.upToClose.length = g'.upToClose.length) : g = g' := by
  have hbefore : g.before.length = g'.before.length :=
    Nat.le_antisymm (h'.length_before_le h htext.symm hlength.symm)
      (h.length_before_le h' htext hlength)
  rw [length_upToClose, length_upToClose] at hlength
  obtain ⟨heq, hrest⟩ := List.append_inj htext hbefore
  obtain ⟨hbody, hafter⟩ := List.append_inj (List.cons.inj hrest).2 (by omega)
  cases g
  cases g'
  simp only [mk.injEq]
  exact ⟨heq, hbody, (List.cons.inj hafter).2⟩

/-- A step that covers the `>` of closed type arguments stands at it. -/
theorem quits_of_covered (h : g.IsClosed) {s : Scan} {way more after : Text} {c : Char}
    (path : Text.Path id Scan.stride anyStep .start [] way (c :: (more ++ after)) s)
    (covers : (more ++ after).take
      (id (Scan.stride s way.reverse c (more ++ after)).1 - 1) = more)
    (same : way ++ c :: (more ++ after) = g.text) (hle : way.length ≤ g.upToClose.length)
    (hlt : g.upToClose.length < (way ++ c :: more).length) :
    g.upToClose = way ∧ s.Quits c := by
  obtain ⟨v, hsince, hquits, -⟩ := h.exists_quits
  rw [text_eq] at same
  obtain ⟨x, hway, hrest, hon⟩ := path.onward_of_le hsince.path same hle
  by_cases hnil : x = []
  · subst hnil
    obtain ⟨rfl, -⟩ := List.cons.inj hrest
    cases hon
    exact ⟨hway.trans (List.append_nil way), hquits⟩
  · -- Otherwise the scan would have come to the `>` by going on past the step.
    have hlong := hon.length_le_of_step hnil hrest.symm (by simpa using covers)
    change g.upToClose = way ++ x at hway
    simp only [hway, List.length_append, List.length_cons] at hlt
    omega

end IsClosed

end Arguments

/-! ## What is recorded -/

/-- The type arguments that a scan keeps apart in the leading text of a text are those closed on its
way so far, in their order. -/
structure Recorded (t : Text) (s : Scan) (way : Text) (gs : List Arguments) : Prop where
  /-- The recorded type arguments are kept apart as they were collected. -/
  buffered : gs.map Arguments.buffered = s.leading.collected.groups.map Prod.snd
  /-- Recorded are those closed type arguments whose `>` is on the way. -/
  mem_iff : ∀ g, g ∈ gs ↔ g.text = t ∧ g.IsClosed ∧ g.upToClose.length < way.length
  /-- The `>` of each comes before the `<` of the next. -/
  order : gs.Pairwise fun g g' => g.upToClose.length < g'.before.length

namespace Recorded

variable {t way more after : Text} {s : Scan} {gs : List Arguments} {c : Char}

/-- At a `>` that closes type arguments at depth zero these are recorded as the last ones. -/
theorem concat (h : Recorded t s way gs) (hquits : s.Quits '>')
    (path : Text.Path id Scan.stride anyStep .start [] way ('>' :: after) s)
    (same : way ++ '>' :: after = t) : ∃ gs', Recorded t s.closeAngle (way ++ ['>']) gs' := by
  obtain ⟨hout, -, htop, collected, arguments, gap, hleading⟩ := hquits
  obtain ⟨before, body, rfl, hsince⟩ := Scan.exists_openSince path (by rw [htop]; rfl)
  let g : Arguments := ⟨before, body, after⟩
  have hstate : Scan.ofText g.upToClose = s := Scan.ofText_eq_of_path path hout
  have htext : g.text = t := g.text_eq.trans same
  have hclosed : g.IsClosed := by
    refine ⟨?_, ?_⟩
    · obtain ⟨u, arrives, outside, hdepth, opens, inside⟩ := hsince
      exact ⟨u, s, arrives, outside, hdepth, opens, inside, hout, htop⟩
    · rw [hstate, hleading]
      rintro ⟨_, ⟨⟩⟩
  have hbuffered : g.buffered = arguments ++ LeadingText.spaced gap '>' := by
    rw [Arguments.buffered, hstate, hleading]
  have hlength : (g.upToClose ++ ['>']).length = g.upToClose.length + 1 := by
    rw [List.length_append, List.length_singleton]
  refine ⟨gs ++ [g], ?_, fun g' => ?_, ?_⟩
  · rw [Scan.groups_closeAngle_of_inside htop hleading, List.map_append, List.map_append,
      h.buffered, List.map_singleton, List.map_singleton, hbuffered]
  · rw [List.mem_append, List.mem_singleton, h.mem_iff]
    change _ ↔ _ ∧ _ ∧ g'.upToClose.length < (g.upToClose ++ ['>']).length
    rw [hlength, Nat.lt_succ_iff_lt_or_eq]
    constructor
    · rintro (⟨htext', hclosed', hlt⟩ | rfl)
      · exact ⟨htext', hclosed', .inl hlt⟩
      · exact ⟨htext, hclosed, .inr rfl⟩
    · rintro ⟨htext', hclosed', hlt | heq⟩
      · exact .inl ⟨htext', hclosed', hlt⟩
      · exact .inr (hclosed'.eq_of_length hclosed (htext'.trans htext.symm) heq)
  · refine List.pairwise_append.2 ⟨h.order, List.pairwise_singleton _ _, fun p hp q hq => ?_⟩
    obtain rfl : q = g := List.mem_singleton.1 hq
    obtain ⟨hptext, hpclosed, hplt⟩ := (h.mem_iff p).1 hp
    -- After the `>` of the earlier ones the scan is at depth zero.
    obtain ⟨u, hpast, hdepth⟩ := hpclosed.exists_path_past
    have hsame : (p.upToClose ++ ['>']) ++ p.after = g.text := by
      rw [List.append_assoc, List.singleton_append, ← p.text_eq, hptext, htext]
    have hout := hclosed.not_inside hpast hsame hdepth
    change p.upToClose.length < g.upToClose.length at hplt
    rw [List.length_append, List.length_singleton] at hout
    omega

/-- A step that closes no type arguments at depth zero records nothing. -/
theorem pass (h : Recorded t s way gs) (hquits : ¬ s.Quits c)
    (path : Text.Path id Scan.stride anyStep .start [] way (c :: (more ++ after)) s)
    (covers : (more ++ after).take
      (id (Scan.stride s way.reverse c (more ++ after)).1 - 1) = more)
    (same : way ++ c :: (more ++ after) = t) :
    Recorded t (Scan.stride s way.reverse c (more ++ after)).2 (way ++ c :: more) gs := by
  have hgroups := (Scan.quits_or_groups_eq s way.reverse c (more ++ after)).resolve_left hquits
  refine ⟨by rw [h.buffered, hgroups], fun g => ?_, h.order⟩
  rw [h.mem_iff]
  refine and_congr_right fun htext => and_congr_right fun hclosed => ?_
  refine ⟨fun hlt => ?_, fun hlt => ?_⟩
  · rw [List.length_append]
    exact Nat.lt_add_right _ hlt
  · by_contra hle
    have hat := hclosed.quits_of_covered path covers (same.trans htext.symm) (Nat.le_of_not_lt hle)
      hlt
    exact hquits hat.2

/-- In the end all closed type arguments are recorded. -/
theorem exists_ofText (t : Text) : ∃ gs, Recorded t (Scan.ofText t) t gs := by
  refine (Text.path_walk Scan.start [] t).keeps_split
    (motive := fun s way _ => ∃ gs, Recorded t s way gs) ?_ ?_
  · rintro s way c more after same path covers ⟨gs, hgs⟩
    rw [List.append_nil] at same
    by_cases hquits : s.Quits c
    · obtain ⟨hout, rfl, htop, -⟩ := id hquits
      rw [Scan.stride_closeAngle hout (by rw [htop]; rfl)] at covers ⊢
      obtain rfl : [] = more := covers
      exact hgs.concat hquits path same
    · exact ⟨gs, hgs.pass hquits path covers same⟩
  · refine ⟨[], rfl, fun g => ?_, List.Pairwise.nil⟩
    simp

end Recorded

/-! ## The leading text -/

/-- Type arguments that were kept apart with a text before each are pieces of text with type
arguments between them. -/
theorem exists_pieces {groups : List (Text × Text)} {gs : List Arguments}
    (h : gs.map Arguments.buffered = groups.map Prod.snd) :
    ∃ pieces : List (Text × Arguments), pieces.map Prod.snd = gs ∧
      pieces.map (fun (piece, g) => (piece, g.buffered)) = groups := by
  induction groups generalizing gs with
  | nil =>
    obtain rfl : gs = [] := List.map_eq_nil_iff.1 h
    exact ⟨[], rfl, rfl⟩
  | cons p groups ih =>
    obtain ⟨g, gs, rfl, hg, hgs⟩ := List.map_eq_cons_iff.1 h
    obtain ⟨pieces, rfl, rfl⟩ := ih hgs
    obtain ⟨piece, arguments⟩ := p
    obtain rfl : g.buffered = arguments := hg
    exact ⟨(piece, g) :: pieces, rfl, rfl⟩

/-- The leading text with the type arguments and without them are the same pieces of text, with the
type arguments between them or nothing. The type arguments are those at depth zero that their own
`>` closes before the leading text ends, in their order, and dropping or keeping them as soon as
they close comes to the same. -/
theorem leadingText_of_arguments (t : Text) :
    ∃ (pieces : List (Text × Arguments)) (last : Text),
      (∀ g, g ∈ pieces.map Prod.snd ↔ g.text = t ∧ g.IsClosed) ∧
      (pieces.map Prod.snd).Pairwise (fun g g' => g.upToClose.length < g'.before.length) ∧
      (∀ g ∈ pieces.map Prod.snd,
        g.buffered.head? = some '<' ∧ g.buffered.getLast? = some '>') ∧
      (Shape.ofText false t).leadingText =
        pieces.flatMap (fun (piece, g) => piece ++ g.buffered) ++ last ∧
      (Shape.ofText true t).leadingText = pieces.flatMap Prod.fst ++ last ∧
      (Shape.ofText true t).sequence = (Shape.ofText false t).sequence ∧
      ∀ strip, shapeResolving strip t = Shape.ofText strip t := by
  obtain ⟨gs, hgs⟩ := Recorded.exists_ofText t
  obtain ⟨pieces, hpieces, hgroups⟩ := exists_pieces hgs.buffered
  have hattached := Scan.attached_ofText t
  refine ⟨pieces, (Scan.ofText t).leading.collected.text, fun g => ?_, ?_, fun g hg => ?_, ?_, ?_,
    rfl, fun strip => shape_resolving strip t⟩
  · rw [hpieces, hgs.mem_iff]
    refine and_congr_right fun htext => and_iff_left ?_
    rw [← htext, g.text_eq, List.length_append, List.length_cons]
    omega
  · rw [hpieces]
    exact hgs.order
  · rw [hpieces] at hg
    have hmem := List.mem_map_of_mem (f := Arguments.buffered) hg
    rw [hgs.buffered] at hmem
    obtain ⟨p, hp, hbuffered⟩ := List.mem_map.1 hmem
    rw [← hbuffered]
    exact ⟨hattached.first p hp, hattached.last p hp⟩
  · rw [Shape.ofText, Scan.shape, Collected.render, ← hgroups, List.flatMap_map]
    rfl
  · rw [Shape.ofText, Scan.shape, Collected.render, ← hgroups, List.flatMap_map]
    rfl

end MemberOutline.Shape
