import MemberOutline.Proofs.Shape.Attached
import MemberOutline.Proofs.Shape.Coupling
import MemberOutline.Proofs.Shape.Pairing

/-!
# What is collected and withheld while a scan goes on

A scan collects the leading text and the type arguments in it, and it withholds tokens. What it
holds back in this way follows from the groups that are open (`Scan.Consistent`), wherever the scan
stops (`consistent_of_path`). Three invariants each say a part of it: the leading text is coupled
with the outermost group (`Scan.Coupled`), the tokens withheld come in pairs (`Scan.Paired`), and
type arguments are attached to a word (`Scan.Attached`).
-/

namespace MemberOutline.Shape

open Text (anyStep)

namespace LeadingText

/-- Whether the leading text still goes on. -/
def isOpen : LeadingText → Bool
  | .ended _ => false
  | .outside _ _ | .inside _ _ _ => true

/-- The type arguments collected from their `<` on, in a text that stands inside some. -/
def arguments? : LeadingText → Option Text
  | .inside _ arguments _ => some arguments
  | .outside _ _ | .ended _ => none

/-- What is collected, less the type arguments that are being collected at the moment. -/
def settledText (strip : Bool) : LeadingText → Text
  | .outside collected _ | .inside collected _ _ | .ended collected => collected.render strip

end LeadingText

/-- A round group is open directly above the outermost groups, which are angles. -/
def RoundAboveAngles (groups : List Group) : Prop :=
  ∃ inner n, groups = inner ++ .round :: List.replicate (n + 1) .angle

/-- What is withheld are pairs of round brackets, and an opener after them exactly if a round group
is open directly above the outermost angles. -/
def PairsThenOpener (groups : List Group) (withheld : Text) : Prop :=
  ∃ pairs, RoundPairs pairs ∧ (RoundAboveAngles groups → withheld = pairs ++ ['(']) ∧
    (¬ RoundAboveAngles groups → withheld = pairs)

/-- Where a round group is open directly above the outermost angles, the outermost group is an
angle. -/
theorem RoundAboveAngles.getLast?_eq {groups : List Group} (h : RoundAboveAngles groups) :
    groups.getLast? = some .angle := by
  obtain ⟨inner, n, rfl⟩ := h
  simp [List.getLast?_cons, List.getLast?_append, List.getLast?_replicate]

/-- In a stack of angles no round group is open. -/
theorem not_roundAboveAngles_replicate (n : Nat) :
    ¬ RoundAboveAngles (List.replicate n .angle) := by
  rintro ⟨inner, m, hgroups⟩
  have hmem : Group.round ∈ List.replicate n Group.angle := by simp [hgroups]
  exact absurd (List.eq_of_mem_replicate hmem) (by decide)

namespace Scan

/-- What is collected and withheld fits the groups that are open. -/
structure Consistent (strip : Bool) (s : Scan) : Prop where
  /-- While the leading text goes on, nothing is open or the outermost group is an angle. -/
  outermost : s.leading.isOpen = true → s.groups = [] ∨ s.groups.getLast? = some .angle
  /-- Type arguments are being collected exactly if the leading text goes on and a group is open. -/
  arguments : s.leading.arguments?.isSome = true ↔ s.leading.isOpen = true ∧ s.groups ≠ []
  /-- Where type arguments are being collected there is text before them. -/
  text : s.leading.arguments?.isSome = true → s.leading.settledText strip ≠ []
  /-- A leading text that is complete collects none. -/
  complete : s.leading.isOpen = false → s.leading.arguments? = none
  /-- Nothing is withheld unless the outermost group is an angle. -/
  nothing : s.groups.getLast? ≠ some .angle → s.withheld = []
  /-- What is withheld comes in pairs, with an opener after them where one is still open. -/
  pairs : PairsThenOpener s.groups s.withheld

variable {s : Scan} {a b : Text}

/-- What is withheld where the tokens come in pairs. -/
theorem Paired.pairsThenOpener (h : s.Paired) : PairsThenOpener s.groups s.withheld := by
  cases h with
  | closed groups_eq withheld_eq _ =>
    have hnot : ¬ RoundAboveAngles s.groups := by
      rw [groups_eq]
      exact not_roundAboveAngles_replicate 0
    exact ⟨[], .nil, fun hround => absurd hround hnot, fun _ => withheld_eq⟩
  | @opened inner g _ _ groups_eq withheld_eq opener _ _ =>
    have hnot : ¬ RoundAboveAngles s.groups := by
      intro hround
      have hlast := hround.getLast?_eq
      rw [groups_eq, List.getLast?_concat, Option.some.injEq] at hlast
      exact Group.ne_angle_of_opener opener hlast
    exact ⟨[], .nil, fun hround => absurd hround hnot, fun _ => withheld_eq⟩
  | @angles n groups_eq pairs _ =>
    have hnot : ¬ RoundAboveAngles s.groups := by
      rw [groups_eq]
      exact not_roundAboveAngles_replicate (n + 1)
    exact ⟨_, pairs, fun hround => absurd hround hnot, fun _ => rfl⟩
  | @round inner n withheld groups_eq withheld_eq pairs _ =>
    exact ⟨withheld, pairs, fun _ => withheld_eq, fun hnot => absurd ⟨inner, n, groups_eq⟩ hnot⟩

/-- Where type arguments are being collected the text before them is not empty, whether type
arguments are dropped or kept. -/
theorem settledText_ne_nil (h : s.leading.Attached) (strip : Bool)
    (harguments : s.leading.arguments?.isSome = true) : s.leading.settledText strip ≠ [] := by
  cases hleading : s.leading with
  | outside collected gap => simp [hleading, LeadingText.arguments?] at harguments
  | inside collected arguments gap =>
    rw [hleading] at h
    obtain ⟨-, htext, -, -⟩ := h
    intro hnil
    exact htext.ne_nil (List.append_eq_nil_iff.1 hnil).2
  | ended collected => simp [hleading, LeadingText.arguments?] at harguments

/-- From the invariants on the leading text, on the pairs of tokens and on the attached type
arguments it follows that the buffers are consistent. -/
theorem Consistent.of_invariants (coupled : s.Coupled) (paired : s.Paired)
    (attached : s.leading.Attached) (strip : Bool) : s.Consistent strip where
  outermost hopen := by
    cases hleading : s.leading with
    | outside collected gap =>
      have hlast := coupled none (by rw [hleading]; rfl)
      exact .inl (List.getLast?_eq_none_iff.1 hlast)
    | inside collected arguments gap => exact .inr (coupled (some .angle) (by rw [hleading]; rfl))
    | ended collected => simp [hleading, LeadingText.isOpen] at hopen
  arguments := by
    cases hleading : s.leading with
    | outside collected gap =>
      have hlast := coupled none (by rw [hleading]; rfl)
      simp [LeadingText.arguments?, List.getLast?_eq_none_iff.1 hlast]
    | inside collected arguments gap =>
      have hlast := coupled (some .angle) (by rw [hleading]; rfl)
      have hne : s.groups ≠ [] := by
        intro hnil
        simp [hnil] at hlast
      simp [LeadingText.arguments?, LeadingText.isOpen, hne]
    | ended collected => simp [LeadingText.arguments?, LeadingText.isOpen]
  text := settledText_ne_nil attached strip
  complete hopen := by
    cases hleading : s.leading with
    | outside collected gap | inside collected arguments gap =>
      simp [hleading, LeadingText.isOpen] at hopen
    | ended collected => rfl
  nothing := paired.withheld_eq_nil
  pairs := paired.pairsThenOpener

/-- Every step keeps the leading text coupled to the groups, the tokens in pairs and the type
arguments attached. -/
theorem invariants_of_path (arrives : Text.Path id stride anyStep .start [] a b s) :
    s.Coupled ∧ s.Paired ∧ s.leading.Attached := by
  have hcoupled : s.Coupled :=
    arrives.keeps (fun _ _ _ _ _ h => h.stride _ _ _) coupled_start
  have hpaired : s.Paired :=
    arrives.keeps (fun _ _ _ _ _ h => h.stride _ _ _) paired_start
  have hattached : s.Attached (a.reverse ++ []) :=
    arrives.keeps_along (fun _ _ _ _ _ _ covers h => h.stride covers) attached_start
  exact ⟨hcoupled, hpaired, hattached.1⟩

end Scan

/-- Wherever a scan stops, and at the end of the text, what it has collected and withheld fits the
groups that are open, whether type arguments are dropped or kept. -/
theorem consistent_of_path (strip : Bool) (t : Text) :
    (∀ a b s, t = a ++ b → Text.Path id Scan.stride anyStep .start [] a b s →
      s.Consistent strip) ∧ (Scan.ofText t).Consistent strip := by
  have hstop {a b : Text} {s : Scan} (arrives : Text.Path id Scan.stride anyStep .start [] a b s) :
      s.Consistent strip := by
    obtain ⟨hcoupled, hpaired, hattached⟩ := Scan.invariants_of_path arrives
    exact .of_invariants hcoupled hpaired hattached strip
  exact ⟨fun a b s _ arrives => hstop arrives, hstop (Text.path_walk Scan.start [] t)⟩

/-- A function type among type arguments, with a parameter that has some as well. -/
def functionArguments : Text := "Map<K, F(List<int".toList

/-- In a function type among type arguments the opener of the round group is withheld, and the
leading text goes on. -/
theorem consistent_of_path_function :
    ∃ s, Text.Path id Scan.stride anyStep .start [] functionArguments " x)> m;".toList s ∧
      s.groups = [.angle, .round, .angle] ∧ s.leading.isOpen = true ∧
      s.leading.settledText true ≠ [] ∧
      ∃ pairs, RoundPairs pairs ∧ s.withheld = pairs ++ ['('] := by
  have harrival : (Text.arrival? id Scan.stride (fun _ _ _ _ => true) .start 0 []
      functionArguments " x)> m;".toList).any (fun s => s.groups = [.angle, .round, .angle] ∧
        s.leading.isOpen = true) = true := by decide
  obtain ⟨s, hs, hmeets⟩ := (Option.any_eq_true _ _).1 harrival
  obtain ⟨hgroups, hopen⟩ := of_decide_eq_true hmeets
  have hpath := (Text.path_of_arrival hs).1.mono fun _ _ _ _ _ => (trivial : True)
  have hconsistent := (consistent_of_path true (functionArguments ++ " x)> m;".toList)).1 _ _ s rfl
    hpath
  have harguments := hconsistent.arguments.2 ⟨hopen, by rw [hgroups]; simp⟩
  obtain ⟨pairs, hpairs, hround, -⟩ := hconsistent.pairs
  have habove : RoundAboveAngles s.groups := ⟨[.angle], 0, hgroups⟩
  exact ⟨s, hpath, hgroups, hopen, hconsistent.text harguments, pairs, hpairs, hround habove⟩

end MemberOutline.Shape
