import MemberOutline.Proofs.Shape.Pairing
import MemberOutline.Proofs.Shape.Parallel
import MemberOutline.Proofs.Shape.Silence
import MemberOutline.Proofs.Shape.Within

/-!
# Type arguments that are closed

In the sequence, type arguments that their own `>` closes count as much as one space, if they stand
at depth zero or if some group around them is not an angle (`sequence_of_closed`). With nothing but
angles around them, the round brackets right inside them stay withheld when they are closed,
together with those of the angles around. So if the outermost angle is given up later, the sequence
has these pairs of round brackets in addition, and that is all
(`sequence_of_closed_inside_comparison`).

While the type arguments are open nothing is reported (`Scan.path_within`). After them the scan goes
side by side with the one after a space, with the same tokens but for some pairs withheld
(`Scan.Parallel`, `Extra`).
-/

namespace MemberOutline.Shape

open Text (anyStep isIdentifierChar)

/-! ## Pairs in addition -/

/-- A number of pairs of round brackets. -/
def roundPairs (n : Nat) : Text := (List.replicate n ['(', ')']).flatten

/-- What pairs of round brackets have before pairs of round brackets are pairs as well. -/
theorem RoundPairs.exists_of_append {t w : Text} (ht : RoundPairs t) (htw : RoundPairs (t ++ w)) :
    ∃ n, w = roundPairs n := by
  obtain ⟨m, rfl⟩ := ht
  obtain ⟨k, hk⟩ := htw
  have hlength (n : Nat) : (roundPairs n).length = 2 * n := by
    simp [roundPairs, Nat.mul_comm]
  have hle : m ≤ k := by
    have hle := congrArg List.length hk
    rw [List.length_append] at hle
    have hm := hlength m
    have hk := hlength k
    unfold roundPairs at hm hk
    omega
  refine ⟨k - m, ?_⟩
  have hsplit : roundPairs k = roundPairs m ++ roundPairs (k - m) := by
    unfold roundPairs
    rw [← List.flatten_append, List.replicate_append_replicate, Nat.add_sub_cancel' hle]
  exact List.append_cancel_left (hk.trans hsplit)

/-- A text is another one with `w` put in at some place, or the same. -/
def Inserted (w : Text) (t t' : Text) : Prop :=
  t = t' ∨ ∃ before after, t = before ++ w ++ after ∧ t' = before ++ after

namespace Inserted

variable {w t t' : Text}

/-- Of two texts that differ by what is put in, so do the two with more text before them. -/
theorem append_left (h : Inserted w t t') (u : Text) : Inserted w (u ++ t) (u ++ t') := by
  rcases h with rfl | ⟨before, after, rfl, rfl⟩
  · exact .inl rfl
  · exact .inr ⟨u ++ before, after, by simp, by simp⟩

/-- Of two texts that differ by what is put in, so do the two with more text after them. -/
theorem append_right (h : Inserted w t t') (u : Text) : Inserted w (t ++ u) (t' ++ u) := by
  rcases h with rfl | ⟨before, after, rfl, rfl⟩
  · exact .inl rfl
  · exact .inr ⟨before, after ++ u, by simp, by simp⟩

/-- Two texts are the same if they differ by nothing put in. -/
theorem eq_of_nil (h : Inserted [] t t') : t = t' := by
  rcases h with rfl | ⟨before, after, rfl, rfl⟩
  · rfl
  · rw [List.append_nil]

end Inserted

/-- The tokens of one scan are those of another with `w` put in, either among those withheld or
among those reported. -/
def Extra (w : Text) (p q : Tokens) : Prop :=
  p.1 = q.1 ∧ Inserted w p.2 q.2 ∨ Inserted w p.1 q.1 ∧ p.2 = q.2

/-- Tokens with `w` put in remain so when both scans report, withhold, flush or forget the same. -/
theorem TokensKept.extra (w : Text) : TokensKept (Extra w) where
  report := by
    rintro a v b u token (⟨hreported, hwithheld⟩ | ⟨hreported, hwithheld⟩)
    · exact .inl ⟨congrArg (· ++ token) hreported, hwithheld⟩
    · exact .inr ⟨hreported.append_right token, hwithheld⟩
  withhold := by
    rintro a v b u token (⟨hreported, hwithheld⟩ | ⟨hreported, hwithheld⟩)
    · exact .inl ⟨hreported, hwithheld.append_right token⟩
    · exact .inr ⟨hreported, congrArg (· ++ token) hwithheld⟩
  flush := by
    rintro a v b u (⟨hreported, hwithheld⟩ | ⟨hreported, hwithheld⟩)
    · obtain rfl : a = b := hreported
      exact .inr ⟨hwithheld.append_left a, rfl⟩
    · obtain rfl : v = u := hwithheld
      exact .inr ⟨hreported.append_right v, rfl⟩
  forget := by
    rintro a v b u (⟨hreported, -⟩ | ⟨hreported, -⟩)
    · exact .inl ⟨hreported, .inl rfl⟩
    · exact .inr ⟨hreported, rfl⟩

/-! ## Type arguments that are closed -/

/-- A scan comes to a `<` after `a` that opens type arguments inside the given groups, goes through
`body` while they stay open, and comes to the `>` that closes them. -/
def ArgumentsClose (a body b : Text) (around : List Group) : Prop :=
  ∃ s t : Scan, Text.Path id Scan.stride anyStep .start [] a ('<' :: (body ++ '>' :: b)) s ∧
    s.literals = [] ∧ s.groups = around ∧ opensArguments a.reverse = true ∧
    Text.Path id Scan.stride (Scan.Within (.angle :: around)) s.openAngle ('<' :: a.reverse) body
      ('>' :: b) t ∧ t.literals = [] ∧ t.groups = .angle :: around

/-- Runs a scan to find out whether type arguments are closed inside the given groups. -/
def findsClose (a body b : Text) (around : List Group) : Bool :=
  (Text.arrival? id Scan.stride (fun _ _ _ _ => true) .start 0 [] a
      ('<' :: (body ++ '>' :: b))).any fun s =>
    (s.literals = [] ∧ s.groups = around ∧ opensArguments a.reverse = true) &&
      (Text.arrival? id Scan.stride (fun s _ _ _ => (Group.angle :: around).isSuffixOf s.groups)
        s.openAngle 0 ('<' :: a.reverse) body ('>' :: b)).any fun t =>
          t.literals = [] ∧ t.groups = .angle :: around

/-- Type arguments that are found to be closed are closed. -/
theorem ArgumentsClose.of_finds {a body b : Text} {around : List Group}
    (h : findsClose a body b around = true) : ArgumentsClose a body b around := by
  simp only [findsClose, Option.any_eq_true, Bool.and_eq_true, decide_eq_true_eq] at h
  obtain ⟨s, hfirst, ⟨hs, hgroups, hopens⟩, t, hsecond, ht, hclose⟩ := h
  have hbefore := (Text.path_of_arrival hfirst).1.mono fun _ _ _ _ _ => (trivial : True)
  have hinside := (Text.path_of_arrival hsecond).1.mono fun _ _ _ _ hvia =>
    List.isSuffixOf_iff_suffix.1 hvia
  exact ⟨s, t, hbefore, hs, hgroups, hopens, hinside, ht, hclose⟩

namespace Scan

variable {s t : Scan}

/-- A step at a code character that angles can hold. -/
theorem stride_eq_code {c : Char} {seen rest : Text} (outside : s.literals = [])
    (hc : c ∉ ['\x27', '\x22', '/', 'r', 'R']) (holds : argumentsHold c = true) :
    stride s seen c rest = s.code seen c rest := by
  rw [stride_of_code (by rw [outside]; exact Literal.step_of_not_mem hc), settle_of_holds s holds]

/-- The `<` after an identifier opens type arguments. -/
theorem stride_openAngle {seen : Text} (outside : s.literals = [])
    (opens : opensArguments seen = true) (rest : Text) :
    stride s seen '<' rest = (1, s.openAngle) := by
  rw [stride_eq_code outside (by decide) (by decide)]
  simp [code, Group.ofOpener?, Group.ofCloser?, opens]

/-- The `>` closes type arguments if they are the innermost group. -/
theorem stride_closeAngle (outside : s.literals = []) (top : s.groups.head? = some .angle)
    (seen rest : Text) : stride s seen '>' rest = (1, s.closeAngle) := by
  rw [stride_eq_code outside (by decide) (by decide)]
  simp [code, Group.ofOpener?, Group.ofCloser?, top]

/-- A scan goes on after the `>` of type arguments that are closed. -/
theorem ofText_closed {a body b : Text} {via via' : Text.Condition Scan}
    (arrives : Text.Path id stride via .start [] a ('<' :: (body ++ '>' :: b)) s)
    (outside : s.literals = []) (opens : opensArguments a.reverse = true)
    (inside : Text.Path id stride via' s.openAngle ('<' :: a.reverse) body ('>' :: b) t)
    (hcode : t.literals = []) (top : t.groups.head? = some .angle) :
    ofText (a ++ '<' :: (body ++ '>' :: b)) =
      Text.walk id stride t.closeAngle 0 ('>' :: (body.reverse ++ '<' :: a.reverse)) b :=
  calc ofText (a ++ '<' :: (body ++ '>' :: b))
      = Text.walk id stride s 0 a.reverse ('<' :: (body ++ '>' :: b)) := by
        rw [ofText, arrives.walk_eq, List.append_nil]
    _ = Text.walk id stride s.openAngle 0 ('<' :: a.reverse) (body ++ '>' :: b) := by
        rw [Text.walk, stride_openAngle outside opens]
        rfl
    _ = Text.walk id stride t 0 (body.reverse ++ '<' :: a.reverse) ('>' :: b) :=
        inside.walk_eq
    _ = Text.walk id stride t.closeAngle 0
          ('>' :: (body.reverse ++ '<' :: a.reverse)) b := by
        rw [Text.walk, stride_closeAngle hcode top]
        rfl

/-- While only angles are open, whole pairs are withheld. -/
theorem Paired.roundPairs_of_onlyAngles (h : s.Paired) (honly : onlyAngles s.groups = true) :
    RoundPairs s.withheld := by
  cases h with
  | closed groups_eq _ _ => simp [groups_eq, onlyAngles] at honly
  | opened groups_eq _ opener _ _ =>
    rw [groups_eq, onlyAngles_of_other (Group.ne_angle_of_opener opener)] at honly
    cases honly
  | angles _ pairs _ => exact pairs
  | round groups_eq _ _ _ =>
    rw [groups_eq, onlyAngles_of_other (by decide)] at honly
    cases honly

/-- After type arguments that are closed a scan has the tokens that it had before them, and in
addition some pairs withheld if there are only angles around them. -/
theorem extra_of_closed (hs : s.Paired) (ht : t.Paired) (htop : t.groups = .angle :: s.groups)
    (hquiet : Quiet (.angle :: s.groups) s.openAngle t) :
    ∃ n, (onlyAngles s.groups = false → n = 0) ∧
      Extra (roundPairs n) (t.closeAngle.tokens, t.closeAngle.withheld) (s.tokens, s.withheld) := by
  obtain ⟨htokens, w, hw, hnone⟩ := hquiet
  have htokens : t.tokens = s.tokens := htokens
  have hw : t.withheld = s.withheld ++ w := hw
  have htail : t.groups.tail = s.groups := by rw [htop]; rfl
  by_cases hnil : s.groups = []
  · -- At depth zero everything withheld is forgotten.
    rw [closeAngle_of_nil (htail.trans hnil)]
    have hwithheld := hs.withheld_eq_nil (by simp [hnil])
    exact ⟨0, fun _ => rfl, .inl ⟨htokens, .inl hwithheld.symm⟩⟩
  rw [closeAngle_of_ne_nil (by rw [htail]; exact hnil)]
  by_cases honly : onlyAngles s.groups = true
  · have htopAngles : onlyAngles t.groups = true := by
      rw [htop]
      simpa [onlyAngles, hnil] using honly
    have hpairs := ht.roundPairs_of_onlyAngles htopAngles
    rw [hw] at hpairs
    obtain ⟨n, rfl⟩ := (hs.roundPairs_of_onlyAngles honly).exists_of_append hpairs
    refine ⟨n, fun hnot => ?_, .inl ⟨htokens, .inr ⟨s.withheld, [], ?_, ?_⟩⟩⟩
    · rw [honly] at hnot
      cases hnot
    · rw [List.append_nil]
      exact hw
    · exact (List.append_nil _).symm
  · -- Inside another group nothing is withheld.
    have hother : onlyAngles (.angle :: s.groups) = false := by
      rw [Bool.eq_false_iff]
      exact fun h => honly (onlyAngles_of_suffix (List.suffix_cons _ _) hnil h)
    rw [hnone hother, List.append_nil] at hw
    exact ⟨0, fun _ => rfl, .inl ⟨htokens, .inl hw⟩⟩

end Scan

/-- Two scans go side by side after type arguments that are closed and after a space in their place,
with the same tokens but for some pairs of round brackets, and with the very same unless there are
only angles around. -/
theorem ArgumentsClose.parallel {a body b : Text} {around : List Group}
    (h : ArgumentsClose a body b around) :
    ∃ n, (Scan.onlyAngles around = false → n = 0) ∧
      (Scan.ofText (a ++ '<' :: (body ++ '>' :: b))).Parallel (Extra (roundPairs n))
        (fun _ _ => True) (Scan.ofText (a ++ ' ' :: b)) := by
  obtain ⟨s, t, arrives, outside, rfl, opens, inside, hcode, htop⟩ := h
  have hpaired : s.Paired := arrives.keeps (fun _ _ _ _ _ h => h.stride _ _ _) Scan.paired_start
  have hpaired' : t.Paired := inside.keeps (fun _ _ _ _ _ h => h.stride _ _ _) hpaired.openAngle
  have hend : .angle :: s.groups <:+ t.groups := ⟨[], htop.symm⟩
  obtain ⟨-, hquiet⟩ := Scan.path_within (List.cons_ne_nil _ _) inside hend
  obtain ⟨n, hn, hextra⟩ := Scan.extra_of_closed hpaired hpaired' htop hquiet
  have hparallel : t.closeAngle.Parallel (Extra (roundPairs n)) (fun _ _ => True)
      { s with leading := s.leading.blank } := by
    refine ⟨?_, ?_, hextra, trivial⟩
    · rw [Scan.literals_closeAngle, hcode, outside]
    · rw [Scan.groups_closeAngle, htop]
      rfl
  -- What comes after reads the same after `>` as after a space.
  have hseen : (' ' :: a.reverse).takeWhile isIdentifierChar =
      ('>' :: (body.reverse ++ '<' :: a.reverse)).takeWhile isIdentifierChar := rfl
  refine ⟨n, hn, ?_⟩
  rw [Scan.ofText_closed arrives outside opens inside hcode (by rw [htop]; rfl),
    Scan.ofText_space arrives outside, Scan.walk_of_seen _ 0 b hseen]
  exact hparallel.walk (.extra _) .any 0 _ b

/-- Type arguments that are closed count as much as a space in the sequence, unless there are only
angles around them. If there are, the sequence may have some pairs of round brackets in addition at
one place. -/
theorem sequence_of_closed {a body b : Text} {around : List Group}
    (h : ArgumentsClose a body b around) (strip : Bool) :
    (Scan.onlyAngles around = false →
      (Shape.ofText strip (a ++ '<' :: (body ++ '>' :: b))).sequence =
        (Shape.ofText strip (a ++ ' ' :: b)).sequence) ∧
    ∃ before n after,
      (Shape.ofText strip (a ++ '<' :: (body ++ '>' :: b))).sequence =
        before ++ roundPairs n ++ after ∧
      (Shape.ofText strip (a ++ ' ' :: b)).sequence = before ++ after := by
  obtain ⟨n, hn, hparallel⟩ := h.parallel
  have hsequence : Inserted (roundPairs n)
      (Shape.ofText strip (a ++ '<' :: (body ++ '>' :: b))).sequence
      (Shape.ofText strip (a ++ ' ' :: b)).sequence := by
    rcases hparallel.sequence (.extra _) strip with ⟨heq, -⟩ | ⟨hinserted, -⟩
    · exact .inl heq
    · exact hinserted
  refine ⟨fun hother => ?_, ?_⟩
  · rw [hn hother] at hsequence
    exact hsequence.eq_of_nil
  · rcases hsequence with heq | ⟨before, after, hwith, hwithout⟩
    · exact ⟨_, 0, [], (List.append_nil _).symm.trans (List.append_nil _).symm, by
        rw [heq, List.append_nil]⟩
    · exact ⟨before, n, after, hwith, hwithout⟩

/-- A call with type arguments among its own arguments, behind a comparison that is given up later:
the sequence has the brackets of the outer call, and none of those in the type arguments. -/
theorem sequence_of_closed_inside_call :
    ArgumentsClose "a<b(M".toList "F(K, (A, B))".toList "(d)) = f;".toList [.round, .angle] ∧
      Scan.onlyAngles [.round, .angle] = false ∧
      (Shape.ofText true ("a<b(M".toList ++
          '<' :: ("F(K, (A, B))".toList ++ '>' :: "(d)) = f;".toList))).sequence =
        (Shape.ofText true ("a<b(M".toList ++ ' ' :: "(d)) = f;".toList)).sequence ∧
      (Shape.ofText true ("a<b(M".toList ++ ' ' :: "(d)) = f;".toList)).sequence =
        "()=;".toList := by
  have hclose : ArgumentsClose "a<b(M".toList "F(K, (A, B))".toList "(d)) = f;".toList
      [.round, .angle] := .of_finds (by decide)
  exact ⟨hclose, rfl, (sequence_of_closed hclose true).1 rfl, by decide⟩

/-- Type arguments with a function type in them inside a comparison that is given up at an equals
sign: the round brackets remain, and with a space in place of the arguments there are none. -/
theorem sequence_of_closed_inside_comparison :
    ArgumentsClose "a<b".toList "c()".toList " = d;".toList [.angle] ∧
      ∀ strip : Bool,
        (Shape.ofText strip ("a<b".toList ++
            '<' :: ("c()".toList ++ '>' :: " = d;".toList))).sequence = "()=;".toList ∧
        (Shape.ofText strip ("a<b".toList ++ ' ' :: " = d;".toList)).sequence = "=;".toList :=
  ⟨.of_finds (by decide), by decide⟩

end MemberOutline.Shape
