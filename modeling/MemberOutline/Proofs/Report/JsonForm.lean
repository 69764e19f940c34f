import MemberOutline.Proofs.Json.RoundTrip
import MemberOutline.Report

/-!
# Reports as JSON

A report as JSON is read back as the value that it was written for (`read?_ofMembers`), and the
value for a shape is decoded as that shape (`shape_of_jsonReport`): nothing of the two texts is
lost, whatever characters are in them.
-/

namespace MemberOutline.Report

/-- The value for a shape can be written. -/
theorem wellFormed_shape (s : Shape) : s.toJson.WellFormed := by
  refine .object fun m hm => ?_
  rcases List.mem_cons.1 hm with rfl | hm
  · exact .string s.sequence
  · obtain rfl := List.mem_singleton.1 hm
    exact .string s.leadingText

/-- The value for a shape is decoded as that shape. -/
theorem ofJson_toJson (s : Shape) : Shape.ofJson s.toJson = .ok s := by
  have hleading : Shape.textAt? Shape.leadingTextKey
      [(Shape.sequenceKey, .string s.sequence), (Shape.leadingTextKey, .string s.leadingText)] =
        .ok (some s.leadingText) := rfl
  have hsequence : Shape.textAt? Shape.sequenceKey
      [(Shape.sequenceKey, .string s.sequence), (Shape.leadingTextKey, .string s.leadingText)] =
        .ok (some s.sequence) := rfl
  unfold Shape.ofJson Shape.toJson
  simp only [hleading, hsequence]
  rfl

/-- The value for a member can be written. -/
theorem wellFormed_member (m : Member) : m.toJson.WellFormed := by
  have hmodifiers : (Json.array (m.modifiers.map .string)).WellFormed := by
    refine .array fun v hv => ?_
    obtain ⟨w, -, rfl⟩ := List.mem_map.1 hv
    exact .string w
  refine .object ?_
  simp only [List.forall_mem_cons]
  exact ⟨.string _, .string _, hmodifiers, .boolean _, .boolean _, .string _,
    wellFormed_shape m.shape, List.forall_mem_nil _⟩

/-- The report as JSON on the members of a file is read back as the values for them. -/
theorem read?_ofMembers (found : List Member) :
    Json.read? (ofMembers .json found) = some (.array (found.map Member.toJson)) := by
  refine Json.read?_pretty (.array fun v hv => ?_)
  obtain ⟨m, -, rfl⟩ := List.mem_map.1 hv
  exact wellFormed_member m

/-- The report as JSON on a shape is decoded as that shape, and so the report on a declaration is
decoded as the shape of the declaration. -/
theorem shape_of_jsonReport :
    (∀ s : Shape, (Json.read? (ofShape .json s)).map Shape.ofJson = some (.ok s)) ∧
      ∀ declaration settings,
        (Json.read? (scan declaration .json settings).1).map Shape.ofJson =
          some (.ok (Shape.ofText settings.stripTypeArguments declaration)) := by
  have hshape (s : Shape) : (Json.read? (ofShape .json s)).map Shape.ofJson = some (.ok s) := by
    calc
      _ = (some s.toJson).map Shape.ofJson := by
        rw [← Json.read?_pretty (wellFormed_shape s)]
        rfl
      _ = some (.ok s) := by rw [Option.map_some, ofJson_toJson]
  exact ⟨hshape, fun declaration settings => hshape _⟩

end MemberOutline.Report
