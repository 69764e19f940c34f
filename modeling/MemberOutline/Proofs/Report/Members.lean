import MemberOutline.Proofs.Member.Trimming
import MemberOutline.Report

/-!
# The members of a file

A file is read line by line, and each line by itself (`members_of_lines`): the members of a file are
those that its lines declare as they stand, untrimmed and in their order, and the members of two
texts joined by a line break are those of the one and then those of the other. How a line break is
written and whether the last line has one makes no difference.
-/

namespace MemberOutline.Report

/-- Whether a line declares a member: it is neither blank nor a comment only. -/
def isDeclaration (line : Text) : Bool :=
  Text.trim line ≠ [] && !"//".toList.isPrefixOf (Text.trim line)

/-- The declarations are trimmed lines. -/
theorem declarations_eq_map_trim (content : Text) :
    declarations content = ((Text.lines content).filter isDeclaration).map Text.trim :=
  List.filter_map

/-- The declarations of two texts joined by a line break are those of both. -/
theorem declarations_append (content more : Text) :
    declarations (content ++ '\n' :: more) = declarations content ++ declarations more :=
  Text.trimmedLines_append rfl content more

/-- The report on a file is one on the members that its lines declare, each line classified as it
stands, and a line break between two texts only separates their members. -/
theorem members_of_lines (content : Text) (className : Option Text) (settings : Settings) :
    (∀ path format, (batch path content className format settings).1 =
        ofMembers format (members content className settings)) ∧
      members content className settings =
        ((Text.lines content).filter isDeclaration).map (fun line =>
          Member.ofText settings.stripTypeArguments line className) ∧
      ∀ more, members (content ++ '\n' :: more) className settings =
        members content className settings ++ members more className settings := by
  refine ⟨fun _ _ => rfl, ?_, fun more => ?_⟩
  · unfold members
    rw [declarations_eq_map_trim, List.map_map]
    refine List.map_congr_left fun line _ => ?_
    exact Member.ofText_trim settings.stripTypeArguments line className
  · unfold members
    rw [declarations_append, List.map_append]

/-- A file with line breaks of both kinds, a blank line, a comment and no line break at its end, the
last line of which ends in a string after an escape. -/
def mixedLines : Text := "  int a; \r\n\n// b\n\tget c => 'd\\ ".toList

example : (members mixedLines none {}).map Member.label = ["a".toList, "get c".toList] := by
  decide

end MemberOutline.Report
