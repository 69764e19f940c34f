import MemberOutline.Text.Words
import MemberOutline.Shape.Group

/-!
# Names after a keyword

A leading text that ends in `get` or `set`, blanks and a name belongs to an accessor. The keyword
stands at the start of the text or after a blank; of several places where the text can be read so,
the first counts.

The name of an operator is the word `operator` and the symbol after it in the declaration: all that
follows the blanks after the word up to the next blank or round bracket. The first place counts
where the word does not continue another one and a symbol follows.
-/

namespace MemberOutline.Member

/-- The two accessors. -/
inductive Accessor where
  | get
  | set
  deriving DecidableEq, Repr

/-- A character that a name may start with: an ASCII letter, an underscore or a dollar. -/
def isNameStart (c : Char) : Bool := c.isAlpha || c = '_' || c = '$'

/-- Whether a text is a name from its first character to its last. -/
def isName : Text → Bool
  | [] => false
  | c :: rest => isNameStart c && rest.all fun d => Text.isWordChar d || d = '$'

/-- The name that a text consists of after at least one blank. -/
def nameAfterBlanks? : Text → Option Text
  | [] => none
  | c :: rest =>
    let name := rest.dropWhile Text.isBlank
    if Text.isBlank c && isName name then some name else none

/-- The accessor that a text declares when its keyword comes first. -/
def accessorHere? : Text → Option (Accessor × Text)
  | 'g' :: 'e' :: 't' :: rest => (nameAfterBlanks? rest).map fun name => (.get, name)
  | 's' :: 'e' :: 't' :: rest => (nameAfterBlanks? rest).map fun name => (.set, name)
  | _ => none

/-- The accessor that a text declares when its keyword comes after a blank. -/
def accessorAfterBlank? : Text → Option (Accessor × Text)
  | [] => none
  | c :: rest =>
    if Text.isBlank c then (accessorHere? rest).or (accessorAfterBlank? rest)
    else accessorAfterBlank? rest

/-- The accessor that a leading text declares, with its name. -/
def accessor? (t : Text) : Option (Accessor × Text) :=
  (accessorHere? t).or (accessorAfterBlank? t)

/-- The symbol after the word `operator`, if the text starts with both. -/
def operatorSymbolHere? (t : Text) : Option Text :=
  match Text.after? Shape.operatorWord t with
  | some rest =>
    let symbol := (Text.trimStart rest).takeWhile fun c => !Text.isBlank c && c ≠ '('
    if symbol = [] then none else some symbol
  | none => none

/-- The first operator symbol in the rest of a text; the argument says whether a word reaches up to
its first character. -/
def operatorSymbolFrom? (inWord : Bool) : Text → Option Text
  | [] => none
  | c :: rest =>
    let here := if inWord then none else operatorSymbolHere? (c :: rest)
    here.or (operatorSymbolFrom? (Text.isWordChar c) rest)

/-- The name of the operator that a text declares. -/
def operatorName (declaration : Text) : Text :=
  match operatorSymbolFrom? false declaration with
  | some symbol => Shape.operatorWord ++ ' ' :: symbol
  | none => Shape.operatorWord

end MemberOutline.Member
