import FrameLens.Code.View
import FrameLens.Text.Words

/-!
# Signatures

A signature may span several lines: attributes, template heads, export macros, wrapped parameter
lists, trailing qualifiers, initializer lists. From a line in its middle the walk goes up over the
lines that belong to it, and stops where an earlier statement ends.
-/

namespace FrameLens.Signature

open FrameLens.Text (contains hasKeyword blanksThen allBlank)

/-- Words that may end a line in the middle of a signature. -/
def trailingQualifiers : List String :=
  ["const", "noexcept", "override", "final", "requires", "volatile", "where", "async", "unsafe",
    "extern"]

/-- What marks a line of macros or attributes above a signature. -/
def decoratorMarkers : List String := ["UE_", "__declspec", "__attribute__", "[["]

/-- The line begins an attribute list. -/
def isAttributeLine (line : List Char) : Bool :=
  line.head? == some '['

/-- The line holds a template head. -/
def isTemplateLine (line : List Char) : Bool :=
  hasKeyword ["template"] (blanksThen '<') line

def hasDecoratorMarker (line : List Char) : Bool :=
  decoratorMarkers.any fun marker => contains marker.toList line

/-- The line leaves a parameter list open. -/
def isWrappedParameterLine (line : List Char) : Bool :=
  line.count ')' < line.count '(' || line.getLast? == some ','

def endsWithQualifier (line : List Char) : Bool :=
  hasKeyword trailingQualifiers allBlank line

/-- The line introduces or goes on with an initializer list. -/
def isInitializerLine (line : List Char) : Bool :=
  line.getLast? == some ':' || contains [' ', ':', ' '] line

/-- The tests of which one suffices for a line to belong to the signature below it. -/
def continuationRules : List (List Char → Bool) :=
  [isAttributeLine, isTemplateLine, hasDecoratorMarker, isWrappedParameterLine, endsWithQualifier,
    isInitializerLine]

/-- Whether a trimmed line belongs to the signature below it. -/
def continues (line : List Char) : Bool :=
  continuationRules.any fun rule => rule line

/-- Whether a trimmed line begins an initializer list, to which the line above then belongs. -/
def opensInitializerList (line : List Char) : Bool :=
  match line with
  | ':' :: ':' :: _ => false
  | ':' :: _ => true
  | _ => false

/-- Whether a trimmed line is never crossed: it is empty, a preprocessor directive, or the end of
a statement. -/
def isBoundary (line : List Char) : Bool :=
  line.isEmpty || line.head? == some '#' || line.getLast? == some ';'

def climbs (v : View) (line : Int) : Bool :=
  let above := Text.trim (v.lineText (line - 1))
  !isBoundary above &&
    (continues above || opensInitializerList (Text.trim (v.lineText line)))

/-- Walks up from the first of `line` lines of the file, `room` lines at most. -/
def climb (v : View) : Nat → Int → Int
  | line + 2, room =>
    if 0 < room ∧ climbs v (line + 2 : Nat) then climb v (line + 1) (room - 1) else (line + 2 : Nat)
  | line, _ => line

/-- The line on which the signature around an offset begins. -/
def startLine (v : View) (anchor maxLines : Int) : Int :=
  climb v (v.lineOf anchor).toNat maxLines

/-- The offset at which the signature around an offset begins. -/
def start (v : View) (anchor maxLines : Int) : Except OutOfRange Int :=
  v.startOf (startLine v anchor maxLines)

end FrameLens.Signature
