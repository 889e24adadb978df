import FrameLens.Files.Path
import FrameLens.Text.Loose
import FrameLens.Text.Case

/-!
# Dialects

The structural rules of one family of C-like source files: which forms of literal there are, and
which shapes of member. The extension of a file decides its language, and the language its
dialect. A file of no known language is read with every form of literal recognised.
-/

namespace FrameLens

/-- The rules that apply to a source file. -/
structure Dialect where
  name : String
  /-- Members may have an arrow and an expression for a body. -/
  arrowBodies : Bool := false
  /-- An at sign before a quote opens a literal in which a quote is written twice. -/
  verbatimStrings : Bool := false
  /-- Three or more quotes open a literal that as many quotes close. -/
  tripleQuotes : Bool := false
  /-- An `R` before a quote opens a literal that a delimiter of the writer's choice closes. -/
  delimitedRaw : Bool := false
  /-- A member of a constructor's initializer list may be initialized between braces. -/
  braceInitializers : Bool := false
deriving DecidableEq, Repr

namespace Dialect

/-- The dialect of C. -/
def c : Dialect := { name := "c", braceInitializers := true }

def cpp : Dialect := { name := "cpp", delimitedRaw := true, braceInitializers := true }

def cSharp : Dialect :=
  { name := "c_sharp", arrowBodies := true, verbatimStrings := true, tripleQuotes := true }

def unknown : Dialect :=
  { name := "unknown", verbatimStrings := true, tripleQuotes := true, delimitedRaw := true,
    braceInitializers := true }

def all : List Dialect := [c, cpp, cSharp, unknown]

/-- The dialect of a name; any other name, or none, gives the unknown dialect. -/
def named (name : Option String) : Dialect :=
  (all.find? fun dialect => some dialect.name == name).getD unknown

/-- The language of each file extension, extensions in order. -/
def extensions : List (String × String) := [
  (".c", "c"),
  (".c++", "cpp"),
  (".cc", "cpp"),
  (".cpp", "cpp"),
  (".cs", "c_sharp"),
  (".cxx", "cpp"),
  (".h", "cpp"),
  (".hh", "cpp"),
  (".hpp", "cpp"),
  (".hxx", "cpp"),
  (".inl", "cpp"),
  (".ipp", "cpp"),
  (".tpp", "cpp")]

/-- The language of a file, from its extension in either case. No extension holds a half. -/
def languageOf? (path : LooseText) : Option String :=
  extensions.lookup (String.ofList (Text.lower (PathName.extension path.lenient)))

def ofPath (path : LooseText) : Dialect :=
  named (languageOf? path)

end Dialect

end FrameLens
