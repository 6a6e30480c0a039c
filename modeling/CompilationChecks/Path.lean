import CompilationChecks.Text.Split

/-!
Paths of files inside a container. Slashes and backslashes both separate segments; empty segments
and segments that are a single dot mean nothing. The canonical form of a path is its list of
meaningful segments, joined by slashes.
-/

namespace CompilationChecks.Path

/-- A character that separates the segments of a path. -/
def isSeparator (c : Char) : Bool :=
  c == '/' || c == '\\'

/-- A segment that says something: neither empty nor a single dot. -/
def isMeaningful (segment : List Char) : Bool :=
  !segment.isEmpty && segment != ['.']

/-- The meaningful segments of a path, in order. -/
def segments (path : String) : List String :=
  ((Text.pieces isSeparator path.toList).filter isMeaningful).map String.ofList

/-- Segments joined by slashes. -/
def join (segments : List String) : String :=
  String.intercalate "/" segments

/-- The canonical form of a path. -/
def normalize (path : String) : String :=
  join (segments path)

/-- The directory of a package: its name with dots read as segment separators. Only dots are
read so; a slash inside the name stays as it is. -/
def packageDirectory (packageName : String) : String :=
  join (((Text.pieces (· == '.') packageName.toList).filter fun part => !part.isEmpty).map
    String.ofList)

/-- The path of a file that is named relative to a package. -/
def resolve (packageName relativeName : String) : String :=
  if (packageDirectory packageName).isEmpty then normalize relativeName
  else packageDirectory packageName ++ "/" ++ normalize relativeName

/-- The text before and after the last dot of a path, if it has one. -/
def splitExtension? (path : String) : Option (String × String) :=
  (Text.splitLast? '.' path.toList).map fun parts =>
    (String.ofList parts.1, String.ofList parts.2)

end CompilationChecks.Path
