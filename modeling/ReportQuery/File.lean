import ReportQuery.Json.Reader

/-!
# Files

A directory as the operations see it: what stands at a path, and how a path is written in
messages. A path is normal when it has no empty component and no component `.`; the empty path
is the directory itself.

A text file is read as UTF-8, and every line ends with a line feed, however it was written.
-/

namespace ReportQuery

/-- What stands at a path. -/
inductive FileContent where
  | missing
  | directory
  | belowFile
  | bytes (content : ByteArray)

/-- Why a file cannot be opened. -/
inductive FileFault where
  | missing (path : String)
  | isDirectory (path : String)
  | notDirectory (path : String)
deriving Repr, DecidableEq

/-- The wording of a fault, with the number that the system gives it. -/
def FileFault.message : FileFault → String
  | .missing path => "[Errno 2] No such file or directory: " ++ Text.quoted path
  | .isDirectory path => "[Errno 21] Is a directory: " ++ Text.quoted path
  | .notDirectory path => "[Errno 20] Not a directory: " ++ Text.quoted path

namespace File

/-- The components of a path, without empty ones and without `.`. -/
def components (path : String) : List String :=
  ((Text.splitAt '/' path.toList).map String.ofList).filter fun c ↦ c ≠ "" && c ≠ "."

/-- The path is given from the root. -/
def isAbsolute (path : String) : Bool :=
  path.toList.head? = some '/'

/-- The normal form of a path. -/
def normalize (path : String) : String :=
  let body := "/".intercalate (components path)
  if isAbsolute path then "/" ++ body else if body = "" then "." else body

end File

/-- A directory, by what stands at each path from it. -/
structure Directory where
  lookup : String → FileContent := fun _ ↦ .missing

/-- The directory that holds the files of the given names and nothing else. What lies above it is
a directory too, and is empty besides. -/
def Directory.ofFiles (files : List (String × ByteArray)) : Directory where
  lookup path :=
    match File.components path with
    | [] => .directory
    | name :: below =>
      if File.isAbsolute path then .missing
      else if name = ".." then if below.all (· = "..") then .directory else .missing
      else match files.lookup name with
        | none => .missing
        | some content => if below.isEmpty then .bytes content else .belowFile

/-! ### Reading -/

/-- Why a file is no JSON document. -/
inductive DocumentFault where
  | file (fault : FileFault)
  | syntaxError (error : Json.SyntaxError)
  | notUtf8
deriving Repr, DecidableEq

/-- The wording of a fault. A file that is no text has none of its own. -/
def DocumentFault.message : DocumentFault → String
  | .file fault => fault.message
  | .syntaxError error => error.message
  | .notUtf8 => ""

namespace File

/-- The text with every line end written as a line feed. -/
def unifyLines : List Char → List Char
  | [] => []
  | '\r' :: '\n' :: s => '\n' :: unifyLines s
  | '\r' :: s => '\n' :: unifyLines s
  | c :: s => c :: unifyLines s

/-- The text of a file. -/
def readText (content : ByteArray) : Option String :=
  (String.fromUTF8? content).map fun s ↦ String.ofList (unifyLines s.toList)

/-- The JSON document in a file. -/
def readDocument (d : Directory) (path : String) : Except DocumentFault Value :=
  match d.lookup path with
  | .missing => .error (.file (.missing (normalize path)))
  | .directory => .error (.file (.isDirectory (normalize path)))
  | .belowFile => .error (.file (.notDirectory (normalize path)))
  | .bytes content =>
    match readText content with
    | none => .error .notUtf8
    | some text => (Json.read text).mapError .syntaxError

end File

end ReportQuery
