import ReportQuery.Json.Reader
import ReportQuery.Text.Utf8

/-!
# Paths of requests

The target of a request names a path, perhaps with a query or a fragment behind it, which do not
count. In the path the steps `.` and `..` are taken first; then every percent sign with two
hexadecimal digits stands for an octet, and the octets are read as text.
-/

namespace ReportQuery.Http

namespace Path

/-- The steps of a path with `.` left out and `..` taken back; the root is never taken back. -/
def takeSteps (steps : List (List Char)) : List (List Char) :=
  (steps.foldl (fun (taken : List (List Char)) step ↦
    if step = ['.'] then taken
    else if step = ['.', '.'] then if taken = [] ∨ taken = [[]] then taken else taken.tail
    else step :: taken) []).reverse

/-- The octets that a path stands for. -/
def octets : List Char → List UInt8
  | [] => []
  | '%' :: a :: b :: s =>
    match Json.hexDigit? a, Json.hexDigit? b with
    | some high, some low => UInt8.ofNat (16 * high + low) :: octets s
    | _, _ => 0x25 :: octets (a :: b :: s)
  | c :: s => String.utf8EncodeChar c ++ octets s

/-- The path that a target names, from the root. -/
def ofTarget (target : String) : List Char :=
  let path := target.toList.takeWhile fun c ↦ c ≠ '?' && c ≠ '#'
  let path := ['/'].intercalate (takeSteps (Text.splitAt '/' path))
  let path := (Text.ofOctets (octets path)).flatMap fun c ↦ Text.written c.toNat
  if path.head? = some '/' then path else '/' :: path

/-- The path without slashes at its end. -/
def withoutEndSlash (path : List Char) : List Char :=
  (path.reverse.dropWhile (· = '/')).reverse

end Path

end ReportQuery.Http
