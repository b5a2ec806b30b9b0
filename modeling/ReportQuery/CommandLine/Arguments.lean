import ReportQuery.Relation.Loading

/-!
# Arguments of the command line

The command takes the path of a request and options. Options have long names, which may be
shortened as long as they stay unique; an option with a value takes it from its own argument,
behind an equals sign, or from the next one. What follows two lone hyphens is no option. An
argument that looks like a negative number, or that has a space in it, is none either.

Every argument is first told apart from the others, so that a name with several meanings is
refused before anything else. Then the arguments are read in turn: asking for help ends the
reading, and so does an option that cannot be used. Only at the end is it known whether the
request is named, and nothing besides.
-/

namespace ReportQuery.CommandLine

/-- What the command is called with. -/
structure Arguments where
  request : String
  source : Relation.Source := .static
  graphPath : Option String := none
  execute : Bool := false
deriving Repr, DecidableEq

/-- Why the command ends before it begins. -/
inductive Refusal where
  | help | usage
deriving Repr, DecidableEq

/-- An option. -/
inductive Switch where
  | help | graphSource | graphPath | execute
deriving Repr, DecidableEq

namespace Switch

/-- The long name of each option. -/
def longNames : List (String × Switch) := [("--help", .help), ("--graph-source", .graphSource),
  ("--graph-path", .graphPath), ("--execute", .execute)]

/-- The only short name. -/
def shortHelp : String := "-h"

/-- The option of exactly this name. -/
def named? (name : String) : Option Switch :=
  if name = shortHelp then some .help else longNames.lookup name

/-- The options whose long names begin so. -/
def beginning (start : List Char) : List Switch :=
  (longNames.filter fun n ↦ start.isPrefixOf n.1.toList).map (·.2)

end Switch

/-! ### Telling arguments apart -/

/-- What an argument is by itself. Letters behind a short name are a value of it. -/
inductive Word where
  | plain (s : String)
  | separator
  | option (switch : Switch) (value : Option String)
  | letters (value : String)
  | unknown
deriving Repr, DecidableEq

namespace Word

/-- The text before the first equals sign, and the text after it if there is one. -/
def splitValue (s : List Char) : List Char × Option String :=
  match s.span (· ≠ '=') with
  | (name, _ :: value) => (name, some (String.ofList value))
  | (name, []) => (name, none)

/-- A hyphen with digits, which may have one point among or before them. -/
def isNegativeNumber : List Char → Bool
  | '-' :: s =>
    match s.span (· ≠ '.') with
    | (whole, []) => !whole.isEmpty && whole.all (Text.decimalDigit? · |>.isSome)
    | (whole, _ :: fraction) =>
      !fraction.isEmpty && (whole ++ fraction).all (Text.decimalDigit? · |>.isSome)
  | _ => false

/-- An argument that begins with a hyphen and names no option exactly. A long name may be
shortened; `none` when it could be several. -/
def ofShortened? (s : List Char) : Option Word :=
  let otherwise : Word :=
    if isNegativeNumber s || s.contains ' ' then .plain (String.ofList s) else .unknown
  match s with
  | '-' :: '-' :: _ =>
    let (name, value) := splitValue s
    match Switch.beginning name with
    | [] => some otherwise
    | [switch] => some (.option switch value)
    | _ => none
  | '-' :: 'h' :: rest => some (.letters (String.ofList rest))
  | _ => some otherwise

/-- What an argument is; `none` when it names several options. -/
def of? (argument : String) : Option Word :=
  let s := argument.toList
  if s.head? ≠ some '-' then some (.plain argument)
  else match Switch.named? argument with
    | some switch => some (.option switch none)
    | none =>
      if s.length = 1 then some (.plain argument)
      else match splitValue s with
        | (_, none) => ofShortened? s
        | (name, some value) =>
          if String.ofList name = Switch.shortHelp then some (.letters value)
          else match Switch.named? (String.ofList name) with
            | some switch => some (.option switch (some value))
            | none => ofShortened? s

/-- What all arguments are; behind the separator they are plain. -/
def all? : List String → Option (List Word)
  | [] => some []
  | "--" :: rest => some (.separator :: rest.map .plain)
  | argument :: rest => do
    let word ← of? argument
    let words ← all? rest
    return word :: words

end Word

/-! ### Reading arguments -/

/-- What was read so far. -/
structure Read where
  request : Option String := none
  surplus : Bool := false
  source : Relation.Source := .static
  graphPath : Option String := none
  execute : Bool := false
deriving Repr, DecidableEq

namespace Read

/-- The source of the given name. -/
def withSource (r : Read) (name : String) : Except Refusal Read :=
  match (Vocabulary.ofWord? name : Option Relation.Source) with
  | some source => .ok { r with source }
  | none => .error .usage

/-- One more plain argument: the request, when it is the first one. -/
def withPlain (r : Read) (s : String) : Read :=
  if r.request.isSome then { r with surplus := true } else { r with request := some s }

/-- The arguments, when the request is named and nothing is left over. -/
def finish (r : Read) : Except Refusal Arguments :=
  match r.request, r.surplus with
  | some request, false =>
    .ok { request, source := r.source, graphPath := r.graphPath, execute := r.execute }
  | _, _ => .error .usage

/-- Letters behind the short name ask for help too when they are all its letter. -/
def helpLetters (value : String) : Refusal :=
  if value ≠ "" ∧ value.toList.all (· = 'h') then .help else .usage

end Read

/-- Reads the words in turn. A separator belongs to the request next to it, on either side. -/
def readWords (r : Read) : List Word → Except Refusal Arguments
  | [] => r.finish
  | .plain s :: .separator :: rest =>
    if r.request.isSome then .error .usage else readWords (r.withPlain s) rest
  | .plain s :: rest => readWords (r.withPlain s) rest
  | .separator :: .plain s :: rest =>
    if r.request.isSome then .error .usage else readWords (r.withPlain s) rest
  | .separator :: _ => .error .usage
  | .unknown :: rest => readWords { r with surplus := true } rest
  | .letters value :: _ => .error (Read.helpLetters value)
  | .option .help none :: _ => .error .help
  | .option .help (some _) :: _ => .error .usage
  | .option .execute none :: rest => readWords { r with execute := true } rest
  | .option .execute (some _) :: _ => .error .usage
  | .option .graphPath (some value) :: rest => readWords { r with graphPath := some value } rest
  | .option .graphPath none :: .plain value :: rest =>
    readWords { r with graphPath := some value } rest
  | .option .graphPath none :: _ => .error .usage
  | .option .graphSource (some value) :: rest =>
    match r.withSource value with
    | .ok r => readWords r rest
    | .error e => .error e
  | .option .graphSource none :: .plain value :: rest =>
    match r.withSource value with
    | .ok r => readWords r rest
    | .error e => .error e
  | .option .graphSource none :: _ => .error .usage

/-- Reads the arguments of the command. -/
def Arguments.read (arguments : List String) : Except Refusal Arguments :=
  match Word.all? arguments with
  | some words => readWords {} words
  | none => .error .usage

end ReportQuery.CommandLine
