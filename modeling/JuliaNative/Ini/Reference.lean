import JuliaNative.Ini.Document

set_option autoImplicit false

/-! # References between options

The value of an option may refer to other options: to one of its own section, or to one of a named
section. A reference stands in braces behind a dollar sign, and a dollar sign itself is written
twice. Values that are referred to may refer in turn, up to ten levels deep. -/

namespace JuliaNative.Ini

/-- A piece of a value: a character, a reference with the text that follows it, or a fault in the
    form, after which nothing is read. -/
inductive Piece
  | char (c : Char)
  | reference (path : List String) (rest : String)
  | unclosed (found : String)
  | strayDollar (found : String)
deriving DecidableEq, Repr

/-- A reference that is being read: the text from its dollar sign on, and its characters so far, the
    last one first. -/
abbrev OpenReference := List Char × List Char

/-- The pieces of the rest of a value, given the reference that is being read. -/
def piecesAfter : Option OpenReference → List Char → List Piece
  | none, [] => []
  | none, '$' :: '$' :: rest => .char '$' :: piecesAfter none rest
  | none, '$' :: '{' :: rest => piecesAfter (some ('$' :: '{' :: rest, [])) rest
  | none, c :: rest =>
    if c = '$' then [.strayDollar (String.ofList (c :: rest))] else .char c :: piecesAfter none rest
  | some (whole, _), [] => [.unclosed (String.ofList whole)]
  | some (whole, name), c :: rest =>
    if c = '}' then
      if name = [] then [.unclosed (String.ofList whole)]
      else
        .reference ((name.reverse.splitOn ':').map String.ofList) (String.ofList rest)
          :: piecesAfter none rest
    else piecesAfter (some (whole, c :: name)) rest

/-- The pieces of a value. -/
def pieces (value : String) : List Piece :=
  piecesAfter none value.toList

/-- Why an option has no value with its references resolved. -/
inductive ReferenceFault
  | unwritten (option : String)
  | unclosed (found : String)
  | strayDollar (found : String)
  | twoColons (rest : String)
  | missing (option sectionName reference value : String)
  | tooDeep (option sectionName value : String)
  | withoutValue
deriving DecidableEq, Repr

/-- The deepest level of references. -/
def maximalDepth : Nat := 10

namespace ReferenceFault

/-- Whether the form of a value is at fault, rather than what it refers to. -/
def isMalformed : ReferenceFault → Bool
  | unclosed _ | strayDollar _ | twoColons _ => true
  | _ => false

/-- The message for an option whose references are not resolved. -/
def message : ReferenceFault → String
  | unwritten option => Text.quote option
  | unclosed found => "bad interpolation variable reference " ++ Text.quote found
  | strayDollar found => "'$' must be followed by '$' or '\x7b', found: " ++ Text.quote found
  | twoColons rest => "More than one ':' found: " ++ Text.quote rest
  | missing option sectionName reference value =>
    "Bad value substitution: option " ++ Text.quote option ++ " in section "
      ++ Text.quote sectionName ++ " contains an interpolation key " ++ Text.quote reference
      ++ " which is not a valid option name. Raw value: " ++ Text.quote value
  | tooDeep option sectionName value =>
    "Recursion limit exceeded in value substitution: option " ++ Text.quote option
      ++ " in section " ++ Text.quote sectionName
      ++ " contains an interpolation key which cannot be substituted in "
      ++ toString maximalDepth ++ " steps. Raw value: " ++ Text.quote value
  | withoutValue => "argument of type 'NoneType' is not iterable"

end ReferenceFault

namespace Document

/-- What a reference in a section leads to: a section, an option and its value. -/
def target? (document : Document) (sectionName : String) (path : List String) :
    Option (String × String × Option String) :=
  match path with
  | [option] =>
    (document.value? sectionName (Text.lower option)).map fun value =>
      (sectionName, Text.lower option, value)
  | [other, option] =>
    (document.value? other (Text.lower option)).map fun value => (other, Text.lower option, value)
  | _ => none

/-- Joins the characters of pieces and the values of references, where `expand` gives the value of
    an option that refers to others. -/
def joinPieces (document : Document)
    (expand : String → String → String → Except ReferenceFault (List Char))
    (sectionName option value : String) : List Piece → Except ReferenceFault (List Char)
  | [] => .ok []
  | .char c :: rest => (joinPieces document expand sectionName option value rest).map (c :: ·)
  | .unclosed found :: _ => .error (.unclosed found)
  | .strayDollar found :: _ => .error (.strayDollar found)
  | .reference path after :: rest =>
    if 2 < path.length then .error (.twoColons after)
    else
      match document.target? sectionName path with
      | none => .error (.missing option sectionName (":".intercalate path) value)
      | some (_, _, none) => .error .withoutValue
      | some (other, name, some text) => do
        let inner ← if '$' ∈ text.toList then expand other name text else .ok text.toList
        let outer ← joinPieces document expand sectionName option value rest
        pure (inner ++ outer)

/-- The value of an option with its references resolved, down to the given depth. -/
def expand (document : Document) : Nat → String → String → String →
    Except ReferenceFault (List Char)
  | 0, sectionName, option, value => .error (.tooDeep option sectionName value)
  | depth + 1, sectionName, option, value =>
    document.joinPieces (expand document depth) sectionName option value (pieces value)

/-- The value of an option that is written or inherited, with its references resolved. The option is
    looked up in lower case. An option without a value has none to resolve. -/
def resolved (document : Document) (sectionName option : String) :
    Except ReferenceFault (Option String) :=
  let name := Text.lower option
  match document.value? sectionName name with
  | none => .error (.unwritten option)
  | some none => .ok none
  | some (some value) =>
    (document.expand maximalDepth sectionName name value).map fun cs => some (String.ofList cs)

end Document
end JuliaNative.Ini
