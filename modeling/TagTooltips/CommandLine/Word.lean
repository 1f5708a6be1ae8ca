import TagTooltips.Text.Similarity

/-! The words of a command line. What a word is does not depend on the words before it, except that
one of them may take it as its value. -/

namespace TagTooltips.CommandLine

inductive Flag
  | stdio
  | debug
  | descriptors
  | help
  deriving DecidableEq, Repr

namespace Flag

def all : List Flag := [stdio, debug, descriptors, help]

def name : Flag → String
  | stdio => "stdio"
  | debug => "debug"
  | descriptors => "descriptors"
  | help => "help"

def ofName? (name : String) : Option Flag := all.find? (·.name == name)

def spelling (f : Flag) : String := "--" ++ f.name

def shown : Flag → String
  | descriptors => "--descriptors <FILE>"
  | f => f.spelling

def similarTo? (name : String) : Option Flag :=
  (Text.closest? name.toList (all.map (·.name.toList))).bind fun s => ofName? (String.ofList s)

end Flag

/-- A word that is refused wherever it stands as a word of its own. -/
inductive Stray
  | unknown (name : String)
  | value (f : Flag) (value : String)
  /-- No flag at all; `shown` is the part that is named. -/
  | misplaced (shown : String)
  deriving DecidableEq, Repr

inductive Word
  | flag (f : Flag)
  | descriptorsWith (value : String)
  /-- What follows can be no flag any more. -/
  | separator
  | stray (w : Stray)
  deriving DecidableEq, Repr

namespace Word

def ofLong (s : List Char) : Word :=
  let name := String.ofList (s.takeWhile (· != '='))
  match Flag.ofName? name, s.dropWhile (· != '=') with
  | some f, [] => flag f
  | some .descriptors, _ :: value => descriptorsWith (String.ofList value)
  | some f, _ :: value => stray (.value f (String.ofList value))
  | none, _ => stray (.unknown name)

def ofArgument (argument : String) : Word :=
  match argument.toList with
  | ['-', '-'] => separator
  | '-' :: '-' :: s => ofLong s
  | '-' :: 'h' :: _ => flag .help
  | '-' :: c :: _ => stray (.misplaced (String.ofList ['-', c]))
  | _ => stray (.misplaced argument)

def isValue (argument : String) : Bool := argument == "-" || argument.toList.head? != some '-'

end Word

end TagTooltips.CommandLine
