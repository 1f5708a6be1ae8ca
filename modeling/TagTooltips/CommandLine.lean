import TagTooltips.CommandLine.Refusal

/-! The command line: flags, and descriptor files to load before the first message. Arguments are read
from left to right; the first one that does not fit decides what is said. -/

namespace TagTooltips

structure Arguments where
  stdio : Bool
  debug : Bool
  descriptors : List String
  deriving DecidableEq, Repr

inductive Usage
  | help
  | refused (why : UsageError)
  | accepted (arguments : Arguments)
  deriving DecidableEq, Repr

namespace CommandLine

structure Given where
  flags : List Flag
  /-- How many of them are complete: a value that is an argument of its own completes its flag only
  when the next argument is found to be in order. -/
  complete : Nat
  deriving DecidableEq, Repr

namespace Given

def none : Given := ⟨[], 0⟩

def settled (flags : List Flag) : Given := ⟨flags, flags.length⟩

def add (f : Flag) (g : Given) : List Flag := if g.flags.contains f then g.flags else g.flags ++ [f]

def put (f : Flag) (g : Given) : Given := settled (g.add f)

def putPending (f : Flag) (g : Given) : Given := ⟨g.add f, g.flags.length⟩

end Given

def refusal (g : Given) : Stray → UsageError
  | .unknown name => .unknown name g.flags
  | .value f value => .unexpectedValue f value (g.complete == 0)
  | .misplaced shown => .misplaced shown

/-- What is said where a flag is left without a value, by the arguments that follow: a stray one is
named instead. -/
def gap (g : Given) : List String → UsageError
  | [] => .missingValue
  | argument :: rest =>
    match Word.ofArgument argument, rest with
    | .stray w, _ => refusal g w
    | .separator, next :: _ => .misplaced next
    | _, _ => .missingValue

def read (g : Given) (a : Arguments) : List String → Usage
  | [] => .accepted a
  | argument :: rest =>
    match Word.ofArgument argument with
    | .flag .stdio =>
      if a.stdio then .refused (.repeated .stdio) else read (g.put .stdio) { a with stdio := true } rest
    | .flag .debug =>
      if a.debug then .refused (.repeated .debug) else read (g.put .debug) { a with debug := true } rest
    | .flag .help => .help
    | .flag .descriptors =>
      match rest with
      | [] => .refused .missingValue
      | value :: rest =>
        if !Word.isValue value then .refused (gap (.settled g.flags) (value :: rest))
        else if value.isEmpty then .refused (gap (g.putPending .descriptors) rest)
        else read (g.putPending .descriptors) { a with descriptors := a.descriptors ++ [value] } rest
    | .descriptorsWith value =>
      if value.isEmpty then .refused .missingValue
      else read (g.put .descriptors) { a with descriptors := a.descriptors ++ [value] } rest
    | .separator =>
      match rest with
      | [] => .accepted a
      | next :: _ => .refused (.misplaced next)
    | .stray w => .refused (refusal g w)

def usage (arguments : List String) : Usage := read .none ⟨false, false, []⟩ arguments

def helpText : String :=
  "Language Server for tag helper completions\n\n" ++
  "Usage: taghelper-lsp [OPTIONS]\n\n" ++
  "Options:\n" ++
  "      --stdio               Use stdio for communication (required)\n" ++
  "      --debug               Enable debug mode\n" ++
  "      --descriptors <FILE>  Tag helper descriptor JSON file to load at startup (repeatable)\n" ++
  "  -h, --help                Print help\n"

end CommandLine

structure Exit where
  code : Nat
  stdout : String
  stderr : String
  deriving DecidableEq, Repr

def Exit.success : Exit := ⟨0, "", ""⟩

def CommandLine.invoke (arguments : List String) : Except Exit Arguments :=
  match usage arguments with
  | .help => .error ⟨0, helpText, ""⟩
  | .refused why => .error ⟨2, "", why.message ++ "\n\nFor more information, try '--help'.\n"⟩
  | .accepted a => if a.stdio then .ok a else .error ⟨1, "", "Error: --stdio flag is required\n"⟩

end TagTooltips
