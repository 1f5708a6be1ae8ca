import TagTooltips.CommandLine.Word

/-! Why a command line is refused, and what is said then. The usage line names the flags that were
given where that helps. -/

namespace TagTooltips

open CommandLine

inductive UsageError
  | unknown (name : String) (given : List Flag)
  | misplaced (shown : String)
  | unexpectedValue (flag : Flag) (value : String) (alone : Bool)
  | missingValue
  | repeated (flag : Flag)
  deriving DecidableEq, Repr

namespace UsageError

def usageLine (parts : List String) : String := "\n\nUsage: taghelper-lsp " ++ " ".intercalate parts

def anyUsage : String := usageLine ["[OPTIONS]"]

def usageOf (flags : List Flag) : String :=
  if flags.isEmpty then anyUsage else usageLine (flags.map (·.shown))

def usageBeside (flag : Flag) : String :=
  usageLine ((if flag = .help then [Flag.help.shown] else []) ++ ["<--stdio|--debug|--descriptors <FILE>>"])

def unexpected (what : String) : String := "error: unexpected argument '" ++ what ++ "' found"

def message : UsageError → String
  | unknown name given =>
    unexpected ("--" ++ name) ++
      match Flag.similarTo? name with
      | some f => "\n\n  tip: a similar argument exists: '" ++ f.spelling ++ "'" ++
          usageOf (if given.contains f then given else given ++ [f])
      | none => usageOf given
  | misplaced shown => unexpected shown ++ anyUsage
  | unexpectedValue flag value alone =>
    "error: unexpected value '" ++ value ++ "' for '" ++ flag.spelling ++
      "' found; no more were expected" ++ (if alone then usageOf [flag] else usageBeside flag)
  | missingValue => "error: a value is required for '--descriptors <FILE>' but none was supplied"
  | repeated flag =>
    "error: the argument '" ++ flag.spelling ++ "' cannot be used multiple times" ++ anyUsage

end UsageError

end TagTooltips
