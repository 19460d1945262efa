namespace SymbolSieve

namespace Cli

structure ScriptNames where
  program : String
  ident : String
  request : String
  activeHelp : String
deriving DecidableEq, Repr

def ScriptNames.paddedProgram (n : ScriptNames) : String :=
  n.program ++ String.ofList (List.replicate (36 - n.program.length) ' ')

def ScriptNames.ofProgram (program : String) (describe : Bool) : ScriptNames :=
  let ident := program.map fun c => if c == '-' || c == ':' then '_' else c
  let upper := program.map fun c =>
    if c.isAlphanum then c.toUpper else '_'
  { program, ident, request := if describe then "__complete" else "__completeNoDesc",
    activeHelp := upper ++ "_ACTIVE_HELP" }

end Cli

end SymbolSieve
