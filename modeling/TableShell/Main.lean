import TableShell.Launch

/-!
# The program

Reads files, the standard input and the environment, and writes what the launch gives.
-/

namespace TableShell

/-- The system's code for a directory, of either sign, tells it from a path through a file. -/
def FileFault.ofError : IO.Error → FileFault
  | .noFileOrDirectory _ _ _ => .missing
  | .inappropriateType _ code _ =>
    if code = 21 ∨ code + 21 = 0 then .isDirectory else .notADirectory
  | e => .described (toString e)

def readFile (path : String) : IO (Except FileFault (List UInt8)) := do
  try
    return .ok (← IO.FS.readBinFile path).toList
  catch e => return .error (.ofError e)

end TableShell

open TableShell

def main (args : List String) : IO UInt32 := do
  let reading : Reading IO := ⟨readFile, return (← (← IO.getStdin).readBinToEnd).toList⟩
  let ending ← Launch.run reading args (← IO.getEnv Options.configVariable)
  IO.print ending.output
  if ending.code = 2 then IO.eprintln "error: invalid arguments"
  if let some fault := ending.fault then IO.eprintln ("Error: " ++ fault)
  return ending.code.toUInt32
