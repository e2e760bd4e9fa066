import LootRules.Inspector.Request

/-!
# The command line

Reads the arguments, fetches the bytes of the source they name, and writes out what the
inspector makes of them.
-/

namespace LootRules

/-- The bytes of a source, or what kept it from being read. -/
def Source.fetch (source : Source) : IO (Except FileFault ByteArray) := do
  match source with
  | .standardInput => return .ok (← (← IO.getStdin).readBinToEnd)
  | .file path =>
    try
      return .ok (← IO.FS.readBinFile (String.ofList path))
    catch
      | .noFileOrDirectory .. => return .error .notFound
      | .inappropriateType _ code _ =>
        return .error (if code = 21 then .isDirectory else .notDirectory)
      | e => return .error (.other e.toString.toList)

end LootRules

open LootRules

/-- Inspects a rule file, or evaluates a condition. -/
def main (arguments : List String) : IO UInt32 := do
  let colored ← (← IO.getStdout).isTty
  let output ←
    match Request.ofArguments colored (arguments.map String.toList) with
    | .inl output => pure output
    | .inr settings => Request.report settings <$> settings.source.fetch
  IO.print (String.ofList output.out)
  IO.eprint (String.ofList output.err)
  return output.code
