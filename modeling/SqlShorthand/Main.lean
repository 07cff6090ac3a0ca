import SqlShorthand.CommandLine.Run

/-!
# Main — the program

Reads the settings files that may count and leaves the rest to `CommandLine.run`.  No backend is
linked, so only what needs no link gives a result.
-/

namespace SqlShorthand.CommandLine

/-- The tree with the file at a path, if there is one. -/
def withFile (t : Files.Tree) (path : String) : IO Files.Tree := do
  let names := Files.components path
  try
    let text ← IO.FS.readFile path
    return (t.addText names text 0).toOption.getD t
  catch e =>
    match e with
    | .inappropriateType .. => return (t.makeFolders 0 names).toOption.getD t
    | _ => return t

/-- The folder of the user's settings, which is absolute. -/
def userFolder? : IO (Option String) := do
  match ← IO.getEnv "XDG_CONFIG_HOME", ← IO.getEnv "HOME" with
  | some folder, home =>
    if folder.startsWith "/" then return some folder
    else return home.map (· ++ "/.config")
  | none, home => return home.map (· ++ "/.config")

/-- What is around the program. -/
def surroundings (words : List String) : IO Surroundings := do
  let config ← IO.getEnv "RAPIDSQL_CONFIG"
  let userFolder ← userFolder?
  let here : Surroundings := { files := {}, config, userFolder }
  let named := match parse config words with
    | .ok a => a.config.toList
    | .error _ => []
  let files ← (named ++ searchPaths here).foldlM withFile here.files
  return { here with files }

end SqlShorthand.CommandLine

/-- Runs the program. -/
def main (words : List String) : IO UInt32 := do
  let outcome := SqlShorthand.CommandLine.run (← SqlShorthand.CommandLine.surroundings words) words
  IO.print outcome.stdout
  IO.eprint outcome.stderr
  return outcome.code.toUInt32
