import GrammarStudio.Launch

/-!
# The program

The files around are read into a tree, the launch runs on it, and what it leaves is printed.
-/

open GrammarStudio Files

namespace GrammarStudio.Disk

/-- How deep directories are read. -/
def depth : Nat := 4

/-- The steps of an absolute name. -/
def placeOf (name : String) : Place := (Name.ofText name).steps

/-- A tree with the directories around a place. -/
def withPlace (tree : Tree) (place : Place) : Tree :=
  (List.range place.length).foldl (fun t n => t.put (place.take (n + 1)) .directory) tree

/-- A tree with a file of the disk, if it can be read. -/
def withFile (tree : Tree) (name : String) : IO Tree := do
  let place := placeOf name
  try
    let content ← IO.FS.readBinFile name
    return (withPlace tree place.dropLast).put place (.file content)
  catch _ => return tree

/-- A tree with a directory of the disk and what is below it. -/
def withDirectory (tree : Tree) (name : String) : (depth : Nat) → IO Tree
  | 0 => return tree
  | depth + 1 => do
    let mut tree := withPlace tree (placeOf name)
    for entry in ← (← IO.FS.realPath name).readDir do
      let inner := name ++ "/" ++ entry.fileName
      if ← entry.path.isDir then tree ← withDirectory tree inner depth else tree ← withFile tree inner
    return tree

/-- What a launch finds around it. -/
def surroundings : IO Surroundings := do
  let here := (← IO.FS.realPath ".").toString
  let home := (← IO.getEnv "HOME").getD "/"
  let tree ← withDirectory (Tree.starting (placeOf here)) here depth
  let tree ← withFile tree (home ++ "/.config/peg-playground/config.toml")
  let tree ← withFile tree (home ++ "/.local/share/peg-playground/settings.json")
  return { tree, home, logSetting := ← IO.getEnv "RUST_LOG" }

end GrammarStudio.Disk

def main (args : List String) : IO UInt32 := do
  let launched := Launch.ofArguments (← Disk.surroundings) args
  (← IO.getStdout).putStr launched.output
  (← IO.getStderr).putStr launched.errors
  return UInt32.ofNat launched.status
