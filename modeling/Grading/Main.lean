import Grading.CommandLine.Usual

/-!
# Main — the command line on the files of the working directory

The files below the working directory are read, the command is carried out on them, and what it wrote
is written back.
-/

open Grading Grading.Files

partial def entriesBelow (names : List String) (directory : IO.FS.DirEntry) :
    IO (List (List String × Entry)) := do
  let names := names ++ [directory.fileName]
  if ← directory.path.isDir then
    let below ← (← directory.path.readDir).toList.mapM (entriesBelow names)
    return (names, .directory) :: below.flatten
  else
    let bytes ← IO.FS.readBinFile directory.path
    return [(names, .file bytes.toList)]

def workingTree : IO Tree := do
  let here ← IO.currentDir
  let entries ← (← here.readDir).toList.mapM (entriesBelow [])
  return { root := here.toString ++ "/", entries := entries.flatten }

def writeBack (before after : Tree) : IO Unit := do
  for (names, entry) in after.entries do
    let name := before.root ++ "/".intercalate names
    if before.entries.lookup names ≠ some entry then
      match entry with
      | .directory => IO.FS.createDirAll name
      | .file bytes => IO.FS.writeBinFile name (ByteArray.mk bytes.toArray)

def main (args : List String) : IO UInt32 := do
  let tree ← workingTree
  let outcome := CommandLine.run CommandLine.usualHost tree args
  IO.print outcome.output
  writeBack tree outcome.files
  return outcome.exit.code.toUInt32
