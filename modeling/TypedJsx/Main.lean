import TypedJsx.Archive
import TypedJsx.CommandLine.Run
/-!
The program. What a command line mentions is read from disk into a file system, the run is computed on
that, and what it changed is written back.
-/
namespace TypedJsx.Disk

/-- The text of a place. -/
def pathOf (place : List (List Char)) : String := String.ofList ('/' :: joinWith ['/'] place)

def entryOf (path : String) : IO.FS.DirEntry := { root := path, fileName := "" }

def contentOf (bytes : ByteArray) : FileContent :=
  match String.fromUTF8? bytes with
  | some value => .text value
  | none => .binary bytes.toList

/-- Adds a file, or a directory with all that is in it. Links inside directories are not followed. -/
partial def load (fs : FileSystem) (path : String) : IO FileSystem := do
  let place := fs.resolve path.toList
  if ← (entryOf path).path.isDir then
    let mut fs := { fs with directories := fs.directories ++ [place] }
    match ← (entryOf path).path.readDir.toBaseIO with
    | .error _ => return { fs with unlisted := fs.unlisted ++ [place] }
    | .ok entries =>
      for entry in entries do
        let kind := (← entry.path.symlinkMetadata).type
        if kind == .dir || kind == .file then
          fs ← load fs entry.path.toString
      return fs
  else if ← (entryOf path).root.pathExists then
    return fs.put place (contentOf (← IO.FS.readBinFile path))
  else return fs

/-- Notes what stands at the places above and at a path, without reading files. -/
def note (fs : FileSystem) (path : String) : IO FileSystem := do
  let place := fs.resolve path.toList
  let mut fs := fs
  for n in List.range (place.length + 1) do
    let here := place.take n
    let text := pathOf here
    if ← (entryOf text).root.isDir then fs := { fs with directories := fs.directories ++ [here] }
    else if ← (entryOf text).root.pathExists then
      if (fs.file? here).isNone then fs := fs.put here (.binary [])
  return fs

/-- The part of the disk that arguments mention. -/
def snapshot (a : Arguments) : IO FileSystem := do
  let home := Path.parts (← IO.currentDir).toString.toList
  let mut fs : FileSystem := { home := home, directories := [home] }
  for path in a.inputs ++ a.config.toList do
    fs ← load fs path
  for path in a.outDir.toList ++ a.archive.toList do
    fs ← note fs path
  return fs

/-- Makes the directories that are new, and writes the files that differ. -/
def commit (before after : FileSystem) : IO Unit := do
  for place in after.directories do
    if !before.isDirectoryAt place then IO.FS.createDirAll (pathOf place)
  for (place, content) in after.files do
    if before.file? place != some content then
      IO.FS.createDirAll (pathOf place.dropLast)
      match content with
      | .text value => IO.FS.writeFile (pathOf place) value
      | .binary bytes => IO.FS.writeBinFile (pathOf place) (ByteArray.mk bytes.toArray)
      | .archive a => IO.FS.writeBinFile (pathOf place) (ByteArray.mk a.bytes.toArray)

end TypedJsx.Disk

open TypedJsx in
def main (arguments : List String) : IO UInt32 := do
  let before ← match Request.parse arguments with
    | .ok (.run a) => Disk.snapshot a
    | _ => pure {}
  let outcome := run before arguments
  IO.print outcome.stdout
  if outcome.exitCode == 2 then IO.eprintln outcome.stderr else IO.eprint outcome.stderr
  Disk.commit before outcome.fileSystem
  return outcome.exitCode.toUInt32
