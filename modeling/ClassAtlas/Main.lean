import ClassAtlas.Command.Run

/-!
# The program

Commands run on a picture of the files they may ask for, which is taken before,
and what they write is written after. Nothing is decided here.
-/

namespace ClassAtlas
namespace Main

/-!
# Taking the picture
-/

def namesIn? (path : String) : IO (Option (List String)) := do
  try
    let place ← IO.FS.realPath path
    return some ((← place.readDir).toList.map fun entry => entry.fileName)
  catch _ => return none

def contentOf? (path : String) : IO (Option ByteArray) := do
  try
    return some (← IO.FS.readBinFile path)
  catch _ => return none

/-- Takes in what a path names, and for a directory only that it is one. -/
def takeIn (files : FileSystem) (path : String) : IO FileSystem := do
  match files.locate path with
  | .error _ => return files
  | .ok location =>
      if (files.node? location).isSome then return files
      else
        match ← namesIn? path with
        | some _ => return files.put location .directory
        | none =>
            match ← contentOf? path with
            | some content => return files.put location (.file content)
            | none => return files

def takePath (files : FileSystem) (path : String) : IO FileSystem := do
  (Path.ancestors path).reverse.foldlM takeIn files

def takeTree (path : String) : Nat → FileSystem → IO FileSystem
  | 0, files => takePath files path
  | depth + 1, files => do
      let files ← takePath files path
      let names := (← namesIn? path).getD []
      names.foldlM (fun files name => takeTree (Path.join path name) depth files) files

def depthLimit : Nat :=
  64

def takePlatform (files : FileSystem) (root : String) : IO FileSystem := do
  let files ← (Path.join root "release" :: Platform.libraries root).foldlM takePath files
  takeTree (Path.join root "jmods") depthLimit files

def takePlatforms (files : FileSystem) : List String → IO FileSystem
  | [] => return files
  | root :: others => do
      let files ← takePlatform files root
      if (Platform.at? files root).isSome then return files
      else takePlatforms files others

def platformRoots (root : String) : IO (List String) := do
  let names := (← namesIn? root).getD []
  return root :: (Platform.sorted names).map (Path.join root)

def takeClassPath (files : FileSystem) (environment : Environment) (options : Options) :
    IO FileSystem := do
  let files ← options.classPath.foldlM (fun files path => takeTree path depthLimit files) files
  if options.includePlatform then
    let searched ← (Platform.searchRoots environment).mapM platformRoots
    takePlatforms files (environment.platformHome.toList ++ searched.flatten)
  else return files

/-- The files that a command may ask for. -/
def picture (environment : Environment) (command : Command) : IO FileSystem := do
  let here := (← IO.currentDir).toString
  let location := (here.toList.splitOn '/').filter fun step => !Path.isIdle step
  let start : FileSystem := ⟨[], (location.map String.ofList).reverse⟩
  let start ← takePath start here
  match command with
  | .version => return start
  | .translate _ config _ => config.toList.foldlM takePath start
  | .check config _ => takePath start config
  | .resolve config output snapshot => do
      let files ← (config :: snapshot.toList).foldlM takePath start
      match Options.load files config with
      | .error _ => return files
      | .ok options =>
          let files ← (output.toList ++ options.output.toList).foldlM takePath files
          if snapshot.isSome then return files else takeClassPath files environment options

/-!
# Leaving the result
-/

def leave (outcome : Outcome) : IO Unit := do
  match outcome.written with
  | none => return ()
  | some path =>
      match outcome.files.read path with
      | .error _ => return ()
      | .ok content => do
          match Path.parent? path with
          | none | some "" => pure ()
          | some directory => IO.FS.createDirAll directory
          IO.FS.writeBinFile path content

def outcomeOf (arguments : List String) : IO Outcome := do
  match Command.ofWords? arguments with
  | none => return .misuse ⟨[], []⟩
  | some command => do
      let environment : Environment :=
        { home := ← IO.getEnv "HOME", platformHome := ← IO.getEnv "JAVA_HOME" }
      return command.run (← picture environment command) environment

end Main
end ClassAtlas

def main (arguments : List String) : IO UInt32 := do
  let outcome ← ClassAtlas.Main.outcomeOf arguments
  ClassAtlas.Main.leave outcome
  IO.print outcome.output
  IO.eprint outcome.errors
  return UInt32.ofNat outcome.code
