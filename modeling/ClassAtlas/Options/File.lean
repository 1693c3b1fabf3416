import ClassAtlas.Files.FileSystem
import ClassAtlas.Options.Basic

/-!
# Options in files

Options are kept in a file. Relative paths among them are meant from the
directory of that file.
-/

namespace ClassAtlas
namespace Options

def within (options : Options) (directory : String) : Options :=
  { options with
    classPath := options.classPath.map (Path.join directory)
    output := options.output.map (Path.join directory) }

def load (files : FileSystem) (path : String) : Except Cause Options :=
  match files.readText path with
  | .error error => .error (.misconfigured (.unreadable path error))
  | .ok text =>
      (Options.parse text).map fun options =>
        match Path.parent? path with
        | none => options
        | some directory => options.within directory

end Options
end ClassAtlas
