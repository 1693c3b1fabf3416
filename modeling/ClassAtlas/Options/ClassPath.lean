import ClassAtlas.ClassPath.Basic
import ClassAtlas.Options.Basic
import ClassAtlas.Platform

/-!
# The class path of a run

The configured entries come first and the platform last, so that no class of the
platform hides a configured one.
-/

namespace ClassAtlas
namespace Options

def platformAssets (options : Options) (files : FileSystem) (environment : Environment) :
    List String :=
  if options.includePlatform then
    match Platform.discover files environment with
    | none => []
    | some platform => platform.assets
  else []

def openClassPath (options : Options) (files : FileSystem) (environment : Environment) :
    Except ClassPathError ClassPath :=
  ClassPath.ofPaths files (options.classPath ++ options.platformAssets files environment)

end Options
end ClassAtlas
