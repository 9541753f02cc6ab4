import ShaderBuild.Shell.Program

/-! The paths that a run can read or write, so that nothing else need be looked at before it. -/

namespace ShaderBuild.Shell

/-- What the command line names, and the modules next to the inputs. -/
def namedPaths (arguments : Arguments) : List Path :=
  arguments.config :: arguments.inputs ++ arguments.inputs.map defaultOutput ++
    arguments.output.toList ++ arguments.cacheDirectory.toList

/-- The file of the disk tier for an input. -/
def cachedFile? (cache : Cache) (files : Files) (input : Path) : Option Path :=
  match files.readText input with
  | .error _ => none
  | .ok source => cache.diskPath? (cache.keyOf ⟨input.logicalName, source⟩)

/-- What the settings name, and the files of the disk tier for the inputs. -/
def settledPaths (compiler : Compiler) (arguments : Arguments) (files : Files) : List Path :=
  match Settings.load files arguments.config with
  | .error _ => []
  | .ok settings =>
    let directory := (cacheSettings arguments settings).diskDirectory
    let options := (settings.compiler.options.toOption.getD {})
    let cache : Cache :=
      { compiler := compiler
        options := { options with stage := arguments.stage }
        diskDirectory := directory }
    (if settings.logging.logToFile then [⟨settings.logging.logFile⟩] else []) ++
      directory.toList ++ arguments.inputs.filterMap (cachedFile? cache files)

end ShaderBuild.Shell
