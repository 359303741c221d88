import SetupScript.Program.Build

/-!
# What a run looks at

The paths that building a script can touch, so that these parts of a disk can be read before the
program runs and written after it. `surveyed` lists them for a descriptor; every text in it is
taken for the name of a file and for the name of the application.
-/

namespace SetupScript.Program

open CommandLine

def textsIn (v : Value) : List String :=
  v.scalars.filterMap fun
    | .text s => some s
    | _ => none

/-- A directory and what a build writes into it for an application of that name. -/
def stagedPaths (temp : Path) (v : Variant) (name : String) : List Path :=
  let staging := temp.child (Text.joinedWords name ++ "Installer")
  staging.descend [Staging.iconName] ::
    Staging.libraryNames.map fun library => staging.descend [v.dirName, library]

/-- The directory whose entries a build lists. -/
def appDirOf (a : BuildArguments) (root : Path) : Path :=
  a.appDir.getD (defaultAppDir a.overrides.variant root)

def surveyed (a : BuildArguments) (descriptor : Value) (root temp : Path) : List Path :=
  let texts := textsIn descriptor
  [root.descend [Resolve.defaultLicense], appDirOf a root,
    root.descend (buildDir "installer" a.overrides.variant ++ [Builder.scriptName])] ++
    texts.map root.child ++ texts.map Path.parse ++
    texts.flatMap (stagedPaths temp a.overrides.variant) ++
    Staging.systemDirs.flatMap fun dir => Staging.libraryNames.map fun name => dir.descend [name]

end SetupScript.Program
