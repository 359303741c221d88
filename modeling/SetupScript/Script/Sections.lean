import SetupScript.Configuration
import SetupScript.Script.Arguments

/-!
# The sections of a script

Each section is a heading with lines below it. Every function of this module lists the lines of
one section; `render` puts the sections one after the other, with an empty line between two of
them.
-/

namespace SetupScript

/-- A file or directory of the application's build, and where it lies. -/
structure AppEntry where
  name : String
  source : String
  isDir : Bool
deriving DecidableEq

/-- What a script is made of besides the configuration. -/
structure ScriptParts where
  outputDir : String
  icon : String
  entries : List AppEntry
  libraries : List String
deriving DecidableEq

namespace Script

structure Section where
  heading : String
  lines : List String

def Section.text (s : Section) : String :=
  "\n".intercalate (("[" ++ s.heading ++ "]") :: s.lines)

variable (c : Configuration)

def inApp (name : String) : String := constant "app" ++ "\\" ++ name

def licenseLines : List String :=
  if c.licenseText == "" then [] else ["LicenseFile=" ++ c.licenseText]

def privilegeLines : List String :=
  match c.privilege with
  | .admin => ["PrivilegesRequired=admin"]
  | .nonAdmin => ["PrivilegesRequired=lowest"]
  | .auto => ["PrivilegesRequired=admin", "PrivilegesRequiredOverridesAllowed=dialog commandline"]

def signToolLines : List String :=
  match c.signTool with
  | some t => t.directives
  | none => []

def outputName : String :=
  c.joinedName ++ "-" ++ c.architecture.family ++ "-" ++ c.version ++ "-Installer"

def setup (outputDir icon : String) : Section :=
  ⟨"Setup",
    ["AppId=" ++ c.id,
      "AppName=" ++ c.name,
      "UninstallDisplayName=" ++ c.name,
      "UninstallDisplayIcon=" ++ inApp c.exeName,
      "AppVersion=" ++ c.version,
      "AppPublisher=" ++ c.publisher,
      "AppPublisherURL=" ++ c.url,
      "AppSupportURL=" ++ c.supportUrl,
      "AppUpdatesURL=" ++ c.updatesUrl] ++
    licenseLines c ++
    ["DefaultDirName=" ++ constant "autopf" ++ "\\" ++ c.name] ++
    privilegeLines c ++
    ["OutputDir=" ++ outputDir,
      "OutputBaseFilename=" ++ outputName c,
      "SetupIconFile=" ++ icon,
      "Compression=lzma2/max",
      "SolidCompression=yes",
      "WizardStyle=modern",
      "ArchitecturesAllowed=" ++ c.architecture.identifier,
      "ArchitecturesInstallIn64BitMode=" ++ c.architecture.identifier,
      "DisableDirPage=auto",
      "DisableProgramGroupPage=auto"] ++
    signToolLines c⟩

def installDelete : Section :=
  ⟨"InstallDelete", ["Type: filesandordirs; Name: \"" ++ inApp "*" ++ "\""]⟩

def languages : Section := ⟨"Languages", c.languages.map Language.entry⟩

def tasks : Section :=
  ⟨"Tasks", ["Name: \"desktopicon\"; Description: \"" ++ constant "cm:CreateDesktopIcon" ++
    "\"; GroupDescription: \"" ++ constant "cm:AdditionalIcons" ++ "\""]⟩

/-- Whether an entry is the executable file and is installed under another name. -/
def isRenamed (e : AppEntry) : Bool :=
  !e.isDir && e.name == c.declaredExeName && c.exeName != c.declaredExeName

def fileLine (source : String) : String :=
  "Source: \"" ++ source ++ "\"; DestDir: \"" ++ constant "app" ++ "\"; Flags: ignoreversion"

def entryLine (e : AppEntry) : String :=
  if e.isDir then
    "Source: \"" ++ e.source ++ "\\*\"; DestDir: \"" ++ inApp e.name ++
      "\"; Flags: ignoreversion recursesubdirs createallsubdirs"
  else if isRenamed c e then
    "Source: \"" ++ e.source ++ "\"; DestDir: \"" ++ constant "app" ++ "\"; DestName: \"" ++
      c.exeName ++ "\"; Flags: ignoreversion"
  else fileLine e.source

def files (entries : List AppEntry) (libraries : List String) : Section :=
  ⟨"Files", entries.map (entryLine c) ++ libraries.map fileLine⟩

def iconLine (place : String) : String :=
  "Name: \"" ++ constant place ++ "\\" ++ c.name ++ "\"; Filename: \"" ++ inApp c.exeName ++ "\""

def icons : Section :=
  ⟨"Icons", [iconLine c "autoprograms", iconLine c "autodesktop" ++ "; Tasks: desktopicon"]⟩

/-- No arguments are left out rather than written as an empty value. -/
def parameters (args : List String) : String :=
  if args.isEmpty then "" else " Parameters: " ++ quotedArguments args ++ ";"

def launchLine (args : List String) (flags check : String) : String :=
  "Filename: \"" ++ inApp c.exeName ++ "\";" ++ parameters args ++ " Description: \"" ++
    constant ("cm:LaunchProgram," ++ constantArgument c.name) ++ "\"; Flags: " ++ flags ++
    "; Check: " ++ check

def run : Section :=
  ⟨"Run",
    (match c.runArgs with
      | some args => [launchLine c args "nowait postinstall skipifsilent" "not IsSilentInstall"]
      | none => []) ++
    (match c.runIfSilent, c.runSilentArgs with
      | true, some args => [launchLine c args "nowait postinstall" "IsSilentInstall"]
      | _, _ => [])⟩

def silentCheck : List String :=
  ["function IsSilentInstall(): Boolean;", "begin", "  Result := WizardSilent();", "end;"]

/-- Code of the configuration follows the script's own, without the empty lines around it. -/
def code : Section :=
  let appended := Text.stripLines (c.appendedCode.getD "")
  ⟨"Code", silentCheck ++ if appended == "" then [] else ["", appended]⟩

def header : List String :=
  ["; Inno Setup script generated by innoBundler.",
    "; Changes made here are overwritten on the next build."]

def sections (p : ScriptParts) : List Section :=
  [setup c p.outputDir p.icon, installDelete, languages c, tasks, files c p.entries p.libraries,
    icons c, run c, code c]

def render (p : ScriptParts) : String :=
  "\n".intercalate header ++ "\n\n" ++ "\n\n".intercalate ((sections c p).map Section.text) ++ "\n"

end Script

end SetupScript
