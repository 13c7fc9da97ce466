/-
**Where settings are kept.**

The settings file is the one named on the command line, else the one named by the environment,
else the one in the user's settings directory.  That directory is named by the environment, as an
absolute path, or lies in the user's home.

Main definitions:

* `ClusterReport.Settings.Surroundings` — what the environment says about files;
* `ClusterReport.Settings.location?` — the path of the settings file.
-/

set_option relaxedAutoImplicit false
set_option autoImplicit false

namespace ClusterReport.Settings

/-- What the environment says: the settings file, the settings directory, the home directory, and
the snapshot to report on. -/
structure Surroundings where
  file : Option String := none
  directory : Option String := none
  home : Option String := none
  snapshot : Option String := none

def isAbsolute (path : String) : Bool := path.startsWith "/"

def joinPath (directory name : String) : String :=
  if directory.isEmpty || directory.endsWith "/" then directory ++ name
  else directory ++ "/" ++ name

def directory? (s : Surroundings) : Option String :=
  match s.directory.filter isAbsolute with
  | some directory => some directory
  | none => (s.home.filter fun home => !home.isEmpty).map fun home => joinPath home ".config"

/-- The path of the settings file, given the one named on the command line. -/
def location? (named : Option String) (s : Surroundings) : Option String :=
  match named, s.file with
  | some path, _ => some path
  | none, some path => some path
  | none, none =>
    (directory? s).map fun directory => joinPath (joinPath directory "asadm") "config.toml"

end ClusterReport.Settings
