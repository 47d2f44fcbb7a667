import SchemaSql.Artifact.Basic
import SchemaSql.Artifact.FileTree

/-!
# Writing artifacts

The artifacts of a record go into one directory: the source text, unless it is left out, and a script for
each dialect. If making them fails the file tree stays as it is.
-/

namespace SchemaSql

namespace Artifacts

/-- The name of the file with the source text of a table. -/
def sourceName (table : String) : String :=
  table ++ ".rs"

/-- The name of the file with a script for a table. -/
def scriptName (table : String) (s : TableScript) : String :=
  table ++ "." ++ s.dialect.name ++ ".sql"

/-- **The files of a record** and what they hold, in the order in which they are written. -/
def files (c : ArtifactConfig) (a : Artifacts) : List (String × String) :=
  (if c.withSource then [(sourceName a.table, a.source)] else []) ++
    a.scripts.map fun s => (scriptName a.table s, s.text)

/-- Files by their paths below a directory. -/
def below (directory : String) (files : List (String × String)) : List (String × String) :=
  files.map fun f => (FilePath.join directory f.1, f.2)

/-- **Writes the artifacts of a record**, and returns the paths of the files. Where something stands in
the way or goes wrong, what was written before stays. -/
def write (sys : FileSystem) (c : ArtifactConfig) (a : Artifacts) (t : FileTree) :
    FileTree × Except Error (List String) :=
  match sys.makePath t c.directory with
  | (t, false) => (t, .error .io)
  | (t, true) =>
    match sys.writeAll t (below c.directory (files c a)) with
    | (t, false) => (t, .error .io)
    | (t, true) => (t, .ok ((files c a).map fun f => FilePath.join c.directory f.1))

/-- **Generates and writes the artifacts of a declaration.** -/
def run (sys : FileSystem) (c : ArtifactConfig) (d : Declaration) (t : FileTree) :
    FileTree × Except Error (List String) :=
  match ofDeclaration c.dialects d with
  | .error e => (t, .error e)
  | .ok a => write sys c a t

end Artifacts

end SchemaSql
