import SmmErrorLogger.Library.Paths
import SmmErrorLogger.Storer.FileInterface

namespace SmmErrorLogger.Storer

open Library.Interaction Library.Paths
open Library.Interaction.Proc (raise)

inductive FsOp
  | isDirectory (path : Text)
  | createDirectories (path : Text)
  | writeFile (path : Text) (document : Json)
  | removeAll (path : Text)

/-- The answer to `writeFile` says whether the file was opened and all of the document was written,
and that to `removeAll` whether there was no error code. -/
abbrev FsCalls : Signature where
  Op := FsOp
  Ans
    | .isDirectory _ => FileResult
    | .createDirectories _ => FileResult
    | .writeFile _ _ => Bool
    | .removeAll _ => Bool

structure ExternalStorerFileWriter where
  baseDir : Text
  noNul : 0 ∉ baseDir

abbrev WriterM := Proc FsCalls Unit StorerError

def FileResult.toWriter : FileResult → WriterM Bool
  | .done success => pure success
  | .threw => raise .filesystemError

/-- `operator/` of paths, where the second one is relative. -/
def appendPath (p q : Text) : Text :=
  if p = [] ∨ p.getLast? = some slash then p ++ q else p ++ slash :: q

/-- The components that `std::filesystem` finds in a relative path. The empty one stands for a
slash at the end. -/
def components (path : Text) : List Text :=
  (pieces path).filter (· ≠ []) ++ if path.getLast? = some slash then [[]] else []

def depthStays : ℤ → List Text → Bool
  | _, [] => true
  | depth, part :: parts =>
    if part = dotdot then
      if depth - 1 < 0 then false else depthStays (depth - 1) parts
    else if part ≠ dot then depthStays (depth + 1) parts
    else depthStays depth parts

namespace ExternalStorerFileWriter

/-- `relative_path` leaves out the root directory. -/
def getRelativePath (pathStr : Text) : Text := pathStr.dropWhile (· = slash)

def isValidPath (folderPath : Text) : Bool := depthStays 0 (components (getRelativePath folderPath))

variable (writer : ExternalStorerFileWriter)

def fullPath (folderPath : Text) : Text := appendPath writer.baseDir (getRelativePath folderPath)

def createFolder (folderPath : Text) : WriterM Bool :=
  if ¬ isValidPath folderPath then pure false
  else do
    let path := writer.fullPath folderPath
    let isDirectory ← Proc.call (S := FsCalls) (.isDirectory path)
    let isDirectory ← FileResult.toWriter isDirectory
    if ¬ isDirectory then do
      let created ← Proc.call (S := FsCalls) (.createDirectories path)
      FileResult.toWriter created
    else pure true

def createFile (folderPath : Text) (jsonPdr : Json) : WriterM Bool := do
  -- createFolder checks isValidPath
  let created ← writer.createFolder folderPath
  if ¬ created then pure false
  else do
    -- nobody looks at the state of the stream
    let _ ← Proc.call (S := FsCalls)
      (.writeFile (appendPath (writer.fullPath folderPath) (text "index.json")) jsonPdr)
    pure true

def removeAll (filePath : Text) : WriterM Bool :=
  if ¬ isValidPath filePath then pure false
  else do
    let removed ← Proc.call (S := FsCalls) (.removeAll (writer.fullPath filePath))
    pure removed

end ExternalStorerFileWriter

end SmmErrorLogger.Storer
