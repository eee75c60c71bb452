import SmmErrorLogger.Library.Process
import SmmErrorLogger.Storer.Json
import Mathlib.Data.List.Infix

/-! The storer of decoded documents. What it calls answers from outside: the file handler, the
generator of UUIDs and the notifier. -/

namespace SmmErrorLogger.Storer

open Library.Interaction
open Library.Interaction.Proc (fetch put raise)

inductive FileResult
  | done (success : Bool)
  | threw
  deriving DecidableEq

inductive StorerOp
  | createFile (folderPath : Text) (jsonPdr : Json)
  | removeAll (filePath : Text)
  | createEntry (filePath : Text)
  | randomGen

abbrev StorerCalls : Signature where
  Op := StorerOp
  Ans
    | .createFile _ _ => FileResult
    | .removeAll _ => FileResult
    | .createEntry _ => Unit
    | .randomGen => Text

inductive StorerError
  | typeError
  | outOfRange
  | filesystemError
  | emptyQueue
  deriving DecidableEq

inductive JsonPdrType
  | logEntry
  | logService
  | other
  deriving DecidableEq

/-- `nlohmann::json::parse` throws a parse error or, for a number, that it is out of range. -/
inductive ParseResult
  | parsed (json : Json)
  | parseError
  | outOfRange

structure StorerConfig where
  rootPath : Text
  maxNumSavedLogEntries : UInt32
  maxNumLogEntries : UInt32
  parse : Text → ParseResult

structure ExternalStorerFileInterface where
  logServiceId : Text
  logEntrySavedQueue : List Text
  logEntryQueue : List Text
  deriving DecidableEq

def ExternalStorerFileInterface.fresh : ExternalStorerFileInterface := ⟨[], [], []⟩

abbrev StorerM := Proc StorerCalls ExternalStorerFileInterface StorerError

def FileResult.toProc : FileResult → StorerM Bool
  | .done success => pure success
  | .threw => raise .filesystemError

def createFile (subPath : Text) (jsonPdr : Json) : StorerM Bool := do
  let result ← Proc.call (S := StorerCalls) (.createFile subPath jsonPdr)
  result.toProc

def removeAll (filePath : Text) : StorerM Bool := do
  let result ← Proc.call (S := StorerCalls) (.removeAll filePath)
  result.toProc

def createEntry (filePath : Text) : StorerM Unit :=
  Proc.call (S := StorerCalls) (.createEntry filePath)

def randomGen : StorerM Text := Proc.call (S := StorerCalls) .randomGen

def odataType : Text := text "@odata.type"

def odataId : Text := text "@odata.id"

def schemaType (jsonSchema : Json) : Option JsonPdrType :=
  match (jsonSchema.member odataType).bind Json.getString with
  | none => none
  | some value =>
    if text "LogEntry" <:+: value then some .logEntry
    else if text "LogService" <:+: value then some .logService
    else some .other

def getString (value : Option Json) : StorerM Text :=
  match value.bind Json.getString with
  | none => raise .typeError
  | some t => pure t

def logEntryPath (logServiceId id : Text) : Text :=
  text "/redfish/v1/Systems/system/LogServices/" ++ logServiceId ++ text "/Entries/" ++ id

def logEntryDocument (logEntry : Json) (id : Text) : Json :=
  (logEntry.set (text "Id") (.string id)).erase odataId

variable (cfg : StorerConfig)

def deleteOldest : StorerM Bool := do
  let storer ← fetch
  if storer.logEntryQueue.length = cfg.maxNumLogEntries.toNat then
    match storer.logEntryQueue with
    | [] => raise .emptyQueue
    | oldestFilePath :: logEntryQueue => do
      put { storer with logEntryQueue }
      removeAll oldestFilePath
  else pure true

def pushEntry (subPath : Text) : StorerM Unit := do
  let storer ← fetch
  -- Attempt to push to logEntrySavedQueue first
  if storer.logEntrySavedQueue.length < cfg.maxNumSavedLogEntries.toNat then
    put { storer with logEntrySavedQueue := storer.logEntrySavedQueue ++ [subPath] }
  else put { storer with logEntryQueue := storer.logEntryQueue ++ [subPath] }

def processLogEntry (logEntry : Json) : StorerM Bool := do
  let storer ← fetch
  if storer.logServiceId = [] then pure false
  else do
    let deleted ← deleteOldest cfg
    if ¬ deleted then pure false
    else do
      let id ← randomGen
      let subPath := logEntryPath storer.logServiceId id
      let created ← createFile subPath (logEntryDocument logEntry id)
      if ¬ created then pure false
      else do
        createEntry (cfg.rootPath ++ subPath ++ text "/index.json")
        pushEntry cfg subPath
        pure true

def processLogService (logService : Json) : StorerM Bool := do
  if ¬ logService.contains odataId then pure false
  else if ¬ logService.contains (text "Id") then pure false
  else do
    let logServiceId ← getString (logService.member (text "Id"))
    let storer ← fetch
    put { storer with logServiceId }
    let path ← getString (logService.member odataId)
    let created ← createFile path logService
    if ¬ created then pure false
    -- An .../Entries/index.json file with no data is needed
    else createFile (path ++ text "/Entries") (.object [])

def processOtherTypes (jsonPdr : Json) : StorerM Bool := do
  if ¬ jsonPdr.contains odataId then pure false
  else do
    let path ← getString (jsonPdr.member odataId)
    createFile path jsonPdr

def publishJson (jsonStr : Text) : StorerM Bool :=
  match cfg.parse jsonStr with
  | .parseError => pure false
  | .outOfRange => raise .outOfRange
  | .parsed jsonDecoded =>
    -- The type determines how to process the document
    if ¬ jsonDecoded.contains odataType then pure false
    else match schemaType jsonDecoded with
      | none => raise .typeError
      | some .logEntry => processLogEntry cfg jsonDecoded
      | some .logService => processLogService jsonDecoded
      | some .other => processOtherTypes jsonDecoded

end SmmErrorLogger.Storer
