import ClassLoom.Config.Value
import ClassLoom.Files.Error
import ClassLoom.Zip.Archive

namespace ClassLoom

/-!
# Failures

A failure is a cause: a constructor with the data that the message needs.  Its kind, its error code
and its wording are functions of the cause, so a statement about what can fail is a statement about
constructors, and the wording is in one place.

Three groups are kept apart.  The tool's own failures carry an error code and are what a run may
report.  Faults come from below: the file system, an archive, a value of the wrong kind.  An
interruption is neither, and is never caught by a run.
-/

open Config (Value)
open Files (FileError)

/-- The standard codes of failures. -/
inductive ErrorCode where
  | success | invalidInput | notFound | permissionDenied | conflict | dependencyError
  | internalError | ioError | transformFailed | unrecoverable
  deriving Repr, DecidableEq, Inhabited

namespace ErrorCode

def name : ErrorCode → String
  | .success => "SUCCESS"
  | .invalidInput => "INVALID_INPUT"
  | .notFound => "NOT_FOUND"
  | .permissionDenied => "PERMISSION_DENIED"
  | .conflict => "CONFLICT"
  | .dependencyError => "DEPENDENCY_ERROR"
  | .internalError => "INTERNAL_ERROR"
  | .ioError => "IO_ERROR"
  | .transformFailed => "TRANSFORM_FAILED"
  | .unrecoverable => "UNRECOVERABLE"

def number : ErrorCode → Nat
  | .success => 0 | .invalidInput => 1 | .notFound => 2 | .permissionDenied => 3 | .conflict => 4
  | .dependencyError => 5 | .internalError => 6 | .ioError => 7 | .transformFailed => 8
  | .unrecoverable => 9

def all : List ErrorCode :=
  [.success, .invalidInput, .notFound, .permissionDenied, .conflict, .dependencyError,
   .internalError, .ioError, .transformFailed, .unrecoverable]

def ofName? (text : String) : Option ErrorCode := all.find? (·.name == text)

/-- The exit status of a run that ends with a code. -/
def exitStatus (code : ErrorCode) : Nat := if code = .unrecoverable then 2 else 1

end ErrorCode

/-- The kinds of the tool's own failures. -/
inductive ErrorKind where
  | general | classNotFound | enumeration | archive | archiveSwap | transformationFailed
  | validation | fileOperation | transform | transformerConfig | config
  deriving Repr, DecidableEq, Inhabited

namespace ErrorKind

def name : ErrorKind → String
  | .general => "ClassWeaverError"
  | .classNotFound => "ClassNotFoundError"
  | .enumeration => "EnumerationError"
  | .archive => "ArchiveError"
  | .archiveSwap => "ArchiveSwapError"
  | .transformationFailed => "TransformationFailedError"
  | .validation => "ValidationError"
  | .fileOperation => "FileOperationError"
  | .transform => "TransformError"
  | .transformerConfig => "TransformerConfigError"
  | .config => "ConfigError"

/-- The name of a kind with the parts of the tool that it belongs to in front. -/
def fullName (kind : ErrorKind) : String :=
  let module := match kind with
    | .validation => "core.validators"
    | .fileOperation => "core.file_ops"
    | .transform => "transforms.base"
    | .transformerConfig => "transforms.base"
    | .config => "infrastructure.config_manager"
    | _ => "core.errors"
  "classweaver." ++ module ++ "." ++ kind.name

def all : List ErrorKind :=
  [.general, .classNotFound, .enumeration, .archive, .archiveSwap, .transformationFailed,
   .validation, .fileOperation, .transform, .transformerConfig, .config]

def ofName? (text : String) : Option ErrorKind := all.find? (·.name == text)

/-- The code of a kind when nothing else is said. -/
def defaultCode : ErrorKind → ErrorCode
  | .general => .internalError
  | .classNotFound => .notFound
  | .enumeration => .ioError
  | .archive => .ioError
  | .archiveSwap => .unrecoverable
  | .transformationFailed => .transformFailed
  | .validation => .invalidInput
  | .fileOperation => .internalError
  | .transform => .transformFailed
  | .transformerConfig => .dependencyError
  | .config => .invalidInput

end ErrorKind

/-! ## Faults from below -/

/-- Something that goes wrong below the tool. -/
inductive Fault where
  | file (error : FileError)
  | archive (error : Zip.ReadError)
  | wrongType (text : String)
  | wrongValue (text : String)
  | noAttribute (text : String)
  | missingKey (key : String)
  | outOfRange (text : String)
  | noIndex
  | undecodable (fault : Text.Utf8Fault)
  | runtime (text : String)
  | packing (text : String)
  | importFailed (text : String)
  deriving Repr, Inhabited

namespace Fault

def message : Fault → String
  | .file error => error.message
  | .archive (.damaged damage) => damage.message
  | .archive (.unsupported feature) => feature.message
  | .archive (.encrypted name) =>
    "File " ++ Text.quoted name ++ " is encrypted, password required for extraction"
  | .archive (.corrupt cause) => "Error -3 while decompressing data: " ++ cause.message
  | .archive .endOfFile => ""
  | .archive (.undecodable fault) => fault.message
  | .archive .offsetBeforeStart => "[Errno 22] Invalid argument"
  | .wrongType text => text
  | .wrongValue text => text
  | .noAttribute text => text
  | .missingKey key => Text.quoted key
  | .outOfRange text => text
  | .noIndex => "string index out of range"
  | .undecodable fault => fault.message
  | .runtime text => text
  | .packing text => text
  | .importFailed text => text

/-- The name that messages give to a kind of fault. -/
def kind : Fault → String
  | .file (.system error) => match error.cause with
    | .notFound => "FileNotFoundError"
    | .alreadyExists => "FileExistsError"
    | .notDirectory => "NotADirectoryError"
    | .isDirectory => "IsADirectoryError"
    | _ => "OSError"
  | .file .embeddedNul => "ValueError"
  | .archive (.damaged _) => "BadZipFile"
  | .archive (.unsupported _) => "NotImplementedError"
  | .archive (.encrypted _) => "RuntimeError"
  | .archive (.corrupt _) => "error"
  | .archive .endOfFile => "EOFError"
  | .archive (.undecodable _) => "UnicodeDecodeError"
  | .archive .offsetBeforeStart => "OSError"
  | .wrongType _ => "TypeError"
  | .wrongValue _ => "ValueError"
  | .noAttribute _ => "AttributeError"
  | .missingKey _ => "KeyError"
  | .outOfRange _ => "OverflowError"
  | .noIndex => "IndexError"
  | .undecodable _ => "UnicodeDecodeError"
  | .runtime _ => "RuntimeError"
  | .packing _ => "error"
  | .importFailed _ => "ImportError"

/-- Whether the file system refuses. -/
def isSystem : Fault → Bool
  | .file (.system _) => true
  | .archive .offsetBeforeStart => true
  | _ => false

/-- Whether an archive is damaged in a way that reading reports as damage. -/
def isDamage : Fault → Bool
  | .archive (.damaged _) => true
  | _ => false

/-- Whether a value has an impossible content. -/
def isValue : Fault → Bool
  | .file .embeddedNul => true
  | .archive (.undecodable _) => true
  | .wrongValue _ => true
  | .undecodable _ => true
  | _ => false

end Fault

/-! ## The tool's own failures -/

/-- What is wrong with the input of a run. -/
inductive InvalidInput where
  | notADictionary
  | failFastNotBoolean (value : Value)
  | invalidScope (value : Value)
  | invalidClasspath (key : String) (cause : InvalidInput)
  | stagingNotADictionary
  | invalidPolicy (value : Value)
  | cleanAfterNotBoolean (value : Value)
  | pathEmpty
  | pathNotText (kind : String)
  | pathTooLong
  | pathHasNul
  | pathHasControl
  | classpathNotAList
  | classpathElement (index : Nat) (cause : InvalidInput)
  | patternNotText (kind : String)
  | patternTooLong
  | invalidPattern (pattern complaint : String)
  | transformerMissing
  | transformerNotText (kind : String)
  | transformerTooLong
  | invalidTransformer (name : String)
  | noSuchArchive (path : String)
  | archiveNotAFile (path : String)
  | notAnArchive (path : String)
  | noSuchDirectory (path : String)
  | notADirectory (path : String)
  | outputDirectoryMissing (scope : String)
  | unknownCommand (name : String)
  deriving Repr, Inhabited

namespace InvalidInput

/-- The longest path and the longest pattern, in characters. -/
def longestText : Nat := 4096

def message : InvalidInput → String
  | .notADictionary => "Configuration must be a dictionary"
  | .failFastNotBoolean value => "fail_fast must be boolean: " ++ value.plain
  | .invalidScope value =>
    "Invalid scope: " ++ value.plain ++ ". Must be one of: ['main', 'test']"
  | .invalidClasspath key cause => "Invalid " ++ key ++ ": " ++ message cause
  | .stagingNotADictionary => "Staging configuration must be a dictionary"
  | .invalidPolicy value =>
    "Invalid staging policy: " ++ value.plain ++ ". Must be one of: ['reuse', 'clean']"
  | .cleanAfterNotBoolean value => "staging.clean_after must be boolean: " ++ value.plain
  | .pathEmpty => "Path cannot be empty"
  | .pathNotText kind => "Path must be string, got " ++ kind
  | .pathTooLong => "Path exceeds maximum length (" ++ toString longestText ++ ")"
  | .pathHasNul => "Path contains null bytes"
  | .pathHasControl => "Path contains control characters"
  | .classpathNotAList => "Classpath must be a list"
  | .classpathElement index cause => "element " ++ toString index ++ ": " ++ message cause
  | .patternNotText kind => "Pattern must be string, got " ++ kind
  | .patternTooLong => "Pattern exceeds maximum length (" ++ toString longestText ++ ")"
  | .invalidPattern pattern complaint =>
    "Invalid regex pattern '" ++ pattern ++ "': " ++ complaint
  | .transformerMissing => "Missing transformer class name!"
  | .transformerNotText kind => "Transformer name must be string, got " ++ kind
  | .transformerTooLong => "Transformer name exceeds maximum length"
  | .invalidTransformer name => "Invalid transformer name: " ++ name
  | .noSuchArchive path => "No such jar file: " ++ path
  | .archiveNotAFile path => "Jar path is not a file: " ++ path
  | .notAnArchive path => "Not a jar/zip archive: " ++ path
  | .noSuchDirectory path => "No such directory: " ++ path
  | .notADirectory path => "Not a directory: " ++ path
  | .outputDirectoryMissing scope => "Missing output directory for scope: " ++ scope
  | .unknownCommand name => "Unknown command: " ++ name

def code : InvalidInput → ErrorCode
  | .noSuchArchive _ => .notFound
  | .noSuchDirectory _ => .notFound
  | _ => .invalidInput

end InvalidInput

/-- What a file operation was to do. -/
inductive FileAction where
  | read (path : String)
  | write (path : String)
  | createDirectory (path : String)
  | delete (path : String)
  | rename (source target : String)
  deriving Repr, DecidableEq, Inhabited

def FileAction.heading : FileAction → String
  | .read path => "Cannot read file " ++ path
  | .write path => "Cannot write file " ++ path
  | .createDirectory path => "Cannot create directory " ++ path
  | .delete path => "Cannot delete " ++ path
  | .rename source target => "Cannot rename " ++ source ++ " to " ++ target

/-- A failed file operation; without a cause, the target of a renaming is in the way. -/
structure FileFailure where
  action : FileAction
  cause : Option Files.SystemError
  deriving Repr, DecidableEq, Inhabited

namespace FileFailure

def message (failure : FileFailure) : String :=
  failure.action.heading ++ ": " ++ (failure.cause.map (·.message)).getD "target exists"

def code (failure : FileFailure) : ErrorCode :=
  match failure.cause with
  | none => .conflict
  | some error => match error.cause with
    | .notFound => .notFound
    | .alreadyExists => .conflict
    | _ => .ioError

end FileFailure

/-- Why classes or entries cannot be listed, read or placed. -/
inductive EnumerationCause where
  | notADirectory (path : String)
  | cannotList (path : String) (cause : Fault)
  | namelessEntry (entry : String)
  | escapingEntry (entry : String)
  | cannotCopy (entry : String) (cause : Fault)
  | collision (first second key : String)
  | cannotOpen (archive : String) (cause : Fault)
  | cannotReadEntry (entry : String) (cause : Fault)
  deriving Repr, Inhabited

namespace EnumerationCause

def message : EnumerationCause → String
  | .notADirectory path => "Not a directory: " ++ path
  | .cannotList path cause => "Cannot list directory, I/O error: " ++ path ++ ": " ++ cause.message
  | .namelessEntry entry => "Archive entry has no usable name: " ++ Text.quoted entry
  | .escapingEntry entry => "Archive entry escapes staging directory: " ++ entry
  | .cannotCopy entry cause => "Cannot copy archive entry " ++ entry ++ ": " ++ cause.message
  | .collision first second key =>
    "Archive entries " ++ Text.quoted first ++ " and " ++ Text.quoted second ++
      " map to the same staging path: " ++ key
  | .cannotOpen archive cause => "Cannot open archive " ++ archive ++ ": " ++ cause.message
  | .cannotReadEntry entry cause => "Cannot read archive entry " ++ entry ++ ": " ++ cause.message

/-- What the failure is about. -/
def path : EnumerationCause → String
  | .notADirectory path => path
  | .cannotList path _ => path
  | .namelessEntry entry => entry
  | .escapingEntry entry => entry
  | .cannotCopy entry _ => entry
  | .collision _ second _ => second
  | .cannotOpen archive _ => archive
  | .cannotReadEntry entry _ => entry

end EnumerationCause

/-- Why an archive cannot be rebuilt; the archive itself is as it was. -/
inductive ArchiveCause where
  | cannotDeleteStaging (staging : String) (cause : FileFailure)
  | stagingInTheWay (staging : String)
  | cannotCreateStaging (staging : String) (cause : FileFailure)
  | notPrepared
  | cannotDeleteCopy (copy : String) (cause : FileFailure)
  | stagedEntriesMissing (staging : String) (entries : List String)
  | cannotWrite (copy : String) (cause : Fault)
  | cannotDeleteBackup (backup : String) (cause : FileFailure)
  | cannotMoveArchive (artifact backup : String) (cause : FileFailure)
  deriving Repr, Inhabited

namespace ArchiveCause

def message : ArchiveCause → String
  | .cannotDeleteStaging staging cause =>
    "Cannot delete staging directory: " ++ staging ++ ": " ++ cause.message
  | .stagingInTheWay staging => "Staging path exists and is not a directory: " ++ staging
  | .cannotCreateStaging staging cause =>
    "Cannot create staging directory: " ++ staging ++ ": " ++ cause.message
  | .notPrepared => "Staging directory not prepared"
  | .cannotDeleteCopy copy cause => "Cannot delete copy jar: " ++ copy ++ ": " ++ cause.message
  | .stagedEntriesMissing staging entries =>
    "Staged entries missing from " ++ staging ++ ": " ++ Text.joined ", " entries
  | .cannotWrite copy cause => "Cannot write archive " ++ copy ++ ": " ++ cause.message
  | .cannotDeleteBackup backup cause =>
    "Cannot delete old: " ++ backup ++ ": " ++ cause.message
  | .cannotMoveArchive artifact backup cause =>
    "Cannot rename original: " ++ artifact ++ " to old: " ++ backup ++ ": " ++ cause.message

def code : ArchiveCause → ErrorCode
  | .stagingInTheWay _ => .conflict
  | .notPrepared => .internalError
  | _ => .ioError

end ArchiveCause

/-- Failures that have no kind of their own. -/
inductive GeneralCause where
  | cannotOpenElement (archive : String) (cause : Fault)
  | cannotReadLocation (location : String) (cause : Fault)
  | classpathClosed
  | alreadyTransformed (className : String)
  | classpathNeeded
  | reported (text : String)
  deriving Repr, Inhabited

namespace GeneralCause

def message : GeneralCause → String
  | .cannotOpenElement archive cause =>
    "Cannot open classpath archive " ++ archive ++ ": " ++ cause.message
  | .cannotReadLocation location cause => "Cannot read " ++ location ++ ": " ++ cause.message
  | .classpathClosed => "Classpath context is closed"
  | .alreadyTransformed className =>
    "Transformation target " ++ className ++ " already transformed"
  | .classpathNeeded => "Staged resolution needs a classpath context"
  | .reported text => text

def code : GeneralCause → ErrorCode
  | .cannotOpenElement _ _ => .ioError
  | .cannotReadLocation _ _ => .ioError
  | _ => .internalError

end GeneralCause

/-- Why a configuration cannot be loaded or has the wrong shape. -/
inductive ConfigCause where
  | fileNotFound (file : String)
  | notParsed (file : String) (complaint : String)
  | cannotLoad (file : String) (cause : Fault)
  | notAMapping (file : String)
  | expectedMapping (path kind : String)
  | expectedKind (expected : List String) (path kind : String)
  deriving Repr, Inhabited

namespace ConfigCause

def message : ConfigCause → String
  | .fileNotFound file => "Config file not found: " ++ file
  | .notParsed file complaint => "YAML parse error in " ++ file ++ ": " ++ complaint
  | .cannotLoad file cause => "Error loading config " ++ file ++ ": " ++ cause.message
  | .notAMapping file => "Invalid config format in " ++ file
  | .expectedMapping path kind => "Expected dict for " ++ path ++ ", got " ++ kind
  | .expectedKind expected path kind =>
    "Expected " ++ Text.joined " or " expected ++ " for " ++ path ++ ", got " ++ kind

def code : ConfigCause → ErrorCode
  | .fileNotFound _ => .notFound
  | .cannotLoad _ _ => .ioError
  | _ => .invalidInput

end ConfigCause

/-- What is wrong with a command line or with the logging that it asks for. -/
inductive CommandLineCause where
  | noSuchArchive (path : String)
  | archiveNotAFile (path : String)
  | noConfiguration (path : String)
  | configurationNotAFile (path : String)
  | invalidLevel (text : String)
  | cannotOpenLog (path : String) (cause : Fault)
  deriving Repr, Inhabited

def CommandLineCause.message : CommandLineCause → String
  | .noSuchArchive path => "No such jar file: " ++ path
  | .archiveNotAFile path => "Jar path is not a file: " ++ path
  | .noConfiguration path => "Configuration file does not exist: " ++ path
  | .configurationNotAFile path => "Configuration path is not a file: " ++ path
  | .invalidLevel text => "Invalid log level: " ++ text
  | .cannotOpenLog path cause => "Cannot open log file: " ++ path ++ "\n" ++ cause.message

/-- Why an operation does not answer. -/
inductive Failure where
  | general (cause : GeneralCause)
  | classNotFound (className : String)
  | enumeration (cause : EnumerationCause)
  | archive (cause : ArchiveCause)
  | archiveSwap (artifact backup copy : String) (cause : FileFailure)
  | transformationFailed (failures : List (String × Failure))
  | validation (cause : InvalidInput)
  | fileOperation (failure : FileFailure)
  | transformerRaised (transformer className : String) (cause : Failure)
  | transformerAnswered (transformer className kind : String)
  | transformerMissing
  | entryPointUnloadable (name value : String) (cause : Fault)
  | transformerUnknown (name : String) (available : List String)
  | moduleUnimportable (module : String) (cause : String)
  | transformerNotFound (path : String)
  | notInstantiable (name : String) (cause : Failure)
  | noTransformMethod (name : String)
  | config (cause : ConfigCause)
  | commandLine (cause : CommandLineCause)
  | fault (fault : Fault)
  | interrupted
  | exited (status : Nat)
  | missingObject
  deriving Inhabited

namespace Failure

def message : Failure → String
  | .general cause => cause.message
  | .classNotFound className => "No such class name: " ++ className ++ ", wrong classpath?"
  | .enumeration cause => cause.message
  | .archive cause => cause.message
  | .archiveSwap artifact backup copy cause =>
    "Cannot rename copy: " ++ copy ++ " to actual original: " ++ artifact ++ ": " ++
      cause.message ++ "; the original archive is at " ++ backup
  | .transformationFailed failures =>
    toString failures.length ++ " class(es) failed to transform: " ++
      Text.joined ", " (failures.map (·.1))
  | .validation cause => cause.message
  | .fileOperation failure => failure.message
  | .transformerRaised transformer className cause =>
    transformer ++ " failed on " ++ className ++ ": " ++ message cause
  | .transformerAnswered transformer className kind =>
    transformer ++ " returned " ++ kind ++ " for " ++ className ++ ", expected bytes or None"
  | .transformerMissing => "Missing transformer class name!"
  | .entryPointUnloadable name value cause =>
    "Cannot load transformer entry point " ++ name ++ " (" ++ value ++ "): " ++ cause.message
  | .transformerUnknown name available =>
    "Unknown transformer: " ++ name ++ " (available: " ++
      (if available.isEmpty then "none" else Text.joined ", " available) ++ ")"
  | .moduleUnimportable module cause =>
    "Cannot import transformer module " ++ module ++ ": " ++ cause
  | .transformerNotFound path => "No such transformer: " ++ path
  | .notInstantiable name cause =>
    "Cannot instantiate transformer " ++ name ++ ": " ++ message cause
  | .noTransformMethod name =>
    "Transformer " ++ name ++ " has no transform(loader, class_name, data) method"
  | .config cause => cause.message
  | .commandLine cause => cause.message
  | .fault below => below.message
  | .interrupted => ""
  | .exited status => toString status
  | .missingObject => ""

/-- The kind of one of the tool's own failures. -/
def kind? : Failure → Option ErrorKind
  | .general _ => some .general
  | .classNotFound _ => some .classNotFound
  | .enumeration _ => some .enumeration
  | .archive _ => some .archive
  | .archiveSwap _ _ _ _ => some .archiveSwap
  | .transformationFailed _ => some .transformationFailed
  | .validation _ => some .validation
  | .fileOperation _ => some .fileOperation
  | .transformerRaised _ _ _ => some .transform
  | .transformerAnswered _ _ _ => some .transform
  | .transformerMissing => some .transformerConfig
  | .entryPointUnloadable _ _ _ => some .transformerConfig
  | .transformerUnknown _ _ => some .transformerConfig
  | .moduleUnimportable _ _ => some .transformerConfig
  | .transformerNotFound _ => some .transformerConfig
  | .notInstantiable _ _ => some .transformerConfig
  | .noTransformMethod _ => some .transformerConfig
  | .config _ => some .config
  | .commandLine _ => none
  | .fault _ => none
  | .interrupted => none
  | .exited _ => none
  | .missingObject => none

/-- The name that messages give to the kind of a failure. -/
def kindName (failure : Failure) : String :=
  match failure.kind?, failure with
  | some kind, _ => kind.name
  | none, .commandLine _ => "CLIError"
  | none, .fault below => below.kind
  | none, .interrupted => "KeyboardInterrupt"
  | none, .exited _ => "SystemExit"
  | none, _ => "NoState"

/-- The code of one of the tool's own failures. -/
def code : Failure → ErrorCode
  | .general cause => cause.code
  | .classNotFound _ => .notFound
  | .enumeration _ => .ioError
  | .archive cause => cause.code
  | .archiveSwap _ _ _ _ => .unrecoverable
  | .transformationFailed _ => .transformFailed
  | .validation cause => cause.code
  | .fileOperation failure => failure.code
  | .transformerRaised _ _ _ => .transformFailed
  | .transformerAnswered _ _ _ => .transformFailed
  | .transformerMissing => .invalidInput
  | .entryPointUnloadable _ _ _ => .dependencyError
  | .transformerUnknown _ _ => .notFound
  | .moduleUnimportable _ _ => .notFound
  | .transformerNotFound _ => .notFound
  | .notInstantiable _ _ => .dependencyError
  | .noTransformMethod _ => .invalidInput
  | .config cause => cause.code
  | _ => .internalError

/-- Whether a failure is caught where everything but interruptions is. -/
def isOrdinary : Failure → Bool
  | .interrupted => false
  | .exited _ => false
  | _ => true

end Failure

/-- What a failure tells the outside: kind, message, code, and the details of its kind. -/
structure ErrorReport where
  kind : ErrorKind
  message : String
  code : ErrorCode
  details : List (String × Option String)
  failures : Option (List (String × String × String))

namespace ErrorReport

/-- The report of one of the tool's own failures. -/
def ofFailure? (failure : Failure) : Option ErrorReport :=
  failure.kind?.map fun kind =>
    { kind
      message := failure.message
      code := failure.code
      details := match failure with
        | .classNotFound className => [("class_name", some className)]
        | .enumeration cause => [("path", some cause.path)]
        | .archiveSwap artifact backup copy _ =>
          [("original", some artifact), ("backup", some backup), ("copy", some copy)]
        | .transformerRaised transformer className _ =>
          [("class_name", some className), ("transformer_name", some transformer)]
        | .transformerAnswered transformer className _ =>
          [("class_name", some className), ("transformer_name", some transformer)]
        | _ => []
      failures := match failure with
        | .transformationFailed failures =>
          some (failures.map fun (name, cause) => (name, cause.kindName, cause.message))
        | _ => none }

/-- A report put together by hand from a kind, texts, and a code. -/
def ofTexts (kind : ErrorKind) (texts : List (Option String)) (code : Option ErrorCode) :
    ErrorReport :=
  let text := fun i => (texts.getD i none)
  let first := (text 0).getD ""
  let message := match kind with
    | .classNotFound =>
      match text 1 with
      | some own => if own == "" then (Failure.classNotFound first).message else own
      | none => (Failure.classNotFound first).message
    | _ => first
  { kind, message
    code := code.getD kind.defaultCode
    details := match kind with
      | .classNotFound => [("class_name", text 0)]
      | .enumeration => [("path", text 1)]
      | .archiveSwap => [("original", text 1), ("backup", text 2), ("copy", text 3)]
      | .transform => [("class_name", text 1), ("transformer_name", text 2)]
      | _ => []
    failures := none }

/-- A report of failed classes, each with the text of a fault. -/
def ofFaults (faults : List (String × String)) : ErrorReport :=
  let failures := faults.map fun (name, text) => (name, Failure.fault (.runtime text))
  (ofFailure? (.transformationFailed failures)).getD (ofTexts .transformationFailed [] none)

end ErrorReport

/-- An answer or a failure. -/
abbrev Outcome (α : Type) := Except Failure α

end ClassLoom
