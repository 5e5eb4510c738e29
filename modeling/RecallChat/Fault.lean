import RecallChat.Text.Quoted

/-!
# Faults

Everything that can end an action early.  The library's own faults name their causes, with the
wording in one function each (`ConfigCause.text`, `InferenceCause.text`, …); a cause can also be
`stated`, when a component outside the library gives its own text.  Other faults are the kinds that
components outside the library raise, or that misuse of a value raises.  `Fault.families` places a
fault in the hierarchy of the library's own faults, and is empty for all others.
-/

namespace RecallChat

set_option autoImplicit false

/-- Why the host's memory is not known. -/
inductive DetectionCause where
  | stated (text : String)
  | unreadable (reason : String)
  | unbelievable (reading : String)

/-- Why a configuration is refused. -/
inductive ConfigCause where
  | stated (text : String)
  | unknownTier (name : String) (known : List String)
  | unknownTask (name : String) (known : List String)
  | missingModels (pairs : List String)
  | unknownKeys (keys : List String)
  | providersNotNames (shown : String)
  | unreadable (path reason : String)
  | malformed (path : String)
  | notMapping (path kind : String)
  | unknownLogLevel (name : String)

/-- Why an artifact cannot be loaded. -/
inductive LoadCause where
  | stated (text : String)
  | tokenizerMissing
  | modelMissing
  | noProvider (reasons : List (String × String))

/-- Why a text and its token ids cannot be turned into each other. -/
inductive TokenCause where
  | stated (text : String)
  | notText (kind : String)
  | encoding (reason : String)
  | decoding (ids : String) (reason : String)
  | malformedArtifact (path reason : String)
  | emptyPrompt
  | emptyText

/-- Why a graph run is refused or failed. -/
inductive InferenceCause where
  | stated (text : String)
  | missingInputs (names : List String) (model : String)
  | unexpectedInputs (names : List String) (model : String)
  | rank (input : String) (rank : Nat) (expected : String)
  | shape (input : String) (shape expected : String)
  | unknownOutputs (names : List String) (model : String) (available : List String)
  | execution (model reason : String)
  | missingOutput (name : String) (returned : List String)
  | outputShape (name : String) (shape : String) (length : String)

/-- Why a generation was stopped from outside. -/
inductive StopCause where
  | stated (text : String)
  | cancelled (steps : Nat)
  | exceeded (seconds : String) (steps : Nat)

/-- One execution provider tried while loading a model; a failure has a reason. -/
structure ProviderAttempt where
  provider : String
  failure : Option String
  deriving DecidableEq, Repr

/-- A wrong use of one of the library's values. -/
inductive Misuse where
  | invalidRole (role : String)
  | windowTooSmall (size : String)
  | unknownOptimization (level : String)

/-- The kinds of fault that are not the library's own. -/
inductive OutsideKind where
  | operatingSystem
  | fileMissing
  | fileExists
  | isDirectory
  | notDirectory
  | runtime
  | backend
  | wrongType
  | wrongValue
  | missingKey
  | missingAttribute
  | divisionByZero
  | tooLarge
  | undecodable
  | unencodable
  | endlessNesting
  | indexOut
  | memoryProbe
  | conversion
  | invalidInput
  | constraint
  | connection
  | cannotOpen
  | transaction
  deriving DecidableEq, Repr

namespace OutsideKind

/-- Whether the operating system reports the fault. -/
def isSystem : OutsideKind → Bool
  | operatingSystem | fileMissing | fileExists | isDirectory | notDirectory => true
  | _ => false

/-- Whether the fault arises while something runs. -/
def isRuntime : OutsideKind → Bool
  | runtime | backend | endlessNesting => true
  | _ => false

/-- Whether the fault is about a value out of its domain. -/
def isValue : OutsideKind → Bool
  | wrongValue | undecodable | unencodable => true
  | _ => false

end OutsideKind

/-- Everything that can end an action early. -/
inductive Fault where
  | unspecified (text : String)
  | detection (cause : DetectionCause)
  | config (cause : ConfigCause)
  | load (path : String) (cause : LoadCause) (attempts : List ProviderAttempt)
  | tokenization (cause : TokenCause)
  | inference (cause : InferenceCause)
  | cancelled (cause : StopCause) (partialText : String) (steps : Int)
  | timedOut (cause : StopCause) (partialText : String) (steps : Int)
  | misuse (cause : Misuse)
  | outside (kind : OutsideKind) (text : String)

/-! ## Wording -/

/-- A list of names in quotes. -/
def quotedNames (names : List String) : String := Text.bracketed (names.map Text.quoted)

namespace DetectionCause

/-- The wording of a detection fault. -/
def text : DetectionCause → String
  | stated text => text
  | unreadable reason => "Could not read system memory: " ++ reason
  | unbelievable reading => "Implausible total memory reading: " ++ reading

end DetectionCause

namespace ConfigCause

/-- The wording of a configuration fault. -/
def text : ConfigCause → String
  | stated text => text
  | unknownTier name known =>
    "Unknown tier '" ++ name ++ "' (expected one of: " ++ ", ".intercalate known ++ ")"
  | unknownTask name known =>
    "Unknown task '" ++ name ++ "' (expected one of: " ++ ", ".intercalate known ++ ")"
  | missingModels pairs => "Model table has no entry for: " ++ ", ".intercalate pairs
  | unknownKeys keys => "Unknown config key(s): " ++ ", ".intercalate keys
  | providersNotNames shown => "providers must be a list of provider names, got " ++ shown
  | unreadable path reason => "Cannot read config '" ++ path ++ "': " ++ reason
  | malformed path => "Invalid YAML in '" ++ path ++ "'"
  | notMapping path kind => "Config '" ++ path ++ "' must be a mapping, got " ++ kind
  | unknownLogLevel name => "Unknown log level '" ++ name ++ "'"

end ConfigCause

namespace LoadCause

/-- The wording of a load fault, without the path. -/
def text : LoadCause → String
  | stated text => text
  | tokenizerMissing => "tokenizer artifact not found"
  | modelMissing => "model file not found"
  | noProvider reasons =>
    "no execution provider could commit the graph (" ++
      "; ".intercalate (reasons.map fun (provider, reason) => provider ++ ": " ++ reason) ++ ")"

end LoadCause

namespace TokenCause

/-- The wording of a tokenization fault. -/
def text : TokenCause → String
  | stated text => text
  | notText kind => "Expected str, got " ++ kind
  | encoding reason => "Failed to encode text: " ++ reason
  | decoding ids reason => "Failed to decode ids " ++ ids ++ ": " ++ reason
  | malformedArtifact path reason => "Malformed tokenizer artifact '" ++ path ++ "': " ++ reason
  | emptyPrompt => "Prompt produced no tokens"
  | emptyText => "Text produced no tokens"

end TokenCause

namespace InferenceCause

/-- The wording of an inference fault. -/
def text : InferenceCause → String
  | stated text => text
  | missingInputs names model =>
    "Missing required input(s) " ++ quotedNames names ++ " for '" ++ model ++ "'"
  | unexpectedInputs names model =>
    "Unexpected input(s) " ++ quotedNames names ++ " for '" ++ model ++ "'"
  | rank input found expected =>
    "Input '" ++ input ++ "' has rank " ++ toString found ++ ", graph expects " ++ expected
  | shape input found expected =>
    "Input '" ++ input ++ "' has shape " ++ found ++ ", graph expects " ++ expected
  | unknownOutputs names model available =>
    "Graph '" ++ model ++ "' has no output(s) " ++ quotedNames names ++ "; available: " ++
      quotedNames available
  | execution model reason => "Execution of '" ++ model ++ "' failed: " ++ reason
  | missingOutput name returned =>
    "Graph did not return '" ++ name ++ "' (got " ++ quotedNames returned ++ ")"
  | outputShape name found length =>
    "Output '" ++ name ++ "' has shape " ++ found ++ ", expected [1, " ++ length ++ ", d]"

end InferenceCause

namespace StopCause

/-- The wording of a stop from outside. -/
def text : StopCause → String
  | stated text => text
  | cancelled steps => "Generation cancelled after " ++ toString steps ++ " steps"
  | exceeded seconds steps =>
    "Generation exceeded " ++ seconds ++ "s after " ++ toString steps ++ " steps"

end StopCause

namespace Misuse

/-- The wording of a wrong use. -/
def text : Misuse → String
  | invalidRole role => "Invalid role '" ++ role ++ "' (expected one of: user, assistant)"
  | windowTooSmall size => "max_history must be at least 1, got " ++ size
  | unknownOptimization level =>
    "Unknown optimization level '" ++ level ++
      "' (expected one of: disable, basic, extended, all)"

end Misuse

namespace Fault

/-- The text of a fault; a failed memory probe has none. -/
def text : Fault → String
  | unspecified text => text
  | detection cause => cause.text
  | config cause => cause.text
  | load path cause _ => "Failed to load '" ++ path ++ "': " ++ cause.text
  | tokenization cause => cause.text
  | inference cause => cause.text
  | cancelled cause _ _ => cause.text
  | timedOut cause _ _ => cause.text
  | misuse cause => cause.text
  | outside .memoryProbe _ => ""
  | outside _ text => text

/-- The text of a fault that was given none. -/
def unspecifiedText : String := "An unspecified tierchat error occurred."

end Fault

/-! ## The hierarchy -/

/-- The families of the library's own faults. -/
inductive Family where
  | any
  | detection
  | config
  | load
  | tokenization
  | inference
  | cancelled
  | timedOut
  deriving DecidableEq, Repr

namespace Family

/-- A family and those that contain it, narrowest first. -/
def chain : Family → List Family
  | any => [any]
  | timedOut => [timedOut, cancelled, any]
  | family => [family, any]

end Family

namespace Fault

/-- The narrowest family of one of the library's own faults. -/
def family? : Fault → Option Family
  | unspecified _ => some .any
  | detection _ => some .detection
  | config _ => some .config
  | load .. => some .load
  | tokenization _ => some .tokenization
  | inference _ => some .inference
  | cancelled .. => some .cancelled
  | timedOut .. => some .timedOut
  | misuse _ => none
  | outside .. => none

/-- The families a fault belongs to, narrowest first. -/
def families (fault : Fault) : List Family := (fault.family?.map Family.chain).getD []

/-- Whether a fault is one of the library's own. -/
def isOwn (fault : Fault) : Bool := fault.family?.isSome

/-- A value of the wrong type. -/
def wrongType (text : String) : Fault := .outside .wrongType text

/-- A value out of its domain. -/
def wrongValue (text : String) : Fault := .outside .wrongValue text

/-- A number beyond its range. -/
def tooLarge (text : String) : Fault := .outside .tooLarge text

/-- A record without a field; the key shows in quotes. -/
def missingKey (key : String) : Fault := .outside .missingKey (Text.quoted key)

end Fault

end RecallChat
