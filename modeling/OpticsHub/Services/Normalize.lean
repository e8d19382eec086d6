import OpticsHub.Hub.State
import OpticsHub.Script.Parse

/-!
# What a service request becomes

The parts of a request that may have any shape are normalised before they are stored:
the environment, the source repositories, the port mappings and the endpoints. Entries
of the wrong shape are dropped without an error, and then what is left is checked. A
value whose text or number cannot be computed makes the request fail otherwise.
-/
namespace OpticsHub

open Script

/-- An address of a service. -/
structure ServiceEndpoint where
  hostPort : ℤ
  containerPort : ℤ
  componentName : Text
  subdomain : Option Text
  deriving DecidableEq

namespace ServiceService

/-- `String(value)`. -/
def textOf (value : Value) : Except Failure Text :=
  match value.toText with
  | some text => .ok text
  | none => .error .internal

/-- `Number(value)`. -/
def numberOf (value : Value) : Except Failure Number :=
  match value.toNumber with
  | some number => .ok number
  | none => .error .internal

/-- The first of two members that is there, and undefined in the absence of both. -/
def eitherMember (members : Members Value) (name other : Text) : Value :=
  (Value.orElse (Members.own members name) (Members.own members other)).getD .undefined

/-- The members of an entry that is an object; an array or a date has none of those that
are read. -/
def recordOf : Value → Option (Members Value)
  | .object members => some members
  | .array _ | .date _ => some []
  | _ => none

/-! ## Environment and directories -/

def normalizeEnv : Value → Except Failure (Members Text)
  | .object members =>
    (Members.enumerate members).mapM fun entry => do
      let text ← textOf entry.2
      return (entry.1, text)
  | _ => .ok []

/-- A directory without slashes in front; an empty one is none. -/
def normalizeRootDirectory (rootDirectory : Value) : Except Failure (Option Text) := do
  let text ← textOf ((Value.orElse (some rootDirectory) none).getD (.string []))
  let value := text.trim.dropWhile fun unit => unit == 0x2F
  return if value.isEmpty then none else some value

/-! ## Subdomains -/

def normalizeServiceSubdomain (subdomain : Option Text) : Option Text :=
  subdomain.map fun text =>
    let value := text.trim.toLowerCase
    if value = Text.ofString "@" then [] else value

/-- A lower-case letter or a digit. -/
def isLabelUnit (unit : CodeUnit) : Bool :=
  CodeUnit.isDigit unit || (0x61 ≤ unit && unit ≤ 0x7A)

/-- A label of 1 to 63 letters, digits and hyphens, without a hyphen at either end. -/
def isSubdomainLabel (text : Text) : Bool :=
  decide (1 ≤ text.length ∧ text.length ≤ 63) &&
    text.all (fun unit => isLabelUnit unit || unit == CodeUnit.minus) &&
    text.head?.any isLabelUnit && text.getLast?.any isLabelUnit

def invalidServiceSubdomain : Failure := .badRequest "Invalid Service Subdomain."

def assertServiceSubdomainFormat : Option Text → Except Failure Unit
  | none | some [] => .ok ()
  | some subdomain => if isSubdomainLabel subdomain then .ok () else .error invalidServiceSubdomain

/-! ## Source repositories -/

/-- A text or nothing as a value. -/
def nullable : Option Text → Value
  | some text => .string text
  | none => .null

/-- An entry of a list of repositories. -/
def sourceEntry : Value → Except Failure ServiceSourceRepository
  | .string url => .ok { url := url, rootDirectory := none }
  | entry =>
    match recordOf entry with
    | some record => do
      let url ← textOf
        ((Value.orElse (some (eitherMember record "url" "sourceUrl")) none).getD (.string []))
      let rootDirectory ← normalizeRootDirectory
        ((Members.own record "rootDirectory").getD .undefined)
      return { url := url.trim, rootDirectory := rootDirectory }
    | none => .ok { url := [], rootDirectory := none }

def normalizeSourceRepositories (input : Value) (fallbackRootDirectory : Value) :
    Except Failure (List ServiceSourceRepository) := do
  let entries ←
    match input with
    | .string url => do
      let rootDirectory ← normalizeRootDirectory fallbackRootDirectory
      pure [{ url := url, rootDirectory := rootDirectory }]
    | .array elements => elements.mapM sourceEntry
    | _ => pure []
  let normalized ← entries.mapM fun entry => do
    let rootDirectory ← normalizeRootDirectory (nullable entry.rootDirectory)
    return ({ url := entry.url.trim, rootDirectory := rootDirectory } : ServiceSourceRepository)
  let normalized := normalized.filter fun entry => !entry.url.isEmpty
  if normalized.isEmpty then throw (.badRequest "At least one source repository is required.")
  return normalized

/-- The stored form: the address alone if it is the only one and has no directory. -/
def serializeSourceRepositories (entries : List ServiceSourceRepository) : Text :=
  match entries with
  | [{ url := url, rootDirectory := none }] => url
  | _ => (stringify (.array (entries.map fun entry =>
      .object [("url", .string entry.url), ("rootDirectory", nullable entry.rootDirectory)]))).getD
        []

/-! ## Ports -/

/-- An integer that is a port. -/
def portOf (value : Value) : Except Failure (Option ℤ) := do
  let number ← numberOf value
  return number.toInteger?.filter fun port => decide (1 ≤ port ∧ port ≤ 65535)

/-- An entry of a list of mappings; one that is not a mapping is dropped. -/
def portMapping (entry : Value) : Except Failure (Option ServicePortMapping) :=
  match recordOf entry with
  | none => .ok none
  | some record => do
    let hostPort ← portOf (eitherMember record "hostPort" "serviceHostPort")
    let containerPort ← portOf (eitherMember record "containerPort" "serviceContainerPort")
    match hostPort, containerPort with
    | some hostPort, some containerPort =>
      return some { hostPort := hostPort, containerPort := containerPort }
    | _, _ => return none

/-- Refuse mappings of which two share a port, at the first that does. -/
def checkDuplicates : List ServicePortMapping → List ServicePortMapping → Except Failure Unit
  | _, [] => .ok ()
  | before, mapping :: rest =>
    if (before.map ServicePortMapping.hostPort).contains mapping.hostPort then
      .error (.badRequest ("Duplicate host port: " ++ toString mapping.hostPort))
    else if (before.map ServicePortMapping.containerPort).contains mapping.containerPort then
      .error (.badRequest ("Duplicate container port: " ++ toString mapping.containerPort))
    else checkDuplicates (before ++ [mapping]) rest

def elementsOf : Value → List Value
  | .array elements => elements
  | _ => []

/-- The mappings of a request, or the given one if it has none. -/
def normalizePortMappings (input : Value) (fallbackHostPort fallbackContainerPort : Option ℤ) :
    Except Failure (List ServicePortMapping) := do
  let entries ← (elementsOf input).mapM portMapping
  let mappings :=
    match entries.reduceOption, fallbackHostPort, fallbackContainerPort with
    | [], some hostPort, some containerPort =>
      [{ hostPort := hostPort, containerPort := containerPort }]
    | given, _, _ => given
  if mappings.isEmpty then throw (.badRequest "At least one port mapping is required.")
  checkDuplicates [] mappings
  return mappings

/-- The mapping that stands for the service itself. -/
def primaryPortMapping (mappings : List ServicePortMapping) : ServicePortMapping :=
  mappings.headD { hostPort := 0, containerPort := 0 }

/-- The stored form of the mappings. -/
def storedPortMappings (mappings : List ServicePortMapping) : Value :=
  .array (mappings.map fun mapping => .object
    [("hostPort", .number (.finite (Decimal.ofInt mapping.hostPort))),
      ("containerPort", .number (.finite (Decimal.ofInt mapping.containerPort)))])

/-! ## Endpoints -/

def defaultComponentName (serviceName : Text) (deployPreset : DeployPreset) : Text :=
  if deployPreset = .compose then serviceName else "app"

/-- An entry of a list of endpoints; one without valid ports is dropped, and a subdomain
that is null counts as the text `null`. -/
def endpointOf (defaultName : Text) (entry : Value) : Except Failure (Option ServiceEndpoint) :=
  match recordOf entry with
  | none => .ok none
  | some record => do
    let hostPort ← portOf (eitherMember record "hostPort" "endpointHostPort")
    let containerPort ← portOf (eitherMember record "containerPort" "endpointContainerPort")
    match hostPort, containerPort with
    | some hostPort, some containerPort => do
      let given ←
        match (Members.own record "subdomain").getD .undefined with
        | .undefined => pure none
        | value => (textOf value).map some
      let subdomain := normalizeServiceSubdomain given
      assertServiceSubdomainFormat subdomain
      let name ← textOf ((Value.orElse
        (some (eitherMember record "componentName" "endpointComponentName")) none).getD
          (.string defaultName))
      return some
        { hostPort := hostPort
          containerPort := containerPort
          componentName := if name.trim.isEmpty then defaultName else name.trim
          subdomain := subdomain }
    | _, _ => return none

/-- The endpoints of a request, or one for each mapping if it has none. -/
def normalizeEndpoints (input : Value) (portMappings : List ServicePortMapping)
    (serviceName : Text) (deployPreset : DeployPreset)
    (existingPrimarySubdomain : Option Text) : Except Failure (List ServiceEndpoint) := do
  let defaultName := defaultComponentName serviceName deployPreset
  let entries ← (elementsOf input).mapM (endpointOf defaultName)
  let endpoints := entries.reduceOption
  if endpoints.isEmpty then
    return portMappings.zipIdx.map fun indexed =>
      { hostPort := indexed.1.hostPort
        containerPort := indexed.1.containerPort
        componentName := defaultName
        subdomain := if indexed.2 = 0 then existingPrimarySubdomain else none }
  return endpoints

end ServiceService

end OpticsHub
