import OpticsHub.Script.Coercion
import OpticsHub.Script.Utf8
import OpticsHub.Services.Normalize

/-!
# Requests as they reach the gateway

A request is routed by its head alone: the gateway looks for the empty line, reads the lines
before it, finds where the request is to go by its host, and puts a line with an identifier of
its own among the headers. Whatever follows the head goes on as it came.
-/
namespace OpticsHub

open Script

namespace Gateway

/-! ## Searching -/

/-- `buffer.indexOf(pattern)` -/
def indexOf (pattern : Bytes) : Bytes → Option ℕ
  | [] => if pattern.isEmpty then some 0 else none
  | byte :: rest =>
    if pattern.isPrefixOf (byte :: rest) then some 0 else (indexOf pattern rest).map (· + 1)

def newline : Bytes := [0x0A]

/-- The end of a request head. -/
def emptyLine : Bytes := [0x0D, 0x0A, 0x0D, 0x0A]

/-- The pattern that is found lies within. -/
theorem indexOf_le {pattern bytes : Bytes} {index : ℕ}
    (found : indexOf pattern bytes = some index) : index + pattern.length ≤ bytes.length := by
  induction bytes generalizing index with
  | nil =>
    cases pattern with
    | nil => simp_all [indexOf]
    | cons first rest => simp [indexOf] at found
  | cons byte rest ih =>
    rw [indexOf] at found
    split at found
    · rename_i here
      rw [List.isPrefixOf_iff_prefix] at here
      have length := here.length_le
      obtain rfl := Option.some.inj found
      simpa using length
    · obtain ⟨later, foundLater, rfl⟩ := Option.map_eq_some_iff.mp found
      have := ih foundLater
      simp only [List.length_cons]
      omega

/-- What is found in a beginning is found in the whole, at the same place. -/
theorem indexOf_append {pattern bytes : Bytes} {index : ℕ}
    (found : indexOf pattern bytes = some index) (more : Bytes) :
    indexOf pattern (bytes ++ more) = some index := by
  induction bytes generalizing index with
  | nil =>
    cases pattern with
    | nil => cases more <;> simpa [indexOf] using found
    | cons first rest => simp [indexOf] at found
  | cons byte rest ih =>
    have fits := indexOf_le found
    have same : pattern.isPrefixOf (byte :: (rest ++ more)) = pattern.isPrefixOf (byte :: rest) := by
      rw [Bool.eq_iff_iff, List.isPrefixOf_iff_prefix, List.isPrefixOf_iff_prefix]
      constructor
      · intro here
        exact List.prefix_of_prefix_length_le here (List.prefix_append (byte :: rest) more)
          (by omega)
      · exact fun here => here.trans (List.prefix_append (byte :: rest) more)
    rw [List.cons_append, indexOf, same]
    rw [indexOf] at found
    split at found
    · rename_i here
      rw [if_pos here]
      exact found
    · rename_i elsewhere
      obtain ⟨later, foundLater, rfl⟩ := Option.map_eq_some_iff.mp found
      rw [if_neg elsewhere, ih foundLater]
      rfl

/-! ## Lines -/

/-- `text.split('\r\n')` -/
def splitLines : Text → List Text
  | [] => [[]]
  | [unit] => [[unit]]
  | unit :: next :: rest =>
    if unit = 0x0D ∧ next = 0x0A then [] :: splitLines rest
    else
      match splitLines (next :: rest) with
      | [] => [[unit]]
      | line :: lines => (unit :: line) :: lines

/-- `lines.join('\r\n')` -/
def joinLines (lines : List Text) : Text := List.intercalate [0x0D, 0x0A] lines

/-- Whether a line is that of a header, whatever the case of its name. -/
def isHeader (name : Text) (line : Text) : Bool := name.isPrefixOf line.toLowerCase

/-- What follows the name of a header, without the white space before it. -/
def withoutName (name : Text) (line : Text) : Text :=
  if (line.take name.length).map CodeUnit.lower = name then
    (line.drop name.length).dropWhile CodeUnit.isSpace
  else line

def hostName : Text := "host:"

def cfRayName : Text := "cf-ray:"

def requestIdName : Text := "x-request-id:"

/-- The identifier that Cloudflare gave the request. -/
def readCfRay (header : List Text) : Text :=
  match header.find? (isHeader cfRayName) with
  | none => "-"
  | some line =>
    let value := (withoutName cfRayName line).trim
    if value.isEmpty then "-" else value

/-- The head of a request with the identifier of the gateway, and what follows the head. -/
def withRequestIdHeader (buffer : Bytes) (headerEnd : ℕ) (requestId : Text) : Bytes :=
  let lines := splitLines (decodeUtf8 (buffer.take headerEnd))
  let headers := lines.tail.filter fun line => !isHeader requestIdName line
  let rewritten :=
    joinLines (lines.headD [] :: headers ++ [requestIdName ++ 0x20 :: requestId, [], []])
  encodeUtf8 rewritten ++ buffer.drop (headerEnd + emptyLine.length)

/-- What follows the head goes on as it came. -/
theorem withRequestIdHeader_append {buffer : Bytes} {index : ℕ}
    (found : indexOf emptyLine buffer = some index) (requestId : Text) (more : Bytes) :
    withRequestIdHeader (buffer ++ more) index requestId =
      withRequestIdHeader buffer index requestId ++ more := by
  have fits := indexOf_le found
  have taken : (buffer ++ more).take index = buffer.take index :=
    List.take_append_of_le_length (by omega)
  have left : (buffer ++ more).drop (index + emptyLine.length) =
      buffer.drop (index + emptyLine.length) ++ more :=
    List.drop_append_of_le_length fits
  rw [withRequestIdHeader, withRequestIdHeader, taken, left, List.append_assoc]

/-! ## Routes -/

structure Route where
  serviceSubdomain : Text
  workspaceSubdomain : Text
  deriving DecidableEq

def isValidSubdomainLabel (value : Text) : Bool := ServiceService.isSubdomainLabel value

/-- The value of a host header, as it is shown. -/
def hostOf (hostLine : Text) : Text := (withoutName hostName hostLine).trim

/-- A text without a point at its end. -/
def withoutFinalPoint (text : Text) : Text :=
  if text.getLast? = some CodeUnit.point then text.dropLast else text

def parseRouteFromHostHeader (hostLine : Text) : Option Route :=
  let host :=
    (withoutFinalPoint (hostOf hostLine).toLowerCase).takeWhile (· != CodeUnit.colon)
  match host.splitOn CodeUnit.point with
  | [workspaceSubdomain, optics, run] =>
    if optics = Text.ofString "optics" ∧ run = Text.ofString "run" ∧
        isValidSubdomainLabel workspaceSubdomain then
      some { serviceSubdomain := [], workspaceSubdomain := workspaceSubdomain }
    else none
  | [serviceSubdomain, workspaceSubdomain, optics, run] =>
    if optics = Text.ofString "optics" ∧ run = Text.ofString "run" ∧
        isValidSubdomainLabel serviceSubdomain ∧ isValidSubdomainLabel workspaceSubdomain then
      some { serviceSubdomain := serviceSubdomain, workspaceSubdomain := workspaceSubdomain }
    else none
  | _ => none

example :
    parseRouteFromHostHeader "Host:  Shop.Acme.optics.run:8443 " =
      some { serviceSubdomain := "shop", workspaceSubdomain := "acme" } := by decide

end Gateway

end OpticsHub
