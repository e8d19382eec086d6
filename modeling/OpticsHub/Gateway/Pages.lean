import OpticsHub.Gateway.State

/-!
# Error pages

The outcome of a request decides on the status, the template and the words of its error page. What
comes from outside is escaped when it is filled in: the placeholders of a template are replaced
once, from left to right, and what is put in is not looked at again. The templates are files that
the process reads when it starts; here they are given, and so is the time that a page shows.
-/
namespace OpticsHub

open Script

namespace Gateway

inductive ErrorTemplateName where
  | requestedServiceNotFound
  | serviceUnavailable
  deriving DecidableEq

structure OutcomePresentation where
  status : ℕ
  reason : Text
  template : ErrorTemplateName
  /-- What happened, as a piece of HTML around the escaped host. -/
  detail : Text → Text

/-! ## Presentations -/

/-- `NOT_FOUND` -/
def notFoundPage (reason : Text) (detail : Text → Text) : OutcomePresentation where
  status := 404
  reason := reason
  template := .requestedServiceNotFound
  detail := detail

/-- `SERVICE_UNAVAILABLE` -/
def serviceUnavailablePage (detail : Text → Text) : OutcomePresentation where
  status := 503
  reason := "Service Unavailable"
  template := .serviceUnavailable
  detail := detail

/-- A sentence around the host. -/
def aroundHost (before after : String) (host : Text) : Text :=
  Text.ofString before ++ host ++ Text.ofString after

def presentationFor : PageOutcome → OutcomePresentation
  | .missingHost => notFoundPage "Requested Service Not Found" fun _ =>
      Text.ofString ("Your request did not include a <code>Host</code> header, so the OPTiCS " ++
        "Gateway could not tell which service it was meant for.")
  | .invalidRoute => notFoundPage "Requested Service Not Found" (aroundHost "<code>"
      ("</code> is not an OPTiCS service address. Service addresses look like " ++
        "<code>service.workspace.optics.run</code>."))
  | .workspaceNotFound => notFoundPage "Requested Service Not Found" (aroundHost
      "No active workspace is registered at <code>"
      "</code>. The workspace may have been renamed, deactivated, or deleted.")
  | .serviceNotFound => notFoundPage "Requested Service Not Found" (aroundHost
      "The workspace exists, but it has no service published at <code>"
      "</code>. The address may be misspelled, or the service may have been removed.")
  | .serviceBlocked => serviceUnavailablePage (aroundHost "Traffic to <code>"
      ("</code> has been suspended by an operator. The service itself may still be running, " ++
        "but OPTiCS is not forwarding requests to it right now."))
  | .agentNotFound => serviceUnavailablePage (aroundHost "The service at <code>"
      ("</code> is not linked to a deployment agent, so the OPTiCS Gateway had nowhere to " ++
        "forward your request."))
  | .agentOffline => serviceUnavailablePage (aroundHost "The deployment agent hosting <code>"
      ("</code> is not connected to OPTiCS, so your request could not be forwarded to it. Its " ++
        "host machine is likely offline."))
  | .agentNoTunnel => serviceUnavailablePage (aroundHost
      "OPTiCS asked the deployment agent hosting <code>"
      ("</code> to open a tunnel, but it did not do so in time. The agent may be unresponsive, " ++
        "or the service it fronts may have failed to start."))
  | .hubUnreachable => serviceUnavailablePage fun _ =>
      Text.ofString ("The OPTiCS Gateway could not reach the OPTiCS control plane, so it could " ++
        "not look up where to send your request. This is a problem on our side, not with the " ++
        "service you requested.")
  | .hubRejected => serviceUnavailablePage fun _ =>
      Text.ofString ("The OPTiCS control plane rejected the routing request. This is a problem " ++
        "on our side, not with the service you requested.")
  | .dbError => serviceUnavailablePage (aroundHost
      "The OPTiCS control plane failed while looking up <code>"
      "</code>. This is a problem on our side, not with the service you requested.")

/-! ## Templates -/

/-- `text.replace(/unit/g, replacement)` -/
def replaceUnit (unit : CodeUnit) (replacement : String) (text : Text) : Text :=
  text.flatMap fun other => if other = unit then Text.ofString replacement else [other]

def escapeHtml (value : Text) : Text :=
  replaceUnit 0x27 "&#39;" (replaceUnit 0x22 "&quot;" (replaceUnit 0x3E "&gt;"
    (replaceUnit 0x3C "&lt;" (replaceUnit 0x26 "&amp;" value))))

/-- `\w` -/
def isWordUnit (unit : CodeUnit) : Bool :=
  CodeUnit.isDigit unit || CodeUnit.isUpper unit || (0x61 ≤ unit && unit ≤ 0x7A) || unit == 0x5F

/-- The key of a placeholder at the beginning of a text, and what follows the placeholder. -/
def placeholder : Text → Option (Text × Text)
  | first :: second :: rest =>
    if first = CodeUnit.openBrace ∧ second = CodeUnit.openBrace then
      let inner := rest.dropWhile CodeUnit.isSpace
      match inner.takeWhile isWordUnit, (inner.dropWhile isWordUnit).dropWhile CodeUnit.isSpace with
      | unit :: units, third :: fourth :: after =>
        if third = CodeUnit.closeBrace ∧ fourth = CodeUnit.closeBrace then
          some (unit :: units, after)
        else none
      | _, _ => none
    else none
  | _ => none

section Rendering

variable (vars rawVars : Members Text)

/-- What a placeholder is replaced by, if its key is known. -/
def valueOf (key : Text) : Option Text :=
  match Members.own rawVars key with
  | some fragment => some fragment
  | none => (Members.own vars key).map escapeHtml

/-- Replace the placeholders of a text, of which some units belong to a placeholder that was
replaced already. -/
def renderFrom : ℕ → Text → Text
  | _, [] => []
  | skip + 1, _ :: rest => renderFrom skip rest
  | 0, unit :: rest =>
    match placeholder (unit :: rest) with
    | none => unit :: renderFrom 0 rest
    | some (key, after) =>
      let matched := (unit :: rest).take ((unit :: rest).length - after.length)
      (valueOf vars rawVars key).getD matched ++ renderFrom (rest.length - after.length) rest

def renderTemplate (template : Text) : Text := renderFrom vars rawVars 0 template

end Rendering

/-! ## Responses -/

def crlf : Text := [0x0D, 0x0A]

def makeHtmlResponse (status : ℕ) (reason body : Text) : Text :=
  Text.ofString "HTTP/1.1 " ++ decimalText status ++ Text.ofString " " ++ reason ++ crlf ++
    (Text.ofString "content-type: text/html; charset=utf-8" ++ crlf) ++
    (Text.ofString "content-length: " ++ decimalText (encodeUtf8 body).length ++ crlf) ++
    (Text.ofString "connection: close" ++ crlf) ++ crlf ++ body

/-- `value || other` -/
def orText (value other : Text) : Text := if value.isEmpty then other else value

def renderErrorResponse (templates : ErrorTemplateName → Text) (timestamp : Text)
    (outcome : PageOutcome) (context : ErrorContext) : Text :=
  let presentation := presentationFor outcome
  let host := orText context.host "unknown host"
  let body := renderTemplate
    [("requestUrl", host), ("serviceName", orText (context.serviceName.getD []) host),
      ("requestId", context.requestId), ("rayId", context.rayId), ("outcome", outcome.name),
      ("timestamp", timestamp)]
    [("detail", presentation.detail (escapeHtml host))]
    (templates presentation.template)
  makeHtmlResponse presentation.status presentation.reason body

/-- What goes out to a client for what is written to its socket. -/
def pageBytes (templates : ErrorTemplateName → Text) (timestamp : Text) : Piece → Bytes
  | .byte value => [value]
  | .page outcome context =>
    encodeUtf8 (renderErrorResponse templates timestamp outcome context)

/-- All that has gone out to a client. -/
def responseBytes (templates : ErrorTemplateName → Text) (timestamp : Text) (client : ℕ)
    (state : State) : Bytes :=
  (state.sockets (.client client)).written.flatMap (pageBytes templates timestamp)

example :
    renderTemplate [("host", "<a>")] [("detail", "<b>")]
        "\x7b\x7b\x7b host \x7d\x7d, \x7b\x7bdetail\x7d\x7d \x7b\x7b no \x7d\x7d" =
      Text.ofString "\x7b&lt;a&gt;, <b> \x7b\x7b no \x7d\x7d" := by decide +kernel

end Gateway

end OpticsHub
