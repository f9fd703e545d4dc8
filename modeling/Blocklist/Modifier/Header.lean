import Blocklist.Text.Pieces

/-! # Header removals

The value of a header removal is a header name, with `request:` before it when the header of the
request and not that of the response is meant. Some headers are never removed.
-/

namespace Blocklist

/-- Side of an exchange. -/
inductive Direction where
  | request
  | response
  deriving Repr, DecidableEq

/-- Names of the headers that no rule may remove, on either side. -/
def forbiddenHeaders : List String :=
  ["access-control-allow-origin",
   "access-control-allow-credentials",
   "access-control-allow-headers",
   "access-control-allow-methods",
   "access-control-expose-headers",
   "access-control-max-age",
   "access-control-request-headers",
   "access-control-request-method",
   "origin",
   "timing-allow-origin",
   "allow",
   "cross-origin-embedder-policy",
   "cross-origin-opener-policy",
   "cross-origin-resource-policy",
   "content-security-policy",
   "content-security-policy-report-only",
   "expect-ct",
   "feature-policy",
   "origin-isolation",
   "strict-transport-security",
   "upgrade-insecure-requests",
   "x-content-type-options",
   "x-download-options",
   "x-frame-options",
   "x-permitted-cross-domain-policies",
   "x-powered-by",
   "x-xss-protection",
   "public-key-pins",
   "public-key-pins-report-only",
   "sec-websocket-key",
   "sec-websocket-extensions",
   "sec-websocket-accept",
   "sec-websocket-protocol",
   "sec-websocket-version",
   "p3p",
   "sec-fetch-mode",
   "sec-fetch-dest",
   "sec-fetch-site",
   "sec-fetch-user",
   "referrer-policy",
   "content-type",
   "content-length",
   "accept",
   "accept-encoding",
   "host",
   "connection",
   "transfer-encoding",
   "upgrade"]

/-- Rules may remove the header of this name, which is given in lowercase. -/
def isAllowedHeader (name : String) : Bool :=
  !forbiddenHeaders.contains name

/-- What a removal aims at. -/
structure HeaderTarget where
  direction : Direction
  name : String
  deriving Repr, DecidableEq

namespace HeaderTarget

/-- The target that a lowercase value names. -/
def ofValue (value : String) : HeaderTarget :=
  match Text.after? "request:".toList value.toList with
  | some name => ⟨.request, String.ofList name⟩
  | none => ⟨.response, value⟩

/-- The header may be removed. A name with a colon in it would be a header with a value. -/
def isValid (target : HeaderTarget) : Bool :=
  isAllowedHeader target.name && !target.name.toList.contains ':'

/-- Name of the header to remove on one side of the exchange, if there is one. -/
def nameIn? (target : HeaderTarget) (direction : Direction) : Option String :=
  if target.isValid ∧ target.direction = direction ∧ target.name ≠ "" then some target.name
  else none

end HeaderTarget

end Blocklist
