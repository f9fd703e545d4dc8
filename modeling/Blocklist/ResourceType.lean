/-! # Resource types

What a request fetches. The constructors stand in the order in which lists of resource types are
written. A resource type has three names: the one that filter options use, the identifier of its
mask bit, and the wire name, which stands with the JSON form of rules.
-/

namespace Blocklist

/-- Kinds of resources that a request can be for. -/
inductive ResourceType where
  | mainFrame
  | subFrame
  | stylesheet
  | script
  | image
  | font
  | object
  | xmlHttpRequest
  | ping
  | cspReport
  | media
  | webSocket
  | other
  deriving Repr, DecidableEq

namespace ResourceType

/-- All resource types, in the order in which they are written. -/
def all : List ResourceType :=
  [mainFrame, subFrame, stylesheet, script, image, font, object, xmlHttpRequest, ping, cspReport,
   media, webSocket, other]

theorem mem_all (t : ResourceType) : t ∈ all := by
  cases t <;> decide

theorem nodup_all : all.Nodup := by
  decide

/-- Position of the type's bit in a mask. -/
def bit : ResourceType → Fin 13
  | other => 0
  | script => 1
  | image => 2
  | stylesheet => 3
  | object => 4
  | subFrame => 5
  | mainFrame => 6
  | xmlHttpRequest => 7
  | webSocket => 8
  | font => 9
  | media => 10
  | ping => 11
  | cspReport => 12

theorem exists_bit_eq (i : Fin 13) : ∃ t : ResourceType, t.bit = i := by
  have h : ∀ i : Fin 13, ∃ t ∈ all, t.bit = i := by decide
  rcases h i with ⟨t, _, ht⟩
  exact ⟨t, ht⟩

/-- The type that an option of a filter rule names. -/
def ofOptionName? : String → Option ResourceType
  | "script" => some script
  | "image" => some image
  | "stylesheet" => some stylesheet
  | "object" => some object
  | "subdocument" => some subFrame
  | "document" | "main_frame" => some mainFrame
  | "xmlhttprequest" | "xhr" => some xmlHttpRequest
  | "media" => some media
  | "font" => some font
  | "ping" => some ping
  | "websocket" => some webSocket
  | "csp_report" => some cspReport
  | "other" => some other
  | _ => none

/-- Identifier of the type's mask bit. -/
def identifier : ResourceType → String
  | mainFrame => "MAIN_FRAME"
  | subFrame => "SUBDOCUMENT"
  | stylesheet => "STYLESHEET"
  | script => "SCRIPT"
  | image => "IMAGE"
  | font => "FONT"
  | object => "OBJECT"
  | xmlHttpRequest => "XMLHTTPREQUEST"
  | ping => "PING"
  | cspReport => "CSP_REPORT"
  | media => "MEDIA"
  | webSocket => "WEBSOCKET"
  | other => "OTHER"

/-- The type whose mask bit has this identifier. -/
def ofIdentifier? (name : String) : Option ResourceType :=
  all.find? (·.identifier = name)

end ResourceType

end Blocklist
