/-!
# Resource types

What kind of resource a request asks for.  Rules hold sets of them, kept as masks of 32 bits, of which
the lowest twelve have a meaning; a mask that was read from outside may have others set.
-/

namespace ContentFilter

/-- The type of a request. -/
inductive ResourceType where
  | mainFrame
  | subFrame
  | stylesheet
  | script
  | image
  | font
  | object
  | xmlHttpRequest
  | ping
  | media
  | webSocket
  | other
deriving DecidableEq, Repr

/-- A set of resource types, as a mask of bits. -/
structure ResourceTypes where
  bits : UInt32
deriving DecidableEq, Repr

namespace ResourceType

/-- Every type, in the order of its bit. -/
def all : List ResourceType :=
  [.mainFrame, .subFrame, .stylesheet, .script, .image, .font, .object, .xmlHttpRequest, .ping,
   .media, .webSocket, .other]

/-- The bit of a type in a mask. -/
def bit : ResourceType → UInt32
  | .mainFrame => 0x001
  | .subFrame => 0x002
  | .stylesheet => 0x004
  | .script => 0x008
  | .image => 0x010
  | .font => 0x020
  | .object => 0x040
  | .xmlHttpRequest => 0x080
  | .ping => 0x100
  | .media => 0x200
  | .webSocket => 0x400
  | .other => 0x800

/-- The name of a type in the backend. -/
def name : ResourceType → String
  | .mainFrame => "main_frame"
  | .subFrame => "sub_frame"
  | .stylesheet => "stylesheet"
  | .script => "script"
  | .image => "image"
  | .font => "font"
  | .object => "object"
  | .xmlHttpRequest => "xmlhttprequest"
  | .ping => "ping"
  | .media => "media"
  | .webSocket => "websocket"
  | .other => "other"

/-- The name of a type's flag in the text of a mask. -/
def flagName : ResourceType → String
  | .mainFrame => "MAIN_FRAME"
  | .subFrame => "SUB_FRAME"
  | .stylesheet => "STYLESHEET"
  | .script => "SCRIPT"
  | .image => "IMAGE"
  | .font => "FONT"
  | .object => "OBJECT"
  | .xmlHttpRequest => "XMLHTTPREQUEST"
  | .ping => "PING"
  | .media => "MEDIA"
  | .webSocket => "WEBSOCKET"
  | .other => "OTHER"

/-- The type of this name in the backend. -/
def ofName? (text : String) : Option ResourceType := all.find? (·.name == text)

end ResourceType

namespace ResourceTypes

/-- No type. -/
def empty : ResourceTypes := ⟨0⟩

/-- Every type. -/
def all : ResourceTypes := ⟨0xfff⟩

/-- The set of a single type. -/
def only (t : ResourceType) : ResourceTypes := ⟨t.bit⟩

/-- The types in one set or the other. -/
def union (a b : ResourceTypes) : ResourceTypes := ⟨a.bits ||| b.bits⟩

/-- The types in both sets. -/
def inter (a b : ResourceTypes) : ResourceTypes := ⟨a.bits &&& b.bits⟩

/-- The known types of the first set that are not in the second. -/
def without (a b : ResourceTypes) : ResourceTypes := ⟨a.bits &&& (all.bits &&& ~~~b.bits)⟩

/-- Whether no bit is set. -/
def isEmpty (types : ResourceTypes) : Bool := types.bits == 0

/-- Whether a type is in the set. -/
def contains (types : ResourceTypes) (t : ResourceType) : Bool := types.bits &&& t.bit == t.bit

/-- Whether the sets have a bit in common. -/
def intersects (a b : ResourceTypes) : Bool := !(a.inter b).isEmpty

/-- The set of the listed types. -/
def ofTypes (types : List ResourceType) : ResourceTypes :=
  types.foldl (fun set t => set.union (only t)) empty

/-- The known types of a set, in the order of their bits. -/
def toTypes (types : ResourceTypes) : List ResourceType := ResourceType.all.filter types.contains

/-- The types that a network rule without a type option applies to. -/
def common : ResourceTypes :=
  ofTypes [.script, .image, .stylesheet, .xmlHttpRequest, .subFrame, .media, .font, .other]

/-- The types that an option of a filter names. -/
def ofOption? (option : String) : Option ResourceTypes :=
  match option with
  | "script" => some (only .script)
  | "image" => some (only .image)
  | "stylesheet" | "css" => some (only .stylesheet)
  | "xmlhttprequest" | "xhr" => some (only .xmlHttpRequest)
  | "subdocument" | "frame" => some (only .subFrame)
  | "document" | "doc" => some (only .mainFrame)
  | "media" => some (only .media)
  | "font" => some (only .font)
  | "object" | "object-subrequest" => some (only .object)
  | "ping" | "beacon" => some (only .ping)
  | "websocket" => some (only .webSocket)
  | "other" => some (only .other)
  | "all" => some all
  | _ => none

/-- The type of a request by its name in the backend; unknown names count as `other`. -/
def ofRequest (name : String) : ResourceTypes := only ((ResourceType.ofName? name).getD .other)

/-- The names of the known types of a set. -/
def names (types : ResourceTypes) : List String := types.toTypes.map (·.name)

/-- The set of the types with the given names; unknown names do not count. -/
def ofNames (names : List String) : ResourceTypes := ofTypes (names.filterMap ResourceType.ofName?)

end ResourceTypes

end ContentFilter
