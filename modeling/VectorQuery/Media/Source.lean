import VectorQuery.Text.Base64

/-!
# Media content

The content of a medium is given as base64 text, which may be a data URI, as bytes, or by a stream
that is read to its end at once. Whatever way it is given, it leaves as plain base64.
-/

namespace VectorQuery

/-- What one read of a byte stream gives. -/
inductive Read where
  /-- Bytes; none at all end the stream. -/
  | data (bytes : List UInt8)
  /-- The read was interrupted and is tried again. -/
  | interrupted
  /-- The read failed. -/
  | failed (reason : String)
  deriving DecidableEq

/-- The bytes of a stream up to its end, or the reason why it could not be read that far. -/
def drain : List Read → Except String (List UInt8)
  | [] => .ok []
  | .data [] :: _ => .ok []
  | .data bytes :: rest => (drain rest).map (bytes ++ ·)
  | .interrupted :: rest => drain rest
  | .failed reason :: _ => .error reason

namespace DataUri

/-- How a data URI begins. -/
def scheme : List Char := "data:".toList

/-- What stands in front of base64 content in a data URI. -/
def marker : List Char := ";base64,".toList

/-- The characters after the last occurrence of the marker. -/
def afterLastMarker? : List Char → Option (List Char)
  | [] => none
  | c :: rest =>
    match afterLastMarker? rest with
    | some payload => some payload
    | none => if marker.isPrefixOf (c :: rest) then some ((c :: rest).drop marker.length) else none

/-- The base64 content of a data URI; text of any other form is content itself. -/
def payload (s : List Char) : List Char :=
  if scheme.isPrefixOf s then (afterLastMarker? s).getD s else s

end DataUri

/-- Where the content of a medium comes from. -/
inductive MediaSource where
  /-- Base64 text or a data URI. -/
  | encoded (text : String)
  /-- Bytes. -/
  | bytes (bytes : List UInt8)
  deriving DecidableEq

namespace MediaSource

/-- The content as base64. -/
def base64 : MediaSource → String
  | encoded text => String.ofList (DataUri.payload text.toList)
  | bytes content => Text.Base64.encode content

end MediaSource

/-- The kinds of media. -/
inductive MediaKind where
  | image | audio | video | depth | thermal | imu
  deriving DecidableEq, Repr

namespace MediaKind

/-- All kinds, in the order in which their clauses are written. -/
def all : List MediaKind := [image, audio, video, depth, thermal, imu]

/-- The key of the clause of a kind. -/
def clauseName : MediaKind → String
  | image => "nearImage"
  | audio => "nearAudio"
  | video => "nearVideo"
  | depth => "nearDepth"
  | thermal => "nearThermal"
  | imu => "nearIMU"

/-- The key of the content in the clause of a kind. -/
def fieldName : MediaKind → String
  | image => "image"
  | audio => "audio"
  | video => "video"
  | depth => "depth"
  | thermal => "thermal"
  | imu => "imu"

/-- The number of a kind in messages. -/
def code : MediaKind → Int32
  | image => 1
  | audio => 2
  | video => 3
  | depth => 4
  | thermal => 5
  | imu => 6

end MediaKind

end VectorQuery
