import Floorplan.Image.Base64
import Floorplan.Store.Disk

set_option autoImplicit false

/-! # Images as data URIs

An image is attached as a data URI: its bytes in base 64 behind the type that its file's name ends
with. -/

namespace Floorplan.DataUri

/-- The type of an image by the ending of its file's name, in either case. -/
def typeOf (path : String) : String :=
  match (Path.extension? path).map fun e => String.ofList (e.map Char.toLower) with
  | some "png" => "image/png"
  | some "jpg" => "image/jpeg"
  | some "jpeg" => "image/jpeg"
  | some "gif" => "image/gif"
  | some "webp" => "image/webp"
  | some "svg" => "image/svg+xml"
  | some "bmp" => "image/bmp"
  | _ => "application/octet-stream"

/-- Bytes of a type as a data URI. -/
def encode (type : String) (bytes : List UInt8) : String :=
  "data:" ++ type ++ ";base64," ++ String.ofList (Base64.encode bytes)

/-- An image file that cannot be read. -/
structure ReadError where
  path : String
  reason : DiskError
  deriving DecidableEq, Repr

/-- The failure in words. -/
def ReadError.message (e : ReadError) : String :=
  "failed to read file '" ++ e.path ++ "': " ++ e.reason.message

/-- The data URI of a file. -/
def read (disk : Disk) (path : String) : Except ReadError String :=
  match disk.read path with
  | .error reason => .error ⟨path, reason⟩
  | .ok bytes => .ok (encode (typeOf path) bytes.toList)

end Floorplan.DataUri
