import ShadowLint.Config.Registry
import ShadowLint.File.Fault
import ShadowLint.File.Path
import ShadowLint.Json.Reader
import ShadowLint.Text.Encoding

/-!
Configurations in files: a JSON object with a member for each check, whose own
members are the properties of the check.
-/

namespace ShadowLint

namespace Config

def decodingMessage (fault : Text.DecodingFault) : String :=
  let last := fault.start + fault.count - 1
  let bytes :=
    if fault.count = 1 then
      s!"byte 0x{String.ofList (Text.hexDigits 2 fault.first.toNat)} in position {fault.start}"
    else s!"bytes in position {fault.start}-{last}"
  s!"'utf-8' codec can't decode {bytes}: {fault.cause.reason}"

def valueOfBytes (bytes : List UInt8) : Except String Value :=
  match Text.Encoding.utf8.decode bytes with
  | .error fault => .error (decodingMessage fault)
  | .ok chars =>
    let text := Text.unifyLineEnds chars
    (Json.read text).mapError (·.message text)

def valueOfFile (files : Files) (path : String) : Except String Value :=
  match files.read path with
  | .error fault => .error fault.message
  | .ok bytes => valueOfBytes bytes

def checksOf : List (String × Value) → Except ConfigurationError (List CheckConfig)
  | [] => .ok []
  | (name, .object properties) :: rest => (checksOf rest).map (⟨name, properties⟩ :: ·)
  | (name, value) :: _ => .error (.propertiesNotObject name value)

def load (files : Files) (path : String) : Except ConfigurationError (List CheckConfig) :=
  let path := normalPath path
  match valueOfFile files path with
  | .error reason => .error (.unreadable path reason)
  | .ok (.object members) => checksOf members
  | .ok _ => .error (.notAnObject path)

end Config

end ShadowLint
