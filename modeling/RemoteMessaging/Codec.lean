import RemoteMessaging.Error
import RemoteMessaging.Text.Utf8

/-!
# Codecs

A codec turns messages into payloads and back.  Both directions may fail.
-/

namespace RemoteMessaging

/-- Both directions between messages and bytes. -/
structure Codec (μ : Type) where
  encode : μ → Except Error (List UInt8)
  decode : List UInt8 → Except Error μ

namespace Codec

def bytes : Codec (List UInt8) where
  encode message := .ok message
  decode payload := .ok payload

def notText (fault : Text.Utf8Fault) : Error :=
  .protocol "codec" s!"payload is not UTF-8: {fault.message}"

def text : Codec String where
  encode message := .ok (Text.utf8 message.toList)
  decode payload :=
    match Text.decodeUtf8 payload with
    | .ok chars => .ok (String.ofList chars)
    | .error fault => .error (notText fault)

/-- A codec that puts a mark in front of each text that it encodes. -/
def marked (mark : String) : Codec String where
  encode message := text.encode (mark ++ message)
  decode := text.decode

def refusing {μ : Type} (detail : String) : Codec μ where
  encode _ := .error (.configuration detail)
  decode _ := .error (.configuration detail)

end Codec

end RemoteMessaging
