import RemoteMessaging.Text.Numeral

/-!
# Bytes in hexadecimal

Two lower-case digits a byte; reading takes digits of either case.
-/

namespace RemoteMessaging.Text

def hex (bytes : List UInt8) : List Char :=
  bytes.flatMap fun byte =>
    [Nat.digitChar (byte.toNat / 16), Nat.digitChar (byte.toNat % 16)]

def readHex : List Char → Option (List UInt8)
  | [] => some []
  | high :: low :: rest => do
      let high ← hexDigitValue? high
      let low ← hexDigitValue? low
      return UInt8.ofNat (16 * high + low) :: (← readHex rest)
  | _ => none

end RemoteMessaging.Text
