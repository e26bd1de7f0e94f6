import SocketInventory.Text.Utf8

/-!
# Percent encoding

A percent sign with two hexadecimal digits stands for an octet; any other percent sign stands for
itself. The octets of a text are decoded as UTF-8.
-/

namespace SocketInventory.Text

/-- The octets that a percent-encoded text stands for. -/
def percentOctets : List Char → List UInt8
  | '%' :: a :: b :: rest =>
    match hexValue? a, hexValue? b with
    | some x, some y => UInt8.ofNat (16 * x + y) :: percentOctets rest
    | _, _ => 0x25 :: percentOctets (a :: b :: rest)
  | [] => []
  | c :: rest => encodeUtf8 (String.singleton c) ++ percentOctets rest

/-- Decoding that puts the replacement character for what is not UTF-8. -/
def percentDecode (s : List Char) : List Char :=
  decodeReplacing (fun _ => [Char.ofNat 0xFFFD]) (percentOctets s)

def percentEscape (bytes : List UInt8) : List Char :=
  bytes.flatMap fun b => '%' :: (paddedHexChars 2 b.toNat).map Char.toUpper

/-- Decoding of a part of a query string: a plus sign is a space, and octets that are not UTF-8
stay in percent form. -/
def queryDecode (s : List Char) : List Char :=
  decodeReplacing percentEscape (percentOctets (s.map fun c => if c = '+' then ' ' else c))

end SocketInventory.Text
