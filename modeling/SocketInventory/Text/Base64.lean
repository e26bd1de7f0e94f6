/-!
# Base 64

Four characters of an alphabet of 64 stand for three octets, and equals signs fill up the last
group. Other characters count nothing, and what follows a filled group is not read.
-/

namespace SocketInventory.Text

/-- The six bits of a character of the alphabet. -/
def sextet? (c : Char) : Option Nat :=
  if 'A' ≤ c && c ≤ 'Z' then some (c.toNat - 'A'.toNat)
  else if 'a' ≤ c && c ≤ 'z' then some (c.toNat - 'a'.toNat + 26)
  else if '0' ≤ c && c ≤ '9' then some (c.toNat - '0'.toNat + 52)
  else if c = '+' then some 62
  else if c = '/' then some 63
  else none

/-- Decodes from a place in a group of four, with the bits left over there and the number of equals
signs since the last character. A group that is neither full nor filled up is refused. -/
def decodeBase64From (place left signs : Nat) : List Char → Option (List UInt8)
  | [] => if place = 0 then some [] else none
  | c :: rest =>
    if c = '=' then
      if place < 2 then decodeBase64From place left signs rest
      else if 4 ≤ place + signs + 1 then some []
      else decodeBase64From place left (signs + 1) rest
    else
      match sextet? c with
      | none => decodeBase64From place left signs rest
      | some bits =>
        if place = 0 then decodeBase64From 1 bits 0 rest
        else
          let octet := left * 4 ^ place + bits / 4 ^ (3 - place)
          (decodeBase64From ((place + 1) % 4) (bits % 4 ^ (3 - place)) 0 rest).map
            (UInt8.ofNat octet :: ·)

def decodeBase64? (s : List Char) : Option (List UInt8) := decodeBase64From 0 0 0 s

end SocketInventory.Text
