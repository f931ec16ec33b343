set_option autoImplicit false

namespace DocGuard.Text.Base64

def digit? (c : Char) : Option Nat :=
  if 'A' ≤ c && c ≤ 'Z' then some (c.toNat - 'A'.toNat)
  else if 'a' ≤ c && c ≤ 'z' then some (c.toNat - 'a'.toNat + 26)
  else if '0' ≤ c && c ≤ '9' then some (c.toNat - '0'.toNat + 52)
  else if c == '+' then some 62
  else if c == '/' then some 63
  else none

-- `held` digits of the present group are read, the last of them `left`, and `pads` marks of padding
-- seen since. A group may not stay open.
def decodeFrom (held left pads : Nat) : List Char → Option (List UInt8)
  | [] => if held == 0 then some [] else none
  | c :: rest =>
    if c == '=' then
      if held < 2 then decodeFrom held left pads rest
      else if 4 ≤ held + pads + 1 then some []
      else decodeFrom held left (pads + 1) rest
    else
      match digit? c with
      | none => decodeFrom held left pads rest
      | some d =>
        match held with
        | 0 => decodeFrom 1 d 0 rest
        | 1 => (decodeFrom 2 d 0 rest).map (UInt8.ofNat (left * 4 + d / 16) :: ·)
        | 2 => (decodeFrom 3 d 0 rest).map (UInt8.ofNat (left % 16 * 16 + d / 4) :: ·)
        | _ => (decodeFrom 0 d 0 rest).map (UInt8.ofNat (left % 4 * 64 + d) :: ·)

def decode? (text : List Char) : Option (List UInt8) := decodeFrom 0 0 0 text

end DocGuard.Text.Base64
