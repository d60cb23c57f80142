/-
# Text of bytes

Bytes are read as text in which each character has one to four bytes. Where bytes form no
character, a replacement character stands for the longest run that could have started one.

Key definitions: `decode`.
-/
namespace ReactiveTree.Text

/-- A character of which some bytes were read: its bits so far, how many bytes are still to
come, and the bounds of the next one. -/
structure Partial where
  bits : Nat
  missing : Nat
  least : Nat
  greatest : Nat

def replacement : Char := Char.ofNat 0xfffd

/-- What a byte starts: a character by itself, one of several bytes, or none. -/
def startOfChar (b : Nat) : Char ⊕ Partial :=
  if b < 0x80 then .inl (Char.ofNat b)
  else if 0xc2 ≤ b ∧ b ≤ 0xdf then .inr ⟨b - 0xc0, 1, 0x80, 0xbf⟩
  else if 0xe0 ≤ b ∧ b ≤ 0xef then
    .inr ⟨b - 0xe0, 2, if b = 0xe0 then 0xa0 else 0x80, if b = 0xed then 0x9f else 0xbf⟩
  else if 0xf0 ≤ b ∧ b ≤ 0xf4 then
    .inr ⟨b - 0xf0, 3, if b = 0xf0 then 0x90 else 0x80, if b = 0xf4 then 0x8f else 0xbf⟩
  else .inl replacement

/-- Read bytes after a character of which some were read. -/
def decodeFrom : Option Partial → List UInt8 → List Char
  | none, [] => []
  | some _, [] => [replacement]
  | none, b :: bs =>
    match startOfChar b.toNat with
    | .inl c => c :: decodeFrom none bs
    | .inr p => decodeFrom (some p) bs
  | some p, b :: bs =>
    if p.least ≤ b.toNat ∧ b.toNat ≤ p.greatest then
      let bits := p.bits * 64 + b.toNat % 64
      if p.missing = 1 then Char.ofNat bits :: decodeFrom none bs
      else decodeFrom (some ⟨bits, p.missing - 1, 0x80, 0xbf⟩) bs
    else
      replacement ::
        match startOfChar b.toNat with
        | .inl c => c :: decodeFrom none bs
        | .inr p => decodeFrom (some p) bs

/-- The text that bytes write. -/
def decode (bytes : List UInt8) : String := String.ofList (decodeFrom none bytes)

end ReactiveTree.Text
