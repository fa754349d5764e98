import TeacherRegistry.Url.DomainName.MappingTable

/-!
The mapping that domain names go through: capitals become small letters, compatibility forms their
plain ones, some characters are dropped, and others are refused.
-/

namespace TeacherRegistry.Url.DomainName

/-- The one character that replaces code point `n` according to a row of the table. -/
def replacement? (n : Nat) : List Nat → Option Nat
  | [first, last, step, image] =>
    if n < first ∨ last < n then none
    else if step = 0 then some image
    else if (n - first) % step = 0 then some (image + (n - first))
    else none
  | _ => none

/-- The characters that replace code point `n` according to a row of the table. -/
def expansion? (n : Nat) : List Nat → Option (List Nat)
  | c :: image => if c = n then some image else none
  | [] => none

/-- What a character becomes, `none` if it is refused. -/
def mapChar? (c : Char) : Option (List Char) :=
  let n := c.toNat
  if n < 0x80 then some [c.toLower]
  else if Text.inTable refusedRanges n then none
  else if Text.inTable droppedRanges n then some []
  else match replacements.findSome? (replacement? n) with
    | some image => some [Char.ofNat image]
    | none =>
      match expansions.findSome? (expansion? n) with
      | some image => some (image.map Char.ofNat)
      | none => some [c]

/-- What a text becomes, `none` if a character of it is refused. -/
def mapChars? : List Char → Option (List Char)
  | [] => some []
  | c :: rest =>
    match mapChar? c, mapChars? rest with
    | some image, some rest => some (image ++ rest)
    | _, _ => none

end TeacherRegistry.Url.DomainName
