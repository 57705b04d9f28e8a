import ServiceCall.Text.Utf8
import ServiceCall.Web.Domain.Label

/-!
# Domain names

The form in which a domain name goes to the wire: labels of small letters in ASCII, without the
characters that have a meaning in an address.
-/

namespace ServiceCall.Domain

/-- The characters that no domain name holds. -/
def isForbidden (c : Char) : Bool :=
  c.toNat ≤ 0x20 || c.toNat == 0x7F || "%#/:<>?@[\\]^|".toList.contains c

/-- Whether the labels of a name can stand side by side. -/
def isReadable (labels : List Text) : Bool :=
  !(labels.any fun label => label.any isFromRight) || labels.all hasOneDirection

/-- The wire form of a name, when it has one. -/
def toAscii? (name : Text) : Option Text := do
  let composed := compose (← mapText? name)
  if composed.any isForbidden then none
  else
    let labels ← (Text.splitAll '.' composed).mapM readable?
    if isReadable labels then
      let written ← labels.mapM encodeLabel?
      pure (Text.join ['.'] written)
    else none

end ServiceCall.Domain
