import ScreenDispatch.Markup.Scan

/-!
The declaration of a document, such as `version="1.0"`: a version, then possibly an encoding, then
possibly whether the document stands alone.
-/
set_option autoImplicit false

namespace ScreenDispatch.Markup

-- An entry of the declaration of a document, such as `version="1.0"`. `name` and `value` are
-- followed by the number of characters left where they begin.
structure Setting where
  name : String
  nameLeft : Nat
  value : String
  valueLeft : Nat
  rest : List Char

def isSettingChar (c : Char) : Bool := c.isAlphanum || c == '.' || c == '-' || c == '_'

def scanSetting (cs : List Char) : Except Nat (Option Setting) :=
  match cs with
  | [] => .ok none
  | c :: _ =>
    if !isSpace c then .error cs.length
    else
      let start := skipSpace cs
      let isNamePart := fun c => decide (c.toNat < 0x80) && c != '=' && !isSpace c
      let name := start.takeWhile isNamePart
      let afterName := skipSpace (start.dropWhile isNamePart)
      if start.isEmpty then .ok none
      else
        match afterName with
        | '=' :: rest =>
          match name, skipSpace rest with
          | [], _ => .error afterName.length
          | _, [] => .error 0
          | _, quote :: inside =>
            if quote ≠ '"' ∧ quote ≠ '\'' then .error (quote :: inside).length
            else
              let value := inside.takeWhile isSettingChar
              match inside.dropWhile isSettingChar with
              | [] => .error 0
              | q :: rest =>
                if q = quote then
                  .ok (some ⟨String.ofList name, start.length, String.ofList value,
                    inside.length, rest⟩)
                else .error (q :: rest).length
        | afterName => .error afterName.length

def declarationStandsAlone (body : List Char) : Except Nat Bool := do
  let some version ← scanSetting body | .error body.length
  if version.name ≠ "version" then .error version.nameLeft
  let some second ← scanSetting version.rest | return false
  let last ←
    if second.name = "encoding" then do
      if !second.value.toList.head?.any Char.isAlpha then .error second.valueLeft
      scanSetting second.rest
    else pure (some second)
  let some last := last | return false
  if last.name ≠ "standalone" then .error last.nameLeft
  if last.value ≠ "yes" ∧ last.value ≠ "no" then .error last.valueLeft
  if skipSpace last.rest ≠ [] then .error (skipSpace last.rest).length
  return last.value = "yes"

end ScreenDispatch.Markup
