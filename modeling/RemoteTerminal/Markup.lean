import RemoteTerminal.Text

/-!
Markup text. `escape` writes a text so that it reads as itself: characters that markup gives a
meaning to become entities, and so does the space that does not break, which would not be seen.
-/
namespace RemoteTerminal.Markup

/-- The entity of a character that markup gives a meaning to. -/
def entity? : Char → Option Text
  | '&' => some "&amp;".toList
  | '<' => some "&lt;".toList
  | '>' => some "&gt;".toList
  | '"' => some "&quot;".toList
  | '\'' => some "&#x27;".toList
  | '/' => some "&#x2f;".toList
  | _ => none

/-- The space that does not break a line. -/
def hardSpace : Char := '\u00a0'

def hardSpaceEntity : Text := "&nbsp;".toList

/-- The text with entities for the characters that have one. -/
def escapeSpecial (t : Text) : Text := t.flatMap fun c => (entity? c).getD [c]

/-- The text as markup that reads as it. -/
def escape (t : Text) : Text := (escapeSpecial t).substitute hardSpace hardSpaceEntity

end RemoteTerminal.Markup
