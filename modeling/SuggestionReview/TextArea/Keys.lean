import SuggestionReview.Keys.Basic
import SuggestionReview.TextArea.Basic

namespace SuggestionReview.EditCommand

def ofControl (shift : Bool) : KeyCode → Option EditCommand
  | .char 'm' => some .newline
  | .char 'h' => some .deleteBack
  | .char 'd' => some .deleteForward
  | .char 'k' => some .deleteToEnd
  | .char 'j' => some .deleteToStart
  | .char 'w' => some .deleteWordBack
  | .char 'n' => some (.move .down shift)
  | .char 'p' => some (.move .up shift)
  | .char 'f' => some (.move .forward shift)
  | .char 'b' => some (.move .back shift)
  | .char 'a' => some (.move .lineStart shift)
  | .char 'e' => some (.move .lineEnd shift)
  | .right => some (.move .wordForward shift)
  | .left => some (.move .wordBack shift)
  | .down => some (.move .paragraphForward shift)
  | .up => some (.move .paragraphBack shift)
  | .char 'u' => some .undo
  | .char 'r' => some .redo
  | .char 'y' => some .paste
  | .char 'x' => some .cut
  | .char 'c' => some .copy
  | .char 'v' => some (.pageDown shift)
  | _ => none

def ofAlt (shift : Bool) : KeyCode → Option EditCommand
  | .char 'h' | .backspace => some .deleteWordBack
  | .char 'd' | .delete => some .deleteWordForward
  | .char '<' => some (.move .top shift)
  | .char '>' => some (.move .bottom shift)
  | .char 'f' => some (.move .wordForward shift)
  | .char 'b' => some (.move .wordBack shift)
  | .char ']' | .char 'n' => some (.move .paragraphForward shift)
  | .char '[' | .char 'p' => some (.move .paragraphBack shift)
  | .char 'v' => some (.pageUp shift)
  | _ => none

def ofControlAlt (shift : Bool) : KeyCode → Option EditCommand
  | .left | .char 'b' => some (.move .lineStart shift)
  | .right | .char 'f' => some (.move .lineEnd shift)
  | .up | .char 'p' => some (.move .top shift)
  | .down | .char 'n' => some (.move .bottom shift)
  | _ => none

def ofPlain (shift : Bool) : KeyCode → Option EditCommand
  | .char c => some (if c = '\n' || c = '\r' then .newline else .insert c)
  | .tab => some .tab
  | .backspace => some .deleteBack
  | .delete => some .deleteForward
  | .down => some (.move .down shift)
  | .up => some (.move .up shift)
  | .right => some (.move .forward shift)
  | .left => some (.move .back shift)
  | _ => none

/-- The command of a key. Some keys do the same whatever is held down with them. -/
def ofKey? (e : KeyEvent) : Option EditCommand :=
  let shift := e.modifiers.shift
  if e.kind = .release then none
  else
    match e.code with
    | .enter => some .newline
    | .home => some (.move .lineStart shift)
    | .last => some (.move .lineEnd shift)
    | .pageDown => some (.pageDown shift)
    | .pageUp => some (.pageUp shift)
    | code =>
      match e.modifiers.control, e.modifiers.alt with
      | false, false => ofPlain shift code
      | true, false => ofControl shift code
      | false, true => ofAlt shift code
      | true, true => ofControlAlt shift code

end SuggestionReview.EditCommand

namespace SuggestionReview.TextArea

def key (t : TextArea) (e : KeyEvent) : TextArea × Bool :=
  match EditCommand.ofKey? e with
  | some c => t.run c
  | none => (t, false)

end SuggestionReview.TextArea
