import KeywordQuery.Literal.Value
import KeywordQuery.Text.Blank
import KeywordQuery.Text.WordChar

/-!
# Handlers in tags

A handler is a name with arguments in round brackets, or a literal alone.  The arguments are a
literal too.  What a handler does has no effect on what is printed; only its notation is checked.

* `handlerLiteral` — the literal of a handler;
* `checkHandler` — the fault of a handler.
-/

namespace KeywordQuery.Layout

open Literal (LiteralFault)

/-- What is wrong with a handler: its characters, the literal in it, and the fault of that. -/
structure HandlerFault where
  handler : String
  argument : String
  cause : LiteralFault
  deriving Repr, DecidableEq

/-- The message that describes a fault. -/
def HandlerFault.message (fault : HandlerFault) : String :=
  "error parsing " ++ (match fault.cause with
    | .syntactic _ => Text.quote fault.argument ++ " in " ++ Text.quote fault.handler
    | _ => Text.quote fault.handler) ++ "; " ++ fault.cause.message

/-- The literal of a handler without blanks around it: the brackets after a name with what is in
them, if all is on one line; empty brackets for a name alone; else all characters. -/
def handlerLiteral (cs : List Char) : List Char :=
  match cs.dropWhile fun c => Text.isWordChar c || c == '.' with
  | [] => ['(', ')']
  | '(' :: rest =>
    if rest.getLast? = some ')' && !rest.contains '\n' then '(' :: rest else cs
  | _ => cs

/-- Checks what follows the equals sign of a handler. -/
def checkHandler (cs : List Char) : Except HandlerFault Unit :=
  if cs.isEmpty then .ok ()
  else
    let argument := handlerLiteral (Text.trim cs)
    (Literal.checkChars argument).mapError (⟨String.ofList cs, String.ofList argument, ·⟩)

end KeywordQuery.Layout
