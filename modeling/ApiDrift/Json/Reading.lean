import ApiDrift.Json.Token

/-!
# Reading JSON

Tokens are put together with a stack of the arrays and objects that are still open. Where the tokens cannot go on, or end too early, everything that is open is closed around a cut. A document may be nested as deeply as it likes.
-/

namespace ApiDrift.Json

/-- An array or an object around the value that is read; what stands before that value, last first. -/
inductive Frame
  | item (before : List Json)
  | member (before : List (Option String × Json)) (key : Option String)

namespace Frame

/-- The array or object with one more value in it and nothing behind that value. -/
def around (frame : Frame) (value : Json) : Json :=
  match frame with
  | item before => list (value :: before).reverse
  | member before key => object (.behind ((key, value) :: before) .done)

/-- The array or object, cut behind one more value. -/
def cutAfter (frame : Frame) (value : Json) (fault : Fault) : Json :=
  match frame with
  | item before => array (.ofList (value :: before).reverse (.cut fault))
  | member before key => object (.behind ((key, value) :: before) (.cut fault))

end Frame

/-- A tree, and whether anything follows it. -/
structure Document where
  root : Json
  trailing : Bool := false

/-- Closes all that is open around a value that is cut. -/
def abandon (stack : List Frame) (value : Json) : Document :=
  ⟨stack.foldl (fun value frame => frame.around value) value, false⟩

/-- What the next token has to be. -/
inductive Place
  | value
  | firstItem
  | firstKey
  | nextKey (before : List (Option String × Json))
  | colon (before : List (Option String × Json)) (key : Option String)
  | after (value : Json)

/-- Takes the first token of a value. -/
def beginValue (stack : List Frame) : Token → Except Document (Place × List Frame)
  | .arrayStart => .ok (.firstItem, stack)
  | .objectStart => .ok (.firstKey, stack)
  | .scalar (.cut fault) => .error (abandon stack (.cut fault))
  | .scalar value => .ok (.after value, stack)
  | _ => .error (abandon stack (.cut .malformed))

/-- Why a token is no key: a text that ends too early might have become one. -/
def keyFault : Token → Fault
  | .scalar (.cut .unfinished) => .unfinished
  | .scalar (.cut .unfinishedUnpaired) => .unfinishedUnpaired
  | _ => .malformed

/-- Takes the token behind a value that is complete. -/
def follow (stack : List Frame) (value : Json) (token : Token) :
    Except Document (Place × List Frame) :=
  match stack with
  | [] => .error ⟨value, true⟩
  | frame :: outer =>
    match frame, token with
    | .item before, .comma => .ok (.value, .item (value :: before) :: outer)
    | .item before, .arrayEnd => .ok (.after (list (value :: before).reverse), outer)
    | .member before key, .comma => .ok (.nextKey ((key, value) :: before), outer)
    | .member before key, .objectEnd =>
      .ok (.after (object (.behind ((key, value) :: before) .done)), outer)
    | frame, _ => .error (abandon outer (frame.cutAfter value .malformed))

/-- Takes one token. -/
def step (place : Place) (stack : List Frame) (token : Token) :
    Except Document (Place × List Frame) :=
  match place, token with
  | .value, token => beginValue stack token
  | .firstItem, .arrayEnd => .ok (.after (array .done), stack)
  | .firstItem, token => beginValue (.item [] :: stack) token
  | .firstKey, .objectEnd => .ok (.after (object .done), stack)
  | .firstKey, .scalar (.text key) => .ok (.colon [] (some key), stack)
  | .firstKey, .scalar .unpaired => .ok (.colon [] none, stack)
  | .firstKey, token => .error (abandon stack (object (.cut (keyFault token))))
  | .nextKey before, .scalar (.text key) => .ok (.colon before (some key), stack)
  | .nextKey before, .scalar .unpaired => .ok (.colon before none, stack)
  | .nextKey before, token =>
    .error (abandon stack (object (.behind before (.comma (keyFault token)))))
  | .colon before key, .colon => .ok (.value, .member before key :: stack)
  | .colon before key, _ => .error (abandon (.member before key :: stack) (.cut .malformed))
  | .after value, token => follow stack value token

/-- The tokens have come to their end. -/
def finish (place : Place) (stack : List Frame) : Document :=
  match place, stack with
  | .value, stack => abandon stack (.cut .unfinished)
  | .firstItem, stack => abandon stack (array (.cut .unfinished))
  | .firstKey, stack => abandon stack (object (.cut .unfinished))
  | .nextKey before, stack => abandon stack (object (.behind before (.comma .unfinished)))
  | .colon before key, stack => abandon (.member before key :: stack) (.cut .unfinished)
  | .after value, [] => ⟨value, false⟩
  | .after value, frame :: outer => abandon outer (frame.cutAfter value .unfinished)

def assemble (place : Place) (stack : List Frame) : List Token → Document
  | [] => finish place stack
  | token :: tokens =>
    match step place stack token with
    | .ok (place, stack) => assemble place stack tokens
    | .error document => document

/-- Reads a JSON text. -/
def read (text : List Char) : Document := assemble .value [] (Token.all text)

end ApiDrift.Json
