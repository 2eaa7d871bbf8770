import IdentCase.Delimiters

/-!
# Tokens

The pieces of a line become tokens by following double quotes. A piece that starts with a quote
opens a literal, a piece that ends with a quote not written `\"` closes it. What a quote does inside
a piece is not looked at.
-/

set_option autoImplicit false

namespace IdentCase

inductive QuoteState where
  | outside
  | inside
deriving DecidableEq, Repr

inductive QuoteCarry where
  | line
  | file
deriving DecidableEq, Repr

namespace QuoteCarry

def name : QuoteCarry → String
  | line => "line"
  | file => "file"

def ofName? (name : String) : Option QuoteCarry :=
  if name = "line" then some line else if name = "file" then some file else none

def nextLine : QuoteCarry → QuoteState → QuoteState
  | line, _ => .outside
  | file, finish => finish

end QuoteCarry

structure Token where
  start : Nat
  text : Text
  quoted : Bool
deriving DecidableEq, Repr

namespace Token

def closesQuote (text : Text) : Bool :=
  match text.reverse with
  | '"' :: '\\' :: _ => false
  | '"' :: _ => true
  | _ => false

def ofPiece (state : QuoteState) (start : Nat) (piece : Text) : Token × QuoteState :=
  match state, piece with
  | .outside, '"' :: text =>
    (⟨start + 1, text, true⟩, if closesQuote text then .outside else .inside)
  | .outside, text => (⟨start, text, false⟩, .outside)
  | .inside, text => (⟨start, text, true⟩, if closesQuote text then .outside else .inside)

def ofPieces (state : QuoteState) : List (Nat × Text) → List Token × QuoteState
  | [] => ([], state)
  | (start, piece) :: rest =>
    let (token, next) := ofPiece state start piece
    let (tokens, finish) := ofPieces next rest
    (token :: tokens, finish)

def ofLine (d : Delimiters) (state : QuoteState) (line : Text) : List Token × QuoteState :=
  ofPieces state (d.split line)

def ofLines (d : Delimiters) (carry : QuoteCarry) (state : QuoteState) :
    List Text → List (List Token × QuoteState)
  | [] => []
  | line :: rest =>
    let scanned := ofLine d state line
    scanned :: ofLines d carry (carry.nextLine scanned.2) rest

end Token

end IdentCase
