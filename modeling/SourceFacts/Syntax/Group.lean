import SourceFacts.Syntax.Token
import SourceFacts.Syntax.Tree

/-!
Tokens grouped by brackets. A group holds what stands between an opening bracket and its closing
one, so a reader of declarations steps over a whole group at once.
-/
namespace SourceFacts.Syntax

/-- A token, or a bracketed group of them. A group is known by its opening bracket. -/
inductive Piece where
  | leaf (token : Token)
  | group (bracket : Char) (start stop : Nat) (inner : List Piece)
  deriving Inhabited

namespace Piece

/-- The offset of the first byte. -/
def start : Piece → Nat
  | leaf token => token.start
  | group _ start _ _ => start

/-- The offset behind the last byte. -/
def stop : Piece → Nat
  | leaf token => token.stop
  | group _ _ stop _ => stop

/-- The text of a name or keyword. -/
def word? : Piece → Option String
  | leaf token => if token.kind = .word then some token.text else none
  | group .. => none

/-- Whether this is a given keyword. -/
def isWord (piece : Piece) (text : String) : Bool :=
  match piece with
  | leaf token => token.isWord text
  | group .. => false

/-- Whether this is a given mark. -/
def isMark (piece : Piece) (text : String) : Bool :=
  match piece with
  | leaf token => token.isMark text
  | group .. => false

/-- The contents of a group with a given opening bracket. -/
def inner? (piece : Piece) (bracket : Char) : Option (List Piece) :=
  match piece with
  | group found _ _ inner => if found = bracket then some inner else none
  | leaf _ => none

/-- Whether this is a group with a given opening bracket. -/
def isGroup (piece : Piece) (bracket : Char) : Bool :=
  (piece.inner? bracket).isSome

/-- A node without others below it that takes up a piece. -/
def leafNode (kind : String) (piece : Piece) : Branch :=
  .grow kind piece.start piece.stop []

/-- A node over a stretch of pieces, with some branches below it; there is none over no pieces. -/
def spanning (kind : String) (pieces : List Piece) (branches : List Branch) : List Branch :=
  match pieces.head?, pieces.getLast? with
  | some first, some last => [.grow kind first.start last.stop branches]
  | _, _ => []

/-- The pieces in front of some that are left of them. -/
def before (pieces rest : List Piece) : List Piece :=
  pieces.take (pieces.length - rest.length)

/-- The opening bracket that a token is. -/
def opening? (token : Token) : Option Char :=
  if token.isMark "(" then some '('
  else if token.isMark "[" then some '['
  else if token.isMark "\x7b" then some '\x7b'
  else none

def isClosing (token : Token) : Bool :=
  token.isMark ")" || token.isMark "]" || token.isMark "\x7d"

/-- An open group: its bracket, where it starts, and what came before it on its level, last piece
first. -/
structure Open where
  bracket : Char
  start : Nat
  before : List Piece

/-- Closes the groups that are open where the text ends. `level` holds the pieces of the innermost one,
last first. -/
def closeAll (last : Nat) : List Open → List Piece → List Piece
  | [], level => level.reverse
  | outer :: outers, level =>
    closeAll last outers (group outer.bracket outer.start last level.reverse :: outer.before)

/-- Puts tokens into groups. `level` holds the pieces of the innermost open group, last first.
Groups that are never closed end with the text; a closing bracket without a group is dropped. -/
def collect : List Open → List Piece → Nat → List Token → List Piece
  | opens, level, last, [] => closeAll last opens level
  | opens, level, _, token :: rest =>
    match opening? token with
    | some bracket => collect (⟨bracket, token.start, level⟩ :: opens) [] token.stop rest
    | none =>
      if isClosing token then
        match opens with
        | outer :: outers =>
          collect outers
            (group outer.bracket outer.start token.stop level.reverse :: outer.before)
            token.stop rest
        | [] => collect [] level token.stop rest
      else collect opens (leaf token :: level) token.stop rest

/-- The pieces of a whole text. -/
def ofTokens (tokens : List Token) : List Piece :=
  collect [] [] 0 tokens

end Piece

end SourceFacts.Syntax
