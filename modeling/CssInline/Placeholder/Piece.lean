import CssInline.Placeholder

/-! Text split at its placeholders. -/

namespace CssInline.Placeholder

inductive Piece where
  | text (value : List Char)
  | hole (id : Nat)
deriving DecidableEq

def Piece.isHole : Piece → Bool
  | .text _ => false
  | .hole _ => true

/-- The text read since the last placeholder, last character first. -/
def flush (pending : List Char) : List Piece :=
  if pending.isEmpty then [] else [.text pending.reverse]

/-- A stem that no number follows is passed over as a whole. -/
def splitFrom (stem : List Char) (count : Nat) : Nat → List Char → List Char → List Piece
  | 0, pending, _ => flush pending
  | _ + 1, pending, [] => flush pending
  | fuel + 1, pending, c :: rest =>
    match take? stem count (c :: rest) with
    | some (id, after) => flush pending ++ .hole id :: splitFrom stem count fuel [] after
    | none =>
      match Text.strip? stem (c :: rest) with
      | some after => splitFrom stem count fuel (stem.reverse ++ pending) after
      | none => splitFrom stem count fuel (c :: pending) rest

/-- The pieces of `text` in order. Without placeholders `text` is one piece, also when it is
empty. -/
def split (stem : List Char) (count : Nat) (text : List Char) : List Piece :=
  if stem.isEmpty then [.text text]
  else
    match splitFrom stem count text.length [] text with
    | [] => [.text []]
    | pieces => pieces

end CssInline.Placeholder
