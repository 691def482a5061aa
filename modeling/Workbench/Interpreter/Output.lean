import Workbench.Text.Lines
import Workbench.Text.Utf8

/-!
# Output of an interpreter

What an interpreter prints goes into a buffer, line by line; both of its channels end in the same
buffer.  The bytes of a channel become lines in one of two ways: a channel that is read while it is
written is cut at its newlines first, and each line is decoded by itself (`lineTexts`); a channel
that is read at its end is decoded first and cut afterwards (`Text.lines`).
-/

namespace Workbench

open Text (Bytes)

inductive Channel where
  | out
  | err
  deriving DecidableEq, Repr

/-! ## buffers -/

structure OutputBuffer where
  text : Text := []
  deriving DecidableEq, Repr

namespace OutputBuffer

/-- adds a line; the channel leaves no trace -/
def print (b : OutputBuffer) (_channel : Channel) (line : Text) : OutputBuffer :=
  ⟨b.text ++ line ++ ['\n']⟩

def isEmpty (b : OutputBuffer) : Bool := b.text.isEmpty

def clear (_ : OutputBuffer) : OutputBuffer := {}

/-- adds lines, each on its channel; it is the same as to print one after another -/
def printAll (b : OutputBuffer) (lines : List (Channel × Text)) : OutputBuffer :=
  ⟨b.text ++ lines.flatMap fun l => l.2 ++ ['\n']⟩

@[simp] theorem printAll_nil (b : OutputBuffer) : b.printAll [] = b := by
  rw [printAll, List.flatMap_nil, List.append_nil]

@[simp] theorem printAll_cons (b : OutputBuffer) (l : Channel × Text)
    (ls : List (Channel × Text)) :
    b.printAll (l :: ls) = (b.print l.1 l.2).printAll ls := by
  simp only [printAll, print, List.flatMap_cons, List.append_assoc]

@[simp] theorem text_print (b : OutputBuffer) (c : Channel) (line : Text) :
    (b.print c line).text = b.text ++ line ++ ['\n'] := rfl

end OutputBuffer

/-! ## lines of bytes -/

/-- the lines of bytes, each with the newline that ends it; only the last can lack one -/
def bytePieces : Bytes → List Bytes
  | [] => []
  | b :: bs =>
    if b = 10 then [b] :: bytePieces bs
    else
      match bytePieces bs with
      | [] => [[b]]
      | p :: ps => (b :: p) :: ps

/-- a line of bytes without its newline and without one carriage return before that -/
def stripEndBytes (p : Bytes) : Bytes :=
  match p.reverse with
  | 10 :: 13 :: r => r.reverse
  | 10 :: r => r.reverse
  | _ => p

/-- the lines of bytes, each decoded by itself -/
def lineTexts (bs : Bytes) : List Text :=
  (bytePieces bs).map fun p => Text.decodeLossy (stripEndBytes p)

end Workbench
