import EditorAssist.Fault
import EditorAssist.Layout.Markup
import EditorAssist.Layout.Row

/-!
# Printouts

What a program prints piece by piece. A piece that cannot be printed ends the printout with a fault;
what was printed before it stays.
-/

namespace EditorAssist.Layout

def Misfit.fault : Misfit → Fault
  | .narrow => .standard "IndexError" (some "list index out of range")
  | .empty => .standard "ZeroDivisionError" (some "division by zero")

def MarkupFault.fault : MarkupFault → Fault
  | .component => .standard "ValueError" (some "invalid literal for int() with base 10: ''")
  | _ => .of .markup

/-- What was printed, and the fault that ended it, if one did. -/
structure Printout where
  text : List Char
  fault : Option Fault

namespace Printout

def empty : Printout := ⟨[], none⟩

/-- Prints one more piece, unless a fault has ended the printout. -/
def print (p : Printout) (piece : Except Fault (List Char)) : Printout :=
  match p.fault, piece with
  | some _, _ => p
  | none, .ok text => { p with text := p.text ++ text }
  | none, .error fault => { p with fault := some fault }

/-- Prints one more text on a page of `width` cells. -/
def printText (p : Printout) (width : Nat) (text : List Char) : Printout :=
  p.print ((printed width text).mapError Misfit.fault)

/-- Prints what remains of a text with markup, unless a style that cannot be read is left in it. -/
def printContent (p : Printout) (width : Nat) (content : Content) : Printout :=
  if content.unreadable.any (isPrinted width content.text) then
    p.print (.error MarkupFault.component.fault)
  else p.printText width content.text

/-- The whole text, or the fault that it ended with. -/
def whole (p : Printout) : Except Fault (List Char) :=
  match p.fault with
  | some fault => .error fault
  | none => .ok p.text

theorem print_of_fault {p : Printout} {fault : Fault} (ended : p.fault = some fault)
    (piece : Except Fault (List Char)) : p.print piece = p := by
  simp [print, ended]

end Printout

end EditorAssist.Layout
