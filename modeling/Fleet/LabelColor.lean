import Fleet.Host

/-!
# Coloured labels

A label may be wrapped in the control sequences of a colour. Colours come as shares of red, green
and blue; a terminal that knows only sixteen colours gets the nearest of those.

A run whose labels are coloured draws a `Palette`, with a colour for each place among its hosts.
Palettes are drawn by chance, and each run draws its own; here they are given.
-/

namespace Fleet

/-- How much of colours a terminal knows. -/
inductive ColorDepth where
  /-- Nothing. -/
  | plain
  /-- Sixteen fixed colours. -/
  | sixteen
  | full
  deriving Repr, DecidableEq

/-- A colour, with parts from 0 to 255. -/
structure Color where
  red : UInt8
  green : UInt8
  blue : UInt8
  deriving Repr, DecidableEq

namespace Color

/-- A share of a colour as a number from 0 to 255. What is out of range is cut off. -/
def part (share : Float32) : UInt8 := (share * 255).toUInt8

/-- The colour of three shares. -/
def ofShares (red green blue : Float32) : Color := ⟨part red, part green, part blue⟩

/-- The square of the distance between two numbers. -/
def gap (a b : UInt8) : Nat :=
  let apart := a.toNat - b.toNat + (b.toNat - a.toNat)
  apart * apart

/-- The square of the distance between two colours. -/
def distance (a b : Color) : Nat :=
  gap a.red b.red + gap a.green b.green + gap a.blue b.blue

/-- The sixteen fixed colours, each with the code that selects it. -/
def fixed : List (Nat × Color) :=
  [(30, ⟨0, 0, 0⟩), (31, ⟨205, 0, 0⟩), (32, ⟨0, 205, 0⟩), (33, ⟨205, 205, 0⟩),
    (34, ⟨0, 0, 238⟩), (35, ⟨205, 0, 205⟩), (36, ⟨0, 205, 205⟩), (37, ⟨229, 229, 229⟩),
    (90, ⟨127, 127, 127⟩), (91, ⟨255, 0, 0⟩), (92, ⟨0, 255, 0⟩), (93, ⟨255, 255, 0⟩),
    (94, ⟨92, 92, 255⟩), (95, ⟨255, 0, 255⟩), (96, ⟨0, 255, 255⟩), (97, ⟨255, 255, 255⟩)]

/-- The code of the nearest fixed colour, the first of several. -/
def nearest (color : Color) : Nat :=
  (fixed.foldl (fun (best : Nat × Nat) (code, other) =>
    let d := distance color other
    if d < best.2 then (code, d) else best) (30, distance color ⟨0, 0, 0⟩)).1

/-- The codes that select a colour. -/
def selector (color : Color) : ColorDepth → String
  | .plain => ""
  | .sixteen => toString (nearest color)
  | .full =>
    "38;2;" ++ toString color.red.toNat ++ ";" ++ toString color.green.toNat ++ ";"
      ++ toString color.blue.toNat

/-- The control sequence of some codes. -/
def control (codes : String) : String := "\x1b[" ++ codes ++ "m"

/-- Puts something behind each occurrence of a mark of at least two characters. Of an occurrence
under way, some characters are still to come; no other begins among them. -/
def followUp (mark more : List Char) : Nat → List Char → List Char
  | _, [] => []
  | left + 1, c :: rest => c :: ((if left = 0 then more else []) ++ followUp mark more left rest)
  | 0, c :: rest =>
    if mark.isPrefixOf (c :: rest) then c :: followUp mark more (mark.length - 1) rest
    else c :: followUp mark more 0 rest

/-- A text in a colour. Where the text itself goes back to no colour, the colour is chosen again. -/
def paint (color : Color) (depth : ColorDepth) (text : String) : String :=
  match depth with
  | .plain => text
  | _ =>
    let select := control (color.selector depth)
    let reset := control "0"
    select ++ String.ofList (followUp reset.toList select.toList 0 text.toList) ++ reset

end Color

/-- The label of a host in a colour. -/
def Host.paintedLabel (host : Host) (color : Color) (depth : ColorDepth) : String :=
  color.paint depth host.label

/-- The colours of the labels of a run. -/
structure Palette where
  /-- The colour of each place in the target list. -/
  color : Nat → Color
  /-- How much of the colours is shown. -/
  depth : ColorDepth

namespace Palette

/-- A palette of which nothing is shown. -/
def off : Palette := ⟨fun _ => ⟨0, 0, 0⟩, .plain⟩

/-- The label of a host in its place: in the colour of the place, where there are colours. -/
def label (palette : Option Palette) (rank : Nat) (host : Host) : String :=
  match palette with
  | none => host.label
  | some palette => host.paintedLabel (palette.color rank) palette.depth

end Palette

end Fleet
