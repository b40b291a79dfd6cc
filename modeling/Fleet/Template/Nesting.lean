import Fleet.Template.Layout

/-!
# From pieces to elements

A block reaches from the tag that starts it to the one that ends it; both give the name of its
helper. In between there may be one `else`. A source in which this does not work out is no template.
-/

namespace Fleet.Template

/-- How a list of elements ended. -/
inductive Stop where
  /-- With the source. -/
  | atEnd
  /-- With an `else`. -/
  | atInverse
  /-- With the end of a block. -/
  | atClosing (name : String)
  deriving Repr, DecidableEq

/-- Reads elements until something ends them: the elements, what ended them, and the pieces behind
it. Each element takes at least one piece, so the number of pieces is turns enough. -/
def nest : Nat → List Piece → Option (List Element × Stop × List Piece)
  | _, [] => some ([], .atEnd, [])
  | 0, _ :: _ => none
  | turns + 1, piece :: rest =>
    let before (e : Element) : Option (List Element × Stop × List Piece) :=
      (nest turns rest).map fun (es, stop, rest) => (e :: es, stop, rest)
    match piece with
    | .text cs => before (.text cs)
    | .tag (.print e) _ => before (.print e)
    | .tag .comment _ => nest turns rest
    | .tag (.inclusion name) _ => before (.inclusion name)
    | .tag .inverse _ => some ([], .atInverse, rest)
    | .tag (.closing name) _ => some ([], .atClosing name, rest)
    | .tag (.rawClosing name) _ => some ([], .atClosing name, rest)
    | .tag (.opening head) _ | .tag (.rawOpening head) _ => do
      let (body, stop, rest) ← nest turns rest
      let (inverse, stop, rest) ← match stop with
        | .atInverse => do
          let (inverse, stop, rest) ← nest turns rest
          pure (some inverse, stop, rest)
        | stop => pure (none, stop, rest)
      if stop = .atClosing head.helper then
        let (es, stop, rest) ← nest turns rest
        return (.block head body inverse :: es, stop, rest)
      else none

/-- The elements of a source; none if it is no template. -/
def elements? (source : List Char) : Option (List Element) := do
  let pieces ← Layout.pieces? source
  match ← nest pieces.length (Layout.settle {} pieces) with
  | (es, .atEnd, _) => return es
  | _ => none

end Fleet.Template
