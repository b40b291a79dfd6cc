import Fleet.Numeral
import Fleet.Address
import Fleet.Template.Element

/-!
# Reading expressions

The inside of a tag. Each reader takes something from the front of a text and gives back the rest;
it fails where the text does not start with what it reads. Between the parts of an expression blank
space does not count, except that a path is in one piece. The number given to a reader bounds how
deeply expressions are nested; the length of the text always suffices.
-/

namespace Fleet.Template.Reader

/-- Whether a character is blank space inside a tag. -/
def isSpace (c : Char) : Bool := c == ' ' || c == '\t' || c == '\n' || c == '\r'

/-- The text without blank space at its front. -/
def skip (cs : List Char) : List Char := cs.dropWhile isSpace

/-- Whether a character can be part of a name. -/
def isNameChar (c : Char) : Bool :=
  c.isAlphanum || c == '-' || c == '_' || c == '$' || c.toNat ≥ 0x80

/-- Takes a fixed text from the front. -/
def expect (token : List Char) (cs : List Char) : Option (List Char) :=
  if token.isPrefixOf cs then some (cs.drop token.length) else none

/-- Takes a name from the front. -/
def name? (cs : List Char) : Option (String × List Char) :=
  match cs.takeWhile isNameChar with
  | [] => none
  | taken => some (String.ofList taken, cs.drop taken.length)

/-- Whether no name goes on here. -/
def endsName (cs : List Char) : Bool := !cs.head?.any isNameChar

/-! ## Literals -/

/-- Four hexadecimal digits. -/
def hex4? (cs : List Char) : Option (Nat × List Char) :=
  if (cs.take 4).length = 4 then
    ((cs.take 4).mapM Address.hexDigit?).map fun ds =>
      (ds.foldl (fun acc d => acc * 16 + d) 0, cs.drop 4)
  else none

/-- What a character after a backslash stands for. -/
def plainEscape? : Char → Option Char
  | '"' => some '"'
  | '\\' => some '\\'
  | '/' => some '/'
  | 'b' => some '\x08'
  | 'f' => some '\x0C'
  | 'n' => some '\n'
  | 'r' => some '\r'
  | 't' => some '\t'
  | _ => none

/-- The characters of a text between quotes. A code of a surrogate needs its second half. -/
def quotedFrom (quote : Char) : Nat → List Char → Option (List Char × List Char)
  | 0, _ => none
  | _ + 1, [] => none
  | room + 1, '\\' :: 'u' :: rest =>
    (hex4? rest).bind fun (code, rest) =>
      if 0xD800 ≤ code ∧ code < 0xDC00 then
        (expect ['\\', 'u'] rest).bind fun rest => (hex4? rest).bind fun (low, rest) =>
          if 0xDC00 ≤ low ∧ low < 0xE000 then
            (quotedFrom quote room rest).map fun (cs, rest) =>
              (Char.ofNat (0x10000 + (code - 0xD800) * 0x400 + (low - 0xDC00)) :: cs, rest)
          else none
      else if 0xDC00 ≤ code ∧ code < 0xE000 then none
      else (quotedFrom quote room rest).map fun (cs, rest) => (Char.ofNat code :: cs, rest)
  | room + 1, '\\' :: c :: rest =>
    (if c = '\'' ∧ quote = '\'' then some '\'' else plainEscape? c).bind fun c =>
      (quotedFrom quote room rest).map fun (cs, rest) => (c :: cs, rest)
  | room + 1, c :: rest =>
    if c = quote then some ([], rest)
    else if c.toNat < 0x20 then none
    else (quotedFrom quote room rest).map fun (cs, rest) => (c :: cs, rest)

/-- A text between quotes of either kind. -/
def quoted? (cs : List Char) : Option (Value × List Char) :=
  match cs with
  | '"' :: rest | '\'' :: rest =>
    (quotedFrom (cs.headD '"') cs.length rest).map fun (taken, rest) =>
      (.text (String.ofList taken), rest)
  | _ => none

/-- The value of a number from its parts, without needless zeros at the end. -/
def decimalValue (negative : Bool) (whole part : List Char) : Option Value :=
  let kept := (part.reverse.dropWhile (· == '0')).reverse
  (Numeral.digits? (whole ++ kept)).map fun n =>
    let m : Int := if negative then -n else n
    if part.isEmpty then .int m else .decimal m kept.length

/-- A number. A zero at its front must be all there is before the point. -/
def number? (cs : List Char) : Option (Value × List Char) :=
  let (negative, body) := match cs with
    | '-' :: rest => (true, rest)
    | _ => (false, cs)
  let whole := body.takeWhile Char.isDigit
  let (part, rest) := match body.drop whole.length with
    | '.' :: rest => (rest.takeWhile Char.isDigit, rest.dropWhile Char.isDigit)
    | rest => ([], rest)
  if whole.isEmpty || (whole.length > 1 && whole.head? == some '0') || !endsName rest then none
  else (decimalValue negative whole part).map fun value => (value, rest)

/-- A word with a value of its own. -/
def word? (word : List Char) (value : Value) (cs : List Char) : Option (Value × List Char) :=
  (expect word cs).bind fun rest => if endsName rest then some (value, rest) else none

/-- A value written out. -/
def literal? (cs : List Char) : Option (Value × List Char) :=
  quoted? cs <|> number? cs <|> word? "null".toList .null cs
    <|> word? "true".toList (.bool true) cs <|> word? "false".toList (.bool false) cs

/-! ## Paths -/

/-- One name of a path: bare, or anything between brackets. -/
def step? (cs : List Char) : Option (String × List Char) :=
  match cs with
  | '[' :: rest =>
    match rest.dropWhile (· != ']') with
    | _ :: after => some (String.ofList (rest.takeWhile (· != ']')), after)
    | [] => none
  | _ => name? cs

/-- Whether a character stands between the names of a path. -/
def isStepSeparator (c : Char) : Bool := c == '.' || c == '/'

/-- The names of a path after the first one. -/
def moreSteps : Nat → List Char → List String × List Char
  | 0, cs => ([], cs)
  | room + 1, c :: rest =>
    if isStepSeparator c then
      match step? rest with
      | some (name, rest) =>
        let (names, rest) := moreSteps room rest
        (name :: names, rest)
      | none => ([], c :: rest)
    else ([], c :: rest)
  | _ + 1, [] => ([], [])

/-- The levels that a path leaves. -/
def levels : List Char → Nat × List Char
  | '.' :: '.' :: c :: rest =>
    if isStepSeparator c then
      let (n, rest) := levels rest
      (n + 1, rest)
    else (0, '.' :: '.' :: c :: rest)
  | cs => (0, cs)

/-- Takes one of two prefixes away that mean the current level. -/
def dropCurrent (cs : List Char) : List Char :=
  match expect "this".toList cs with
  | some (c :: rest) => if isStepSeparator c then rest else cs
  | _ => (expect ['.', '/'] cs).getD cs

/-- Takes the prefix away that means the outermost level. -/
def dropRoot (cs : List Char) : Bool × List Char :=
  match expect "@root".toList cs with
  | some (c :: rest) => if isStepSeparator c then (true, rest) else (false, cs)
  | _ => (false, cs)

/-- A path. The word `this` leads nowhere further. -/
def path? (cs : List Char) : Option (Path × List Char) :=
  let (fromRoot, afterRoot) := dropRoot (dropCurrent cs)
  let (isVariable, afterAt) := match afterRoot with
    | '@' :: rest => (true, rest)
    | rest => (false, rest)
  let (up, start) := levels afterAt
  (step? start).map fun (first, rest) =>
    let (more, rest) := moreSteps rest.length rest
    ({ source := String.ofList (cs.take (cs.length - rest.length)), up, fromRoot, isVariable,
       names := (first :: more).filter (· != "this") }, rest)

/-! ## Expressions -/

/-- Whether a word is kept for other uses and cannot start an argument. -/
def startsKeyword (cs : List Char) : Bool :=
  ["as".toList, "else".toList].any fun word => (expect word cs).any endsName

mutual

def argument? : Nat → List Char → Option (Expr × List Char)
  | 0, _ => none
  | room + 1, cs =>
    if startsKeyword cs then none
    else match literal? cs with
      | some (value, rest) => some (.literal value, rest)
      | none =>
        match path? cs with
        | some (path, rest) => some (.path path, rest)
        | none => subexpression? room cs

/-- A call between parentheses. -/
def subexpression? : Nat → List Char → Option (Expr × List Char)
  | 0, _ => none
  | room + 1, cs => do
    let inside := skip (← expect ['('] cs)
    let called : Option (Expr × List Char) := do
      let (helper, rest) ← name? inside
      let (arguments, named, rest) := arguments room rest
      if arguments.isEmpty && named.isEmpty then none
      else some (.call helper arguments named, rest)
    let (e, rest) ← called <|> (path? inside).map fun (path, rest) =>
      (.call path.source [] [], rest)
    return (e, ← expect [')'] (skip rest))

/-- As many arguments as there are, those under names apart. -/
def arguments : Nat → List Char → List Expr × List (String × Expr) × List Char
  | 0, cs => ([], [], cs)
  | room + 1, cs =>
    let start := skip cs
    let underName : Option (String × Expr × List Char) := do
      let (name, rest) ← name? start
      let rest ← expect ['='] (skip rest)
      let (e, rest) ← argument? room (skip rest)
      return (name, e, rest)
    match underName with
    | some (name, e, rest) =>
      let (es, named, rest) := arguments room rest
      (es, (name, e) :: named, rest)
    | none =>
      match argument? room start with
      | some (e, rest) =>
        let (es, named, rest) := arguments room rest
        (e :: es, named, rest)
      | none => ([], [], cs)

end

/-- What is printed: a helper with arguments, or a value. -/
def expression? (cs : List Char) : Option (Expr × List Char) :=
  let called : Option (Expr × List Char) := do
    let (helper, rest) ← name? cs
    let (arguments, named, rest) := arguments rest.length rest
    if arguments.isEmpty && named.isEmpty then none else some (.call helper arguments named, rest)
  called <|> (subexpression? cs.length cs)
    <|> (path? cs).map fun (path, rest) => (.path path, rest)

/-- The names that a block may give: one or two between bars. -/
def bindings? (cs : List Char) : Option (List String × List Char) := do
  let rest ← expect "as".toList (skip cs)
  let rest ← expect ['|'] (skip rest)
  let (first, rest) ← name? (skip rest)
  match name? (skip rest) with
  | some (second, rest) => return ([first, second], ← expect ['|'] (skip rest))
  | none => return ([first], ← expect ['|'] (skip rest))

/-- The head of a block. -/
def head? (cs : List Char) : Option (Head × List Char) := do
  let (helper, rest) ← name? cs
  let (arguments, named, rest) := arguments rest.length rest
  match bindings? rest with
  | some (bindings, rest) => return ({ helper, arguments, named, bindings }, rest)
  | none => return ({ helper, arguments, named }, rest)

end Fleet.Template.Reader
