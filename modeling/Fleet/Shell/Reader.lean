import Fleet.Shell.Lexer

/-!
# Reading shell commands

The tokens of a text become commands by recursive descent. A text is read line by line: what comes
before a fault is still carried out, as long as it stands on earlier lines.

Every function takes a bound on how deep it goes; the number of tokens is always enough for it.
-/

namespace Fleet.Shell

/-- The name of an operator in a fault. -/
def Operator.name : Operator → String
  | semicolon => "\";\""
  | doubleSemicolon => "\";;\""
  | ampersand => "\"&\""
  | doubleAmpersand => "\"&&\""
  | bar => "\"|\""
  | doubleBar => "\"||\""
  | openParenthesis => "\"(\""
  | closeParenthesis => "\")\""

namespace Reader

/-- Words with a meaning of their own where a command may begin. -/
def reserved : List String :=
  ["!", "\x7b", "\x7d", "if", "then", "elif", "else", "fi", "while", "until", "for", "do", "done",
    "in"]

/-- The word with a meaning of its own that a token is. -/
def reservedWord? (token : Token) : Option String :=
  match token.kind with
  | .word word => word.plain?.bind fun text => reserved.find? fun r => text == r.toList
  | _ => none

/-- The name of a token in a fault. -/
def tokenName (token : Token) : String :=
  match token.kind with
  | .word _ =>
    match reservedWord? token with
    | some r => "\"" ++ r ++ "\""
    | none => "word"
  | .operator operator => operator.name
  | .redirection _ _ => "redirection"
  | .newline => "newline"
  | .finish => "end of file"
  | .fault reason => reason

/-- The fault of meeting a token where it cannot be. -/
def unexpected (token : Token) (expecting : Option String) : Fault :=
  match token.kind with
  | .fault reason => ⟨token.line, reason⟩
  | _ =>
    ⟨token.line, tokenName token ++ " unexpected" ++ match expecting with
      | some name => " (expecting \"" ++ name ++ "\")"
      | none => ""⟩

/-- The fault of meeting what stands at the front of some tokens. -/
def refuse (tokens : List Token) (expecting : Option String) : Except Fault α :=
  match tokens with
  | token :: _ => .error (unexpected token expecting)
  | [] => .error ⟨1, "end of file unexpected"⟩

/-- The tokens without newlines at the front. -/
def skipNewlines (tokens : List Token) : List Token := tokens.dropWhile fun t => t.kind == .newline

/-- Whether a word with a meaning of its own stands at the front. -/
def isAt (word : String) (tokens : List Token) : Bool :=
  match tokens with
  | token :: _ => reservedWord? token == some word
  | [] => false

/-- Reads a word that has to stand at the front, newlines aside. -/
def expect (word : String) (tokens : List Token) : Except Fault (List Token) :=
  let tokens := skipNewlines tokens
  if isAt word tokens then .ok tokens.tail else refuse tokens (some word)

/-- Whether a list of commands ends at the front of some tokens. Where a list goes over several
lines, newlines have been skipped. -/
def endsList (tokens : List Token) : Bool :=
  match tokens with
  | [] => true
  | token :: _ =>
    match token.kind with
    | .finish | .newline | .operator .closeParenthesis | .operator .doubleSemicolon => true
    | _ => ["\x7d", "then", "elif", "else", "fi", "do", "done"].any fun word => isAt word tokens

/-- Splits an assignment into the name and the value. -/
def assignment? : Word → Option (Text × Word)
  | .literal text false :: rest =>
    let name := text.takeWhile Lexer.isNameChar
    match text.drop name.length with
    | '=' :: value =>
      if name.head?.any Lexer.beginsName then
        some (name, if value.isEmpty then rest else .literal value false :: rest)
      else none
    | _ => none
  | _ => none

/-- Reads redirections. -/
def redirections : List Token → Except Fault (List Redirection × List Token)
  | ⟨_, .redirection descriptor direction⟩ :: ⟨_, .word target⟩ :: rest => do
    let (more, rest) ← redirections rest
    return (⟨descriptor, direction, target⟩ :: more, rest)
  | ⟨_, .redirection _ _⟩ :: rest => refuse rest none
  | tokens => .ok ([], tokens)

/-- The parts of a simple command: assignments, words and redirections. -/
structure Parts where
  /-- Assignments in front of the first word. -/
  assignments : List (Text × Word) := []
  words : List Word := []
  redirections : List Redirection := []

/-- Reads the parts of a simple command. -/
def parts (before : Parts) : List Token → Except Fault (Parts × List Token)
  | ⟨_, .redirection descriptor direction⟩ :: ⟨_, .word target⟩ :: rest =>
    parts { before with
      redirections := before.redirections ++ [⟨descriptor, direction, target⟩] } rest
  | ⟨_, .redirection _ _⟩ :: rest => refuse rest none
  | ⟨_, .word word⟩ :: rest =>
    match if before.words.isEmpty then assignment? word else none with
    | some assigned =>
      parts { before with assignments := before.assignments ++ [assigned] } rest
    | none =>
      match rest with
      | ⟨_, .operator .openParenthesis⟩ :: _ => refuse rest none
      | _ => parts { before with words := before.words ++ [word] } rest
  | tokens => .ok (before, tokens)

/-- Reads the words that a loop runs over, up to the end of the list. -/
def items : List Token → Except Fault (List Word × List Token)
  | ⟨_, .word word⟩ :: rest => do
    let (more, rest) ← items rest
    return (word :: more, rest)
  | ⟨_, .newline⟩ :: rest | ⟨_, .operator .semicolon⟩ :: rest => .ok ([], rest)
  | tokens => refuse tokens none

/-- A command behind another that may be nothing. -/
def join (first second : Command) : Command :=
  match second with
  | .nothing => first
  | _ => .sequence first second

/-- Reads redirections behind a command, if there are any. -/
def withRedirections (line : Nat) (command : Command) (tokens : List Token) :
    Except Fault (Command × List Token) := do
  match ← redirections tokens with
  | ([], rest) => return (command, rest)
  | (found, rest) => return (.redirected line command found, rest)

mutual

/-- Reads a list of commands, over several lines or up to the end of one. -/
def list (overLines : Bool) : Nat → List Token → Except Fault (Command × List Token)
  | 0, tokens => refuse tokens none
  | depth + 1, tokens =>
    let tokens := if overLines then skipNewlines tokens else tokens
    if endsList tokens then .ok (.nothing, tokens)
    else do
      let (first, rest) ← conditional depth tokens
      match rest with
      | ⟨_, .operator .semicolon⟩ :: rest =>
        let (more, rest) ← list overLines depth rest
        return (join first more, rest)
      | ⟨_, .operator .ampersand⟩ :: rest =>
        let (more, rest) ← list overLines depth rest
        return (join (.background first) more, rest)
      | ⟨_, .newline⟩ :: more =>
        if overLines then
          let (more, rest) ← list overLines depth more
          return (join first more, rest)
        else return (first, rest)
      | _ => return (first, rest)

/-- Reads commands that depend on how those before them end. -/
def conditional : Nat → List Token → Except Fault (Command × List Token)
  | 0, tokens => refuse tokens none
  | depth + 1, tokens => do
    let (first, rest) ← pipeline depth tokens
    conditionalRest depth first rest

/-- Reads on behind a command that others may depend on. -/
def conditionalRest : Nat → Command → List Token → Except Fault (Command × List Token)
  | 0, _, tokens => refuse tokens none
  | depth + 1, first, tokens =>
    match tokens with
    | ⟨_, .operator .doubleAmpersand⟩ :: rest => do
      let (second, rest) ← pipeline depth (skipNewlines rest)
      conditionalRest depth (.both first second) rest
    | ⟨_, .operator .doubleBar⟩ :: rest => do
      let (second, rest) ← pipeline depth (skipNewlines rest)
      conditionalRest depth (.either first second) rest
    | _ => .ok (first, tokens)

/-- Reads commands that read what those before them write. -/
def pipeline : Nat → List Token → Except Fault (Command × List Token)
  | 0, tokens => refuse tokens none
  | depth + 1, tokens =>
    if isAt "!" tokens then do
      let (command, rest) ← pipeline depth tokens.tail
      return (.negate command, rest)
    else do
      let (first, rest) ← command depth tokens
      match rest with
      | ⟨_, .operator .bar⟩ :: rest =>
        let (second, rest) ← pipeline depth (skipNewlines rest)
        return (.pipe first second, rest)
      | _ => return (first, rest)

/-- Reads one command. -/
def command : Nat → List Token → Except Fault (Command × List Token)
  | 0, tokens => refuse tokens none
  | depth + 1, tokens =>
    match tokens with
    | ⟨line, .operator .openParenthesis⟩ :: rest => do
      match ← list true depth rest with
      | (body, ⟨_, .operator .closeParenthesis⟩ :: rest) =>
        withRedirections line (.subshell body) rest
      | (_, rest) => refuse rest (some ")")
    | token :: rest =>
      match reservedWord? token with
      | some "\x7b" => do
        let (body, rest) ← list true depth rest
        withRedirections token.line body (← expect "\x7d" rest)
      | some "if" => do
        let (body, rest) ← branches depth rest
        withRedirections token.line body rest
      | some "while" => do
        let (body, rest) ← loop false depth rest
        withRedirections token.line body rest
      | some "until" => do
        let (body, rest) ← loop true depth rest
        withRedirections token.line body rest
      | some "for" => do
        let (body, rest) ← each depth rest
        withRedirections token.line body rest
      | some "in" | none =>
        match token.kind with
        | .word _ | .redirection _ _ => do
          let (found, rest) ← parts {} tokens
          return (.simple token.line found.assignments found.words found.redirections, rest)
        | _ => refuse tokens none
      | some _ => refuse tokens none
    | [] => refuse tokens none

/-- Reads a condition, behind the word that begins it. -/
def branches : Nat → List Token → Except Fault (Command × List Token)
  | 0, tokens => refuse tokens none
  | depth + 1, tokens => do
    let (condition, rest) ← list true depth tokens
    let (yes, rest) ← list true depth (← expect "then" rest)
    if isAt "elif" rest then
      let (no, rest) ← branches depth rest.tail
      return (.branch condition yes no, rest)
    else if isAt "else" rest then
      let (no, rest) ← list true depth rest.tail
      return (.branch condition yes no, ← expect "fi" rest)
    else return (.branch condition yes .nothing, ← expect "fi" rest)

/-- Reads a loop with a condition, behind the word that begins it. -/
def loop (untilTrue : Bool) : Nat → List Token → Except Fault (Command × List Token)
  | 0, tokens => refuse tokens none
  | depth + 1, tokens => do
    let (condition, rest) ← list true depth tokens
    let (body, rest) ← list true depth (← expect "do" rest)
    return (.loop untilTrue condition body, ← expect "done" rest)

/-- Reads a loop over words, behind the word that begins it. -/
def each : Nat → List Token → Except Fault (Command × List Token)
  | 0, tokens => refuse tokens none
  | depth + 1, tokens =>
    match tokens with
    | ⟨line, .word word⟩ :: rest =>
      match word.plain? with
      | some name =>
        if name.head?.any Lexer.beginsName && name.all Lexer.isNameChar then do
          let rest := skipNewlines rest
          let (found, rest) ←
            if isAt "in" rest then (items rest.tail).map fun (found, rest) => (some found, rest)
            else match rest with
              | ⟨_, .operator .semicolon⟩ :: rest => .ok (none, rest)
              | _ => .ok (none, rest)
          let (body, rest) ← list true depth (← expect "do" rest)
          return (.each name found body, ← expect "done" rest)
        else .error ⟨line, "Bad for loop variable"⟩
      | none => .error ⟨line, "Bad for loop variable"⟩
    | ⟨line, _⟩ :: _ => .error ⟨line, "Bad for loop variable"⟩
    | [] => refuse tokens none

end

/-- Reads the commands of a text, line by line. -/
def script : Nat → List Token → Script
  | 0, _ => ⟨[], none⟩
  | lines + 1, tokens =>
    match skipNewlines tokens with
    | [] | ⟨_, .finish⟩ :: _ => ⟨[], none⟩
    | tokens =>
      match list false (8 * tokens.length + 8) tokens with
      | .error fault => ⟨[], some fault⟩
      | .ok (command, rest) =>
        match rest with
        | ⟨_, .newline⟩ :: rest =>
          let more := script lines rest
          ⟨command :: more.commands, more.fault⟩
        | [] | ⟨_, .finish⟩ :: _ => ⟨[command], none⟩
        | token :: _ => ⟨[], some (unexpected token none)⟩

/-- Reads a text. -/
def read (text : Text) : Script :=
  let tokens := Lexer.run text
  script (tokens.length + 1) tokens

end Reader

end Fleet.Shell
