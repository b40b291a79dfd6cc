import Fleet.Copy.Listing
import Fleet.Proofs.Launching

/-!
# Quoted words

A command for another machine is text that a shell splits into words. A text that is to arrive as
one word is put between single quotes, and each quote of its own is taken out of them, escaped, and
the quotes opened again. Splitting is a walk with a state (`ShellWords.State`), so what a text does
to what comes behind it is the state in which it leaves the walk (`State.after`) and the word that
it leaves unfinished (`splitFrom_append`).

**The law** (`ShellWords.quoted_word`): a quoted text is split into that text, as one word, whatever
it holds. In a larger command, between blanks, it is a word of its own if and only if what is before
it leaves nothing open; and the command that starts the receiving side of a copy has the destination
as its last word, as it stands.
-/

namespace Fleet

namespace ShellWords

/-! ## What a text leaves behind -/

/-- What encloses the character behind one. -/
def State.next : State → Char → State
  | .between, c =>
    if c = '\'' then .single else if c = '"' then .double
    else if c = '\\' then .escapedBetween else if isSeparator c then .between
    else if c = '#' then .comment else .bare
  | .escapedBetween, c => if c = '\n' then .between else .bare
  | .bare, c =>
    if c = '\'' then .single else if c = '"' then .double
    else if c = '\\' then .escapedBare else if isSeparator c then .between else .bare
  | .escapedBare, _ => .bare
  | .single, c => if c = '\'' then .bare else .single
  | .double, c => if c = '"' then .bare else if c = '\\' then .escapedDouble else .double
  | .escapedDouble, _ => .double
  | .comment, c => if c = '\n' then .between else .comment

/-- What encloses the character behind a text. -/
def State.after (state : State) (cs : List Char) : State := cs.foldl State.next state

/-- In this state the word has these characters. Outside of words there are none. -/
def State.Fits (state : State) (word : List Char) : Prop := state.isInside = false → word = []

variable {state : State} {word : List Char}

/-- A character goes on with a word, or completes one; whatever comes behind it. -/
private theorem splitFrom_cons (fits : state.Fits word) (c : Char) :
    ∃ done word', (state.next c).Fits word' ∧ ∀ rest,
      splitFrom state word (c :: rest) = (splitFrom (state.next c) word' rest).map (done ++ ·) := by
  have goes {next : State} {word' : List Char} (fits' : next.Fits word') :
      ∃ done word'', next.Fits word'' ∧ ∀ rest,
        splitFrom next word' rest = (splitFrom next word'' rest).map (done ++ ·) :=
    ⟨[], word', fits', fun rest => by simp⟩
  have inside {next : State} (begun : next.isInside = true) (word' : List Char) :
      next.Fits word' := fun outside => by rw [begun] at outside; cases outside
  cases state with
  | bare =>
    simp only [splitFrom, State.next]
    repeat' split
    case isFalse.isFalse.isFalse.isTrue => exact ⟨[word], [], fun _ => rfl, fun rest => rfl⟩
    all_goals exact goes (inside rfl _)
  | between | escapedBetween | comment =>
    have blank : word = [] := fits rfl
    simp only [splitFrom, State.next]
    repeat' split
    all_goals first | exact goes (inside rfl _) | exact goes fun _ => blank
  | escapedBare | single | double | escapedDouble =>
    simp only [splitFrom, State.next]
    repeat' split
    all_goals exact goes (inside rfl _)

/-- **A text completes some words and leaves one unfinished**, whatever comes behind it. -/
theorem splitFrom_append (fits : state.Fits word) (cs : List Char) :
    ∃ done word', (state.after cs).Fits word' ∧ ∀ rest,
      splitFrom state word (cs ++ rest)
        = (splitFrom (state.after cs) word' rest).map (done ++ ·) := by
  induction cs generalizing state word with
  | nil => exact ⟨[], word, fits, fun rest => by simp [State.after]⟩
  | cons c cs ih =>
    obtain ⟨done, word₁, fits₁, first⟩ := splitFrom_cons fits c
    obtain ⟨more, word₂, fits₂, second⟩ := ih fits₁
    refine ⟨done ++ more, word₂, fits₂, fun rest => ?_⟩
    rw [List.cons_append, first, second, Option.map_map]
    refine congrArg (fun f => Option.map f _) (funext fun later => ?_)
    simp

/-! ## Quoted text -/

/-- The characters of a text between quotes, its own quotes taken out. -/
def enquote (cs : List Char) : List Char :=
  cs.flatMap fun c => if c = '\'' then "'\\''".toList else [c]

theorem toList_shellQuote (s : String) :
    (shellQuote s).toList = '\'' :: (enquote s.toList ++ ['\'']) := by
  simp [shellQuote, enquote]

/-- **Quoted text goes into the word as it stands.** The walk comes back to where it was, between
single quotes, after every character. -/
theorem splitFrom_enquote (cs rest : List Char) (word : List Char) :
    splitFrom .single word (enquote cs ++ rest) = splitFrom .single (word ++ cs) rest := by
  induction cs generalizing word with
  | nil => rw [List.append_nil]; rfl
  | cons c cs ih =>
    rw [enquote, List.flatMap_cons, ← enquote, List.append_assoc]
    by_cases quote : c = '\''
    · subst quote
      have taken : splitFrom .single word ("'\\''".toList ++ (enquote cs ++ rest))
          = splitFrom .single (word ++ ['\'']) (enquote cs ++ rest) := rfl
      rw [if_pos rfl, taken, ih, List.append_assoc, List.singleton_append]
    · rw [if_neg quote, List.singleton_append, splitFrom, if_neg quote, ih, List.append_assoc,
        List.singleton_append]

/-- A quoted text goes on with the word that has begun, or is a new one. -/
theorem splitFrom_quoted (begins : state = .between ∨ state = .bare) (cs rest : List Char) :
    splitFrom state word ('\'' :: (enquote cs ++ '\'' :: rest))
      = splitFrom .bare (word ++ cs) rest := by
  have opened : splitFrom state word ('\'' :: (enquote cs ++ '\'' :: rest))
      = splitFrom .single word (enquote cs ++ '\'' :: rest) := by
    rcases begins with rfl | rfl <;> rfl
  rw [opened, splitFrom_enquote]
  rfl

/-- A blank ends a word. -/
theorem splitFrom_bare_separator {c : Char} (separates : isSeparator c = true) (rest : List Char) :
    splitFrom .bare word (c :: rest) = (splitFrom .between [] rest).map (word :: ·) := by
  simp only [isSeparator, Bool.or_eq_true, beq_iff_eq] at separates
  rcases separates with (rfl | rfl) | rfl <;> rfl

/-! ## Words of a larger command -/

/-- Whether a blank ends what is going on: a word, or nothing; a comment if it ends the line. -/
def State.isEndedBy (c : Char) : State → Bool
  | .between | .bare => true
  | .comment => c == '\n'
  | .escapedBetween | .escapedBare | .single | .double | .escapedDouble => false

/-- Behind a blank that ends what is going on, splitting begins anew. -/
theorem splitFrom_isEndedBy {c : Char} (separates : isSeparator c = true) (fits : state.Fits word)
    (ends : state.isEndedBy c = true) :
    ∃ words, splitFrom state word [] = some words ∧
      ∀ rest, splitFrom state word (c :: rest)
        = (splitFrom .between [] rest).map (words ++ ·) := by
  cases state with
  | between =>
    obtain rfl := fits rfl
    exact ⟨[], rfl, fun rest => by rw [splitFrom_separator separates]; simp⟩
  | bare => exact ⟨[word], rfl, splitFrom_bare_separator separates⟩
  | comment =>
    obtain rfl := fits rfl
    obtain rfl := beq_iff_eq.mp ends
    exact ⟨[], rfl, fun rest => by rw [splitFrom, if_pos rfl]; simp⟩
  | escapedBetween | escapedBare | single | double | escapedDouble => cases ends

/-- A quoted text between blanks is a word of its own, behind what went on before. -/
def State.Separates (state : State) (word : List Char) (c d : Char) : Prop :=
  ∀ cs rest, splitFrom state word (c :: '\'' :: (enquote cs ++ '\'' :: d :: rest))
    = (splitFrom state word []).bind fun words =>
      (splitFrom .between [] rest).map fun more => words ++ cs :: more

theorem State.separates_iff {c d : Char} (first : isSeparator c = true)
    (second : isSeparator d = true) (fits : state.Fits word) :
    state.Separates word c d ↔ state.isEndedBy c = true := by
  constructor
  · intro separates
    have blanks := separates [] []
    have closes (quote : Char) := separates [] [quote]
    simp only [isSeparator, Bool.or_eq_true, beq_iff_eq] at first second
    cases state with
    | between | bare => rfl
    | comment =>
      rcases first with (rfl | rfl) | rfl
      · rcases second with (rfl | rfl) | rfl <;> cases blanks
      · rcases second with (rfl | rfl) | rfl <;> cases blanks
      · rfl
    | escapedBetween | escapedBare =>
      rcases first with (rfl | rfl) | rfl <;> rcases second with (rfl | rfl) | rfl <;>
        simp [splitFrom, enquote, isSeparator] at blanks
    | single =>
      have closes := closes '\''
      rcases first with (rfl | rfl) | rfl <;> rcases second with (rfl | rfl) | rfl <;>
        simp [splitFrom, enquote] at closes
    | double | escapedDouble =>
      have closes := closes '"'
      rcases first with (rfl | rfl) | rfl <;> rcases second with (rfl | rfl) | rfl <;>
        simp [splitFrom, enquote, isEscapable] at closes
  · intro ends cs rest
    obtain ⟨words, whole, anew⟩ := splitFrom_isEndedBy first fits ends
    rw [anew, splitFrom_quoted (.inl rfl), splitFrom_bare_separator second, whole,
      Option.bind_some, Option.map_map]
    rfl

/-- Whether a blank behind a text ends what goes on there: it leaves no quote and no backslash open,
and a comment only if the blank ends the line. -/
def isEndedBy (text : String) (c : Char) : Bool := (State.between.after text.toList).isEndedBy c

theorem split?_ofList (cs : List Char) :
    split? (String.ofList cs) = (splitFrom .between [] cs).map (·.map String.ofList) := by
  rw [split?, String.toList_ofList]

/-- **A quoted text is a word of its own in a larger command**, between blanks, if and only if the
first blank ends what goes on before it. -/
theorem separates_iff {c d : Char} (first : isSeparator c = true) (second : isSeparator d = true)
    (front : String) :
    (∀ s rest, split? (front.push c ++ (shellQuote s).push d ++ rest)
      = (split? front).bind fun words => (split? rest).map fun more => words ++ s :: more) ↔
    isEndedBy front c = true := by
  obtain ⟨done, word, fits, reads⟩ :=
    @splitFrom_append .between [] (fun _ => rfl) front.toList
  rw [isEndedBy, ← State.separates_iff first second fits]
  have whole : split? front
      = (splitFrom (State.between.after front.toList) word []).map fun words =>
        (done ++ words).map String.ofList := by
    have ended := reads []
    rw [List.append_nil] at ended
    rw [split?, ended, Option.map_map]
    rfl
  have longer (s rest : String) : split? (front.push c ++ (shellQuote s).push d ++ rest)
      = (splitFrom (State.between.after front.toList) word
          (c :: '\'' :: (enquote s.toList ++ '\'' :: d :: rest.toList))).map fun words =>
        (done ++ words).map String.ofList := by
    have behind := reads (c :: '\'' :: (enquote s.toList ++ '\'' :: d :: rest.toList))
    rw [split?]
    simp only [String.toList_append, String.toList_push, toList_shellQuote, List.append_assoc,
      List.cons_append, List.nil_append]
    rw [behind, Option.map_map]
    rfl
  -- the words as texts are the words as characters, and no two of these are the same text
  have text (cs rest : List Char) :
      (split? (front.push c ++ (shellQuote (String.ofList cs)).push d ++ String.ofList rest)
        = (split? front).bind fun words => (split? (String.ofList rest)).map fun more =>
          words ++ String.ofList cs :: more) ↔
      splitFrom (State.between.after front.toList) word
          (c :: '\'' :: (enquote cs ++ '\'' :: d :: rest))
        = (splitFrom (State.between.after front.toList) word []).bind fun words =>
          (splitFrom .between [] rest).map fun more => words ++ cs :: more := by
    have injective (first second : List (List Char))
        (same : (done ++ first).map String.ofList = (done ++ second).map String.ofList) :
        first = second :=
      List.append_cancel_left ((List.map_inj_right fun _ _ => String.ofList_injective).mp same)
    have joined : ((split? front).bind fun words =>
          (split? (String.ofList rest)).map fun more => words ++ String.ofList cs :: more)
        = ((splitFrom (State.between.after front.toList) word []).bind fun words =>
            (splitFrom .between [] rest).map fun more => words ++ cs :: more).map fun words =>
          (done ++ words).map String.ofList := by
      rw [whole, split?_ofList]
      cases splitFrom (State.between.after front.toList) word [] with
      | none => rfl
      | some words => cases splitFrom .between [] rest <;> simp
    rw [joined, longer, String.toList_ofList, String.toList_ofList,
      Option.map_inj_right injective]
  constructor
  · intro law cs rest
    exact (text cs rest).mp (law _ _)
  · intro law s rest
    have own := (text s.toList rest.toList).mpr (law _ _)
    rwa [String.ofList_toList, String.ofList_toList] at own

example : isEndedBy "echo # x" ' ' = false ∧ isEndedBy "echo # x" '\n' = true := by decide +kernel

/-- At the end of a command a quoted text is the last word. -/
theorem split?_last {c : Char} {front : String} (separates : isSeparator c = true)
    (ends : isEndedBy front c = true) (s : String) :
    split? (front.push c ++ shellQuote s) = (split? front).map (· ++ [s]) := by
  obtain ⟨done, word, fits, reads⟩ :=
    @splitFrom_append .between [] (fun _ => rfl) front.toList
  obtain ⟨words, whole, anew⟩ := splitFrom_isEndedBy separates fits ends
  have short := reads []
  have long := reads (c :: '\'' :: (enquote s.toList ++ ['\'']))
  rw [List.append_nil, whole] at short
  rw [anew, splitFrom_quoted (.inl rfl)] at long
  rw [split?, split?, String.toList_append, String.toList_push, toList_shellQuote,
    List.append_assoc, List.singleton_append, long, short]
  simp [splitFrom]

theorem split?_shellQuote (s : String) : split? (shellQuote s) = some [s] := by
  rw [split?, toList_shellQuote, splitFrom_quoted (.inl rfl)]
  simp [splitFrom]

/-- **The destination is the last word of the command that starts the receiving side**, as it
stands. -/
theorem split?_sinkCommand (spec : CopySpec) :
    split? spec.sinkCommand = some (["scp"] ++ (if spec.recursive then ["-r"] else [])
      ++ (if spec.preserve then ["-p"] else []) ++ ["-t", spec.destination]) := by
  have last (front : String) (words : List String) (ends : isEndedBy front ' ' = true)
      (split : split? front = some words) :
      split? (front ++ " " ++ shellQuote spec.destination)
        = some (words ++ [spec.destination]) := by
    have whole := split?_last rfl ends spec.destination
    rw [split] at whole
    exact whole
  obtain ⟨sources, destination, preserve, recursive⟩ := spec
  cases recursive <;> cases preserve
  · exact last "scp -t" ["scp", "-t"] (by decide +kernel) (by decide +kernel)
  · exact last "scp -p -t" ["scp", "-p", "-t"] (by decide +kernel) (by decide +kernel)
  · exact last "scp -r -t" ["scp", "-r", "-t"] (by decide +kernel) (by decide +kernel)
  · exact last "scp -r -p -t" ["scp", "-r", "-p", "-t"] (by decide +kernel) (by decide +kernel)

/-- **A quoted text is one word, and that word is the text.** This is so alone and, between any
blanks, in a larger command, where the words before and behind it are those of the text before and
behind; provided that the first blank ends what goes on before it, and only then. So the command
that starts the receiving side of a copy has these words and no others, whatever its destination
holds. -/
theorem quoted_word :
    (∀ s, split? (shellQuote s) = some [s]) ∧
    (∀ c d, isSeparator c = true → isSeparator d = true → ∀ front,
      (∀ s rest, split? (front.push c ++ (shellQuote s).push d ++ rest)
        = (split? front).bind fun words => (split? rest).map fun more => words ++ s :: more) ↔
      isEndedBy front c = true) ∧
    ∀ spec : CopySpec, split? spec.sinkCommand
      = some (["scp"] ++ (if spec.recursive then ["-r"] else [])
        ++ (if spec.preserve then ["-p"] else []) ++ ["-t", spec.destination]) :=
  ⟨split?_shellQuote, fun _ _ first second front => separates_iff first second front,
    split?_sinkCommand⟩

/-- Quotes, a backslash, a variable and a newline, behind a word in quotes and before a comment. -/
theorem quoted_word_hardText :
    isEndedBy "echo 'a b'" ' ' = true ∧
      split? ("echo 'a b' " ++ shellQuote "it's \\ \"$x\"\n" ++ "\t# done")
        = some ["echo", "a b", "it's \\ \"$x\"\n"] := by
  have ends : isEndedBy "echo 'a b'" ' ' = true := by decide +kernel
  have front : split? "echo 'a b'" = some ["echo", "a b"] := by decide +kernel
  have rest : split? "# done" = some [] := by decide +kernel
  have law := (quoted_word.2.1 ' ' '\t' rfl rfl "echo 'a b'").mpr ends "it's \\ \"$x\"\n" "# done"
  rw [front, rest] at law
  refine ⟨ends, Eq.trans (congrArg split? ?_) law⟩
  decide +kernel

end ShellWords

end Fleet
