import Fleet.Client

/-!
# What a client is started with

The words of the rendered template are the program and its first arguments, and the command for the
host is the last argument. Only a template that gives no words at all for some host leaves nothing
to be the program: then the command itself is started, here and not on the host. The check at the
start of a run looks at one rendering, and so sees this for no other host.

**The law** (`Client.launches_iff`): for every host for which the template gives words, the command
is the last argument and never the program. No words are given exactly by blank text and comments
(`ShellWords.split?_eq_nil_iff`). A template that starts with a word gives words for every host, and
the word is the program whatever the parameters of the host are.
-/

namespace Fleet

namespace ShellWords

/-! ## Text without words -/

/-- Text in which a shell finds no words. -/
inductive Wordless : List Char → Prop where
  | nil : Wordless []
  | blank {c : Char} {cs : List Char} (separates : isSeparator c = true) (rest : Wordless cs) :
      Wordless (c :: cs)
  /-- A line that goes on in the next one. -/
  | continued {cs : List Char} (rest : Wordless cs) : Wordless ('\\' :: '\n' :: cs)
  /-- A comment reaches to the end of its line. -/
  | comment {cs : List Char} (rest : Wordless (cs.dropWhile (· != '\n')).tail) :
      Wordless ('#' :: cs)

/-- Whether a word has begun. -/
def State.isInside : State → Bool
  | .bare | .escapedBare | .single | .double | .escapedDouble => true
  | .between | .escapedBetween | .comment => false

/-- A word that has begun is there in the end. -/
theorem splitFrom_inside_ne_nil {state : State} (inside : state.isInside = true)
    (word cs : List Char) : splitFrom state word cs ≠ some [] := by
  induction cs generalizing state word with
  | nil => cases state <;> simp_all [splitFrom, State.isInside]
  | cons c cs ih =>
    have ends : (splitFrom .between [] cs).map (word :: ·) ≠ some [] := by
      cases splitFrom .between [] cs <;> exact fun no => by cases no
    cases state with
    | between | escapedBetween | comment => cases inside
    | bare =>
      rw [splitFrom]
      repeat' split
      all_goals first | exact ends | exact ih rfl _
    | escapedBare | single | double | escapedDouble =>
      rw [splitFrom]
      repeat' split
      all_goals exact ih rfl _

/-- What was read without beginning a word, as far as it matters for what follows. -/
def State.front : State → List Char
  | .escapedBetween => ['\\']
  | .comment => ['#']
  | _ => []

theorem wordless_of_splitFrom {state : State} {word cs : List Char}
    (empty : splitFrom state word cs = some []) : Wordless (state.front ++ cs) := by
  induction cs generalizing state word with
  | nil =>
    cases state with
    | between => exact .nil
    | comment => exact .comment .nil
    | _ => simp [splitFrom] at empty
  | cons c cs ih =>
    have unbegun {state : State} {word : List Char} (begun : state.isInside = true)
        (empty : splitFrom state word cs = some []) : False :=
      splitFrom_inside_ne_nil begun word cs empty
    cases state with
    | between =>
      rw [splitFrom] at empty
      split at empty
      · exact (unbegun rfl empty).elim
      split at empty
      · exact (unbegun rfl empty).elim
      split at empty
      · next backslash => exact backslash ▸ ih empty
      split at empty
      · next separates => exact .blank separates (ih empty)
      split at empty
      · next hash => exact hash ▸ ih empty
      · exact (unbegun rfl empty).elim
    | escapedBetween =>
      rw [splitFrom] at empty
      split at empty
      · next newline => exact newline ▸ .continued (ih empty)
      · exact (unbegun rfl empty).elim
    | comment =>
      rw [splitFrom] at empty
      split at empty
      · next newline => exact newline ▸ .comment (ih empty)
      · next goes_on =>
        have rest : Wordless ('#' :: cs) := ih empty
        cases rest with
        | blank separates => cases separates
        | comment rest =>
          refine .comment ?_
          show Wordless (List.dropWhile (· != '\n') (c :: cs)).tail
          rw [List.dropWhile_cons, if_pos (bne_iff_ne.mpr goes_on)]
          exact rest
    | bare | escapedBare | single | double | escapedDouble =>
      exact (splitFrom_inside_ne_nil rfl word _ empty).elim

theorem splitFrom_comment (word cs : List Char) : splitFrom .comment word cs
    = splitFrom .between word (cs.dropWhile (· != '\n')).tail := by
  induction cs with
  | nil => rfl
  | cons c cs ih =>
    rw [splitFrom, List.dropWhile_cons]
    by_cases newline : c = '\n'
    · rw [if_pos newline, if_neg (by simp [newline]), List.tail_cons]
    · rw [if_neg newline, if_pos (bne_iff_ne.mpr newline), ih]

theorem splitFrom_separator {c : Char} (separates : isSeparator c = true) (word cs : List Char) :
    splitFrom .between word (c :: cs) = splitFrom .between word cs := by
  simp only [isSeparator, Bool.or_eq_true, beq_iff_eq] at separates
  rcases separates with (rfl | rfl) | rfl <;> rfl

/-- **A shell finds no words exactly in blank text and comments.** -/
theorem split?_eq_nil_iff {command : String} :
    split? command = some [] ↔ Wordless command.toList := by
  have texts : split? command = some [] ↔ splitFrom .between [] command.toList = some [] := by
    unfold split?
    cases splitFrom .between [] command.toList <;> simp
  rw [texts]
  generalize command.toList = cs
  refine ⟨wordless_of_splitFrom, fun wordless => ?_⟩
  induction wordless with
  | nil => rfl
  | blank separates _ ih => exact (splitFrom_separator separates [] _).trans ih
  | continued _ ih => exact ih
  | comment _ ih => exact (splitFrom_comment [] _).trans ih

/-! ## The first word -/

/-- Whether a character inside a word stands for itself. -/
def isPlain (c : Char) : Bool := c != '\'' && c != '"' && c != '\\' && !isSeparator c

/-- Whether a word is written without quotes and backslashes, and does not begin a comment. -/
def isPlainWord (word : List Char) : Bool := word.head?.any (· != '#') && word.all isPlain

theorem isPlain_iff {c : Char} : isPlain c = true ↔
    c ≠ '\'' ∧ c ≠ '"' ∧ c ≠ '\\' ∧ isSeparator c = false := by
  simp [isPlain, and_assoc]

theorem splitFrom_bare_append {taken : List Char} (plain : taken.all isPlain = true)
    (word cs : List Char) :
    splitFrom .bare word (taken ++ cs) = splitFrom .bare (word ++ taken) cs := by
  induction taken generalizing word with
  | nil => rw [List.nil_append, List.append_nil]
  | cons c taken ih =>
    obtain ⟨first, rest⟩ := Bool.and_eq_true_iff.mp plain
    obtain ⟨single, double, backslash, within⟩ := isPlain_iff.mp first
    rw [List.cons_append, splitFrom, if_neg single, if_neg double, if_neg backslash,
      if_neg (Bool.eq_false_iff.mp within), ih rest, List.append_assoc, List.singleton_append]

/-- **A plain word at the front is the first word**, whatever comes behind the blank. -/
theorem splitFrom_word {word : List Char} {c : Char} (plain : isPlainWord word = true)
    (separates : isSeparator c = true) (cs : List Char) :
    splitFrom .between [] (word ++ c :: cs) = (splitFrom .between [] cs).map (word :: ·) := by
  obtain ⟨begins, plain⟩ := Bool.and_eq_true_iff.mp plain
  cases word with
  | nil => cases begins
  | cons d word =>
    obtain ⟨first, rest⟩ := Bool.and_eq_true_iff.mp plain
    obtain ⟨single, double, backslash, within⟩ := isPlain_iff.mp first
    have hash : d ≠ '#' := bne_iff_ne.mp begins
    rw [List.cons_append, splitFrom, if_neg single, if_neg double, if_neg backslash,
      if_neg (Bool.eq_false_iff.mp within), if_neg hash, splitFrom_bare_append rest]
    simp only [isSeparator, Bool.or_eq_true, beq_iff_eq] at separates
    rcases separates with (rfl | rfl) | rfl <;> rfl

/-- Whether a character begins a word, whatever comes behind it. -/
def beginsWord (c : Char) : Bool := c != '#' && c != '\\' && !isSeparator c

/-- Text that begins with a word has one. -/
theorem not_wordless {c : Char} {cs : List Char} (begins : beginsWord c = true) :
    ¬ Wordless (c :: cs) := by
  intro wordless
  cases wordless with
  | blank separates => simp [beginsWord, separates] at begins
  | continued | comment => cases begins

theorem Wordless.drop_blanks {blanks cs : List Char} (blank : blanks.all isSeparator = true)
    (wordless : Wordless (blanks ++ cs)) : Wordless cs := by
  induction blanks with
  | nil => exact wordless
  | cons c blanks ih =>
    obtain ⟨first, rest⟩ := Bool.and_eq_true_iff.mp blank
    rw [List.cons_append] at wordless
    generalize behind : blanks ++ cs = text at wordless
    cases wordless with
    | blank _ wordless => exact ih rest (behind ▸ wordless)
    | continued | comment => cases first

theorem splitFrom_blanks {blanks : List Char} (blank : blanks.all isSeparator = true)
    (cs : List Char) : splitFrom .between [] (blanks ++ cs) = splitFrom .between [] cs := by
  induction blanks with
  | nil => rfl
  | cons c blanks ih =>
    obtain ⟨first, rest⟩ := Bool.and_eq_true_iff.mp blank
    exact (splitFrom_separator first [] _).trans (ih rest)

end ShellWords

/-! ## Command lines -/

namespace CommandTemplate

/-- The text with which every rendering begins. -/
def opening (template : CommandTemplate) : List Char :=
  match template.elements with
  | .text cs :: _ => cs
  | _ => []

/-- It begins with a word for every host. -/
def BeginsWord (template : CommandTemplate) : Prop :=
  ∃ blanks c more, blanks.all ShellWords.isSeparator = true ∧ ShellWords.beginsWord c = true ∧
    template.opening = blanks ++ c :: more

/-- It begins with a whole word that is plain, the name of a program. -/
def NamesProgram (template : CommandTemplate) (program : String) : Prop :=
  ∃ blanks c more, blanks.all ShellWords.isSeparator = true ∧
    ShellWords.isPlainWord program.toList = true ∧ ShellWords.isSeparator c = true ∧
    template.opening = blanks ++ program.toList ++ c :: more

theorem exists_of_render {template : CommandTemplate} {params : TemplateParams} {text : String}
    (rendered : template.render params = .ok text) :
    ∃ rest, text.toList = template.opening ++ rest := by
  unfold opening
  split
  · next cs rest first =>
    rw [render, first, Template.renderAll, Template.Element.render] at rendered
    cases later : Template.renderAll (.ofRoot params.toValue) rest with
    | error fault => rw [later] at rendered; cases rendered
    | ok more =>
      rw [later] at rendered
      cases rendered
      exact ⟨more, String.toList_ofList⟩
  · exact ⟨_, rfl⟩

end CommandTemplate

namespace Client

variable {client : Client} {request : OpenRequest}

/-- The words that the template gives for a host. -/
def words (client : Client) (request : OpenRequest) : Except SpawnFault (List String) :=
  match client.template.render (params request) with
  | .error fault => .error (.template client.template.source fault)
  | .ok text => (ShellWords.split? text).elim (.error .unclosedQuote) .ok

/-- What is started for a host is the first word, with the others and at last the command as it
stands as its arguments; without words nothing is started. -/
def Launches (client : Client) (request : OpenRequest) : Prop :=
  ∀ start earlier,
    match client.words request with
    | .ok (program :: words) =>
      (client.backend start).attempt earlier request
        = start earlier request program (words ++ [request.command])
    | _ => ∃ fault,
      ((client.backend start).attempt earlier request).opening = .refused (.spawn fault)

theorem attempt_eq (start : List OpenRequest → OpenRequest → String → List String → Attempt)
    (earlier : List OpenRequest) : (client.backend start).attempt earlier request =
      match client.words request with
      | .error fault => { delay := some 0, opening := .refused (.spawn fault) }
      | .ok [] => start earlier request request.command []
      | .ok (program :: words) => start earlier request program (words ++ [request.command]) := by
  simp only [backend, commandLine, words]
  cases client.template.render (params request) with
  | error fault => rfl
  | ok text =>
    dsimp only
    cases ShellWords.split? text with
    | none => rfl
    | some words => cases words <;> rfl

theorem launches_iff : client.Launches request ↔ client.words request ≠ .ok [] := by
  constructor
  · intro launches empty
    have refused := launches (fun _ _ _ _ => ⟨none, .crash⟩) []
    rw [attempt_eq, empty] at refused
    obtain ⟨fault, no⟩ := refused
    cases no
  · intro some_words start earlier
    rw [attempt_eq]
    cases here : client.words request with
    | error fault => exact ⟨fault, rfl⟩
    | ok words =>
      cases words with
      | nil => exact absurd here some_words
      | cons program words => rfl

theorem words_eq_nil_iff : client.words request = .ok [] ↔
    ∃ text, client.template.render (params request) = .ok text ∧
      ShellWords.Wordless text.toList := by
  unfold words
  cases rendered : client.template.render (params request) with
  | error fault => simp
  | ok text =>
    simp only [Except.ok.injEq, exists_eq_left', ← ShellWords.split?_eq_nil_iff]
    cases ShellWords.split? text <;> simp

/-- A template that begins with a character of a word gives words for every host. -/
theorem words_ne_nil (begins : client.template.BeginsWord) (request : OpenRequest) :
    client.words request ≠ .ok [] := by
  intro empty
  obtain ⟨text, rendered, wordless⟩ := words_eq_nil_iff.mp empty
  obtain ⟨rest, same⟩ := CommandTemplate.exists_of_render rendered
  obtain ⟨blanks, c, more, blank, begins, opening⟩ := begins
  rw [same, opening, List.append_assoc, List.cons_append] at wordless
  exact ShellWords.not_wordless begins (wordless.drop_blanks blank)

/-- **The program is the plain word with which the template begins**, whatever the parameters of the
host are. -/
theorem program_of_opening {program : String} {words : List String}
    (named : client.template.NamesProgram program) (given : client.words request = .ok words) :
    words.head? = some program := by
  obtain ⟨blanks, c, more, blank, plain, separates, opening⟩ := named
  unfold Client.words at given
  split at given
  · cases given
  · next text rendered =>
    obtain ⟨rest, same⟩ := CommandTemplate.exists_of_render rendered
    have split : ShellWords.split? text
        = (ShellWords.splitFrom .between [] (more ++ rest)).map
          fun later => program :: later.map String.ofList := by
      unfold ShellWords.split?
      rw [same, opening, List.append_assoc, List.append_assoc, List.cons_append,
        ShellWords.splitFrom_blanks blank, ShellWords.splitFrom_word plain separates,
        Option.map_map]
      refine congrArg (fun f => Option.map f _) (funext fun later => ?_)
      simp
    rw [split] at given
    cases later : ShellWords.splitFrom .between [] (more ++ rest) with
    | none => rw [later] at given; cases given
    | some later' => rw [later] at given; cases given; rfl

/-- The check at the start of a run is good for hosts like the one that it makes up. -/
theorem launches_of_init {options : Options} (accepted : client.init options = .ok ())
    (sampled : params request = probe options) : client.Launches request := by
  refine launches_iff.mpr fun empty => ?_
  obtain ⟨text, rendered, wordless⟩ := words_eq_nil_iff.mp empty
  rw [sampled] at rendered
  unfold init at accepted
  rw [rendered] at accepted
  dsimp only at accepted
  rw [ShellWords.split?_eq_nil_iff.mpr wordless] at accepted
  cases accepted

/-- **The command for the host is the last argument of the program that the template names.** This
holds for a host exactly if the template gives words for it. Where the rendering is blank but for
comments, the command itself is started. A template that begins with a word gives words for every
host, and if the word is plain, it is the program, whatever the parameters of the host are; the
check at the start of a run is good for the host that it makes up. -/
theorem command_last (client : Client) :
    (∀ request, client.Launches request ↔ client.words request ≠ .ok []) ∧
    (∀ request, client.words request = .ok [] →
      (∃ text, client.template.render (params request) = .ok text ∧
        ShellWords.Wordless text.toList) ∧
      ∀ start earlier, (client.backend start).attempt earlier request
        = start earlier request request.command []) ∧
    (client.template.BeginsWord → ∀ request, client.Launches request) ∧
    (∀ program, client.template.NamesProgram program → ∀ request,
      client.Launches request ∧
        ∀ words, client.words request = .ok words → words.head? = some program) ∧
    ∀ options request, client.init options = .ok () → params request = probe options →
      client.Launches request := by
  refine ⟨fun request => launches_iff, fun request empty => ⟨words_eq_nil_iff.mp empty, ?_⟩,
    fun begins request => launches_iff.mpr (words_ne_nil begins request),
    fun program named request => ⟨launches_iff.mpr fun empty => ?_, fun words given =>
      program_of_opening named given⟩,
    fun options request accepted sampled => launches_of_init accepted sampled⟩
  · intro start earlier
    rw [attempt_eq, empty]
  · cases program_of_opening named empty

theorem parse_of_isSome {source : String} (lockstep : Bool)
    (read : (Template.elements? source.toList).isSome = true) : Client.parse source lockstep
      = .ok ⟨⟨source, (Template.elements? source.toList).get read⟩, lockstep⟩ := by
  unfold Client.parse
  rw [CommandTemplate.parse_of_isSome read]
  rfl

/-- The client of the secure shell is started as such for every host and every user. -/
theorem command_last_secureShell : ∃ client,
    Client.parse "ssh -oBatchMode=yes -l \x7b\x7buser\x7d\x7d \x7b\x7bhost\x7d\x7d" false
      = .ok client ∧
      ∀ request, client.Launches request ∧
        ∀ words, client.words request = .ok words → words.head? = some "ssh" := by
  refine ⟨_, parse_of_isSome false (by decide +kernel), ?_⟩
  refine (command_last _).2.2.2.1 "ssh" ⟨[], ' ', "-oBatchMode=yes -l ".toList, rfl, ?_⟩
  decide +kernel

/-- A template with which the check at the start of a run is content gives no words for the second
of two hosts. The command for this host is started here. -/
theorem command_last_fails :
    ¬ ∀ source lockstep options client, Client.parse source lockstep = .ok client →
      client.init options = .ok () → ∀ request, client.Launches request := by
  intro launches
  have eq_ok {ε α : Type} {outcome : Except ε α} {a : α} (some_a : outcome.toOption = some a) :
      outcome = .ok a := by
    cases outcome with
    | error => cases some_a
    | ok => cases some_a; rfl
  simp only [launches_iff] at launches
  refine launches "\x7b\x7b#unless rank\x7d\x7dsh -c\x7b\x7b/unless\x7d\x7d" false
    { localUser := "u" } _
    (parse_of_isSome false (by decide +kernel)) (eq_ok (by decide +kernel))
    { host := "b", address := none, localUser := "u", remoteUser := "u", command := "reboot"
      nodeIndex := 1, nhosts := 2, wantErrorChannel := true, wantInput := false } (eq_ok ?_)
  decide +kernel

end Client

end Fleet
