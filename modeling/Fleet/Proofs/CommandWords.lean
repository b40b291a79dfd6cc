import Fleet.Proofs.Passes

/-!
# Words of a command

Options come before the action, and behind `exec` comes the command. Which words are options is
settled by what comes before them: a relation tells what words are taken for options (`Takes`), and
a command line is read exactly if options lead up to an action that can be read
(`readFrom_eq_ok_iff`). Of what belongs to `exec` only the first word is looked at (`Opens`).

**The law** (`CommandLine.words_taken`): where one word is read as the command, any further words
are read as the rest of it, whatever they look like, and all else stays as it is.
-/

namespace Fleet

namespace CommandLine

/-! ## Options -/

/-- `Takes draft pending words draft' pending'`: all these words are options or values of options,
and with them the first draft becomes the second one. -/
inductive Takes : Draft → Pending → List String → Draft → Pending → Prop where
  | none {draft : Draft} {pending : Pending} : Takes draft pending [] draft pending
  /-- A long option. -/
  | long {draft next last : Draft} {pending pending' ending : Pending} {word name : String}
      {value : Option String} {switch : Switch} {words : List String}
      (shaped : shape word = .long name value) (known : Switch.ofName? name = some switch)
      (taken : take draft pending switch value = .ok (next, pending'))
      (rest : Takes next pending' words last ending) :
      Takes draft pending (word :: words) last ending
  /-- Options of letters. -/
  | letters {draft next last : Draft} {pending pending' ending : Pending} {word : String}
      {letters : List Char} {words : List String} (shaped : shape word = .letters letters)
      (taken : takeLetters draft pending letters = .ok (next, pending'))
      (rest : Takes next pending' words last ending) :
      Takes draft pending (word :: words) last ending
  /-- The value of the option before. -/
  | value {draft last : Draft} {setting : Setting} {ending : Pending} {word : String}
      {words : List String} (shaped : shape word = .plain)
      (rest : Takes draft (.unjudged setting word) words last ending) :
      Takes draft (.awaiting setting) (word :: words) last ending

/-- The options so far are complete and come to these settings. -/
def Settles (draft : Draft) (pending : Pending) (config : Config) : Prop :=
  ∃ final, settle draft pending = .ok final ∧ final.config = config

variable {draft last : Draft} {pending ending : Pending} {config : Config} {action : Action}
  {name word : String} {options rest words : List String}

/-- The name of an action ends the options. -/
theorem readFrom_action (known : name ∈ actions) (settles : Settles draft pending config)
    (read : readAction name rest = .ok action) :
    readFrom draft pending (name :: rest) = .ok (config, action) := by
  obtain ⟨final, settled, rfl⟩ := settles
  have plain : shape name = .plain := by
    have all : ∀ name ∈ actions, shape name = .plain := by decide +kernel
    exact all name known
  have listed : actions.contains name = true := List.contains_iff_mem.mpr known
  rw [readFrom.eq_def]
  cases pending with
  | awaiting setting => cases settled
  | none =>
    simp only [plain, if_pos listed, read, settled]
    rfl
  | unjudged setting value =>
    simp only [plain, if_pos listed, read, settled]
    rfl

/-- Options are taken before what follows them is looked at. -/
theorem Takes.readFrom (takes : Takes draft pending options last ending) :
    readFrom draft pending (options ++ words) = CommandLine.readFrom last ending words := by
  induction takes with
  | none => rfl
  | long shaped known taken _ ih =>
    rw [List.cons_append, CommandLine.readFrom.eq_def]
    simp only [shaped, known, taken]
    exact ih
  | letters shaped taken _ ih =>
    rw [List.cons_append, CommandLine.readFrom.eq_def]
    simp only [shaped, taken]
    exact ih
  | value shaped _ ih =>
    rw [List.cons_append, CommandLine.readFrom.eq_def]
    simp only [shaped]
    exact ih

/-- Behind a divider there is no action. -/
theorem readDivided_ne_ok : readDivided draft pending words ≠ .ok (config, action) := by
  cases words with
  | nil =>
    intro read
    obtain ⟨_, -, fault⟩ := andThen_eq_ok.mp read
    cases fault
  | cons word words => exact fun read => by cases read

/-- What is read has options first and then an action. -/
theorem exists_of_readFrom (read : readFrom draft pending words = .ok (config, action)) :
    ∃ options name rest last ending, words = options ++ name :: rest ∧
      Takes draft pending options last ending ∧ name ∈ actions ∧ Settles last ending config ∧
      readAction name rest = .ok action := by
  induction words generalizing draft pending with
  | nil =>
    obtain ⟨_, -, fault⟩ := andThen_eq_ok.mp read
    cases fault
  | cons word words ih =>
    rw [readFrom.eq_def] at read
    simp only at read
    split at read
    · -- a divider ends the options, and no action is read behind it
      exact absurd read readDivided_ne_ok
    · next name value shaped =>
      split at read
      · cases read
      · next switch known =>
        obtain ⟨⟨next, pending'⟩, taken, read⟩ := andThen_eq_ok.mp read
        obtain ⟨options, name, rest, last, ending, rfl, takes, facts⟩ := ih read
        exact ⟨word :: options, name, rest, last, ending, rfl, .long shaped known taken takes,
          facts⟩
    · next letters shaped =>
      obtain ⟨⟨next, pending'⟩, taken, read⟩ := andThen_eq_ok.mp read
      obtain ⟨options, name, rest, last, ending, rfl, takes, facts⟩ := ih read
      exact ⟨word :: options, name, rest, last, ending, rfl, .letters shaped taken takes, facts⟩
    · next setting shaped =>
      obtain ⟨options, name, rest, last, ending, rfl, takes, facts⟩ := ih read
      exact ⟨word :: options, name, rest, last, ending, rfl, .value shaped takes, facts⟩
    · split at read
      · next listed =>
        obtain ⟨_, read, settles⟩ := andThen_eq_ok.mp read
        obtain ⟨final, settled, both⟩ := andThen_eq_ok.mp settles
        cases both
        exact ⟨[], word, words, draft, _, rfl, .none, List.contains_iff_mem.mp listed,
          ⟨final, settled, rfl⟩, read⟩
      · cases read

/-- **A command line is read exactly if options lead up to an action.** -/
theorem readFrom_eq_ok_iff : readFrom draft pending words = .ok (config, action) ↔
    ∃ options name rest last ending, words = options ++ name :: rest ∧
      Takes draft pending options last ending ∧ name ∈ actions ∧ Settles last ending config ∧
      readAction name rest = .ok action := by
  refine ⟨exists_of_readFrom, ?_⟩
  rintro ⟨options, name, rest, last, ending, rfl, takes, known, settles, read⟩
  rw [takes.readFrom]
  exact readFrom_action known settles read

/-! ## The command -/

/-- A word with which a command can open: no divider, and no question for help. -/
structure Opens (word : String) : Prop where
  not_divider : shape word ≠ .divider
  not_help : ∀ value, shape word ≠ .long "help" value
  not_letter : ∀ letters, shape word = .letters letters → letters.all (· == 'h') = false

theorem shape_eq_divider_iff : shape word = .divider ↔ word = "--" := by
  constructor
  · intro shaped
    unfold shape at shaped
    split at shaped
    · next whole => exact String.toList_inj.mp whole
    · unfold splitValue at shaped
      split at shaped <;> cases shaped
    · cases shaped
    · cases shaped
  · rintro rfl
    decide +kernel

theorem Opens.readExec (opens : Opens word) (rest : List String) :
    readExec (word :: rest) = .ok (.exec (word :: rest)) := by
  rw [CommandLine.readExec.eq_def]
  simp only
  split
  · next shaped => exact absurd shaped opens.not_divider
  · next shaped => exact absurd shaped (opens.not_help none)
  · next value shaped => exact absurd shaped (opens.not_help (some value))
  · next letters shaped =>
    rw [opens.not_letter letters shaped]
    rfl
  · rfl

/-- **Only the first word of a command is looked at**: it opens the command, or a divider comes
before it. -/
theorem readExec_eq_ok_iff : readExec words = .ok action ↔
    ∃ word rest, action = .exec (word :: rest) ∧
      (words = word :: rest ∧ Opens word ∨ words = "--" :: word :: rest) := by
  constructor
  · intro read
    cases words with
    | nil => cases read
    | cons word words =>
      rw [readExec.eq_def] at read
      simp only at read
      split at read
      · next shaped =>
        split at read
        · cases read
        · next some =>
          obtain ⟨first, rest, rfl⟩ := List.exists_cons_of_ne_nil some
          exact ⟨first, rest, (Except.ok.inj read).symm,
            .inr (congrArg (· :: first :: rest) (shape_eq_divider_iff.mp shaped))⟩
      · cases read
      · cases read
      · next letters shaped =>
        split at read
        · cases read
        · next other =>
          refine ⟨word, words, (Except.ok.inj read).symm, .inl ⟨rfl, ?_, ?_, ?_⟩⟩
          · exact fun divider => by cases shaped.symm.trans divider
          · exact fun value long => by cases shaped.symm.trans long
          · intro letters' shaped'
            cases shaped.symm.trans shaped'
            exact Bool.eq_false_iff.mpr other
      · next no_divider no_help no_value no_letters =>
        refine ⟨word, words, (Except.ok.inj read).symm, .inl ⟨rfl, no_divider, ?_, ?_⟩⟩
        · intro value long
          cases value with
          | none => exact no_help long
          | some value => exact no_value value long
        · exact fun letters shaped => absurd shaped (no_letters letters)
  · rintro ⟨word, rest, rfl, ⟨rfl, opens⟩ | rfl⟩
    · exact opens.readExec rest
    · rfl

/-- What is read behind `copy` is no command. -/
theorem readCopy_ne_exec {divided : Bool} {draft : CopyDraft} :
    readCopy divided draft words ≠ .ok (.exec rest) := by
  induction words generalizing divided draft with
  | nil =>
    intro read
    rw [readCopy, CopyDraft.finish] at read
    split at read <;> cases read
  | cons word words ih =>
    intro read
    unfold readCopy at read
    split at read
    · exact ih read
    all_goals
      obtain ⟨_, -, read⟩ := andThen_eq_ok.mp read
      exact ih read

/-- A command is read behind `exec` only. -/
theorem readAction_eq_exec_iff : readAction name words = .ok (.exec rest) ↔
    name = "exec" ∧ readExec words = .ok (.exec rest) := by
  unfold readAction
  by_cases exec : name = "exec"
  · rw [if_pos exec, and_iff_right exec]
  · rw [if_neg exec]
    refine iff_of_false (fun read => ?_) fun both => exec both.1
    split at read
    · exact readCopy_ne_exec read
    · cases read

/-- Words with a space between each two. -/
theorem intercalate_cons (word : String) (words : List String) : " ".intercalate (word :: words)
    = word ++ String.join (words.map fun further => " " ++ further) := by
  induction words generalizing word with
  | nil => rw [String.intercalate_singleton, List.map_nil, String.join_nil, String.append_empty]
  | cons next words ih =>
    rw [String.intercalate_cons_cons, ih next, List.map_cons, String.join_cons]
    simp only [String.append_assoc]

/-- Two commands make first dispatches that differ in the command alone. -/
theorem first_exec {around : Surroundings} {fs : FileSystem} {user : String} :
    around.first config (.exec words) fs user
      = (around.first config (.exec rest) fs user).map fun dispatch =>
        { dispatch with payload := payload (.exec words) } := by
  have same : around.backend config (.exec words) = around.backend config (.exec rest) := rfl
  unfold Surroundings.first
  rw [same]
  cases config.resolveTargets fs with
  | error e => rfl
  | ok targets => cases around.backend config (.exec rest) <;> rfl

/-- **A command of one word takes all further words.**

Where `exec` and one word behind some other words are read as this word being the command, then
with any words behind them that command has these words too, and every setting is what it was. What
is sent to the hosts are the words with a space between each two. In any surroundings the program is
run with that, and its first dispatch is the same in all but what is sent: it has the same targets,
settings and backend, or fails in the same way. -/
theorem words_taken {before : List String}
    (taken : read (before ++ ["exec", word]) = .ok (config, .exec [word])) (words : List String) :
    read (before ++ ["exec", word] ++ words) = .ok (config, .exec (word :: words)) ∧
    payload (.exec (word :: words))
      = .command (word ++ String.join (words.map fun further => " " ++ further)) ∧
    ∀ (around : Surroundings) fs user,
      around.run (before ++ ["exec", word] ++ words) fs user
        = .ok (around.follow config (.exec (word :: words)) fs user) ∧
      around.first config (.exec (word :: words)) fs user
        = (around.first config (.exec [word]) fs user).map fun dispatch =>
          { dispatch with payload := payload (.exec (word :: words)) } := by
  obtain ⟨options, name, rest, last, ending, whole, takes, known, settles, read⟩ :=
    readFrom_eq_ok_iff.mp taken
  obtain ⟨rfl, read⟩ := readAction_eq_exec_iff.mp read
  obtain ⟨_, _, same, form⟩ := readExec_eq_ok_iff.mp read
  cases same
  have read : CommandLine.read (before ++ ["exec", word] ++ words)
      = .ok (config, .exec (word :: words)) := by
    rcases form with ⟨rfl, opens⟩ | rfl
    · obtain rfl : before = options := List.append_cancel_right whole
      refine readFrom_eq_ok_iff.mpr ⟨before, "exec", word :: words, last, ending, ?_, takes, known,
        settles, readAction_eq_exec_iff.mpr ⟨rfl, opens.readExec words⟩⟩
      rw [List.append_assoc]
      rfl
    · -- the words would have to end with `exec` and with a divider in the same place
      have split : before ++ ["exec", word] = options ++ ["exec"] ++ ["--", word] := by
        rw [whole, List.append_assoc]
        rfl
      have clash := (List.append_inj' split rfl).2
      exact absurd (List.cons.inj clash).1 (by decide)
  refine ⟨read, congrArg Payload.command (intercalate_cons word words), fun around fs user => ⟨?_, ?_⟩⟩
  · rw [Surroundings.run, read]
  · exact first_exec

/-- Words that look like options, a divider or a question for help change nothing for the hosts. -/
theorem words_taken_uname :
    read (["-w", "a,b", "-f2"] ++ ["exec", "uname"])
      = .ok ({ hosts := ["a,b"], fanout := 2 }, .exec ["uname"]) ∧
    read (["-w", "a,b", "-f2"] ++ ["exec", "uname"] ++ ["-x", "a", "--", "--help", "", "copy"])
      = .ok ({ hosts := ["a,b"], fanout := 2 },
        .exec ["uname", "-x", "a", "--", "--help", "", "copy"]) ∧
    payload (.exec ["uname", "-x", "a", "--", "--help", "", "copy"])
      = .command "uname -x a -- --help  copy" := by
  have taken : read (["-w", "a,b", "-f2"] ++ ["exec", "uname"])
      = .ok ({ hosts := ["a,b"], fanout := 2 }, .exec ["uname"]) := by rfl
  obtain ⟨read, sent, -⟩ := words_taken taken ["-x", "a", "--", "--help", "", "copy"]
  exact ⟨taken, read, sent.trans (by decide +kernel)⟩

end CommandLine

end Fleet
